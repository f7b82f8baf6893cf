import Userscript.Proofs.Cutting
import Mathlib.Data.List.TakeWhile

/-!
# Trimmed texts and whole lines

A text is its trimmed form with blanks on both sides, and no other text without blanks at its ends is left of
it. The lines of a text are cut behind its line feeds, and only so can the text be put together from lines.
-/

namespace Userscript.Text

section Trimming

variable {t core lead trail phrase : Text}

lemma exists_eq_append_trimStart (t : Text) :
    ∃ lead, (∀ c ∈ lead, isBlank c = true) ∧ t = lead ++ trimStart t :=
  ⟨t.takeWhile isBlank, fun _ => List.mem_takeWhile_imp, List.takeWhile_append_dropWhile.symm⟩

lemma exists_eq_trimEnd_append (t : Text) :
    ∃ trail, (∀ c ∈ trail, isBlank c = true) ∧ t = trimEnd t ++ trail := by
  obtain ⟨lead, hlead, ht⟩ := exists_eq_append_trimStart t.reverse
  refine ⟨lead.reverse, fun c hc => hlead c (List.mem_reverse.mp hc), ?_⟩
  apply List.reverse_injective
  rw [List.reverse_append, List.reverse_reverse]
  simpa only [trimEnd, trimStart, List.reverse_reverse] using ht

lemma exists_eq_append_trim (t : Text) :
    ∃ lead trail, (∀ c ∈ lead, isBlank c = true) ∧ (∀ c ∈ trail, isBlank c = true) ∧
      t = lead ++ (trim t ++ trail) := by
  obtain ⟨lead, hlead, ht⟩ := exists_eq_append_trimStart t
  obtain ⟨trail, htrail, hstart⟩ := exists_eq_trimEnd_append (trimStart t)
  refine ⟨lead, trail, hlead, htrail, ?_⟩
  rw [trim, ← hstart]
  exact ht

lemma trimStart_append (hlead : ∀ c ∈ lead, isBlank c = true) (t : Text) :
    trimStart (lead ++ t) = trimStart t :=
  List.dropWhile_append_of_pos hlead

lemma trimEnd_append (htrail : ∀ c ∈ trail, isBlank c = true) (t : Text) :
    trimEnd (t ++ trail) = trimEnd t := by
  unfold trimEnd
  rw [List.reverse_append, List.dropWhile_append_of_pos]
  intro c hc
  exact htrail c (List.mem_reverse.mp hc)

lemma head?_trimStart (t : Text) : ∀ c ∈ (trimStart t).head?, isBlank c = false := by
  intro c hc
  have hfirst := List.head?_dropWhile_not isBlank t
  have hhead : (t.dropWhile isBlank).head? = some c := hc
  rwa [hhead] at hfirst

lemma getLast?_trimEnd (t : Text) : ∀ c ∈ (trimEnd t).getLast?, isBlank c = false := by
  intro c hc
  rw [trimEnd, List.getLast?_reverse] at hc
  exact head?_trimStart t.reverse c hc

lemma head?_trim (t : Text) : ∀ c ∈ (trim t).head?, isBlank c = false := by
  intro c hc
  obtain ⟨rest, hrest⟩ := trimEnd_prefix (trimStart t)
  apply head?_trimStart t c
  rw [← hrest, List.head?_append, ← trim, hc]
  rfl

lemma getLast?_trim (t : Text) : ∀ c ∈ (trim t).getLast?, isBlank c = false :=
  getLast?_trimEnd (trimStart t)

/-- Blanks around a text without blanks at its ends are all that is trimmed away from it. -/
theorem trim_eq_iff (hhead : ∀ c ∈ core.head?, isBlank c = false)
    (hlast : ∀ c ∈ core.getLast?, isBlank c = false) :
    trim t = core ↔ ∃ lead trail, (∀ c ∈ lead, isBlank c = true) ∧
      (∀ c ∈ trail, isBlank c = true) ∧ t = lead ++ (core ++ trail) := by
  constructor
  · rintro rfl
    exact exists_eq_append_trim t
  · rintro ⟨lead, trail, hlead, htrail, rfl⟩
    rw [trim, trimStart_append hlead]
    cases core with
    | nil =>
      have hnone : trimStart trail = [] := List.dropWhile_eq_nil_iff.mpr htrail
      rw [List.nil_append, hnone]
      rfl
    | cons c core =>
      have hstart : trimStart (c :: core ++ trail) = c :: core ++ trail :=
        trimStart_of_head? hhead
      rw [hstart, trimEnd_append htrail, trimEnd_of_getLast? hlast]

lemma trim_eq_nil_iff : trim t = [] ↔ ∀ c ∈ t, isBlank c = true := by
  rw [trim_eq_iff (by simp) (by simp)]
  constructor
  · rintro ⟨lead, trail, hlead, htrail, rfl⟩
    exact List.forall_mem_append.mpr ⟨hlead, htrail⟩
  · intro h
    exact ⟨t, [], h, by simp, by simp⟩

lemma trim_append (htrail : ∀ c ∈ trail, isBlank c = true) (t : Text) : trim (t ++ trail) = trim t := by
  obtain ⟨start, stop, hstart, hstop, ht⟩ := exists_eq_append_trim t
  rw [trim_eq_iff (head?_trim t) (getLast?_trim t)]
  refine ⟨start, stop ++ trail, hstart, List.forall_mem_append.mpr ⟨hstop, htrail⟩, ?_⟩
  conv_lhs => rw [ht]
  simp only [List.append_assoc]

lemma prefix_trimEnd_iff (hlast : ∀ c ∈ phrase.getLast?, isBlank c = false) :
    phrase <+: trimEnd t ↔ phrase <+: t := by
  constructor
  · intro h
    exact h.trans <| trimEnd_prefix t
  · rintro ⟨rest, rfl⟩
    obtain ⟨trail, htrail, hrest⟩ := exists_eq_trimEnd_append rest
    have hlast : ∀ c ∈ (phrase ++ trimEnd rest).getLast?, isBlank c = false := by
      by_cases hempty : trimEnd rest = []
      · rwa [hempty, List.append_nil]
      · rw [List.getLast?_append_of_ne_nil _ hempty]
        exact getLast?_trimEnd rest
    rw [hrest, ← List.append_assoc, trimEnd_append htrail, trimEnd_of_getLast? hlast]
    exact List.prefix_append phrase _

end Trimming

/-- Lines that a text can be put together from: each ends with its only line feed, but for the last one, which
may have none. -/
inductive AreLines : List Text → Prop where
  | nil : AreLines []
  | last {line : Text} (hne : line ≠ []) (hfeed : '\n' ∉ line) : AreLines [line]
  | cons {line : Text} {rest : List Text} (hfeed : '\n' ∉ line) (hrest : AreLines rest) :
    AreLines ((line ++ ['\n']) :: rest)

structure LinesOf (t : Text) (ls : List Text) : Prop where
  eq_flatten : t = ls.flatten
  areLines : AreLines ls

lemma rawLines_flatten_of_areLines {ls : List Text} (h : AreLines ls) : rawLines ls.flatten = ls := by
  induction h with
  | nil => rfl
  | @last line hne hfeed =>
    rw [List.flatten_singleton]
    induction line with
    | nil => exact absurd rfl hne
    | cons c line ih =>
      obtain ⟨hc, hline⟩ := List.ne_and_not_mem_of_not_mem_cons hfeed
      cases line with
      | nil => rw [rawLines, if_neg (Ne.symm hc), rawLines]
      | cons d line => exact rawLines_cons (Ne.symm hc) (ih (List.cons_ne_nil d line) hline)
  | @cons line rest hfeed _ ih =>
    rw [List.flatten_cons, List.append_assoc, List.singleton_append, rawLines_line hfeed, ih]

lemma linesOf_rawLines (t : Text) : LinesOf t (rawLines t) := by
  induction t with
  | nil => exact ⟨rfl, .nil⟩
  | cons c t ih =>
    by_cases hc : c = '\n'
    · subst hc
      have hempty : '\n' ∉ ([] : Text) := List.not_mem_nil
      rw [rawLines_feed]
      exact ⟨congrArg _ ih.eq_flatten, .cons hempty ih.areLines⟩
    · cases hlines : rawLines t with
      | nil =>
        rw [hlines] at ih
        rw [rawLines, if_neg hc, hlines, ih.eq_flatten]
        exact ⟨rfl, .last (List.cons_ne_nil c []) (by simpa using Ne.symm hc)⟩
      | cons line rest =>
        rw [hlines] at ih
        rw [rawLines_cons hc hlines]
        refine ⟨congrArg _ ih.eq_flatten, ?_⟩
        -- The character goes to the front of the first line, which is the last one or not.
        cases ih.areLines with
        | last hne hfeed =>
          exact .last (List.cons_ne_nil c _) (List.not_mem_cons_of_ne_of_not_mem (Ne.symm hc) hfeed)
        | cons hfeed hrest =>
          exact .cons (List.not_mem_cons_of_ne_of_not_mem (Ne.symm hc) hfeed) hrest

/-- There is one way only to put a text together from lines. -/
theorem linesOf_iff {t : Text} {ls : List Text} : LinesOf t ls ↔ rawLines t = ls := by
  constructor
  · intro h
    rw [h.eq_flatten]
    exact rawLines_flatten_of_areLines h.areLines
  · rintro rfl
    exact linesOf_rawLines t

def IsLine (line : Text) : Prop := '\n' ∉ line ∨ ∃ body, '\n' ∉ body ∧ line = body ++ ['\n']

lemma AreLines.isLine_of_mem {ls : List Text} (h : AreLines ls) {line : Text} (hline : line ∈ ls) :
    IsLine line := by
  induction h with
  | nil => exact absurd hline List.not_mem_nil
  | last _ hfeed =>
    rw [List.mem_singleton.mp hline]
    exact .inl hfeed
  | cons hfeed _ ih =>
    rcases List.mem_cons.mp hline with rfl | hrest
    · exact .inr ⟨_, hfeed, rfl⟩
    · exact ih hrest

lemma isLine_of_mem_rawLines {t line : Text} (h : line ∈ rawLines t) : IsLine line :=
  (linesOf_rawLines t).areLines.isLine_of_mem h

lemma lineBody_return (body : Text) : lineBody (body ++ ['\r', '\n']) = body := by
  simp [lineBody]

lemma lineBody_of_not_mem {line : Text} (h : '\n' ∉ line) : lineBody line = line := by
  unfold lineBody
  split
  · rename_i hreverse
    exact absurd (List.mem_reverse.mp (hreverse ▸ List.mem_cons_self)) h
  · rename_i hreverse
    exact absurd (List.mem_reverse.mp (hreverse ▸ List.mem_cons_self)) h
  · rfl

lemma eq_lineBody_append (body : Text) :
    body = lineBody (body ++ ['\n']) ∨ body = lineBody (body ++ ['\n']) ++ ['\r'] := by
  by_cases hreturn : body.getLast? = some '\r'
  · obtain ⟨start, rfl⟩ := List.getLast?_eq_some_iff.mp hreturn
    rw [List.append_assoc, List.singleton_append, lineBody_return]
    exact .inr rfl
  · exact .inl (lineBody_feed hreturn).symm

lemma feed_not_mem_of_mem_lines {t line : Text} (h : line ∈ lines t) : '\n' ∉ line := by
  obtain ⟨raw, hraw, rfl⟩ := List.mem_map.mp h
  rcases isLine_of_mem_rawLines hraw with hfeed | ⟨body, hfeed, rfl⟩
  · rwa [lineBody_of_not_mem hfeed]
  · intro hmem
    rcases eq_lineBody_append body with hbody | hbody
    · exact hfeed (hbody ▸ hmem)
    · exact hfeed (hbody ▸ List.mem_append_left _ hmem)

end Userscript.Text
