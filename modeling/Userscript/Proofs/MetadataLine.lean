import Userscript.Metadata.Block
import Userscript.Proofs.JoinedExpressions
import Userscript.Proofs.PreferredMatch
import Userscript.Proofs.Trimming

/-!
# Lines with a tag

A line `// @tag value` is read back as the tag and the value that it was written for, and a line `// @tag` as a
flag. The tag may hold anything but blanks; the value may hold anything but a line feed as long as no blank
stands at either end of it.
-/

namespace Userscript.Metadata

open Regex

def frontPieces : List Piece := [
  { regex := look .textStart, depth := 0 }, { regex := rep 0 none true (chars .blank), depth := 1 },
  { regex := chars (.single '/'), depth := 0 }, { regex := chars (.single '/'), depth := 0 },
  { regex := rep 0 none true (chars .blank), depth := 1 },
  { regex := chars (.single '@'), depth := 0 }]

def tagPart : Regex := capture (some "tag".toList) (rep 1 none true (chars (.compl .blank)))

def valuePart : Regex :=
  rep 0 (some 1) true (cat (rep 1 none true (chars .blank))
    (rep 0 (some 1) true (capture (some "value".toList)
      (cat (chars (.compl .blank)) (rep 0 none true (chars (.compl (.single '\n'))))))))

def linePieces : List Piece :=
  frontPieces ++ [{ regex := tagPart, depth := 2 }, { regex := valuePart, depth := 7 },
    { regex := look .textEnd, depth := 0 }]

def lineState (n : Nat) (names : List Text) : State where
  names := names
  level := { pieces := (linePieces.take n).reverse }

lemma read_front (u : Text) :
    read {} {} (['^', '\\', 's', '*', '/', '/', '\\', 's', '*', '@'] ++ u) =
      read {} (lineState 6 []) u := by
  -- One rewriting for each step of the reader: an escape is read with its letter, all else alone.
  simp only [List.cons_append, List.nil_append]
  rw [read_of_step {} rfl rfl (Nat.le_refl _), read_of_step {} rfl rfl (by simp),
    read_repeated {} rfl rfl rfl rfl (by simp), read_of_step {} rfl rfl (Nat.le_refl _),
    read_of_step {} rfl rfl (Nat.le_refl _), read_of_step {} rfl rfl (by simp),
    read_repeated {} rfl rfl rfl rfl (by simp), read_of_step {} rfl rfl (Nat.le_refl _)]
  rfl

lemma read_tag (u : Text) :
    read {} (lineState 6 []) (['(', '?', 'P', '<', 't', 'a', 'g', '>', '\\', 'S', '+', ')'] ++ u) =
      read {} (lineState 7 ["tag".toList]) u := by
  simp only [List.cons_append, List.nil_append]
  rw [read_of_step {} rfl rfl (by simp), read_of_step {} rfl rfl (by simp),
    read_repeated {} rfl rfl rfl rfl (by simp), read_of_step {} rfl rfl (Nat.le_refl _)]
  rfl

lemma read_value {u : Text} (hu : u.head? ≠ some '?') :
    read {} (lineState 7 ["tag".toList]) (['(', '?', ':', '\\', 's', '+', '(', '?', 'P', '<', 'v', 'a',
      'l', 'u', 'e', '>', '\\', 'S', '.', '*', ')', '?', ')', '?'] ++ u) =
      read {} (lineState 8 ["value".toList, "tag".toList]) u := by
  simp only [List.cons_append, List.nil_append]
  rw [read_of_step {} rfl rfl (by simp), read_of_step {} rfl rfl (by simp),
    read_repeated {} rfl rfl rfl rfl (by simp), read_of_step {} rfl rfl (by simp),
    read_of_step {} rfl rfl (by simp), read_of_step {} rfl rfl (by simp),
    read_repeated {} rfl rfl rfl rfl (by simp), read_of_step {} rfl rfl (by simp),
    read_repeated {} rfl rfl rfl rfl (by simp), read_of_step {} rfl rfl (by simp),
    read_repeated {} rfl rfl rfl rfl hu]
  rfl

def lineParts : List Regex := linePieces.map (·.regex)

theorem lineRegex_eq : lineRegex = catAll lineParts := by
  have hform : lineForm = ['^', '\\', 's', '*', '/', '/', '\\', 's', '*', '@'] ++
      (['(', '?', 'P', '<', 't', 'a', 'g', '>', '\\', 'S', '+', ')'] ++
      (['(', '?', ':', '\\', 's', '+', '(', '?', 'P', '<', 'v', 'a', 'l', 'u', 'e', '>', '\\', 'S', '.',
      '*', ')', '?', ')', '?'] ++ ['$'])) := by
    decide
  have hread : read {} {} lineForm = some (lineState 9 ["value".toList, "tag".toList]) := by
    rw [hform, read_front, read_tag, read_value (by decide), read_of_step {} rfl rfl (Nat.le_refl _),
      read_of_skip_eq_nil {} _ rfl]
    rfl
  have htree : tree? lineForm = some (catAll lineParts, 8) := by
    rw [tree?, hread]
    rfl
  have hlimits : withinLimits (catAll lineParts, 8) = some (catAll lineParts) := by
    rw [withinLimits_eq_some]
    exact ⟨rfl, by decide, by decide⟩
  rw [lineRegex, parse_eq_tree?, htree, Option.bind_some, hlimits, Option.getD_some]

/-- What stands before a tag: blanks, a comment mark, blanks again, and an `@`. -/
def front (indent gap : Text) : Text := indent ++ (commentMark ++ (gap ++ ['@']))

/-- A line that carries a tag. What stands behind the tag begins with a blank. -/
structure CarriesTag (line tag tail : Text) : Prop where
  eq_front_append : ∃ indent gap, (∀ c ∈ indent, Text.isBlank c = true) ∧
    (∀ c ∈ gap, Text.isBlank c = true) ∧ line = front indent gap ++ (tag ++ tail)
  tag_ne_nil : tag ≠ []
  tag_blank : ∀ c ∈ tag, Text.isBlank c = false
  tail_blank : ∀ c ∈ tail.head?, Text.isBlank c = true

def valueBehind (tail : Text) : Value :=
  if Text.trim tail = [] then .flag true else .text (Text.trim tail)

section Match

variable {before indent gap tag tail lead value line : Text} {more : Groups}

lemma prefersPart_valuePart_of_blank (htail : ∀ c ∈ tail, Text.isBlank c = true) :
    valuePart.PrefersPart before tail [] [] := by
  cases tail with
  | nil =>
    have hnone : ∀ c ∈ ([] : Text).head?, CharSet.blank.contains c = false := by simp
    exact prefersPart_nothing (refuses_chars_of_head? hnone).repeated.cat
  | cons d tail =>
    have hblanks : (rep 1 none true (chars .blank)).PrefersPart before (d :: tail) [] [] :=
      prefersPart_run (Nat.succ_le_succ (Nat.zero_le _)) htail (by simp)
    have hnone : ∀ c ∈ ([] : Text).head?, (CharSet.compl .blank).contains c = false := by simp
    have hall : valuePart.PrefersPart before (d :: tail ++ []) [] ([] ++ []) :=
      (hblanks.cat (prefersPart_nothing
        ((refuses_chars_of_head? hnone).cat.capture "value".toList))).optional
    rwa [List.append_nil] at hall

lemma prefersPart_valuePart {c : Char} (hlead : ∀ c ∈ lead, Text.isBlank c = true) (hne : lead ≠ [])
    (hc : Text.isBlank c = false) (hfeed : '\n' ∉ value) :
    valuePart.PrefersPart before (lead ++ c :: value) []
      [("value".toList, (before ++ lead).length, (before ++ lead ++ c :: value).length)] := by
  have hblanks : (rep 1 none true (chars .blank)).PrefersPart before lead (c :: value ++ []) [] :=
    prefersPart_run (List.length_pos_iff.mpr hne) hlead (by simpa using hc)
  have hdot : ∀ d ∈ value, (CharSet.compl (.single '\n')).contains d = true := by
    intro d hd
    have hne : d ≠ '\n' := ne_of_mem_of_not_mem hd hfeed
    simp [hne]
  have hvalue : (cat (chars (.compl .blank)) (rep 0 none true (chars (.compl (.single '\n'))))).PrefersPart
      (before ++ lead) ([c] ++ value) [] [] :=
    (prefersPart_char (by simp [hc])).cat (prefersPart_run (Nat.zero_le _) hdot (by simp))
  exact (hblanks.cat (hvalue.capture "value".toList).optional).optional

/-- The form of a line matches what stands before a tag, the tag, and what its part for the value matches behind
them. -/
lemma prefersPart_lineRegex (hindent : ∀ c ∈ indent, Text.isBlank c = true)
    (hgap : ∀ c ∈ gap, Text.isBlank c = true) (hne : tag ≠ [])
    (htag : ∀ c ∈ tag, Text.isBlank c = false) (htail : ∀ c ∈ tail.head?, Text.isBlank c = true)
    (hvalue : valuePart.PrefersPart (front indent gap ++ tag) tail [] more) :
    lineRegex.PrefersPart [] (front indent gap ++ (tag ++ tail)) []
      (more ++ [("tag".toList, (front indent gap).length, (front indent gap ++ tag).length)]) := by
  have hstart : ∀ t, (look .textStart).PrefersPart [] [] t [] := fun t => prefers_look rfl
  have hend : ∀ t, (look .textEnd).PrefersPart t [] [] [] := by
    intro t
    unfold PrefersPart
    rw [List.append_nil, List.append_nil]
    exact prefers_look (by simp [Assertion.holds, Assertion.between])
  have hrun : ∀ {before run after : Text}, (∀ c ∈ run, Text.isBlank c = true) →
      (∀ c ∈ after.head?, Text.isBlank c = false) →
      (rep 0 none true (chars .blank)).PrefersPart before run after [] :=
    fun hrun hafter => prefersPart_run (Nat.zero_le _) hrun hafter
  have hslash : ∀ before after, (chars (.single '/')).PrefersPart before ['/'] after [] :=
    fun _ _ => prefersPart_char (by decide)
  have hat : ∀ before after, (chars (.single '@')).PrefersPart before ['@'] after [] :=
    fun _ _ => prefersPart_char (by decide)
  have hword : ∀ before, tagPart.PrefersPart before tag (tail ++ [] ++ [])
      [("tag".toList, before.length, (before ++ tag).length)] := fun before =>
    (prefersPart_run (List.length_pos_iff.mpr hne) (fun c hc => by simp [htag c hc])
      (fun c hc => by simp [htail c (by simpa using hc)])).capture "tag".toList
  have hvalue' : valuePart.PrefersPart ([] ++ [] ++ indent ++ ['/'] ++ ['/'] ++ gap ++ ['@'] ++ tag)
      tail ([] ++ []) more := by
    simpa [front, commentMark] using hvalue
  have hall : (catAll lineParts).PrefersPart []
      ([] ++ (indent ++ (['/'] ++ (['/'] ++ (gap ++ (['@'] ++ (tag ++ (tail ++ [])))))))) [] _ :=
    (hstart _).cat ((hrun hindent (by simp; decide)).cat ((hslash _ _).cat ((hslash _ _).cat
      ((hrun hgap (by simp; decide)).cat ((hat _ _).cat ((hword _).cat (hvalue'.cat (hend _))))))))
  rw [lineRegex_eq]
  simpa [front, commentMark] using hall

lemma valueBehind_of_blank (htail : ∀ c ∈ tail, Text.isBlank c = true) :
    valueBehind tail = .flag true :=
  if_pos (Text.trim_eq_nil_iff.mpr htail)

lemma valueBehind_append {c : Char} (hlead : ∀ c ∈ lead, Text.isBlank c = true)
    (hc : Text.isBlank c = false) :
    valueBehind (lead ++ c :: value) = .text (Text.trimEnd (c :: value)) := by
  have htrim : Text.trim (lead ++ c :: value) = Text.trimEnd (c :: value) := by
    rw [Text.trim, Text.trimStart_append hlead, Text.trimStart_of_head? (by simpa using hc)]
  have hne : Text.trim (lead ++ c :: value) ≠ [] := by
    intro h
    have hblank := Text.trim_eq_nil_iff.mp h c (by simp)
    rw [hc] at hblank
    cases hblank
  rw [valueBehind, if_neg hne, htrim]

lemma item?_of_captures? {groups : Groups} (hgroups : lineRegex.captures? line = some groups)
    (htag : groups.text? "tag".toList line = some tag) :
    item? line = some (tag, match groups.text? "value".toList line with
      | some value => .text (Text.trimEnd value)
      | none => .flag true) := by
  simp only [item?, hgroups, Option.bind_eq_bind, Option.bind_some, htag]
  cases groups.text? "value".toList line <;> rfl

/-- A line that carries a tag is read as the tag with the value that stands behind it. -/
theorem item?_of_carriesTag (h : CarriesTag line tag tail) (hfeed : '\n' ∉ tail) :
    item? line = some (tag, valueBehind tail) := by
  obtain ⟨indent, gap, hindent, hgap, rfl⟩ := h.eq_front_append
  have hway := fun (more : Groups) (hvalue : valuePart.PrefersPart _ tail [] more) =>
    prefersPart_lineRegex hindent hgap h.tag_ne_nil h.tag_blank h.tail_blank hvalue
  have htag : Groups.text? [("tag".toList, (front indent gap).length,
      (front indent gap ++ tag).length)] "tag".toList (front indent gap ++ (tag ++ tail)) = some tag :=
    text?_cons_self "tag".toList (front indent gap) tag tail []
  obtain ⟨lead, hlead, htail⟩ := Text.exists_eq_append_trimStart tail
  cases hstart : Text.trimStart tail with
  | nil =>
    rw [hstart, List.append_nil] at htail
    subst htail
    have hgroups := captures?_of_prefersPart (hway _ (prefersPart_valuePart_of_blank hlead))
    rw [item?_of_captures? hgroups htag, List.nil_append, text?_cons_of_ne (by decide),
      valueBehind_of_blank hlead]
    rfl
  | cons c value =>
    rw [hstart] at htail
    subst htail
    have hc : Text.isBlank c = false := Text.head?_trimStart _ c (by rw [hstart]; rfl)
    have hne : lead ≠ [] := by
      rintro rfl
      have hblank := h.tail_blank c rfl
      rw [hc] at hblank
      cases hblank
    have hvalue : '\n' ∉ value := fun hmem => hfeed (by simp [hmem])
    have hgroups := captures?_of_prefersPart (hway _ (prefersPart_valuePart hlead hne hc hvalue))
    have hline : front indent gap ++ (tag ++ (lead ++ c :: value)) =
        (front indent gap ++ tag ++ lead) ++ (c :: value ++ []) := by simp
    have htext := text?_cons_self "value".toList (front indent gap ++ tag ++ lead) (c :: value) []
    rw [← hline] at htext
    rw [List.singleton_append] at hgroups
    rw [item?_of_captures? hgroups ((text?_cons_of_ne (by decide) _ _ _ _).trans htag), htext,
      valueBehind_append hlead hc]

def tagged (tag : Text) : Text := "// @".toList ++ tag

lemma carriesTag_tagged (hne : tag ≠ []) (htag : ∀ c ∈ tag, Text.isBlank c = false)
    (htail : ∀ c ∈ tail.head?, Text.isBlank c = true) :
    CarriesTag (tagged tag ++ tail) tag tail where
  eq_front_append := ⟨[], [' '], by simp, List.forall_mem_singleton.mpr rfl, List.append_assoc _ _ _⟩
  tag_ne_nil := hne
  tag_blank := htag
  tail_blank := htail

theorem item?_tagged (hne : tag ≠ []) (htag : ∀ c ∈ tag, Text.isBlank c = false) :
    item? (tagged tag) = some (tag, .flag true) := by
  have hline : CarriesTag (tagged tag ++ []) tag [] := carriesTag_tagged hne htag (by simp)
  rw [List.append_nil] at hline
  exact item?_of_carriesTag hline List.not_mem_nil

theorem item?_tagged_append (hne : tag ≠ []) (htag : ∀ c ∈ tag, Text.isBlank c = false)
    (hvalue : value ≠ []) (hfeed : '\n' ∉ value) (hhead : ∀ c ∈ value.head?, Text.isBlank c = false)
    (hlast : ∀ c ∈ value.getLast?, Text.isBlank c = false) :
    item? (tagged tag ++ ' ' :: value) = some (tag, .text value) := by
  have hline : CarriesTag (tagged tag ++ ' ' :: value) tag (' ' :: value) :=
    carriesTag_tagged hne htag (by simp; decide)
  rw [item?_of_carriesTag hline (by simpa using hfeed)]
  obtain ⟨c, value, rfl⟩ := List.exists_cons_of_ne_nil hvalue
  have hbehind : valueBehind ([' '] ++ c :: value) = .text (Text.trimEnd (c :: value)) :=
    valueBehind_append (List.forall_mem_singleton.mpr rfl) (hhead c rfl)
  rw [List.singleton_append] at hbehind
  rw [hbehind, Text.trimEnd_of_getLast? hlast]

end Match

end Userscript.Metadata
