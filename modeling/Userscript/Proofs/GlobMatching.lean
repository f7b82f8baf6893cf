import Userscript.Pattern.Glob
import Userscript.Proofs.Cutting

/-!
# What globs match

A glob matches the texts that come from it when every star gives way to some text. The matcher looks for the
literals between the stars from left to right and never goes back. Nothing is lost by that: the first place of
a literal leaves the longest rest, and whatever follows another place of the literal stands in that rest, too.
-/

namespace Userscript.Glob

/-- A text comes from a glob by putting some text in the place of each star. -/
inductive Fills : (pattern t : Text) → Prop where
  | nil : Fills [] []
  | star (run : Text) {pattern t : Text} : Fills pattern t → Fills ('*' :: pattern) (run ++ t)
  | literal {c : Char} (hc : c ≠ '*') {pattern t : Text} :
    Fills pattern t → Fills (c :: pattern) (c :: t)

lemma fills_nil_iff {t : Text} : Fills [] t ↔ t = [] := by
  constructor
  · rintro ⟨⟩
    rfl
  · rintro rfl
    exact .nil

lemma fills_star_iff {pattern t : Text} :
    Fills ('*' :: pattern) t ↔ ∃ run rest, t = run ++ rest ∧ Fills pattern rest := by
  constructor
  · intro h
    cases h with
    | star run h => exact ⟨run, _, rfl, h⟩
    | literal hc => exact absurd rfl hc
  · rintro ⟨run, rest, rfl, h⟩
    exact .star run h

lemma fills_literal_iff {c : Char} (hc : c ≠ '*') {pattern t : Text} :
    Fills (c :: pattern) t ↔ ∃ rest, t = c :: rest ∧ Fills pattern rest := by
  constructor
  · intro h
    cases h with
    | star => exact absurd rfl hc
    | literal _ h => exact ⟨_, rfl, h⟩
  · rintro ⟨rest, rfl, h⟩
    exact .literal hc h

/-- Literals stand in a text one after another, each behind some text, with a rest behind the last. -/
def LeadTo : (literals : List Text) → (t rest : Text) → Prop
  | [], t, rest => t = rest
  | l :: ls, t, rest => ∃ run behind, t = run ++ (l ++ behind) ∧ LeadTo ls behind rest

lemma leadTo_append_iff {ls ms : List Text} {t rest : Text} :
    LeadTo (ls ++ ms) t rest ↔ ∃ middle, LeadTo ls t middle ∧ LeadTo ms middle rest := by
  induction ls generalizing t with
  | nil => simp [LeadTo]
  | cons l ls ih =>
    simp only [List.cons_append, LeadTo, ih]
    constructor
    · rintro ⟨run, behind, rfl, middle, hls, hms⟩
      exact ⟨middle, ⟨run, behind, rfl, hls⟩, hms⟩
    · rintro ⟨middle, ⟨run, behind, rfl, hls⟩, hms⟩
      exact ⟨run, behind, rfl, middle, hls, hms⟩

lemma leadTo_singleton_nil_iff {last t : Text} : LeadTo [last] t [] ↔ last <:+ t := by
  simp only [LeadTo, exists_eq_right, List.append_nil]
  exact exists_congr fun run => eq_comm

/-- A text comes from a glob just when it begins with the first literal of the glob, and the others lead to its
end. -/
theorem fills_iff_leadTo {pattern first : Text} {literals : List Text}
    (hsplit : Text.splitOn '*' pattern = first :: literals) {t : Text} :
    Fills pattern t ↔ ∃ behind, t = first ++ behind ∧ LeadTo literals behind [] := by
  induction pattern generalizing first literals t with
  | nil =>
    cases hsplit
    rw [fills_nil_iff]
    simp [LeadTo]
  | cons c pattern ih =>
    obtain ⟨next, ls, hnext⟩ := Text.exists_splitOn_eq_cons '*' pattern
    by_cases hc : c = '*'
    · subst hc
      rw [Text.splitOn_cons_self, hnext] at hsplit
      cases hsplit
      rw [fills_star_iff]
      simp only [ih hnext, List.nil_append, exists_eq_left', LeadTo]
      constructor
      · rintro ⟨run, rest, rfl, behind, rfl, h⟩
        exact ⟨run, behind, rfl, h⟩
      · rintro ⟨run, behind, rfl, h⟩
        exact ⟨run, next ++ behind, rfl, behind, rfl, h⟩
    · rw [Text.splitOn_cons_of_ne hc hnext] at hsplit
      cases hsplit
      rw [fills_literal_iff hc]
      simp only [ih hnext, List.cons_append]
      constructor
      · rintro ⟨rest, rfl, behind, rfl, h⟩
        exact ⟨behind, rfl, h⟩
      · rintro ⟨behind, rfl, h⟩
        exact ⟨next ++ behind, rfl, behind, rfl, h⟩

lemma leadTo_of_skipLiterals? {ls : List Text} {t rest : Text}
    (h : skipLiterals? ls t = some rest) : LeadTo ls t rest := by
  induction ls generalizing t with
  | nil => exact Option.some.inj h
  | cons l ls ih =>
    obtain ⟨⟨run, behind⟩, hcut, hrest⟩ := Option.bind_eq_some_iff.mp h
    exact ⟨run, behind, Text.eq_append_of_cutAtPhrase hcut, ih hrest⟩

theorem exists_skipLiterals? {ls : List Text} {t rest u : Text} (h : LeadTo ls t rest)
    (hu : t <:+ u) : ∃ left, skipLiterals? ls u = some left ∧ rest <:+ left := by
  -- The text in which is searched only grows against the one that is known to hold the literals.
  induction ls generalizing t u with
  | nil =>
    cases h
    exact ⟨u, rfl, hu⟩
  | cons l ls ih =>
    obtain ⟨run, behind, rfl, hls⟩ := h
    obtain ⟨before, rfl⟩ := hu
    obtain ⟨start, found, hcut, hbehind⟩ := Text.exists_cutAtPhrase (before ++ run) l behind
    obtain ⟨left, hleft, hrest⟩ := ih hls hbehind
    refine ⟨left, ?_, hrest⟩
    rw [← List.append_assoc, skipLiterals?, hcut]
    exact hleft

/-- The literals between the first and the last one are found, and the last one ends what is left, just when all of
them lead to the end of the text. -/
lemma leadTo_concat_iff {middle : List Text} {last t : Text} :
    LeadTo (middle ++ [last]) t [] ↔ ∃ left, skipLiterals? middle t = some left ∧ last <:+ left := by
  rw [leadTo_append_iff]
  simp only [leadTo_singleton_nil_iff]
  constructor
  · rintro ⟨rest, hrest, hlast⟩
    obtain ⟨left, hleft, hsuffix⟩ := exists_skipLiterals? hrest (List.suffix_refl t)
    exact ⟨left, hleft, hlast.trans hsuffix⟩
  · rintro ⟨left, hleft, hlast⟩
    exact ⟨left, leadTo_of_skipLiterals? hleft, hlast⟩

lemma isMatch_eq_true_iff {pattern first : Text} {literals : List Text}
    (hsplit : Text.splitOn '*' pattern = first :: literals) {t : Text} :
    isMatch pattern t = true ↔ ∃ behind, t = first ++ behind ∧ LeadTo literals behind [] := by
  simp only [← Text.after?_eq_some_iff]
  unfold isMatch
  rw [hsplit]
  dsimp only
  cases Text.after? first t with
  | none => simp
  | some behind =>
    simp only [Option.some.injEq, exists_eq_left']
    rcases literals.eq_nil_or_concat with rfl | ⟨middle, last, rfl⟩
    · simp [LeadTo]
    · rw [List.concat_eq_append, List.getLast?_concat, List.dropLast_concat, leadTo_concat_iff]
      dsimp only
      cases skipLiterals? middle behind with
      | none => simp
      | some left => simp [Text.isSome_beforeSuffix?_iff]

/-- A glob matches just the texts that come from it by putting a text, which may be empty, in the place of each
star. -/
theorem isMatch_iff_fills (pattern t : Text) : isMatch pattern t = true ↔ Fills pattern t := by
  obtain ⟨first, literals, hsplit⟩ := Text.exists_splitOn_eq_cons '*' pattern
  rw [isMatch_eq_true_iff hsplit, fills_iff_leadTo hsplit]

end Userscript.Glob
