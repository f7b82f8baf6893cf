import Userscript.Proofs.CaseClasses
import Userscript.Proofs.Cutting
import Userscript.Script.Markup
import Mathlib.Data.List.Infix

/-!
# Texts without unsafe sequences

A phrase occurs in a text when a part of the text reads like it and letter case does not count. The scan
for unsafe sequences misses none: it finds nothing exactly when none of them occurs. A text that is put
together around a line feed holds an unsafe sequence only if one of its two parts does, since no
sequence holds a line feed in any case.
-/

namespace Userscript

namespace Text

@[simp]
lemma length_fold (t : Text) : (fold t).length = t.length := List.length_map ..

theorem eq_of_foldChar_eq_lt {c : Char} (h : foldChar c = '<') : c = '<' := by
  rw [← h]
  exact (foldChar_eq_self_of_lt (by rw [h]; decide)).symm

end Text

namespace Markup

/-- The text begins with a part that reads like the phrase when letter case does not count. -/
def Begins (phrase t : Text) : Prop :=
  ∃ part after, t = part ++ after ∧ Text.fold part = Text.fold phrase

/-- Some part of the text reads like the phrase when letter case does not count. -/
def Occurs (phrase t : Text) : Prop :=
  ∃ before part after, t = before ++ part ++ after ∧ Text.fold part = Text.fold phrase

def IsSafe (t : Text) : Prop := ∀ s ∈ unsafeSequences, ¬Occurs s t

lemma occurs_nil {phrase : Text} (h : Occurs phrase []) : phrase = [] := by
  obtain ⟨before, part, after, ht, hp⟩ := h
  have hpart : part = [] := by simp_all
  subst hpart
  exact List.map_eq_nil_iff.mp hp.symm

theorem occurs_cons_iff {phrase : Text} {c : Char} {t : Text} :
    Occurs phrase (c :: t) ↔ Begins phrase (c :: t) ∨ Occurs phrase t := by
  constructor
  · rintro ⟨before, part, after, ht, hp⟩
    cases before with
    | nil => exact Or.inl ⟨part, after, by simpa using ht, hp⟩
    | cons d before =>
      simp only [List.cons_append, List.cons.injEq] at ht
      exact Or.inr ⟨before, part, after, ht.2, hp⟩
  · rintro (⟨part, after, ht, hp⟩ | ⟨before, part, after, ht, hp⟩)
    · exact ⟨[], part, after, by simpa using ht, hp⟩
    · exact ⟨c :: before, part, after, by simp [ht], hp⟩

lemma occurs_iff_isInfix {phrase t : Text} : Occurs phrase t ↔ Text.fold phrase <:+: Text.fold t := by
  constructor
  · rintro ⟨before, part, after, rfl, hp⟩
    refine ⟨Text.fold before, Text.fold after, ?_⟩
    rw [← hp, Text.fold, Text.fold, Text.fold, Text.fold, List.map_append, List.map_append]
  · rintro ⟨before, after, ht⟩
    obtain ⟨front, behind, rfl, hfront, -⟩ := List.map_eq_append_iff.mp ht.symm
    obtain ⟨start, part, rfl, -, hp⟩ := List.map_eq_append_iff.mp hfront
    exact ⟨start, part, behind, rfl, hp⟩

/-- A character that stands nowhere in a phrase, in any case, keeps the occurrences of the phrase on
its two sides. -/
theorem occurs_append_cons {phrase a b : Text} {c : Char}
    (hc : Text.foldChar c ∉ Text.fold phrase) (h : Occurs phrase (a ++ c :: b)) :
    Occurs phrase a ∨ Occurs phrase b := by
  have hfold : Text.fold (a ++ c :: b) = Text.fold a ++ Text.foldChar c :: Text.fold b := by
    rw [Text.fold, List.map_append, List.map_cons]
    rfl
  rw [occurs_iff_isInfix, hfold, Text.infix_append_cons_iff hc] at h
  exact h.imp occurs_iff_isInfix.mpr occurs_iff_isInfix.mpr

theorem isSafe_of_not_mem {t : Text} (h : '<' ∉ t) : IsSafe t := by
  intro s hs ⟨before, part, after, ht, hp⟩
  have hlt : '<' ∈ Text.fold s := by
    have hall : ∀ s ∈ unsafeSequences, '<' ∈ Text.fold s := by decide +kernel
    exact hall s hs
  rw [← hp] at hlt
  obtain ⟨c, hc, hf⟩ := List.mem_map.mp hlt
  rw [Text.eq_of_foldChar_eq_lt hf] at hc
  exact h (by rw [ht]; simp [hc])

theorem isSafe_append_newline {a b : Text} (ha : IsSafe a) (hb : IsSafe b) :
    IsSafe (a ++ '\n' :: b) := by
  intro s hs h
  have hn : ∀ s ∈ unsafeSequences, Text.foldChar '\n' ∉ Text.fold s := by decide +kernel
  rcases occurs_append_cons (hn s hs) h with h | h
  · exact ha s hs h
  · exact hb s hs h

theorem beginsWith_take_iff {phrase t : Text} :
    beginsWith phrase (t.take phrase.length) ↔ Begins phrase t := by
  rw [beginsWith, Text.isSome_after?_iff]
  constructor
  · intro h
    have hlen := h.length_le
    simp only [Text.length_fold] at hlen
    have he : Text.fold phrase = Text.fold (t.take phrase.length) :=
      h.eq_of_length (by
        simp only [Text.length_fold, List.length_take] at hlen ⊢
        omega)
    exact ⟨t.take phrase.length, t.drop phrase.length, by simp, he.symm⟩
  · rintro ⟨part, after, rfl, hp⟩
    have hlen : part.length = phrase.length := by
      simpa using congrArg List.length hp
    rw [← hlen, List.take_left, hp]

theorem unsafeLength?_eq_none_iff {t : Text} :
    unsafeLength? t = none ↔ ∀ s ∈ unsafeSequences, ¬Begins s t := by
  simp only [unsafeLength?, Option.map_eq_none_iff, List.find?_eq_none, beginsWith_take_iff]

/-- The scan finds nothing exactly in safe texts. -/
theorem unsafeIn_eq_nil_iff (t : Text) : unsafeIn t = [] ↔ IsSafe t := by
  induction t with
  | nil =>
    rw [unsafeIn]
    simp only [true_iff]
    intro s hs h
    have hne : ∀ s ∈ unsafeSequences, s ≠ [] := by decide +kernel
    exact hne s hs (occurs_nil h)
  | cons c t ih =>
    rw [unsafeIn]
    cases hl : unsafeLength? (c :: t) with
    | none =>
      rw [unsafeLength?_eq_none_iff] at hl
      simp only [ih, IsSafe, occurs_cons_iff, not_or]
      exact ⟨fun h s hs => ⟨hl s hs, h s hs⟩, fun h s hs => (h s hs).2⟩
    | some n =>
      simp only [reduceCtorEq, false_iff]
      intro h
      have hnone : unsafeLength? (c :: t) = none :=
        unsafeLength?_eq_none_iff.mpr fun s hs hb => h s hs (occurs_cons_iff.mpr (Or.inl hb))
      rw [hnone] at hl
      exact absurd hl (by simp)

end Markup

end Userscript
