import Userscript.Proofs.ReadBehind

/-!
# Counts and groups with more text behind

The counts of a repetition, and the name or the flags at the front of a group, are read as before when more
text follows.
-/

namespace Userscript.Regex

lemma isDigit_of_stops {c : Char} {u : Text} (hu : Stops (c :: u)) : Text.isDigit c = false := by
  cases hu with
  | bar => decide
  | close => decide

lemma readDigits_append (f : Flags) {u : Text} (hu : Stops u) {t : Text} (ht : '#' ∉ t) :
    readDigits f (t ++ u) = ((readDigits f t).1, (readDigits f t).2 ++ u) ∧
      '#' ∉ (readDigits f t).2 := by
  induction hn : t.length using Nat.strongRecOn generalizing t with
  | ind n ih =>
    cases t with
    | nil =>
      cases u with
      | nil => simp [readDigits]
      | cons d u => simp [readDigits, isDigit_of_stops hu]
    | cons c r =>
      have hr : '#' ∉ r := fun hc => ht (List.mem_cons_of_mem _ hc)
      have hlen := f.length_skip r
      by_cases hc : Text.isDigit c = true
      · obtain ⟨hrest, hmem⟩ := ih (f.skip r).length (by simp at hn; omega)
          (number_sign_not_mem_skip f hr) rfl
        rw [List.cons_append, readDigits, readDigits, skip_append f hr hu]
        simp only [hc, if_true, hrest]
        exact ⟨trivial, hmem⟩
      · rw [List.cons_append, readDigits, readDigits]
        simp only [hc, Bool.false_eq_true, if_false]
        exact ⟨rfl, ht⟩

lemma skipBlanks_append (f : Flags) {u : Text} (hu : Stops u) {t : Text} (ht : '#' ∉ t) :
    readCount.skipBlanks f (t ++ u) = readCount.skipBlanks f t ++ u ∧
      '#' ∉ readCount.skipBlanks f t := by
  cases t with
  | nil =>
    cases u with
    | nil => simp [readCount.skipBlanks]
    | cons d u => simp [readCount.skipBlanks, not_blank_of_stops hu]
  | cons c r =>
    have hr : '#' ∉ r := fun hc => ht (List.mem_cons_of_mem _ hc)
    have hdrop := number_sign_not_mem_dropWhile hr Text.isBlank
    rw [List.cons_append, readCount.skipBlanks, readCount.skipBlanks]
    by_cases hc : Text.isBlank c = true
    · rw [if_pos hc, if_pos hc, dropWhile_blank_append hu, skip_append f hdrop hu]
      exact ⟨rfl, number_sign_not_mem_skip f hdrop⟩
    · rw [if_neg hc, if_neg hc]
      exact ⟨rfl, ht⟩

lemma readCount_append (f : Flags) {u : Text} (hu : Stops u) {t : Text} (ht : '#' ∉ t) :
    readCount f (t ++ u) = ((readCount f t).1, (readCount f t).2 ++ u) ∧
      '#' ∉ (readCount f t).2 := by
  have hdrop := number_sign_not_mem_dropWhile ht Text.isBlank
  obtain ⟨hdigits, hrest⟩ := readDigits_append f hu hdrop
  obtain ⟨hblanks, hmem⟩ := skipBlanks_append f hu hrest
  unfold readCount
  rw [dropWhile_blank_append hu, hdigits]
  dsimp only
  rw [hblanks]
  exact ⟨rfl, hmem⟩

def readMost (f : Flags) (least : Option Nat) (t : Text) : Option (Nat × Option Nat × Text) :=
  match t with
  | '}' :: rest => least.map fun n => (n, none, rest)
  | t => do
    let min ← least
    let (most, t) := readCount f t
    let max ← most
    let rest ← Text.after? ['}'] t
    if min ≤ max then some (min, some max, rest) else none

lemma readMost_of_not_brace (f : Flags) (least : Option Nat) {t : Text}
    (h : Text.after? ['}'] t = none) :
    readMost f least t = least.bind fun min => (readCount f t).1.bind fun max =>
      (Text.after? ['}'] (readCount f t).2).bind fun rest =>
        if min ≤ max then some (min, some max, rest) else none := by
  unfold readMost
  split
  · simp [Text.after?] at h
  · rfl

lemma readMost_append (f : Flags) {u : Text} (hu : Stops u) (least : Option Nat) {t : Text}
    (ht : '#' ∉ t) {min : Nat} {max : Option Nat} {rest : Text}
    (h : readMost f least t = some (min, max, rest)) :
    readMost f least (t ++ u) = some (min, max, rest ++ u) ∧ '#' ∉ rest := by
  have hbrace := after?_append hu (c := '}') (by decide) (by decide) t
  cases hclose : Text.after? ['}'] t with
  | some r =>
    have hr := number_sign_not_mem_of_after? ht hclose
    rw [Text.after?_eq_some_iff.mp hclose] at h ⊢
    obtain ⟨n, hn, heq⟩ := Option.map_eq_some_iff.mp h
    cases heq
    rw [hn]
    exact ⟨rfl, hr⟩
  | none =>
    rw [hclose] at hbrace
    rw [readMost_of_not_brace f least hclose] at h
    rw [readMost_of_not_brace f least hbrace]
    obtain ⟨hcount, hmem⟩ := readCount_append f hu ht
    obtain ⟨n, hn, h⟩ := Option.bind_eq_some_iff.mp h
    obtain ⟨m, hm, h⟩ := Option.bind_eq_some_iff.mp h
    obtain ⟨r, hr, h⟩ := Option.bind_eq_some_iff.mp h
    rw [hcount, hn, hm, Option.bind_some, Option.bind_some,
      after?_append hu (by decide) (by decide), hr, Option.map_some, Option.bind_some]
    by_cases hle : n ≤ m
    · rw [if_pos hle] at h ⊢
      cases h
      exact ⟨rfl, number_sign_not_mem_of_after? hmem hr⟩
    · rw [if_neg hle] at h
      cases h

lemma readBounds_eq (f : Flags) (t : Text) :
    readBounds f t = match (readCount f (f.skip t)).2 with
      | '}' :: rest => (readCount f (f.skip t)).1.map fun n => (n, some n, rest)
      | ',' :: r => readMost f (readCount f (f.skip t)).1 (f.skip r)
      | _ => none := rfl

lemma readBounds_append (f : Flags) {u : Text} (hu : Stops u) {t : Text} (ht : '#' ∉ t) {min : Nat}
    {max : Option Nat} {rest : Text} (h : readBounds f t = some (min, max, rest)) :
    readBounds f (t ++ u) = some (min, max, rest ++ u) ∧ '#' ∉ rest := by
  obtain ⟨hleast, hmem⟩ := readCount_append f hu (number_sign_not_mem_skip f ht)
  rw [readBounds_eq] at h ⊢
  rw [skip_append f ht hu, hleast]
  generalize (readCount f (f.skip t)).1 = least at h ⊢
  generalize (readCount f (f.skip t)).2 = s at h hmem ⊢
  split at h
  · rename_i r
    have hr : '#' ∉ r := fun hc => hmem (List.mem_cons_of_mem _ hc)
    obtain ⟨n, hn, heq⟩ := Option.map_eq_some_iff.mp h
    cases heq
    rw [hn]
    exact ⟨rfl, hr⟩
  · rename_i r
    have hr : '#' ∉ r := fun hc => hmem (List.mem_cons_of_mem _ hc)
    change readMost f least (f.skip (r ++ u)) = _ ∧ _
    rw [skip_append f hr hu]
    exact readMost_append f hu least (number_sign_not_mem_skip f hr) h
  · cases h

lemma extends_readName (names : List Text) (u : Text) {t : Text} (ht : '#' ∉ t) :
    Extends u (readName names t) (readName names (t ++ u)) := by
  unfold readName
  rw [Text.cutAt_append]
  cases hcut : Text.cutAt '>' t with
  | none => exact Extends.none _
  | some p =>
    obtain ⟨name, rest⟩ := p
    have hrest : '#' ∉ rest := by
      rw [(Text.cutAt_eq_some_iff.mp hcut).1] at ht
      exact fun hc => ht (List.mem_append_right _ (List.mem_cons_of_mem _ hc))
    cases name with
    | nil => exact Extends.none _
    | cons c cs => exact Extends.ite _ (Extends.some _ hrest) (Extends.none _)

lemma readFlags_append (f : Flags) (seen : List Char) (u : Text) {t : Text} (ht : '#' ∉ t)
    {f' : Flags} {seen' : List Char} {c : Char} {rest : Text}
    (h : readFlags f seen t = some (f', seen', c, rest)) :
    readFlags f seen (t ++ u) = some (f', seen', c, rest ++ u) ∧ '#' ∉ rest := by
  induction t generalizing f seen with
  | nil => cases h
  | cons d r ih =>
    have hr : '#' ∉ r := fun hc => ht (List.mem_cons_of_mem _ hc)
    rw [List.cons_append]
    unfold readFlags at h ⊢
    by_cases hclose : d = ':' ∨ d = ')'
    · rw [if_pos hclose] at h ⊢
      by_cases hhyphen : seen.head? = some '-'
      · rw [if_pos hhyphen] at h
        cases h
      · rw [if_neg hhyphen] at h ⊢
        cases h
        exact ⟨rfl, hr⟩
    rw [if_neg hclose] at h ⊢
    by_cases hseen : seen.contains d = true
    · rw [if_pos hseen] at h
      cases h
    rw [if_neg hseen] at h ⊢
    by_cases hhyphen : d = '-'
    · rw [if_pos hhyphen] at h ⊢
      exact ih f _ hr h
    rw [if_neg hhyphen] at h ⊢
    cases hset : f.set? d (!seen.contains '-') with
    | none =>
      rw [hset] at h
      cases h
    | some g =>
      rw [hset] at h
      exact ih g _ hr h

lemma readLazy_append {u : Text} (hu : Stops u) {t : Text} (ht : '#' ∉ t) :
    readLazy (t ++ u) = ((readLazy t).1, (readLazy t).2 ++ u) ∧ '#' ∉ (readLazy t).2 := by
  unfold readLazy
  split
  · rename_i hs
    split
    · exact ⟨by cases hs; rfl, fun hc => ht (List.mem_cons_of_mem _ hc)⟩
    · rename_i hs'
      obtain ⟨r', hr'⟩ := exists_of_append_stops hu (by decide) (by decide) hs
      exact absurd hr' (hs' r')
  · rename_i hs
    split
    · exact absurd rfl (hs _)
    · exact ⟨rfl, ht⟩

end Userscript.Regex
