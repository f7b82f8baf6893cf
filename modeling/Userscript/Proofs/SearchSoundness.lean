import Userscript.Proofs.MatchedSpans
import Userscript.Proofs.PreferredMatch

/-!
# What a search finds is matched

A search goes through an expression part by part and hands over to the rest behind it. Wherever it gets to, the
expression spans the way there, so a text in which groups are found is a text that the matcher takes.
-/

namespace Userscript.Regex

/-- A search through an expression gets only to the ends of parts that the expression spans. -/
def IsSound (r : Regex) : Prop :=
  ∀ ⦃text : Array Char⦄ ⦃i : Nat⦄ ⦃g : Groups⦄ ⦃rest : Rest⦄ ⦃out : Groups⦄,
    r.search text i g rest = some out → ∃ j h, r.Spans text i j ∧ rest j h = some out

variable {r s : Regex} {text : Array Char} {i n : Nat} {g out : Groups} {rest : Rest}

lemma isSound_chars (set : CharSet) : (chars set).IsSound := by
  intro text i g rest out h
  rw [search_chars] at h
  cases hc : text[i]? with
  | none => simp [hc] at h
  | some c =>
    by_cases hset : set.contains c = true
    · simp only [hc, hset, if_true] at h
      exact ⟨i + 1, g, ⟨rfl, c, hc, hset⟩, h⟩
    · simp [hc, hset] at h

lemma isSound_look (a : Assertion) : (look a).IsSound := by
  intro text i g rest out h
  rw [search_look] at h
  by_cases hholds : a.holds text i = true
  · rw [if_pos hholds] at h
    exact ⟨i, g, ⟨rfl, hholds⟩, h⟩
  · rw [if_neg hholds] at h
    cases h

lemma IsSound.cat (hr : r.IsSound) (hs : s.IsSound) : (cat r s).IsSound := by
  intro text i g rest out h
  rw [search_cat] at h
  obtain ⟨k, g', hik, h⟩ := hr h
  obtain ⟨j, g'', hkj, h⟩ := hs h
  exact ⟨j, g'', ⟨k, hik, hkj⟩, h⟩

lemma IsSound.capture (name : Option Text) (hr : r.IsSound) : (capture name r).IsSound := by
  intro text i g rest out h
  cases name with
  | none =>
    rw [search_capture_none] at h
    exact hr h
  | some name =>
    rw [search_capture] at h
    obtain ⟨j, g', hij, h⟩ := hr h
    exact ⟨j, (name, i, j) :: g', hij, h⟩

lemma IsSound.exactly (hr : r.IsSound) (h : searchExactly (r.search text) n i g rest = some out) :
    ∃ j g', Chain (r.Spans text) n i j ∧ rest j g' = some out := by
  induction n generalizing i g with
  | zero => exact ⟨i, g, .nil i, h⟩
  | succ n ih =>
    rw [searchExactly_succ] at h
    obtain ⟨k, g', hik, h⟩ := hr h
    obtain ⟨j, g'', hkj, h⟩ := ih h
    exact ⟨j, g'', .cons hik hkj, h⟩

lemma IsSound.upTo (hr : r.IsSound) {greedy : Bool}
    (h : searchUpTo (r.search text) greedy n i g rest = some out) :
    ∃ m ≤ n, ∃ j g', Chain (r.Spans text) m i j ∧ rest j g' = some out := by
  induction n generalizing i g with
  | zero => exact ⟨0, Nat.le_refl 0, i, g, .nil i, h⟩
  | succ n ih =>
    have hround : ∀ {g}, r.search text i g (fun j h =>
        if j = i then rest j h else searchUpTo (r.search text) greedy n j h rest) = some out →
        ∃ m ≤ n + 1, ∃ j g', Chain (r.Spans text) m i j ∧ rest j g' = some out := by
      intro g h
      obtain ⟨k, g', hik, h⟩ := hr h
      by_cases hstay : k = i
      · rw [if_pos hstay] at h
        exact ⟨1, Nat.succ_le_succ (Nat.zero_le n), k, g', .cons hik (.nil k), h⟩
      · rw [if_neg hstay] at h
        obtain ⟨m, hm, j, g'', hkj, h⟩ := ih h
        exact ⟨m + 1, Nat.succ_le_succ hm, j, g'', .cons hik hkj, h⟩
    have hnone : rest i g = some out →
        ∃ m ≤ n + 1, ∃ j g', Chain (r.Spans text) m i j ∧ rest j g' = some out :=
      fun h => ⟨0, Nat.zero_le _, i, g, .nil i, h⟩
    cases greedy with
    | true =>
      rw [searchUpTo_succ] at h
      rcases Option.or_eq_some_iff.mp h with h | ⟨-, h⟩
      · exact hround h
      · exact hnone h
    | false =>
      rw [searchUpTo_succ_lazy] at h
      rcases Option.or_eq_some_iff.mp h with h | ⟨-, h⟩
      · exact hnone h
      · exact hround h

lemma IsSound.rep (hr : r.IsSound) {min : Nat} {max : Option Nat}
    (hmax : ∀ m, max = some m → min ≤ m) (greedy : Bool) : (rep min max greedy r).IsSound := by
  intro text i g rest out h
  rw [search_rep] at h
  obtain ⟨k, g', hik, h⟩ := hr.exactly h
  obtain ⟨n, hn, j, g'', hkj, h⟩ := hr.upTo h
  refine ⟨j, g'', ⟨min + n, Nat.le_add_right min n, ?_, chain_add_iff.mpr ⟨k, hik, hkj⟩⟩, h⟩
  intro m hm
  subst hm
  have hle := hmax m rfl
  rw [Option.elim_some] at hn
  omega

/-- A text in which a search finds groups is matched. -/
theorem isMatch_of_captures? (hr : r.IsSound) {t : Text} {groups : Groups}
    (h : r.captures? t = some groups) : r.isMatch t = true := by
  obtain ⟨i, hi, h⟩ := List.exists_of_findSome?_eq_some h
  obtain ⟨j, -, hspans, -⟩ := hr h
  rw [isMatch_iff_finds]
  refine ⟨i, j, ?_, hspans⟩
  rw [List.size_toArray]
  exact Nat.lt_succ_iff.mp (List.mem_range.mp hi)

end Userscript.Regex
