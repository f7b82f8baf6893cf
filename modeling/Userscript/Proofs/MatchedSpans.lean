import Userscript.Proofs.Alternatives
import Mathlib.Tactic.Lemma
import Mathlib.Data.List.Basic

/-!
# What the matcher decides

The matcher carries sets of positions through an expression. From a set of positions it gives exactly those at
which a part ends that the expression spans from one of them, so that it finds a match just when there is one.
-/

namespace Userscript.Regex

variable {text : Array Char} {s xs ys : List Nat} {i j k n : Nat}

/-- Positions of a text in ascending order, none twice. -/
structure Positions (text : Array Char) (s : List Nat) : Prop where
  ascending : s.Pairwise (· < ·)
  le_size : ∀ i ∈ s, i ≤ text.size

lemma Positions.nil (text : Array Char) : Positions text [] := ⟨List.Pairwise.nil, by simp⟩

lemma Positions.singleton (h : i ≤ text.size) : Positions text [i] :=
  ⟨List.pairwise_singleton _ i, by simpa using h⟩

lemma Positions.filter (h : Positions text s) (p : Nat → Bool) : Positions text (s.filter p) :=
  ⟨h.ascending.filter p, fun i hi => h.le_size i (List.mem_filter.mp hi).1⟩

lemma ascending_merge (hxs : xs.Pairwise (· < ·)) (hys : ys.Pairwise (· < ·)) :
    (merge xs ys).Pairwise (· < ·) := by
  induction xs, ys using merge.induct with
  | case1 ys => rwa [merge]
  | case2 x xs => rwa [merge]
  | case3 x xs y ys h ih =>
    rw [merge, if_pos h, List.pairwise_cons]
    rw [List.pairwise_cons] at hxs
    refine ⟨fun k hk => ?_, ih hxs.2 hys⟩
    rcases (mem_merge _ _).mp hk with hk | hk
    · exact hxs.1 k hk
    · rcases List.mem_cons.mp hk with rfl | hk
      · exact h
      · exact h.trans ((List.pairwise_cons.mp hys).1 k hk)
  | case4 x xs y ys h h' ih =>
    rw [merge, if_neg h, if_pos h', List.pairwise_cons]
    rw [List.pairwise_cons] at hys
    refine ⟨fun k hk => ?_, ih hxs hys.2⟩
    rcases (mem_merge _ _).mp hk with hk | hk
    · rcases List.mem_cons.mp hk with rfl | hk
      · exact h'
      · exact h'.trans ((List.pairwise_cons.mp hxs).1 k hk)
    · exact hys.1 k hk
  | case5 x xs y ys h h' ih =>
    have hxy : x = y := by omega
    subst hxy
    rw [merge, if_neg h, if_neg h, List.pairwise_cons]
    rw [List.pairwise_cons] at hxs hys
    refine ⟨fun k hk => ?_, ih hxs.2 hys.2⟩
    rcases (mem_merge _ _).mp hk with hk | hk
    · exact hxs.1 k hk
    · exact hys.1 k hk

lemma Positions.merge (hxs : Positions text xs) (hys : Positions text ys) :
    Positions text (merge xs ys) where
  ascending := ascending_merge hxs.ascending hys.ascending
  le_size k hk := by
    rcases (mem_merge _ _).mp hk with hk | hk
    · exact hxs.le_size k hk
    · exact hys.le_size k hk

/-- A step goes from positions to the ends of what a relation spans from them, and never back. -/
structure Steps (text : Array Char) (step : List Nat → List Nat) (spans : Nat → Nat → Prop) : Prop where
  positions : ∀ s, Positions text s → Positions text (step s)
  mem : ∀ s j, Positions text s → (j ∈ step s ↔ ∃ i ∈ s, spans i j)
  forward : ∀ i j, i ≤ text.size → spans i j → i ≤ j ∧ j ≤ text.size

section Steps

variable {step : List Nat → List Nat} {spans : Nat → Nat → Prop}

lemma chain_zero_iff : Chain spans 0 i j ↔ i = j :=
  ⟨fun h => by cases h; rfl, fun h => h ▸ .nil i⟩

lemma chain_succ_iff : Chain spans (n + 1) i j ↔ ∃ k, spans i k ∧ Chain spans n k j :=
  ⟨fun h => by cases h with | cons h h' => exact ⟨_, h, h'⟩, fun ⟨_, h, h'⟩ => .cons h h'⟩

lemma Steps.chain_forward (h : Steps text step spans) (hchain : Chain spans n i j) (hi : i ≤ text.size) :
    i ≤ j ∧ j ≤ text.size := by
  induction hchain with
  | nil i => exact ⟨Nat.le_refl i, hi⟩
  | cons hstep _ ih =>
    have hk := h.forward _ _ hi hstep
    exact ⟨hk.1.trans (ih hk.2).1, (ih hk.2).2⟩

lemma Steps.exactly (h : Steps text step spans) (n : Nat) :
    Steps text (exactly step n) (Chain spans n) where
  positions s hs := by
    induction n generalizing s with
    | zero => exact hs
    | succ n ih =>
      rw [Regex.exactly]
      split
      · exact Positions.nil text
      · exact ih _ (h.positions s hs)
  mem s j hs := by
    induction n generalizing s with
    | zero => simp [Regex.exactly, chain_zero_iff]
    | succ n ih =>
      rw [Regex.exactly]
      split
      · rename_i hempty
        simp [List.isEmpty_iff.mp hempty]
      · rw [ih _ (h.positions s hs)]
        simp only [h.mem s _ hs, chain_succ_iff]
        constructor
        · rintro ⟨k, ⟨i, hi, hik⟩, hkj⟩
          exact ⟨i, hi, k, hik, hkj⟩
        · rintro ⟨i, hi, k, hik, hkj⟩
          exact ⟨k, ⟨i, hi, hik⟩, hkj⟩
  forward _ _ hi hchain := h.chain_forward hchain hi

lemma Steps.mem_upTo (h : Steps text step spans) (n : Nat) {reached : List Nat}
    (hreached : Positions text reached) (hs : Positions text s) :
    Positions text (upTo step n reached s) ∧
      (j ∈ upTo step n reached s ↔ j ∈ reached ∨ ∃ m < n, ∃ i ∈ s, Chain spans (m + 1) i j) := by
  induction n generalizing s reached with
  | zero => exact ⟨hreached, by simp [upTo]⟩
  | succ n ih =>
    rw [upTo]
    split
    · rename_i hempty
      exact ⟨hreached, by simp [List.isEmpty_iff.mp hempty]⟩
    · have hstep := h.positions s hs
      obtain ⟨hpositions, hmem⟩ := ih (hreached.merge hstep) hstep
      refine ⟨hpositions, hmem.trans ?_⟩
      rw [mem_merge, or_assoc]
      refine or_congr_right ?_
      simp only [h.mem s _ hs]
      constructor
      · rintro (⟨i, hi, hij⟩ | ⟨m, hm, k, ⟨i, hi, hik⟩, hkj⟩)
        · exact ⟨0, Nat.succ_pos n, i, hi, .cons hij (.nil j)⟩
        · exact ⟨m + 1, Nat.succ_lt_succ hm, i, hi, .cons hik hkj⟩
      · rintro ⟨m, hm, i, hi, hchain⟩
        obtain ⟨k, hik, hkj⟩ := chain_succ_iff.mp hchain
        cases m with
        | zero =>
          rw [← chain_zero_iff.mp hkj]
          exact Or.inl ⟨i, hi, hik⟩
        | succ m => exact Or.inr ⟨m, Nat.lt_of_succ_lt_succ hm, k, ⟨i, hi, hik⟩, hkj⟩

lemma Steps.exists_lt_of_chain (h : Steps text step spans) (hchain : Chain spans n i j)
    (hi : i ≤ text.size) : i = j ∨ ∃ k, i < k ∧ spans i k ∧ ∃ m, Chain spans m k j := by
  induction hchain with
  | nil i => exact Or.inl rfl
  | @cons n i k j hstep hrest ih =>
    rcases Nat.eq_or_lt_of_le (h.forward i k hi hstep).1 with rfl | hlt
    · exact ih hi
    · exact Or.inr ⟨k, hlt, hstep, n, hrest⟩

/-- Any number of steps reach the ends of all chains, as long as the fuel lasts to the end of the text. -/
lemma Steps.mem_anyNumber (h : Steps text step spans) (fuel : Nat) (hs : Positions text s)
    (hfuel : ∀ i ∈ s, text.size < fuel + i) :
    Positions text (anyNumber step fuel s) ∧
      (j ∈ anyNumber step fuel s ↔ ∃ i ∈ s, ∃ n, Chain spans n i j) := by
  -- The least waiting position is given out, and all that wait from then on are greater.
  induction fuel generalizing s j with
  | zero =>
    cases s with
    | nil => exact ⟨Positions.nil text, by simp [anyNumber]⟩
    | cons i waiting =>
      have hle := hs.le_size i List.mem_cons_self
      have hlt := hfuel i List.mem_cons_self
      omega
  | succ fuel ih =>
    cases s with
    | nil => exact ⟨Positions.nil text, by simp [anyNumber]⟩
    | cons i waiting =>
      have hi := hs.le_size i List.mem_cons_self
      have hless := List.pairwise_cons.mp hs.ascending
      have hwaiting : Positions text waiting :=
        ⟨hless.2, fun k hk => hs.le_size k (List.mem_cons_of_mem i hk)⟩
      have hsingle := Positions.singleton hi
      have hnext := hwaiting.merge ((h.positions [i] hsingle).filter (i < ·))
      have hmem : ∀ k, k ∈ merge waiting ((step [i]).filter (i < ·)) ↔
          k ∈ waiting ∨ (spans i k ∧ i < k) := by
        intro k
        rw [mem_merge, List.mem_filter, h.mem [i] k hsingle]
        simp
      have hgreater : ∀ k ∈ merge waiting ((step [i]).filter (i < ·)), i < k := by
        intro k hk
        rcases (hmem k).mp hk with hk | hk
        · exact hless.1 k hk
        · exact hk.2
      have hrest := fun j => ih (j := j) hnext fun k hk => by
        have hlt := hgreater k hk
        have hbound := hfuel i List.mem_cons_self
        omega
      have hreach : ∀ j, j ∈ anyNumber step fuel (merge waiting ((step [i]).filter (i < ·))) ↔
          ∃ k, (k ∈ waiting ∨ (spans i k ∧ i < k)) ∧ ∃ n, Chain spans n k j := fun j =>
        (hrest j).2.trans (exists_congr fun k => by rw [hmem])
      rw [anyNumber]
      refine ⟨⟨List.pairwise_cons.mpr ⟨fun j hj => ?_, (hrest i).1.ascending⟩, fun j hj => ?_⟩, ?_⟩
      · obtain ⟨k, hk, n, hchain⟩ := (hreach j).mp hj
        have hlt := hgreater k ((hmem k).mpr hk)
        exact Nat.lt_of_lt_of_le hlt
          (h.chain_forward hchain (hnext.le_size k ((hmem k).mpr hk))).1
      · rcases List.mem_cons.mp hj with rfl | hj
        · exact hi
        · exact (hrest i).1.le_size j hj
      · rw [List.mem_cons, hreach]
        constructor
        · rintro (rfl | ⟨k, hk | ⟨hik, -⟩, n, hkj⟩)
          · exact ⟨j, List.mem_cons_self, 0, .nil j⟩
          · exact ⟨k, List.mem_cons_of_mem i hk, n, hkj⟩
          · exact ⟨i, List.mem_cons_self, n + 1, .cons hik hkj⟩
        · rintro ⟨k, hk, n, hchain⟩
          rcases List.mem_cons.mp hk with rfl | hk
          · rcases h.exists_lt_of_chain hchain hi with rfl | ⟨k', hlt, hspans, hrest⟩
            · exact Or.inl rfl
            · exact Or.inr ⟨k', Or.inr ⟨hspans, hlt⟩, hrest⟩
          · exact Or.inr ⟨k, Or.inl hk, n, hchain⟩

end Steps

lemma ends_chars (text : Array Char) (set : CharSet) (s : List Nat) :
    (chars set).ends text s = (s.filter fun i => text[i]?.any set.contains).map (· + 1) := by
  rw [ends]
  induction s with
  | nil => rfl
  | cons i s ih =>
    rw [List.filterMap_cons, List.filter_cons, ih]
    cases text[i]? with
    | none => rfl
    | some c => cases h : set.contains c <;> simp [h]

lemma steps_chars (text : Array Char) (set : CharSet) :
    Steps text ((chars set).ends text) ((chars set).Spans text) := by
  have hmem : ∀ s j, j ∈ (chars set).ends text s ↔ ∃ i ∈ s, (chars set).Spans text i j := by
    intro s j
    simp only [ends_chars, List.mem_map, List.mem_filter, Option.any_eq_true, Spans, and_assoc,
      eq_comm (a := j), and_comm (a := _ + 1 = j)]
  have hforward : ∀ i j, i ≤ text.size → (chars set).Spans text i j → i ≤ j ∧ j ≤ text.size := by
    rintro i j - ⟨rfl, c, hc, -⟩
    have hlt := (Array.getElem?_eq_some_iff.mp hc).1
    omega
  refine ⟨fun s hs => ⟨?_, fun j hj => ?_⟩, fun s j _ => hmem s j, hforward⟩
  · rw [ends_chars]
    exact (hs.ascending.filter _).map _ fun _ _ => Nat.succ_lt_succ
  · obtain ⟨i, hi, hspans⟩ := (hmem s j).mp hj
    exact (hforward i j (hs.le_size i hi) hspans).2

lemma steps_filter {p : Nat → Bool} {holds : Nat → Prop} (h : ∀ i, i ≤ text.size → (p i = true ↔ holds i)) :
    Steps text (List.filter p) fun i j => i = j ∧ holds i where
  positions s hs := hs.filter p
  mem s j hs := by
    rw [List.mem_filter]
    constructor
    · rintro ⟨hj, hp⟩
      exact ⟨j, hj, rfl, (h j (hs.le_size j hj)).mp hp⟩
    · rintro ⟨i, hi, rfl, hholds⟩
      exact ⟨hi, (h i (hs.le_size i hi)).mpr hholds⟩
  forward i j hi := by
    rintro ⟨rfl, -⟩
    exact ⟨Nat.le_refl i, hi⟩

lemma chain_add_iff {spans : Nat → Nat → Prop} {m : Nat} :
    Chain spans (n + m) i j ↔ ∃ k, Chain spans n i k ∧ Chain spans m k j := by
  induction n generalizing i with
  | zero => simp only [Nat.zero_add, chain_zero_iff, exists_eq_left']
  | succ n ih =>
    simp only [Nat.succ_add, chain_succ_iff, ih]
    constructor
    · rintro ⟨l, hl, k, hk, hj⟩
      exact ⟨k, ⟨l, hl, hk⟩, hj⟩
    · rintro ⟨k, ⟨l, hl, hk⟩, hj⟩
      exact ⟨l, hl, k, hk, hj⟩

lemma steps_rep {step : List Nat → List Nat} {spans : Nat → Nat → Prop} (h : Steps text step spans)
    (min : Nat) (max : Option Nat) :
    Steps text
      (fun s => match max with
        | some m => upTo step (m - min) (if min ≤ m then Regex.exactly step min s else [])
          (Regex.exactly step min s)
        | none => anyNumber step (text.size + 1) (Regex.exactly step min s))
      fun i j => ∃ n, min ≤ n ∧ (∀ m, max = some m → n ≤ m) ∧ Chain spans n i j := by
  have hmin := h.exactly min
  have hforward : ∀ i j, i ≤ text.size →
      (∃ n, min ≤ n ∧ (∀ m, max = some m → n ≤ m) ∧ Chain spans n i j) → i ≤ j ∧ j ≤ text.size := by
    rintro i j hi ⟨n, -, -, hchain⟩
    exact h.chain_forward hchain hi
  cases max with
  | none =>
    refine ⟨fun s hs => (h.mem_anyNumber (j := 0) _ (hmin.positions s hs) fun i _ => by omega).1,
      fun s j hs => ?_, hforward⟩
    rw [(h.mem_anyNumber _ (hmin.positions s hs) fun i _ => by omega).2]
    simp only [hmin.mem s _ hs]
    constructor
    · rintro ⟨k, ⟨i, hi, hik⟩, n, hkj⟩
      exact ⟨i, hi, min + n, Nat.le_add_right _ _, by simp, chain_add_iff.mpr ⟨k, hik, hkj⟩⟩
    · rintro ⟨i, hi, n, hn, -, hchain⟩
      obtain ⟨m, rfl⟩ := Nat.exists_eq_add_of_le hn
      obtain ⟨k, hik, hkj⟩ := chain_add_iff.mp hchain
      exact ⟨k, ⟨i, hi, hik⟩, m, hkj⟩
  | some m =>
    have hreached : ∀ s, Positions text s →
        Positions text (if min ≤ m then Regex.exactly step min s else []) := fun s hs => by
      split
      · exact hmin.positions s hs
      · exact Positions.nil text
    refine ⟨fun s hs => (h.mem_upTo (j := 0) _ (hreached s hs) (hmin.positions s hs)).1,
      fun s j hs => ?_, hforward⟩
    rw [(h.mem_upTo _ (hreached s hs) (hmin.positions s hs)).2]
    simp only [hmin.mem s _ hs, Option.some.injEq, forall_eq']
    constructor
    · rintro (hj | ⟨l, hl, k, ⟨i, hi, hik⟩, hkj⟩)
      · by_cases hle : min ≤ m
        · rw [if_pos hle, hmin.mem s j hs] at hj
          obtain ⟨i, hi, hij⟩ := hj
          exact ⟨i, hi, min, Nat.le_refl _, hle, hij⟩
        · rw [if_neg hle] at hj
          cases hj
      · exact ⟨i, hi, min + (l + 1), Nat.le_add_right _ _, by omega, chain_add_iff.mpr ⟨k, hik, hkj⟩⟩
    · rintro ⟨i, hi, n, hn, hm, hchain⟩
      obtain ⟨l, rfl⟩ := Nat.exists_eq_add_of_le hn
      obtain ⟨k, hik, hkj⟩ := chain_add_iff.mp hchain
      cases l with
      | zero =>
        rw [← chain_zero_iff.mp hkj, if_pos (by omega), hmin.mem s k hs]
        exact Or.inl ⟨i, hi, hik⟩
      | succ l => exact Or.inr ⟨l, by omega, k, ⟨i, hi, hik⟩, hkj⟩

/-- Where a match may end is where the expression spans to. -/
theorem steps_ends (text : Array Char) (r : Regex) : Steps text (r.ends text) (r.Spans text) := by
  induction r with
  | empty =>
    exact ⟨fun s hs => hs, fun s j _ => by simp [ends, Spans], fun i j hi h => by
      cases h
      exact ⟨Nat.le_refl i, hi⟩⟩
  | chars set => exact steps_chars text set
  | look a => exact steps_filter fun i _ => Iff.rfl
  | cat a b iha ihb =>
    refine ⟨fun s hs => ihb.positions _ (iha.positions s hs), fun s j hs => ?_, fun i j hi h => ?_⟩
    · simp only [ends, Spans, ihb.mem _ j (iha.positions s hs), iha.mem s _ hs]
      constructor
      · rintro ⟨k, ⟨i, hi, hik⟩, hkj⟩
        exact ⟨i, hi, k, hik, hkj⟩
      · rintro ⟨i, hi, k, hik, hkj⟩
        exact ⟨k, ⟨i, hi, hik⟩, hkj⟩
    · obtain ⟨k, hik, hkj⟩ := h
      have hk := iha.forward i k hi hik
      have hj := ihb.forward k j hk.2 hkj
      exact ⟨hk.1.trans hj.1, hj.2⟩
  | alt a b iha ihb =>
    refine ⟨fun s hs => (iha.positions s hs).merge (ihb.positions s hs), fun s j hs => ?_,
      fun i j hi h => ?_⟩
    · rw [ends, mem_merge, iha.mem s j hs, ihb.mem s j hs]
      simp only [Spans, and_or_left, exists_or]
    · rcases h with h | h
      · exact iha.forward i j hi h
      · exact ihb.forward i j hi h
  | rep min max greedy r ih => exact steps_rep ih min max
  | capture name r ih => exact ih
  | notAhead r ih =>
    refine steps_filter fun i hi => ?_
    rw [List.isEmpty_iff, List.eq_nil_iff_forall_not_mem, not_exists]
    refine forall_congr' fun k => ?_
    simp only [ih.mem [i] k (Positions.singleton hi), List.mem_singleton, exists_eq_left]

/-- The matcher finds a match just when there is one. -/
theorem isMatch_iff_finds (r : Regex) (t : Text) : r.isMatch t = true ↔ r.Finds t.toArray := by
  have hpositions : Positions t.toArray (List.range (t.length + 1)) := by
    refine ⟨List.pairwise_lt_range, fun i hi => ?_⟩
    rw [List.size_toArray]
    exact Nat.lt_succ_iff.mp (List.mem_range.mp hi)
  rw [isMatch_iff]
  simp only [(steps_ends t.toArray r).mem _ _ hpositions, List.mem_range, Nat.lt_succ_iff]
  constructor
  · rintro ⟨j, i, hi, hspans⟩
    exact ⟨i, j, by simpa using hi, hspans⟩
  · rintro ⟨i, j, hi, hspans⟩
    exact ⟨j, i, by simpa using hi, hspans⟩

end Userscript.Regex
