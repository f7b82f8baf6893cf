import Userscript.Proofs.ScriptSlots
import Mathlib.Data.List.Sublists
import Mathlib.Data.List.InsertIdx

/-!
# Scripts put into a page one after another

A page is taken as the list of what its tokens come from. Each script goes into the slot of its placement, and
the slots move. Where they end up depends on the placements alone: early scripts stand in reverse, since each
goes before the first element that it finds, and late scripts stand in order. In a body without elements the
first late script becomes the first element, and the early scripts behind it in the list go before it there,
apart from those that came earlier.
-/

namespace Userscript

namespace Injection

/-- What a token of a page comes from: the page as it was, by its number there, or an injected script, by its
number, or the comment that lists them. -/
inductive Origin where
  | page (n : Nat)
  | script (k : Nat)
  | comment
  deriving DecidableEq, Repr

def Before (order : List Origin) (x y : Origin) : Prop := [x, y].Sublist order

instance (order : List Origin) (x y : Origin) : Decidable (Before order x y) :=
  inferInstanceAs (Decidable ([x, y].Sublist order))

namespace Before

variable {x y z : Origin} {l l' front back : List Origin}

lemma of_mem (hx : x ∈ front) (hy : y ∈ back) : Before (front ++ back) x y :=
  (List.singleton_sublist.mpr hx).append (List.singleton_sublist.mpr hy)

lemma append_left (h : Before back x y) : Before (front ++ back) x y :=
  h.trans (List.sublist_append_right front back)

lemma append_right (h : Before front x y) : Before (front ++ back) x y :=
  h.trans (List.sublist_append_left front back)

lemma reverse (h : Before l x y) : Before l.reverse y x := List.Sublist.reverse h

lemma mem_right (h : Before l x y) : y ∈ l := h.subset (by simp)

lemma asymm (hnodup : l.Nodup) (h : Before l x y) : ¬ Before l y x := by
  induction l with
  | nil => cases h
  | cons a l ih =>
    rw [List.nodup_cons] at hnodup
    intro h'
    cases h with
    | cons _ h =>
      cases h' with
      | cons _ h' => exact ih hnodup.2 h h'
      | cons_cons => exact hnodup.1 (mem_right h)
    | cons_cons _ h =>
      cases h' with
      | cons _ h' => exact hnodup.1 (mem_right h')
      | cons_cons => exact hnodup.1 (List.singleton_sublist.mp h)

end Before

namespace Origin

variable {π : Placement} {s : Slots} {i j k n : Nat} {placements : List Placement} {order A M Z : List Origin}

/-- Puts scripts with these placements into a page, the first with the number `k`. -/
def place : Slots → Nat → List Placement → List Origin → List Origin
  | _, _, [], order => order
  | s, k, π :: rest, order => place (s.next π) (k + 1) rest (order.insertIdx (s.slot π) (.script k))

def scripts (π : Placement) : Nat → List Placement → List Origin
  | _, [] => []
  | k, q :: rest => if q = π then .script k :: scripts π (k + 1) rest else scripts π (k + 1) rest

def leading : Nat → List Placement → List Origin
  | k, .early :: rest => .script k :: leading (k + 1) rest
  | _, _ => []

def trailing : Nat → List Placement → List Origin
  | _, [] => []
  | k, .early :: rest => trailing (k + 1) rest
  | k, .late :: rest => scripts .early (k + 1) rest

/-! ## Scripts of a placement -/

lemma mem_scripts (h : placements[j]? = some π) : .script (k + j) ∈ scripts π k placements := by
  induction placements generalizing j k with
  | nil => simp at h
  | cons q rest ih =>
    cases j with
    | zero =>
      rw [List.getElem?_cons_zero, Option.some.injEq] at h
      rw [scripts, if_pos h]
      exact List.mem_cons_self
    | succ j =>
      have hmem := ih (k := k + 1) h
      rw [Nat.add_right_comm] at hmem
      rw [scripts]
      split
      · exact List.mem_cons_of_mem _ hmem
      · exact hmem

lemma before_scripts (hij : i < j) (hi : placements[i]? = some π) (hj : placements[j]? = some π) :
    Before (scripts π k placements) (.script (k + i)) (.script (k + j)) := by
  induction placements generalizing i j k with
  | nil => simp at hj
  | cons q rest ih =>
    obtain ⟨j, rfl⟩ := Nat.exists_eq_add_one_of_ne_zero (Nat.ne_zero_of_lt hij)
    cases i with
    | zero =>
      have hmem : .script (k + 1 + j) ∈ scripts π (k + 1) rest := mem_scripts hj
      rw [Nat.add_right_comm] at hmem
      rw [List.getElem?_cons_zero, Option.some.injEq] at hi
      rw [scripts, if_pos hi]
      exact List.Sublist.cons_cons _ (List.singleton_sublist.mpr hmem)
    | succ i =>
      have hbefore := ih (k := k + 1) (Nat.lt_of_succ_lt_succ hij) hi hj
      rw [Nat.add_right_comm, Nat.add_right_comm k 1 j] at hbefore
      rw [scripts]
      split
      · exact List.Sublist.cons _ hbefore
      · exact hbefore

lemma mem_leading (h : ∀ m ≤ j, placements[m]? = some .early) : .script (k + j) ∈ leading k placements := by
  induction placements generalizing j k with
  | nil => simpa using h j (Nat.le_refl j)
  | cons q rest ih =>
    have hq := h 0 (Nat.zero_le j)
    rw [List.getElem?_cons_zero, Option.some.injEq] at hq
    subst hq
    cases j with
    | zero => exact List.mem_cons_self
    | succ j =>
      have hmem := ih (k := k + 1) fun m hm => h (m + 1) (Nat.succ_le_succ hm)
      rw [Nat.add_right_comm] at hmem
      exact List.mem_cons_of_mem _ hmem

lemma before_leading (hij : i < j) (h : ∀ m ≤ j, placements[m]? = some .early) :
    Before (leading k placements) (.script (k + i)) (.script (k + j)) := by
  induction placements generalizing i j k with
  | nil => simpa using h j (Nat.le_refl j)
  | cons q rest ih =>
    have hq := h 0 (Nat.zero_le j)
    rw [List.getElem?_cons_zero, Option.some.injEq] at hq
    subst hq
    obtain ⟨j, rfl⟩ := Nat.exists_eq_add_one_of_ne_zero (Nat.ne_zero_of_lt hij)
    have hrest : ∀ m ≤ j, rest[m]? = some .early := fun m hm => h (m + 1) (Nat.succ_le_succ hm)
    cases i with
    | zero =>
      have hmem := mem_leading (k := k + 1) hrest
      rw [Nat.add_right_comm] at hmem
      exact List.Sublist.cons_cons _ (List.singleton_sublist.mpr hmem)
    | succ i =>
      have hbefore := ih (k := k + 1) (Nat.lt_of_succ_lt_succ hij) hrest
      rw [Nat.add_right_comm, Nat.add_right_comm k 1 j] at hbefore
      exact List.Sublist.cons _ hbefore

lemma mem_trailing (hj : placements[j]? = some .early) (hl : placements[n]? = some .late) (hlt : n < j) :
    .script (k + j) ∈ trailing k placements := by
  induction placements generalizing j k n with
  | nil => simp at hj
  | cons q rest ih =>
    obtain ⟨j, rfl⟩ := Nat.exists_eq_add_one_of_ne_zero (Nat.ne_zero_of_lt hlt)
    cases q with
    | late =>
      have hmem : .script (k + 1 + j) ∈ scripts .early (k + 1) rest := mem_scripts hj
      rwa [Nat.add_right_comm] at hmem
    | early =>
      cases n with
      | zero => cases hl
      | succ n =>
        have hmem := ih (k := k + 1) hj hl (Nat.lt_of_succ_lt_succ hlt)
        rwa [Nat.add_right_comm] at hmem

lemma before_trailing (hij : i < j) (hi : placements[i]? = some .early) (hj : placements[j]? = some .early)
    (hl : placements[n]? = some .late) (hlt : n < i) :
    Before (trailing k placements) (.script (k + i)) (.script (k + j)) := by
  induction placements generalizing i j k n with
  | nil => simp at hj
  | cons q rest ih =>
    obtain ⟨i, rfl⟩ := Nat.exists_eq_add_one_of_ne_zero (Nat.ne_zero_of_lt hlt)
    obtain ⟨j, rfl⟩ := Nat.exists_eq_add_one_of_ne_zero (Nat.ne_zero_of_lt hij)
    cases q with
    | late =>
      have hbefore := before_scripts (k := k + 1) (Nat.lt_of_succ_lt_succ hij) hi hj
      rwa [Nat.add_right_comm, Nat.add_right_comm k 1 j] at hbefore
    | early =>
      cases n with
      | zero => cases hl
      | succ n =>
        have hbefore := ih (k := k + 1) (Nat.lt_of_succ_lt_succ hij) hi hj hl (Nat.lt_of_succ_lt_succ hlt)
        rwa [Nat.add_right_comm, Nat.add_right_comm k 1 j] at hbefore

lemma exists_late (hj : j < placements.length) (h : ¬ ∀ m ≤ j, placements[m]? = some .early) :
    ∃ n ≤ j, placements[n]? = some .late := by
  push Not at h
  obtain ⟨n, hn, hne⟩ := h
  have hget := List.getElem?_eq_getElem (show n < placements.length by omega)
  refine ⟨n, hn, ?_⟩
  cases hπ : placements[n] with
  | early => exact absurd (hget.trans (congrArg some hπ)) hne
  | late => exact hget.trans (congrArg some hπ)

lemma exists_late_lt (hj : placements[j]? = some .early) (h : ¬ ∀ m ≤ j, placements[m]? = some .early) :
    ∃ n < j, placements[n]? = some .late := by
  obtain ⟨n, hn, hlate⟩ := exists_late (List.getElem?_eq_some_iff.mp hj).1 h
  refine ⟨n, Nat.lt_of_le_of_ne hn fun heq => ?_, hlate⟩
  rw [heq, hj] at hlate
  cases hlate

/-! ## Where scripts end up -/

lemma place_early (h : A.length ≤ n) (bare : Bool) (B : List Origin) :
    place ⟨A.length, n, bare⟩ k (.early :: placements) (A ++ B) =
      place ⟨A.length, n + 1, bare⟩ (k + 1) placements (A ++ .script k :: B) := by
  rw [place, Slots.slot, List.insertIdx_length_append, Slots.next]
  simp only [if_pos h]

lemma place_late (bare : Bool) (B : List Origin) :
    place ⟨n, A.length, bare⟩ k (.late :: placements) (A ++ B) =
      place ⟨if bare then A.length else n, A.length + 1, false⟩ (k + 1) placements (A ++ .script k :: B) := by
  rw [place, Slots.slot, List.insertIdx_length_append, Slots.next]

/-- With an element in the body early scripts stand in reverse at the one slot, late scripts in order at the
other. -/
theorem place_of_not_bare (k : Nat) (placements : List Placement) (A M Z : List Origin) :
    place ⟨A.length, (A ++ M).length, false⟩ k placements (A ++ (M ++ Z)) =
      A ++ ((scripts .early k placements).reverse ++ (M ++ (scripts .late k placements ++ Z))) := by
  induction placements generalizing k M Z with
  | nil => rfl
  | cons π rest ih =>
    cases π with
    | early =>
      have hlength : (A ++ M).length + 1 = (A ++ Origin.script k :: M).length := by simp; omega
      rw [place_early (by simp), hlength, ← List.cons_append, ih]
      simp [scripts]
    | late =>
      have hlength : (A ++ M).length + 1 = (A ++ (M ++ [Origin.script k])).length := by simp; omega
      rw [← List.append_assoc, place_late, hlength]
      have hmove : A ++ M ++ .script k :: Z = A ++ ((M ++ [.script k]) ++ Z) := by simp
      rw [hmove, if_neg Bool.false_ne_true, ih]
      simp [scripts]

/-- With no element in the body, and the early slot first, the early scripts behind the first late one stand
right before it. -/
theorem place_of_bare_of_le (k : Nat) (placements : List Placement) (A M Z : List Origin) :
    place ⟨A.length, (A ++ M).length, true⟩ k placements (A ++ (M ++ Z)) =
      A ++ ((leading k placements).reverse ++ (M ++ ((trailing k placements).reverse ++
        (scripts .late k placements ++ Z)))) := by
  induction placements generalizing k M with
  | nil => rfl
  | cons π rest ih =>
    cases π with
    | early =>
      have hlength : (A ++ M).length + 1 = (A ++ Origin.script k :: M).length := by simp; omega
      rw [place_early (by simp), hlength, ← List.cons_append, ih]
      simp [scripts, leading, trailing]
    | late =>
      have hlength : (A ++ M).length + 1 = (A ++ M ++ [Origin.script k]).length := by simp; omega
      rw [← List.append_assoc, place_late, if_pos rfl, hlength]
      have hmove : A ++ M ++ .script k :: Z = A ++ M ++ ([.script k] ++ Z) := by simp
      rw [hmove, place_of_not_bare]
      simp [scripts, leading, trailing]

/-- With no element in the body, and the early slot behind it, all early scripts stand in reverse. -/
theorem place_of_bare_of_lt (k : Nat) (placements : List Placement) (A M Z : List Origin) (hM : M ≠ []) :
    place ⟨(A ++ M).length, A.length, true⟩ k placements (A ++ (M ++ Z)) =
      A ++ ((trailing k placements).reverse ++ (scripts .late k placements ++
        (M ++ ((leading k placements).reverse ++ Z)))) := by
  induction placements generalizing k Z with
  | nil => rfl
  | cons π rest ih =>
    cases π with
    | early =>
      have hlt : ¬ (A ++ M).length ≤ A.length := by
        have := List.length_pos_iff.mpr hM
        rw [List.length_append]
        omega
      have hmove : A ++ M ++ .script k :: Z = A ++ (M ++ .script k :: Z) := by simp
      rw [place, Slots.slot, Slots.next, ← List.append_assoc, List.insertIdx_length_append]
      simp only [if_neg hlt]
      rw [hmove, ih]
      simp [scripts, leading, trailing]
    | late =>
      have hlength : A.length + 1 = (A ++ [Origin.script k]).length := by simp
      rw [place_late, if_pos rfl, hlength]
      have hmove : A ++ .script k :: (M ++ Z) = A ++ ([.script k] ++ (M ++ Z)) := by simp
      rw [hmove, place_of_not_bare]
      simp [scripts, leading, trailing]

/-! ## Scripts and the page around them -/

lemma exists_eq_append (order : List Origin) {m n : Nat} (hmn : m ≤ n) (hn : n ≤ order.length) :
    ∃ A M Z, order = A ++ (M ++ Z) ∧ A.length = m ∧ (A ++ M).length = n ∧ order.take n = A ++ M ∧
      order.drop m = M ++ Z := by
  obtain ⟨d, rfl⟩ := Nat.exists_eq_add_of_le hmn
  have htake : order.take (m + d) = order.take m ++ (order.drop m).take d := List.take_add
  refine ⟨order.take m, (order.drop m).take d, (order.drop m).drop d, ?_, ?_, ?_, htake, ?_⟩
  · rw [List.take_append_drop, List.take_append_drop]
  · rw [List.length_take]
    omega
  · rw [← htake, List.length_take]
    omega
  · rw [List.take_append_drop]

lemma nodup_insertIdx {x : Origin} (hx : x ∉ order) (h : order.Nodup) (n : Nat) :
    (order.insertIdx n x).Nodup := by
  rcases Nat.lt_or_ge order.length n with hlt | hle
  · rwa [List.insertIdx_of_length_lt hlt]
  · exact (List.perm_insertIdx x order hle).nodup_iff.mpr (List.nodup_cons.mpr ⟨hx, h⟩)

lemma nodup_place (h : order.Nodup) (hnew : ∀ j, k ≤ j → .script j ∉ order) :
    (place s k placements order).Nodup := by
  induction placements generalizing s k order with
  | nil => exact h
  | cons π rest ih =>
    refine ih (nodup_insertIdx (hnew k (Nat.le_refl k)) h _) fun j hj hmem => ?_
    rcases List.eq_or_mem_of_mem_insertIdx hmem with heq | hmem
    · cases heq
      omega
    · exact hnew j (by omega) hmem

lemma mem_place {x : Origin} (h : x ∈ place s k placements order) : x ∈ order ∨ ∃ j, x = .script j := by
  induction placements generalizing s k order with
  | nil => exact Or.inl h
  | cons π rest ih =>
    rcases ih h with hmem | hex
    · rcases List.eq_or_mem_of_mem_insertIdx hmem with heq | hmem
      · exact Or.inr ⟨k, heq⟩
      · exact Or.inl hmem
    · exact Or.inr hex

lemma sublist_place : order.Sublist (place s k placements order) := by
  induction placements generalizing s k order with
  | nil => exact List.Sublist.refl _
  | cons π rest ih => exact (List.sublist_insertIdx _ _ _).trans ih

/-- Where the early slot comes first, late scripts stand behind all that is before the late slot, and in
order. -/
theorem before_place_late (hle : s.early ≤ s.late) (hlen : s.late ≤ order.length)
    (hj : placements[j]? = some .late) :
    (∀ x ∈ order.take s.late, Before (place s 0 placements order) x (.script j)) ∧
      ∀ i < j, placements[i]? = some .late →
        Before (place s 0 placements order) (.script i) (.script j) := by
  obtain ⟨early, late, bare⟩ := s
  obtain ⟨A, M, Z, rfl, rfl, rfl, htake, -⟩ := exists_eq_append order hle hlen
  have hmem : .script j ∈ scripts .late 0 placements := by simpa using mem_scripts (k := 0) hj
  have hbefore : ∀ i < j, placements[i]? = some .late →
      Before (scripts .late 0 placements) (.script i) (.script j) := fun i hij hi => by
    simpa using before_scripts (k := 0) hij hi hj
  rw [htake]
  cases bare with
  | false =>
    rw [place_of_not_bare]
    constructor
    · intro x hx
      rcases List.mem_append.mp hx with hx | hx
      · exact Before.of_mem hx (by simp [hmem])
      · exact ((Before.of_mem hx (by simp [hmem])).append_left).append_left
    · intro i hij hi
      exact (((hbefore i hij hi).append_right.append_left).append_left).append_left
  | true =>
    rw [place_of_bare_of_le]
    constructor
    · intro x hx
      rcases List.mem_append.mp hx with hx | hx
      · exact Before.of_mem hx (by simp [hmem])
      · exact ((Before.of_mem hx (by simp [hmem])).append_left).append_left
    · intro i hij hi
      exact ((((hbefore i hij hi).append_right.append_left).append_left).append_left).append_left

/-- Early scripts stand before late ones where the early slot comes first, and before everything behind that
slot if there is an element in the body. -/
theorem before_place_early (hle : s.early ≤ s.late) (hlen : s.late ≤ order.length)
    (hi : placements[i]? = some .early) :
    (s.bare = false → ∀ x ∈ order.drop s.early, Before (place s 0 placements order) (.script i) x) ∧
      ∀ j, placements[j]? = some .late →
        Before (place s 0 placements order) (.script i) (.script j) := by
  obtain ⟨early, late, bare⟩ := s
  obtain ⟨A, M, Z, rfl, rfl, rfl, -, hdrop⟩ := exists_eq_append order hle hlen
  have hlate : ∀ j, placements[j]? = some .late → .script j ∈ scripts .late 0 placements := fun j hj => by
    simpa using mem_scripts (k := 0) hj
  rw [hdrop]
  cases bare with
  | false =>
    have hmem : .script i ∈ (scripts .early 0 placements).reverse := by simpa using mem_scripts (k := 0) hi
    rw [place_of_not_bare]
    refine ⟨fun _ x hx => (Before.of_mem hmem ?_).append_left,
      fun j hj => (Before.of_mem hmem ?_).append_left⟩
    · rcases List.mem_append.mp hx with hx | hx <;> simp [hx]
    · simp [hlate j hj]
  | true =>
    refine ⟨fun h => Bool.noConfusion h, fun j hj => ?_⟩
    rw [place_of_bare_of_le]
    by_cases hall : ∀ m ≤ i, placements[m]? = some .early
    · have hmem : .script i ∈ leading 0 placements := by simpa using mem_leading (k := 0) hall
      exact (Before.of_mem (List.mem_reverse.mpr hmem) (by simp [hlate j hj])).append_left
    · obtain ⟨n, hn, hl⟩ := exists_late_lt hi hall
      have hmem : .script i ∈ trailing 0 placements := by simpa using mem_trailing (k := 0) hi hl hn
      have hlast : .script j ∈ scripts .late 0 placements ++ Z := by simp [hlate j hj]
      exact (((Before.of_mem (List.mem_reverse.mpr hmem) hlast).append_left).append_left).append_left

/-- Two early scripts stand in order if the first late one is between them and they go where the body is
without elements, behind a slot for early ones. -/
def Kept (s : Slots) (placements : List Placement) (i j : Nat) : Prop :=
  s.bare = true ∧ s.early ≤ s.late ∧ (∀ m ≤ i, placements[m]? = some .early) ∧
    ∃ n < j, placements[n]? = some .late

lemma early_cases (hij : i < j) (hi : placements[i]? = some .early) (hj : placements[j]? = some .early) :
    Before (leading 0 placements) (.script i) (.script j) ∨
      Before (trailing 0 placements) (.script i) (.script j) ∨
      (.script i ∈ leading 0 placements ∧ .script j ∈ trailing 0 placements ∧
        (∀ m ≤ i, placements[m]? = some .early) ∧ ∃ n < j, placements[n]? = some .late) := by
  by_cases hall : ∀ m ≤ j, placements[m]? = some .early
  · exact Or.inl (by simpa using before_leading (k := 0) hij hall)
  · obtain ⟨n, hn, hl⟩ := exists_late_lt hj hall
    by_cases hall' : ∀ m ≤ i, placements[m]? = some .early
    · exact Or.inr (Or.inr ⟨by simpa using mem_leading (k := 0) hall',
        by simpa using mem_trailing (k := 0) hj hl hn, hall', n, hn, hl⟩)
    · obtain ⟨n', hn', hl'⟩ := exists_late_lt hi hall'
      exact Or.inr (Or.inl (by simpa using before_trailing (k := 0) hij hi hj hl' hn'))

lemma before_place_of_kept (hlen : s.late ≤ order.length) (hj : placements[j]? = some .early)
    (h : Kept s placements i j) : Before (place s 0 placements order) (.script i) (.script j) := by
  obtain ⟨early, late, bare⟩ := s
  obtain ⟨rfl, hle, hall, n, hn, hl⟩ := h
  obtain ⟨A, M, Z, rfl, rfl, rfl, -, -⟩ := exists_eq_append order hle hlen
  have hi : .script i ∈ leading 0 placements := by simpa using mem_leading (k := 0) hall
  have hj : .script j ∈ trailing 0 placements := by simpa using mem_trailing (k := 0) hj hl hn
  rw [place_of_bare_of_le]
  exact (Before.of_mem (List.mem_reverse.mpr hi) (by simp [hj])).append_left

lemma before_place_of_not_kept (hearly : s.early ≤ order.length) (hlate : s.late ≤ order.length)
    (hbare : s.bare = false → s.early ≤ s.late) (hij : i < j) (hi : placements[i]? = some .early)
    (hj : placements[j]? = some .early) (h : ¬ Kept s placements i j) :
    Before (place s 0 placements order) (.script j) (.script i) := by
  obtain ⟨early, late, bare⟩ := s
  cases bare with
  | false =>
    obtain ⟨A, M, Z, rfl, rfl, rfl, -, -⟩ := exists_eq_append order (hbare rfl) hlate
    have hscripts : Before (scripts .early 0 placements) (.script i) (.script j) := by
      simpa using before_scripts (k := 0) hij hi hj
    rw [place_of_not_bare]
    exact hscripts.reverse.append_right.append_left
  | true =>
    rcases Nat.lt_or_ge late early with hlt | hle
    · obtain ⟨A, M, Z, rfl, rfl, rfl, -, -⟩ := exists_eq_append order (Nat.le_of_lt hlt) hearly
      have hM : M ≠ [] := by
        rintro rfl
        simp at hlt
      rw [place_of_bare_of_lt 0 placements A M Z hM]
      rcases early_cases hij hi hj with hlead | htrail | ⟨hlead, htrail, -⟩
      · exact (((hlead.reverse.append_right.append_left).append_left).append_left).append_left
      · exact htrail.reverse.append_right.append_left
      · exact (Before.of_mem (List.mem_reverse.mpr htrail) (by simp [hlead])).append_left
    · obtain ⟨A, M, Z, rfl, rfl, rfl, -, -⟩ := exists_eq_append order hle hlate
      rw [place_of_bare_of_le]
      rcases early_cases hij hi hj with hlead | htrail | ⟨-, -, hall, hex⟩
      · exact hlead.reverse.append_right.append_left
      · exact ((htrail.reverse.append_right.append_left).append_left).append_left
      · exact absurd ⟨rfl, hle, hall, hex⟩ h

end Origin

end Injection

end Userscript
