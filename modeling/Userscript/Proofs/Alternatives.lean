import Userscript.Regex.Footprint
import Userscript.Regex.Matcher
import Userscript.Regex.Parser
import Mathlib.Tactic.Lemma
import Mathlib.Algebra.Order.BigOperators.Group.List
import Mathlib.Algebra.Order.Ring.Nat

/-!
# Alternatives

An expression made of alternatives matches where one of them does, both anywhere in a text and as a whole. It
is at least as deep and as large as what some of its alternatives make together, so these keep within every
limit that it keeps.
-/

namespace Userscript.Regex

lemma mem_merge {x : Nat} (xs ys : List Nat) : x ∈ merge xs ys ↔ x ∈ xs ∨ x ∈ ys := by
  induction xs, ys using merge.induct with
  | case1 ys => simp [merge]
  | case2 y ys => simp [merge]
  | case3 a as b bs h ih =>
    simp only [merge, h, if_true, List.mem_cons, ih]
    tauto
  | case4 a as b bs h h' ih =>
    simp only [merge, h, h', if_true, if_false, List.mem_cons, ih]
    tauto
  | case5 a as b bs h h' ih =>
    have hab : a = b := by omega
    rw [merge, if_neg h, if_neg h', List.mem_cons, List.mem_cons, List.mem_cons, ih, hab]
    tauto

theorem mem_ends_altAll {rs : List Regex} (hne : rs ≠ []) (text : Array Char) (s : List Nat)
    (j : Nat) : j ∈ (altAll rs).ends text s ↔ ∃ r ∈ rs, j ∈ r.ends text s := by
  induction rs with
  | nil => exact absurd rfl hne
  | cons r rs ih =>
    cases rs with
    | nil => simp [altAll]
    | cons r' rs =>
      rw [altAll, ends, mem_merge, ih (List.cons_ne_nil _ _)]
      simp only [List.mem_cons, exists_eq_or_imp]

lemma isMatch_iff (r : Regex) (t : Text) :
    r.isMatch t = true ↔ ∃ j, j ∈ r.ends t.toArray (List.range (t.length + 1)) := by
  rw [isMatch, Bool.not_eq_true', List.isEmpty_eq_false_iff_exists_mem]

theorem isMatch_altAll {rs : List Regex} (hne : rs ≠ []) (t : Text) :
    (altAll rs).isMatch t = true ↔ ∃ r ∈ rs, r.isMatch t = true := by
  simp only [isMatch_iff, mem_ends_altAll hne]
  exact ⟨fun ⟨j, r, hr, hj⟩ => ⟨r, hr, j, hj⟩, fun ⟨r, hr, j, hj⟩ => ⟨j, r, hr, hj⟩⟩

def whole (r : Regex) : Regex := cat (look .textStart) (cat r (look .textEnd))

lemma isMatch_whole_iff (r : Regex) (t : Text) :
    r.whole.isMatch t = true ↔
      ∃ j ∈ r.ends t.toArray ((List.range (t.length + 1)).filter
        (Assertion.textStart.holds t.toArray)), Assertion.textEnd.holds t.toArray j = true := by
  simp only [isMatch_iff, whole, ends, List.mem_filter]

/-- Alternatives match a text as a whole just when one of them does. -/
theorem isMatch_whole_altAll {rs : List Regex} (hne : rs ≠ []) (t : Text) :
    (altAll rs).whole.isMatch t = true ↔ ∃ r ∈ rs, r.whole.isMatch t = true := by
  simp only [isMatch_whole_iff, mem_ends_altAll hne]
  constructor
  · rintro ⟨j, ⟨r, hr, hj⟩, hend⟩
    exact ⟨r, hr, j, hj, hend⟩
  · rintro ⟨r, hr, j, hj, hend⟩
    exact ⟨j, ⟨r, hr, hj⟩, hend⟩

lemma footprint_altAll {rs : List Regex} (hne : rs ≠ []) :
    (altAll rs).footprint = (rs.map footprint).sum + (rs.length - 1) * (stateSize + 8) := by
  induction rs with
  | nil => exact absurd rfl hne
  | cons r rs ih =>
    cases rs with
    | nil => simp [altAll]
    | cons r' rs =>
      rw [altAll, footprint, ih (List.cons_ne_nil _ _)]
      simp only [List.map_cons, List.sum_cons, List.length_cons, Nat.add_sub_cancel, Nat.add_mul]
      omega

theorem footprint_altAll_le {rs rs' : List Regex} (hne : rs ≠ []) (h : rs.Sublist rs') :
    (altAll rs).footprint ≤ (altAll rs').footprint := by
  have hne' : rs' ≠ [] := fun h' => hne (List.sublist_nil.mp (h' ▸ h))
  have hsum : (rs.map footprint).sum ≤ (rs'.map footprint).sum :=
    (h.map footprint).sum_le_sum fun _ _ => Nat.zero_le _
  have hlen : rs.length - 1 ≤ rs'.length - 1 := Nat.sub_le_sub_right h.length_le 1
  rw [footprint_altAll hne, footprint_altAll hne']
  exact Nat.add_le_add hsum (Nat.mul_le_mul_right _ hlen)

lemma foldl_max_le_iff (ns : List Nat) (m bound : Nat) :
    ns.foldl Nat.max m ≤ bound ↔ m ≤ bound ∧ ∀ n ∈ ns, n ≤ bound := by
  induction ns generalizing m with
  | nil => simp
  | cons n ns ih =>
    rw [List.foldl_cons, ih, List.forall_mem_cons, Nat.max_le, and_assoc]

lemma foldl_max_le_of_subset {ns ms : List Nat} (h : ns ⊆ ms) :
    ns.foldl Nat.max 0 ≤ ms.foldl Nat.max 0 := by
  have hms := (foldl_max_le_iff ms 0 _).mp (Nat.le_refl _)
  exact (foldl_max_le_iff ns 0 _).mpr ⟨Nat.zero_le _, fun n hn => hms.2 n (h hn)⟩

def depthOf : List (Regex × Nat) → Nat
  | [a] => a.2
  | as => (as.map Prod.snd).foldl Nat.max 0 + 1

theorem depthOf_le {as bs : List (Regex × Nat)} (hne : as ≠ []) (h : as.Sublist bs) :
    depthOf as ≤ depthOf bs := by
  have hmax := foldl_max_le_of_subset (h.map Prod.snd).subset
  cases as with
  | nil => exact absurd rfl hne
  | cons a as =>
    cases as with
    | nil =>
      cases bs with
      | nil => cases h
      | cons b bs =>
        cases bs with
        | nil =>
          have hab : a = b := List.mem_singleton.mp (h.subset List.mem_cons_self)
          rw [hab]
        | cons b' bs =>
          have ha := ((foldl_max_le_iff _ 0 _).mp hmax).2 a.2 (by simp)
          exact Nat.le_succ_of_le ha
    | cons a' as =>
      cases bs with
      | nil => cases h
      | cons b bs =>
        cases bs with
        | nil => exact absurd h.length_le (by simp)
        | cons b' bs => exact Nat.succ_le_succ hmax

namespace Level

def alternatives (level : Level) : List (Regex × Nat) := (level.branch :: level.branches).reverse

lemma alternatives_ne_nil (level : Level) : level.alternatives ≠ [] := by
  simp [alternatives]

/-- Closing a level makes one expression of its alternatives. -/
theorem close_eq (level : Level) :
    level.close = (altAll (level.alternatives.map Prod.fst), depthOf level.alternatives) := by
  obtain ⟨branches, pieces⟩ := level
  cases branches with
  | nil => rfl
  | cons b bs =>
    have hdepth : ∀ a as, depthOf ((a :: b :: as).reverse) =
        (((a :: b :: as).reverse).map Prod.snd).foldl Nat.max 0 + 1 := by
      intro a as
      unfold depthOf
      split
      · rename_i h
        exact absurd (congrArg List.length h) (by simp)
      · rfl
    rw [alternatives, hdepth]
    rfl

end Level

end Userscript.Regex
