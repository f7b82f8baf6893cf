import Userscript.Rules.RuleSet
import Mathlib.Data.List.Basic

/-!
# Rules without repeats

The run over the rules remembers what it has seen, keeps what is new and counts the rest. What it keeps is every
rule once, in the order in which they occur first, and a rule that is not kept has been counted. It matters only
which rules have been seen, so rules that come first may have lost their repeats already.
-/

namespace Userscript.RuleSet

variable {seen seen' rules : List Text} {rule : Text}

lemma dropRepeats_cons_of_mem (h : rule ∈ seen) (rules : List Text) :
    dropRepeats seen (rule :: rules) = dropRepeats seen rules := by
  rw [dropRepeats, if_pos (List.contains_iff_mem.mpr h)]

lemma dropRepeats_cons_of_not_mem (h : rule ∉ seen) (rules : List Text) :
    dropRepeats seen (rule :: rules) = rule :: dropRepeats (rule :: seen) rules := by
  rw [dropRepeats, if_neg (List.contains_iff_mem.not.mpr h)]

lemma countRepeats_cons_of_mem (h : rule ∈ seen) (rules : List Text) :
    countRepeats seen (rule :: rules) = countRepeats seen rules + 1 := by
  rw [countRepeats, if_pos (List.contains_iff_mem.mpr h)]

lemma countRepeats_cons_of_not_mem (h : rule ∉ seen) (rules : List Text) :
    countRepeats seen (rule :: rules) = countRepeats (rule :: seen) rules := by
  rw [countRepeats, if_neg (List.contains_iff_mem.not.mpr h)]

theorem mem_dropRepeats_iff : rule ∈ dropRepeats seen rules ↔ rule ∈ rules ∧ rule ∉ seen := by
  induction rules generalizing seen with
  | nil => simp [dropRepeats]
  | cons r rules ih =>
    by_cases hr : r ∈ seen
    · rw [dropRepeats_cons_of_mem hr, ih, List.mem_cons]
      refine and_congr_left fun hrule => (or_iff_right ?_).symm
      rintro rfl
      exact hrule hr
    · rw [dropRepeats_cons_of_not_mem hr, List.mem_cons, ih, List.mem_cons, List.mem_cons]
      by_cases hrule : rule = r
      · simp [hrule, hr]
      · simp [hrule]

theorem pairwise_dropRepeats (seen rules : List Text) :
    (dropRepeats seen rules).Pairwise fun r r' => rules.idxOf r < rules.idxOf r' := by
  induction rules generalizing seen with
  | nil => exact .nil
  | cons r rules ih =>
    -- Behind the first rule every other one has its first occurrence one place further on.
    have hrest (seen : List Text) (hr : r ∈ seen) : (dropRepeats seen rules).Pairwise
        fun p q => (r :: rules).idxOf p < (r :: rules).idxOf q := by
      refine (ih seen).imp_of_mem fun {p q} hp hq hlt => ?_
      have hne {x : Text} (hx : x ∈ dropRepeats seen rules) : r ≠ x := by
        rintro rfl
        exact (mem_dropRepeats_iff.mp hx).2 hr
      rw [List.idxOf_cons_ne _ (hne hp), List.idxOf_cons_ne _ (hne hq)]
      exact Nat.succ_lt_succ hlt
    by_cases hr : r ∈ seen
    · rw [dropRepeats_cons_of_mem hr]
      exact hrest seen hr
    · rw [dropRepeats_cons_of_not_mem hr]
      refine .cons (fun q hq => ?_) (hrest _ List.mem_cons_self)
      have hne : r ≠ q := by
        rintro rfl
        exact (mem_dropRepeats_iff.mp hq).2 List.mem_cons_self
      rw [List.idxOf_cons_self, List.idxOf_cons_ne _ hne]
      exact Nat.succ_pos _

theorem length_dropRepeats_add_countRepeats (seen rules : List Text) :
    (dropRepeats seen rules).length + countRepeats seen rules = rules.length := by
  induction rules generalizing seen with
  | nil => rfl
  | cons r rules ih =>
    by_cases hr : r ∈ seen
    · rw [dropRepeats_cons_of_mem hr, countRepeats_cons_of_mem hr, ← Nat.add_assoc, ih, List.length_cons]
    · rw [dropRepeats_cons_of_not_mem hr, countRepeats_cons_of_not_mem hr, List.length_cons,
        Nat.add_right_comm, ih, List.length_cons]

lemma dropRepeats_congr (h : ∀ r, r ∈ seen ↔ r ∈ seen') (rules : List Text) :
    dropRepeats seen rules = dropRepeats seen' rules := by
  induction rules generalizing seen seen' with
  | nil => rfl
  | cons r rules ih =>
    by_cases hr : r ∈ seen
    · rw [dropRepeats_cons_of_mem hr, dropRepeats_cons_of_mem ((h r).mp hr), ih h]
    · have hcons : ∀ q, q ∈ r :: seen ↔ q ∈ r :: seen' := by simp [h]
      rw [dropRepeats_cons_of_not_mem hr, dropRepeats_cons_of_not_mem ((h r).not.mp hr), ih hcons]

theorem dropRepeats_append (seen rules more : List Text) :
    dropRepeats seen (rules ++ more) = dropRepeats seen rules ++ dropRepeats (rules ++ seen) more := by
  induction rules generalizing seen with
  | nil => rfl
  | cons r rules ih =>
    rw [List.cons_append]
    by_cases hr : r ∈ seen
    · have hsame : ∀ q, q ∈ rules ++ seen ↔ q ∈ r :: rules ++ seen := by
        intro q
        simp only [List.cons_append, List.mem_cons, List.mem_append]
        exact (or_iff_right_of_imp (by rintro rfl; exact .inr hr)).symm
      rw [dropRepeats_cons_of_mem hr, dropRepeats_cons_of_mem hr, ih, dropRepeats_congr hsame]
    · have hsame : ∀ q, q ∈ rules ++ r :: seen ↔ q ∈ r :: rules ++ seen := by simp [or_left_comm]
      rw [dropRepeats_cons_of_not_mem hr, dropRepeats_cons_of_not_mem hr, ih, dropRepeats_congr hsame]
      rfl

lemma dropRepeats_eq_self (hnodup : rules.Nodup) (hnew : ∀ r ∈ rules, r ∉ seen) :
    dropRepeats seen rules = rules := by
  induction rules generalizing seen with
  | nil => rfl
  | cons r rules ih =>
    obtain ⟨hr, hnodup⟩ := List.nodup_cons.mp hnodup
    obtain ⟨hseen, hnew⟩ := List.forall_mem_cons.mp hnew
    rw [dropRepeats_cons_of_not_mem hseen, ih hnodup]
    intro q hq
    rw [List.mem_cons, not_or]
    exact ⟨fun heq => hr (heq ▸ hq), hnew q hq⟩

/-- The rules of a list are kept just where they occur first. -/
structure KeepsFirsts (rules kept : List Text) : Prop where
  nodup : kept.Nodup
  mem_iff : ∀ rule, rule ∈ kept ↔ rule ∈ rules
  ordered : kept.Pairwise fun r r' => rules.idxOf r < rules.idxOf r'

lemma nodup_distinct (rules : List Text) : (distinct rules).Nodup := by
  refine (pairwise_dropRepeats [] rules).imp fun {r r'} hlt heq => ?_
  rw [heq] at hlt
  exact Nat.lt_irrefl _ hlt

lemma mem_distinct_iff : rule ∈ distinct rules ↔ rule ∈ rules :=
  mem_dropRepeats_iff.trans (and_iff_left List.not_mem_nil)

lemma keepsFirsts_distinct (rules : List Text) : KeepsFirsts rules (distinct rules) where
  nodup := nodup_distinct rules
  mem_iff _ := mem_distinct_iff
  ordered := pairwise_dropRepeats [] rules

lemma distinct_eq_self (h : rules.Nodup) : distinct rules = rules :=
  dropRepeats_eq_self h fun _ _ => List.not_mem_nil

lemma distinct_append (rules more : List Text) :
    distinct (rules ++ more) = distinct rules ++ dropRepeats rules more := by
  rw [distinct, dropRepeats_append, List.append_nil, distinct]

lemma distinct_distinct_append (rules more : List Text) :
    distinct (distinct rules ++ more) = distinct (rules ++ more) := by
  rw [distinct_append, distinct_append, distinct_eq_self (nodup_distinct rules),
    dropRepeats_congr fun _ => mem_distinct_iff]

lemma counts_before_eq (rules : List Text) :
    (counts rules).before = (counts rules).after + (counts rules).dropped :=
  (length_dropRepeats_add_countRepeats [] rules).symm

lemma dropped_eq_zero (h : rules.Nodup) : (counts rules).dropped = 0 := by
  have hlength := counts_before_eq rules
  rw [counts, distinct_eq_self h] at hlength
  exact Nat.left_eq_add.mp hlength

/-- Dropping repeats keeps each rule where it occurs first, and the numbers say how many rules there were, are and
are gone. Rules before others may lose their repeats on their own, and a second time nothing is dropped. -/
theorem keepsFirsts_distinct_and_append (rules more : List Text) :
    KeepsFirsts rules (distinct rules) ∧
      ((counts rules).before = rules.length ∧ (counts rules).after = (distinct rules).length ∧
        (counts rules).before = (counts rules).after + (counts rules).dropped) ∧
      distinct (rules ++ more) = distinct (distinct rules ++ more) ∧
      distinct (distinct rules) = distinct rules ∧ (counts (distinct rules)).dropped = 0 :=
  ⟨keepsFirsts_distinct rules, ⟨rfl, rfl, counts_before_eq rules⟩,
    (distinct_distinct_append rules more).symm, distinct_eq_self (nodup_distinct rules),
    dropped_eq_zero (nodup_distinct rules)⟩

example : (distinct ["b".toList, "a".toList, "b".toList, "c".toList, "a".toList],
      counts ["b".toList, "a".toList, "b".toList, "c".toList, "a".toList]) =
    (["b".toList, "a".toList, "c".toList], ⟨5, 3, 2⟩) := by decide

end Userscript.RuleSet
