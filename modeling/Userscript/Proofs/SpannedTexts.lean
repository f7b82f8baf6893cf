import Userscript.Proofs.GlobRules
import Userscript.Proofs.LookAhead

/-!
# The texts that expressions take

Whether an expression without assertions matches a part of a text depends on nothing that stands before or
behind the part. So such an expression stands for a set of texts, which is put together in the same manner as
the expression, and between the start and the end of a text it matches just the texts of its set.
-/

namespace Userscript.Regex

/-- A relation between the positions of each text holds between the ends of just those parts that are of a kind,
wherever they stand. -/
def Delimits (spans : Array Char → Nat → Nat → Prop) (texts : Text → Prop) : Prop :=
  ∀ before part after : Text,
    spans (before ++ (part ++ after)).toArray before.length (before.length + part.length) ↔ texts part

def Forward (spans : Array Char → Nat → Nat → Prop) : Prop :=
  ∀ text i j, i ≤ text.size → spans text i j → i ≤ j ∧ j ≤ text.size

namespace Delimits

variable {p q : Array Char → Nat → Nat → Prop} {texts texts' : Text → Prop} {before a b after : Text}

lemma congr (h : Delimits p texts) (heq : ∀ t, texts t ↔ texts' t) : Delimits p texts' :=
  fun before part after => (h before part after).trans (heq part)

lemma left (h : Delimits p texts) :
    p (before ++ ((a ++ b) ++ after)).toArray before.length (before.length + a.length) ↔ texts a := by
  rw [List.append_assoc]
  exact h before a (b ++ after)

lemma right (h : Delimits p texts) :
    p (before ++ ((a ++ b) ++ after)).toArray (before.length + a.length)
      (before.length + (a ++ b).length) ↔ texts b := by
  have htext : before ++ ((a ++ b) ++ after) = (before ++ a) ++ (b ++ after) := by simp
  rw [htext, List.length_append, ← Nat.add_assoc, ← List.length_append]
  exact h (before ++ a) b after

lemma comp (hp : Delimits p texts) (hq : Delimits q texts') (hpf : Forward p) (hqf : Forward q) :
    Delimits (fun text i j => ∃ k, p text i k ∧ q text k j)
      fun t => ∃ a b, t = a ++ b ∧ texts a ∧ texts' b := by
  intro before part after
  constructor
  · rintro ⟨k, hpk, hqk⟩
    have hstart : before.length ≤ (before ++ (part ++ after)).toArray.size := by simp
    obtain ⟨hik, hk⟩ := hpf _ _ _ hstart hpk
    have hkj := (hqf _ _ _ hk hqk).1
    obtain ⟨a, b, rfl, rfl⟩ : ∃ a b, part = a ++ b ∧ k = before.length + a.length := by
      refine ⟨part.take (k - before.length), part.drop (k - before.length),
        (List.take_append_drop _ _).symm, ?_⟩
      rw [List.length_take]
      omega
    exact ⟨a, b, rfl, hp.left.mp hpk, hq.right.mp hqk⟩
  · rintro ⟨a, b, rfl, ha, hb⟩
    exact ⟨_, hp.left.mpr ha, hq.right.mpr hb⟩

end Delimits

/-- An expression takes just the texts of a kind, whatever stands around them. -/
def Takes (r : Regex) (texts : Text → Prop) : Prop := Delimits (fun text => r.Spans text) texts

variable {r s : Regex} {texts texts' : Text → Prop}

lemma forward_spans (r : Regex) : Forward fun text => r.Spans text :=
  fun text i j => (steps_ends text r).forward i j

lemma Takes.congr (h : r.Takes texts) (heq : ∀ t, texts t ↔ texts' t) : r.Takes texts' :=
  Delimits.congr h heq

lemma takes_empty : empty.Takes (· = []) := by
  intro before part after
  simp only [Spans]
  rw [left_eq_add, List.length_eq_zero_iff]

lemma takes_chars (set : CharSet) :
    (chars set).Takes fun t => ∃ c, t = [c] ∧ set.contains c = true := by
  intro before part after
  cases part with
  | nil => simp [Spans]
  | cons c part =>
    have hfirst : (before ++ (c :: part ++ after)).toArray[before.length]? = some c := by simp
    simp only [Spans, hfirst, Option.some.injEq, exists_eq_left', List.cons.injEq, List.length_cons]
    constructor
    · rintro ⟨hlength, hset⟩
      exact ⟨c, ⟨rfl, List.length_eq_zero_iff.mp (by omega)⟩, hset⟩
    · rintro ⟨c', ⟨rfl, rfl⟩, hset⟩
      exact ⟨rfl, hset⟩

lemma Takes.cat (hr : r.Takes texts) (hs : s.Takes texts') :
    (cat r s).Takes fun t => ∃ a b, t = a ++ b ∧ texts a ∧ texts' b :=
  Delimits.comp hr hs (forward_spans r) (forward_spans s)

lemma Takes.capture (name : Option Text) (hr : r.Takes texts) : (capture name r).Takes texts := hr

lemma forward_chain (r : Regex) (n : Nat) : Forward fun text => Chain (r.Spans text) n :=
  fun text _ _ hi hchain => (steps_ends text r).chain_forward hchain hi

lemma Takes.chain (hr : r.Takes texts) (n : Nat) :
    Delimits (fun text => Chain (r.Spans text) n)
      fun t => ∃ ts : List Text, ts.length = n ∧ t = ts.flatten ∧ ∀ u ∈ ts, texts u := by
  induction n with
  | zero =>
    intro before part after
    simp only [chain_zero_iff]
    rw [left_eq_add, List.length_eq_zero_iff]
    simp [List.length_eq_zero_iff]
  | succ n ih =>
    have hcomp := Delimits.comp hr ih (forward_spans r) (forward_chain r n)
    intro before part after
    simp only [chain_succ_iff]
    refine (hcomp before part after).trans ?_
    constructor
    · rintro ⟨a, -, rfl, ha, ts, rfl, rfl, hts⟩
      exact ⟨a :: ts, rfl, rfl, List.forall_mem_cons.mpr ⟨ha, hts⟩⟩
    · rintro ⟨ts, hlength, rfl, hts⟩
      obtain ⟨a, ts, rfl⟩ := List.exists_cons_of_length_eq_add_one hlength
      obtain ⟨ha, hts⟩ := List.forall_mem_cons.mp hts
      exact ⟨a, ts.flatten, rfl, ha, ts, Nat.succ.inj hlength, rfl, hts⟩

lemma Takes.rep (hr : r.Takes texts) (min : Nat) (max : Option Nat) (greedy : Bool) :
    (rep min max greedy r).Takes fun t => ∃ ts : List Text, min ≤ ts.length ∧
      (∀ m, max = some m → ts.length ≤ m) ∧ t = ts.flatten ∧ ∀ u ∈ ts, texts u := by
  intro before part after
  simp only [Spans, hr.chain _ before part after]
  constructor
  · rintro ⟨-, hmin, hmax, ts, rfl, hts⟩
    exact ⟨ts, hmin, hmax, hts⟩
  · rintro ⟨ts, hmin, hmax, hts⟩
    exact ⟨_, hmin, hmax, ts, rfl, hts⟩

lemma Takes.optional (hr : r.Takes texts) (greedy : Bool) :
    (Regex.rep 0 (some 1) greedy r).Takes fun t => t = [] ∨ texts t := by
  refine (hr.rep 0 (some 1) greedy).congr fun t => ?_
  simp only [Nat.zero_le, true_and, Option.some.injEq, forall_eq']
  constructor
  · rintro ⟨_ | ⟨a, _ | ⟨b, ts⟩⟩, hlength, rfl, hts⟩
    · exact Or.inl rfl
    · exact Or.inr (by simpa using hts)
    · simp at hlength
  · rintro (rfl | ht)
    · exact ⟨[], by simp⟩
    · exact ⟨[t], by simpa using ht⟩

lemma length_flatten_of_single {p : Char → Prop} {ts : List Text}
    (hts : ∀ u ∈ ts, ∃ c, u = [c] ∧ p c) : ts.flatten.length = ts.length ∧ ∀ c ∈ ts.flatten, p c := by
  induction ts with
  | nil => simp
  | cons u ts ih =>
    obtain ⟨⟨c, rfl, hc⟩, hrest⟩ := List.forall_mem_cons.mp hts
    obtain ⟨hlength, hall⟩ := ih hrest
    exact ⟨by simp [hlength], List.forall_mem_cons.mpr ⟨hc, hall⟩⟩

/-- Characters of a set, at least so many of them. -/
lemma takes_run (min : Nat) (greedy : Bool) (set : CharSet) :
    (Regex.rep min none greedy (chars set)).Takes fun t =>
      min ≤ t.length ∧ ∀ c ∈ t, set.contains c = true := by
  refine ((takes_chars set).rep min none greedy).congr fun t => ?_
  constructor
  · rintro ⟨ts, hmin, -, rfl, hts⟩
    obtain ⟨hlength, hall⟩ := length_flatten_of_single hts
    exact ⟨hlength ▸ hmin, hall⟩
  · rintro ⟨hmin, ht⟩
    refine ⟨t.map fun c => [c], by simpa using hmin, by simp, ?_, by simpa using ht⟩
    exact (List.flatMap_singleton' t).symm

variable {rs rs' : List Regex}

lemma spans_catAll_cons {text : Array Char} {i j : Nat} :
    (catAll (r :: rs)).Spans text i j ↔ ∃ k, r.Spans text i k ∧ (catAll rs).Spans text k j := by
  cases rs with
  | nil => simp [catAll, Spans]
  | cons s rs => rfl

lemma spans_catAll_append {text : Array Char} {i j : Nat} :
    (catAll (rs ++ rs')).Spans text i j ↔
      ∃ k, (catAll rs).Spans text i k ∧ (catAll rs').Spans text k j := by
  induction rs generalizing i with
  | nil => simp [catAll, Spans]
  | cons r rs ih =>
    simp only [List.cons_append, spans_catAll_cons, ih]
    constructor
    · rintro ⟨l, hl, k, hk, hj⟩
      exact ⟨k, ⟨l, hl, hk⟩, hj⟩
    · rintro ⟨k, ⟨l, hl, hk⟩, hj⟩
      exact ⟨l, hl, k, hk, hj⟩

lemma Takes.catAll_cons (hr : r.Takes texts) (hrs : (catAll rs).Takes texts') :
    (catAll (r :: rs)).Takes fun t => ∃ a b, t = a ++ b ∧ texts a ∧ texts' b :=
  fun before part after => spans_catAll_cons.trans (hr.cat hrs before part after)

lemma Takes.catAll_append (hrs : (catAll rs).Takes texts) (hrs' : (catAll rs').Takes texts') :
    (catAll (rs ++ rs')).Takes fun t => ∃ a b, t = a ++ b ∧ texts a ∧ texts' b :=
  fun before part after => spans_catAll_append.trans (hrs.cat hrs' before part after)

/-- Between the start and the end of a text only the texts that the expressions in a row take are matched. -/
theorem isMatch_fromStartToEnd_iff (hrs : (catAll rs).Takes texts) (t : Text) :
    (fromStartToEnd rs).isMatch t = true ↔ texts t := by
  have hwhole : (catAll rs).Spans t.toArray 0 t.toArray.size ↔ texts t := by
    simpa using hrs [] t []
  have hspans : ∀ i j, (fromStartToEnd rs).Spans t.toArray i j ↔
      (cat (look .textStart) (cat (catAll rs) (look .textEnd))).Spans t.toArray i j := fun i j =>
    spans_catAll_cons.trans (exists_congr fun k => and_congr_right fun _ => spans_catAll_append)
  rw [isMatch_iff_finds, ← hwhole, ← spans_to_end_iff (Nat.zero_le _), ← finds_textStart_iff]
  simp only [Finds, hspans]

end Userscript.Regex
