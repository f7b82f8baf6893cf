import Userscript.Injection.Insert
import Mathlib.Tactic.Lemma
import Mathlib.Data.List.Basic

/-!
# Pages as they are written

The tokens of a page stand in document order: an element begins with its start and ends behind everything it
holds. A leaf that is put in becomes one more token. The content of an element lies between two tokens, and
moves or grows with whatever is put in before its end.
-/

namespace List

lemma insertIdx_length_append {α : Type} (l l' : List α) (a : α) :
    (l ++ l').insertIdx l.length a = l ++ a :: l' := by
  induction l with
  | nil => rfl
  | cons b l ih => rw [cons_append, length_cons, insertIdx_succ_cons, ih, cons_append]

end List

namespace Userscript

/-- The start or the end of an element, or a node that holds nothing. -/
inductive Token where
  | start (name : Text)
  | finish
  | leaf (l : Leaf)
  deriving DecidableEq, Repr

def Token.isElement : Token → Bool
  | start _ => true
  | finish => false
  | leaf l => l.isScript

/-- Where the content of an element begins and where its end stands among the tokens. -/
structure Span where
  start : Nat
  stop : Nat
  deriving DecidableEq, Repr

namespace Span

def shift (k : Nat) (s : Span) : Span := ⟨k + s.start, k + s.stop⟩

def extend (p : Nat) (s : Span) : Span where
  start := if p < s.start then s.start + 1 else s.start
  stop := if p ≤ s.stop then s.stop + 1 else s.stop

variable {p : Nat} {s : Span}

lemma extend_shift (k p : Nat) (s : Span) : (s.shift k).extend (k + p) = (s.extend p).shift k := by
  simp only [extend, shift, Nat.add_lt_add_iff_left, Nat.add_le_add_iff_left, mk.injEq]
  constructor <;> split <;> omega

lemma extend_of_lt_start (h : p < s.start) (hs : s.start ≤ s.stop) : s.extend p = s.shift 1 := by
  have hstop : p ≤ s.stop := by omega
  simp only [extend, shift, if_pos h, if_pos hstop, Nat.add_comm]

lemma extend_of_within (h : s.start ≤ p) (h' : p ≤ s.stop) : s.extend p = ⟨s.start, s.stop + 1⟩ := by
  simp only [extend, if_neg (Nat.not_lt.mpr h), if_pos h']

lemma extend_of_stop_lt (h : s.stop < p) (hs : s.start ≤ s.stop) : s.extend p = s := by
  have hstart : ¬ p < s.start := by omega
  simp only [extend, if_neg hstart, if_neg (Nat.not_le.mpr h)]

end Span

namespace Nodes

def tokens : Nodes → List Token
  | nil => []
  | leaf l rest => .leaf l :: rest.tokens
  | element name children rest => .start name :: (children.tokens ++ .finish :: rest.tokens)

def span? (name : Text) : Nodes → Option Span
  | nil => none
  | leaf _ rest => (rest.span? name).map (·.shift 1)
  | element n children rest =>
    if n = name then some ⟨1, 1 + children.tokens.length⟩
    else ((children.span? name).map (·.shift 1)).or
      ((rest.span? name).map (·.shift (children.tokens.length + 2)))

variable {new : Leaf} {name other : Text} {p : Nat} {t t' : Nodes} {s : Span}

lemma hasElement_eq_any (t : Nodes) : t.hasElement = t.tokens.any Token.isElement := by
  induction t with
  | nil => rfl
  | leaf l rest ih => rw [hasElement, tokens, List.any_cons, ih, Token.isElement]
  | element name children rest => rfl

/-! ## Spans -/

lemma span?_eq_none_iff (name : Text) (t : Nodes) : t.span? name = none ↔ t.below? name = none := by
  induction t with
  | nil => simp [span?, below?]
  | leaf l rest ih => simp [span?, below?, ih]
  | element n children rest ihc ihr =>
    by_cases hn : n = name <;> simp [span?, below?, hn, ihc, ihr]

lemma span?_element_cases {n : Text} {children rest : Nodes}
    (h : (element n children rest).span? name = some s) :
    (n = name ∧ s = ⟨1, 1 + children.tokens.length⟩) ∨
      (n ≠ name ∧ ∃ s', children.span? name = some s' ∧ s = s'.shift 1) ∨
      (n ≠ name ∧ children.span? name = none ∧
        ∃ s', rest.span? name = some s' ∧ s = s'.shift (children.tokens.length + 2)) := by
  by_cases hn : n = name
  · simp only [span?, hn, if_true, Option.some.injEq] at h
    exact Or.inl ⟨hn, h.symm⟩
  · simp only [span?, hn, if_false] at h
    cases hc : children.span? name with
    | some s' =>
      rw [hc, Option.map_some, Option.some_or, Option.some.injEq] at h
      exact Or.inr (Or.inl ⟨hn, s', rfl, h.symm⟩)
    | none =>
      rw [hc, Option.map_none, Option.none_or] at h
      obtain ⟨s', hs', heq⟩ := Option.map_eq_some_iff.mp h
      exact Or.inr (Or.inr ⟨hn, rfl, s', hs', heq.symm⟩)

theorem exists_of_span? (h : t.span? name = some s) : ∃ before children after,
    t.tokens = before ++ .start name :: (children.tokens ++ .finish :: after) ∧
      t.below? name = some children ∧ s.start = before.length + 1 ∧
      s.stop = s.start + children.tokens.length := by
  induction t generalizing s with
  | nil => cases h
  | leaf l rest ih =>
    obtain ⟨s', hs', rfl⟩ := Option.map_eq_some_iff.mp h
    obtain ⟨before, children, after, htokens, hbelow, hstart, hstop⟩ := ih hs'
    refine ⟨.leaf l :: before, children, after, by rw [tokens, htokens]; rfl, hbelow, ?_, ?_⟩
    · simp only [Span.shift, List.length_cons]
      omega
    · simp only [Span.shift]
      omega
  | element n children rest ihc ihr =>
    rcases span?_element_cases h with ⟨rfl, rfl⟩ | ⟨hn, s', hs', rfl⟩ | ⟨hn, hc, s', hs', rfl⟩
    · exact ⟨[], children, rest.tokens, rfl, if_pos rfl, rfl, rfl⟩
    · obtain ⟨before, below, after, htokens, hbelow, hstart, hstop⟩ := ihc hs'
      refine ⟨.start n :: before, below, after ++ .finish :: rest.tokens, ?_, ?_, ?_, ?_⟩
      · rw [tokens, htokens]
        simp
      · simp [below?, hn, hbelow]
      · simp only [Span.shift, List.length_cons]
        omega
      · simp only [Span.shift]
        omega
    · obtain ⟨before, below, after, htokens, hbelow, hstart, hstop⟩ := ihr hs'
      rw [span?_eq_none_iff] at hc
      refine ⟨.start n :: (children.tokens ++ .finish :: before), below, after, ?_, ?_, ?_, ?_⟩
      · rw [tokens, htokens]
        simp
      · simp [below?, hn, hc, hbelow]
      · simp only [Span.shift, List.length_cons, List.length_append]
        omega
      · simp only [Span.shift]
        omega

lemma span_bounds (h : t.span? name = some s) :
    0 < s.start ∧ s.start ≤ s.stop ∧ s.stop < t.tokens.length := by
  obtain ⟨before, children, after, htokens, -, hstart, hstop⟩ := exists_of_span? h
  rw [htokens]
  simp only [List.length_append, List.length_cons]
  omega

theorem span_cases {s' : Span} (hne : name ≠ other) (h : t.span? name = some s)
    (h' : t.span? other = some s') :
    s.stop + 1 < s'.start ∨ s'.stop + 1 < s.start ∨ (s.start < s'.start ∧ s'.stop < s.stop) ∨
      (s'.start < s.start ∧ s.stop < s'.stop) := by
  induction t generalizing s s' with
  | nil => cases h
  | leaf l rest ih =>
    obtain ⟨r, hr, rfl⟩ := Option.map_eq_some_iff.mp h
    obtain ⟨r', hr', rfl⟩ := Option.map_eq_some_iff.mp h'
    have := ih hr hr'
    simp only [Span.shift]
    omega
  | element n children rest ihc ihr =>
    rcases span?_element_cases h with ⟨rfl, rfl⟩ | ⟨-, r, hr, rfl⟩ | ⟨-, -, r, hr, rfl⟩ <;>
      rcases span?_element_cases h' with ⟨rfl, rfl⟩ | ⟨-, r', hr', rfl⟩ | ⟨-, -, r', hr', rfl⟩ <;>
      simp only [Span.shift]
    -- The outermost element holds what is in its content and stands before what comes behind it.
    · exact absurd rfl hne
    · have := span_bounds hr'
      omega
    · have := span_bounds hr'
      omega
    · have := span_bounds hr
      omega
    · have := ihc hr hr'
      omega
    · have := span_bounds hr
      have := span_bounds hr'
      omega
    · have := span_bounds hr
      omega
    · have := span_bounds hr
      have := span_bounds hr'
      omega
    · have := ihr hr hr'
      omega

/-! ## Insertions -/

/-- The second forest is the first one with one leaf put in, as the token of that number. -/
inductive InsertedAt (new : Leaf) : Nat → Nodes → Nodes → Prop where
  | here (t : Nodes) : InsertedAt new 0 t (leaf new t)
  | past (l : Leaf) {p : Nat} {t t' : Nodes} :
    InsertedAt new p t t' → InsertedAt new (1 + p) (leaf l t) (leaf l t')
  | within (name : Text) (rest : Nodes) {p : Nat} {t t' : Nodes} :
    InsertedAt new p t t' → InsertedAt new (1 + p) (element name t rest) (element name t' rest)
  | beyond (name : Text) (children : Nodes) {p : Nat} {t t' : Nodes} :
    InsertedAt new p t t' → InsertedAt new (children.tokens.length + 2 + p)
      (element name children t) (element name children t')

theorem InsertedAt.exists_tokens (h : InsertedAt new p t t') : ∃ before after,
    before.length = p ∧ t.tokens = before ++ after ∧ t'.tokens = before ++ .leaf new :: after := by
  induction h with
  | here t => exact ⟨[], t.tokens, rfl, rfl, rfl⟩
  | past l _ ih =>
    obtain ⟨before, after, rfl, ht, ht'⟩ := ih
    exact ⟨.leaf l :: before, after, Nat.add_comm _ _, by rw [tokens, ht]; rfl, by rw [tokens, ht']; rfl⟩
  | within name rest _ ih =>
    obtain ⟨before, after, rfl, ht, ht'⟩ := ih
    refine ⟨.start name :: before, after ++ .finish :: rest.tokens, Nat.add_comm _ _, ?_, ?_⟩
    · rw [tokens, ht]
      simp
    · rw [tokens, ht']
      simp
  | beyond name children _ ih =>
    obtain ⟨before, after, rfl, ht, ht'⟩ := ih
    refine ⟨.start name :: (children.tokens ++ .finish :: before), after, ?_, ?_, ?_⟩
    · simp only [List.length_cons, List.length_append]
      omega
    · rw [tokens, ht]
      simp
    · rw [tokens, ht']
      simp

lemma InsertedAt.le (h : InsertedAt new p t t') : p ≤ t.tokens.length := by
  obtain ⟨before, after, rfl, ht, -⟩ := h.exists_tokens
  rw [ht, List.length_append]
  exact Nat.le_add_right _ _

lemma InsertedAt.length (h : InsertedAt new p t t') : t'.tokens.length = t.tokens.length + 1 := by
  obtain ⟨before, after, -, ht, ht'⟩ := h.exists_tokens
  rw [ht, ht', List.length_append, List.length_append, List.length_cons, Nat.add_assoc]

lemma InsertedAt.tokens (h : InsertedAt new p t t') : t'.tokens = t.tokens.insertIdx p (.leaf new) := by
  obtain ⟨before, after, rfl, ht, ht'⟩ := h.exists_tokens
  rw [ht, ht', List.insertIdx_length_append]

/-- The content of an element moves or grows with what is put in. -/
theorem InsertedAt.span? (h : InsertedAt new p t t') (name : Text) :
    t'.span? name = (t.span? name).map (·.extend p) := by
  induction h with
  | here t =>
    rw [Nodes.span?]
    refine Option.map_congr fun s hs => ?_
    have := span_bounds hs
    rw [Span.extend_of_lt_start (by omega) (by omega)]
  | past l _ ih =>
    rw [Nodes.span?, Nodes.span?, ih, Option.map_map, Option.map_map]
    exact Option.map_congr fun s _ => (s.extend_shift 1 _).symm
  | @within n rest p t t' hins ih =>
    have hle := hins.le
    by_cases hn : n = name
    · have hextend : Span.extend (1 + p) ⟨1, 1 + t.tokens.length⟩ = ⟨1, 1 + t.tokens.length + 1⟩ :=
        Span.extend_of_within (Nat.le_add_right 1 p) (Nat.add_le_add_left hle 1)
      simp only [Nodes.span?, hn, if_true, Option.map_some, hextend, hins.length, Nat.add_assoc]
    · simp only [Nodes.span?, hn, if_false, ih, hins.length, Option.map_or, Option.map_map]
      congr 1
      · exact Option.map_congr fun s _ => (s.extend_shift 1 _).symm
      · refine Option.map_congr fun s hs => ?_
        have := span_bounds hs
        have hextend : (s.shift (t.tokens.length + 2)).extend (1 + p) =
            (s.shift (t.tokens.length + 2)).shift 1 :=
          Span.extend_of_lt_start (by simp only [Span.shift]; omega) (by simp only [Span.shift]; omega)
        refine Eq.trans ?_ hextend.symm
        simp only [Span.shift, Span.mk.injEq]
        omega
  | @beyond n children p t t' hins ih =>
    by_cases hn : n = name
    · have hextend : Span.extend (children.tokens.length + 2 + p) ⟨1, 1 + children.tokens.length⟩ =
          ⟨1, 1 + children.tokens.length⟩ :=
        Span.extend_of_stop_lt (by simp only; omega) (Nat.le_add_right 1 _)
      simp only [Nodes.span?, hn, if_true, Option.map_some, hextend]
    · simp only [Nodes.span?, hn, if_false, ih, Option.map_or, Option.map_map]
      congr 1
      · refine Option.map_congr fun s hs => ?_
        have := span_bounds hs
        exact (Span.extend_of_stop_lt (by simp only [Span.shift]; omega)
          (by simp only [Span.shift]; omega)).symm
      · exact Option.map_congr fun s _ => (s.extend_shift _ _).symm

/-! ## Operations -/

lemma insertedAt_putLast (new : Leaf) (t : Nodes) :
    InsertedAt new t.tokens.length t (t.putLast new) := by
  induction t with
  | nil => exact .here nil
  | leaf l rest ih =>
    rw [tokens, List.length_cons, Nat.add_comm]
    exact .past l ih
  | element name children rest _ ih =>
    have hlength : (element name children rest).tokens.length =
        children.tokens.length + 2 + rest.tokens.length := by
      simp only [tokens, List.length_cons, List.length_append]
      omega
    rw [hlength]
    exact .beyond name children ih

lemma insertedAt_putBeforeElement (new : Leaf) {t : Nodes} (h : t.hasElement = true) :
    InsertedAt new (t.tokens.findIdx Token.isElement) t (t.putBeforeElement new) := by
  induction t with
  | nil => cases h
  | leaf l rest ih =>
    by_cases hl : l.isScript = true
    · simp only [putBeforeElement, hl, if_true, tokens, List.findIdx_cons, Token.isElement]
      exact .here _
    · simp only [hasElement, hl, Bool.false_or] at h
      simp only [putBeforeElement, hl, Bool.false_eq_true, if_false, tokens, List.findIdx_cons,
        Token.isElement, cond_false, Nat.add_comm _ 1]
      exact .past l (ih h)
  | element name children rest => exact .here _

lemma insertedAt_putAfter {name : Text} (new : Leaf) {t : Nodes} {s : Span}
    (h : t.span? name = some s) : InsertedAt new (s.stop + 1) t (t.putAfter name new) := by
  induction t generalizing s with
  | nil => cases h
  | leaf l rest ih =>
    obtain ⟨s', hs', rfl⟩ := Option.map_eq_some_iff.mp h
    rw [Span.shift, Nat.add_assoc]
    exact .past l (ih hs')
  | element n children rest ihc ihr =>
    rcases span?_element_cases h with ⟨rfl, rfl⟩ | ⟨hn, s', hs', rfl⟩ | ⟨hn, hc, s', hs', rfl⟩
    · have hplace : 1 + children.tokens.length + 1 = children.tokens.length + 2 + 0 := by omega
      simp only [putAfter, if_true, hplace]
      exact .beyond n children (.here rest)
    · have hhas : children.has name = true := by
        obtain ⟨-, below, -, -, hbelow, -⟩ := exists_of_span? hs'
        rw [has, hbelow]
        rfl
      simp only [putAfter, hn, hhas, if_true, if_false, Span.shift, Nat.add_assoc 1]
      exact .within n rest (ihc hs')
    · have hhas : children.has name = false := by
        rw [has, (span?_eq_none_iff name children).mp hc]
        rfl
      simp only [putAfter, hn, hhas, Bool.false_eq_true, if_false, Span.shift, Nat.add_assoc _ _ 1]
      exact .beyond n children (ihr hs')

lemma insertedAt_changeBelow {name : Text} {new : Leaf} {f : Nodes → Nodes} {t below : Nodes} {s : Span}
    {p : Nat} (hspan : t.span? name = some s) (hbelow : t.below? name = some below)
    (hf : InsertedAt new p below (f below)) :
    InsertedAt new (s.start + p) t (t.changeBelow name f) := by
  induction t generalizing s with
  | nil => cases hspan
  | leaf l rest ih =>
    obtain ⟨s', hs', rfl⟩ := Option.map_eq_some_iff.mp hspan
    rw [Span.shift, Nat.add_assoc]
    exact .past l (ih hs' hbelow)
  | element n children rest ihc ihr =>
    rcases span?_element_cases hspan with ⟨rfl, rfl⟩ | ⟨hn, s', hs', rfl⟩ | ⟨hn, hc, s', hs', rfl⟩
    · simp only [below?, if_true, Option.some.injEq] at hbelow
      subst hbelow
      simp only [changeBelow, if_true]
      exact .within n rest hf
    · obtain ⟨-, content, -, -, hcontent, -⟩ := exists_of_span? hs'
      simp only [below?, hn, hcontent, if_false, Option.some_or, Option.some.injEq] at hbelow
      subst hbelow
      simp only [changeBelow, hn, has, hcontent, Option.isSome_some, if_true, if_false, Span.shift,
        Nat.add_assoc]
      exact .within n rest (ihc hs' hcontent)
    · rw [span?_eq_none_iff] at hc
      simp only [below?, hn, hc, if_false, Option.none_or] at hbelow
      simp only [changeBelow, hn, has, hc, Option.isSome_none, Bool.false_eq_true, if_false, Span.shift,
        Nat.add_assoc _ s'.start]
      exact .beyond n children (ihr hs' hbelow)

/-- The number of the token that a node on top of a page becomes. -/
def topSlot : Nodes → Nat
  | leaf .doctype _ => 1
  | _ => 0

lemma insertedAt_putOnTop (new : Leaf) (t : Nodes) : InsertedAt new t.topSlot t (t.putOnTop new) := by
  cases t with
  | leaf l rest =>
    cases l with
    | doctype => exact .past .doctype (.here rest)
    | _ => exact .here _
  | _ => exact .here _

end Nodes

end Userscript
