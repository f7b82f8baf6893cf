import Userscript.Proofs.PageTokens

/-!
# The slots for scripts

A page has a slot for the next early script and one for the next late script. A script put in through one of
them moves the other slot along, or, as the first element of a body, draws the early slot to itself.
-/

namespace Userscript

namespace Token

/-- The number of the first element from a place on, or the number of tokens without one. -/
def nextElement (ts : List Token) (i : Nat) : Nat := i + (ts.drop i).findIdx isElement

variable {ts before after : List Token} {x : Token} {i n : Nat}

lemma le_nextElement (ts : List Token) (i : Nat) : i ≤ nextElement ts i := Nat.le_add_right _ _

lemma nextElement_le (hi : i ≤ ts.length) : nextElement ts i ≤ ts.length := by
  have hle : (ts.drop i).findIdx isElement ≤ (ts.drop i).length := List.findIdx_le_length
  rw [List.length_drop] at hle
  simp only [nextElement]
  omega

lemma nextElement_le_of_isElement (hx : ts[n]? = some x) (hx' : x.isElement = true) (hi : i ≤ n) :
    nextElement ts i ≤ n := by
  have hdrop : (ts.drop i)[n - i]? = some x := by
    rw [List.getElem?_drop, Nat.add_sub_cancel' hi, hx]
  obtain ⟨hlt, heq⟩ := List.getElem?_eq_some_iff.mp hdrop
  have hle : (ts.drop i).findIdx isElement ≤ n - i := by
    by_contra hgt
    have hnot := List.not_of_lt_findIdx (Nat.lt_of_not_le hgt)
    rw [heq, hx'] at hnot
    cases hnot
  simp only [nextElement]
  omega

lemma nextElement_of_length_le (h : before.length ≤ i) :
    nextElement (before ++ x :: after) (i + 1) = nextElement (before ++ after) i + 1 := by
  have hdrop : (before ++ x :: after).drop (i + 1) = (before ++ after).drop i := by
    rw [List.drop_append, List.drop_append, List.drop_eq_nil_of_le h, List.drop_eq_nil_of_le (by omega),
      Nat.sub_add_comm h, List.drop_succ_cons]
  rw [nextElement, nextElement, hdrop]
  omega

lemma nextElement_of_le_length (hx : x.isElement = true) (h : i ≤ before.length) :
    nextElement (before ++ x :: after) i = min (nextElement (before ++ after) i) before.length := by
  have hdrop : ∀ l : List Token, (before ++ l).drop i = before.drop i ++ l := fun l => by
    rw [List.drop_append_of_le_length h]
  have hlength : (before.drop i).length = before.length - i := List.length_drop
  rw [nextElement, nextElement, hdrop, hdrop, List.findIdx_append, List.findIdx_append, List.findIdx_cons, hx,
    cond_true]
  split <;> omega

end Token

namespace Injection

open Nodes (InsertedAt)

/-- Where scripts go in a page, as numbers of tokens. -/
structure Slots where
  early : Nat
  late : Nat
  bare : Bool
  deriving DecidableEq, Repr

namespace Slots

def slot (s : Slots) : Placement → Nat
  | .early => s.early
  | .late => s.late

/-- The slots once a script has been put in. The first late script in a body without an element is from then
on what early scripts go before. -/
def next (s : Slots) : Placement → Slots
  | .early => { s with late := if s.early ≤ s.late then s.late + 1 else s.late }
  | .late => ⟨if s.bare then s.late else s.early, s.late + 1, false⟩

end Slots

end Injection

open Injection (Place Placement Slots)

namespace Nodes

variable {name : Text} {new : Leaf} {p : Nat} {t t' below : Nodes} {s : Span}

def outerSlot (t : Nodes) : Nat :=
  match t.span? Place.title with
  | some title => title.stop + 1
  | none => Token.nextElement t.tokens 0

def slots (t : Nodes) : Slots :=
  match t.span? Place.body with
  | some body =>
    if Token.nextElement t.tokens body.start < body.stop then
      ⟨Token.nextElement t.tokens body.start, body.stop, false⟩
    else ⟨t.outerSlot, body.stop, true⟩
  | none => ⟨t.outerSlot, t.tokens.length, false⟩

lemma slots_of_none (h : t.span? Place.body = none) :
    t.slots = ⟨t.outerSlot, t.tokens.length, false⟩ := by
  simp only [slots, h]

lemma slots_of_lt (h : t.span? Place.body = some s)
    (hlt : Token.nextElement t.tokens s.start < s.stop) :
    t.slots = ⟨Token.nextElement t.tokens s.start, s.stop, false⟩ := by
  simp only [slots, h, if_pos hlt]

lemma slots_of_le (h : t.span? Place.body = some s)
    (hle : s.stop ≤ Token.nextElement t.tokens s.start) : t.slots = ⟨t.outerSlot, s.stop, true⟩ := by
  simp only [slots, h, if_neg (Nat.not_lt.mpr hle)]

/-! ## Operations go to the slots -/

lemma nextElement_start (hspan : t.span? name = some s) (hbelow : t.below? name = some below) :
    ∃ after, Token.nextElement t.tokens s.start =
      s.start + (below.tokens ++ Token.finish :: after).findIdx Token.isElement := by
  obtain ⟨before, children, after, htokens, hchildren, hstart, -⟩ := exists_of_span? hspan
  rw [hbelow, Option.some.injEq] at hchildren
  subst hchildren
  have hdrop : t.tokens.drop s.start = below.tokens ++ .finish :: after := by
    rw [htokens, hstart, ← List.drop_drop, List.drop_left, List.drop_succ_cons, List.drop_zero]
  exact ⟨after, by rw [Token.nextElement, hdrop]⟩

lemma hasElement_iff (hspan : t.span? name = some s) (hbelow : t.below? name = some below) :
    below.hasElement = true ↔ Token.nextElement t.tokens s.start < s.stop := by
  obtain ⟨-, children, -, -, hchildren, -, hstop⟩ := exists_of_span? hspan
  rw [hbelow, Option.some.injEq] at hchildren
  subst hchildren
  obtain ⟨after, hnext⟩ := nextElement_start hspan hbelow
  rw [hnext, hstop, Nat.add_lt_add_iff_left, hasElement_eq_any, List.any_eq_true, List.findIdx_append]
  constructor
  · intro h
    rwa [if_pos (List.findIdx_lt_length.mpr h), List.findIdx_lt_length]
  · intro h
    by_contra hnone
    rw [if_neg (fun hlt => hnone (List.findIdx_lt_length.mp hlt))] at h
    omega

lemma has_eq_isSome_span? (name : Text) (t : Nodes) : t.has name = (t.span? name).isSome := by
  rw [has, Bool.eq_iff_iff, Option.isSome_iff_ne_none, Option.isSome_iff_ne_none, ne_eq, ne_eq,
    span?_eq_none_iff]

lemma insertedAt_outerSlot (new : Leaf) (t : Nodes) : InsertedAt new t.outerSlot t
    ((if t.has Place.title then Place.afterTitle else if t.hasElement then .beforeContent
      else .endOfDocument).put new t) := by
  rw [outerSlot]
  cases htitle : t.span? Place.title with
  | some title =>
    rw [has_eq_isSome_span?, htitle, Option.isSome_some, if_pos rfl]
    exact insertedAt_putAfter new htitle
  | none =>
    rw [has_eq_isSome_span?, htitle, Option.isSome_none, if_neg Bool.false_ne_true]
    simp only [Token.nextElement, List.drop_zero, Nat.zero_add]
    by_cases hel : t.hasElement = true
    · rw [if_pos hel]
      exact insertedAt_putBeforeElement new hel
    · have hnone : t.tokens.findIdx Token.isElement = t.tokens.length := by
        rw [hasElement_eq_any, List.any_eq_true] at hel
        exact Nat.le_antisymm List.findIdx_le_length
          (Nat.not_lt.mp fun hlt => hel (List.findIdx_lt_length.mp hlt))
      rw [if_neg hel, hnone]
      exact insertedAt_putLast new t

lemma insertedAt_nextElement (new : Leaf) (hspan : t.span? name = some s)
    (hbelow : t.below? name = some below) (hel : below.hasElement = true) :
    InsertedAt new (Token.nextElement t.tokens s.start) t
      (t.changeBelow name (·.putBeforeElement new)) := by
  obtain ⟨after, hnext⟩ := nextElement_start hspan hbelow
  have hany : ∃ x ∈ below.tokens, x.isElement = true := by
    rwa [hasElement_eq_any, List.any_eq_true] at hel
  rw [hnext, List.findIdx_append, if_pos (List.findIdx_lt_length.mpr hany)]
  exact insertedAt_changeBelow hspan hbelow (insertedAt_putBeforeElement new hel)

/-- A script is put into its slot. -/
theorem insertedAt_put_find (π : Placement) (new : Leaf) (t : Nodes) :
    InsertedAt new (t.slots.slot π) t ((Place.find π t).put new t) := by
  cases hbody : t.span? Place.body with
  | none =>
    have hbelow := (span?_eq_none_iff _ _).mp hbody
    rw [slots_of_none hbody]
    cases π with
    | early =>
      simp only [Slots.slot, Place.find, Place.early, hbelow, Option.any_none, Bool.false_eq_true, if_false]
      exact insertedAt_outerSlot new t
    | late =>
      simp only [Slots.slot, Place.find, Place.late, has, hbelow, Option.isSome_none, Bool.false_eq_true,
        if_false]
      exact insertedAt_putLast new t
  | some body =>
    obtain ⟨-, below, -, -, hbelow, -, hstop⟩ := exists_of_span? hbody
    have hiff := hasElement_iff hbody hbelow
    cases π with
    | early =>
      by_cases hel : below.hasElement = true
      · rw [slots_of_lt hbody (hiff.mp hel), Slots.slot]
        simp only [Place.find, Place.early, hbelow, Option.any_some, hel, if_true]
        exact insertedAt_nextElement new hbody hbelow hel
      · rw [slots_of_le hbody (Nat.not_lt.mp fun h => hel (hiff.mpr h)), Slots.slot]
        simp only [Place.find, Place.early, hbelow, Option.any_some, hel, Bool.false_eq_true, if_false]
        exact insertedAt_outerSlot new t
    | late =>
      have hlate : t.slots.slot .late = body.start + below.tokens.length := by
        rw [← hstop]
        rcases Nat.lt_or_ge (Token.nextElement t.tokens body.start) body.stop with hlt | hle
        · rw [slots_of_lt hbody hlt, Slots.slot]
        · rw [slots_of_le hbody hle, Slots.slot]
      rw [hlate]
      simp only [Place.find, Place.late, has, hbelow, Option.isSome_some, if_true]
      exact insertedAt_changeBelow hbody hbelow (insertedAt_putLast new below)

/-! ## Slots after an insertion -/

lemma getElem?_of_span? (h : t.span? name = some s) : t.tokens[s.start - 1]? = some (.start name) := by
  obtain ⟨before, children, after, htokens, -, hstart, -⟩ := exists_of_span? h
  rw [htokens, hstart, Nat.add_sub_cancel, List.getElem?_append_right (Nat.le_refl _), Nat.sub_self,
    List.getElem?_cons_zero]

lemma not_within_of_bare {body title : Span} (hbody : t.span? Place.body = some body)
    (htitle : t.span? Place.title = some title)
    (hbare : body.stop ≤ Token.nextElement t.tokens body.start) :
    title.stop + 1 < body.start ∨ body.stop < title.stop := by
  have hbounds := span_bounds htitle
  rcases span_cases (by decide) hbody htitle with h | h | ⟨h, h'⟩ | ⟨-, h⟩
  · omega
  · exact Or.inl h
  · have hle := Token.nextElement_le_of_isElement (getElem?_of_span? htitle) rfl
      (show body.start ≤ title.start - 1 by omega)
    omega
  · exact Or.inr h

variable {tag : ScriptTag}

lemma InsertedAt.nextElement_of_le (h : InsertedAt (.script tag) p t t') {i : Nat} (hi : p ≤ i) :
    Token.nextElement t'.tokens (i + 1) = Token.nextElement t.tokens i + 1 := by
  obtain ⟨before, after, rfl, ht, ht'⟩ := h.exists_tokens
  rw [ht, ht', Token.nextElement_of_length_le hi]

lemma InsertedAt.nextElement_of_ge (h : InsertedAt (.script tag) p t t') {i : Nat} (hi : i ≤ p) :
    Token.nextElement t'.tokens i = min (Token.nextElement t.tokens i) p := by
  obtain ⟨before, after, rfl, ht, ht'⟩ := h.exists_tokens
  rw [ht, ht', Token.nextElement_of_le_length rfl hi]

lemma InsertedAt.outerSlot (h : InsertedAt (.script tag) p t t')
    (hp : p = t.outerSlot ∨ p = t.tokens.length) : t'.outerSlot = t.outerSlot := by
  simp only [Nodes.outerSlot, h.span?] at hp ⊢
  cases htitle : t.span? Place.title with
  | some title =>
    have hbounds := span_bounds htitle
    simp only [htitle, Option.map_some] at hp ⊢
    rw [Span.extend_of_stop_lt (by omega) hbounds.2.1]
  | none =>
    have hle := Token.nextElement_le (Nat.zero_le t.tokens.length)
    simp only [htitle, Option.map_none] at hp ⊢
    rw [h.nextElement_of_ge (Nat.zero_le _)]
    omega

lemma outerSlot_cases {body : Span} (hbody : t.span? Place.body = some body)
    (hbare : body.stop ≤ Token.nextElement t.tokens body.start) :
    t.outerSlot < body.start ∨ body.stop < t.outerSlot := by
  rw [outerSlot]
  cases htitle : t.span? Place.title with
  | some title =>
    have := not_within_of_bare hbody htitle hbare
    simp only
    omega
  | none =>
    have hbounds := span_bounds hbody
    have hle := Token.nextElement_le_of_isElement (getElem?_of_span? hbody) rfl (Nat.zero_le _)
    simp only
    omega

lemma slots_of_insertedAt_of_none {π : Placement} (hbody : t.span? Place.body = none)
    (h : InsertedAt (.script tag) (t.slots.slot π) t t') : t'.slots = t.slots.next π := by
  have hbody' : t'.span? Place.body = none := by rw [h.span?, hbody, Option.map_none]
  rw [slots_of_none hbody] at h ⊢
  cases π with
  | early =>
    have hle : t.outerSlot ≤ t.tokens.length := h.le
    rw [slots_of_none hbody', h.length, h.outerSlot (Or.inl rfl), Slots.next]
    simp only [if_pos hle]
  | late =>
    rw [slots_of_none hbody', h.length, h.outerSlot (Or.inr rfl), Slots.next, if_neg Bool.false_ne_true]

lemma slots_of_insertedAt_of_lt {π : Placement} (hbody : t.span? Place.body = some s)
    (hlt : Token.nextElement t.tokens s.start < s.stop)
    (h : InsertedAt (.script tag) (t.slots.slot π) t t') : t'.slots = t.slots.next π := by
  have hbounds := span_bounds hbody
  have hstart := Token.le_nextElement t.tokens s.start
  have hslot : s.start ≤ t.slots.slot π ∧ t.slots.slot π ≤ s.stop ∧
      Token.nextElement t.tokens s.start ≤ t.slots.slot π := by
    rw [slots_of_lt hbody hlt]
    cases π <;> simp only [Slots.slot] <;> omega
  have hbody' : t'.span? Place.body = some ⟨s.start, s.stop + 1⟩ := by
    rw [h.span?, hbody, Option.map_some, Span.extend_of_within hslot.1 hslot.2.1]
  have hnext : Token.nextElement t'.tokens s.start = Token.nextElement t.tokens s.start := by
    rw [h.nextElement_of_ge hslot.1, Nat.min_eq_left hslot.2.2]
  rw [slots_of_lt hbody' (by rw [hnext]; exact Nat.lt_succ_of_lt hlt), hnext, slots_of_lt hbody hlt]
  cases π with
  | early =>
    rw [Slots.next]
    simp only [if_pos (Nat.le_of_lt hlt)]
  | late => rfl

lemma slots_of_insertedAt_late_of_le (hbody : t.span? Place.body = some s)
    (hle : s.stop ≤ Token.nextElement t.tokens s.start)
    (h : InsertedAt (.script tag) s.stop t t') : t'.slots = ⟨s.stop, s.stop + 1, false⟩ := by
  have hbounds := span_bounds hbody
  have hbody' : t'.span? Place.body = some ⟨s.start, s.stop + 1⟩ := by
    rw [h.span?, hbody, Option.map_some, Span.extend_of_within hbounds.2.1 (Nat.le_refl _)]
  have hnext : Token.nextElement t'.tokens s.start = s.stop := by
    rw [h.nextElement_of_ge hbounds.2.1, Nat.min_eq_right hle]
  rw [slots_of_lt hbody' (by rw [hnext]; exact Nat.lt_succ_self _), hnext]

lemma slots_of_insertedAt_early_of_le (hbody : t.span? Place.body = some s)
    (hle : s.stop ≤ Token.nextElement t.tokens s.start)
    (h : InsertedAt (.script tag) t.outerSlot t t') :
    t'.slots = ⟨t.outerSlot, if t.outerSlot ≤ s.stop then s.stop + 1 else s.stop, true⟩ := by
  have hbounds := span_bounds hbody
  have hbody' : t'.span? Place.body = some (s.extend t.outerSlot) := by
    rw [h.span?, hbody, Option.map_some]
  rcases outerSlot_cases hbody hle with hbefore | hbehind
  · rw [Span.extend_of_lt_start hbefore hbounds.2.1, Span.shift, Nat.add_comm 1, Nat.add_comm 1] at hbody'
    have hnext := h.nextElement_of_le (Nat.le_of_lt hbefore)
    rw [slots_of_le hbody' (by rw [hnext]; exact Nat.succ_le_succ hle), h.outerSlot (Or.inl rfl),
      if_pos (by omega)]
  · rw [Span.extend_of_stop_lt hbehind hbounds.2.1] at hbody'
    have hnext := h.nextElement_of_ge (Nat.le_of_lt (Nat.lt_of_le_of_lt hbounds.2.1 hbehind))
    have hle' : s.stop ≤ Token.nextElement t'.tokens s.start := by
      rw [hnext]
      omega
    rw [slots_of_le hbody' hle', h.outerSlot (Or.inl rfl), if_neg (Nat.not_le.mpr hbehind)]

/-- The slots of a page after a script has been put into one of them. -/
theorem InsertedAt.slots {π : Placement} (h : InsertedAt (.script tag) (t.slots.slot π) t t') :
    t'.slots = t.slots.next π := by
  cases hbody : t.span? Place.body with
  | none => exact slots_of_insertedAt_of_none hbody h
  | some body =>
    rcases Nat.lt_or_ge (Token.nextElement t.tokens body.start) body.stop with hlt | hle
    · exact slots_of_insertedAt_of_lt hbody hlt h
    · rw [slots_of_le hbody hle] at h ⊢
      cases π with
      | early => exact slots_of_insertedAt_early_of_le hbody hle h
      | late => exact slots_of_insertedAt_late_of_le hbody hle h

/-! ## Titles and bodies -/

def BareBody (t : Nodes) : Prop := ∃ below, t.below? Place.body = some below ∧ below.hasElement = false

lemma bare_iff (t : Nodes) : t.slots.bare = true ↔ t.BareBody := by
  cases hbody : t.span? Place.body with
  | none =>
    rw [slots_of_none hbody, BareBody, (span?_eq_none_iff _ _).mp hbody]
    simp
  | some body =>
    obtain ⟨-, below, -, -, hbelow, -⟩ := exists_of_span? hbody
    have hiff := hasElement_iff hbody hbelow
    rw [BareBody, hbelow]
    rcases Nat.lt_or_ge (Token.nextElement t.tokens body.start) body.stop with hlt | hge
    · rw [slots_of_lt hbody hlt]
      simp [hiff.mpr hlt]
    · have hnone : below.hasElement = false := by
        rw [← Bool.not_eq_true, hiff]
        exact Nat.not_lt.mpr hge
      rw [slots_of_le hbody hge]
      simp [hnone]

/-- The title, if there is one, stands before the body, and not around it. -/
def TitleFirst (t : Nodes) : Prop :=
  ∀ title body, t.span? Place.title = some title → t.span? Place.body = some body →
    title.start < body.start ∧ ¬ body.stop < title.stop

def InBody (t : Nodes) (n : Nat) : Prop :=
  ∃ body, t.span? Place.body = some body ∧ body.start ≤ n ∧ n < body.stop

lemma lt_late {n : Nat} (hn : n < t.tokens.length) (h : t.span? Place.body = none ∨ t.InBody n) :
    n < t.slots.late := by
  rcases h with hnone | ⟨body, hbody, -, hstop⟩
  · rw [slots_of_none hnone]
    exact hn
  · rcases Nat.lt_or_ge (Token.nextElement t.tokens body.start) body.stop with hlt | hle
    · rwa [slots_of_lt hbody hlt]
    · rwa [slots_of_le hbody hle]

lemma early_le_of_inBody {n : Nat} {x : Token} (hn : t.InBody n) (hx : t.tokens[n]? = some x)
    (hx' : x.isElement = true) : t.slots.bare = false ∧ t.slots.early ≤ n := by
  obtain ⟨body, hbody, hstart, hstop⟩ := hn
  have hnext := Token.nextElement_le_of_isElement hx hx' hstart
  rw [slots_of_lt hbody (Nat.lt_of_le_of_lt hnext hstop)]
  exact ⟨rfl, hnext⟩

lemma early_le_late_of_not_bare (h : t.slots.bare = false) : t.slots.early ≤ t.slots.late := by
  have hle := (insertedAt_put_find .early .doctype t).le
  cases hbody : t.span? Place.body with
  | none =>
    rw [slots_of_none hbody] at hle ⊢
    exact hle
  | some body =>
    rcases Nat.lt_or_ge (Token.nextElement t.tokens body.start) body.stop with hlt | hge
    · rw [slots_of_lt hbody hlt]
      exact Nat.le_of_lt hlt
    · rw [slots_of_le hbody hge] at h
      cases h

/-- With a body that has no element in it, the early slot comes first where the title does. -/
theorem early_le_late_iff_of_bare (h : t.slots.bare = true) :
    t.slots.early ≤ t.slots.late ↔ t.TitleFirst := by
  cases hbody : t.span? Place.body with
  | none =>
    rw [slots_of_none hbody] at h
    cases h
  | some body =>
    have hbounds := span_bounds hbody
    rcases Nat.lt_or_ge (Token.nextElement t.tokens body.start) body.stop with hlt | hge
    · rw [slots_of_lt hbody hlt] at h
      cases h
    · rw [slots_of_le hbody hge]
      cases htitle : t.span? Place.title with
      | none =>
        have hle := Token.nextElement_le_of_isElement (getElem?_of_span? hbody) rfl (Nat.zero_le _)
        have hfirst : t.TitleFirst := fun title _ h _ => by
          rw [htitle] at h
          cases h
        simp only [outerSlot, htitle, hfirst, iff_true]
        omega
      | some title =>
        have htitleBounds := span_bounds htitle
        have hcases := not_within_of_bare hbody htitle hge
        have hiff : t.TitleFirst ↔ title.start < body.start ∧ ¬ body.stop < title.stop :=
          ⟨fun h => h title body htitle hbody, fun h title' body' htitle' hbody' => by
            rw [htitle, Option.some.injEq] at htitle'
            rw [hbody, Option.some.injEq] at hbody'
            rwa [← htitle', ← hbody']⟩
        rw [hiff]
        simp only [outerSlot, htitle]
        omega

end Nodes

end Userscript
