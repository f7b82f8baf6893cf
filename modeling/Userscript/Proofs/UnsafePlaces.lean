import Userscript.Proofs.UnsafeMarkup

/-!
# Where unsafe sequences stand

An unsafe sequence begins with `<` and has no other `<` in it, and none of the sequences begins with another one. So
no two of them overlap in a text: a scan that goes on behind each sequence finds just as many as one that tries every
character, and which sequence is tried first makes no difference.
-/

namespace Userscript.Markup

variable {t part other : Text} {start : Nat}

def IsUnsafe (part : Text) : Prop := ∃ s ∈ unsafeSequences, Text.fold part = Text.fold s

/-- Behind as many characters of the text, the part stands there and is unsafe. -/
def StandsAt (t : Text) (start : Nat) (part : Text) : Prop :=
  ∃ before after, t = before ++ part ++ after ∧ before.length = start ∧ IsUnsafe part

lemma IsUnsafe.exists_eq_cons (h : IsUnsafe part) : ∃ rest, part = '<' :: rest ∧ '<' ∉ rest := by
  have hall : ∀ s ∈ unsafeSequences, (Text.fold s).head? = some '<' ∧ '<' ∉ (Text.fold s).tail := by
    decide +kernel
  obtain ⟨s, hs, hfold⟩ := h
  obtain ⟨hhead, htail⟩ := hall s hs
  rw [← hfold] at hhead htail
  cases part with
  | nil => cases hhead
  | cons c rest =>
    have hc : c = '<' := Text.eq_of_foldChar_eq_lt (Option.some.inj hhead)
    refine ⟨rest, by rw [hc], ?_⟩
    intro hmem
    exact htail (List.mem_map.mpr ⟨'<', hmem, by decide +kernel⟩)

lemma IsUnsafe.eq_of_begins (h : IsUnsafe part) (hother : IsUnsafe other) (hfront : part <+: other) :
    part = other := by
  have hall : ∀ s ∈ unsafeSequences, ∀ s' ∈ unsafeSequences, Text.fold s <+: Text.fold s' →
      Text.fold s = Text.fold s' := by
    decide +kernel
  obtain ⟨s, hs, hfold⟩ := h
  obtain ⟨s', hs', hfold'⟩ := hother
  have hsame : Text.fold part = Text.fold other := by
    rw [hfold, hfold']
    apply hall s hs s' hs'
    rw [← hfold, ← hfold']
    exact hfront.map _
  apply hfront.eq_of_length
  simpa using congrArg List.length hsame

lemma IsUnsafe.eq_of_front (h : IsUnsafe part) (hother : IsUnsafe other) (hpart : part <+: t)
    (hfront : other <+: t) : part = other := by
  rcases List.prefix_or_prefix_of_prefix hpart hfront with h' | h'
  · exact h.eq_of_begins hother h'
  · exact (hother.eq_of_begins h h').symm

def unsafeStart? (t : Text) : Option Text := (unsafeLength? t).map fun n => t.take n

theorem unsafeStart?_eq_some_iff : unsafeStart? t = some part ↔ part <+: t ∧ IsUnsafe part := by
  have hsound : ∀ found, unsafeStart? t = some found → found <+: t ∧ IsUnsafe found := by
    intro found h
    obtain ⟨n, hn, rfl⟩ := Option.map_eq_some_iff.mp h
    obtain ⟨s, hfind, rfl⟩ := Option.map_eq_some_iff.mp hn
    have hbegins : beginsWith s (t.take s.length) = true := by simpa using List.find?_some hfind
    obtain ⟨front, after, rfl, hfold⟩ := beginsWith_take_iff.mp hbegins
    have hlength : s.length = front.length := by simpa using (congrArg List.length hfold).symm
    rw [hlength, List.take_left]
    exact ⟨List.prefix_append front after, s, List.mem_of_find?_eq_some hfind, hfold⟩
  refine ⟨hsound part, ?_⟩
  rintro ⟨hpart, hunsafe⟩
  cases hfound : unsafeStart? t with
  | none =>
    obtain ⟨s, hs, hfold⟩ := hunsafe
    obtain ⟨after, rfl⟩ := hpart
    have hnone := unsafeLength?_eq_none_iff.mp (Option.map_eq_none_iff.mp hfound)
    exact absurd ⟨part, after, rfl, hfold⟩ (hnone s hs)
  | some found =>
    obtain ⟨hfront, hfits⟩ := hsound found hfound
    rw [hfits.eq_of_front hunsafe hfront hpart]

lemma standsAt_zero_iff : StandsAt t 0 part ↔ part <+: t ∧ IsUnsafe part := by
  constructor
  · rintro ⟨before, after, rfl, hlength, hunsafe⟩
    rw [List.length_eq_zero_iff.mp hlength]
    exact ⟨List.prefix_append part after, hunsafe⟩
  · rintro ⟨⟨after, rfl⟩, hunsafe⟩
    exact ⟨[], after, rfl, rfl, hunsafe⟩

lemma standsAt_succ_iff {c : Char} : StandsAt (c :: t) (start + 1) part ↔ StandsAt t start part := by
  constructor
  · rintro ⟨before, after, ht, hlength, hunsafe⟩
    cases before with
    | nil => cases hlength
    | cons d before =>
      exact ⟨before, after, (List.cons.inj ht).2, Nat.succ.inj hlength, hunsafe⟩
  · rintro ⟨before, after, rfl, rfl, hunsafe⟩
    exact ⟨c :: before, after, rfl, rfl, hunsafe⟩

lemma not_standsAt_nil : ¬StandsAt [] start part := by
  rintro ⟨before, after, ht, -, hunsafe⟩
  obtain ⟨rest, rfl, -⟩ := hunsafe.exists_eq_cons
  simp at ht

lemma StandsAt.isUnsafe (h : StandsAt t start part) : IsUnsafe part := by
  obtain ⟨before, after, -, -, hunsafe⟩ := h
  exact hunsafe

lemma StandsAt.getElem?_eq (h : StandsAt t start part) {i : Nat} (hi : i < part.length) :
    t[start + i]? = part[i]? := by
  obtain ⟨before, after, rfl, rfl, -⟩ := h
  rw [List.append_assoc, List.getElem?_append_right (Nat.le_add_right _ _), Nat.add_sub_cancel_left,
    List.getElem?_append_left hi]

theorem StandsAt.add_length_le {later : Nat} (h : StandsAt t start part) (hother : StandsAt t later other)
    (hlt : start < later) : start + part.length ≤ later := by
  obtain ⟨rest, rfl, hrest⟩ := h.isUnsafe.exists_eq_cons
  obtain ⟨rest', rfl, -⟩ := hother.isUnsafe.exists_eq_cons
  by_contra hover
  obtain ⟨i, rfl⟩ : ∃ i, later = start + (i + 1) := ⟨later - start - 1, by omega⟩
  have hi : i + 1 < ('<' :: rest).length := by omega
  have hthere : t[start + (i + 1)]? = some '<' := hother.getElem?_eq (i := 0) (Nat.succ_pos _)
  rw [h.getElem?_eq hi, List.getElem?_cons_succ] at hthere
  exact hrest (List.mem_of_getElem? hthere)

/-- The unsafe parts of a text with the places at which they begin. Every character is tried. -/
def places : Text → List (Nat × Text)
  | [] => []
  | c :: t => ((unsafeStart? (c :: t)).map fun part => (0, part)).toList ++
      (places t).map fun p => (p.1 + 1, p.2)

theorem mem_places_iff : (start, part) ∈ places t ↔ StandsAt t start part := by
  induction t generalizing start with
  | nil => exact iff_of_false List.not_mem_nil not_standsAt_nil
  | cons c t ih =>
    rw [places, List.mem_append]
    cases start with
    | zero =>
      rw [standsAt_zero_iff, ← unsafeStart?_eq_some_iff]
      simp
    | succ start =>
      rw [standsAt_succ_iff, ← ih]
      simp

lemma pairwise_places (t : Text) :
    (places t).Pairwise fun p q => p.1 < q.1 ∧ p.1 + p.2.length ≤ q.1 := by
  have hascending : (places t).Pairwise fun p q => p.1 < q.1 := by
    induction t with
    | nil => exact List.Pairwise.nil
    | cons c t ih =>
      rw [places, List.pairwise_append, List.pairwise_map]
      refine ⟨?_, ih.imp fun h => Nat.succ_lt_succ h, ?_⟩
      · cases unsafeStart? (c :: t) <;> simp
      · intro p hp q hq
        obtain ⟨part, -, rfl⟩ := Option.map_eq_some_iff.mp (Option.mem_toList.mp hp)
        obtain ⟨q, -, rfl⟩ := List.mem_map.mp hq
        exact Nat.succ_pos q.1
  refine hascending.imp_of_mem ?_
  intro p q hp hq hlt
  exact ⟨hlt, (mem_places_iff.mp hp).add_length_le (mem_places_iff.mp hq) hlt⟩

lemma unsafeIn_cons_of_none {c : Char} (h : unsafeStart? (c :: t) = none) :
    unsafeIn (c :: t) = unsafeIn t := by
  rw [unsafeIn, Option.map_eq_none_iff.mp h]

lemma unsafeIn_append_of_not_mem {skipped : Text} (h : '<' ∉ skipped) (t : Text) :
    unsafeIn (skipped ++ t) = unsafeIn t := by
  induction skipped with
  | nil => rfl
  | cons c skipped ih =>
    obtain ⟨hc, hskipped⟩ := List.ne_and_not_mem_of_not_mem_cons h
    rw [List.cons_append, unsafeIn_cons_of_none, ih hskipped]
    rw [Option.eq_none_iff_forall_ne_some]
    intro part hpart
    obtain ⟨hfront, hunsafe⟩ := unsafeStart?_eq_some_iff.mp hpart
    obtain ⟨rest, rfl, -⟩ := hunsafe.exists_eq_cons
    exact hc (List.cons_prefix_cons.mp hfront).1

/-- Behind an unsafe part the scan goes on as if it had tried the characters of that part as well. -/
lemma unsafeIn_cons (c : Char) (t : Text) :
    unsafeIn (c :: t) = (unsafeStart? (c :: t)).toList ++ unsafeIn t := by
  cases hstart : unsafeStart? (c :: t) with
  | none => exact unsafeIn_cons_of_none hstart
  | some part =>
    obtain ⟨⟨after, happend⟩, hunsafe⟩ := unsafeStart?_eq_some_iff.mp hstart
    obtain ⟨n, hn, htake⟩ := Option.map_eq_some_iff.mp hstart
    obtain ⟨rest, rfl, hrest⟩ := hunsafe.exists_eq_cons
    rw [List.cons_append, List.cons.injEq] at happend
    obtain ⟨rfl, rfl⟩ := happend
    cases n with
    | zero => cases htake
    | succ n =>
      have hbehind : (rest ++ after).drop n = after := by
        have hsplit := List.take_append_drop (n + 1) ('<' :: (rest ++ after))
        rw [htake, List.drop_succ_cons, List.cons_append] at hsplit
        exact List.append_cancel_left (List.cons.inj hsplit).2
      rw [unsafeIn, hn]
      simp only [htake, Nat.add_sub_cancel, hbehind, Option.toList_some, List.singleton_append,
        unsafeIn_append_of_not_mem hrest]

/-- The scan finds all unsafe parts of a text in their order and as they are written. They stand apart from each other,
and nothing is found only if there is none. -/
theorem unsafeIn_eq_map_places (t : Text) :
    unsafeIn t = (places t).map Prod.snd ∧
    (∀ start part, (start, part) ∈ places t ↔ StandsAt t start part) ∧
    ((places t).Pairwise fun p q => p.1 < q.1 ∧ p.1 + p.2.length ≤ q.1) ∧
    (unsafeIn t = [] ↔ ∀ start part, ¬StandsAt t start part) := by
  have hplaces : unsafeIn t = (places t).map Prod.snd := by
    induction t with
    | nil => rw [unsafeIn, places, List.map_nil]
    | cons c t ih =>
      rw [unsafeIn_cons, ih, places, List.map_append, List.map_map]
      cases unsafeStart? (c :: t) <;> rfl
  refine ⟨hplaces, fun start part => mem_places_iff, pairwise_places t, ?_⟩
  rw [hplaces, List.map_eq_nil_iff, List.eq_nil_iff_forall_not_mem]
  constructor
  · intro h start part hstands
    exact h (start, part) (mem_places_iff.mpr hstands)
  · intro h p hp
    exact h p.1 p.2 (mem_places_iff.mp hp)

/-- The long s counts as an s. -/
example : unsafeIn "<!-<!--<<SCRIPT></\u017Fcript".toList =
    ["<!--".toList, "<SCRIPT".toList, "</\u017Fcript".toList] := by
  decide +kernel

end Userscript.Markup
