import Userscript.Proofs.ReadBehind

/-!
# Classes with more text behind

A class in brackets is read as before when more text follows its closing bracket. The names of ASCII classes
are words, so even a bracket that looks like the beginning of one finds no end behind a bar.
-/

namespace Userscript.Regex

lemma readHyphens_eq (f : Flags) (items : ClassItems) (t : Text) :
    readHyphens f items t = match Text.after? ['-'] t with
      | some r => readHyphens f (items.add (.single '-') 0) (f.skip r)
      | none => (items, t) := by
  rw [readHyphens.eq_def]
  split
  · rfl
  · rename_i hs
    cases t with
    | nil => rfl
    | cons c r =>
      have hc : c ≠ '-' := fun hc => hs r (by rw [hc])
      rw [after?_eq_none_of_ne hc]

lemma readHyphens_append (f : Flags) {u : Text} (hu : Stops u) (items : ClassItems) {t : Text}
    (ht : '#' ∉ t) :
    readHyphens f items (t ++ u) =
      ((readHyphens f items t).1, (readHyphens f items t).2 ++ u) ∧
      '#' ∉ (readHyphens f items t).2 := by
  induction hn : t.length using Nat.strongRecOn generalizing t items with
  | ind n ih =>
    rw [readHyphens_eq f items t, readHyphens_eq f items (t ++ u),
      after?_append hu (by decide) (by decide)]
    cases h : Text.after? ['-'] t with
    | none => exact ⟨rfl, ht⟩
    | some r =>
      have hr := number_sign_not_mem_of_after? ht h
      have hlen := f.length_skip r
      rw [Text.after?_eq_some_iff.mp h] at hn
      simp only [Option.map_some, skip_append f hr hu]
      exact ih (f.skip r).length (by simp at hn; omega) _ (number_sign_not_mem_skip f hr) rfl

def readSign (f : Flags) (t : Text) : Bool × Text :=
  match f.skip t with
  | '^' :: r => (true, f.skip r)
  | t => (false, t)

def readOpening (f : Flags) (negated : Bool) (t : Text) : Bool × ClassItems × Text :=
  match (readHyphens f {} t).1.count, (readHyphens f {} t).2 with
  | 0, ']' :: r => (negated, (readHyphens f {} t).1.add (.single ']') 0, f.skip r)
  | _, t' => (negated, (readHyphens f {} t).1, t')

lemma readFront_eq (f : Flags) (t : Text) :
    readFront f t = readOpening f (readSign f t).1 (readSign f t).2 := rfl

lemma readSign_eq (f : Flags) (t : Text) :
    readSign f t = (Text.after? ['^'] (f.skip t)).elim (false, f.skip t) fun r => (true, f.skip r) := by
  unfold readSign
  split
  · rename_i r hs
    rw [hs]
    rfl
  · rename_i hs
    cases h : Text.after? ['^'] (f.skip t) with
    | none => rfl
    | some r => exact absurd (Text.after?_eq_some_iff.mp h) (hs r)

lemma readOpening_eq (f : Flags) (negated : Bool) (t : Text) :
    readOpening f negated t = (negated, if (readHyphens f {} t).1.count = 0 then
        (Text.after? [']'] (readHyphens f {} t).2).elim (readHyphens f {} t) fun r =>
          ((readHyphens f {} t).1.add (.single ']') 0, f.skip r)
      else readHyphens f {} t) := by
  unfold readOpening
  split
  · rename_i r hcount hs
    rw [if_pos hcount, hs]
    rfl
  · rename_i hs
    by_cases hcount : (readHyphens f {} t).1.count = 0
    · cases h : Text.after? [']'] (readHyphens f {} t).2 with
      | none => rw [if_pos hcount, Option.elim_none]
      | some r => exact absurd (Text.after?_eq_some_iff.mp h) (hs r hcount)
    · rw [if_neg hcount]

lemma readSign_append (f : Flags) {u : Text} (hu : Stops u) {t : Text} (ht : '#' ∉ t) :
    readSign f (t ++ u) = ((readSign f t).1, (readSign f t).2 ++ u) ∧ '#' ∉ (readSign f t).2 := by
  have hskip := number_sign_not_mem_skip f ht
  rw [readSign_eq, readSign_eq, skip_append f ht hu, after?_append hu (by decide) (by decide)]
  cases h : Text.after? ['^'] (f.skip t) with
  | none => exact ⟨rfl, hskip⟩
  | some r =>
    have hr := number_sign_not_mem_of_after? hskip h
    rw [Option.map_some, Option.elim_some, Option.elim_some, skip_append f hr hu]
    exact ⟨rfl, number_sign_not_mem_skip f hr⟩

lemma readFront_append (f : Flags) {u : Text} (hu : Stops u) {t : Text} (ht : '#' ∉ t) :
    readFront f (t ++ u) =
      ((readFront f t).1, (readFront f t).2.1, (readFront f t).2.2 ++ u) ∧
      '#' ∉ (readFront f t).2.2 := by
  obtain ⟨hsign, hbehind⟩ := readSign_append f hu ht
  obtain ⟨hhyphens, hrest⟩ := readHyphens_append f hu {} hbehind
  rw [readFront_eq, readFront_eq, hsign, readOpening_eq, readOpening_eq, hhyphens]
  by_cases hcount : (readHyphens f {} (readSign f t).2).1.count = 0
  · rw [if_pos hcount, if_pos hcount, after?_append hu (by decide) (by decide)]
    cases h : Text.after? [']'] (readHyphens f {} (readSign f t).2).2 with
    | none => exact ⟨rfl, hrest⟩
    | some r =>
      have hr := number_sign_not_mem_of_after? hrest h
      rw [Option.map_some, Option.elim_some, Option.elim_some, skip_append f hr hu]
      exact ⟨rfl, number_sign_not_mem_skip f hr⟩
  · rw [if_neg hcount, if_neg hcount]
    exact ⟨rfl, hrest⟩

lemma isLetter_of_ofAsciiClass? {name : Text} {s : CharSet} (h : CharSet.ofAsciiClass? name = some s) :
    ∀ c ∈ name, Text.isLetter c = true := by
  unfold CharSet.ofAsciiClass? at h
  obtain ⟨e, he, -⟩ := Option.map_eq_some_iff.mp h
  have hname : e.1.toList = name := by simpa using List.find?_some he
  have hmem := List.mem_of_find?_eq_some he
  rw [← hname]
  simp only [List.mem_cons, List.not_mem_nil, or_false] at hmem
  rcases hmem with rfl | rfl | rfl | rfl | rfl | rfl | rfl | rfl | rfl | rfl | rfl | rfl | rfl | rfl <;>
    exact List.all_eq_true.mp (by decide)

lemma ofAsciiClass?_append_eq_none {a b u : Text} (t : Text) (hu : Stops u)
    (h : u = a ++ ':' :: b) : CharSet.ofAsciiClass? (t ++ a) = none := by
  cases hs : CharSet.ofAsciiClass? (t ++ a) with
  | none => rfl
  | some s =>
    have hletters := isLetter_of_ofAsciiClass? hs
    cases a with
    | nil => cases hu <;> cases h
    | cons c a =>
      have hc := hletters c (by simp)
      obtain rfl | rfl : c = '|' ∨ c = ')' := by
        cases hu with
        | nil => cases h
        | bar r => exact Or.inl (List.cons.inj h).1.symm
        | close r => exact Or.inr (List.cons.inj h).1.symm
      · exact absurd hc (by decide)
      · exact absurd hc (by decide)

def readAsciiName? (negated : Bool) (t : Text) : Option (Bool × CharSet × Text) := do
  let (name, rest) ← Text.cutAt ':' t
  let rest ← Text.after? [']'] rest
  let s ← CharSet.ofAsciiClass? name
  some (negated, s, rest)

lemma readAsciiName?_append {u : Text} (hu : Stops u) (negated : Bool) (t : Text) :
    readAsciiName? negated (t ++ u) =
      (readAsciiName? negated t).map fun (b, s, rest) => (b, s, rest ++ u) := by
  unfold readAsciiName?
  rw [Text.cutAt_append]
  cases h : Text.cutAt ':' t with
  | some p =>
    simp only [Option.bind_eq_bind, Option.bind_some, after?_append hu (c := ']') (by decide) (by decide)]
    cases Text.after? [']'] p.2 with
    | none => rfl
    | some rest =>
      cases CharSet.ofAsciiClass? p.1 <;> rfl
  | none =>
    cases hcut : Text.cutAt ':' u with
    | none => rfl
    | some p =>
      have hname := ofAsciiClass?_append_eq_none t hu (Text.cutAt_eq_some_iff.mp hcut).1
      simp [hname]

def asciiSign (t : Text) : Bool × Text :=
  match t with
  | '^' :: r => (true, r)
  | t => (false, t)

lemma readAsciiClass?_eq (t : Text) :
    readAsciiClass? t = (Text.after? [':'] t).bind fun t =>
      (Text.after? ['^'] t).elim (readAsciiName? false t) (readAsciiName? true) := by
  unfold readAsciiClass?
  cases Text.after? [':'] t with
  | none => rfl
  | some t =>
    cases t with
    | nil => rfl
    | cons c r =>
      by_cases hc : c = '^'
      · subst hc
        rfl
      · rw [Option.bind_some, after?_eq_none_of_ne hc]
        have hsign : asciiSign (c :: r) = (false, c :: r) := by
          unfold asciiSign
          split
          · rename_i hs
            exact absurd (List.cons.inj hs).1 hc
          · rfl
        exact congrArg (fun p : Bool × Text => readAsciiName? p.1 p.2) hsign

lemma readAsciiClass?_append {u : Text} (hu : Stops u) (t : Text) :
    readAsciiClass? (t ++ u) =
      (readAsciiClass? t).map fun (b, s, rest) => (b, s, rest ++ u) := by
  rw [readAsciiClass?_eq, readAsciiClass?_eq, after?_append hu (by decide) (by decide)]
  cases Text.after? [':'] t with
  | none => rfl
  | some t =>
    simp only [Option.map_some, Option.bind_some, after?_append hu (c := '^') (by decide) (by decide)]
    cases Text.after? ['^'] t with
    | none => exact readAsciiName?_append hu false t
    | some r => exact readAsciiName?_append hu true r

lemma number_sign_not_mem_of_readAsciiClass? {t : Text} (ht : '#' ∉ t) {b : Bool} {s : CharSet}
    {rest : Text} (h : readAsciiClass? t = some (b, s, rest)) : '#' ∉ rest := by
  have hname : ∀ {negated : Bool} {t : Text}, '#' ∉ t →
      readAsciiName? negated t = some (b, s, rest) → '#' ∉ rest := by
    intro negated t ht h
    obtain ⟨⟨name, r⟩, hcut, h⟩ := Option.bind_eq_some_iff.mp h
    obtain ⟨r', hclose, h⟩ := Option.bind_eq_some_iff.mp h
    obtain ⟨s', -, h⟩ := Option.bind_eq_some_iff.mp h
    cases h
    rw [(Text.cutAt_eq_some_iff.mp hcut).1] at ht
    refine number_sign_not_mem_of_after? (fun hc => ht ?_) hclose
    exact List.mem_append_right _ (List.mem_cons_of_mem _ hc)
  rw [readAsciiClass?_eq] at h
  obtain ⟨t', hcolon, h⟩ := Option.bind_eq_some_iff.mp h
  have ht' := number_sign_not_mem_of_after? ht hcolon
  cases hsign : Text.after? ['^'] t' with
  | none =>
    rw [hsign] at h
    exact hname ht' h
  | some r =>
    rw [hsign] at h
    exact hname (number_sign_not_mem_of_after? ht' hsign) h

lemma extends_readClassAtom (f : Flags) {u : Text} (hu : Stops u) {t : Text} (ht : '#' ∉ t) :
    Extends u (readClassAtom f t) (readClassAtom f (t ++ u)) := by
  cases t with
  | nil => exact Extends.none _
  | cons c r =>
    have hr : '#' ∉ r := fun hc => ht (List.mem_cons_of_mem _ hc)
    by_cases hc : c = '\\'
    · subst hc
      exact extends_readEscape f hu hr
    · have hatom : ∀ s, readClassAtom f (c :: s) = some (.literal c false, s) := by
        intro s
        unfold readClassAtom
        split
        · rename_i hs
          cases hs
        · rename_i hs
          exact absurd (List.cons.inj hs).1 hc
        · rename_i hs
          obtain ⟨rfl, rfl⟩ := List.cons.inj hs
          rfl
      rw [List.cons_append, hatom, hatom]
      exact Extends.some _ hr

def readRangeEnd (f : Flags) (first : Atom) (t : Text) : Option (CharSet × Text) := do
  let (last, rest) ← readClassAtom f t
  let lo ← first.char? f
  let hi ← last.char? f
  if lo ≤ hi then some (.range lo hi, rest) else none

lemma extends_readRangeEnd (f : Flags) {u : Text} (hu : Stops u) (first : Atom) {t : Text}
    (ht : '#' ∉ t) : Extends u (readRangeEnd f first t) (readRangeEnd f first (t ++ u)) :=
  (extends_readClassAtom f hu ht).bind fun _ _ hrest =>
    Extends.bind_left _ fun _ => Extends.bind_left _ fun _ =>
      Extends.ite _ (Extends.some _ hrest) (Extends.none _)

def readRangeRest (f : Flags) (first : Atom) (t : Text) : Option (CharSet × Text) :=
  match t with
  | [] => none
  | '-' :: r =>
    let next := (f.skip r).head?
    if next = some ']' ∨ next = some '-' then do
      let s ← first.item? f
      some (s, '-' :: r)
    else readRangeEnd f first (f.skip r)
  | t => do
    let s ← first.item? f
    some (s, t)

lemma readClassRange_eq (f : Flags) (t : Text) :
    readClassRange f t = readClassAtom f t >>= fun p => readRangeRest f p.1 (f.skip p.2) := rfl

lemma extends_readRangeRest (f : Flags) {u : Text} (hu : Stops u) (first : Atom) {t : Text}
    (ht : '#' ∉ t) : Extends u (readRangeRest f first t) (readRangeRest f first (t ++ u)) := by
  cases t with
  | nil => exact Extends.none _
  | cons c r =>
    have hr : '#' ∉ r := fun hc => ht (List.mem_cons_of_mem _ hc)
    by_cases hc : c = '-'
    · subst hc
      rw [List.cons_append, readRangeRest, readRangeRest, skip_append f hr hu]
      have hskip := number_sign_not_mem_skip f hr
      cases hs : f.skip r with
      | nil => 
        intro s rest h
        simp [readRangeEnd, readClassAtom] at h
      | cons d q =>
        rw [hs] at hskip
        exact Extends.ite _ (Extends.bind_left _ fun _ => Extends.some _ ht)
          (extends_readRangeEnd f hu first hskip)
    · have hrest : ∀ s, readRangeRest f first (c :: s) =
          (do let set ← first.item? f; some (set, c :: s)) := by
        intro s
        unfold readRangeRest
        split
        · rename_i hs
          cases hs
        · rename_i hs
          exact absurd (List.cons.inj hs).1 hc
        · rfl
      rw [List.cons_append, hrest, hrest]
      exact Extends.bind_left _ fun _ => Extends.some _ ht

lemma extends_readClassRange (f : Flags) {u : Text} (hu : Stops u) {t : Text} (ht : '#' ∉ t) :
    Extends u (readClassRange f t) (readClassRange f (t ++ u)) := by
  rw [readClassRange_eq, readClassRange_eq]
  refine (extends_readClassAtom f hu ht).bind fun first rest hrest => ?_
  dsimp only
  rw [skip_append f hrest hu]
  exact extends_readRangeRest f hu first (number_sign_not_mem_skip f hrest)

namespace ClassStep

def rest : ClassStep → Text
  | done _ _ rest => rest
  | more _ _ rest => rest

def append (u : Text) : ClassStep → ClassStep
  | done s depth rest => done s depth (rest ++ u)
  | more stack items rest => more stack items (rest ++ u)

end ClassStep

/-- The front of a class has an operation, written as one character twice. -/
def IsOperation (c : Char) (r : Text) : Prop :=
  (c = '&' ∨ c = '-' ∨ c = '~') ∧ ∃ q, r = c :: q

lemma classStep_of_item (f : Flags) (stack : List ClassFrame) (items : ClassItems) {c : Char}
    {r : Text} (hopen : c ≠ '[') (hclose : c ≠ ']') (hop : ¬IsOperation c r) :
    classStep f stack items c r = (readClassRange f (c :: r)).map fun p =>
      .more stack (items.add p.1 0) p.2 := by
  unfold classStep
  split
  · exact absurd rfl hopen
  · exact absurd rfl hclose
  · exact absurd ⟨Or.inl rfl, _, rfl⟩ hop
  · exact absurd ⟨Or.inr (Or.inl rfl), _, rfl⟩ hop
  · exact absurd ⟨Or.inr (Or.inr rfl), _, rfl⟩ hop
  · cases readClassRange f (c :: r) <;> rfl

lemma isOperation_append_iff {c : Char} {r u : Text} (hu : Stops u) :
    IsOperation c (r ++ u) ↔ IsOperation c r := by
  unfold IsOperation
  refine and_congr_right fun hc => ⟨?_, ?_⟩
  · rintro ⟨q, hq⟩
    refine exists_of_append_stops hu ?_ ?_ hq <;> rcases hc with rfl | rfl | rfl <;> decide
  · rintro ⟨q, rfl⟩
    exact ⟨q ++ u, rfl⟩

lemma classStep_open (f : Flags) (stack : List ClassFrame) (items : ClassItems) (r : Text) :
    classStep f stack items '[' r =
      match (if stack.isEmpty then none else readAsciiClass? r) with
      | some (negated, s, rest) =>
        (f.negateIf negated (f.withCases s)).bind fun s => some (.more stack (items.add s 0) rest)
      | none =>
        some (.more (.bracket (readFront f r).1 items :: stack) (readFront f r).2.1
          (readFront f r).2.2) := rfl

lemma classStep_close (f : Flags) (stack : List ClassFrame) (items : ClassItems) (r : Text) :
    classStep f stack items ']' r =
      match (closeOperand f items stack).2.2 with
      | .bracket negated before :: frames =>
        (f.negateIf negated (f.withCases (closeOperand f items stack).1)).bind fun s =>
          if frames.isEmpty then some (.done s ((closeOperand f items stack).2.1 + 1) r)
          else some (.more frames (before.add s ((closeOperand f items stack).2.1 + 1)) r)
      | _ => none := rfl

lemma classStep_open_append (f : Flags) {u : Text} (hu : Stops u) (stack : List ClassFrame)
    (items : ClassItems) {r : Text} (hr : '#' ∉ r) {x : ClassStep}
    (h : classStep f stack items '[' r = some x) :
    classStep f stack items '[' (r ++ u) = some (x.append u) ∧ '#' ∉ x.rest := by
  have hascii : (if stack.isEmpty = true then none else readAsciiClass? (r ++ u)) =
      (if stack.isEmpty = true then none else readAsciiClass? r).map fun (b, s, rest) =>
        (b, s, rest ++ u) := by
    by_cases hs : stack.isEmpty = true
    · simp only [if_pos hs, Option.map_none]
    · simp only [if_neg hs, readAsciiClass?_append hu]
  rw [classStep_open] at h ⊢
  rw [hascii]
  cases hread : (if stack.isEmpty = true then none else readAsciiClass? r) with
  | none =>
    obtain ⟨hfront, hrest⟩ := readFront_append f hu hr
    rw [hread] at h
    dsimp only [Option.map_none] at h ⊢
    rw [hfront]
    cases h
    exact ⟨rfl, hrest⟩
  | some p =>
    obtain ⟨negated, s, rest⟩ := p
    have hrest : '#' ∉ rest := by
      by_cases hs : stack.isEmpty = true
      · rw [if_pos hs] at hread
        cases hread
      · rw [if_neg hs] at hread
        exact number_sign_not_mem_of_readAsciiClass? hr hread
    rw [hread] at h
    dsimp only [Option.map_some] at h ⊢
    obtain ⟨s', hs', hx⟩ := Option.bind_eq_some_iff.mp h
    cases hx
    rw [hs']
    exact ⟨rfl, hrest⟩

lemma classStep_close_append (f : Flags) (u : Text) (stack : List ClassFrame)
    (items : ClassItems) {r : Text} (hr : '#' ∉ r) {x : ClassStep}
    (h : classStep f stack items ']' r = some x) :
    classStep f stack items ']' (r ++ u) = some (x.append u) ∧ '#' ∉ x.rest := by
  rw [classStep_close] at h ⊢
  revert h
  generalize closeOperand f items stack = closed
  obtain ⟨s, depth, frames⟩ := closed
  intro h
  cases frames with
  | nil => cases h
  | cons frame frames =>
    cases frame with
    | operand op left depth => cases h
    | bracket negated before =>
      obtain ⟨s', hs', hx⟩ := Option.bind_eq_some_iff.mp h
      dsimp only
      rw [hs', Option.bind_some]
      by_cases hframes : frames.isEmpty = true
      · rw [if_pos hframes] at hx ⊢
        cases hx
        exact ⟨rfl, hr⟩
      · rw [if_neg hframes] at hx ⊢
        cases hx
        exact ⟨rfl, hr⟩

lemma classStep_append (f : Flags) {u : Text} (hu : Stops u) (stack : List ClassFrame)
    (items : ClassItems) {c : Char} {r : Text} (ht : '#' ∉ c :: r) {x : ClassStep}
    (h : classStep f stack items c r = some x) :
    classStep f stack items c (r ++ u) = some (x.append u) ∧ '#' ∉ x.rest := by
  have hr : '#' ∉ r := fun hc => ht (List.mem_cons_of_mem _ hc)
  by_cases hopen : c = '['
  · subst hopen
    exact classStep_open_append f hu stack items hr h
  by_cases hclose : c = ']'
  · subst hclose
    exact classStep_close_append f u stack items hr h
  by_cases hop : IsOperation c r
  · obtain ⟨hc, q, rfl⟩ := hop
    have hq : '#' ∉ q := fun hc => hr (List.mem_cons_of_mem _ hc)
    rcases hc with rfl | rfl | rfl <;> cases h <;> exact ⟨rfl, hq⟩
  · rw [classStep_of_item f stack items hopen hclose hop] at h
    rw [classStep_of_item f stack items hopen hclose ((isOperation_append_iff hu).not.mpr hop)]
    obtain ⟨p, hp, rfl⟩ := Option.map_eq_some_iff.mp h
    obtain ⟨hp', hrest⟩ := extends_readClassRange f hu ht p.1 p.2 hp
    rw [← List.cons_append, hp']
    exact ⟨rfl, hrest⟩

lemma readClass_eq (f : Flags) (stack : List ClassFrame) (items : ClassItems) (t : Text) :
    readClass f stack items t = match f.skip t with
      | [] => none
      | c :: r => match classStep f stack items c r with
        | none => none
        | some (.done s depth rest) => some (s, depth, rest)
        | some (.more stack items rest) =>
          if rest.length ≤ r.length then readClass f stack items rest else none := by
  rw [readClass.eq_def]
  split
  · rename_i hs
    rw [hs]
  · rename_i c r hs
    rewrite [hs]
    rfl

lemma readClass_append (f : Flags) {u : Text} (hu : Stops u) (stack : List ClassFrame)
    (items : ClassItems) {t : Text} (ht : '#' ∉ t) {s : CharSet} {depth : Nat} {rest : Text}
    (h : readClass f stack items t = some (s, depth, rest)) :
    readClass f stack items (t ++ u) = some (s, depth, rest ++ u) ∧ '#' ∉ rest := by
  induction hn : t.length using Nat.strongRecOn generalizing t stack items with
  | ind n ih =>
    have hskip := number_sign_not_mem_skip f ht
    have hlen := f.length_skip t
    rw [readClass_eq] at h
    rw [readClass_eq, skip_append f ht hu]
    cases hs : f.skip t with
    | nil =>
      rw [hs] at h
      cases h
    | cons c r =>
      rw [hs] at h hskip hlen
      rw [List.cons_append]
      dsimp only at h ⊢
      cases hstep : classStep f stack items c r with
      | none =>
        rw [hstep] at h
        cases h
      | some x =>
        obtain ⟨hstep', hrest⟩ := classStep_append f hu stack items hskip hstep
        rw [hstep] at h
        rw [hstep']
        cases x with
        | done s' depth' rest' =>
          cases h
          exact ⟨rfl, hrest⟩
        | more stack' items' rest' =>
          dsimp only [ClassStep.append] at h ⊢
          by_cases hle : rest'.length ≤ r.length
          · rw [if_pos hle] at h
            rw [if_pos (by simpa using hle)]
            exact ih rest'.length (by simp at hlen; omega) stack' items' hrest h rfl
          · rw [if_neg hle] at h
            cases h

end Userscript.Regex
