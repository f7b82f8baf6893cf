import Userscript.Regex.Parser
import Userscript.Proofs.Cutting

/-!
# Reading with more text behind

A text is read as before when more text follows it, provided that what follows begins with a bar or a
closing parenthesis and the text itself holds no number sign. No part of an expression reaches over a bar or
a closing parenthesis that stands outside it, and without number signs there is no comment that could.
-/

namespace Userscript.Regex

/-- A text that no part of an expression before it reaches into. -/
inductive Stops : Text → Prop where
  | nil : Stops []
  | bar (r : Text) : Stops ('|' :: r)
  | close (r : Text) : Stops (')' :: r)

/-- What one reader reads, the other reads with more text behind. No number sign is left to read. -/
def Extends {α : Type} (u : Text) (x y : Option (α × Text)) : Prop :=
  ∀ a rest, x = some (a, rest) → y = some (a, rest ++ u) ∧ '#' ∉ rest

namespace Extends

variable {α β : Type} {u : Text}

lemma none (y : Option (α × Text)) : Extends u none y := by
  rintro a rest ⟨⟩

lemma some (a : α) {rest : Text} (h : '#' ∉ rest) :
    Extends u (some (a, rest)) (some (a, rest ++ u)) := by
  rintro b r ⟨⟩
  exact ⟨rfl, h⟩

lemma bind {x y : Option (α × Text)} (h : Extends u x y)
    {g : α × Text → Option (β × Text)}
    (hg : ∀ a rest, '#' ∉ rest → Extends u (g (a, rest)) (g (a, rest ++ u))) :
    Extends u (x >>= g) (y >>= g) := by
  intro b r hr
  obtain ⟨⟨a, rest⟩, hx, hgr⟩ := Option.bind_eq_some_iff.mp hr
  obtain ⟨hy, hrest⟩ := h a rest hx
  rw [hy]
  exact hg a rest hrest b r hgr

lemma bind_left (o : Option β) {g g' : β → Option (α × Text)}
    (hg : ∀ b, Extends u (g b) (g' b)) : Extends u (o >>= g) (o >>= g') := by
  cases o with
  | none => exact Extends.none _
  | some b => exact hg b

lemma map (o : Option β) (g : β → α) {rest : Text} (h : '#' ∉ rest) :
    Extends u (o.map fun b => (g b, rest)) (o.map fun b => (g b, rest ++ u)) := by
  cases o with
  | none => exact Extends.none _
  | some b => exact Extends.some (g b) h

lemma ite (p : Prop) [Decidable p] {x x' y y' : Option (α × Text)} (h : Extends u x x')
    (h' : Extends u y y') : Extends u (if p then x else y) (if p then x' else y') := by
  by_cases hp : p
  · simpa only [if_pos hp] using h
  · simpa only [if_neg hp] using h'

end Extends

lemma number_sign_not_mem_skipIgnored {t : Text} (h : '#' ∉ t) : '#' ∉ skipIgnored false t := by
  induction t with
  | nil => exact h
  | cons c r ih =>
    have hr : '#' ∉ r := fun hc => h (List.mem_cons_of_mem _ hc)
    have hc : c ≠ '#' := fun hc => h (hc ▸ List.mem_cons_self)
    by_cases hb : Text.isBlank c = true
    · simp only [skipIgnored, hb, if_true]
      exact ih hr
    · simp only [skipIgnored, hb, hc, Bool.false_eq_true, if_false]
      exact h

lemma number_sign_not_mem_skip (f : Flags) {t : Text} (h : '#' ∉ t) : '#' ∉ f.skip t := by
  unfold Flags.skip
  split
  · exact number_sign_not_mem_skipIgnored h
  · exact h

lemma skip_of_stops (f : Flags) {u : Text} (hu : Stops u) : f.skip u = u := by
  unfold Flags.skip
  split
  · cases hu with
    | nil => rfl
    | bar r => rfl
    | close r => rfl
  · rfl

lemma skip_append (f : Flags) {t u : Text} (h : '#' ∉ t) (hu : Stops u) :
    f.skip (t ++ u) = f.skip t ++ u := by
  have hstop := skip_of_stops f hu
  unfold Flags.skip at hstop ⊢
  by_cases hf : f.spaced = true
  · simp only [hf, if_true] at hstop ⊢
    induction t with
    | nil => exact hstop
    | cons c r ih =>
      have hr : '#' ∉ r := fun hc => h (List.mem_cons_of_mem _ hc)
      have hc : c ≠ '#' := fun hc => h (hc ▸ List.mem_cons_self)
      by_cases hb : Text.isBlank c = true
      · simp only [List.cons_append, skipIgnored, hb, if_true]
        exact ih hr
      · simp only [List.cons_append, skipIgnored, hb, hc, Bool.false_eq_true, if_false]
  · simp only [hf, Bool.false_eq_true, if_false]

lemma not_blank_of_stops {c : Char} {u : Text} (hu : Stops (c :: u)) : Text.isBlank c = false := by
  cases hu with
  | bar => rfl
  | close => rfl

lemma dropWhile_blank_append {t u : Text} (hu : Stops u) :
    (t ++ u).dropWhile Text.isBlank = t.dropWhile Text.isBlank ++ u := by
  induction t with
  | nil =>
    cases u with
    | nil => rfl
    | cons c u => simp [not_blank_of_stops hu]
  | cons c r ih =>
    by_cases hb : Text.isBlank c = true
    · simp only [List.cons_append, List.dropWhile_cons, hb, if_true, ih]
    · simp [hb]

lemma number_sign_not_mem_dropWhile {t : Text} (h : '#' ∉ t) (p : Char → Bool) :
    '#' ∉ t.dropWhile p :=
  fun hc => h ((List.dropWhile_suffix p).subset hc)

lemma exists_of_append_stops {t u r : Text} {c : Char} (hu : Stops u) (hbar : c ≠ '|')
    (hclose : c ≠ ')') (h : t ++ u = c :: r) : ∃ r', t = c :: r' := by
  cases t with
  | nil =>
    rw [List.nil_append] at h
    subst h
    cases hu with
    | bar => exact absurd rfl hbar
    | close => exact absurd rfl hclose
  | cons d t =>
    obtain ⟨rfl, -⟩ := List.cons.inj h
    exact ⟨t, rfl⟩

lemma after?_append {u : Text} (hu : Stops u) {c : Char} (hbar : c ≠ '|') (hclose : c ≠ ')')
    (t : Text) : Text.after? [c] (t ++ u) = (Text.after? [c] t).map (· ++ u) := by
  cases h : Text.after? [c] t with
  | some r =>
    rw [Text.after?_eq_some_iff.mp h]
    exact Text.after?_eq_some_iff.mpr rfl
  | none =>
    cases h' : Text.after? [c] (t ++ u) with
    | none => rfl
    | some r =>
      obtain ⟨r', rfl⟩ := exists_of_append_stops hu hbar hclose (Text.after?_eq_some_iff.mp h')
      simp [Text.after?] at h

lemma after?_eq_none_of_ne {c d : Char} (h : d ≠ c) (r : Text) :
    Text.after? [c] (d :: r) = none := by
  simp [Text.after?, h.symm]

lemma number_sign_not_mem_of_after? {c : Char} {t r : Text} (ht : '#' ∉ t)
    (h : Text.after? [c] t = some r) : '#' ∉ r := by
  rw [Text.after?_eq_some_iff.mp h] at ht
  exact fun hc => ht (List.mem_cons_of_mem _ hc)

lemma extends_readHexDigits (f : Flags) {u : Text} (hu : Stops u) (n acc : Nat) {t : Text}
    (ht : '#' ∉ t) : Extends u (readHexDigits f n acc t) (readHexDigits f n acc (t ++ u)) := by
  induction n generalizing acc t with
  | zero => exact Extends.some acc ht
  | succ n ih =>
    cases t with
    | nil => exact Extends.none _
    | cons c r =>
      have hr : '#' ∉ r := fun hc => ht (List.mem_cons_of_mem _ hc)
      simp only [readHexDigits, List.cons_append, skip_append f hr hu]
      cases Text.hexValue? c with
      | none => exact Extends.none _
      | some d => exact ih (acc * 16 + d) (number_sign_not_mem_skip f hr)

lemma readBraced_eq (f : Flags) (t : Text) :
    readBraced f t = match f.skip t with
      | [] => none
      | c :: r =>
        if c = '}' then some ([], r)
        else (readBraced f r).map fun (inner, rest) => (c :: inner, rest) := by
  rw [readBraced]
  split <;> simp_all

lemma extends_readBraced (f : Flags) {u : Text} (hu : Stops u) {t : Text} (ht : '#' ∉ t) :
    Extends u (readBraced f t) (readBraced f (t ++ u)) := by
  induction hn : t.length using Nat.strongRecOn generalizing t with
  | ind n ih =>
    have hskip := number_sign_not_mem_skip f ht
    have hlen := f.length_skip t
    rw [readBraced_eq f t, readBraced_eq f (t ++ u), skip_append f ht hu]
    cases hs : f.skip t with
    | nil => exact Extends.none _
    | cons c r =>
      rw [hs] at hskip hlen
      have hr : '#' ∉ r := fun hc => hskip (List.mem_cons_of_mem _ hc)
      simp only [List.cons_append]
      by_cases hc : c = '}'
      · simp only [hc, if_true]
        exact Extends.some [] hr
      · simp only [hc, if_false]
        intro inner rest h
        obtain ⟨⟨inner', rest'⟩, hread, heq⟩ := Option.map_eq_some_iff.mp h
        obtain ⟨rfl, rfl⟩ := Prod.mk.inj heq
        obtain ⟨hread', hrest⟩ := ih r.length (by simp at hlen; omega) hr rfl _ _ hread
        exact ⟨by rw [hread', Option.map_some], hrest⟩

lemma extends_readHex (f : Flags) {u : Text} (hu : Stops u) (digits : Nat) {t : Text}
    (ht : '#' ∉ t) : Extends u (readHex f digits t) (readHex f digits (t ++ u)) := by
  have hskip := number_sign_not_mem_skip f ht
  unfold readHex
  rw [skip_append f ht hu]
  split
  · rename_i r hs
    rw [hs] at hskip ⊢
    have hr : '#' ∉ r := fun hc => hskip (List.mem_cons_of_mem _ hc)
    refine (extends_readBraced f hu hr).bind fun inner rest hrest => ?_
    by_cases hempty : inner.isEmpty = true
    · simp only [hempty, if_true]
      exact Extends.none _
    · simp only [hempty, Bool.false_eq_true, if_false, skip_append f hrest hu]
      exact Extends.bind_left _ fun n => Extends.bind_left _ fun c =>
        Extends.some _ (number_sign_not_mem_skip f hrest)
  · rename_i hs
    split
    · rename_i hs'
      obtain ⟨r', hr'⟩ := exists_of_append_stops hu (by decide) (by decide) hs'
      exact absurd hr' (hs r')
    · exact (extends_readHexDigits f hu digits 0 hskip).bind fun n rest hrest =>
        Extends.bind_left _ fun c => Extends.some _ hrest

lemma extends_readProperty (f : Flags) {u : Text} (hu : Stops u) (negated : Bool) {t : Text}
    (ht : '#' ∉ t) : Extends u (readProperty f negated t) (readProperty f negated (t ++ u)) := by
  have hskip := number_sign_not_mem_skip f ht
  unfold readProperty
  by_cases hf : (!f.unicode) = true
  · simp only [hf, if_true]
    exact Extends.none _
  · simp only [hf, Bool.false_eq_true, if_false, skip_append f ht hu]
    cases hs : f.skip t with
    | nil => exact Extends.none _
    | cons c r =>
      rw [hs] at hskip
      have hr : '#' ∉ r := fun hc => hskip (List.mem_cons_of_mem _ hc)
      by_cases hc : c = '{'
      · subst hc
        exact (extends_readBraced f hu hr).bind fun inner rest hrest =>
          Extends.bind_left _ fun p => Extends.bind_left _ fun s => Extends.some _ hrest
      · simp only [List.cons_append]
        by_cases hb : c = '\\'
        · simp only [hb, if_true]
          exact Extends.none _
        · simp only [hb, if_false, skip_append f hr hu]
          exact Extends.bind_left _ fun p => Extends.bind_left _ fun s =>
            Extends.some _ (number_sign_not_mem_skip f hr)

lemma extends_readBoundaryKind (f : Flags) {u : Text} (hu : Stops u) {t : Text} (ht : '#' ∉ t) :
    Extends u (readBoundaryKind f t) (readBoundaryKind f (t ++ u)) := by
  unfold readBoundaryKind
  split
  · rename_i r
    have hr : '#' ∉ r := fun hc => ht (List.mem_cons_of_mem _ hc)
    simp only [List.cons_append, skip_append f hr hu]
    cases hs : f.skip r with
    | nil => exact Extends.none _
    | cons c s =>
      simp only [List.cons_append]
      split
      · exact Extends.some _ ht
      · exact (extends_readBraced f hu hr).bind fun inner rest hrest =>
          Extends.ite _ (Extends.some _ hrest) <| Extends.ite _ (Extends.some _ hrest) <|
            Extends.ite _ (Extends.some _ hrest) <| Extends.ite _ (Extends.some _ hrest) <|
              Extends.none _
  · rename_i hs
    split
    · rename_i hs'
      obtain ⟨r', hr'⟩ := exists_of_append_stops hu (by decide) (by decide) hs'
      exact absurd hr' (hs r')
    · exact Extends.some _ ht

lemma extends_readEscape (f : Flags) {u : Text} (hu : Stops u) {t : Text} (ht : '#' ∉ t) :
    Extends u (readEscape f t) (readEscape f (t ++ u)) := by
  cases t with
  | nil => exact Extends.none _
  | cons c r =>
    have hr : '#' ∉ r := fun hc => ht (List.mem_cons_of_mem _ hc)
    have hsome : ∀ a : Atom, Extends u (some (a, r)) (some (a, r ++ u)) :=
      fun a => Extends.some a hr
    have hmap : ∀ o : Option CharSet, Extends u (o.map fun s => (Atom.set s, r))
        (o.map fun s => (Atom.set s, r ++ u)) := fun o => Extends.map o Atom.set hr
    have hhex : ∀ n, Extends u (readHex f n r) (readHex f n (r ++ u)) :=
      fun n => extends_readHex f hu n hr
    have hproperty : ∀ b, Extends u (readProperty f b r) (readProperty f b (r ++ u)) :=
      fun b => extends_readProperty f hu b hr
    have hboundary := extends_readBoundaryKind f hu hr
    rw [List.cons_append]
    unfold readEscape
    dsimp only
    refine Extends.ite _ (hsome _) ?_
    split <;> first
      | exact hsome _
      | exact hmap _
      | exact hhex _
      | exact hproperty _
      | exact hboundary
      | exact Extends.none _

end Userscript.Regex
