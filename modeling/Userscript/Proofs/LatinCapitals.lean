import Userscript.Proofs.HostCharacters
import Userscript.Url.Idna

/-!
# Latin capitals in the tables

What the tables for domain names let stand or put in the place of a character is no Latin capital, and no
other letter is composed of one. Each table is gone through once. The replacements, the longest table, are
gone through number by number where they are written, and what is found is carried over to what is read.
-/

namespace Userscript

open Unicode

/-- A Latin letter that has another letter for its small form, or that is a capital with a dot of its own. -/
def isLatinCapital (n : Nat) : Bool :=
  (Nat.blt n 0x250 || (Nat.ble 0x1E00 n && Nat.blt n 0x1F00)) &&
    (!Nat.beq (FoldRun.fold FoldRun.all n) n || Nat.beq n 0x130)

/-- None of the code points `first`, `first + shift`, … is a Latin capital, of which there are `count` behind
the first. -/
def noLatinCapital (first shift count : Nat) : Bool :=
  Nat.ble 0x1F00 first || (Nat.ble 0x250 first && Nat.blt (first + count * shift) 0x1E00) ||
    (List.range (count + 1)).all fun k => !isLatinCapital (first + k * shift)

lemma isLatinCapital_of_noLatinCapital {first shift count k : Nat}
    (h : noLatinCapital first shift count = true) (hk : k ≤ count) :
    isLatinCapital (first + k * shift) = false := by
  have hle : k * shift ≤ count * shift := Nat.mul_le_mul_right shift hk
  simp only [noLatinCapital, Bool.or_eq_true, Bool.and_eq_true, Nat.ble_eq, Nat.blt_eq] at h
  rcases h with (habove | ⟨hfirst, hlast⟩) | hall
  · have hblocks : ¬(first + k * shift < 0x250) ∧ ¬(first + k * shift < 0x1F00) := by omega
    simp [isLatinCapital, Nat.blt_eq, hblocks]
  · have hblocks : ¬(first + k * shift < 0x250) ∧ ¬(0x1E00 ≤ first + k * shift) := by omega
    simp [isLatinCapital, Nat.blt_eq, hblocks]
  · simpa using List.all_eq_true.mp hall k (List.mem_range.mpr (Nat.lt_succ_of_le hk))

set_option maxRecDepth 100000 in
lemma mem_compositions {e : Nat × Nat × Nat} (h : e ∈ compositions) :
    128 ≤ e.1 ∧ (isLatinCapital e.1 = false →
      isLatinCapital e.2.1 = false ∧ isLatinCapital e.2.2 = false) := by
  obtain ⟨l, hl, hall⟩ : ∃ l, writtenCompositions = String.ofList l ∧
      ((readCompositions 0 (Text.words l)).all fun e => Nat.ble 128 e.1 &&
        (!(isLatinCapital e.2.1 || isLatinCapital e.2.2) || isLatinCapital e.1)) = true :=
    ⟨_, by unfold writtenCompositions; rfl, by decide +kernel⟩
  rw [compositions, hl, String.toList_ofList] at h
  have he := List.all_eq_true.mp hall e h
  simp only [Bool.and_eq_true, Nat.ble_eq, Bool.or_eq_true, Bool.not_eq_true', Bool.or_eq_false_iff] at he
  refine ⟨he.1, fun hfalse => he.2.resolve_right ?_⟩
  rw [hfalse]
  exact Bool.false_ne_true

lemma RangeTable.forall_mem {t : RangeTable} {l : Text} (ht : t = decode (String.ofList l))
    {p : Nat × Nat → Bool}
    (hall : ((ofGaps 0 ((Text.words l).filterMap (Text.digitsValue? 10))).all p) = true) :
    ∀ r ∈ t, p r = true := by
  rw [ht, decode, String.toList_ofList]
  exact List.all_eq_true.mp hall

set_option maxRecDepth 100000 in
lemma mem_standing : ∀ r ∈ Url.Idna.standing, noLatinCapital r.1 1 (r.2 - r.1) = true :=
  RangeTable.forall_mem (by unfold Url.Idna.standing; rfl) (by decide +kernel)

namespace Url.Idna

/-- What is asked of a number when it ends: a target is no Latin capital, and if the number is the count of a
row, nor is any target of the row, of which the first one and the shift are known. -/
def endsWell : (row : Option (Nat × Nat)) → (n : Nat) → Bool
  | none, n => noLatinCapital n 0 0
  | some (target, shift), n => noLatinCapital target shift (n - 1)

def rowShift? (c : Char) : Option Nat :=
  if c = '+' then some 1 else if c = '=' then some 0 else if c = '/' then some 2 else none

def allEndWell : (row : Option (Nat × Nat)) → (n : Nat) → Text → Bool
  | row, n, [] => endsWell row n
  | row, n, c :: t =>
    match Text.hexValue? c with
    | some d => allEndWell row (n * 10 + d) t
    | none =>
      match rowShift? c with
      | some shift => allEndWell (some (n, shift)) 0 t
      | none => if c = ':' then allEndWell none 0 t else endsWell row n && allEndWell none 0 t

variable {row : Option (Nat × Nat)} {n m first : Nat} {t u : Text} {c : Char}

lemma exists_allEndWell_cons (c : Char) (row : Option (Nat × Nat)) (n : Nat) :
    ∃ b row' n', ∀ t, allEndWell row n (c :: t) = (b && allEndWell row' n' t) := by
  cases hdigit : Text.hexValue? c with
  | some d => exact ⟨true, row, n * 10 + d, fun t => by simp [allEndWell, hdigit]⟩
  | none =>
    cases hshift : rowShift? c with
    | some shift => exact ⟨true, some (n, shift), 0, fun t => by simp [allEndWell, hdigit, hshift]⟩
    | none =>
      by_cases hcolon : c = ':'
      · subst hcolon
        exact ⟨true, none, 0, fun t => by simp [allEndWell, hdigit, hshift]⟩
      · exact ⟨endsWell row n, none, 0, fun t => by simp [allEndWell, hdigit, hshift, hcolon]⟩

lemma exists_allEndWell_of_append (h : allEndWell row n (t ++ u) = true) :
    ∃ row' n', allEndWell row' n' u = true := by
  induction t generalizing row n with
  | nil => exact ⟨row, n, h⟩
  | cons c t ih =>
    obtain ⟨b, row', n', hcons⟩ := exists_allEndWell_cons c row n
    rw [List.cons_append, hcons, Bool.and_eq_true] at h
    exact ih h.2

def EndsNumber (c : Char) : Prop :=
  ∀ row n t, allEndWell row n (c :: t) = (endsWell row n && allEndWell none 0 t)

lemma exists_splitWhere_eq_cons {isSep : Char → Bool} (hsep : ∀ c, isSep c = true → EndsNumber c)
    (h : allEndWell row n t = true) :
    ∃ p ps, Text.splitWhere isSep t = p :: ps ∧ allEndWell row n p = true ∧
      ∀ q ∈ ps, allEndWell none 0 q = true := by
  induction t generalizing row n with
  | nil => exact ⟨[], [], rfl, h, by simp⟩
  | cons c t ih =>
    by_cases hc : isSep c = true
    · rw [hsep c hc, Bool.and_eq_true] at h
      obtain ⟨p, ps, hsplit, hp, hps⟩ := ih h.2
      refine ⟨[], p :: ps, by rw [Text.splitWhere, if_pos hc, hsplit], h.1, fun q hq => ?_⟩
      rcases List.mem_cons.mp hq with rfl | hq
      · exact hp
      · exact hps q hq
    · obtain ⟨b, row', n', hcons⟩ := exists_allEndWell_cons c row n
      rw [hcons, Bool.and_eq_true] at h
      obtain ⟨p, ps, hsplit, hp, hps⟩ := ih h.2
      refine ⟨c :: p, ps, by rw [Text.splitWhere, if_neg hc, hsplit], ?_, hps⟩
      rw [hcons, h.1, hp]
      rfl

lemma allEndWell_of_mem_splitWhere {isSep : Char → Bool} (hsep : ∀ c, isSep c = true → EndsNumber c)
    (h : allEndWell none 0 t = true) (hu : u ∈ Text.splitWhere isSep t) : allEndWell none 0 u = true := by
  obtain ⟨p, ps, hsplit, hp, hps⟩ := exists_splitWhere_eq_cons hsep h
  rw [hsplit] at hu
  rcases List.mem_cons.mp hu with rfl | hu
  · exact hp
  · exact hps u hu

lemma hexValue?_of_isBlank (h : Text.isBlank c = true) : Text.hexValue? c = none := by
  have hle : ∀ {a b : Char}, a ≤ b → a.toNat ≤ b.toNat := fun h => h
  simp only [Text.isBlank, Bool.or_eq_true, Bool.and_eq_true, decide_eq_true_eq, beq_iff_eq] at h
  unfold Text.hexValue?
  rw [if_neg, if_neg, if_neg]
  all_goals
    rintro ⟨hfirst, hlast⟩
    have hfirst := hle hfirst
    have hlast := hle hlast
    simp only [Char.reduceToNat] at hfirst hlast
    omega

lemma endsNumber_of_isBlank (h : Text.isBlank c = true) : EndsNumber c := by
  have hne : ∀ d, Text.isBlank d = false → c ≠ d := by
    rintro d hd rfl
    rw [h] at hd
    cases hd
  have hshift : rowShift? c = none := by
    rw [rowShift?, if_neg (hne '+' rfl), if_neg (hne '=' rfl), if_neg (hne '/' rfl)]
  intro row n t
  simp only [allEndWell, hexValue?_of_isBlank h, hshift, if_neg (hne ':' rfl)]

lemma endsNumber_comma : EndsNumber ',' := fun _ _ _ => rfl

def addDigit (number : Option Nat) (c : Char) : Option Nat := do
  let n ← number
  let d ← Text.hexValue? c
  if d < 10 then some (n * 10 + d) else none

lemma foldl_addDigit_none (t : Text) : t.foldl addDigit none = none := by
  induction t with
  | nil => rfl
  | cons c t ih => exact ih

lemma allEndWell_digits (row : Option (Nat × Nat)) (h : t.foldl addDigit (some n) = some m) (u : Text) :
    allEndWell row n (t ++ u) = allEndWell row m u := by
  induction t generalizing n with
  | nil => rw [Option.some.inj h, List.nil_append]
  | cons c t ih =>
    rw [List.foldl_cons] at h
    cases hnext : addDigit (some n) c with
    | none =>
      rw [hnext, foldl_addDigit_none] at h
      cases h
    | some k =>
      obtain ⟨d, hdigit, hk⟩ := Option.bind_eq_some_iff.mp hnext
      split_ifs at hk
      cases hk
      rw [hnext] at h
      simp only [List.cons_append, allEndWell, hdigit]
      exact ih h

lemma endsWell_of_digitsValue? (hvalue : Text.digitsValue? 10 t = some m)
    (h : allEndWell row 0 t = true) : endsWell row m = true := by
  have hall := allEndWell_digits row hvalue []
  rw [List.append_nil, h] at hall
  exact hall.symm

variable {r : Replacement}

lemma noLatinCapital_of_row {sep : Char} {stride shift : Nat} (hsep : Text.hexValue? sep = none)
    (hshift : rowShift? sep = some shift) (hstride : 0 < stride) (hall : allEndWell none 0 t = true)
    (h : (do
      let (target, count) ← Text.cutAt sep t
      let target ← Text.digitsValue? 10 target
      let count ← Text.digitsValue? 10 count
      some (Replacement.mk first (first + (count - 1) * stride) stride shift [target])) = some r) :
    ∀ n ∈ r.target, noLatinCapital n r.shift ((r.last - r.first) / r.stride) = true := by
  obtain ⟨⟨a, b⟩, hcut, h⟩ := Option.bind_eq_some_iff.mp h
  obtain ⟨target, htarget, h⟩ := Option.bind_eq_some_iff.mp h
  obtain ⟨count, hcount, h⟩ := Option.bind_eq_some_iff.mp h
  cases h
  obtain ⟨rfl, -⟩ := Text.cutAt_eq_some_iff.mp hcut
  have hrow : allEndWell (some (target, shift)) 0 b = true := by
    have hstart := allEndWell_digits none htarget (sep :: b)
    rw [hall] at hstart
    simpa [allEndWell, hsep, hshift] using hstart.symm
  intro n hn
  rw [List.mem_singleton.mp hn, Nat.add_sub_cancel_left, Nat.mul_div_cancel _ hstride]
  exact endsWell_of_digitsValue? hcount hrow

lemma exists_of_mem_mapM {α β : Type} {f : α → Option β} {l : List α} {out : List β}
    (h : l.mapM f = some out) {b : β} (hb : b ∈ out) : ∃ a ∈ l, f a = some b := by
  induction l generalizing out with
  | nil =>
    cases h
    cases hb
  | cons a l ih =>
    rw [List.mapM_cons] at h
    obtain ⟨b', hb', h⟩ := Option.bind_eq_some_iff.mp h
    obtain ⟨rest, hrest, heq⟩ := Option.bind_eq_some_iff.mp h
    cases heq
    rcases List.mem_cons.mp hb with rfl | hb
    · exact ⟨a, List.mem_cons_self, hb'⟩
    · obtain ⟨a', ha', h'⟩ := ih hrest hb
      exact ⟨a', List.mem_cons_of_mem a ha', h'⟩

lemma noLatinCapital_of_readReplacement (hall : allEndWell none 0 t = true)
    (h : readReplacement first t = some r) :
    ∀ n ∈ r.target, noLatinCapital n r.shift ((r.last - r.first) / r.stride) = true := by
  simp only [readReplacement, Option.orElse_eq_orElse, Option.orElse_eq_or, Option.or_eq_some_iff] at h
  rcases h with h | ⟨-, h | ⟨-, h | ⟨-, h⟩⟩⟩
  · exact noLatinCapital_of_row rfl rfl Nat.one_pos hall h
  · exact noLatinCapital_of_row rfl rfl Nat.one_pos hall h
  · exact noLatinCapital_of_row rfl rfl Nat.two_pos hall h
  · obtain ⟨target, htarget, h⟩ := Option.bind_eq_some_iff.mp h
    cases h
    intro n hn
    obtain ⟨p, hp, hvalue⟩ := exists_of_mem_mapM htarget hn
    have hpiece : allEndWell none 0 p = true := by
      refine allEndWell_of_mem_splitWhere (fun c hc => ?_) hall hp
      obtain rfl := beq_iff_eq.mp hc
      exact endsNumber_comma
    rw [Nat.sub_self, Nat.zero_div]
    exact endsWell_of_digitsValue? hvalue hpiece

lemma exists_of_mem_readReplacements {start : Nat} {ws : List Text} (h : r ∈ readReplacements start ws) :
    ∃ w ∈ ws, ∃ gap rest first, Text.cutAt ':' w = some (gap, rest) ∧ readReplacement first rest = some r := by
  induction ws generalizing start with
  | nil => cases h
  | cons w ws ih =>
    rw [readReplacements] at h
    split at h
    · rename_i s hread
      rcases List.mem_cons.mp h with rfl | h
      · obtain ⟨⟨gap, rest⟩, hcut, hread⟩ := Option.bind_eq_some_iff.mp hread
        obtain ⟨n, -, hread⟩ := Option.bind_eq_some_iff.mp hread
        exact ⟨w, List.mem_cons_self, gap, rest, start + n, hcut, hread⟩
      · obtain ⟨w', hw', hrest⟩ := ih h
        exact ⟨w', List.mem_cons_of_mem w hw', hrest⟩
    · cases h

lemma noLatinCapital_of_allEndWell {start : Nat} (hall : allEndWell none 0 t = true)
    (h : r ∈ readReplacements start (Text.words t)) :
    ∀ n ∈ r.target, noLatinCapital n r.shift ((r.last - r.first) / r.stride) = true := by
  obtain ⟨w, hw, gap, rest, first, hcut, hread⟩ := exists_of_mem_readReplacements h
  have hword : allEndWell none 0 w = true :=
    allEndWell_of_mem_splitWhere (fun _ => endsNumber_of_isBlank) hall (List.mem_of_mem_filter hw)
  obtain ⟨rfl, -⟩ := Text.cutAt_eq_some_iff.mp hcut
  obtain ⟨row, n, hcolon⟩ := exists_allEndWell_of_append hword
  exact noLatinCapital_of_readReplacement hcolon hread

end Url.Idna

set_option maxRecDepth 100000 in
lemma mem_replacements {r : Url.Idna.Replacement} (h : r ∈ Url.Idna.replacements) :
    ∀ n ∈ r.target, noLatinCapital n r.shift ((r.last - r.first) / r.stride) = true := by
  obtain ⟨l, hl, hall⟩ : ∃ l, Url.Idna.writtenReplacements = String.ofList l ∧
      Url.Idna.allEndWell none 0 l = true :=
    ⟨_, by unfold Url.Idna.writtenReplacements; rfl, by decide +kernel⟩
  rw [Url.Idna.replacements, hl, String.toList_ofList] at h
  exact Url.Idna.noLatinCapital_of_allEndWell hall h

lemma isLatinCapital_toNat_ofNat {n : Nat} (h : isLatinCapital n = false) :
    isLatinCapital (Char.ofNat n).toNat = false := by
  by_cases hvalid : n.isValidChar
  · rwa [Text.toNat_ofNat hvalid]
  · rw [Char.ofNat, dif_neg hvalid]
    decide

lemma lowerChar_of_not_isLatinCapital {c : Char} (h : isLatinCapital c.toNat = false) :
    Text.lowerChar c = c := by
  rw [Text.lowerChar, if_neg]
  rintro ⟨hfirst, hlast⟩
  have hcapital : ∀ n ∈ List.range 91, 65 ≤ n → isLatinCapital n = true := by decide +kernel
  rw [hcapital c.toNat (List.mem_range.mpr (Nat.lt_succ_of_le hlast)) hfirst] at h
  cases h

lemma lowerChar_ofNat_of_le {n : Nat} (h : 128 ≤ n) : Text.lowerChar (Char.ofNat n) = Char.ofNat n := by
  by_cases hvalid : n.isValidChar
  · refine Text.lowerChar_eq_self_of_le ?_
    rw [Text.toNat_ofNat hvalid]
    omega
  · rw [Char.ofNat, dif_neg hvalid]
    decide

end Userscript
