import Userscript.Text.CaseFold
import Mathlib.Tactic.Lemma
import Mathlib.Data.List.Basic

/-!
# Classes of letter case

Folding takes a character to the representative of its class and leaves representatives alone, so that the
characters of a class are just those that fold to one character. Any other choice of a representative for each
class tells characters apart in the same way.
-/

namespace Userscript

namespace FoldRun

variable {runs : List FoldRun} {r : FoldRun} {n m : Nat}

def Folds (r : FoldRun) (n : Nat) : Prop :=
  r.first ≤ n ∧ n ≤ r.last ∧ (n - r.first) % r.step = 0

def AreCharacters (first last : Nat) : Prop :=
  last < 0xD800 ∨ (0xDFFF < first ∧ last < 0x110000)

instance (first last : Nat) : Decidable (AreCharacters first last) :=
  inferInstanceAs (Decidable (_ ∨ _))

/-- The run is not empty, folds characters to characters, and none of these is a sign or a capital of ASCII. -/
structure IsWellFormed (r : FoldRun) : Prop where
  first_le_last : r.first ≤ r.last
  sources : AreCharacters r.first r.last
  targets : AreCharacters r.target (r.target + (r.last - r.first))
  le_target : 0x61 ≤ r.target

instance (r : FoldRun) : Decidable r.IsWellFormed :=
  decidable_of_iff (r.first ≤ r.last ∧ AreCharacters r.first r.last ∧
      AreCharacters r.target (r.target + (r.last - r.first)) ∧ 0x61 ≤ r.target)
    ⟨fun ⟨a, b, c, d⟩ => ⟨a, b, c, d⟩, fun ⟨a, b, c, d⟩ => ⟨a, b, c, d⟩⟩

lemma isWellFormed_of_mem (h : r ∈ all) : r.IsWellFormed := by
  have hall : ∀ r ∈ all, r.IsWellFormed := by decide +kernel
  exact hall r h

def EndsBefore (r s : FoldRun) : Prop := r.first ≤ r.last ∧ r.last < s.first

instance (r s : FoldRun) : Decidable (r.EndsBefore s) := inferInstanceAs (Decidable (_ ∧ _))

instance : IsTrans FoldRun EndsBefore where
  trans _ _ _ h h' := ⟨h.1, Nat.lt_of_lt_of_le h.2 (Nat.le_of_lt (Nat.lt_of_le_of_lt h'.1 h'.2))⟩

lemma pairwise_all : all.Pairwise EndsBefore := by
  have hchain : all.IsChain EndsBefore := by decide +kernel
  exact hchain.pairwise

lemma isValidChar_of_areCharacters {first last : Nat} (h : AreCharacters first last)
    (hfirst : first ≤ n) (hlast : n ≤ last) : n.isValidChar := by
  unfold AreCharacters at h
  unfold Nat.isValidChar
  omega

lemma fold_cases (runs : List FoldRun) (n : Nat) :
    fold runs n = n ∨ ∃ r ∈ runs, r.Folds n ∧ fold runs n = r.target + (n - r.first) := by
  induction runs with
  | nil => exact Or.inl rfl
  | cons r rs ih =>
    rw [fold]
    split_ifs with hfirst hlast hstep
    · exact Or.inl rfl
    · exact Or.inr ⟨r, List.mem_cons_self, ⟨Nat.le_of_not_lt hfirst, hlast, hstep⟩, rfl⟩
    · exact Or.inl rfl
    · exact ih.imp_right fun ⟨s, hs, h⟩ => ⟨s, List.mem_cons_of_mem _ hs, h⟩

lemma fold_of_folds (hruns : runs.Pairwise EndsBefore) (hr : r ∈ runs) (hn : r.Folds n) :
    fold runs n = r.target + (n - r.first) := by
  obtain ⟨hfirst, hlast, hstep⟩ := hn
  induction runs with
  | nil => cases hr
  | cons s rs ih =>
    rw [List.pairwise_cons] at hruns
    rcases List.mem_cons.mp hr with rfl | hr
    · rw [fold, if_neg (Nat.not_lt.mpr hfirst), if_pos hlast, if_pos hstep]
    · obtain ⟨hle, hlt⟩ := hruns.1 r hr
      rw [fold, if_neg (by omega), if_neg (by omega)]
      exact ih hruns.2 hr

lemma preimage?_eq_some_iff (hr : r.IsWellFormed) :
    r.preimage? n = some m ↔ r.Folds m ∧ r.target + (m - r.first) = n := by
  have hle := hr.first_le_last
  unfold preimage? Folds
  split_ifs with h
  · rw [Option.some.injEq]
    constructor
    · rintro rfl
      rw [Nat.add_sub_cancel_left]
      omega
    · rintro ⟨⟨hfirst, -, -⟩, rfl⟩
      omega
  · refine ⟨fun h' => (by cases h'), ?_⟩
    rintro ⟨⟨hfirst, hlast, hstep⟩, rfl⟩
    rw [Nat.add_sub_cancel_left] at h
    exact absurd ⟨Nat.le_add_right _ _, by omega, hstep⟩ h

/-- No run folds any of the code points `first`, `first + step`, … up to `last`: it lies elsewhere, or it takes
every other code point and these are not among them. -/
def areFinal (step first last : Nat) : List FoldRun → Bool
  | [] => true
  | r :: rs =>
    Nat.blt last r.first ||
      ((Nat.blt r.last first ||
          (r.step == 2 && (step == 2 || first == last) && (first + r.first) % 2 == 1)) &&
        areFinal step first last rs)

lemma fold_of_areFinal {step first last : Nat} (h : areFinal step first last runs = true)
    (hfirst : first ≤ n) (hlast : n ≤ last) (hstep : (n - first) % step = 0) : fold runs n = n := by
  induction runs with
  | nil => rfl
  | cons r rs ih =>
    simp only [areFinal, Bool.or_eq_true, Bool.and_eq_true, Nat.blt_eq, beq_iff_eq] at h
    rw [fold]
    split_ifs with hbefore hwithin hfolds
    · rfl
    · rcases h with h | ⟨h | ⟨⟨hr, hevery⟩, hodd⟩, -⟩
      · omega
      · omega
      · rw [hr] at hfolds
        rcases hevery with rfl | rfl
        · omega
        · omega
    · rfl
    · rcases h with h | ⟨-, h⟩
      · omega
      · exact ih h

lemma fold_target (hr : r ∈ all) (hn : r.Folds n) :
    fold all (r.target + (n - r.first)) = r.target + (n - r.first) := by
  have hall : (all.all fun r =>
      areFinal r.step r.target (r.target + (r.last - r.first)) all) = true := by
    decide +kernel
  obtain ⟨hfirst, hlast, hstep⟩ := hn
  refine fold_of_areFinal (List.all_eq_true.mp hall r hr) (Nat.le_add_right _ _) (by omega) ?_
  rwa [Nat.add_sub_cancel_left]

theorem fold_fold (n : Nat) : fold all (fold all n) = fold all n := by
  rcases fold_cases all n with h | ⟨r, hr, hn, h⟩
  · rw [h, h]
  · rw [h, fold_target hr hn]

lemma isValidChar_fold (h : n.isValidChar) : (fold all n).isValidChar := by
  rcases fold_cases all n with hn | ⟨r, hr, ⟨hfirst, hlast, -⟩, hn⟩
  · rwa [hn]
  · rw [hn]
    exact isValidChar_of_areCharacters (isWellFormed_of_mem hr).targets (Nat.le_add_right _ _) (by omega)

end FoldRun

namespace Text

variable {c d : Char}

lemma toNat_ofNat {n : Nat} (h : n.isValidChar) : (Char.ofNat n).toNat = n := by
  rw [Char.ofNat, dif_pos h]
  rfl

lemma toNat_foldChar (c : Char) : (foldChar c).toNat = FoldRun.fold FoldRun.all c.toNat :=
  toNat_ofNat (FoldRun.isValidChar_fold c.valid)

@[simp]
theorem foldChar_foldChar (c : Char) : foldChar (foldChar c) = foldChar c := by
  rw [foldChar, toNat_foldChar, FoldRun.fold_fold]
  rfl

lemma foldChar_eq_self_of_lt (h : (foldChar c).toNat < 0x61) : foldChar c = c := by
  rw [← Char.toNat_inj]
  rw [toNat_foldChar] at h ⊢
  rcases FoldRun.fold_cases FoldRun.all c.toNat with hc | ⟨r, hr, -, hc⟩
  · exact hc
  · have hle := (FoldRun.isWellFormed_of_mem hr).le_target
    omega

lemma foldChar_mem_caseClass (c : Char) : foldChar c ∈ caseClass c := List.mem_cons_self

/-- The characters of a class are those that fold to one character. -/
theorem mem_caseClass_iff : d ∈ caseClass c ↔ foldChar d = foldChar c := by
  unfold caseClass
  rw [List.mem_cons, List.mem_map]
  simp only [List.mem_filterMap]
  constructor
  · rintro (rfl | ⟨m, ⟨r, hr, hm⟩, rfl⟩)
    · exact foldChar_foldChar c
    · have hwell := FoldRun.isWellFormed_of_mem hr
      obtain ⟨hfolds, htarget⟩ := (FoldRun.preimage?_eq_some_iff hwell).mp hm
      have hvalid := FoldRun.isValidChar_of_areCharacters hwell.sources hfolds.1 hfolds.2.1
      rw [← Char.toNat_inj, toNat_foldChar, toNat_ofNat hvalid,
        FoldRun.fold_of_folds FoldRun.pairwise_all hr hfolds, htarget]
  · intro h
    rw [← Char.toNat_inj, toNat_foldChar] at h
    rcases FoldRun.fold_cases FoldRun.all d.toNat with hd | ⟨r, hr, hfolds, hd⟩
    · exact Or.inl (Char.toNat_inj.mp (hd.symm.trans h))
    · refine Or.inr ⟨d.toNat, ⟨r, hr, ?_⟩, Char.ofNat_toNat d⟩
      exact (FoldRun.preimage?_eq_some_iff (FoldRun.isWellFormed_of_mem hr)).mpr ⟨hfolds, hd.symm.trans h⟩

/-- A choice of one character from each class, the same for all characters of the class. -/
structure Represents (rep : Char → Char) : Prop where
  mem_caseClass : ∀ c, rep c ∈ caseClass c
  eq_of_mem : ∀ c, ∀ d ∈ caseClass c, rep d = rep c

lemma represents_foldChar : Represents foldChar where
  mem_caseClass := foldChar_mem_caseClass
  eq_of_mem _ _ h := mem_caseClass_iff.mp h

namespace Represents

variable {rep : Char → Char} (h : Represents rep)
include h

lemma foldChar_rep (c : Char) : foldChar (rep c) = foldChar c :=
  mem_caseClass_iff.mp (h.mem_caseClass c)

lemma eq_iff : rep d = rep c ↔ foldChar d = foldChar c := by
  constructor
  · intro heq
    rw [← h.foldChar_rep d, heq, h.foldChar_rep c]
  · intro heq
    exact h.eq_of_mem c d (mem_caseClass_iff.mpr heq)

lemma eq_star_iff : rep c = '*' ↔ c = '*' := by
  have hself : ∀ d, foldChar d = '*' → d = '*' := by
    intro d hd
    rw [← hd]
    exact (foldChar_eq_self_of_lt (by rw [hd]; decide)).symm
  have hstar : rep '*' = '*' := hself _ (h.foldChar_rep '*')
  constructor
  · intro hc
    refine hself c ?_
    rw [← h.foldChar_rep c, hc]
    rfl
  · rintro rfl
    exact hstar

end Represents

end Text

end Userscript
