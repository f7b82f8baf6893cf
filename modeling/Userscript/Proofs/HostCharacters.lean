import Userscript.Proofs.CaseClasses
import Userscript.Proofs.Cutting
import Userscript.Url.Punycode

/-!
# Characters of hosts

The text of a host that is no address between brackets holds no slash, no colon and no capital. This file
shows it of the parts that such texts are put together from: the digits of numbers, and labels in punycode.
-/

namespace Userscript

namespace Text

lemma lowerChar_eq_self_of_le {c : Char} (h : 91 ≤ c.toNat) : lowerChar c = c := by
  have hcapital : ¬('A' ≤ c ∧ c ≤ 'Z') := fun ⟨_, hle⟩ => by
    have hnat : c.toNat ≤ 90 := hle
    omega
  rw [lowerChar, if_neg hcapital]

end Text

namespace Url

/-- A character that stands as it is in the text of a host and ends neither the host nor its name. -/
structure IsPlain (c : Char) : Prop where
  lowerChar_eq : Text.lowerChar c = c
  ne_slash : c ≠ '/'
  ne_colon : c ≠ ':'

instance (c : Char) : Decidable (IsPlain c) :=
  decidable_of_iff (Text.lowerChar c = c ∧ c ≠ '/' ∧ c ≠ ':')
    ⟨fun ⟨a, b, c⟩ => ⟨a, b, c⟩, fun ⟨a, b, c⟩ => ⟨a, b, c⟩⟩

lemma isPlain_of_le {c : Char} (h : 128 ≤ c.toNat) : IsPlain c where
  lowerChar_eq := Text.lowerChar_eq_self_of_le (Nat.le_trans (by decide) h)
  ne_slash := by
    rintro rfl
    exact absurd h (by decide)
  ne_colon := by
    rintro rfl
    exact absurd h (by decide)

lemma isPlain_of_mem_toDigits {b n : Nat} (hb : 1 < b) (hb' : b ≤ 16) :
    ∀ c ∈ Nat.toDigits b n, IsPlain c := by
  have hdigit : ∀ d < b, IsPlain (Nat.digitChar d) := by
    have hall : ∀ d < 16, IsPlain (Nat.digitChar d) := by decide
    exact fun d hd => hall d (Nat.lt_of_lt_of_le hd hb')
  induction n using Nat.strongRecOn with
  | ind n ih =>
    rcases Nat.lt_or_ge n b with hlt | hge
    · rw [Nat.toDigits_of_lt_base hlt, List.forall_mem_singleton]
      exact hdigit n hlt
    · rw [Nat.toDigits_of_base_le hb hge, List.forall_mem_append, List.forall_mem_singleton]
      exact ⟨ih _ (Nat.div_lt_self (by omega) hb), hdigit _ (Nat.mod_lt _ (by omega))⟩

namespace Punycode

variable {c : Char}

lemma threshold_bounds (k bias : Nat) : 1 ≤ threshold k bias ∧ threshold k bias ≤ 26 := by
  unfold threshold
  split_ifs <;> omega

lemma mem_encodeNumber {bias k q : Nat} (h : c ∈ encodeNumber bias k q) : ∃ d < 36, c = digitChar d := by
  fun_induction encodeNumber bias k q with
  | case1 k q t hlt =>
    have ht := threshold_bounds k bias
    exact ⟨q, by omega, List.mem_singleton.mp h⟩
  | case2 k q t hge ih =>
    have ht := threshold_bounds k bias
    have hmod : (q - t) % (36 - t) < 36 - t := Nat.mod_lt _ (by omega)
    rcases List.mem_cons.mp h with rfl | h
    · exact ⟨t + (q - t) % (36 - t), by omega, rfl⟩
    · exact ih h

lemma mem_encodeValue {basic value : Nat} {t : Text} {e : Encoder}
    (h : c ∈ (encodeValue basic value t e).output) : c ∈ e.output ∨ ∃ d < 36, c = digitChar d := by
  unfold encodeValue at h
  dsimp only at h
  induction t generalizing e with
  | nil => exact Or.inl h
  | cons d t ih =>
    rw [List.foldl_cons] at h
    rcases ih h with h | h
    · split_ifs at h
      · exact Or.inl h
      · exact (List.mem_append.mp h).imp_right mem_encodeNumber
      · exact Or.inl h
    · exact Or.inr h

theorem mem_encode {t : Text} (h : c ∈ encode t) :
    (c ∈ t ∧ c.toNat < 128) ∨ c = '-' ∨ ∃ d < 36, c = digitChar d := by
  have hfold : ∀ (values : List Nat) (basic : Nat) (p : Nat × Encoder),
      c ∈ (values.foldl (fun p value =>
        (value + 1, encodeValue basic value t
          { p.2 with delta := p.2.delta + (value - p.1) * (p.2.placed + 1) })) p).2.output →
      c ∈ p.2.output ∨ ∃ d < 36, c = digitChar d := by
    intro values
    induction values with
    | nil => exact fun _ _ h => Or.inl h
    | cons value values ih =>
      intro basic p h
      rcases ih basic _ h with h | h
      · have hadded := mem_encodeValue h
        exact hadded
      · exact Or.inr h
  rcases hfold _ _ _ h with h | h
  · rcases List.mem_append.mp h with h | h
    · obtain ⟨hmem, hlt⟩ := List.mem_filter.mp h
      exact Or.inl ⟨hmem, of_decide_eq_true hlt⟩
    · split_ifs at h
      · cases h
      · exact Or.inr (Or.inl (List.mem_singleton.mp h))
  · exact Or.inr (Or.inr h)

lemma isPlain_digitChar {d : Nat} (h : d < 36) : IsPlain (digitChar d) := by
  have hall : ∀ d < 36, IsPlain (digitChar d) := by decide
  exact hall d h

lemma mem_decodeNumbers {st : Decoder} {t u : Text} (hvalue : 128 ≤ st.value)
    (h : decodeNumbers st t = some u) (hc : c ∈ u) : c ∈ st.output ∨ 128 ≤ c.toNat := by
  induction t generalizing st with
  | nil =>
    rw [decodeNumbers] at h
    split_ifs at h
    cases h
    exact Or.inl hc
  | cons digit t ih =>
    rw [decodeNumbers] at h
    cases hd : digitValue? digit with
    | none => simp [hd] at h
    | some d =>
      simp only [hd] at h
      split_ifs at h with hlast hvalid
      · have hrest (hle) := ih hle h
        exact hrest hvalue
      · rcases ih (Nat.le_trans hvalue (Nat.le_add_right _ _)) h with hc | hc
        · rcases List.mem_append.mp hc with hc | hc
          · exact Or.inl (List.mem_of_mem_take hc)
          · rcases List.mem_cons.mp hc with rfl | hc
            · rw [Text.toNat_ofNat hvalid]
              exact Or.inr (Nat.le_trans hvalue (Nat.le_add_right _ _))
            · exact Or.inl (List.mem_of_mem_drop hc)
        · exact Or.inr hc

theorem mem_decode? {t u : Text} (h : decode? t = some u) (hc : c ∈ u) : c ∈ t ∨ 128 ≤ c.toNat := by
  unfold decode? at h
  dsimp only at h
  split_ifs at h with hempty hbasic
  · exact (mem_decodeNumbers (Nat.le_refl _) h hc).imp_left fun h => by cases h
  · exact (mem_decodeNumbers (Nat.le_refl _) h hc).imp_left fun h =>
      List.mem_of_mem_take (List.dropLast_subset _ h)

end Punycode

end Url

end Userscript
