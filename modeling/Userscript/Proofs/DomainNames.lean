import Userscript.Proofs.LatinCapitals

/-!
# Domain names in ASCII

The ASCII form of a domain name holds no capitals. Letters are mapped to small ones before they are composed,
so it has to be seen that no capital comes back when what has been mapped is taken apart and put together again.
-/

namespace Userscript

open Unicode

namespace Url.Idna

lemma isLatinCapital_of_standing {n : Nat} (h : standing.contains n = true) : isLatinCapital n = false := by
  have hrange : ∀ {t : RangeTable}, t.contains n = true → ∃ r ∈ t, r.1 ≤ n ∧ n ≤ r.2 := by
    intro t ht
    induction t with
    | nil => cases ht
    | cons r t ih =>
      simp only [RangeTable.contains, Bool.and_eq_true, Bool.or_eq_true, decide_eq_true_eq] at ht
      rcases ht with ⟨hlo, hhi | ht⟩
      · exact ⟨r, List.mem_cons_self, hlo, hhi⟩
      · obtain ⟨s, hs, hn⟩ := ih ht
        exact ⟨s, List.mem_cons_of_mem r hs, hn⟩
  obtain ⟨r, hr, hlo, hhi⟩ := hrange h
  have hk := isLatinCapital_of_noLatinCapital (mem_standing r hr) (Nat.sub_le_sub_right hhi r.1)
  rwa [Nat.mul_one, Nat.add_sub_cancel' hlo] at hk

lemma isLatinCapital_of_replacement? {n m : Nat} {l : List Nat} (h : replacement? n = some l)
    (hm : m ∈ l) : isLatinCapital m = false := by
  simp only [replacement?, Option.bind_eq_bind, Option.bind_eq_some_iff] at h
  obtain ⟨r, hfind, h⟩ := h
  split_ifs at h
  cases h
  obtain ⟨target, htarget, rfl⟩ := List.mem_map.mp hm
  have hr : r ∈ replacements := List.mem_of_find?_eq_some hfind
  have hlast : n ≤ r.last := by simpa using List.find?_some hfind
  exact isLatinCapital_of_noLatinCapital (mem_replacements hr target htarget)
    (Nat.div_le_div_right (Nat.sub_le_sub_right hlast r.first))

theorem isLatinCapital_of_mapChar? {c d : Char} {t : Text} (h : mapChar? c = some t) (hd : d ∈ t) :
    isLatinCapital d.toNat = false := by
  unfold mapChar? at h
  dsimp only at h
  split_ifs at h with hascii hstands hdropped
  · cases h
    have hall : ∀ n < 128, isLatinCapital (Text.lowerChar (Char.ofNat n)).toNat = false := by
      decide +kernel
    have hc := hall c.toNat hascii
    rw [Char.ofNat_toNat] at hc
    rwa [List.mem_singleton.mp hd]
  · cases h
    rw [List.mem_singleton.mp hd]
    exact isLatinCapital_of_standing hstands
  · cases h
    cases hd
  · obtain ⟨l, hl, rfl⟩ := Option.map_eq_some_iff.mp h
    obtain ⟨n, hn, rfl⟩ := List.mem_map.mp hd
    exact isLatinCapital_toNat_ofNat (isLatinCapital_of_replacement? hl hn)

end Url.Idna

namespace Text

section Tables

-- The tables are variables here, so that no step goes through one of them.
variable {table : List (Nat × Nat × Nat)} {n m : Nat}

lemma isLatinCapital_of_mem_takeApartBy (htable : ∀ e ∈ table, isLatinCapital e.1 = false →
      isLatinCapital e.2.1 = false ∧ isLatinCapital e.2.2 = false)
    {depth : Nat} (h : isLatinCapital n = false) (hm : m ∈ takeApartBy table depth n) :
    isLatinCapital m = false := by
  induction depth generalizing n m with
  | zero =>
    rw [takeApartBy, List.mem_singleton] at hm
    rwa [hm]
  | succ depth ih =>
    rw [takeApartBy] at hm
    split_ifs at hm with hsyllable
    · have hblocks : ¬(m < 0x250) ∧ ¬(0x1E00 ≤ m) := by
        simp only [takeSyllableApart, List.mem_append, List.mem_cons, List.not_mem_nil, or_false] at hm
        rcases hm with (rfl | rfl) | hm
        · omega
        · omega
        · split_ifs at hm
          · cases hm
          · rw [List.mem_singleton.mp hm]
            omega
      simp [isLatinCapital, Nat.blt_eq, hblocks]
    · cases hfind : table.find? fun e => e.1 == n with
      | none =>
        simp only [hfind, List.mem_singleton] at hm
        rwa [hm]
      | some e =>
        have hkey : e.1 = n := by simpa using List.find?_some hfind
        obtain ⟨ha, hb⟩ := htable e (List.mem_of_find?_eq_some hfind) (by rwa [hkey])
        simp only [hfind, List.mem_append] at hm
        exact hm.elim (ih ha) (ih hb)

lemma le_of_joinSyllable? {a b : Nat} (h : joinSyllable? a b = some n) : 128 ≤ n := by
  unfold joinSyllable? at h
  split_ifs at h
  · have hn := Option.some.inj h
    omega
  · have hn := Option.some.inj h
    omega

lemma le_of_orElse_find? (htable : ∀ e ∈ table, 128 ≤ e.1) {p : Nat × Nat × Nat → Bool}
    {joined : Option Nat} (hjoined : ∀ n, joined = some n → 128 ≤ n)
    (h : (joined <|> (table.find? p).map (·.1)) = some n) : 128 ≤ n := by
  cases joined with
  | some m =>
    exact hjoined n h
  | none =>
    obtain ⟨e, hfind, rfl⟩ := Option.map_eq_some_iff.mp h
    exact htable e (List.mem_of_find?_eq_some hfind)

end Tables

lemma isLatinCapital_of_mem_takeApart {depth n m : Nat} (h : isLatinCapital n = false)
    (hm : m ∈ takeApart depth n) : isLatinCapital m = false :=
  isLatinCapital_of_mem_takeApartBy (fun _ he => (mem_compositions he).2) h hm

lemma lowerChar_of_compose? {a b c : Char} (h : compose? a b = some c) : lowerChar c = c := by
  obtain ⟨n, hn, rfl⟩ := Option.map_eq_some_iff.mp h
  exact lowerChar_ofNat_of_le (le_of_orElse_find? (fun _ he => (mem_compositions he).1)
    (fun _ => le_of_joinSyllable?) hn)

lemma mem_insertMark {c d : Char} {cls : Nat} {t : Text} (h : d ∈ insertMark c cls t) : d = c ∨ d ∈ t := by
  induction t with
  | nil => exact Or.inl (List.mem_singleton.mp h)
  | cons e t ih =>
    rw [insertMark] at h
    split_ifs at h
    · rcases List.mem_cons.mp h with rfl | h
      · exact Or.inr List.mem_cons_self
      · exact (ih h).imp_right (List.mem_cons_of_mem e)
    · exact List.mem_cons.mp h

lemma mem_orderMarks {d : Char} {marks t : Text} (h : d ∈ orderMarks marks t) : d ∈ marks ∨ d ∈ t := by
  induction t generalizing marks with
  | nil => exact Or.inl h
  | cons c t ih =>
    rw [orderMarks] at h
    split_ifs at h
    · rcases List.mem_append.mp h with h | h
      · exact Or.inl h
      · rcases List.mem_cons.mp h with rfl | h
        · exact Or.inr List.mem_cons_self
        · exact Or.inr (List.mem_cons_of_mem c ((ih h).resolve_left List.not_mem_nil))
    · rcases ih h with h | h
      · rcases mem_insertMark h with rfl | h
        · exact Or.inr List.mem_cons_self
        · exact Or.inl h
      · exact Or.inr (List.mem_cons_of_mem c h)

lemma lowerChar_of_mem_composeFrom {starter : Char} {between t : Text} {last : Nat}
    (hstarter : lowerChar starter = starter) (hbetween : ∀ c ∈ between, lowerChar c = c)
    (ht : ∀ c ∈ t, lowerChar c = c) : ∀ c ∈ composeFrom starter between last t, lowerChar c = c := by
  induction t generalizing starter between last with
  | nil =>
    rw [composeFrom]
    exact List.forall_mem_cons.mpr ⟨hstarter, fun c hc => hbetween c (List.mem_reverse.mp hc)⟩
  | cons d t ih =>
    obtain ⟨hd, hrest⟩ := List.forall_mem_cons.mp ht
    rw [composeFrom]
    split
    · rename_i c hc
      have hcompose : compose? starter d = some c := by
        split_ifs at hc
        exact hc
      exact ih (lowerChar_of_compose? hcompose) hbetween hrest
    · split_ifs
      · refine List.forall_mem_append.mpr ⟨?_, ih hd (List.forall_mem_nil _) hrest⟩
        exact List.forall_mem_cons.mpr ⟨hstarter, fun c hc => hbetween c (List.mem_reverse.mp hc)⟩
      · exact ih hstarter (List.forall_mem_cons.mpr ⟨hd, hbetween⟩) hrest

theorem lowerChar_of_mem_composed {t : Text} (h : ∀ c ∈ t, isLatinCapital c.toNat = false) :
    ∀ c ∈ composed t, lowerChar c = c := by
  have hapart : ∀ c ∈ t.flatMap fun c => (takeApart 4 c.toNat).map Char.ofNat, lowerChar c = c := by
    intro c hc
    obtain ⟨d, hd, hc⟩ := List.mem_flatMap.mp hc
    obtain ⟨n, hn, rfl⟩ := List.mem_map.mp hc
    exact lowerChar_of_not_isLatinCapital
      (isLatinCapital_toNat_ofNat (isLatinCapital_of_mem_takeApart (h d hd) hn))
  rw [composed]
  split_ifs
  · exact fun c hc => lowerChar_of_not_isLatinCapital (h c hc)
  · dsimp only
    split
    · exact List.forall_mem_nil _
    · rename_i starter rest horder
      have hordered : ∀ c ∈ starter :: rest, lowerChar c = c := fun c hc =>
        hapart c ((mem_orderMarks (horder ▸ hc)).resolve_left List.not_mem_nil)
      obtain ⟨hstarter, hrest⟩ := List.forall_mem_cons.mp hordered
      exact lowerChar_of_mem_composeFrom hstarter (List.forall_mem_nil _) hrest

end Text

namespace Url.Idna

/-- A normalized name holds no capitals. -/
theorem lowerChar_of_normalize? {t u : Text} (h : normalize? t = some u) :
    ∀ c ∈ u, Text.lowerChar c = c := by
  obtain ⟨parts, hparts, rfl⟩ := Option.map_eq_some_iff.mp h
  refine Text.lowerChar_of_mem_composed fun c hc => ?_
  obtain ⟨part, hpart, hc⟩ := List.mem_flatten.mp hc
  obtain ⟨d, -, hd⟩ := exists_of_mem_mapM hparts hpart
  exact isLatinCapital_of_mapChar? hd hc

lemma isPlain_of_meant? {label l : Text} (hlabel : ∀ c ∈ label, IsPlain c) (h : meant? label = some l) :
    ∀ c ∈ l, IsPlain c := by
  unfold meant? at h
  split at h
  · rename_i digits hdigits
    obtain ⟨decoded, hdecoded, h⟩ := Option.bind_eq_some_iff.mp h
    split_ifs at h with hchecks
    cases h
    rw [Bool.and_eq_true] at hchecks
    intro c hc
    rcases Punycode.mem_decode? hdecoded hc with hmem | hle
    · refine hlabel c ?_
      rw [Text.after?_eq_some_iff.mp hdigits]
      exact List.mem_append_right _ hmem
    · exact isPlain_of_le hle
  · split_ifs at h
    cases h
    exact hlabel

lemma isPlain_acePhrase : ∀ c ∈ acePhrase, IsPlain c := by
  have hall : acePhrase.all (decide <| IsPlain ·) = true := by decide
  exact fun c hc => of_decide_eq_true (List.all_eq_true.mp hall c hc)

lemma isPlain_encodeLabel {label : Text} (h : ∀ c ∈ label, IsPlain c) :
    ∀ c ∈ encodeLabel label, IsPlain c := by
  rw [encodeLabel]
  split_ifs
  · exact h
  · refine List.forall_mem_append.mpr ⟨isPlain_acePhrase, fun c hc => ?_⟩
    rcases Punycode.mem_encode hc with ⟨hmem, -⟩ | rfl | ⟨d, hd, rfl⟩
    · exact h c hmem
    · decide
    · exact Punycode.isPlain_digitChar hd

lemma exists_labels_of_toAscii? {t name : Text} (h : toAscii? t = some name) :
    ∃ mapped labels, normalize? t = some mapped ∧ mapped.any isForbidden = false ∧
      (Text.splitOn '.' mapped).mapM meant? = some labels ∧
      name = Text.join ['.'] (labels.map encodeLabel) := by
  obtain ⟨mapped, hmapped, h⟩ := Option.bind_eq_some_iff.mp h
  by_cases hforbidden : mapped.any isForbidden = true
  · simp [hforbidden] at h
  · rw [if_neg hforbidden] at h
    obtain ⟨labels, hlabels, h⟩ := Option.bind_eq_some_iff.mp h
    dsimp only at h
    split_ifs at h
    · cases h
    · cases h
    · cases h
    · exact ⟨mapped, labels, hmapped, Bool.eq_false_iff.mpr hforbidden, hlabels, (Option.some.inj h).symm⟩

/-- The ASCII form of a domain name has neither capitals nor slashes nor colons. -/
theorem isPlain_of_toAscii? {t name : Text} (h : toAscii? t = some name) : ∀ c ∈ name, IsPlain c := by
  obtain ⟨mapped, labels, hmapped, hforbidden, hlabels, rfl⟩ := exists_labels_of_toAscii? h
  have hplain : ∀ c ∈ mapped, IsPlain c := by
    intro c hc
    have hallowed : isForbidden c = false := by
      simpa using List.any_eq_false.mp hforbidden c hc
    refine ⟨lowerChar_of_normalize? hmapped c hc, ?_, ?_⟩
    · rintro rfl
      exact absurd hallowed (by decide)
    · rintro rfl
      exact absurd hallowed (by decide)
  refine Text.forall_mem_join (List.forall_mem_singleton.mpr (by decide))
    (List.forall_mem_map.mpr fun label hlabel => ?_)
  obtain ⟨piece, hpiece, hmeant⟩ := exists_of_mem_mapM hlabels hlabel
  exact isPlain_encodeLabel (isPlain_of_meant? (fun c hc =>
    hplain c (Text.mem_of_mem_splitWhere hpiece hc).1) hmeant)

lemma contains_eq_false_of_lt {t : RangeTable} {n : Nat} (h : ∀ r ∈ t, n < r.1) : t.contains n = false := by
  cases t with
  | nil => rfl
  | cons r t => simp [RangeTable.contains, Nat.not_le.mpr (h r List.mem_cons_self)]

lemma isRightToLeft_of_isAscii {label : Text} (h : isAscii label = true) : isRightToLeft label = false := by
  have hletters : ∀ r ∈ rightToLeft, Nat.ble 128 r.1 = true :=
    RangeTable.forall_mem (by unfold rightToLeft; rfl) (by decide +kernel)
  have hnumbers : ∀ r ∈ arabicNumber, Nat.ble 128 r.1 = true :=
    RangeTable.forall_mem (by unfold arabicNumber; rfl) (by decide +kernel)
  refine List.any_eq_false.mpr fun c hc => ?_
  have hlt : c.toNat < 128 := of_decide_eq_true (List.all_eq_true.mp h c hc)
  have hletter : rightToLeft.contains c.toNat = false :=
    contains_eq_false_of_lt fun r hr => Nat.lt_of_lt_of_le hlt (Nat.le_of_ble_eq_true (hletters r hr))
  have hnumber : arabicNumber.contains c.toNat = false :=
    contains_eq_false_of_lt fun r hr => Nat.lt_of_lt_of_le hlt (Nat.le_of_ble_eq_true (hnumbers r hr))
  unfold direction
  dsimp only
  rw [if_neg (Bool.eq_false_iff.mp hletter), if_neg (Bool.eq_false_iff.mp hnumber)]
  split_ifs <;> decide

theorem toAscii?_of_isAscii {name : Text} {labels : List Text} (hnormal : normalize? name = some name)
    (hallowed : name.any isForbidden = false) (hlabels : (Text.splitOn '.' name).mapM meant? = some labels)
    (hascii : ∀ label ∈ labels, isAscii label = true) : toAscii? name = some (Text.join ['.'] labels) := by
  have hdirection : labels.any isRightToLeft = false :=
    List.any_eq_false.mpr fun label h => by simp [isRightToLeft_of_isAscii (hascii label h)]
  have hlong : (labels.any fun l => !isAscii l && decide (labelLimit < l.length)) = false :=
    List.any_eq_false.mpr fun label h => by simp [hascii label h]
  have hencode : labels.map encodeLabel = labels :=
    (List.map_congr_left fun label h => if_pos (hascii label h)).trans (List.map_id labels)
  simp only [toAscii?, hnormal, hallowed, hlabels, hdirection, hlong, hencode, Option.bind_eq_bind,
    Option.bind_some, Bool.false_and, Bool.false_eq_true, if_false]

end Url.Idna

end Userscript
