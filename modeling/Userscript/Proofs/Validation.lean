import Userscript.Metadata.Schema
import Mathlib.Tactic.Lemma
import Mathlib.Data.List.Forall2

/-!
# Checked metadata

What a schema says about the metadata that it lets through: every item has passed the check of its tag, and
a tag for texts that may be repeated and has no default keeps its values as they were written.
-/

namespace Userscript.Metadata

lemma all_cons (item : Item) (m : Metadata) (name : Text) :
    Metadata.all (item :: m) name =
      if item.1 = name then item.2 :: Metadata.all m name else Metadata.all m name := by
  by_cases h : item.1 = name <;> simp [all, h]

namespace Tag

theorem check_text {tag : Tag} {default : Option Text} {accepts : Text → Bool} {value out : Value}
    (hk : tag.kind = .text default accepts) (h : tag.check value = .ok out) :
    ∃ t, value = .text t ∧ out = .text t ∧ accepts t = true := by
  unfold check at h
  rw [hk] at h
  cases value with
  | flag b => simp at h
  | text t =>
    by_cases ht : accepts t = true
    · simp only [ht, if_true, Except.ok.injEq] at h
      exact ⟨t, rfl, h.symm, ht⟩
    · simp [ht] at h

end Tag

namespace Schema

/-- Checks of a list succeed together exactly when they succeed item by item. -/
lemma mapM_eq_ok_iff {α β ε : Type} {f : α → Except ε β} {l : List α} {out : List β} :
    l.mapM f = .ok out ↔ List.Forall₂ (fun a b => f a = .ok b) l out := by
  induction l generalizing out with
  | nil => simp [pure, Except.pure, eq_comm]
  | cons a l ih =>
    rw [List.mapM_cons, List.forall₂_cons_left_iff]
    simp only [← ih]
    cases f a with
    | error e => simp [bind, Except.bind]
    | ok b => cases l.mapM f <;> simp [bind, Except.bind, pure, Except.pure, eq_comm]

theorem checkItem_eq_ok_iff {schema : Schema} {raw item : Item} :
    schema.checkItem raw = .ok item ↔ item.1 = raw.1 ∧
      match schema.find? raw.1 with
      | some tag => tag.check raw.2 = .ok item.2
      | none => item.2 = raw.2 := by
  obtain ⟨name, value⟩ := item
  unfold checkItem
  cases schema.find? raw.1 with
  | none => simp [Prod.ext_iff, eq_comm]
  | some tag =>
    cases hc : tag.check raw.2 with
    | error e => simp [Except.map, hc]
    | ok v => simp [Except.map, hc, eq_comm, and_comm]

theorem exists_checkItem_of_validate {schema : Schema} {m out : Metadata}
    (h : schema.validate m = .ok out) {item : Item} (hi : item ∈ out) :
    ∃ raw, schema.checkItem raw = .ok item := by
  unfold validate at h
  split at h
  · simp at h
  · obtain ⟨hlen, hget⟩ := List.forall₂_iff_get.mp (mapM_eq_ok_iff.mp h)
    obtain ⟨i, hlt, rfl⟩ := List.mem_iff_getElem.mp hi
    exact ⟨_, hget i (hlen ▸ hlt) hlt⟩

theorem text_of_validate {schema : Schema} {m out : Metadata} (h : schema.validate m = .ok out)
    {tag : Tag} {default : Option Text} {accepts : Text → Bool} {name : Text} {value : Value}
    (hi : (name, value) ∈ out) (ht : schema.find? name = some tag)
    (hk : tag.kind = .text default accepts) : ∃ t, value = .text t ∧ accepts t = true := by
  obtain ⟨raw, hr⟩ := exists_checkItem_of_validate h hi
  obtain ⟨hname, hcheck⟩ := checkItem_eq_ok_iff.mp hr
  rw [← hname, ht] at hcheck
  obtain ⟨t, -, hv, hacc⟩ := Tag.check_text hk hcheck
  exact ⟨t, hv, hacc⟩

section Repeatable

variable {schema : Schema} {name : Text}

lemma all_dropRepeats (hunique : schema.isUnique name = false) (seen : List Text) (m : Metadata) :
    (schema.dropRepeats seen m).all name = m.all name := by
  induction m generalizing seen with
  | nil => rfl
  | cons item m ih =>
    obtain ⟨tag, value⟩ := item
    rw [dropRepeats]
    by_cases htag : tag = name
    · subst htag
      rw [if_neg (by rw [hunique]; exact Bool.false_ne_true), all_cons, all_cons, ih]
    · split_ifs
      · rw [all_cons, if_neg htag, ih]
      · rw [all_cons, all_cons, ih]
      · rw [all_cons, all_cons, ih]

lemma all_addDefault {tag : Tag} (hdefault : tag.name = name → tag.default? = none) (m : Metadata) :
    (addDefault m tag).all name = m.all name := by
  unfold addDefault
  split_ifs with hhas
  · rfl
  · cases hvalue : tag.default? with
    | none => rfl
    | some value =>
      have hname : tag.name ≠ name := by
        intro hname
        rw [hdefault hname] at hvalue
        cases hvalue
      simp [Metadata.all, hname]

lemma all_addDefaults {tags : List Tag}
    (hdefault : ∀ tag ∈ tags, tag.name = name → tag.default? = none) (m : Metadata) :
    (tags.foldl addDefault m).all name = m.all name := by
  induction tags generalizing m with
  | nil => rfl
  | cons tag tags ih =>
    obtain ⟨htag, htags⟩ := List.forall_mem_cons.mp hdefault
    rw [List.foldl_cons, ih htags, all_addDefault htag]

lemma all_checkItems {tag : Tag} {default : Option Text} {accepts : Text → Bool}
    (htag : schema.find? name = some tag) (hkind : tag.kind = .text default accepts)
    {m out : Metadata} (h : List.Forall₂ (fun raw item => schema.checkItem raw = .ok item) m out) :
    out.all name = m.all name := by
  induction h with
  | nil => rfl
  | @cons raw item m out hitem _ ih =>
    obtain ⟨hname, hcheck⟩ := checkItem_eq_ok_iff.mp hitem
    rw [all_cons, all_cons, ih, hname]
    by_cases hraw : raw.1 = name
    · rw [hraw, htag] at hcheck
      obtain ⟨t, hold, hnew, -⟩ := Tag.check_text hkind hcheck
      rw [hold, hnew]
    · rw [if_neg hraw, if_neg hraw]

/-- Checked metadata has the same values of a tag as before, if the tag is for texts, may be repeated and
has no default. -/
theorem all_of_validate {m out : Metadata} (h : schema.validate m = .ok out) {tag : Tag}
    {default : Option Text} {accepts : Text → Bool} (htag : schema.find? name = some tag)
    (hkind : tag.kind = .text default accepts) (hunique : schema.isUnique name = false)
    (hdefault : ∀ tag ∈ schema, tag.name = name → tag.default? = none) :
    out.all name = m.all name := by
  unfold validate at h
  split at h
  · cases h
  · rw [all_checkItems htag hkind (mapM_eq_ok_iff.mp h), all_addDefaults hdefault,
      all_dropRepeats hunique]

end Repeatable

end Schema

/-- The items of the metadata block in a source text, as they are written. -/
def written (source : Text) : Except Error Metadata := (extract source).map parse

/-- The metadata of a source text is what is written in it, checked. -/
theorem Schema.read_eq_ok_iff {schema : Schema} {source : Text} {m : Metadata} :
    schema.read source = .ok m ↔ ∃ raw, written source = .ok raw ∧ schema.validate raw = .ok m := by
  unfold read written
  cases extract source <;> simp [bind, Except.bind, Except.map]

end Userscript.Metadata
