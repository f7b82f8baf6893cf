import Userscript.Proofs.KeptItems
import Mathlib.Data.List.Nodup

/-!
# Settled metadata

Metadata is settled when a check finds nothing to do in it: every required tag occurs, no unique tag occurs twice,
no default is missing, and every item is taken as it is. A check leaves settled metadata alone, and whatever it lets
through is settled. A schema may use one name for several tags here. Then the first of them says how the items of
that name are taken, but any of them may give the default.
-/

namespace Userscript.Metadata

lemma Tag.Takes.self {tag : Tag} {value out : Value} (h : tag.Takes value out) : tag.Takes out out := by
  unfold Tag.Takes at h ⊢
  cases hkind : tag.kind with
  | text default accepts =>
    simp only [hkind] at h
    obtain ⟨t, -, rfl, haccepts⟩ := h
    exact ⟨t, rfl, rfl, haccepts⟩
  | flag default accepts =>
    simp only [hkind] at h
    obtain ⟨b, -, rfl, haccepts⟩ := h
    exact ⟨b, by rw [Value.flag.injEq], rfl, haccepts⟩

namespace Schema

variable {schema : Schema} {m out : Metadata} {name : Text}

lemma Takes.self {raw item : Item} (h : schema.Takes raw item) : schema.Takes item item := by
  obtain ⟨hname, hvalue⟩ := h
  rw [← hname] at hvalue
  refine ⟨rfl, ?_⟩
  cases hfind : schema.find? item.1 with
  | none => rfl
  | some tag =>
    rw [hfind] at hvalue
    exact Tag.Takes.self hvalue

def uniqueNames (schema : Schema) (m : Metadata) : List Text := (m.map Prod.fst).filter schema.isUnique

/-- A check finds nothing to do. -/
structure Settled (schema : Schema) (m : Metadata) : Prop where
  required : ∀ tag ∈ schema, tag.required = true → m.has tag.name = true
  unique : (schema.uniqueNames m).Nodup
  defaults : ∀ tag ∈ schema, m.has tag.name = true ∨ tag.default? = none
  taken : ∀ item ∈ m, schema.Takes item item

lemma uniqueNames_cons (item : Item) (m : Metadata) :
    schema.uniqueNames (item :: m) =
      if schema.isUnique item.1 then item.1 :: schema.uniqueNames m else schema.uniqueNames m := by
  rw [uniqueNames, List.map_cons, List.filter_cons]
  rfl

lemma has_of_mem_uniqueNames (h : name ∈ schema.uniqueNames m) : m.has name = true :=
  has_eq_true_iff.mpr (List.mem_of_mem_filter h)

lemma not_mem_uniqueNames_dropRepeats (seen : List Text) (m : Metadata) (hname : name ∈ seen) :
    name ∉ schema.uniqueNames (schema.dropRepeats seen m) := by
  induction m generalizing seen with
  | nil => exact List.not_mem_nil
  | cons item m ih =>
    obtain ⟨other, value⟩ := item
    rw [dropRepeats]
    split_ifs with hunique hseen
    · exact ih seen hname
    · have hne : name ≠ other := by
        rintro rfl
        exact hseen (by simpa using hname)
      rw [uniqueNames_cons, if_pos hunique, List.mem_cons, not_or]
      exact ⟨hne, ih (other :: seen) (List.mem_cons_of_mem other hname)⟩
    · rw [uniqueNames_cons, if_neg hunique]
      exact ih seen hname

lemma nodup_uniqueNames_dropRepeats (seen : List Text) (m : Metadata) :
    (schema.uniqueNames (schema.dropRepeats seen m)).Nodup := by
  induction m generalizing seen with
  | nil => exact List.nodup_nil
  | cons item m ih =>
    obtain ⟨other, value⟩ := item
    rw [dropRepeats]
    split_ifs with hunique hseen
    · exact ih seen
    · rw [uniqueNames_cons, if_pos hunique, List.nodup_cons]
      exact ⟨not_mem_uniqueNames_dropRepeats _ m List.mem_cons_self, ih (other :: seen)⟩
    · rw [uniqueNames_cons, if_neg hunique]
      exact ih seen

lemma dropRepeats_of_nodup {seen : List Text} (hnodup : (schema.uniqueNames m).Nodup)
    (hseen : ∀ name ∈ schema.uniqueNames m, name ∉ seen) : schema.dropRepeats seen m = m := by
  induction m generalizing seen with
  | nil => rfl
  | cons item m ih =>
    obtain ⟨other, value⟩ := item
    rw [uniqueNames_cons] at hnodup hseen
    rw [dropRepeats]
    by_cases hunique : schema.isUnique other = true
    · rw [if_pos hunique] at hnodup hseen ⊢
      obtain ⟨hother, hnodup⟩ := List.nodup_cons.mp hnodup
      obtain ⟨hfresh, hseen⟩ := List.forall_mem_cons.mp hseen
      rw [if_neg (by simpa using hfresh), ih hnodup]
      intro name hname
      rw [List.mem_cons, not_or]
      exact ⟨ne_of_mem_of_not_mem hname hother, hseen name hname⟩
    · rw [if_neg hunique] at hnodup hseen ⊢
      rw [ih hnodup hseen]

lemma addDefault_cases (m : Metadata) (tag : Tag) :
    ((m.has tag.name = true ∨ tag.default? = none) ∧ addDefault m tag = m) ∨
      ∃ value, m.has tag.name = false ∧ addDefault m tag = m ++ [(tag.name, value)] := by
  unfold addDefault
  cases hhas : m.has tag.name with
  | true => exact Or.inl ⟨Or.inl rfl, rfl⟩
  | false =>
    cases hdefault : tag.default? with
    | none => exact Or.inl ⟨Or.inr rfl, rfl⟩
    | some value => exact Or.inr ⟨value, rfl, rfl⟩

lemma has_addDefault (tag : Tag) (h : m.has name = true) : (addDefault m tag).has name = true := by
  rcases addDefault_cases m tag with ⟨-, heq⟩ | ⟨value, -, heq⟩
  · rwa [heq]
  · rw [heq, has_append, h, Bool.true_or]

lemma has_foldl_addDefault (tags : List Tag) (h : m.has name = true) :
    Metadata.has (tags.foldl addDefault m) name = true := by
  induction tags generalizing m with
  | nil => exact h
  | cons tag tags ih => exact ih (has_addDefault tag h)

lemma nodup_uniqueNames_addDefault (tag : Tag) (h : (schema.uniqueNames m).Nodup) :
    (schema.uniqueNames (addDefault m tag)).Nodup := by
  rcases addDefault_cases m tag with ⟨-, heq⟩ | ⟨value, hhas, heq⟩
  · rwa [heq]
  · rw [heq, uniqueNames, List.map_append, List.filter_append, List.nodup_append]
    refine ⟨h, List.Nodup.filter _ (List.nodup_singleton _), ?_⟩
    rintro name hname other hother rfl
    have hlast : name = tag.name := by simpa using List.mem_of_mem_filter hother
    rw [← hlast, has_of_mem_uniqueNames hname] at hhas
    cases hhas

lemma nodup_uniqueNames_foldl_addDefault (tags : List Tag) (h : (schema.uniqueNames m).Nodup) :
    (schema.uniqueNames (tags.foldl addDefault m)).Nodup := by
  induction tags generalizing m with
  | nil => exact h
  | cons tag tags ih => exact ih (nodup_uniqueNames_addDefault tag h)

lemma complete_foldl_addDefault (tags : List Tag) (m : Metadata) :
    ∀ tag ∈ tags, Metadata.has (tags.foldl addDefault m) tag.name = true ∨ tag.default? = none := by
  induction tags generalizing m with
  | nil => exact List.forall_mem_nil _
  | cons first tags ih =>
    refine List.forall_mem_cons.mpr ⟨?_, ih (addDefault m first)⟩
    rw [List.foldl_cons]
    rcases addDefault_cases m first with ⟨h, heq⟩ | ⟨value, -, heq⟩
    · rw [heq]
      exact h.imp_left (has_foldl_addDefault tags)
    · left
      apply has_foldl_addDefault
      rw [heq, has_append]
      simp [has]

lemma foldl_addDefault_of_complete {tags : List Tag}
    (h : ∀ tag ∈ tags, m.has tag.name = true ∨ tag.default? = none) : tags.foldl addDefault m = m := by
  induction tags with
  | nil => rfl
  | cons tag tags ih =>
    obtain ⟨htag, htags⟩ := List.forall_mem_cons.mp h
    have hsame : addDefault m tag = m := by
      rcases htag with hhas | hdefault
      · rw [addDefault, if_pos hhas]
      · rw [addDefault, hdefault, ite_self]
    rw [List.foldl_cons, hsame, ih htags]

lemma has_congr {m' : Metadata} (h : m.map Prod.fst = m'.map Prod.fst) (name : Text) :
    m.has name = m'.has name := by
  rw [Bool.eq_iff_iff, has_eq_true_iff, has_eq_true_iff, h]

/-- Whatever a check lets through is settled. -/
theorem settled_of_validate (h : schema.validate m = .ok out) : schema.Settled out := by
  unfold validate at h
  split at h
  · cases h
  · rename_i hmissing
    simp only [mapM_eq_ok_iff, checkItem_eq_ok_iff_takes] at h
    have hnames := names_of_takes h
    refine ⟨?required, ?unique, ?defaults, ?taken⟩
    case required =>
      intro tag htag hrequired
      have hhas : m.has tag.name = true := by
        have hnot := List.find?_eq_none.mp hmissing tag htag
        simpa [hrequired] using hnot
      rw [has_congr hnames]
      apply has_foldl_addDefault
      rw [← firsts_eq_dropRepeats, has_firsts, hhas]
    case unique =>
      rw [uniqueNames, hnames]
      exact nodup_uniqueNames_foldl_addDefault schema (nodup_uniqueNames_dropRepeats [] m)
    case defaults =>
      intro tag htag
      rw [has_congr hnames]
      exact complete_foldl_addDefault schema _ tag htag
    case taken =>
      intro item hitem
      obtain ⟨i, hi, rfl⟩ := List.mem_iff_getElem.mp hitem
      exact (h.get (h.length_eq ▸ hi) hi).self

theorem validate_of_settled (h : schema.Settled m) : schema.validate m = .ok m := by
  have hmissing : schema.missing? m = none := by
    rw [missing?, List.find?_eq_none]
    intro tag htag hlacks
    rw [Bool.and_eq_true] at hlacks
    simp [h.required tag htag hlacks.1] at hlacks
  have hrepeats : schema.dropRepeats [] m = m :=
    dropRepeats_of_nodup h.unique fun _ _ => List.not_mem_nil
  rw [validate, hmissing]
  simp only [hrepeats, foldl_addDefault_of_complete h.defaults]
  rw [mapM_eq_ok_iff, List.forall₂_same]
  intro item hitem
  exact checkItem_eq_ok_iff_takes.mpr (h.taken item hitem)

/-- Checking a second time changes nothing. -/
theorem validate_idempotent (h : schema.validate m = .ok out) : schema.validate out = .ok out :=
  validate_of_settled (settled_of_validate h)

/-- Of two tags with one name, the first takes the default of the second as a flag. -/
theorem validate_idempotent_of_shared_name :
    let schema : Schema := [
      { name := "noframes".toList, unique := true, required := false, kind := .flag none id },
      { name := "icon".toList, unique := true, required := true, kind := .text none fun t => !t.isEmpty },
      { name := "noframes".toList, unique := false, required := false,
        kind := .text (some "always".toList) fun _ => false }]
    let m : Metadata := [("icon".toList, .text "a".toList), ("icon".toList, .flag true)]
    let out : Metadata := [("icon".toList, .text "a".toList), ("noframes".toList, .flag true)]
    schema.validate m = .ok out ∧ schema.validate out = .ok out := by
  intro schema m out
  have hvalidate : schema.validate m = .ok out := by decide +kernel
  exact ⟨hvalidate, validate_idempotent hvalidate⟩

end Schema

end Userscript.Metadata
