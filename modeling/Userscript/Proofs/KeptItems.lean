import Userscript.Script.Directive
import Userscript.Proofs.Validation

/-!
# Items that a schema keeps

Checked metadata is the old metadata without the repeats of unique tags, followed by the defaults of the tags
that do not occur, with every value checked. From this follows what may be relied on for each kind of tag.
-/

namespace Userscript.Metadata

lemma has_cons (item : Item) (m : Metadata) (name : Text) :
    Metadata.has (item :: m) name = (item.1 == name || Metadata.has m name) := rfl

lemma has_append (m m' : Metadata) (name : Text) :
    Metadata.has (m ++ m') name = (m.has name || m'.has name) := List.any_append

lemma has_eq_true_iff {m : Metadata} {name : Text} : m.has name = true ↔ name ∈ m.map Prod.fst := by
  simp [has]

lemma all_append (m m' : Metadata) (name : Text) :
    Metadata.all (m ++ m') name = m.all name ++ m'.all name := by
  simp [all]

lemma first?_cons (item : Item) (m : Metadata) (name : Text) :
    Metadata.first? (item :: m) name =
      if item.1 = name then some item.2 else Metadata.first? m name := by
  by_cases h : item.1 = name <;> simp [first?, h]

lemma isSome_first? (m : Metadata) (name : Text) : (m.first? name).isSome = m.has name := by
  induction m with
  | nil => rfl
  | cons item m ih =>
    rw [first?_cons, has_cons]
    by_cases h : item.1 = name <;> simp [h, ih]

lemma head?_all (m : Metadata) (name : Text) : (m.all name).head? = m.first? name := by
  rw [all, List.head?_map, List.head?_filter, first?]

lemma first?_subset_all (m : Metadata) (name : Text) : (m.first? name).toList ⊆ m.all name := by
  induction m with
  | nil => exact List.Subset.refl _
  | cons item m ih =>
    rw [first?_cons, all_cons]
    by_cases h : item.1 = name
    · simp [h]
    · simpa [h] using ih

/-! ## Values -/

lemma Value.eq_isSet_iff {value : Value} {b : Bool} :
    b = value.isSet ↔ (b = false ↔ value = .flag false) := by
  cases value with
  | text t => cases b <;> simp [isSet]
  | flag c => cases b <;> cases c <;> simp [isSet]

/-- What a tag makes of a value. A tag for texts takes the texts that it accepts as they are. A tag for flags
takes every value as a flag that it accepts, and only the false flag as false. -/
def Tag.Takes (tag : Tag) (value out : Value) : Prop :=
  match tag.kind with
  | .text _ accepts => ∃ t, value = .text t ∧ out = .text t ∧ accepts t = true
  | .flag _ accepts => ∃ b, (b = false ↔ value = .flag false) ∧ out = .flag b ∧ accepts b = true

theorem Tag.check_eq_ok_iff {tag : Tag} {value out : Value} :
    tag.check value = .ok out ↔ tag.Takes value out := by
  unfold check Takes
  cases tag.kind with
  | text default accepts =>
    cases value with
    | flag b => simp
    | text t =>
      by_cases ht : accepts t = true
      · simp only [ht, if_true, Except.ok.injEq, Value.text.injEq, exists_eq_left', and_true]
        exact eq_comm
      · simp [ht]
  | flag default accepts =>
    simp only [← Value.eq_isSet_iff, exists_eq_left]
    by_cases hset : accepts value.isSet = true
    · simp only [hset, if_true, Except.ok.injEq, and_true]
      exact eq_comm
    · simp [hset]

namespace Schema

variable {schema : Schema} {m out : Metadata} {name : Text} {tag : Tag}

def Takes (schema : Schema) (raw item : Item) : Prop :=
  item.1 = raw.1 ∧
    match schema.find? raw.1 with
    | some tag => tag.Takes raw.2 item.2
    | none => item.2 = raw.2

lemma checkItem_eq_ok_iff_takes {raw item : Item} :
    schema.checkItem raw = .ok item ↔ schema.Takes raw item := by
  rw [checkItem_eq_ok_iff, Takes]
  cases schema.find? raw.1 with
  | none => rfl
  | some tag => exact and_congr_right fun _ => Tag.check_eq_ok_iff

lemma find?_eq_some (hnames : (schema.map Tag.name).Nodup) (htag : tag ∈ schema) :
    schema.find? tag.name = some tag := by
  obtain ⟨before, after, rfl⟩ := List.append_of_mem htag
  rw [List.map_append, List.nodup_append] at hnames
  refine List.find?_eq_some_iff_append.mpr ⟨beq_self_eq_true _, before, after, rfl, fun other hother => ?_⟩
  have hne := hnames.2.2 other.name (List.mem_map_of_mem hother) tag.name (by simp)
  simpa using hne

/-! ## Repeats -/

/-- The items in their order, without those that have a unique tag which occurs before. -/
def firsts (schema : Schema) (m : Metadata) : Metadata :=
  (m.zipIdx.filter fun p => !(schema.isUnique p.1.1 && Metadata.has (m.take p.2) p.1.1)).map
    Prod.fst

def isRepeat (schema : Schema) (seen : List Text) (before : Metadata) (name : Text) : Bool :=
  schema.isUnique name && (seen.contains name || before.has name)

lemma isRepeat_cons (seen : List Text) (item : Item) (before : Metadata) (name : Text) :
    schema.isRepeat seen (item :: before) name = schema.isRepeat (item.1 :: seen) before name := by
  unfold isRepeat
  rw [has_cons, List.contains_cons, Bool.beq_comm (a := name), ← Bool.or_assoc,
    Bool.or_comm (seen.contains name)]

def unseen (schema : Schema) (seen : List Text) (m : Metadata) : Metadata :=
  (m.zipIdx.filter fun p => !schema.isRepeat seen (m.take p.2) p.1.1).map Prod.fst

lemma firsts_eq_unseen (m : Metadata) : schema.firsts m = schema.unseen [] m := by
  simp [firsts, unseen, isRepeat]

lemma unseen_congr {seen seen' : List Text}
    (h : ∀ name, schema.isUnique name = true → seen.contains name = seen'.contains name)
    (m : Metadata) : schema.unseen seen m = schema.unseen seen' m := by
  have hrepeat : ∀ before name, schema.isRepeat seen before name = schema.isRepeat seen' before name := by
    intro before name
    unfold isRepeat
    cases hunique : schema.isUnique name with
    | false => rfl
    | true => rw [h name hunique]
  simp only [unseen, hrepeat]

lemma unseen_cons (seen : List Text) (item : Item) (m : Metadata) :
    schema.unseen seen (item :: m) =
      if schema.isRepeat seen [] item.1 then schema.unseen (item.1 :: seen) m
      else item :: schema.unseen (item.1 :: seen) m := by
  have hrest : ((m.zipIdx 1).filter fun p =>
      !schema.isRepeat seen ((item :: m).take p.2) p.1.1).map Prod.fst =
        schema.unseen (item.1 :: seen) m := by
    rw [List.zipIdx_succ, List.filter_map, List.map_map]
    simp only [unseen, Function.comp_def, List.take_succ_cons, isRepeat_cons]
  rw [← hrest, unseen, List.zipIdx_cons, List.filter_cons, Nat.zero_add]
  cases hseen : schema.isRepeat seen [] item.1 <;> simp [hseen]

/-- Dropping repeats leaves the first occurrences of unique tags, and all else. -/
theorem dropRepeats_eq_unseen (seen : List Text) (m : Metadata) :
    schema.dropRepeats seen m = schema.unseen seen m := by
  induction m generalizing seen with
  | nil => rfl
  | cons item m ih =>
    obtain ⟨name, value⟩ := item
    rw [dropRepeats, unseen_cons, isRepeat]
    by_cases hunique : schema.isUnique name = true
    · by_cases hseen : name ∈ seen
      · have hsame : schema.unseen (name :: seen) m = schema.unseen seen m := by
          refine unseen_congr (fun other _ => ?_) m
          by_cases hne : other = name
          · simp [hne, hseen]
          · simp [hne]
        simp [hunique, hseen, ih, hsame]
      · simp [hunique, hseen, ih, has]
    · -- The recursion remembers unique tags only, and of any other tag it does not matter.
      have hsame : schema.unseen (name :: seen) m = schema.unseen seen m := by
        refine unseen_congr (fun other hother => ?_) m
        have hne : other ≠ name := fun h => hunique (h ▸ hother)
        rw [List.contains_cons, beq_false_of_ne hne, Bool.false_or]
      simp [hunique, ih, hsame]

lemma firsts_eq_dropRepeats (m : Metadata) : schema.firsts m = schema.dropRepeats [] m := by
  rw [firsts_eq_unseen, dropRepeats_eq_unseen]

lemma all_dropRepeats_of_unique (hunique : schema.isUnique name = true) (seen : List Text)
    (m : Metadata) :
    (schema.dropRepeats seen m).all name = if name ∈ seen then [] else (m.first? name).toList := by
  induction m generalizing seen with
  | nil => simp [dropRepeats, Metadata.all, first?]
  | cons item m ih =>
    obtain ⟨other, value⟩ := item
    rw [dropRepeats, first?_cons]
    by_cases hname : other = name
    · subst hname
      by_cases hseen : other ∈ seen
      · simp [hunique, hseen, ih]
      · simp [hunique, hseen, all_cons, ih]
    · have hother : name ≠ other := Ne.symm hname
      split_ifs <;> simp_all [all_cons]

theorem all_firsts (m : Metadata) (name : Text) :
    (schema.firsts m).all name =
      if schema.isUnique name then (m.first? name).toList else m.all name := by
  rw [firsts_eq_unseen, ← dropRepeats_eq_unseen]
  cases hunique : schema.isUnique name with
  | true => simpa using all_dropRepeats_of_unique hunique [] m
  | false => simpa using all_dropRepeats hunique [] m

lemma has_eq_isEmpty_all (m : Metadata) (name : Text) : m.has name = !(m.all name).isEmpty := by
  induction m with
  | nil => rfl
  | cons item m ih =>
    rw [has_cons, all_cons]
    by_cases h : item.1 = name <;> simp [h, ih]

lemma has_firsts (m : Metadata) (name : Text) : (schema.firsts m).has name = m.has name := by
  rw [has_eq_isEmpty_all, all_firsts]
  split_ifs
  · rw [← isSome_first?]
    cases m.first? name <;> rfl
  · rw [has_eq_isEmpty_all]

/-! ## Defaults -/

def defaults (schema : Schema) (m : Metadata) : Metadata :=
  schema.filterMap fun tag =>
    if m.has tag.name then none else tag.default?.map fun value => (tag.name, value)

lemma defaults_congr {m m' : Metadata} (h : ∀ name, m.has name = m'.has name) :
    schema.defaults m = schema.defaults m' := by
  simp only [defaults, h]

lemma addDefault_eq (m : Metadata) (tag : Tag) :
    addDefault m tag = m ++ Schema.defaults [tag] m := by
  unfold addDefault
  by_cases h : m.has tag.name = true
  · simp [defaults, h]
  · cases hd : tag.default? <;> simp [defaults, h, hd]

lemma defaults_append (schema schema' : Schema) (m : Metadata) :
    Schema.defaults (schema ++ schema') m = Schema.defaults schema m ++ Schema.defaults schema' m :=
  List.filterMap_append

lemma name_mem_of_mem_defaults {item : Item} (h : item ∈ schema.defaults m) :
    item.1 ∈ schema.map Tag.name := by
  obtain ⟨tag, htag, h⟩ := List.mem_filterMap.mp h
  split_ifs at h
  obtain ⟨value, -, rfl⟩ := Option.map_eq_some_iff.mp h
  exact List.mem_map_of_mem htag

lemma has_defaults_of_not_mem (h : name ∉ schema.map Tag.name) (m : Metadata) :
    (schema.defaults m).has name = false := by
  rw [← Bool.not_eq_true, has_eq_true_iff]
  intro hname
  obtain ⟨item, hitem, rfl⟩ := List.mem_map.mp hname
  exact h (name_mem_of_mem_defaults hitem)

lemma all_defaults_of_not_mem (h : name ∉ schema.map Tag.name) (m : Metadata) :
    (schema.defaults m).all name = [] := by
  have hhas := has_defaults_of_not_mem h m
  rw [has_eq_isEmpty_all] at hhas
  simpa using hhas

theorem foldl_addDefault (hnames : (schema.map Tag.name).Nodup) (m : Metadata) :
    schema.foldl addDefault m = m ++ schema.defaults m := by
  induction schema generalizing m with
  | nil => simp [defaults]
  | cons tag schema ih =>
    obtain ⟨hnot, hnames⟩ := List.nodup_cons.mp hnames
    have hdefaults : Schema.defaults schema (addDefault m tag) = Schema.defaults schema m := by
      refine List.filterMap_congr fun other hother => ?_
      have hname : other.name ∉ [tag].map Tag.name := fun h =>
        hnot (List.mem_singleton.mp h ▸ List.mem_map_of_mem hother)
      rw [addDefault_eq, has_append, has_defaults_of_not_mem hname, Bool.or_false]
    rw [List.foldl_cons, ih hnames, hdefaults, addDefault_eq, List.append_assoc, ← defaults_append,
      List.singleton_append]

lemma all_defaults (hnames : (schema.map Tag.name).Nodup) (htag : tag ∈ schema) (m : Metadata) :
    (schema.defaults m).all tag.name = if m.has tag.name then [] else tag.default?.toList := by
  obtain ⟨before, after, rfl⟩ := List.append_of_mem htag
  rw [List.map_append, List.map_cons, List.nodup_append, List.nodup_cons] at hnames
  have hbefore : tag.name ∉ before.map Tag.name :=
    fun h => hnames.2.2 _ h tag.name List.mem_cons_self rfl
  have hsingle : (Schema.defaults [tag] m).all tag.name =
      if m.has tag.name then [] else tag.default?.toList := by
    by_cases hm : m.has tag.name = true
    · simp [defaults, hm, Metadata.all]
    · cases hd : tag.default? <;> simp [defaults, hm, hd, Metadata.all]
  rw [← List.singleton_append, defaults_append, defaults_append, all_append, all_append, hsingle,
    all_defaults_of_not_mem hbefore, all_defaults_of_not_mem hnames.2.1.1, List.nil_append,
    List.append_nil]

/-! ## The result -/

/-- Metadata passes the check just when every required tag occurs in it and every item that is left or added
is taken. The result has the items as they are taken. -/
theorem validate_eq_ok_iff (hnames : (schema.map Tag.name).Nodup) :
    schema.validate m = .ok out ↔ (∀ tag ∈ schema, tag.required = true → m.has tag.name = true) ∧
      List.Forall₂ schema.Takes (schema.firsts m ++ schema.defaults m) out := by
  have hmissing : schema.missing? m = none ↔
      ∀ tag ∈ schema, tag.required = true → m.has tag.name = true := by
    simp [missing?]
  have hitems : schema.foldl addDefault (schema.dropRepeats [] m) =
      schema.firsts m ++ schema.defaults m := by
    rw [foldl_addDefault hnames, dropRepeats_eq_unseen, ← firsts_eq_unseen, defaults_congr (has_firsts m)]
  rw [← hmissing, validate]
  cases schema.missing? m with
  | some tag => simp
  | none => simp only [true_and, hitems, mapM_eq_ok_iff, checkItem_eq_ok_iff_takes]

lemma names_of_takes {raw : Metadata} (h : List.Forall₂ schema.Takes raw out) :
    out.map Prod.fst = raw.map Prod.fst := by
  induction h with
  | nil => rfl
  | cons hitem _ ih => rw [List.map_cons, List.map_cons, hitem.1, ih]

lemma all_of_takes {raw : Metadata} (h : List.Forall₂ schema.Takes raw out)
    (htag : schema.find? name = some tag) :
    List.Forall₂ tag.Takes (raw.all name) (out.all name) := by
  induction h with
  | nil => exact .nil
  | @cons item item' raw out hitem _ ih =>
    obtain ⟨hname, hvalue⟩ := hitem
    rw [all_cons, all_cons, hname]
    by_cases hitem : item.1 = name
    · rw [hitem, htag] at hvalue
      rw [if_pos hitem, if_pos hitem]
      exact .cons hvalue ih
    · rwa [if_neg hitem, if_neg hitem]

theorem first?_of_validate (hnames : (schema.map Tag.name).Nodup)
    (h : schema.validate m = .ok out) (hfind : schema.find? name = some tag) :
    Option.Rel tag.Takes ((m.first? name).or tag.default?) (out.first? name) := by
  obtain ⟨-, hitems⟩ := (validate_eq_ok_iff hnames).mp h
  have htag : tag ∈ schema := List.mem_of_find?_eq_some hfind
  have hname : tag.name = name := by simpa using List.find?_some hfind
  subst hname
  have hfirsts : (Metadata.all (schema.firsts m) tag.name).head? = m.first? tag.name := by
    rw [all_firsts]
    split_ifs
    · cases m.first? tag.name <;> rfl
    · exact head?_all m tag.name
  have hraw : (Metadata.all (schema.firsts m ++ schema.defaults m) tag.name).head? =
      (m.first? tag.name).or tag.default? := by
    rw [all_append, List.head?_append, hfirsts, all_defaults hnames htag, ← isSome_first?]
    cases m.first? tag.name with
    | some value => rfl
    | none => cases tag.default? <;> rfl
  have hhead : ∀ {values taken : List Value}, List.Forall₂ tag.Takes values taken →
      Option.Rel tag.Takes values.head? taken.head? := by
    rintro _ _ (_ | ⟨htakes, -⟩)
    · exact .none
    · exact .some htakes
  rw [← hraw, ← head?_all]
  exact hhead (all_of_takes hitems hfind)

def unknown (schema : Schema) (m : Metadata) : Metadata :=
  m.filter fun item => (schema.find? item.1).isNone

lemma unknown_cons (item : Item) (m : Metadata) :
    schema.unknown (item :: m) =
      if (schema.find? item.1).isNone then item :: schema.unknown m else schema.unknown m :=
  List.filter_cons

lemma unknown_dropRepeats (seen : List Text) (m : Metadata) :
    schema.unknown (schema.dropRepeats seen m) = schema.unknown m := by
  induction m generalizing seen with
  | nil => rfl
  | cons item m ih =>
    obtain ⟨name, value⟩ := item
    rw [dropRepeats, isUnique, unknown_cons]
    cases hfind : schema.find? name with
    | none => simp [unknown_cons, hfind, ih]
    | some tag =>
      rw [Option.isNone_some, if_neg Bool.false_ne_true]
      split_ifs <;> simp [unknown_cons, hfind, ih]

lemma unknown_defaults (m : Metadata) : schema.unknown (schema.defaults m) = [] := by
  refine List.filter_eq_nil_iff.mpr fun item hitem => ?_
  obtain ⟨tag, htag, hname⟩ := List.mem_map.mp (name_mem_of_mem_defaults hitem)
  rw [Option.isNone_iff_eq_none, find?, List.find?_eq_none, ← hname]
  exact fun h => h tag htag (beq_self_eq_true _)

lemma unknown_of_takes {raw : Metadata} (h : List.Forall₂ schema.Takes raw out) :
    schema.unknown out = schema.unknown raw := by
  induction h with
  | nil => rfl
  | @cons item item' raw out hitem _ ih =>
    obtain ⟨hname, hvalue⟩ := hitem
    rw [unknown_cons, unknown_cons, hname, ih]
    cases hfind : schema.find? item.1 with
    | some tag => rfl
    | none =>
      rw [hfind] at hvalue
      rw [Prod.ext hname hvalue]

/-- What a schema promises of checked metadata. -/
structure Checked (schema : Schema) (m out : Metadata) : Prop where
  /-- The items are the old ones without repeats and then the defaults, as they are taken. -/
  items : List.Forall₂ schema.Takes (schema.firsts m ++ schema.defaults m) out
  required : ∀ tag ∈ schema, tag.required = true → out.has tag.name = true
  /-- A unique tag has one value at most, which is its first one or else its default. -/
  unique : ∀ tag ∈ schema, tag.unique = true →
    List.Forall₂ tag.Takes ((m.first? tag.name).or tag.default?).toList (out.all tag.name)
  text : ∀ tag ∈ schema, ∀ default accepts, tag.kind = .text default accepts →
    ∀ value ∈ out.all tag.name, ∃ t, value = .text t ∧ accepts t = true ∧
      (.text t ∈ m.all tag.name ∨ default = some t)
  flag : ∀ tag ∈ schema, ∀ default accepts, tag.kind = .flag default accepts →
    ∀ value ∈ out.all tag.name, ∃ b, value = .flag b ∧ accepts b = true ∧
      (b = false → .flag false ∈ m.all tag.name ∨ default = some false)
  unknown : schema.unknown out = schema.unknown m

lemma exists_of_mem_all (hnames : (schema.map Tag.name).Nodup) (htag : tag ∈ schema)
    (hitems : List.Forall₂ schema.Takes (schema.firsts m ++ schema.defaults m) out) {value : Value}
    (hvalue : value ∈ out.all tag.name) :
    ∃ raw, tag.Takes raw value ∧ (raw ∈ m.all tag.name ∨ tag.default? = some raw) := by
  have htaken := all_of_takes hitems (find?_eq_some hnames htag)
  obtain ⟨raw, hraw, htakes⟩ : ∃ raw ∈ Metadata.all (schema.firsts m ++ schema.defaults m) tag.name,
      tag.Takes raw value := by
    obtain ⟨i, hi, rfl⟩ := List.mem_iff_getElem.mp hvalue
    exact ⟨_, List.getElem_mem (htaken.length_eq ▸ hi), htaken.get (htaken.length_eq ▸ hi) hi⟩
  refine ⟨raw, htakes, ?_⟩
  rw [all_append, List.mem_append, all_firsts, all_defaults hnames htag] at hraw
  rcases hraw with hraw | hraw
  · left
    split_ifs at hraw
    · exact first?_subset_all m tag.name hraw
    · exact hraw
  · right
    split_ifs at hraw
    · cases hraw
    · exact Option.mem_toList.mp hraw

/-- Metadata that a schema lets through keeps what the schema promises. -/
theorem checked_of_validate (hnames : (schema.map Tag.name).Nodup)
    (h : schema.validate m = .ok out) : schema.Checked m out := by
  obtain ⟨hrequired, hitems⟩ := (validate_eq_ok_iff hnames).mp h
  refine ⟨hitems, ?required, ?unique, ?text, ?flag, ?unknown⟩
  case required =>
    intro tag htag hreq
    rw [has_eq_true_iff, names_of_takes hitems, List.map_append, List.mem_append, ← has_eq_true_iff,
      has_firsts]
    exact Or.inl (hrequired tag htag hreq)
  case unique =>
    intro tag htag hunique
    have htaken := all_of_takes hitems (find?_eq_some hnames htag)
    have hname : schema.isUnique tag.name = true := by
      rw [isUnique, find?_eq_some hnames htag]
      exact hunique
    rw [all_append, all_firsts, if_pos hname, all_defaults hnames htag, ← isSome_first?] at htaken
    cases hfirst : m.first? tag.name <;> simpa [hfirst] using htaken
  case text =>
    intro tag htag default accepts hkind value hvalue
    obtain ⟨raw, htakes, hraw⟩ := exists_of_mem_all hnames htag hitems hvalue
    rw [Tag.Takes, hkind] at htakes
    obtain ⟨t, rfl, rfl, haccepts⟩ := htakes
    refine ⟨t, rfl, haccepts, hraw.imp_right fun hdefault => ?_⟩
    simpa [Tag.default?, hkind] using hdefault
  case flag =>
    intro tag htag default accepts hkind value hvalue
    obtain ⟨raw, htakes, hraw⟩ := exists_of_mem_all hnames htag hitems hvalue
    rw [Tag.Takes, hkind] at htakes
    obtain ⟨b, hb, rfl, haccepts⟩ := htakes
    refine ⟨b, rfl, haccepts, fun hfalse => ?_⟩
    rw [hb.mp hfalse] at hraw
    refine hraw.imp_right fun hdefault => ?_
    simpa [Tag.default?, hkind] using hdefault
  case unknown =>
    have hfirsts : schema.unknown (schema.firsts m) = schema.unknown m := by
      rw [firsts_eq_unseen, ← dropRepeats_eq_unseen, unknown_dropRepeats]
    have happend : schema.unknown (schema.firsts m ++ schema.defaults m) =
        schema.unknown (schema.firsts m) ++ schema.unknown (schema.defaults m) := List.filter_append ..
    rw [unknown_of_takes hitems, happend, hfirsts, unknown_defaults, List.append_nil]

/-- A repeated name, a flag with a value, an unknown tag that occurs twice and a default. -/
theorem checked_of_validate_of_repeats :
    let m : Metadata := [("name".toList, .text "A".toList), ("icon".toList, .flag false),
      ("noframes".toList, .text "false".toList), ("name".toList, .text []),
      ("icon".toList, .flag false)]
    let out : Metadata := [("name".toList, .text "A".toList), ("icon".toList, .flag false),
      ("noframes".toList, .flag true), ("icon".toList, .flag false),
      ("run-at".toList, .text "document-end".toList)]
    Directive.schema.validate m = .ok out ∧ Directive.schema.Checked m out := by
  intro m out
  have hvalidate : Directive.schema.validate m = .ok out := by decide +kernel
  exact ⟨hvalidate, checked_of_validate (by decide) hvalidate⟩

end Schema

end Userscript.Metadata
