import Userscript.Proofs.KeptItems
import Mathlib.Data.List.Find

/-!
# Why metadata is refused

A check ends with one error even where several things are wrong. A required tag that does not occur comes before
all else, and of several the first in the schema is reported. Only then the items count: the first one that its
tag does not take, where the written items stand before the defaults. Repeats of unique tags and items with unknown
tags are never the reason.
-/

namespace Userscript.Metadata

/-- The element has the property, and no element before it in the list has. -/
def IsFirst {α : Type} (p : α → Prop) (l : List α) (a : α) : Prop :=
  ∃ before after, l = before ++ a :: after ∧ (∀ b ∈ before, ¬p b) ∧ p a

lemma isFirst_cons_iff {α : Type} {p : α → Prop} {l : List α} {a b : α} :
    IsFirst p (b :: l) a ↔ (p b ∧ a = b) ∨ (¬p b ∧ IsFirst p l a) := by
  constructor
  · rintro ⟨before, after, happend, hbefore, ha⟩
    cases before with
    | nil =>
      obtain ⟨rfl, -⟩ := List.cons.inj happend
      exact Or.inl ⟨ha, rfl⟩
    | cons c before =>
      obtain ⟨rfl, rfl⟩ := List.cons.inj happend
      obtain ⟨hb, hbefore⟩ := List.forall_mem_cons.mp hbefore
      exact Or.inr ⟨hb, before, after, rfl, hbefore, ha⟩
  · rintro (⟨hb, rfl⟩ | ⟨hb, before, after, rfl, hbefore, ha⟩)
    · exact ⟨[], l, rfl, List.forall_mem_nil _, hb⟩
    · exact ⟨b :: before, after, rfl, List.forall_mem_cons.mpr ⟨hb, hbefore⟩, ha⟩

lemma not_isFirst_nil {α : Type} {p : α → Prop} (a : α) : ¬IsFirst p [] a := by
  rintro ⟨before, after, h, -⟩
  exact List.append_ne_nil_of_right_ne_nil before (List.cons_ne_nil a after) h.symm

def Lacks (m : Metadata) (tag : Tag) : Prop := tag.required = true ∧ m.has tag.name = false

/-- A tag for texts refuses flags, and texts that it does not accept. A tag for flags takes every value as a flag,
only the false flag as false, and refuses the flags that it does not accept. -/
def Tag.Refuses (tag : Tag) (value : Value) (e : Error) : Prop :=
  match tag.kind with
  | .text _ accepts =>
    (∃ b, value = .flag b ∧ e = .missingValue tag.name) ∨
      ∃ t, value = .text t ∧ accepts t = false ∧ e = .invalidValue tag.name t
  | .flag _ accepts =>
    ∃ b, (b = false ↔ value = .flag false) ∧ accepts b = false ∧
      e = .invalidValue tag.name (Value.flag b).display

theorem Tag.check_eq_error_iff {tag : Tag} {value : Value} {e : Error} :
    tag.check value = .error e ↔ tag.Refuses value e := by
  unfold check Refuses
  cases tag.kind with
  | text default accepts =>
    cases value with
    | flag b =>
      simp only [Except.error.injEq, Value.flag.injEq, exists_eq_left', reduceCtorEq, false_and,
        exists_false, or_false]
      exact eq_comm
    | text t =>
      cases ht : accepts t with
      | true => simp [ht]
      | false =>
        simp only [ht, Bool.false_eq_true, if_false, Except.error.injEq, reduceCtorEq, false_and,
          exists_false, false_or, Value.text.injEq, exists_eq_left', true_and]
        exact eq_comm
  | flag default accepts =>
    simp only [← Value.eq_isSet_iff, exists_eq_left]
    cases hset : accepts value.isSet with
    | true => simp
    | false =>
      simp only [Bool.false_eq_true, if_false, Except.error.injEq, true_and]
      exact eq_comm

section FirstError

variable {α β ε : Type} {f : α → Except ε β} {e : ε}

lemma mapM_eq_error_iff {l : List α} :
    l.mapM f = .error e ↔ ∃ a, IsFirst (fun a => ∃ e, f a = .error e) l a ∧ f a = .error e := by
  induction l with
  | nil => simp [not_isFirst_nil, pure, Except.pure]
  | cons b l ih =>
    rw [List.mapM_cons]
    simp only [isFirst_cons_iff]
    cases hb : f b with
    | error e' =>
      have hhead : (Except.error e' : Except ε (List β)) = .error e ↔ f b = .error e := by simp [hb]
      refine hhead.trans ?_
      constructor
      · intro h
        exact ⟨b, Or.inl ⟨⟨e', rfl⟩, rfl⟩, h⟩
      · rintro ⟨a, ⟨-, rfl⟩ | ⟨hpasses, -⟩, ha⟩
        · exact ha
        · exact absurd ⟨e', rfl⟩ hpasses
    | ok v =>
      have hrest : ((do let vs ← l.mapM f; pure (v :: vs)) : Except ε (List β)) = .error e ↔
          l.mapM f = .error e := by
        cases l.mapM f <;> simp [bind, Except.bind, pure, Except.pure]
      refine hrest.trans (ih.trans (exists_congr fun a => and_congr_left fun _ => ?_))
      simp

lemma exists_mapM_eq_error_iff {l : List α} :
    (∃ e, l.mapM f = .error e) ↔ ∃ a ∈ l, ∃ e, f a = .error e := by
  induction l with
  | nil => simp [pure, Except.pure]
  | cons b l ih =>
    rw [List.mapM_cons, List.exists_mem_cons_iff, ← ih]
    cases f b with
    | error e => simp [bind, Except.bind]
    | ok v => cases l.mapM f <;> simp [bind, Except.bind, pure, Except.pure]

lemma mapM_insert_eq_error_iff {a : α} {v : β} (ha : f a = .ok v) (before after : List α) :
    (before ++ a :: after).mapM f = .error e ↔ (before ++ after).mapM f = .error e := by
  rw [List.mapM_append, List.mapM_append, List.mapM_cons, ha]
  cases before.mapM f with
  | error e' => rfl
  | ok vs => cases after.mapM f <;> simp [bind, Except.bind, pure, Except.pure]

end FirstError

namespace Schema

variable {schema : Schema} {m : Metadata} {item : Item} {e : Error}

def Refuses (schema : Schema) (item : Item) (e : Error) : Prop :=
  ∃ tag ∈ schema, tag.name = item.1 ∧ tag.Refuses item.2 e

def IsRefused (schema : Schema) (item : Item) : Prop := ∃ e, schema.Refuses item e

lemma missing?_eq_some_iff {tag : Tag} :
    schema.missing? m = some tag ↔ IsFirst (Lacks m) schema tag := by
  have hlacks : ∀ tag : Tag, (tag.required && !m.has tag.name) = true ↔ Lacks m tag := by
    intro tag
    simp [Lacks]
  rw [missing?, List.find?_eq_some_iff_append, hlacks, IsFirst]
  constructor
  · rintro ⟨htag, before, after, happend, hbefore⟩
    refine ⟨before, after, happend, ?_, htag⟩
    intro other hother
    rw [← hlacks, Bool.not_eq_true, ← Bool.not_eq_true']
    exact hbefore other hother
  · rintro ⟨before, after, happend, hbefore, htag⟩
    refine ⟨htag, before, after, happend, ?_⟩
    intro other hother
    rw [Bool.not_eq_true', ← Bool.not_eq_true, hlacks]
    exact hbefore other hother

lemma missing?_eq_none_iff : schema.missing? m = none ↔ ∀ tag ∈ schema, ¬Lacks m tag := by
  simp [missing?, Lacks]

lemma checkItem_eq_error_iff (hnames : (schema.map Tag.name).Nodup) :
    schema.checkItem item = .error e ↔ schema.Refuses item e := by
  have hfind : schema.Refuses item e ↔ ∃ tag, schema.find? item.1 = some tag ∧ tag.Refuses item.2 e := by
    constructor
    · rintro ⟨tag, htag, hname, hrefuses⟩
      exact ⟨tag, hname ▸ find?_eq_some hnames htag, hrefuses⟩
    · rintro ⟨tag, hfind, hrefuses⟩
      exact ⟨tag, List.mem_of_find?_eq_some hfind, by simpa using List.find?_some hfind, hrefuses⟩
  rw [hfind, checkItem]
  cases schema.find? item.1 with
  | none => simp
  | some tag =>
    simp only [Option.some.injEq, exists_eq_left', ← Tag.check_eq_error_iff]
    cases tag.check item.2 <;> simp [Except.map]

lemma validate_of_missing {tag : Tag} (h : schema.missing? m = some tag) :
    schema.validate m = .error (.missingTag tag.name) := by
  rw [validate, h]

lemma validate_of_complete (hnames : (schema.map Tag.name).Nodup) (h : schema.missing? m = none) :
    schema.validate m = (schema.firsts m ++ schema.defaults m).mapM schema.checkItem := by
  rw [validate, h]
  simp only [foldl_addDefault hnames, ← firsts_eq_dropRepeats, defaults_congr (has_firsts m)]

lemma dropRepeats_insert_of_repeat {before : Metadata} (hunique : schema.isUnique item.1 = true)
    (seen : List Text) (hseen : item.1 ∈ seen ∨ before.has item.1 = true) (after : Metadata) :
    schema.dropRepeats seen (before ++ item :: after) = schema.dropRepeats seen (before ++ after) := by
  induction before generalizing seen with
  | nil =>
    have hmem : item.1 ∈ seen := by simpa [has] using hseen
    obtain ⟨name, value⟩ := item
    simp only [List.nil_append]
    rw [dropRepeats, if_pos hunique, if_pos (by simpa using hmem)]
  | cons other before ih =>
    obtain ⟨name, value⟩ := other
    have hcases : name = item.1 ∨ item.1 ∈ seen ∨ Metadata.has before item.1 = true := by
      rw [has_cons, Bool.or_eq_true, beq_iff_eq] at hseen
      exact or_left_comm.mp hseen
    simp only [List.cons_append, dropRepeats]
    split_ifs with hname hdone
    · apply ih
      rcases hcases with rfl | h
      · exact Or.inl (by simpa using hdone)
      · exact h
    · rw [ih (name :: seen)]
      rcases hcases with rfl | h
      · exact Or.inl List.mem_cons_self
      · exact h.imp_left (List.mem_cons_of_mem name)
    · rw [ih seen]
      exact hcases.resolve_left fun h => hname (h ▸ hunique)

lemma exists_dropRepeats_insert (hunique : schema.isUnique item.1 = false) (seen : List Text)
    (before after : Metadata) :
    ∃ front back, schema.dropRepeats seen (before ++ item :: after) = front ++ item :: back ∧
      schema.dropRepeats seen (before ++ after) = front ++ back := by
  induction before generalizing seen with
  | nil =>
    obtain ⟨name, value⟩ := item
    refine ⟨[], schema.dropRepeats seen after, ?_, rfl⟩
    rw [List.nil_append, dropRepeats, if_neg (by simp [hunique])]
    rfl
  | cons other before ih =>
    obtain ⟨name, value⟩ := other
    simp only [List.cons_append, dropRepeats]
    split_ifs with hother hdone
    · exact ih seen
    · obtain ⟨front, back, hwith, hwithout⟩ := ih (name :: seen)
      exact ⟨(name, value) :: front, back, by rw [hwith]; rfl, by rw [hwithout]; rfl⟩
    · obtain ⟨front, back, hwith, hwithout⟩ := ih seen
      exact ⟨(name, value) :: front, back, by rw [hwith]; rfl, by rw [hwithout]; rfl⟩

/-- A repeat of a unique tag, or an item with an unknown tag. -/
def IsIdle (schema : Schema) (before : Metadata) (item : Item) : Prop :=
  (schema.isUnique item.1 = true ∧ before.has item.1 = true) ∨ item.1 ∉ schema.map Tag.name

lemma has_insert_of_idle {before after : Metadata} (hidle : schema.IsIdle before item) {tag : Tag}
    (htag : tag ∈ schema) :
    Metadata.has (before ++ item :: after) tag.name = Metadata.has (before ++ after) tag.name := by
  rw [has_append, has_append, has_cons, ← Bool.or_assoc]
  by_cases hname : item.1 = tag.name
  · rcases hidle with ⟨-, hhas⟩ | hunknown
    · rw [← hname, hhas]
      simp
    · exact absurd (List.mem_map.mpr ⟨tag, htag, hname.symm⟩) hunknown
  · rw [beq_false_of_ne hname, Bool.or_false]

lemma validate_insert_eq_error_iff (hnames : (schema.map Tag.name).Nodup) {before after : Metadata}
    (hidle : schema.IsIdle before item) :
    schema.validate (before ++ item :: after) = .error e ↔
      schema.validate (before ++ after) = .error e := by
  have hmissing : schema.missing? (before ++ item :: after) = schema.missing? (before ++ after) := by
    refine List.find?_congr fun tag htag => ?_
    rw [has_insert_of_idle hidle htag]
  have hdefaults : schema.defaults (before ++ item :: after) = schema.defaults (before ++ after) := by
    refine List.filterMap_congr fun tag htag => ?_
    rw [has_insert_of_idle hidle htag]
  cases hlacks : schema.missing? (before ++ after) with
  | some tag => rw [validate_of_missing hlacks, validate_of_missing (hmissing.trans hlacks)]
  | none =>
    rw [validate_of_complete hnames hlacks, validate_of_complete hnames (hmissing.trans hlacks),
      hdefaults, firsts_eq_dropRepeats, firsts_eq_dropRepeats]
    rcases hidle with ⟨hunique, hhas⟩ | hunknown
    · rw [dropRepeats_insert_of_repeat hunique [] (Or.inr hhas)]
    · have hfind : schema.find? item.1 = none := by
        rw [find?, List.find?_eq_none]
        intro tag htag hname
        exact hunknown (List.mem_map.mpr ⟨tag, htag, by simpa using hname⟩)
      have hunique : schema.isUnique item.1 = false := by rw [isUnique, hfind, Option.any_none]
      have hchecked : schema.checkItem item = .ok item := by rw [checkItem, hfind]
      obtain ⟨front, back, hwith, hwithout⟩ := exists_dropRepeats_insert hunique [] before after
      rw [hwith, hwithout, List.append_assoc, List.append_assoc, List.cons_append]
      exact mapM_insert_eq_error_iff hchecked front _

/-- Metadata is refused for the first required tag that does not occur, or if there is none, for the first item
that is refused among those that are left and added. -/
theorem validate_eq_error_iff (hnames : (schema.map Tag.name).Nodup) (m : Metadata) :
    (∀ e, schema.validate m = .error e ↔
      (∃ tag, IsFirst (Lacks m) schema tag ∧ e = .missingTag tag.name) ∨
      (∀ tag ∈ schema, ¬Lacks m tag) ∧
        ∃ item, IsFirst schema.IsRefused (schema.firsts m ++ schema.defaults m) item ∧
          schema.Refuses item e) ∧
    ((∃ e, schema.validate m = .error e) ↔
      (∃ tag ∈ schema, Lacks m tag) ∨
        ∃ item ∈ schema.firsts m ++ schema.defaults m, schema.IsRefused item) ∧
    ∀ before item after, m = before ++ item :: after → schema.IsIdle before item →
      ∀ e, schema.validate m = .error e ↔ schema.validate (before ++ after) = .error e := by
  have hrefused : schema.IsRefused = fun item => ∃ e, schema.checkItem item = .error e := by
    funext item
    simp only [IsRefused, checkItem_eq_error_iff hnames]
  refine ⟨?error, ?fails, ?idle⟩
  case error =>
    intro e
    cases hmissing : schema.missing? m with
    | some tag =>
      have hincomplete : ¬∀ tag ∈ schema, ¬Lacks m tag := by
        rw [← missing?_eq_none_iff, hmissing]
        exact Option.some_ne_none tag
      rw [validate_of_missing hmissing, or_iff_left fun h => hincomplete h.1]
      simp only [← missing?_eq_some_iff, hmissing, Option.some.injEq, exists_eq_left', Except.error.injEq]
      exact eq_comm
    | none =>
      have hnone : ¬∃ tag, IsFirst (Lacks m) schema tag ∧ e = .missingTag tag.name := by
        simp [← missing?_eq_some_iff, hmissing]
      rw [validate_of_complete hnames hmissing, or_iff_right hnone,
        and_iff_right (missing?_eq_none_iff.mp hmissing), hrefused]
      simp only [← checkItem_eq_error_iff hnames]
      exact mapM_eq_error_iff
  case fails =>
    cases hmissing : schema.missing? m with
    | some tag =>
      obtain ⟨before, after, rfl, -, hlacks⟩ := missing?_eq_some_iff.mp hmissing
      have hfails := validate_of_missing hmissing
      exact iff_of_true ⟨_, hfails⟩ (Or.inl ⟨tag, List.mem_append_right before List.mem_cons_self, hlacks⟩)
    | none =>
      have hnone : ¬∃ tag ∈ schema, Lacks m tag := by
        rintro ⟨tag, htag, hlacks⟩
        exact missing?_eq_none_iff.mp hmissing tag htag hlacks
      rw [validate_of_complete hnames hmissing, or_iff_right hnone, exists_mapM_eq_error_iff, hrefused]
  case idle =>
    rintro before item after rfl hidle e
    exact validate_insert_eq_error_iff hnames hidle

/-- The repeat that would be refused and the unknown tag do not count, so a default is refused that its own tag does
not take. -/
theorem validate_eq_error_iff_of_bad_default :
    let schema : Schema := [
      { name := "run-at".toList, unique := true, required := false,
        kind := .text (some "later".toList) fun t => t == "now".toList },
      { name := "noframes".toList, unique := true, required := true, kind := .flag none id }]
    let m : Metadata := [("noframes".toList, .text []), ("icon".toList, .flag false),
      ("noframes".toList, .flag false)]
    let e : Error := .invalidValue "run-at".toList "later".toList
    (schema.map Tag.name).Nodup ∧ schema.validate m = .error e ∧
      ((∃ tag, IsFirst (Lacks m) schema tag ∧ e = .missingTag tag.name) ∨
      (∀ tag ∈ schema, ¬Lacks m tag) ∧
        ∃ item, IsFirst schema.IsRefused (schema.firsts m ++ schema.defaults m) item ∧
          schema.Refuses item e) := by
  intro schema m e
  have hnames : (schema.map Tag.name).Nodup := by decide
  have hvalidate : schema.validate m = .error e := by decide +kernel
  exact ⟨hnames, hvalidate, ((validate_eq_error_iff hnames m).1 e).mp hvalidate⟩

end Schema

end Userscript.Metadata
