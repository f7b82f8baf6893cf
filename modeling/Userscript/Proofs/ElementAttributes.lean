import Userscript.Injection.Tag
import Mathlib.Data.List.Nodup

/-!
# Attributes of an element

The attributes of an element stand in a list. Giving one a value changes the first of its name where it stands, or
puts a new one last. An element that began without attributes therefore has each name once, in the order in which
the names came up, and with it the value of the last call for it. What is read of an attribute is all that the
document shows of it, and calls for other names neither change nor move it.
-/

namespace Userscript.ScriptTag

variable {attributes calls before : List (Text × Text)} {tag : ScriptTag} {name other : Text}

lemma map_fst_setIn_of_mem (h : name ∈ attributes.map Prod.fst) (value : Text) :
    (setIn name value attributes).map Prod.fst = attributes.map Prod.fst := by
  induction attributes with
  | nil => cases h
  | cons a rest ih =>
    obtain ⟨n, v⟩ := a
    by_cases hn : n = name
    · rw [setIn, if_pos hn, List.map_cons, List.map_cons]
    · have hrest : name ∈ rest.map Prod.fst := (List.mem_cons.mp h).resolve_left (Ne.symm hn)
      rw [setIn, if_neg hn, List.map_cons, List.map_cons, ih hrest]

lemma setIn_of_not_mem (h : name ∉ attributes.map Prod.fst) (value : Text) :
    setIn name value attributes = attributes ++ [(name, value)] := by
  induction attributes with
  | nil => rfl
  | cons a rest ih =>
    obtain ⟨n, v⟩ := a
    rw [List.map_cons, List.mem_cons, not_or] at h
    rw [setIn, if_neg (Ne.symm h.1), ih h.2, List.cons_append]

lemma find?_setIn (name value other : Text) (attributes : List (Text × Text)) :
    (setIn name value attributes).find? (·.1 == other) =
      if name = other then some (name, value) else attributes.find? (·.1 == other) := by
  induction attributes with
  | nil => by_cases h : name = other <;> simp [setIn, h]
  | cons a rest ih =>
    obtain ⟨n, v⟩ := a
    by_cases hn : n = name
    · by_cases h : name = other <;> simp [setIn, hn, h]
    · rw [setIn, if_neg hn, List.find?_cons, List.find?_cons, ih]
      by_cases hother : n = other
      · have h : name ≠ other := fun h => hn (hother.trans h.symm)
        simp [hother, h]
      · simp [beq_eq_false_iff_ne.mpr hother]

lemma getElem?_setIn_iff (h : name ≠ other) (value : Text) (i : Nat) (v : Text) :
    (setIn name value attributes)[i]? = some (other, v) ↔ attributes[i]? = some (other, v) := by
  induction attributes generalizing i with
  | nil => cases i <;> simp [setIn, h]
  | cons a rest ih =>
    obtain ⟨n, w⟩ := a
    by_cases hn : n = name
    · rw [setIn, if_pos hn]
      cases i with
      | zero => simp [hn, h]
      | succ i => rfl
    · rw [setIn, if_neg hn]
      cases i with
      | zero => rfl
      | succ i => exact ih i

def names (tag : ScriptTag) : List Text := tag.attributes.map Prod.fst

lemma names_set_of_mem (h : name ∈ tag.names) (value : Text) : (tag.set name value).names = tag.names :=
  map_fst_setIn_of_mem h value

lemma names_set_of_not_mem (h : name ∉ tag.names) (value : Text) :
    (tag.set name value).names = tag.names ++ [name] := by
  rw [names, set, setIn_of_not_mem h, List.map_append]
  rfl

lemma get?_set (tag : ScriptTag) (name value other : Text) :
    (tag.set name value).get? other = if name = other then some value else tag.get? other := by
  rw [get?, set, find?_setIn]
  split <;> rfl

/-- Where no name stands twice, what is read of an attribute is all that the document shows of it. -/
lemma mem_attributes_iff (h : tag.names.Nodup) {value : Text} :
    (name, value) ∈ tag.attributes ↔ tag.get? name = some value := by
  constructor
  · intro hmem
    have hfound : (tag.attributes.find? (·.1 == name)).isSome :=
      List.find?_isSome.mpr ⟨_, hmem, beq_self_eq_true name⟩
    obtain ⟨a, ha⟩ := Option.isSome_iff_exists.mp hfound
    have hname : a.1 = name := by simpa using List.find?_some ha
    have heq : a = (name, value) := List.inj_on_of_nodup_map h (List.mem_of_find?_eq_some ha) hmem hname
    rw [get?, ha, heq, Option.map_some]
  · intro hget
    obtain ⟨a, ha, rfl⟩ := Option.map_eq_some_iff.mp hget
    obtain rfl : a.1 = name := by simpa using List.find?_some ha
    exact List.mem_of_find?_eq_some ha

def setAll (tag : ScriptTag) : List (Text × Text) → ScriptTag
  | [] => tag
  | (name, value) :: calls => (tag.set name value).setAll calls

lemma text_setAll (tag : ScriptTag) (calls : List (Text × Text)) : (tag.setAll calls).text = tag.text := by
  induction calls generalizing tag with
  | nil => rfl
  | cons c calls ih => rw [setAll, ih, text_set]

lemma get?_setAll_of_forall_ne (h : ∀ c ∈ calls, c.1 ≠ name) : (tag.setAll calls).get? name = tag.get? name := by
  induction calls generalizing tag with
  | nil => rfl
  | cons c calls ih =>
    obtain ⟨hc, hcalls⟩ := List.forall_mem_cons.mp h
    rw [setAll, ih hcalls, get?_set, if_neg hc]

lemma getElem?_setAll_iff (h : ∀ c ∈ calls, c.1 ≠ name) (i : Nat) (value : Text) :
    (tag.setAll calls).attributes[i]? = some (name, value) ↔ tag.attributes[i]? = some (name, value) := by
  induction calls generalizing tag with
  | nil => rfl
  | cons c calls ih =>
    obtain ⟨hc, hcalls⟩ := List.forall_mem_cons.mp h
    rw [setAll, ih hcalls]
    exact getElem?_setIn_iff hc c.2 i value

lemma findRev?_concat (calls : List (Text × Text)) (c : Text × Text) (name : Text) :
    (calls ++ [c]).findRev? (·.1 == name) = if c.1 = name then some c else calls.findRev? (·.1 == name) := by
  rw [List.findRev?_eq_find?_reverse, List.findRev?_eq_find?_reverse, List.reverse_concat, List.find?_cons]
  by_cases h : c.1 = name
  · simp [h]
  · simp [h, beq_eq_false_iff_ne.mpr h]

/-- The attributes of an element are those that calls have set. Each name stands once, in the order of the first calls
for the names, and is read with the value of the last call for it, or not at all without a call. -/
structure SetBy (tag : ScriptTag) (calls : List (Text × Text)) : Prop where
  names_nodup : tag.names.Nodup
  mem_names_iff : ∀ name, name ∈ tag.names ↔ name ∈ calls.map Prod.fst
  names_ordered : tag.names.Pairwise fun n n' =>
    (calls.map Prod.fst).idxOf n < (calls.map Prod.fst).idxOf n'
  get?_eq : ∀ name, tag.get? name = (calls.findRev? (·.1 == name)).map Prod.snd

lemma setBy_nil (text : Option Text) : SetBy { blank with text } [] where
  names_nodup := .nil
  mem_names_iff _ := Iff.rfl
  names_ordered := .nil
  get?_eq _ := rfl

lemma SetBy.names_ordered_append (h : tag.SetBy calls) (more : List Text) : tag.names.Pairwise fun n n' =>
    (calls.map Prod.fst ++ more).idxOf n < (calls.map Prod.fst ++ more).idxOf n' := by
  refine h.names_ordered.imp_of_mem fun {n n'} hn hn' hlt => ?_
  have hcalled : n ∈ calls.map Prod.fst := (h.mem_names_iff n).mp hn
  have hcalled' : n' ∈ calls.map Prod.fst := (h.mem_names_iff n').mp hn'
  rw [List.idxOf_append_of_mem hcalled, List.idxOf_append_of_mem hcalled']
  exact hlt

lemma SetBy.get?_concat (h : tag.SetBy calls) (name value other : Text) :
    (tag.set name value).get? other =
      ((calls ++ [(name, value)]).findRev? (·.1 == other)).map Prod.snd := by
  rw [get?_set, findRev?_concat, h.get?_eq]
  split <;> rfl

lemma SetBy.concat (h : tag.SetBy calls) (name value : Text) :
    (tag.set name value).SetBy (calls ++ [(name, value)]) := by
  have hcalled : (calls ++ [(name, value)]).map Prod.fst = calls.map Prod.fst ++ [name] := List.map_append
  have hordered := h.names_ordered_append [name]
  by_cases hname : name ∈ tag.names
  · have hnames : (tag.set name value).names = tag.names := names_set_of_mem hname value
    refine ⟨?_, fun other => ?_, ?_, h.get?_concat name value⟩
    · rw [hnames]
      exact h.names_nodup
    · rw [hnames, hcalled, List.mem_append, List.mem_singleton, h.mem_names_iff]
      refine (or_iff_left_of_imp ?_).symm
      rintro rfl
      exact (h.mem_names_iff other).mp hname
    · rw [hnames, hcalled]
      exact hordered
  · have hnames : (tag.set name value).names = tag.names ++ [name] := names_set_of_not_mem hname value
    have hnew : name ∉ calls.map Prod.fst := (h.mem_names_iff name).not.mp hname
    refine ⟨?_, fun other => ?_, ?_, h.get?_concat name value⟩
    · rw [hnames, ← List.concat_eq_append]
      exact h.names_nodup.concat hname
    · rw [hnames, hcalled, List.mem_append, List.mem_append, h.mem_names_iff]
    · rw [hnames, hcalled, List.pairwise_append]
      refine ⟨hordered, List.pairwise_singleton _ _, ?_⟩
      -- The new name has its first call behind all the others.
      intro n hn n' hn'
      have hn : n ∈ calls.map Prod.fst := (h.mem_names_iff n).mp hn
      rw [List.mem_singleton.mp hn', List.idxOf_append_of_mem hn, List.idxOf_append_of_notMem hnew]
      exact Nat.lt_add_right _ (List.idxOf_lt_length_of_mem hn)

/-- A run of calls goes on from what the calls before it have made. -/
theorem SetBy.append (h : tag.SetBy before) (calls : List (Text × Text)) :
    (tag.setAll calls).SetBy (before ++ calls) := by
  induction calls generalizing before tag with
  | nil => rwa [setAll, List.append_nil]
  | cons c calls ih =>
    have hnext := ih (h.concat c.1 c.2)
    rwa [List.append_assoc] at hnext

/-- An element that began without attributes has those that the calls have set, and the document shows of each name
just what is read of it. The text is not touched. Further calls, one or many, leave every attribute that they do not
name its value and its place. -/
theorem setBy_setAll_and_others_unchanged (text : Option Text) (calls : List (Text × Text)) :
    let tag := setAll { blank with text } calls
    tag.SetBy calls ∧
      (∀ name value, (name, value) ∈ tag.attributes ↔ tag.get? name = some value) ∧ tag.text = text ∧
      ∀ (further : List (Text × Text)) (name : Text), (∀ c ∈ further, c.1 ≠ name) →
        (tag.setAll further).get? name = tag.get? name ∧
          ∀ (i : Nat) (value : Text), (tag.setAll further).attributes[i]? = some (name, value) ↔
            tag.attributes[i]? = some (name, value) := by
  intro tag
  have hset : tag.SetBy calls := (setBy_nil text).append calls
  refine ⟨hset, fun name value => mem_attributes_iff hset.names_nodup, text_setAll _ calls, ?_⟩
  intro further name hothers
  exact ⟨get?_setAll_of_forall_ne hothers, getElem?_setAll_iff hothers⟩

/-- A nonce that is given twice stays in front of the address between, with its second value, whatever comes then. -/
theorem setBy_setAll_and_others_unchanged_of_two_nonces :
    let calls := [("nonce".toList, "a1".toList), ("src".toList, "/u.js".toList), ("nonce".toList, "b2".toList)]
    let further := [("src".toList, "/v.js".toList), ("id".toList, "u".toList)]
    let tag := setAll blank calls
    (∀ c ∈ further, c.1 ≠ "nonce".toList) ∧ tag.names.Nodup ∧
      (tag.setAll further).get? "nonce".toList = some "b2".toList ∧
      (tag.setAll further).attributes[0]? = some ("nonce".toList, "b2".toList) := by
  intro calls further tag
  have hothers : ∀ c ∈ further, c.1 ≠ "nonce".toList := by decide
  have hfront : tag.attributes[0]? = some ("nonce".toList, "b2".toList) := by decide
  obtain ⟨hset, -, -, hunchanged⟩ := setBy_setAll_and_others_unchanged none calls
  obtain ⟨hvalue, hplace⟩ := hunchanged further _ hothers
  have hlast : tag.get? "nonce".toList = some "b2".toList := (hset.get?_eq _).trans (by decide)
  exact ⟨hothers, hset.names_nodup, hvalue.trans hlast, (hplace 0 _).mpr hfront⟩

end Userscript.ScriptTag
