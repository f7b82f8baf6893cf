import Userscript.Proofs.KeptItems
import Userscript.Proofs.PageSelection

/-!
# What a script takes from its metadata

A script that has been read from its source says what its metadata block says. Each field comes from the first
value of its tag, or from all values in their order, as they are written. The checks have refused everything that
could not be taken over, so nothing is lost when the script is built, and where a script could fall back on
something there is a value already.
-/

namespace Userscript

namespace Metadata

lemma mem_of_first? {m : Metadata} {name : Text} {value : Value} (h : m.first? name = some value) :
    (name, value) ∈ m := by
  obtain ⟨item, hitem, rfl⟩ := Option.map_eq_some_iff.mp h
  have hname : item.1 = name := by simpa using List.find?_some hitem
  exact hname ▸ List.mem_of_find?_eq_some hitem

lemma mem_of_mem_all {m : Metadata} {name : Text} {value : Value} (h : value ∈ m.all name) :
    (name, value) ∈ m := by
  obtain ⟨item, hitem, rfl⟩ := List.mem_map.mp h
  obtain ⟨hmem, hname⟩ := List.mem_filter.mp hitem
  exact (beq_iff_eq.mp hname) ▸ hmem

lemma all_eq_map_texts {m : Metadata} {name : Text}
    (h : ∀ value ∈ m.all name, ∃ t, value = .text t) : m.all name = (m.texts name).map .text := by
  unfold texts
  generalize m.all name = values at h ⊢
  induction values with
  | nil => rfl
  | cons value values ih =>
    obtain ⟨⟨t, rfl⟩, hvalues⟩ := List.forall_mem_cons.mp h
    have htext : Value.text? (.text t) = some t := rfl
    rw [List.filterMap_cons_some htext, List.map_cons, ← ih hvalues]

lemma ne_false_of_mem_parse {block : Text} {item : Item} (h : item ∈ parse block) :
    item.2 ≠ .flag false := by
  obtain ⟨line, -, hitem⟩ := List.mem_filterMap.mp h
  obtain ⟨groups, -, hitem⟩ := Option.bind_eq_some_iff.mp hitem
  obtain ⟨tag, -, hitem⟩ := Option.bind_eq_some_iff.mp hitem
  cases hvalue : groups.text? "value".toList line with
  | none =>
    simp only [hvalue, Option.some.injEq] at hitem
    simp [← hitem]
  | some value =>
    simp only [hvalue, Option.some.injEq] at hitem
    simp [← hitem]

namespace Schema

variable {schema : Schema} {m out : Metadata} {tag : Tag}

/-- The first text of a tag for texts is its first value as it is written, or else the default. The tag accepts
it. -/
theorem firstText?_of_validate (hnames : (schema.map Tag.name).Nodup)
    (h : schema.validate m = .ok out) (name : Text) (hfind : schema.find? name = some tag)
    {default : Option Text} {accepts : Text → Bool} (hkind : tag.kind = .text default accepts) :
    (m.first? name).or (default.map .text) = (out.firstText? name).map .text ∧
      ∀ t, out.firstText? name = some t → accepts t = true := by
  have hfirst := first?_of_validate hnames h hfind
  have hdefault : tag.default? = default.map .text := by simp only [Tag.default?, hkind]
  rw [hdefault] at hfirst
  rw [firstText?]
  generalize (m.first? name).or (default.map .text) = written at hfirst ⊢
  generalize out.first? name = taken at hfirst ⊢
  cases hfirst with
  | none => exact ⟨rfl, fun t ht => by cases ht⟩
  | some htakes =>
    rw [Tag.Takes, hkind] at htakes
    obtain ⟨t, rfl, rfl, haccepts⟩ := htakes
    refine ⟨rfl, fun t' ht => ?_⟩
    rwa [← Option.some.inj ht]

end Schema

/-- A script that is built from the metadata falls back on nothing: a name and a time are found, and all match
patterns can be read. -/
structure NeedsNoFallback (m : Metadata) : Prop where
  name : ∃ t, m.firstText? Directive.name = some t ∧ t ≠ []
  runAt : ∃ t, m.firstText? Directive.runAt = some t ∧ (RunAt.ofName? t).isSome = true
  matchPatterns : ∀ value ∈ m.all Directive.matchPattern,
    ∃ t, value = .text t ∧ (MatchPattern.parse? t).isSome = true

end Metadata

lemma RunAt.name_of_ofName? {t : Text} {r : RunAt} (h : ofName? t = some r) : r.name = t := by
  simpa using List.find?_some h

namespace Script

open Metadata (Value)

def CompiledFrom (values : List Value) (patterns : List AddressPattern) : Prop :=
  ∃ ts : List Text, values = ts.map .text ∧ patterns = ts.filterMap fun t => (AddressPattern.compile t).toOption

/-- A script says what is written in metadata. -/
structure Resolves (s : Script) (raw : Metadata) : Prop where
  name : raw.first? Directive.name = some (.text s.name)
  name_ne_nil : s.name ≠ []
  version : raw.first? Directive.version = s.version.map .text
  downloadUrl : raw.first? Directive.downloadUrl = s.downloadUrl.map .text
  runAt : ∀ value, raw.first? Directive.runAt = some value → value = .text s.runAt.name
  runAt_default : raw.first? Directive.runAt = none → s.runAt = .documentEnd
  noFrames : s.noFrames = raw.has Directive.noFrames
  matchPatterns : List.Forall₂ (fun value p => ∃ t, value = .text t ∧ MatchPattern.parse? t = some p)
    (raw.all Directive.matchPattern) s.matchPatterns
  includePatterns : CompiledFrom (raw.all Directive.includePattern) s.includePatterns
  excludePatterns : CompiledFrom (raw.all Directive.excludePattern) s.excludePatterns

lemma name_ofMetadata (source : Text) (m : Metadata) :
    (ofMetadata source m).value.name = (m.firstText? Directive.name).getD [] := rfl

lemma version_ofMetadata (source : Text) (m : Metadata) :
    (ofMetadata source m).value.version = m.firstText? Directive.version := rfl

lemma runAt_ofMetadata (source : Text) (m : Metadata) :
    (ofMetadata source m).value.runAt =
      ((m.firstText? Directive.runAt).bind RunAt.ofName?).getD default := rfl

lemma noFrames_ofMetadata (source : Text) (m : Metadata) :
    (ofMetadata source m).value.noFrames = (m.first? Directive.noFrames).any Value.isSet := rfl

lemma matchPatterns_ofMetadata (source : Text) (m : Metadata) :
    (ofMetadata source m).value.matchPatterns =
      (m.texts Directive.matchPattern).filterMap MatchPattern.parse? := rfl

lemma includePatterns_ofMetadata (source : Text) (m : Metadata) :
    (ofMetadata source m).value.includePatterns =
      (m.texts Directive.includePattern).filterMap fun t => (AddressPattern.compile t).toOption :=
  compilePatterns_value _ _

lemma excludePatterns_ofMetadata (source : Text) (m : Metadata) :
    (ofMetadata source m).value.excludePatterns =
      (m.texts Directive.excludePattern).filterMap fun t => (AddressPattern.compile t).toOption :=
  compilePatterns_value _ _

section Checked

variable {raw m : Metadata} (h : Directive.schema.validate raw = .ok m)

include h

lemma exists_name_of_validate :
    ∃ t, raw.first? Directive.name = some (.text t) ∧ m.firstText? Directive.name = some t ∧
      t ≠ [] := by
  obtain ⟨hrequired, -⟩ := (Metadata.Schema.validate_eq_ok_iff (by decide)).mp h
  obtain ⟨hfirst, haccepts⟩ :=
    Metadata.Schema.firstText?_of_validate (by decide) h Directive.name rfl rfl
  have hhas : raw.has Directive.name = true := hrequired _ List.mem_cons_self rfl
  rw [← Metadata.isSome_first?] at hhas
  obtain ⟨value, hvalue⟩ := Option.isSome_iff_exists.mp hhas
  rw [hvalue] at hfirst ⊢
  obtain ⟨t, ht, rfl⟩ := Option.map_eq_some_iff.mp hfirst.symm
  exact ⟨t, rfl, ht, by simpa using haccepts t ht⟩

lemma first?_eq_map_firstText? {tag : Metadata.Tag} {accepts : Text → Bool} (name : Text)
    (hfind : Directive.schema.find? name = some tag) (hkind : tag.kind = .text none accepts) :
    raw.first? name = (m.firstText? name).map .text := by
  obtain ⟨hfirst, -⟩ := Metadata.Schema.firstText?_of_validate (by decide) h name hfind hkind
  rwa [Option.map_none, Option.or_none] at hfirst

lemma exists_runAt_of_validate :
    ∃ t r, m.firstText? Directive.runAt = some t ∧ RunAt.ofName? t = some r ∧
      (∀ value, raw.first? Directive.runAt = some value → value = .text r.name) ∧
      (raw.first? Directive.runAt = none → r = .documentEnd) := by
  obtain ⟨hfirst, haccepts⟩ :=
    Metadata.Schema.firstText?_of_validate (by decide) h Directive.runAt rfl rfl
  cases hwritten : raw.first? Directive.runAt with
  | none =>
    rw [hwritten] at hfirst
    obtain ⟨t, ht, hdefault⟩ := Option.map_eq_some_iff.mp hfirst.symm
    cases hdefault
    exact ⟨_, .documentEnd, ht, by decide, by simp, by simp⟩
  | some value =>
    rw [hwritten] at hfirst
    obtain ⟨t, ht, rfl⟩ := Option.map_eq_some_iff.mp hfirst.symm
    obtain ⟨r, hr⟩ := Option.isSome_iff_exists.mp (haccepts t ht)
    exact ⟨t, r, ht, hr, by simp [RunAt.name_of_ofName? hr], by simp⟩

lemma any_isSet_of_validate (hraw : ∀ item ∈ raw, item.2 ≠ .flag false) :
    (m.first? Directive.noFrames).any Value.isSet = raw.has Directive.noFrames := by
  have hfind : Metadata.Schema.find? Directive.schema Directive.noFrames = some _ := rfl
  have hfirst := Metadata.Schema.first?_of_validate (by decide) h hfind
  rw [← Metadata.isSome_first?]
  generalize m.first? Directive.noFrames = taken at hfirst ⊢
  cases hwritten : raw.first? Directive.noFrames with
  | none =>
    rw [hwritten] at hfirst
    cases hfirst with
    | some htakes =>
      -- What has been checked is the default, which is false.
      obtain ⟨b, hb, rfl, -⟩ := htakes
      rw [hb.mpr rfl]
      rfl
  | some value =>
    have hvalue : value ≠ .flag false := hraw _ (Metadata.mem_of_first? hwritten)
    rw [hwritten] at hfirst
    cases hfirst with
    | some htakes =>
      obtain ⟨b, hb, rfl, -⟩ := htakes
      have htrue : b = true := Bool.not_eq_false b ▸ hb.not.mpr hvalue
      rw [htrue]
      rfl

lemma all_eq_of_validate {tag : Metadata.Tag} {default : Option Text} {accepts : Text → Bool}
    (name : Text) (hfind : Directive.schema.find? name = some tag)
    (hkind : tag.kind = .text default accepts) (hunique : Directive.schema.isUnique name = false)
    (hdefault : ∀ tag ∈ Directive.schema, tag.name = name → tag.default? = none) :
    raw.all name = (m.texts name).map .text ∧ ∀ t ∈ m.texts name, accepts t = true := by
  have haccepted : ∀ value ∈ m.all name, ∃ t, value = .text t ∧ accepts t = true :=
    fun _ hvalue => Metadata.Schema.text_of_validate h (Metadata.mem_of_mem_all hvalue) hfind hkind
  rw [← Metadata.Schema.all_of_validate h hfind hkind hunique hdefault]
  refine ⟨Metadata.all_eq_map_texts fun value hvalue => ?_, fun t ht => ?_⟩
  · obtain ⟨t, ht, -⟩ := haccepted value hvalue
    exact ⟨t, ht⟩
  · obtain ⟨value, hvalue, htext⟩ := List.mem_filterMap.mp ht
    obtain ⟨t', rfl, hacc⟩ := haccepted value hvalue
    rwa [← Option.some.inj htext]

end Checked

lemma forall₂_filterMap {α β : Type} {f : α → Option β} {xs : List α}
    (h : ∀ x ∈ xs, (f x).isSome = true) :
    List.Forall₂ (fun x y => f x = some y) xs (xs.filterMap f) := by
  induction xs with
  | nil => exact .nil
  | cons x xs ih =>
    obtain ⟨hx, hxs⟩ := List.forall_mem_cons.mp h
    obtain ⟨y, hy⟩ := Option.isSome_iff_exists.mp hx
    rw [List.filterMap_cons_some hy]
    exact .cons hy (ih hxs)

/-- A script that has been read says what is written in the metadata block of its source, and there was nothing
for which it had to fall back on anything. -/
theorem resolves_of_parse {source : Text} {s : Script} (h : (parse source).value = .ok s) :
    ∃ block, Metadata.extract source = .ok block ∧ s.Resolves (Metadata.parse block) ∧
      ∃ m, Directive.schema.read source = .ok m ∧ (ofMetadata source m).value = s ∧
        m.NeedsNoFallback := by
  obtain ⟨m, hread, rfl⟩ := parse_value_eq_ok_iff.mp h
  obtain ⟨raw, hwritten, hm⟩ := Metadata.Schema.read_eq_ok_iff.mp hread
  obtain ⟨block, hblock, rfl⟩ : ∃ block, Metadata.extract source = .ok block ∧
      Metadata.parse block = raw := by
    unfold Metadata.written at hwritten
    cases hextract : Metadata.extract source with
    | error e =>
      rw [hextract] at hwritten
      cases hwritten
    | ok block =>
      rw [hextract] at hwritten
      exact ⟨block, rfl, Except.ok.inj hwritten⟩
  obtain ⟨name, hname, hnameText, hne⟩ := exists_name_of_validate hm
  obtain ⟨time, r, htime, hr, hrunAt, hrunAtDefault⟩ := exists_runAt_of_validate hm
  obtain ⟨hmatch, hvalid⟩ := all_eq_of_validate hm Directive.matchPattern rfl rfl rfl (by decide)
  obtain ⟨hinclude, -⟩ := all_eq_of_validate hm Directive.includePattern rfl rfl rfl (by decide)
  obtain ⟨hexclude, -⟩ := all_eq_of_validate hm Directive.excludePattern rfl rfl rfl (by decide)
  have hrunAtValue : (ofMetadata source m).value.runAt = r := by
    rw [runAt_ofMetadata, htime, Option.bind_some, hr, Option.getD_some]
  have hnameValue : (ofMetadata source m).value.name = name := by
    rw [name_ofMetadata, hnameText, Option.getD_some]
  refine ⟨block, hblock, ?_, m, hread, rfl, ⟨name, hnameText, hne⟩,
    ⟨time, htime, by rw [hr, Option.isSome_some]⟩, ?_⟩
  · constructor
    case name => rw [hname, hnameValue]
    case name_ne_nil => rwa [hnameValue]
    case version =>
      rw [version_ofMetadata]
      exact first?_eq_map_firstText? hm Directive.version rfl rfl
    case downloadUrl =>
      rw [downloadUrl_ofMetadata]
      exact first?_eq_map_firstText? hm Directive.downloadUrl rfl rfl
    case runAt => rwa [hrunAtValue]
    case runAt_default => rwa [hrunAtValue]
    case noFrames =>
      rw [noFrames_ofMetadata]
      exact any_isSet_of_validate hm fun item hitem => Metadata.ne_false_of_mem_parse hitem
    case matchPatterns =>
      rw [matchPatterns_ofMetadata, hmatch, List.forall₂_map_left_iff]
      exact (forall₂_filterMap hvalid).imp fun t p hp => ⟨t, rfl, hp⟩
    case includePatterns => exact ⟨_, hinclude, includePatterns_ofMetadata source m⟩
    case excludePatterns => exact ⟨_, hexclude, excludePatterns_ofMetadata source m⟩
  · exact fun value hvalue =>
      Metadata.Schema.text_of_validate hm (Metadata.mem_of_mem_all hvalue) rfl rfl

/-- A second name that is only a flag is of no account, a flag with a value behind it counts, and of two exclude
patterns the broken one goes. -/
theorem resolves_of_parse_of_repeats :
    let source := "// ==UserScript==\n// @name A\n// @name\n// @noframes false\n".toList ++
      "// @match <all_urls>\n// @match *://a.test/*\n// @exclude /(/\n// @exclude *b*\n".toList ++
      "// @run-at document-idle\n// ==/UserScript==\n".toList
    ∃ s, (parse source).value = .ok s ∧
      (s.name, s.version, s.runAt, s.noFrames) = ("A".toList, none, .documentIdle, true) ∧
      s.matchPatterns.map MatchPattern.source = ["<all_urls>".toList, "*://a.test/*".toList] ∧
      s.excludePatterns.map AddressPattern.source = ["*b*".toList] ∧
      ∃ block, Metadata.extract source = .ok block ∧ s.Resolves (Metadata.parse block) := by
  intro source
  have hfields : (parse source).value.toOption.map (fun s => ((s.name, s.version, s.runAt, s.noFrames),
      s.matchPatterns.map MatchPattern.source, s.excludePatterns.map AddressPattern.source)) =
      some (("A".toList, none, .documentIdle, true), ["<all_urls>".toList, "*://a.test/*".toList],
        ["*b*".toList]) := by
    decide +kernel
  obtain ⟨s, hs, heq⟩ := Option.map_eq_some_iff.mp hfields
  obtain ⟨hfirst, hlists⟩ := Prod.ext_iff.mp heq
  obtain ⟨hmatch, hexclude⟩ := Prod.ext_iff.mp hlists
  have hparse : (parse source).value = .ok s := eq_ok_of_toOption hs
  obtain ⟨block, hblock, hresolves, -⟩ := resolves_of_parse hparse
  exact ⟨s, hparse, hfirst, hmatch, hexclude, block, hblock, hresolves⟩

end Script

end Userscript
