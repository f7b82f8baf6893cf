import Userscript.Proofs.MetadataBlock
import Userscript.Proofs.Validation
import Userscript.Script.Basic

/-!
# Scripts built from their source

What is known of every script that has been read from a source text: it holds the text itself and the
unsafe sequences in it, and its download address is an address of the web.
-/

namespace Userscript

lemma eq_ok_of_toOption {ε α : Type} {x : Except ε α} {a : α} (h : x.toOption = some a) :
    x = .ok a := by
  cases x with
  | error e => cases h
  | ok b => exact congrArg Except.ok (Option.some.inj h)

lemma exists_of_toOption_map {ε α β : Type} {x : Except ε α} {f : α → β} {b : β}
    (h : x.toOption.map f = some b) : ∃ a, x = .ok a ∧ f a = b := by
  obtain ⟨a, ha, hb⟩ := Option.map_eq_some_iff.mp h
  exact ⟨a, eq_ok_of_toOption ha, hb⟩

namespace Script

theorem parse_value_eq_ok_iff {source : Text} {s : Script} :
    (parse source).value = .ok s ↔
      ∃ m, Directive.schema.read source = .ok m ∧ (ofMetadata source m).value = s := by
  unfold parse
  cases Directive.schema.read source with
  | error e => simp [pure, Logged.silent]
  | ok m =>
    change Except.ok (ofMetadata source m).value = .ok s ↔ _
    simp

/-- The source text in which these items are written before this code. -/
def sourceOf (items : Metadata) (code : Text) : Text :=
  "// ==UserScript==\n".toList ++ (Metadata.write items ++ ("// ==/UserScript==\n".toList ++ code))

/-- Valid items that are written into a source text come back with the script. -/
theorem parse_sourceOf {items m : Metadata} (hitems : ∀ item ∈ items, Metadata.IsWritable item)
    (hm : Directive.schema.validate items = .ok m) (code : Text) :
    (parse (sourceOf items code)).value = .ok (ofMetadata (sourceOf items code) m).value := by
  have hblock : Metadata.extract (sourceOf items code) = .ok (Metadata.write items) :=
    Metadata.extract_write items (.inl rfl) (by decide) (by decide) hitems
  have hwritten : Metadata.written (sourceOf items code) = .ok items := by
    rw [Metadata.written, hblock, Except.map, Metadata.parse_write hitems]
  exact parse_value_eq_ok_iff.mpr ⟨m, Metadata.Schema.read_eq_ok_iff.mpr ⟨items, hwritten, hm⟩, rfl⟩

/-- The items of a linked script for all pages with the path `/x`. -/
def sampleItems (name : Text) (runAt : RunAt) : Metadata :=
  [(Directive.name, .text name), (Directive.downloadUrl, .text ("https://a.test/".toList ++ name)),
    (Directive.matchPattern, .text "*://*/x".toList), (Directive.runAt, .text runAt.name)]

def sample (name : Text) (runAt : RunAt) : Script :=
  (ofMetadata (sourceOf (sampleItems name runAt) [])
    (sampleItems name runAt ++ [(Directive.noFrames, .flag false)])).value

lemma parse_sample {name : Text} {runAt : RunAt}
    (h : ∀ item ∈ sampleItems name runAt, Metadata.IsWritable item)
    (hvalid : (Directive.schema.validate (sampleItems name runAt)).toOption =
      some (sampleItems name runAt ++ [(Directive.noFrames, .flag false)])) :
    (parse (sample name runAt).source).value = .ok (sample name runAt) :=
  parse_sourceOf h (eq_ok_of_toOption hvalid) []

lemma source_ofMetadata (source : Text) (m : Metadata) :
    (ofMetadata source m).value.source = source := rfl

lemma unsafeSequences_ofMetadata (source : Text) (m : Metadata) :
    (ofMetadata source m).value.unsafeSequences = Markup.unsafeIn source := rfl

lemma downloadUrl_ofMetadata (source : Text) (m : Metadata) :
    (ofMetadata source m).value.downloadUrl = m.firstText? Directive.downloadUrl := rfl

theorem source_of_parse {source : Text} {s : Script} (h : (parse source).value = .ok s) :
    s.source = source := by
  obtain ⟨m, -, rfl⟩ := parse_value_eq_ok_iff.mp h
  exact source_ofMetadata source m

theorem unsafeSequences_of_parse {source : Text} {s : Script} (h : (parse source).value = .ok s) :
    s.unsafeSequences = Markup.unsafeIn source := by
  obtain ⟨m, -, rfl⟩ := parse_value_eq_ok_iff.mp h
  exact unsafeSequences_ofMetadata source m

theorem isWebAddress_of_parse {source : Text} {s : Script} (h : (parse source).value = .ok s)
    {url : Text} (hu : s.downloadUrl = some url) : Directive.isWebAddress url = true := by
  obtain ⟨m, hread, rfl⟩ := parse_value_eq_ok_iff.mp h
  obtain ⟨raw, -, hm⟩ := Metadata.Schema.read_eq_ok_iff.mp hread
  rw [downloadUrl_ofMetadata, Metadata.firstText?, Metadata.first?] at hu
  obtain ⟨value, hfirst, htext⟩ := Option.bind_eq_some_iff.mp hu
  obtain ⟨⟨name, v⟩, hfind, rfl⟩ := Option.map_eq_some_iff.mp hfirst
  have hname : name = Directive.downloadUrl := by simpa using List.find?_some hfind
  subst hname
  obtain ⟨t, ht, hacc⟩ := Metadata.Schema.text_of_validate hm (List.mem_of_find?_eq_some hfind)
    (by rfl) (by rfl)
  simp only at htext
  rw [ht] at htext
  exact Option.some.inj htext ▸ hacc

lemma exists_of_downloadUrl (text : Text) (url : Option Text)
    (h : (parse text).value.toOption.map downloadUrl = some url) :
    ∃ s, (parse text).value = .ok s ∧ s.downloadUrl = url :=
  exists_of_toOption_map h

end Script

end Userscript
