import Userscript.Proofs.ParsedScript
import Userscript.Script.Applicability

/-!
# Scripts selected for a page

A script that has been read from its source runs on just the pages that its metadata block, as it is written,
asks for. Nothing is lost on the way from the block to the decision: the patterns in it may be repeated, the
broken ones say nothing, and it makes no difference that the address of a page is parsed only once.
-/

namespace Userscript

namespace Metadata

def MatchesPattern (m : Metadata) (tag address : Text) : Prop :=
  ∃ t, (tag, Value.text t) ∈ m ∧ ∃ p, AddressPattern.compile t = .ok p ∧ p.isMatch address = true

def MatchesUrl (m : Metadata) (address : Text) : Prop :=
  ∃ t, (Directive.matchPattern, Value.text t) ∈ m ∧
    ∃ p, MatchPattern.parse? t = some p ∧ p.isMatch address = true

/-- Metadata asks for a page: nothing excludes its address, and something includes or matches it. -/
def AsksFor (m : Metadata) (address : Text) : Prop :=
  ¬m.MatchesPattern Directive.excludePattern address ∧
    (m.MatchesPattern Directive.includePattern address ∨ m.MatchesUrl address)

lemma mem_texts_iff {m : Metadata} {tag t : Text} : t ∈ m.texts tag ↔ (tag, Value.text t) ∈ m := by
  simp only [texts, all, List.mem_filterMap, List.mem_map, List.mem_filter, beq_iff_eq]
  constructor
  · rintro ⟨-, ⟨⟨name, value⟩, ⟨hmem, rfl⟩, rfl⟩, htext⟩
    cases value with
    | text t' =>
      cases htext
      exact hmem
    | flag b => cases htext
  · intro hmem
    exact ⟨.text t, ⟨(tag, .text t), ⟨hmem, rfl⟩, rfl⟩, rfl⟩

lemma matchesPattern_iff (m : Metadata) (tag address : Text) :
    m.MatchesPattern tag address ↔ ((m.texts tag).any fun t =>
      (AddressPattern.compile t).toOption.any (·.isMatch address)) = true := by
  simp only [MatchesPattern, List.any_eq_true, mem_texts_iff]
  refine exists_congr fun t => and_congr_right fun _ => ?_
  cases AddressPattern.compile t <;> simp [Except.toOption]

lemma matchesUrl_iff (m : Metadata) (address : Text) :
    m.MatchesUrl address ↔ ((m.texts Directive.matchPattern).any fun t =>
      (MatchPattern.parse? t).any (·.isMatch address)) = true := by
  simp only [MatchesUrl, List.any_eq_true, mem_texts_iff, Option.any_eq_true]

instance (m : Metadata) (tag address : Text) : Decidable (m.MatchesPattern tag address) :=
  decidable_of_iff _ (matchesPattern_iff m tag address).symm

instance (m : Metadata) (address : Text) : Decidable (m.MatchesUrl address) :=
  decidable_of_iff _ (matchesUrl_iff m address).symm

instance (m : Metadata) (address : Text) : Decidable (m.AsksFor address) :=
  inferInstanceAs (Decidable (_ ∧ _))

end Metadata

namespace Script

theorem compilePatterns_value (script : Text) (ts : List Text) :
    (compilePatterns script ts).value = ts.filterMap fun t => (AddressPattern.compile t).toOption := by
  induction ts with
  | nil => rfl
  | cons t ts ih =>
    cases h : AddressPattern.compile t with
    | ok p =>
      have hrun : (compilePatterns script (t :: ts)).value = p :: (compilePatterns script ts).value := by
        rw [compilePatterns, h]
        rfl
      rw [hrun, ih, List.filterMap_cons_some (by rw [h]; rfl)]
    | error e =>
      have hrun : (compilePatterns script (t :: ts)).value = (compilePatterns script ts).value := by
        rw [compilePatterns, h]
        rfl
      rw [hrun, ih, List.filterMap_cons_none (by rw [h]; rfl)]

lemma any_compilePatterns (script : Text) (m : Metadata) (tag address : Text) :
    (compilePatterns script (m.texts tag)).value.any (·.isMatch address) = true ↔
      m.MatchesPattern tag address := by
  rw [compilePatterns_value, Metadata.matchesPattern_iff, List.any_filterMap]
  rfl

variable {source : Text} {m raw : Metadata} {s : Script}

lemma texts_of_validate (h : Directive.schema.validate raw = .ok m) {tag : Text}
    (htag : tag ∈ [Directive.matchPattern, Directive.includePattern, Directive.excludePattern]) :
    m.texts tag = raw.texts tag := by
  simp only [List.mem_cons, List.not_mem_nil, or_false] at htag
  unfold Metadata.texts
  rcases htag with rfl | rfl | rfl
  · rw [Metadata.Schema.all_of_validate h rfl rfl rfl (by decide)]
  · rw [Metadata.Schema.all_of_validate h rfl rfl rfl (by decide)]
  · rw [Metadata.Schema.all_of_validate h rfl rfl rfl (by decide)]

lemma any_matchPatterns (m : Metadata) (address : Text) :
    ((Url.parse? address).any fun url =>
      ((m.texts Directive.matchPattern).filterMap MatchPattern.parse?).any (·.isMatchUrl url)) = true ↔
        m.MatchesUrl address := by
  rw [Metadata.matchesUrl_iff]
  unfold MatchPattern.isMatch
  cases Url.parse? address with
  | none => simp
  | some url =>
    rw [Option.any_some, List.any_filterMap]
    rfl

theorem isApplicable_ofMetadata (source address : Text) (m : Metadata) :
    (ofMetadata source m).value.isApplicable address = true ↔ m.AsksFor address := by
  have hexclude := any_compilePatterns ((m.firstText? Directive.name).getD []) m
    Directive.excludePattern address
  have hinclude := any_compilePatterns ((m.firstText? Directive.name).getD []) m
    Directive.includePattern address
  have hmatch := any_matchPatterns m address
  have hrun : (ofMetadata source m).value.isApplicable address =
      (!(compilePatterns ((m.firstText? Directive.name).getD [])
          (m.texts Directive.excludePattern)).value.any (·.isMatch address) &&
        ((compilePatterns ((m.firstText? Directive.name).getD [])
            (m.texts Directive.includePattern)).value.any (·.isMatch address) ||
          (Url.parse? address).any fun url =>
            ((m.texts Directive.matchPattern).filterMap MatchPattern.parse?).any
              (·.isMatchUrl url))) := rfl
  rw [hrun, Bool.and_eq_true, Bool.or_eq_true, Bool.not_eq_true', ← Bool.not_eq_true, hexclude,
    hinclude, hmatch]
  rfl

lemma asksFor_of_validate (h : Directive.schema.validate raw = .ok m) (address : Text) :
    m.AsksFor address ↔ raw.AsksFor address := by
  unfold Metadata.AsksFor
  simp only [Metadata.matchesPattern_iff, Metadata.matchesUrl_iff]
  rw [texts_of_validate h (by simp), texts_of_validate h (by simp), texts_of_validate h (by simp)]

/-- A script runs on just the pages that the items in its source ask for. -/
theorem exists_written_of_parse (h : (parse source).value = .ok s) :
    ∃ raw, Metadata.written source = .ok raw ∧
      ∀ address, s.isApplicable address = true ↔ raw.AsksFor address := by
  obtain ⟨m, hread, rfl⟩ := parse_value_eq_ok_iff.mp h
  obtain ⟨raw, hwritten, hvalidate⟩ := Metadata.Schema.read_eq_ok_iff.mp hread
  refine ⟨raw, hwritten, fun address => ?_⟩
  rw [isApplicable_ofMetadata, asksFor_of_validate hvalidate]

end Script

namespace Page

lemma applicable_eq_of_forall₂ {scripts : List Script} {raws : List Metadata} {address : Text}
    (h : List.Forall₂ (fun s raw => s.isApplicable address = true ↔ raw.AsksFor address)
      scripts raws) :
    (ofAddress address).applicable scripts =
      ((scripts.zip raws).filter fun e => e.2.AsksFor address).map Prod.fst := by
  induction h with
  | nil => rfl
  | @cons s raw scripts raws hs _ ih =>
    have hcons : (ofAddress address).applicable (s :: scripts) =
        if s.isApplicable address then s :: (ofAddress address).applicable scripts
        else (ofAddress address).applicable scripts := List.filter_cons
    rw [hcons, ih, List.zip_cons_cons, List.filter_cons]
    by_cases hruns : s.isApplicable address = true
    · simp [hruns, hs.mp hruns]
    · simp [hruns, mt hs.mpr hruns]

/-- Each script that has been read from a source text runs on just the pages that the items written in the
text ask for; and of a list of such scripts, just these are selected for a page, in order. -/
theorem applicable_eq_asked {sources : List Text} {scripts : List Script}
    (h : List.Forall₂ (fun source s => (Script.parse source).value = .ok s) sources scripts) :
    ∃ raws, List.Forall₂ (fun source raw => Metadata.written source = .ok raw) sources raws ∧
      ∀ address,
        List.Forall₂ (fun s raw => s.isApplicable address = true ↔ raw.AsksFor address)
          scripts raws ∧
        (ofAddress address).applicable scripts =
          ((scripts.zip raws).filter fun e => e.2.AsksFor address).map Prod.fst := by
  have hraws : ∃ raws, List.Forall₂ (fun source raw => Metadata.written source = .ok raw) sources raws ∧
      ∀ address, List.Forall₂ (fun s raw => s.isApplicable address = true ↔ raw.AsksFor address)
        scripts raws := by
    induction h with
    | nil => exact ⟨[], .nil, fun _ => .nil⟩
    | cons hs _ ih =>
      obtain ⟨raws, hwritten, hasks⟩ := ih
      obtain ⟨raw, hraw, hruns⟩ := Script.exists_written_of_parse hs
      exact ⟨raw :: raws, .cons hraw hwritten, fun address => .cons (hruns address) (hasks address)⟩
  obtain ⟨raws, hwritten, hasks⟩ := hraws
  exact ⟨raws, hwritten, fun address => ⟨hasks address, applicable_eq_of_forall₂ (hasks address)⟩⟩

lemma asksFor_of_written {source address : Text} {raw : Metadata}
    (h : Metadata.written source = .ok raw) :
    raw.AsksFor address ↔
      (Metadata.written source).toOption.any (fun raw => raw.AsksFor address) = true := by
  simp [h, Except.toOption]

/-- A broken pattern excludes nothing, and one that compiles keeps its script away. -/
theorem applicable_eq_asked_of_broken_exclude :
    ∃ s t,
      (Script.parse ("// ==UserScript==\n// @name A\n// @match *://*/x\n".toList ++
        "// @exclude /(/\n// ==/UserScript==\n".toList)).value = .ok s ∧
      (Script.parse ("// ==UserScript==\n// @name B\n// @include /x/\n".toList ++
        "// @exclude *x\n// ==/UserScript==\n".toList)).value = .ok t ∧
      (ofAddress "http://[::1]/x".toList).applicable [s, t] = [s] := by
  obtain ⟨s, hs, -⟩ := Script.exists_of_downloadUrl
    ("// ==UserScript==\n// @name A\n// @match *://*/x\n".toList ++
      "// @exclude /(/\n// ==/UserScript==\n".toList) none (by decide +kernel)
  obtain ⟨t, ht, -⟩ := Script.exists_of_downloadUrl
    ("// ==UserScript==\n// @name B\n// @include /x/\n".toList ++
      "// @exclude *x\n// ==/UserScript==\n".toList) none (by decide +kernel)
  refine ⟨s, t, hs, ht, ?_⟩
  obtain ⟨raws, hraws, hpage⟩ := applicable_eq_asked (.cons hs (.cons ht .nil))
  obtain ⟨a, rest, ha, hrest, rfl⟩ := List.forall₂_cons_left_iff.mp hraws
  obtain ⟨b, rest, hb, -, rfl⟩ := List.forall₂_cons_left_iff.mp hrest
  have hasks : a.AsksFor "http://[::1]/x".toList := by
    rw [asksFor_of_written ha]
    decide +kernel
  have hrefuses : ¬b.AsksFor "http://[::1]/x".toList := by
    rw [asksFor_of_written hb]
    decide +kernel
  generalize "http://[::1]/x".toList = address at hasks hrefuses ⊢
  rw [(hpage address).2]
  simp [hasks, hrefuses]

end Page

end Userscript
