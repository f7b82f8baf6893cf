import Userscript.Loader
import Mathlib.Data.List.Zip

/-!
# Loaded sources

Loading goes through the sources and adds each to the report: the script and its label at the ends of two lists, or
the failure at the end of a third. One source after another the report says what reading each source on its own
gives, so labels and scripts stay side by side, and the report of more sources goes on where the first ends.
-/

namespace Userscript.Loader

variable {r : Report} {label source : Text} {s : Script} {e : Metadata.Error}

/-- The scripts of the sources that can be read, each with the label of its own source. -/
def accepted (sources : List (Text × Text)) : List (Text × Script) :=
  sources.filterMap fun p => (Script.parse p.2).value.toOption.map fun s => (p.1, s)

/-- The failures of the other sources, each with the label of its own source. -/
def refused (sources : List (Text × Text)) : List Failure :=
  sources.filterMap fun p =>
    match (Script.parse p.2).value with
    | .ok _ => none
    | .error e => some ⟨p.1, e⟩

/-- The report that sources should have. -/
def reportOf (sources : List (Text × Text)) : Report where
  labels := (accepted sources).map Prod.fst
  loaded := (accepted sources).map Prod.snd
  failures := refused sources

lemma accepted_append (sources more : List (Text × Text)) :
    accepted (sources ++ more) = accepted sources ++ accepted more :=
  List.filterMap_append

lemma refused_append (sources more : List (Text × Text)) :
    refused (sources ++ more) = refused sources ++ refused more :=
  List.filterMap_append

lemma accepted_of_ok (h : (Script.parse source).value = .ok s) (label : Text) :
    accepted [(label, source)] = [(label, s)] ∧ refused [(label, source)] = [] := by
  simp [accepted, refused, h, Except.toOption]

lemma accepted_of_error (h : (Script.parse source).value = .error e) (label : Text) :
    accepted [(label, source)] = [] ∧ refused [(label, source)] = [⟨label, e⟩] := by
  simp [accepted, refused, h, Except.toOption]

lemma map_snd_accepted (sources : List (Text × Text)) :
    (accepted sources).map Prod.snd = sources.filterMap fun p => (Script.parse p.2).value.toOption := by
  unfold accepted
  rw [List.map_filterMap]
  simp only [Option.map_map, Function.comp_def, Option.map_id_fun', id_eq]

lemma length_accepted_add_length_refused (sources : List (Text × Text)) :
    (accepted sources).length + (refused sources).length = sources.length := by
  induction sources with
  | nil => rfl
  | cons p rest ih =>
    have haccepted : accepted (p :: rest) = accepted [p] ++ accepted rest := accepted_append [p] rest
    have hrefused : refused (p :: rest) = refused [p] ++ refused rest := refused_append [p] rest
    have hone : (accepted [p]).length + (refused [p]).length = 1 := by
      cases h : (Script.parse p.2).value with
      | ok s =>
        obtain ⟨ha, hr⟩ := accepted_of_ok h p.1
        rw [ha, hr]
        rfl
      | error e =>
        obtain ⟨ha, hr⟩ := accepted_of_error h p.1
        rw [ha, hr]
        rfl
    rw [haccepted, hrefused, List.length_append, List.length_append, List.length_cons]
    omega

def recordsOf (p : Text × Text) : List Log.Record :=
  ⟨.info, "Loading ".toList ++ p.1 ++ " ...".toList⟩ :: (Script.parse p.2).records ++
    match (Script.parse p.2).value with
    | .ok s => (warnIfUseless s).records
    | .error e => [⟨.error, "Metadata error in ".toList ++ p.1 ++ ": ".toList ++ e.message⟩]

lemma value_add_of_ok (h : (Script.parse source).value = .ok s) (r : Report) (label : Text) :
    (r.add label source).value = { r with labels := r.labels ++ [label], loaded := r.loaded ++ [s] } := by
  simp [Report.add, h]

lemma value_add_of_error (h : (Script.parse source).value = .error e) (r : Report) (label : Text) :
    (r.add label source).value = { r with failures := r.failures ++ [⟨label, e⟩] } := by
  simp [Report.add, h]

lemma value_add_reportOf (sources : List (Text × Text)) (label source : Text) :
    ((reportOf sources).add label source).value = reportOf (sources ++ [(label, source)]) := by
  cases h : (Script.parse source).value with
  | ok s =>
    obtain ⟨haccepted, hrefused⟩ := accepted_of_ok h label
    rw [value_add_of_ok h]
    simp [reportOf, accepted_append, refused_append, haccepted, hrefused]
  | error e =>
    obtain ⟨haccepted, hrefused⟩ := accepted_of_error h label
    rw [value_add_of_error h]
    simp [reportOf, accepted_append, refused_append, haccepted, hrefused]

lemma records_add (r : Report) (label source : Text) : (r.add label source).records = recordsOf (label, source) := by
  cases h : (Script.parse source).value <;> simp [Report.add, recordsOf, h]

/-- A run goes on from what reading the sources before gives to what reading all of them gives. -/
theorem value_loadEach (before sources : List (Text × Text)) :
    (loadEach (reportOf before) sources).value = reportOf (before ++ sources) := by
  induction sources generalizing before with
  | nil => rw [List.append_nil, loadEach, Logged.value_pure]
  | cons p rest ih =>
    rw [loadEach, Logged.value_bind, value_add_reportOf, ih, List.append_assoc, List.singleton_append]

theorem records_loadEach (r : Report) (sources : List (Text × Text)) :
    (loadEach r sources).records = sources.flatMap recordsOf := by
  induction sources generalizing r with
  | nil => rfl
  | cons p rest ih => rw [loadEach, Logged.records_bind, records_add, ih, List.flatMap_cons]

def listed (p : Text × Script) : Log.Record :=
  ⟨.info, "    • ".toList ++ p.2.displayName ++ " (".toList ++ p.1 ++ [')']⟩

def counted (n : Nat) : Log.Record := ⟨.info, Text.ofNat n ++ " userscript(s) loaded".toList⟩

lemma records_listScripts (scripts : List (Text × Script)) :
    (listScripts scripts).records = scripts.map listed := by
  induction scripts with
  | nil => rfl
  | cons p rest ih =>
    rw [listScripts, Logged.records_bind, Logged.records_record, ih, List.map_cons, List.singleton_append, listed]

lemma scripts_reportOf (sources : List (Text × Text)) : (reportOf sources).scripts = accepted sources :=
  (List.zip_of_prod rfl rfl).symm

lemma value_load (sources : List (Text × Text)) : (load sources).value = reportOf sources :=
  value_loadEach [] sources

lemma records_load (sources : List (Text × Text)) : (load sources).records =
    sources.flatMap recordsOf ++ counted (accepted sources).length :: (accepted sources).map listed := by
  have hreport : (loadEach .empty sources).value = reportOf sources := value_loadEach [] sources
  have hlength : (reportOf sources).loaded.length = (accepted sources).length := List.length_map _
  simp only [load, Logged.records_bind, Logged.records_record, Logged.records_pure, records_loadEach, hreport,
    hlength, scripts_reportOf, records_listScripts, counted, List.append_nil, List.singleton_append]

lemma reportOf_append (sources more : List (Text × Text)) : reportOf (sources ++ more) =
    ⟨(reportOf sources).labels ++ (reportOf more).labels, (reportOf sources).loaded ++ (reportOf more).loaded,
      (reportOf sources).failures ++ (reportOf more).failures⟩ := by
  simp [reportOf, accepted_append, refused_append]

/-- The report holds what reading each source on its own gives, in the order of the sources, and no source is lost.
The report of more sources goes on where the first ends. At the end each script is listed in its place with the
label of its own source. -/
theorem load_pointwise (sources more : List (Text × Text)) :
    let report := (load sources).value
    let report' := (load more).value
    (report.loaded = sources.filterMap fun p => (Script.parse p.2).value.toOption) ∧
      report.failures = refused sources ∧
      report.loaded.length + report.failures.length = sources.length ∧
      (load (sources ++ more)).value = ⟨report.labels ++ report'.labels, report.loaded ++ report'.loaded,
        report.failures ++ report'.failures⟩ ∧
      ∃ front listing, (load sources).records = front ++ listing ∧
        listing.length = report.loaded.length ∧
        ∀ (k : Nat) (s : Script), report.loaded[k]? = some s →
          ∃ label, (accepted sources)[k]? = some (label, s) ∧ listing[k]? = some (listed (label, s)) := by
  intro report report'
  have hreport : report = reportOf sources := value_load sources
  have hreport' : report' = reportOf more := value_load more
  rw [hreport, hreport', value_load, reportOf_append]
  refine ⟨map_snd_accepted sources, rfl, ?_, rfl,
    sources.flatMap recordsOf ++ [counted (accepted sources).length], (accepted sources).map listed, ?_, ?_, ?_⟩
  · rw [reportOf, List.length_map]
    exact length_accepted_add_length_refused sources
  · rw [records_load, List.append_assoc, List.singleton_append]
  · rw [reportOf, List.length_map, List.length_map]
  · intro k s hk
    rw [reportOf, List.getElem?_map] at hk
    obtain ⟨⟨label, s'⟩, haccepted, rfl⟩ := Option.map_eq_some_iff.mp hk
    refine ⟨label, haccepted, ?_⟩
    rw [List.getElem?_map, haccepted, Option.map_some]

/-- A source without a block between two others. -/
example :
    let report := (load [("a.js".toList, "// ==UserScript==\n// @name A\n// ==/UserScript==\n".toList),
      ("b.js".toList, "alert(1);".toList),
      ("c.js".toList, "// ==UserScript==\n// @name C\n// ==/UserScript==\n".toList)]).value
    (report.labels, report.loaded.map Script.name, report.failures) =
      (["a.js".toList, "c.js".toList], ["A".toList, "C".toList], [⟨"b.js".toList, .noBlock⟩]) := by
  decide +kernel

end Userscript.Loader
