import Userscript.Proofs.LoadedScripts
import Userscript.Proofs.PlannedElement

/-!
# Scripts that can never be injected

A script without an address can only be copied, and a script with unsafe sequences must not be copied. A script with
both faults is refused whatever is asked for, and any other one can be planned with suitable options. Loading a
source gives a warning in the first case and in no other, with the refusal that every plan gives later.
-/

namespace Userscript

namespace Injection

variable {s : Script} {o : Options}

/-- A script is refused whatever is asked for. -/
def NeverPlanned (s : Script) : Prop := ∀ o : Options, ∃ r, plan s o = .error r

def refusalOf (s : Script) : Refusal := ⟨s.name, s.unsafeSequences⟩

lemma Mode.ofScript_eq_inline_iff {alwaysInline : Bool} :
    Mode.ofScript alwaysInline s = .inline ↔ alwaysInline = true ∨ s.downloadUrl = none := by
  unfold ofScript
  cases alwaysInline <;> cases s.downloadUrl <;> simp
  all_goals split_ifs <;> simp

/-- Only a script with both faults is refused whatever is asked for. -/
theorem neverPlanned_iff : NeverPlanned s ↔ s.downloadUrl = none ∧ s.unsafeSequences ≠ [] := by
  simp only [NeverPlanned, exists_plan_eq_error_iff, Mode.ofScript_eq_inline_iff]
  constructor
  · intro h
    -- A script that has an address is linked unless every script is copied.
    obtain ⟨hurl, hsequences⟩ := h ⟨false, none⟩
    exact ⟨hurl.resolve_left Bool.false_ne_true, hsequences⟩
  · rintro ⟨hurl, hsequences⟩ o
    exact ⟨.inr hurl, hsequences⟩

lemma plan_of_neverPlanned (h : NeverPlanned s) (o : Options) : plan s o = .error (refusalOf s) := by
  obtain ⟨hurl, hsequences⟩ := neverPlanned_iff.mp h
  rw [plan_of_inline (Mode.ofScript_eq_inline_iff.mpr (.inr hurl)),
    if_neg (List.isEmpty_iff.not.mpr hsequences), refusalOf]

lemma exists_plan_of_not_neverPlanned (h : ¬NeverPlanned s) : ∃ o p, plan s o = .ok p := by
  obtain ⟨o, ho⟩ := not_forall.mp h
  cases hplan : plan s o with
  | ok p => exact ⟨o, p, hplan⟩
  | error r => exact absurd ⟨r, hplan⟩ ho

end Injection

namespace Script

variable {source : Text} {s : Script} {entry : Log.Record}

def IsAboutPattern (name : Text) (entry : Log.Record) : Prop :=
  ∃ reason, entry = ⟨.warn, name ++ ": dropping pattern. ".toList ++ reason⟩

lemma isAboutPattern_of_mem_compilePatterns {name : Text} {ts : List Text}
    (h : entry ∈ (compilePatterns name ts).records) : IsAboutPattern name entry := by
  induction ts with
  | nil => cases h
  | cons t ts ih =>
    rw [compilePatterns] at h
    cases hcompile : AddressPattern.compile t with
    | ok p =>
      rw [hcompile] at h
      simp only [Logged.records_bind, Logged.records_pure, List.append_nil] at h
      exact ih h
    | error e =>
      rw [hcompile] at h
      simp only [Logged.records_bind, Logged.records_record, List.singleton_append, List.mem_cons] at h
      rcases h with rfl | h
      · exact ⟨e.message, rfl⟩
      · exact ih h

lemma isAboutPattern_of_mem_parse (hs : (parse source).value = .ok s) (h : entry ∈ (parse source).records) :
    IsAboutPattern s.name entry := by
  obtain ⟨m, hread, rfl⟩ := parse_value_eq_ok_iff.mp hs
  have hrecords : (parse source).records = (ofMetadata source m).records := by
    rw [parse, hread]
    exact List.append_nil _
  rw [hrecords, ofMetadata] at h
  simp only [Logged.records_bind, Logged.records_pure, List.append_nil, List.mem_append] at h
  rcases h with h | h
  · exact isAboutPattern_of_mem_compilePatterns h
  · exact isAboutPattern_of_mem_compilePatterns h

end Script

namespace Loader

open Injection (plan refusalOf NeverPlanned)

variable {source label : Text} {s : Script}

/-- The warning about a script that is refused whatever is asked for. -/
def warning (r : Injection.Refusal) : Log.Record := ⟨.warn, (Injection.Error.unsafeContent r).advice⟩

lemma exists_message_warning (s : Script) :
    ∃ rest, (warning (refusalOf s)).message = s.name ++ ' ' :: rest := by
  have hmessage : (warning (refusalOf s)).message = s.name ++
      " cannot be injected inline because it contains unsafe sequences: ".toList ++
        Text.join ", ".toList s.unsafeSequences ++ '\n' :: Injection.Refusal.remedy := rfl
  rw [hmessage, List.append_assoc, List.append_assoc]
  exact ⟨_, rfl⟩

lemma not_isAboutPattern_warning (s : Script) : ¬Script.IsAboutPattern s.name (warning (refusalOf s)) := by
  rintro ⟨reason, heq⟩
  obtain ⟨rest, hrest⟩ := exists_message_warning s
  rw [heq, List.append_assoc] at hrest
  -- Behind the name the one goes on with a colon and the other with a blank.
  have htail := List.append_cancel_left hrest
  have hhead : some ':' = some ' ' := congrArg List.head? htail
  exact absurd hhead (by decide)

lemma mem_records_warnIfUseless_iff :
    warning (refusalOf s) ∈ (warnIfUseless s).records ↔ NeverPlanned s := by
  have hboth : (s.downloadUrl.isNone && !s.unsafeSequences.isEmpty) = true ↔
      s.downloadUrl = none ∧ s.unsafeSequences ≠ [] := by simp
  rw [Injection.neverPlanned_iff, warnIfUseless]
  by_cases h : s.downloadUrl = none ∧ s.unsafeSequences ≠ []
  · rw [if_pos (hboth.mpr h)]
    exact iff_of_true List.mem_cons_self h
  · rw [if_neg (hboth.not.mpr h)]
    exact iff_of_false List.not_mem_nil h

/-- While a source is loaded there is a warning about the script just when the script is refused whatever is asked
for. -/
lemma warning_mem_recordsOf_iff (hs : (Script.parse source).value = .ok s) (label : Text) :
    warning (refusalOf s) ∈ recordsOf (label, source) ↔ NeverPlanned s := by
  have hpatterns : warning (refusalOf s) ∉ (Script.parse source).records := fun h =>
    not_isAboutPattern_warning s (Script.isAboutPattern_of_mem_parse hs h)
  have hlevel : warning (refusalOf s) ≠ ⟨.info, "Loading ".toList ++ label ++ " ...".toList⟩ := by
    intro heq
    cases congrArg Log.Record.level heq
  rw [← mem_records_warnIfUseless_iff, recordsOf, hs, List.mem_append, List.mem_cons]
  simp only [hlevel, hpatterns, false_or]

/-- The records of a source stand among those of the other sources. There is a warning among them just when the script
is refused whatever is asked for. Then every plan gives the refusal that the warning is about, and without the
warning some plan can be made. -/
theorem warned_iff_neverPlanned (hs : (Script.parse source).value = .ok s) (label : Text)
    (before after : List (Text × Text)) :
    (∃ closing, (load (before ++ (label, source) :: after)).records =
        before.flatMap recordsOf ++ recordsOf (label, source) ++ after.flatMap recordsOf ++ closing ∧
        ∀ entry ∈ closing, entry.level = .info) ∧
      (warning (refusalOf s) ∈ recordsOf (label, source) ↔ ∀ o, ∃ r, plan s o = .error r) ∧
      (warning (refusalOf s) ∈ recordsOf (label, source) → ∀ o, plan s o = .error (refusalOf s)) ∧
      (warning (refusalOf s) ∉ recordsOf (label, source) → ∃ o p, plan s o = .ok p) := by
  have hwarned := warning_mem_recordsOf_iff hs label
  let closing := counted (accepted (before ++ (label, source) :: after)).length ::
    (accepted (before ++ (label, source) :: after)).map listed
  refine ⟨⟨closing, ?_, ?_⟩, hwarned, fun h => Injection.plan_of_neverPlanned (hwarned.mp h),
    fun h => Injection.exists_plan_of_not_neverPlanned (hwarned.not.mp h)⟩
  · rw [records_load, List.flatMap_append, List.flatMap_cons, ← List.append_assoc]
  · rintro entry hentry
    rcases List.mem_cons.mp hentry with rfl | hentry
    · rfl
    · obtain ⟨p, -, rfl⟩ := List.mem_map.mp hentry
      rfl

/-- A script with a broken pattern and both faults, and one with an address that could be linked. -/
theorem warned_iff_neverPlanned_of_broken_pattern :
    let useless := "// ==UserScript==\n// @name U\n// @exclude /(/\n// ==/UserScript==\n'</script>';\n".toList
    let linked := "// ==UserScript==\n// @name L\n// @downloadURL https://a.test/u.js\n".toList ++
      "// ==/UserScript==\n'</script>';\n".toList
    let refusal : Injection.Refusal := ⟨"U".toList, ["</script".toList]⟩
    ∃ s s', (Script.parse useless).value = .ok s ∧ (Script.parse linked).value = .ok s' ∧
      warning refusal ∈ recordsOf ("u.js".toList, useless) ∧ (∀ o, plan s o = .error refusal) ∧
      warning (refusalOf s') ∉ recordsOf ("l.js".toList, linked) ∧ ∃ o p, plan s' o = .ok p := by
  intro useless linked refusal
  have huseless : (Script.parse useless).value.toOption.map (fun s =>
      (s.downloadUrl, refusalOf s)) = some (none, refusal) := by
    decide +kernel
  have hlinked : (Script.parse linked).value.toOption.map (fun s => s.downloadUrl) =
      some (some "https://a.test/u.js".toList) := by
    decide +kernel
  obtain ⟨s, hs, heq⟩ := exists_of_toOption_map huseless
  obtain ⟨s', hs', hurl'⟩ := exists_of_toOption_map hlinked
  obtain ⟨hurl, hrefusal⟩ := Prod.mk.inj heq
  have hsequences : s.unsafeSequences = ["</script".toList] := congrArg Injection.Refusal.sequences hrefusal
  obtain ⟨-, hwarned, hplan, -⟩ := warned_iff_neverPlanned hs "u.js".toList [] [("l.js".toList, linked)]
  obtain ⟨-, hwarned', -, hplan'⟩ := warned_iff_neverPlanned hs' "l.js".toList [("u.js".toList, useless)] []
  have hmem := hwarned.mpr (Injection.neverPlanned_iff.mpr ⟨hurl, by simp [hsequences]⟩)
  have hnot : warning (refusalOf s') ∉ recordsOf ("l.js".toList, linked) := by
    intro h
    obtain ⟨hnone, -⟩ := Injection.neverPlanned_iff.mp (hwarned'.mp h)
    rw [hurl'] at hnone
    cases hnone
  rw [← hrefusal]
  exact ⟨s, s', hs, hs', hmem, hplan hmem, hnot, hplan' hnot⟩

end Loader

end Userscript
