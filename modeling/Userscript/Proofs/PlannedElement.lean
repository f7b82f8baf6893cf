import Userscript.Injector
import Userscript.Proofs.PlannedText

/-!
# Planned elements

A plan is refused just when a script is to be copied that must not be. In every other case the mode, the attributes
and the text of the plan belong together: a linked element has an address and neither text nor nonce, any other
has a text and the nonce that is asked for, and a copied script has around it what its directives ask for and
nothing else. The injector asks for a nonce just where the element takes one.
-/

namespace Userscript

namespace Injection

variable {s : Script} {o : Options}

lemma Mode.ofScript_eq_linked_iff {alwaysInline : Bool} :
    Mode.ofScript alwaysInline s = .linked ↔
      (alwaysInline = false ∧ s.downloadUrl.isSome = true) ∧ s.runAt ≠ .documentIdle ∧
        s.noFrames = false := by
  unfold ofScript
  cases alwaysInline <;> cases s.downloadUrl <;> simp

lemma Mode.exists_address {alwaysInline : Bool} (h : Mode.ofScript alwaysInline s ≠ .inline) :
    ∃ address, s.versionedDownloadUrl? = some address := by
  unfold Script.versionedDownloadUrl?
  cases hurl : s.downloadUrl with
  | some url => exact ⟨_, rfl⟩
  | none => exact absurd (by simp [ofScript, hurl]) h

lemma Mode.carriesCode_eq_true_iff {m : Mode} : m.carriesCode = true ↔ m ≠ .linked := by
  cases m <;> decide

/-- Code with the load listener around it, if it waits, and the guard against frames around that, if it has one. -/
def wrapped (waits guarded : Bool) (code : Text) : Text :=
  let code := if waits then afterLoad code else code
  if guarded then outsideFrames code else code

lemma inlineCode_eq_wrapped (s : Script) :
    inlineCode s = '\n' :: wrapped (s.runAt == .documentIdle) s.noFrames s.source := by
  unfold inlineCode whenIdle guardFrames wrapped
  cases s.runAt <;> rfl

lemma length_afterLoad (code : Text) : (afterLoad code).length = code.length + 49 := by
  have hopen : "window.addEventListener(\"load\", function() \x7b".toList.length = 44 := by decide
  have hclose : "\x7d);".toList.length = 3 := by decide
  rw [afterLoad_eq]
  simp only [List.length_append, List.length_cons, hopen, hclose, Nat.add_assoc]
  exact Nat.add_left_comm ..

lemma length_outsideFrames (code : Text) : (outsideFrames code).length = code.length + 44 := by
  have hopen : ("if (window.top === window) \x7b // @".toList ++ Directive.noFrames).length = 41 := by decide
  rw [outsideFrames_eq, List.length_append, hopen]
  simp only [List.length_append, List.length_cons, List.length_nil, Nat.add_assoc]
  exact Nat.add_left_comm ..

lemma wrapped_eq_wrapped_iff {waits waits' guarded guarded' : Bool} {code : Text} :
    wrapped waits guarded code = wrapped waits' guarded' code ↔ waits = waits' ∧ guarded = guarded' := by
  have hlength (w g : Bool) : (wrapped w g code).length =
      code.length + ((if w then 49 else 0) + if g then 44 else 0) := by
    cases w <;> cases g <;> simp [wrapped, length_afterLoad, length_outsideFrames]
  constructor
  · intro h
    have heq := congrArg List.length h
    rw [hlength, hlength] at heq
    have hsum := Nat.add_left_cancel heq
    clear h heq hlength
    revert waits waits' guarded guarded'
    decide
  · rintro ⟨rfl, rfl⟩
    rfl

def srcAttribute : Text := "src".toList

def nonceAttribute : Text := "nonce".toList

lemma plan_of_linked (h : Mode.ofScript o.inline s = .linked) {address : Text}
    (haddress : s.versionedDownloadUrl? = some address) :
    plan s o = .ok ⟨.linked, .ofRunAt s.runAt, bareTag.set srcAttribute address⟩ := by
  unfold plan
  rw [h, haddress]
  rfl

lemma plan_of_bootstrap (h : Mode.ofScript o.inline s = .bootstrap) {address : Text}
    (haddress : s.versionedDownloadUrl? = some address) :
    plan s o = .ok ⟨.bootstrap, .ofRunAt s.runAt,
      withNonce { bareTag with text := some (bootstrapCode s address o.nonce) } o.nonce⟩ := by
  unfold plan
  rw [h, haddress]

lemma plan_of_inline (h : Mode.ofScript o.inline s = .inline) :
    plan s o = if s.unsafeSequences.isEmpty then
        .ok ⟨.inline, .ofRunAt s.runAt, withNonce { bareTag with text := some (inlineCode s) } o.nonce⟩
      else .error ⟨s.name, s.unsafeSequences⟩ := by
  unfold plan
  rw [h]

/-- A plan is refused just when the script is to be copied and holds an unsafe sequence. -/
theorem exists_plan_eq_error_iff :
    (∃ r, plan s o = .error r) ↔ Mode.ofScript o.inline s = .inline ∧ s.unsafeSequences ≠ [] := by
  cases hmode : Mode.ofScript o.inline s with
  | inline =>
    rw [plan_of_inline hmode]
    cases s.unsafeSequences <;> simp
  | bootstrap =>
    obtain ⟨address, haddress⟩ := Mode.exists_address (s := s) (by rw [hmode]; decide)
    simp [plan_of_bootstrap hmode haddress]
  | linked =>
    obtain ⟨address, haddress⟩ := Mode.exists_address (s := s) (by rw [hmode]; decide)
    simp [plan_of_linked hmode haddress]

/-- The parts of a plan for a script and options belong together. -/
structure Plan.Fits (s : Script) (o : Options) (p : Plan) : Prop where
  mode : p.mode = Mode.ofScript o.inline s
  version_first : p.tag.attributes.head? = some (versionAttribute, About.version)
  attributes_nodup : (p.tag.attributes.map Prod.fst).Nodup
  src : ∀ address, (srcAttribute, address) ∈ p.tag.attributes ↔
    p.mode = .linked ∧ s.versionedDownloadUrl? = some address
  exists_src : (∃ address, (srcAttribute, address) ∈ p.tag.attributes) ↔ p.mode = .linked
  text : p.tag.text.isSome = true ↔ p.mode ≠ .linked
  nonce : ∀ nonce, (nonceAttribute, nonce) ∈ p.tag.attributes ↔ p.mode ≠ .linked ∧ o.nonce = some nonce
  inline_text : p.mode = .inline → ∀ waits guarded,
    p.tag.text = some ('\n' :: wrapped waits guarded s.source) ↔
      (waits = true ↔ s.runAt = .documentIdle) ∧ guarded = s.noFrames
  linked_plain : p.mode = .linked → s.noFrames = false ∧ s.runAt ≠ .documentIdle

lemma attributes_set_src (address : Text) : (bareTag.set srcAttribute address).attributes =
    [(versionAttribute, About.version), (srcAttribute, address)] := rfl

lemma attributes_withNonce (text nonce : Option Text) :
    (withNonce { bareTag with text } nonce).attributes =
      (versionAttribute, About.version) :: nonce.toList.map fun n => (nonceAttribute, n) := by
  cases nonce <;> rfl

lemma versionAttribute_ne_src : versionAttribute ≠ srcAttribute := by decide

lemma versionAttribute_ne_nonce : versionAttribute ≠ nonceAttribute := by decide

lemma srcAttribute_ne_nonce : srcAttribute ≠ nonceAttribute := by decide

lemma fits_of_linked (h : Mode.ofScript o.inline s = .linked) {address : Text}
    (haddress : s.versionedDownloadUrl? = some address) (placement : Placement) :
    Plan.Fits s o ⟨.linked, placement, bareTag.set srcAttribute address⟩ where
  mode := h.symm
  version_first := rfl
  attributes_nodup := by simp [attributes_set_src, versionAttribute_ne_src]
  src url := by simp [attributes_set_src, haddress, versionAttribute_ne_src.symm, eq_comm]
  exists_src := by simp [attributes_set_src, versionAttribute_ne_src.symm]
  text := by simp [bareTag, ScriptTag.blank]
  nonce n := by simp [attributes_set_src, versionAttribute_ne_nonce.symm, srcAttribute_ne_nonce.symm]
  inline_text hinline := by cases hinline
  linked_plain _ := (Mode.ofScript_eq_linked_iff.mp h).2.symm

lemma fits_of_code {mode : Mode} (h : Mode.ofScript o.inline s = mode) (hmode : mode ≠ .linked) {code : Text}
    (hcode : mode = .inline → code = inlineCode s) (placement : Placement) :
    Plan.Fits s o ⟨mode, placement, withNonce { bareTag with text := some code } o.nonce⟩ where
  mode := h.symm
  version_first := by rw [attributes_withNonce, List.head?_cons]
  attributes_nodup := by cases hnonce : o.nonce <;> simp [attributes_withNonce, versionAttribute_ne_nonce]
  src url := by simp [attributes_withNonce, hmode, versionAttribute_ne_src.symm, srcAttribute_ne_nonce.symm]
  exists_src := by simp [attributes_withNonce, hmode, versionAttribute_ne_src.symm, srcAttribute_ne_nonce.symm]
  text := by simp [hmode]
  nonce n := by simp [attributes_withNonce, hmode, versionAttribute_ne_nonce.symm]
  inline_text hinline waits guarded := by
    rw [text_withNonce, hcode hinline, inlineCode_eq_wrapped, Option.some.injEq, List.cons.injEq,
      eq_self, true_and, wrapped_eq_wrapped_iff]
    refine and_congr ?_ eq_comm
    cases waits <;> simp
  linked_plain hlinked := absurd hlinked hmode

theorem fits_of_plan {p : Plan} (h : plan s o = .ok p) : p.Fits s o := by
  cases hmode : Mode.ofScript o.inline s with
  | inline =>
    rw [plan_of_inline hmode] at h
    by_cases hsafe : s.unsafeSequences.isEmpty = true
    · rw [if_pos hsafe] at h
      cases h
      exact fits_of_code hmode (by decide) (fun _ => rfl) _
    · rw [if_neg hsafe] at h
      cases h
  | bootstrap =>
    obtain ⟨address, haddress⟩ := Mode.exists_address (s := s) (by rw [hmode]; decide)
    rw [plan_of_bootstrap hmode haddress] at h
    cases h
    exact fits_of_code hmode (by decide) (fun hinline => by cases hinline) _
  | linked =>
    obtain ⟨address, haddress⟩ := Mode.exists_address (s := s) (by rw [hmode]; decide)
    rw [plan_of_linked hmode haddress] at h
    cases h
    exact fits_of_linked hmode haddress _

lemma carriesCode_of_nonceFor {config : Config} {nonces : Nonce.Supply} {nonce : Text}
    (h : Injector.nonceFor config s nonces = some nonce) : Mode.ofScript config.inline s ≠ .linked := by
  unfold Injector.nonceFor at h
  split_ifs at h with hasked
  exact Mode.carriesCode_eq_true_iff.mp (Bool.and_eq_true_iff.mp hasked).1

/-- For a script that has been read from its source there is no plan just when it is to be copied and holds unsafe
sequences. The parts of a plan that is made belong together, and what a copied script has at its core is the whole
source. The nonce that the injector takes for a script is the nonce of its element. -/
theorem plan_of_parse {source : Text} (hs : (Script.parse source).value = .ok s) (o : Options) :
    s.source = source ∧
      ((∃ r, plan s o = .error r) ↔ Mode.ofScript o.inline s = .inline ∧ s.unsafeSequences ≠ []) ∧
      (∀ p, plan s o = .ok p → p.Fits s o) ∧
      ∀ (config : Config) (nonces : Nonce.Supply) (p : Plan),
        plan s ⟨config.inline, Injector.nonceFor config s nonces⟩ = .ok p →
          ∀ nonce, (nonceAttribute, nonce) ∈ p.tag.attributes ↔
            Injector.nonceFor config s nonces = some nonce := by
  refine ⟨Script.source_of_parse hs, exists_plan_eq_error_iff, fun p => fits_of_plan, ?_⟩
  intro config nonces p hp nonce
  have hfits := fits_of_plan hp
  rw [hfits.nonce nonce, hfits.mode]
  exact and_iff_right_of_imp carriesCode_of_nonceFor

/-- A script that waits and stays out of frames, and has an address: copied with both codes around it and a nonce
where every script is copied, and linked by code elsewhere. -/
theorem plan_of_parse_of_idle :
    let source := "// ==UserScript==\n// @name A\n// @noframes\n// @run-at document-idle\n".toList ++
      "// @downloadURL https://a.test/u.js\n// ==/UserScript==\nrun();\n".toList
    ∃ s, (Script.parse source).value = .ok s ∧
      (∃ p, plan s ⟨true, some "ab12".toList⟩ = .ok p ∧ p.mode = .inline ∧
        p.tag.text = some ('\n' :: wrapped true true source) ∧
        (nonceAttribute, "ab12".toList) ∈ p.tag.attributes) ∧
      ∃ p, plan s ⟨false, none⟩ = .ok p ∧ p.mode = .bootstrap ∧ p.tag.text.isSome = true := by
  intro source
  have hfields : (Script.parse source).value.toOption.map (fun s =>
      (s.runAt, s.noFrames, s.downloadUrl, s.unsafeSequences)) =
      some (.documentIdle, true, some "https://a.test/u.js".toList, []) := by
    decide +kernel
  obtain ⟨s, hparse, heq⟩ := exists_of_toOption_map hfields
  simp only [Prod.mk.injEq] at heq
  obtain ⟨hidle, hframes, hurl, hsafe⟩ := heq
  have hplanned : ∀ o, ∃ p, plan s o = .ok p ∧ p.Fits s o := fun o => by
    obtain ⟨-, hrefused, hfits, -⟩ := plan_of_parse hparse o
    cases hplan : plan s o with
    | ok p => exact ⟨p, rfl, hfits p hplan⟩
    | error r => exact absurd hsafe (hrefused.mp ⟨r, hplan⟩).2
  obtain ⟨hsource, -⟩ := plan_of_parse hparse ⟨true, some "ab12".toList⟩
  refine ⟨s, hparse, ?_, ?_⟩
  · obtain ⟨p, hp, hfits⟩ := hplanned ⟨true, some "ab12".toList⟩
    have hmode : p.mode = .inline := by rw [hfits.mode, Mode.ofScript, Bool.true_or, if_pos rfl]
    refine ⟨p, hp, hmode, ?_, (hfits.nonce _).mpr ⟨by rw [hmode]; decide, rfl⟩⟩
    rw [← hsource, hfits.inline_text hmode]
    exact ⟨iff_of_true rfl hidle, hframes.symm⟩
  · obtain ⟨p, hp, hfits⟩ := hplanned ⟨false, none⟩
    have hmode : p.mode = .bootstrap := by rw [hfits.mode, Mode.ofScript, hurl, hidle]; rfl
    exact ⟨p, hp, hmode, hfits.text.mpr (by rw [hmode]; decide)⟩

end Injection

end Userscript
