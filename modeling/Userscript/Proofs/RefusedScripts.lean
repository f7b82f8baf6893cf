import Userscript.Proofs.ParsedScript
import Userscript.Proofs.ProcessedPage
import Userscript.Proofs.RenamedNonces

/-!
# Scripts that are refused

A script that may not be copied into a page is refused before anything is done with the page. So it makes no
difference to the others: up to the names of the nonces, a page comes out as if the refused scripts were not
there, with the same scripts on record as injected and the same policy. All that a refused script leaves behind
is its own failure.
-/

namespace Userscript

variable {rename : Text → Text} {page : List Leaf}

namespace Injection

def isRefused (inline : Bool) (s : Script) : Bool :=
  (plan s { inline, nonce := none }).toOption.isNone

def refusal (s : Script) : Refusal := { script := s.name, sequences := s.unsafeSequences }

def Error.isRefusal : Error → Bool
  | unsafeContent _ => true
  | failed .. => false

/-- An injection with its nonce changed. -/
def mapNonce (f : Text → Text) (i : Injection) : Injection := { i with nonce := i.nonce.map f }

/-- Whether a plan is refused depends on the script alone, not on the nonce. -/
theorem plan_eq_error_iff {s : Script} {o : Options} {r : Refusal} :
    plan s o = .error r ↔ isRefused o.inline s = true ∧ r = refusal s := by
  unfold isRefused plan
  dsimp only
  -- The nonce is looked at only where there is a plan.
  cases Mode.ofScript o.inline s <;> cases s.versionedDownloadUrl? <;>
    by_cases hsafe : s.unsafeSequences.isEmpty = true <;>
    simp [hsafe, Except.toOption, refusal, eq_comm]

lemma exists_plan {s : Script} {o : Options} (h : isRefused o.inline s = false) :
    ∃ p, plan s o = .ok p := by
  cases hplan : plan s o with
  | ok p => exact ⟨p, rfl⟩
  | error r =>
    rw [(plan_eq_error_iff.mp hplan).1] at h
    cases h

lemma exists_plans_renamed (rename : Text → Text) {inline : Bool} {s : Script}
    (h : isRefused inline s = false) (nonce : Option Text) :
    ∃ p q, plan s { inline, nonce } = .ok p ∧ plan s { inline, nonce := nonce.map rename } = .ok q ∧
      p.placement = q.placement ∧ (Leaf.script p.tag).Renamed rename page (.script q.tag) := by
  obtain ⟨p, hp⟩ := exists_plan (o := ⟨inline, nonce⟩) h
  obtain ⟨q, hq⟩ := exists_plan (o := ⟨inline, nonce.map rename⟩) h
  exact ⟨p, q, hp, hq, (placement_of_plan_ok hp).trans (placement_of_plan_ok hq).symm, .script hp hq⟩

lemma Plan.apply_renamed {p q : Plan} (hplacement : p.placement = q.placement)
    (htag : (Leaf.script p.tag).Renamed rename page (.script q.tag)) {d e : Document}
    (h : d.Renamed rename page e) :
    ∃ result d' e', p.apply d = (result, d') ∧ q.apply e = (result, e') ∧
      d'.Renamed rename page e' := by
  obtain ⟨result, d', e', hd, he, hdocument⟩ := h.call .createScript (f := id) (g := id) h.nodes
  unfold Plan.apply
  rw [hd, he]
  cases result with
  | error o => exact ⟨_, d', e', rfl, rfl, hdocument⟩
  | ok u =>
    dsimp only
    rw [hplacement, Place.find_renamed hdocument.nodes]
    exact hdocument.call _ (Place.put_renamed htag hdocument.nodes _)

lemma inject_of_isRefused {s : Script} {o : Options} (h : isRefused o.inline s = true)
    (d : Document) : inject s o d = (.error (.unsafeContent (refusal s)), d) := by
  have hplan : plan s o = .error (refusal s) := plan_eq_error_iff.mpr ⟨h, rfl⟩
  simp only [inject, hplan]

/-- A script that is not refused is injected into both of two documents that agree up to nonces, or fails in both
of them for one reason. -/
theorem inject_renamed {inline : Bool} {s : Script} (hs : isRefused inline s = false)
    {d e : Document} (h : d.Renamed rename page e) (nonce : Option Text) :
    ∃ d' e', d'.Renamed rename page e' ∧
      ((∃ p q, inject s { inline, nonce } d = (.ok p, d') ∧
        inject s { inline, nonce := nonce.map rename } e = (.ok q, e')) ∨
      ∃ o, inject s { inline, nonce } d = (.error (.failed s.name o), d') ∧
        inject s { inline, nonce := nonce.map rename } e = (.error (.failed s.name o), e')) := by
  obtain ⟨p, q, hp, hq, hplacement, htag⟩ := exists_plans_renamed rename hs nonce
  obtain ⟨result, d', e', hd, he, hdocument⟩ := Plan.apply_renamed hplacement htag h
  refine ⟨d', e', hdocument, ?_⟩
  simp only [inject, hp, hq, hd, he]
  cases result with
  | error o => exact .inr ⟨o, rfl, rfl⟩
  | ok u => exact .inl ⟨p, q, rfl, rfl⟩

lemma comment_map_mapNonce (f : Text → Text) (injected : List Injection) :
    comment (injected.map (mapNonce f)) = comment injected := by
  simp only [comment, List.isEmpty_map, List.map_map, Function.comp_def, mapNonce]

end Injection

/-- The updates for injections with their nonces and with the ones that replace these: nothing is done, or the
policy is removed, or the sources of the injections are added to one policy. -/
inductive CspUpdate.Renamed (rename : Text → Text) (injected : List Injection) :
    CspUpdate → CspUpdate → Prop where
  | unchanged : Renamed rename injected unchanged unchanged
  | changed (header : Text) : Renamed rename injected (changed (Csp.extendHeader header injected))
      (changed (Csp.extendHeader header (injected.map (Injection.mapNonce rename))))
  | removed : Renamed rename injected removed removed

/-- Two reports agree up to nonces but for removed scripts, which are on record in the second one as refused. -/
structure InjectionReport.Agree (rename : Text → Text) (removed : List Script)
    (report report' : InjectionReport) : Prop where
  injected : report'.injected = report.injected.map (Injection.mapNonce rename)
  csp : report.csp.Renamed rename report.injected report'.csp
  refusals : report'.failures.filter Injection.Error.isRefusal =
    removed.map fun s => .unsafeContent (Injection.refusal s)
  failures : (report'.failures.filter fun e => !e.isRefusal) = report.failures

namespace Injector

open Injection (isRefused refusal)

lemma nonceFor_cases (config : Config) (s : Script) :
    (∀ nonces, nonceFor config s nonces = none) ∨ ∀ nonces, nonceFor config s nonces = some nonces.next := by
  unfold nonceFor
  split_ifs
  · exact .inr fun _ => rfl
  · exact .inl fun _ => rfl

/-- The nonces that two runs draw for the scripts that are not refused: the first is over these alone, the second
over all of them. A refused script spends a nonce as well where one is drawn for it, so from there on the two draw at
different places of their supplies. -/
def sharedDraws (config : Config) (kept all : Nonce.Supply) : List Script → List (Text × Text)
  | [] => []
  | s :: rest =>
    if isRefused config.inline s then
      sharedDraws config kept (noncesAfter all (nonceFor config s all)) rest
    else
      (nonceFor config s kept).toList.zip (nonceFor config s all).toList ++
        sharedDraws config (noncesAfter kept (nonceFor config s kept))
          (noncesAfter all (nonceFor config s all)) rest

lemma sharedDraws_sublist (config : Config) (kept all : Nonce.Supply) (scripts : List Script) :
    ((sharedDraws config kept all scripts).map Prod.fst).Sublist (kept.upcoming scripts.length) ∧
      ((sharedDraws config kept all scripts).map Prod.snd).Sublist (all.upcoming scripts.length) := by
  induction scripts generalizing kept all with
  | nil => exact ⟨List.nil_sublist _, List.nil_sublist _⟩
  | cons s rest ih =>
    have hlater (nonces : Nonce.Supply) := nonces.upcoming_sublist_upcoming_succ rest.length
    rw [List.length_cons, sharedDraws]
    rcases nonceFor_cases config s with hnone | hsome
    · rw [hnone, hnone]
      have hrest : ((sharedDraws config kept all rest).map Prod.fst).Sublist
          (kept.upcoming (rest.length + 1)) ∧ ((sharedDraws config kept all rest).map Prod.snd).Sublist
          (all.upcoming (rest.length + 1)) :=
        ⟨(ih kept all).1.trans (hlater kept), (ih kept all).2.trans (hlater all)⟩
      split_ifs
      · exact hrest
      · exact hrest
    · rw [hsome, hsome]
      split_ifs
      · refine ⟨(ih kept all.spend).1.trans (hlater kept), ?_⟩
        rw [all.upcoming_succ]
        exact (ih kept all.spend).2.cons all.next
      · rw [kept.upcoming_succ, all.upcoming_succ]
        exact ⟨(ih kept.spend all.spend).1.cons_cons kept.next, (ih kept.spend all.spend).2.cons_cons all.next⟩

lemma exists_renaming_sharedDraws {kept all : Nonce.Supply} {scripts : List Script}
    (hkept : (kept.upcoming scripts.length).Nodup) (hall : (all.upcoming scripts.length).Nodup)
    (config : Config) :
    ∃ rename : Equiv.Perm Text, ∀ x ∈ sharedDraws config kept all scripts, rename x.1 = x.2 :=
  Nonce.exists_renaming (hkept.sublist (sharedDraws_sublist config kept all scripts).1)
    (hall.sublist (sharedDraws_sublist config kept all scripts).2)

/-- Two runs have come equally far up to nonces but for removed scripts, which are on record in the second one as
refused. -/
structure Progress.Agree (rename : Text → Text) (page : List Leaf) (removed : List Script)
    (p q : Progress) : Prop where
  document : p.document.Renamed rename page q.document
  injected : q.injected = p.injected.map (Injection.mapNonce rename)
  refusals : q.failures.filter Injection.Error.isRefusal =
    removed.map fun s => .unsafeContent (refusal s)
  failures : (q.failures.filter fun e => !e.isRefusal) = p.failures

variable {config : Config} {address : Text} {p q : Progress} {removed : List Script} {s : Script}

lemma Progress.Agree.injectNext_of_isRefused (h : p.Agree rename page removed q)
    (hs : isRefused config.inline s = true) :
    p.Agree rename page (removed ++ [s]) (injectNext config address q s).value := by
  rw [injectNext_error (Injection.inject_of_isRefused hs q.document)]
  refine ⟨h.document, h.injected, ?_, ?_⟩
  · rw [List.filter_append, h.refusals, List.map_append]
    rfl
  · rw [List.filter_append, h.failures]
    exact List.append_nil _

lemma Progress.Agree.injectNext (h : p.Agree rename page removed q) (hs : isRefused config.inline s = false)
    (hnonce : nonceFor config s q.nonces = (nonceFor config s p.nonces).map rename) :
    (injectNext config address p s).value.Agree rename page removed
      (injectNext config address q s).value := by
  obtain ⟨d, e, hdocument, ⟨plan, plan', hp, hq⟩ | ⟨o, hp, hq⟩⟩ :=
    Injection.inject_renamed hs h.document (nonceFor config s p.nonces)
  · rw [← hnonce] at hq
    rw [injectNext_ok hp, injectNext_ok hq]
    refine ⟨hdocument, ?_, h.refusals, h.failures⟩
    rw [h.injected, hnonce, List.map_append]
    rfl
  · rw [← hnonce] at hq
    rw [injectNext_error hp, injectNext_error hq]
    refine ⟨hdocument, h.injected, ?_, ?_⟩
    · rw [List.filter_append, h.refusals]
      exact List.append_nil _
    · rw [List.filter_append, h.failures]
      rfl

/-- A run over scripts agrees with the run over those of them that are not refused. -/
theorem Progress.Agree.injectEach (h : p.Agree rename page removed q) (scripts : List Script)
    (hdraws : ∀ x ∈ sharedDraws config p.nonces q.nonces scripts, rename x.1 = x.2) :
    (injectEach config address p (scripts.filter fun s => !isRefused config.inline s)).value.Agree rename page
      (removed ++ scripts.filter (isRefused config.inline))
      (injectEach config address q scripts).value := by
  -- The runs go together: the second takes a step alone at a refused script, and both take one at any other.
  induction scripts generalizing p q removed with
  | nil =>
    rw [List.filter_nil, List.filter_nil, List.append_nil]
    exact h
  | cons s rest ih =>
    rw [injectEach_cons]
    cases hs : isRefused config.inline s with
    | true =>
      have hkept : ((s :: rest).filter fun s => !isRefused config.inline s) =
          rest.filter fun s => !isRefused config.inline s := List.filter_cons_of_neg (by simp [hs])
      have hremoved : (s :: rest).filter (isRefused config.inline) =
          s :: rest.filter (isRefused config.inline) := List.filter_cons_of_pos hs
      rw [hkept, hremoved, List.append_cons]
      refine ih (h.injectNext_of_isRefused hs) ?_
      rw [nonces_injectNext]
      rwa [sharedDraws, if_pos hs] at hdraws
    | false =>
      have hkept : ((s :: rest).filter fun s => !isRefused config.inline s) =
          s :: rest.filter fun s => !isRefused config.inline s := List.filter_cons_of_pos (by simp [hs])
      have hremoved : (s :: rest).filter (isRefused config.inline) =
          rest.filter (isRefused config.inline) := List.filter_cons_of_neg (by simp [hs])
      rw [sharedDraws, if_neg (by simp [hs]), List.forall_mem_append] at hdraws
      rw [hkept, hremoved, injectEach_cons]
      refine ih (h.injectNext hs ?_) ?_
      · rcases nonceFor_cases config s with hnone | hsome
        · rw [hnone, hnone]
          rfl
        · have hnext := hdraws.1 (p.nonces.next, q.nonces.next) (by rw [hsome, hsome]; exact List.mem_singleton_self _)
          rw [hsome, hsome, Option.map_some, hnext]
      · rw [nonces_injectNext, nonces_injectNext]
        exact hdraws.2

lemma listInjected_renamed {d e : Document} (h : d.Renamed rename page e) (config : Config)
    (address : Text) (injected : List Injection) :
    (listInjected config address injected d).value.Renamed rename page
      (listInjected config address (injected.map (Injection.mapNonce rename)) e).value := by
  unfold listInjected
  rw [Injection.comment_map_mapNonce]
  by_cases hlist : config.listInjected = true
  · rw [if_pos hlist, if_pos hlist]
    obtain ⟨result, d', e', hd, he, hdocument⟩ := h.call .prependComment
      (h.nodes.putOnTop (.comment (Injection.comment injected)))
    rw [Document.prependComment, Document.prependComment, hd, he]
    cases result with
    | error o => exact hdocument
    | ok u => exact hdocument
  · rw [if_neg hlist, if_neg hlist]
    exact h

lemma cspUpdate_renamed (rename : Text → Text) (bypass : CspBypass) (header : Option Text)
    (injected : List Injection) :
    (cspUpdate bypass header injected).Renamed rename injected
      (cspUpdate bypass header (injected.map (Injection.mapNonce rename))) := by
  unfold cspUpdate
  cases header with
  | none => exact .unchanged
  | some header =>
    cases bypass with
    | nothing => exact .unchanged
    | everything => exact .removed
    | script =>
      dsimp only
      rw [List.isEmpty_map]
      split_ifs
      · exact .unchanged
      · exact .changed header

def withoutRefused (i : Injector) : Injector :=
  { i with scripts := i.scripts.filter fun s => !isRefused i.config.inline s }

def refusedOn (i : Injector) (r : Response) : List Script :=
  ((Page.ofAddress r.address).applicable i.scripts).filter (isRefused i.config.inline)

lemma applicable_withoutRefused (i : Injector) (page : Page) :
    page.applicable i.withoutRefused.scripts =
      (page.applicable i.scripts).filter fun s => !isRefused i.config.inline s := by
  unfold Page.applicable withoutRefused
  exact List.filter_comm _ _ _

/-- Up to nonces, refused scripts make no difference to the run over the scripts for a page. -/
theorem progressOn_without_refused {kept all : Nonce.Supply} {i : Injector} {r : Response}
    (hdraws : ∀ x ∈ sharedDraws i.config kept all ((Page.ofAddress r.address).applicable i.scripts),
      rename x.1 = x.2) (d : Document) :
    (progressOn i.withoutRefused r d kept).Agree rename d.nodes.leaves (i.refusedOn r)
      (progressOn i r d all) := by
  have hstart : (Progress.mk d kept [] []).Agree rename d.nodes.leaves [] ⟨d, all, [], []⟩ :=
    ⟨.refl rename d, rfl, rfl, rfl⟩
  unfold progressOn
  rw [applicable_withoutRefused]
  exact hstart.injectEach _ hdraws

/-- Without the refused scripts a response comes out as with them, up to a renaming of nonces: it is left alone
for the same reason, or the documents agree and so do the reports, but for one failure of each refused script that
runs on the page. All that is asked of the nonces is that none is drawn twice. -/
theorem process_without_refused (i : Injector) (r : Response) (d : Document) {kept all : Nonce.Supply}
    (hkept : (kept.upcoming ((Page.ofAddress r.address).applicable i.scripts).length).Nodup)
    (hall : (all.upcoming ((Page.ofAddress r.address).applicable i.scripts).length).Nodup) :
    ∃ rename : Equiv.Perm Text,
      match (i.withoutRefused.process r d kept).value, (i.process r d all).value with
      | (.skipped reason, d', _), (.skipped reason', e', _) => reason = reason' ∧ d' = d ∧ e' = d
      | (.processed report, d', _), (.processed report', e', _) =>
        report.Agree rename (i.refusedOn r) report' ∧ d'.Renamed rename d.nodes.leaves e'
      | _, _ => False := by
  obtain ⟨rename, hrename⟩ := exists_renaming_sharedDraws hkept hall i.config
  refine ⟨rename, ?_⟩
  cases hskip : skipReason? i.config r with
  | some reason =>
    rw [process_of_skipped (i := i.withoutRefused) hskip, process_of_skipped hskip]
    exact ⟨rfl, rfl, rfl⟩
  | none =>
    have hagree := progressOn_without_refused hrename d
    rw [process_of_not_skipped (i := i.withoutRefused) hskip, process_of_not_skipped hskip, hagree.injected]
    exact ⟨⟨rfl, cspUpdate_renamed _ _ _ _, hagree.refusals, hagree.failures⟩,
      listInjected_renamed hagree.document _ _ _⟩

/-- A refused script between two others, of which the document takes the second one. The nonce of that is the
second one that is drawn in the one run and the third one in the other. -/
theorem process_without_refused_between :
    let b := (Script.ofMetadata (Script.sourceOf [(Directive.name, .text "b".toList),
        (Directive.matchPattern, .text "*://*/x".toList)] "<script".toList)
      [(Directive.name, .text "b".toList), (Directive.matchPattern, .text "*://*/x".toList),
        (Directive.runAt, .text RunAt.documentEnd.name), (Directive.noFrames, .flag false)]).value
    let i : Injector :=
      { config := { (default : Config) with listInjected := true }
        scripts := [Script.sample "a".toList .documentIdle, b, Script.sample "c".toList .documentIdle] }
    let r : Response :=
      ⟨"http://[::1]/x".toList, some "text/html".toList, some "script-src 'self'".toList⟩
    let d := Document.fresh (.element "body".toList .nil .nil) [(.createScript, 1)]
    let kept : Nonce.Supply := ⟨fun n => List.replicate (n + 1) 'k', 0⟩
    let all : Nonce.Supply := ⟨fun n => List.replicate n 'l', 1⟩
    (∀ s ∈ i.scripts, (Script.parse s.source).value = .ok s) ∧
    (kept.upcoming ((Page.ofAddress r.address).applicable i.scripts).length).Nodup ∧
    (all.upcoming ((Page.ofAddress r.address).applicable i.scripts).length).Nodup ∧
    ∃ rename : Equiv.Perm Text, ∃ report d' rest report' e' rest',
      (i.withoutRefused.process r d kept).value = (.processed report, d', rest) ∧
      (i.process r d all).value = (.processed report', e', rest') ∧
      report.Agree rename (i.refusedOn r) report' ∧ d'.Renamed rename d.nodes.leaves e' ∧ d' ≠ e' ∧
      report.injected.map (·.nonce) = [some "kk".toList] ∧
      report'.injected.map (·.nonce) = [some "lll".toList] ∧
      report.failures = [.failed "a".toList .createScript] ∧
      report'.failures =
        [.failed "a".toList .createScript, .unsafeContent ⟨"b".toList, ["<script".toList]⟩] := by
  intro b i r d kept all
  have hb : (Script.parse b.source).value = .ok b :=
    Script.parse_sourceOf (by decide) (eq_ok_of_toOption (by decide +kernel)) _
  have hparsed : ∀ s ∈ i.scripts, (Script.parse s.source).value = .ok s :=
    List.forall_mem_cons.mpr ⟨Script.parse_sample (by decide) (by decide +kernel),
      List.forall_mem_cons.mpr ⟨hb, List.forall_mem_singleton.mpr
        (Script.parse_sample (by decide) (by decide +kernel))⟩⟩
  have hkept : (kept.upcoming ((Page.ofAddress r.address).applicable i.scripts).length).Nodup := by
    decide +kernel
  have hall : (all.upcoming ((Page.ofAddress r.address).applicable i.scripts).length).Nodup := by
    decide +kernel
  obtain ⟨rename, h⟩ := process_without_refused i r d hkept hall
  have hskip : skipReason? i.config r = none := by decide +kernel
  have hvalue := process_of_not_skipped (i := i.withoutRefused) hskip d kept
  have hvalue' := process_of_not_skipped hskip d all
  rw [hvalue, hvalue'] at h
  exact ⟨hparsed, hkept, hall, rename, _, _, _, _, _, _, hvalue, hvalue', h.1, h.2, by decide +kernel,
    by decide +kernel, by decide +kernel, by decide +kernel, by decide +kernel⟩

end Injector

end Userscript
