import Userscript.Injector
import Userscript.Proofs.Overlay
import Userscript.Proofs.ScriptSlots

/-!
# Pages after injection

What the injection of scripts leaves behind: every applicable script is recorded once, and the document
has grown by the planned elements of exactly the scripts recorded as injected. Nothing is left of a script
that could not be injected, even where the document refused it half-way.
-/

namespace Userscript

namespace Document

lemma call_cases (d : Document) (o : Operation) (change : Nodes → Nodes) :
    (∃ d', d.call o change = (.ok (), d') ∧ d'.nodes = change d.nodes ∧ d.refuses o = false) ∨
      ∃ d', d.call o change = (.error o, d') ∧ d'.nodes = d.nodes ∧ d.refuses o = true := by
  cases h : d.refuses o with
  | true => exact Or.inr ⟨{ d with calls := o :: d.calls }, by rw [call, if_pos h], rfl, rfl⟩
  | false =>
    exact Or.inl ⟨{ d with nodes := change d.nodes, calls := o :: d.calls },
      by rw [call, if_neg (by simp [h])], rfl, rfl⟩

lemma refuses_call {d : Document} {o other : Operation} (h : o ≠ other) (change : Nodes → Nodes) :
    (d.call o change).2.refuses other = d.refuses other := by
  unfold call
  split <;> simp [refuses, List.count_cons_of_ne h]

end Document

namespace Injection

lemma Place.operation_ne_prependComment (place : Place) : place.operation ≠ .prependComment := by
  cases place <;> decide

theorem Plan.apply_cases (p : Plan) (d : Document) :
    (∃ d', p.apply d = (.ok (), d') ∧
      d'.nodes = (Place.find p.placement d.nodes).put (.script p.tag) d.nodes) ∨
      ∃ o d', p.apply d = (.error o, d') ∧ d'.nodes = d.nodes := by
  rcases d.call_cases .createScript id with ⟨d₁, hcall, hnodes, -⟩ | ⟨d₁, hcall, hnodes, -⟩
  · rcases d₁.call_cases (Place.find p.placement d₁.nodes).operation
      ((Place.find p.placement d₁.nodes).put (.script p.tag)) with
      ⟨d₂, hcall₂, hnodes₂, -⟩ | ⟨d₂, hcall₂, hnodes₂, -⟩
    · refine Or.inl ⟨d₂, by simp only [Plan.apply, hcall, hcall₂], ?_⟩
      rw [hnodes₂, hnodes]
      rfl
    · exact Or.inr ⟨(Place.find p.placement d₁.nodes).operation, d₂,
        by simp only [Plan.apply, hcall, hcall₂], hnodes₂.trans hnodes⟩
  · exact Or.inr ⟨.createScript, d₁, by simp only [Plan.apply, hcall], hnodes⟩

lemma Plan.refuses_apply (p : Plan) (d : Document) :
    (p.apply d).2.refuses .prependComment = d.refuses .prependComment := by
  have hcreate : (d.call .createScript id).2.refuses .prependComment = d.refuses .prependComment :=
    Document.refuses_call (by decide) id
  unfold Plan.apply
  cases hcall : d.call .createScript id with
  | mk result d₁ =>
    rw [hcall] at hcreate
    cases result with
    | error o => exact hcreate
    | ok u => exact (Document.refuses_call (Place.operation_ne_prependComment _) _).trans hcreate

lemma script_of_plan_error {s : Script} {o : Options} {r : Refusal} (h : plan s o = .error r) :
    r.script = s.name := by
  unfold plan at h
  dsimp only at h
  split at h
  · cases h
  · cases h
  · by_cases hu : s.unsafeSequences.isEmpty = true
    · rw [if_pos hu] at h
      cases h
    · rw [if_neg hu] at h
      cases h
      rfl

lemma placement_of_plan_ok {s : Script} {o : Options} {p : Plan} (h : plan s o = .ok p) :
    p.placement = .ofRunAt s.runAt := by
  unfold plan at h
  dsimp only at h
  split at h
  · cases h
    rfl
  · cases h
    rfl
  · by_cases hu : s.unsafeSequences.isEmpty = true
    · rw [if_pos hu] at h
      cases h
      rfl
    · rw [if_neg hu] at h
      cases h

/-- A script is injected by the element that is planned for it, which goes to the place for the time of the
script, or the document keeps its nodes. -/
theorem inject_cases (s : Script) (o : Options) (d : Document) :
    (∃ p d', inject s o d = (.ok p, d') ∧ plan s o = .ok p ∧
      d'.nodes = (Place.find (.ofRunAt s.runAt) d.nodes).put (.script p.tag) d.nodes) ∨
    ∃ e d', inject s o d = (.error e, d') ∧ e.script = s.name ∧ d'.nodes = d.nodes := by
  cases hplan : plan s o with
  | error r =>
    exact Or.inr ⟨.unsafeContent r, d, by simp only [inject, hplan], script_of_plan_error hplan, rfl⟩
  | ok p =>
    rcases p.apply_cases d with ⟨d', happly, hput⟩ | ⟨operation, d', happly, hnodes⟩
    · rw [placement_of_plan_ok hplan] at hput
      exact Or.inl ⟨p, d', by simp only [inject, hplan, happly], rfl, hput⟩
    · exact Or.inr ⟨.failed s.name operation, d', by simp only [inject, hplan, happly], rfl, hnodes⟩

lemma refuses_inject (s : Script) (o : Options) (d : Document) :
    (inject s o d).2.refuses .prependComment = d.refuses .prependComment := by
  cases hplan : plan s o with
  | error r => simp only [inject, hplan]
  | ok p =>
    have happly := p.refuses_apply d
    cases h : p.apply d with
    | mk result d' =>
      rw [h] at happly
      cases result <;> simpa only [inject, hplan, h] using happly

/-- Each script is recorded once, in order: as injected, or by a failure under its name. -/
inductive Recorded : List Script → List Injection → List Error → Prop where
  | nil : Recorded [] [] []
  | injected (s : Script) (nonce : Option Text) {rest : List Script} {injected : List Injection}
    {failures : List Error} :
    Recorded rest injected failures → Recorded (s :: rest) (⟨s, nonce⟩ :: injected) failures
  | failed {s : Script} {e : Error} (h : e.script = s.name) {rest : List Script}
    {injected : List Injection} {failures : List Error} :
    Recorded rest injected failures → Recorded (s :: rest) injected (e :: failures)

/-- The element is the planned one for an injection, made with the nonce on record. -/
def HasTag (inline : Bool) (i : Injection) (tag : ScriptTag) : Prop :=
  ∃ p, plan i.script { inline, nonce := i.nonce } = .ok p ∧ p.tag = tag

end Injection

namespace Injector

open Injection (Recorded HasTag)

lemma injectNext_ok {config : Config} {address : Text} {p : Progress} {s : Script}
    {plan : Injection.Plan} {d : Document}
    (h : Injection.inject s { inline := config.inline, nonce := nonceFor config s p.nonces }
      p.document = (.ok plan, d)) :
    (injectNext config address p s).value =
      { document := d, nonces := noncesAfter p.nonces (nonceFor config s p.nonces)
        injected := p.injected ++ [⟨s, nonceFor config s p.nonces⟩], failures := p.failures } := by
  simp only [injectNext, h]
  rfl

lemma injectNext_error {config : Config} {address : Text} {p : Progress} {s : Script}
    {e : Injection.Error} {d : Document}
    (h : Injection.inject s { inline := config.inline, nonce := nonceFor config s p.nonces }
      p.document = (.error e, d)) :
    (injectNext config address p s).value =
      { document := d, nonces := noncesAfter p.nonces (nonceFor config s p.nonces)
        injected := p.injected, failures := p.failures ++ [e] } := by
  simp only [injectNext, h]
  rfl

lemma nonces_injectNext (config : Config) (address : Text) (p : Progress) (s : Script) :
    (injectNext config address p s).value.nonces =
      noncesAfter p.nonces (nonceFor config s p.nonces) := by
  cases h : Injection.inject s { inline := config.inline, nonce := nonceFor config s p.nonces }
      p.document with
  | mk result d' =>
    cases result with
    | ok plan => rw [injectNext_ok h]
    | error e => rw [injectNext_error h]

/-- One script more is either recorded as injected, with its element in its place, or recorded as failed, with
the document as it was. -/
theorem injectNext_cases (config : Config) (address : Text) (p : Progress) (s : Script) :
    (∃ nonce tag, (injectNext config address p s).value.injected = p.injected ++ [⟨s, nonce⟩] ∧
      (injectNext config address p s).value.failures = p.failures ∧
      HasTag config.inline ⟨s, nonce⟩ tag ∧
      (injectNext config address p s).value.document.nodes =
        (Injection.Place.find (.ofRunAt s.runAt) p.document.nodes).put (.script tag) p.document.nodes) ∨
    ∃ e, e.script = s.name ∧ (injectNext config address p s).value.injected = p.injected ∧
      (injectNext config address p s).value.failures = p.failures ++ [e] ∧
      (injectNext config address p s).value.document.nodes = p.document.nodes := by
  rcases Injection.inject_cases s { inline := config.inline, nonce := nonceFor config s p.nonces }
    p.document with ⟨plan, d', hinject, hplan, hput⟩ | ⟨e, d', hinject, he, hnodes⟩
  · rw [injectNext_ok hinject]
    exact Or.inl ⟨nonceFor config s p.nonces, plan.tag, rfl, rfl, ⟨plan, hplan, rfl⟩, hput⟩
  · rw [injectNext_error hinject]
    exact Or.inr ⟨e, he, rfl, rfl, hnodes⟩

lemma refuses_injectNext (config : Config) (address : Text) (p : Progress) (s : Script) :
    (injectNext config address p s).value.document.refuses .prependComment =
      p.document.refuses .prependComment := by
  have hinject := Injection.refuses_inject s
    { inline := config.inline, nonce := nonceFor config s p.nonces } p.document
  cases h : Injection.inject s { inline := config.inline, nonce := nonceFor config s p.nonces }
      p.document with
  | mk result d' =>
    rw [h] at hinject
    cases result with
    | ok plan =>
      rw [injectNext_ok h]
      exact hinject
    | error e =>
      rw [injectNext_error h]
      exact hinject

lemma injectEach_cons (config : Config) (address : Text) (p : Progress) (s : Script)
    (rest : List Script) :
    (injectEach config address p (s :: rest)).value =
      (injectEach config address (injectNext config address p s).value rest).value := rfl

lemma refuses_injectEach (config : Config) (address : Text) (p : Progress) (scripts : List Script) :
    (injectEach config address p scripts).value.document.refuses .prependComment =
      p.document.refuses .prependComment := by
  induction scripts generalizing p with
  | nil => rfl
  | cons s rest ih =>
    rw [injectEach_cons, ih]
    exact refuses_injectNext config address p s

/-- A run over scripts records each of them, and adds the elements of the injected ones to whatever has
been added before. -/
theorem injectEach_records (config : Config) (address : Text) (p : Progress) (scripts : List Script)
    (o : Overlay) (ho : o.whole = p.document.nodes) :
    ∃ injected failures tags, ∃ o' : Overlay,
      (injectEach config address p scripts).value.injected = p.injected ++ injected ∧
      (injectEach config address p scripts).value.failures = p.failures ++ failures ∧
      Recorded scripts injected failures ∧ List.Forall₂ (HasTag config.inline) injected tags ∧
      o'.whole = (injectEach config address p scripts).value.document.nodes ∧ o'.base = o.base ∧
      o'.additions.Perm (tags.map .script ++ o.additions) := by
  -- The overlay is the invariant: it tells the nodes of the page from those that the run has added.
  induction scripts generalizing p o with
  | nil =>
    exact ⟨[], [], [], o, (List.append_nil _).symm, (List.append_nil _).symm, .nil, .nil, ho, rfl,
      List.Perm.refl _⟩
  | cons s rest ih =>
    rw [injectEach_cons]
    rcases injectNext_cases config address p s with
      ⟨nonce, tag, hi, hf, htag, hput⟩ | ⟨e, he, hi, hf, hnodes⟩
    · obtain ⟨o₁, hw₁, hb₁, ha₁⟩ :=
        Overlay.exists_of_inserted (Nodes.insertedAt_put_find _ _ _).inserted o ho
      rw [← hput] at hw₁
      obtain ⟨injected, failures, tags, o', hi', hf', hrec, htags, hw, hb, ha⟩ := ih _ o₁ hw₁
      refine ⟨⟨s, nonce⟩ :: injected, failures, tag :: tags, o', ?_, ?_, .injected s nonce hrec,
        .cons htag htags, hw, hb.trans hb₁, ?_⟩
      · rw [hi', hi, List.append_assoc, List.singleton_append]
      · rw [hf', hf]
      · exact ha.trans ((ha₁.append_left _).trans List.perm_middle)
    · obtain ⟨injected, failures, tags, o', hi', hf', hrec, htags, hw, hb, ha⟩ :=
        ih _ o (ho.trans hnodes.symm)
      refine ⟨injected, e :: failures, tags, o', ?_, ?_, .failed he hrec, htags, hw, hb, ha⟩
      · rw [hi', hi]
      · rw [hf', hf, List.append_assoc, List.singleton_append]

/-- The additions to a page behind the elements: the comment that lists injections, where it is wanted and
the document takes it. -/
def commentFor (config : Config) (injected : List Injection) (d : Document) : List Leaf :=
  if config.listInjected = true ∧ d.refuses .prependComment = false then
    [.comment (Injection.comment injected)]
  else []

lemma listInjected_cases (config : Config) (address : Text) (injected : List Injection) (d : Document) :
    (commentFor config injected d = [] ∧ (listInjected config address injected d).value.nodes = d.nodes) ∨
      (commentFor config injected d = [.comment (Injection.comment injected)] ∧
        (listInjected config address injected d).value.nodes =
          d.nodes.putOnTop (.comment (Injection.comment injected))) := by
  by_cases hlist : config.listInjected = true
  · rcases d.call_cases .prependComment (·.putOnTop (.comment (Injection.comment injected))) with
      ⟨d', hcall, hnodes, hr⟩ | ⟨d', hcall, hnodes, hr⟩
    · have hvalue : (listInjected config address injected d).value = d' := by
        simp only [listInjected, hlist, if_true, Document.prependComment, hcall]
        rfl
      exact Or.inr ⟨if_pos ⟨hlist, hr⟩, by rw [hvalue, hnodes]⟩
    · have hvalue : (listInjected config address injected d).value = d' := by
        simp only [listInjected, hlist, if_true, Document.prependComment, hcall]
        rfl
      exact Or.inl ⟨if_neg (by simp [hr]), by rw [hvalue, hnodes]⟩
  · have hvalue : (listInjected config address injected d).value = d := by
      simp only [listInjected, hlist, Bool.false_eq_true, if_false]
      rfl
    exact Or.inl ⟨if_neg (fun h => hlist h.1), by rw [hvalue]⟩

lemma listInjected_adds (config : Config) (address : Text) (injected : List Injection)
    (d : Document) (o : Overlay) (ho : o.whole = d.nodes) :
    ∃ o' : Overlay, o'.whole = (listInjected config address injected d).value.nodes ∧
      o'.base = o.base ∧
      o'.additions.Perm (commentFor config injected d ++ o.additions) := by
  rcases listInjected_cases config address injected d with ⟨hcomment, hnodes⟩ | ⟨hcomment, hnodes⟩
  · rw [hcomment, hnodes]
    exact ⟨o, ho, rfl, List.Perm.refl _⟩
  · rw [hcomment, hnodes]
    exact Overlay.exists_of_inserted (Nodes.insertedAt_putOnTop _ _).inserted o ho

def progressOn (i : Injector) (r : Response) (d : Document) (nonces : Nonce.Supply) : Progress :=
  (injectEach i.config r.address { document := d, nonces, injected := [], failures := [] }
    ((Page.ofAddress r.address).applicable i.scripts)).value

/-- Why a response is left alone, if it is. -/
def skipReason? (config : Config) (r : Response) : Option SkipReason :=
  if r.isPage = false then some .notPage
  else if r.hasParameter config.disablingParameter = true then some .disabled
  else none

lemma process_of_skipped {i : Injector} {r : Response} {reason : SkipReason}
    (h : skipReason? i.config r = some reason) (d : Document) (nonces : Nonce.Supply) :
    (i.process r d nonces).value = (.skipped reason, d, nonces) := by
  unfold skipReason? at h
  by_cases hpage : r.isPage = false
  · rw [if_pos hpage] at h
    cases h
    simp only [process, hpage, Bool.not_false, if_true]
    rfl
  · rw [if_neg hpage] at h
    split_ifs at h with hparam
    cases h
    simp only [process, hpage, hparam, if_true]
    rfl

lemma process_of_not_skipped {i : Injector} {r : Response} (h : skipReason? i.config r = none)
    (d : Document) (nonces : Nonce.Supply) :
    (i.process r d nonces).value =
      (.processed { injected := (progressOn i r d nonces).injected
                    failures := (progressOn i r d nonces).failures
                    csp := cspUpdate i.config.cspBypass r.csp (progressOn i r d nonces).injected },
        (listInjected i.config r.address (progressOn i r d nonces).injected
          (progressOn i r d nonces).document).value,
        (progressOn i r d nonces).nonces) := by
  unfold skipReason? at h
  split_ifs at h with hpage hparam
  simp only [process, hpage, hparam]
  rfl

/-- Into a page nothing comes but the elements of the scripts on record as injected and the comment. -/
theorem progressOn_records_and_adds (i : Injector) (r : Response) (d : Document)
    (nonces : Nonce.Supply) :
    Recorded ((Page.ofAddress r.address).applicable i.scripts) (progressOn i r d nonces).injected
      (progressOn i r d nonces).failures ∧
    ∃ tags, ∃ o : Overlay,
      List.Forall₂ (HasTag i.config.inline) (progressOn i r d nonces).injected tags ∧
      o.whole = (listInjected i.config r.address (progressOn i r d nonces).injected
        (progressOn i r d nonces).document).value.nodes ∧ o.base = d.nodes ∧
      o.additions.Perm
        (tags.map .script ++ commentFor i.config (progressOn i r d nonces).injected d) := by
  obtain ⟨injected, failures, tags, o, hi, hf, hrec, htags, hw, hb, ha⟩ :=
    injectEach_records i.config r.address { document := d, nonces, injected := [], failures := [] }
      ((Page.ofAddress r.address).applicable i.scripts) (Overlay.ofNodes d.nodes)
      (Overlay.whole_ofNodes d.nodes)
  have hi : (progressOn i r d nonces).injected = injected := hi
  have hf : (progressOn i r d nonces).failures = failures := hf
  have hrefuses : (progressOn i r d nonces).document.refuses .prependComment =
      d.refuses .prependComment := refuses_injectEach _ _ _ _
  obtain ⟨o', hw', hb', ha'⟩ := listInjected_adds i.config r.address injected
    (progressOn i r d nonces).document o hw
  rw [Overlay.base_ofNodes] at hb
  rw [Overlay.additions_ofNodes, List.append_nil] at ha
  rw [hi, hf]
  refine ⟨hrec, tags, o', htags, hw', hb'.trans hb, ?_⟩
  have hcomment : commentFor i.config injected (progressOn i r d nonces).document =
      commentFor i.config injected d := by
    simp only [commentFor, hrefuses]
  rw [hcomment] at ha'
  exact ha'.trans ((ha.append_left _).trans List.perm_append_comm)

/-- A page that is left alone keeps its document. In any other, every applicable script is recorded once,
and the document is the old one with nothing added but one element for each script on record as injected,
as planned with the nonce on record, and the comment that lists them. -/
theorem process_records_and_adds (i : Injector) (r : Response) (d : Document)
    (nonces : Nonce.Supply) :
    match (i.process r d nonces).value with
    | (.skipped _, d', _) => d' = d
    | (.processed report, d', _) =>
      Recorded ((Page.ofAddress r.address).applicable i.scripts) report.injected report.failures ∧
      ∃ tags, ∃ o : Overlay, List.Forall₂ (HasTag i.config.inline) report.injected tags ∧
        o.whole = d'.nodes ∧ o.base = d.nodes ∧
        o.additions.Perm (tags.map .script ++ commentFor i.config report.injected d) := by
  cases hskip : skipReason? i.config r with
  | some reason => rw [process_of_skipped hskip]
  | none =>
    rw [process_of_not_skipped hskip]
    exact progressOn_records_and_adds i r d nonces

end Injector

end Userscript
