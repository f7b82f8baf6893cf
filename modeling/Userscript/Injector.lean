import Userscript.Config
import Userscript.Csp
import Userscript.Injection.Insert
import Userscript.Nonce
import Userscript.Script.Applicability

/-!
Injecting scripts into a response. A response that is no page, or whose address asks for it, is left
alone. Into any other, the scripts that run on the page are injected one after another; one that cannot
be injected does not keep the others out. At the end a comment may list what has been injected, and the
policy of the page is changed so that it can run.
-/

namespace Userscript

structure Response where
  address : Text
  contentType : Option Text
  csp : Option Text
  deriving DecidableEq, Repr

namespace Response

/-- The types of content that are pages. -/
def pageTypes : List Text := ["text/html".toList, "application/xhtml+xml".toList]

def isPage (r : Response) : Bool :=
  r.contentType.any fun t => pageTypes.any fun page => Text.hasPhrase page (Text.lower t)

def hasParameter (r : Response) (name : Text) : Bool :=
  (Url.parse? r.address).any (·.hasParameter name)

end Response

inductive SkipReason where
  | notPage
  | disabled
  deriving DecidableEq, Repr

inductive CspUpdate where
  | unchanged
  | changed (header : Text)
  | removed
  deriving DecidableEq, Repr

structure InjectionReport where
  /-- The scripts that have been injected, in order. -/
  injected : List Injection
  /-- The scripts that have not, in order. -/
  failures : List Injection.Error
  csp : CspUpdate

inductive Outcome where
  | skipped (reason : SkipReason)
  | processed (report : InjectionReport)

namespace Injection

def comment (injected : List Injection) : Text :=
  let body :=
    if injected.isEmpty then "No matching userscripts for this URL.".toList
    else "These scripts were inserted:\n".toList ++
      Text.join ['\n'] (injected.map fun i => "    • ".toList ++ i.script.displayName)
  "\n[".toList ++ About.name ++ " v".toList ++ About.version ++ "]\n".toList ++ body ++ ['\n']

end Injection

structure Injector where
  config : Config
  scripts : List Script

namespace Injector

structure Progress where
  document : Document
  nonces : Nonce.Supply
  injected : List Injection
  failures : List Injection.Error

/-- Builds an injector and reports what it will do. -/
def build (config : Config) (scripts : List Script) : Logged Injector := do
  if config.inline then .record .warn "Only inline injection will be used".toList
  .record .info
    ("Userscripts will not be injected when the request URL contains a `".toList ++
      config.disablingParameter ++ "` query parameter".toList)
  return { config, scripts }

/-- The next nonce, when the element for a script needs one. -/
def nonceFor (config : Config) (s : Script) (nonces : Nonce.Supply) : Option Text :=
  if (Injection.Mode.ofScript config.inline s).carriesCode && config.cspBypass == .script then
    some nonces.next
  else none

/-- The nonces left after a script. A nonce is spent when it is drawn, whatever becomes of the script. -/
def noncesAfter (nonces : Nonce.Supply) : Option Text → Nonce.Supply
  | none => nonces
  | some _ => nonces.spend

def injectNext (config : Config) (address : Text) (p : Progress) (s : Script) :
    Logged Progress := do
  let nonce := nonceFor config s p.nonces
  let nonces := noncesAfter p.nonces nonce
  .record .info ("Injecting ".toList ++ s.displayName ++ " into ".toList ++ address ++
    " (".toList ++ (Injection.Mode.ofScript config.inline s).display ++ ") ...".toList)
  let (result, document) := Injection.inject s { inline := config.inline, nonce } p.document
  match result with
  | .ok _ =>
    return { p with document, nonces, injected := p.injected ++ [{ script := s, nonce }] }
  | .error e =>
    .record .error e.advice
    return { p with document, nonces, failures := p.failures ++ [e] }

def injectEach (config : Config) (address : Text) : Progress → List Script → Logged Progress
  | p, [] => pure p
  | p, s :: rest => do
    let p ← injectNext config address p s
    injectEach config address p rest

/-- Puts the list of injections into the document, if it is wanted. -/
def listInjected (config : Config) (address : Text) (injected : List Injection) (d : Document) :
    Logged Document :=
  if config.listInjected then
    match d.prependComment (Injection.comment injected) with
    | (.ok (), d) => pure d
    | (.error o, d) => do
      .record .error ("Could not insert the information comment into ".toList ++ address ++
        ": ".toList ++ o.refusal)
      return d
  else pure d

def cspUpdate (bypass : CspBypass) (header : Option Text) (injected : List Injection) : CspUpdate :=
  match header, bypass with
  | none, _ | some _, .nothing => .unchanged
  | some _, .everything => .removed
  | some header, .script =>
    if injected.isEmpty then .unchanged else .changed (Csp.extendHeader header injected)

def processPage (i : Injector) (r : Response) (d : Document) (nonces : Nonce.Supply) :
    Logged (Outcome × Document × Nonce.Supply) := do
  let start : Progress := { document := d, nonces, injected := [], failures := [] }
  let p ← injectEach i.config r.address start ((Page.ofAddress r.address).applicable i.scripts)
  let d ← listInjected i.config r.address p.injected p.document
  let csp := cspUpdate i.config.cspBypass r.csp p.injected
  return (.processed { injected := p.injected, failures := p.failures, csp }, d, p.nonces)

/-- Injects into a response, and gives what has been done with the document and the nonces left. -/
def process (i : Injector) (r : Response) (d : Document) (nonces : Nonce.Supply) :
    Logged (Outcome × Document × Nonce.Supply) := do
  if !r.isPage then
    .record .debug ("Skipping ".toList ++ r.address ++ ": not an HTML response".toList)
    return (.skipped .notPage, d, nonces)
  else if r.hasParameter i.config.disablingParameter then
    .record .info ("Not injecting any userscripts into ".toList ++ r.address ++
      " because it contains a `".toList ++ i.config.disablingParameter ++
      "` query parameter".toList)
    return (.skipped .disabled, d, nonces)
  else processPage i r d nonces

end Injector

end Userscript
