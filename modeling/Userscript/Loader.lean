import Userscript.Injection.Insert

/-!
Loading scripts. Each source has a label, such as the name of its file, which appears in records and
failures only. A broken source does not keep the others from loading.
-/

namespace Userscript

namespace Loader

structure Failure where
  label : Text
  error : Metadata.Error
  deriving DecidableEq, Repr

/-- What has been loaded, in the order of the sources. -/
structure Report where
  labels : List Text
  loaded : List Script
  failures : List Failure

def Report.empty : Report := ⟨[], [], []⟩

def Report.scripts (r : Report) : List (Text × Script) := r.labels.zip r.loaded

def Report.isClean (r : Report) : Bool := r.failures.isEmpty

/-- Reports a script that can never be injected: it has no download address, so that it could only be
copied, and it must not be copied. -/
def warnIfUseless (s : Script) : Logged Unit :=
  if s.downloadUrl.isNone && !s.unsafeSequences.isEmpty then
    .record .warn (Injection.Error.unsafeContent ⟨s.name, s.unsafeSequences⟩).advice
  else pure ()

def Report.add (r : Report) (label source : Text) : Logged Report := do
  .record .info ("Loading ".toList ++ label ++ " ...".toList)
  match ← Script.parse source with
  | .ok s =>
    warnIfUseless s
    return { r with labels := r.labels ++ [label], loaded := r.loaded ++ [s] }
  | .error e =>
    .record .error ("Metadata error in ".toList ++ label ++ ": ".toList ++ e.message)
    return { r with failures := r.failures ++ [⟨label, e⟩] }

def loadEach (r : Report) : List (Text × Text) → Logged Report
  | [] => pure r
  | (label, source) :: rest => do
    let r ← r.add label source
    loadEach r rest

def listScripts : List (Text × Script) → Logged Unit
  | [] => pure ()
  | (label, s) :: rest => do
    .record .info ("    • ".toList ++ s.displayName ++ " (".toList ++ label ++ [')'])
    listScripts rest

def load (sources : List (Text × Text)) : Logged Report := do
  let report ← loadEach .empty sources
  .record .info (Text.ofNat report.loaded.length ++ " userscript(s) loaded".toList)
  listScripts report.scripts
  return report

end Loader

end Userscript
