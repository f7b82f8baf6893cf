import Userscript.Log
import Userscript.Script.Directive
import Userscript.Script.Markup

/-!
Scripts as they are used: built once from their source text, with all that their metadata says.
-/

namespace Userscript

structure Script where
  name : Text
  version : Option Text
  source : Text
  runAt : RunAt
  noFrames : Bool
  matchPatterns : List MatchPattern
  includePatterns : List AddressPattern
  excludePatterns : List AddressPattern
  downloadUrl : Option Text
  /-- The sequences in the source that keep the script from being injected inline. -/
  unsafeSequences : List Text
  deriving BEq

namespace Script

/-- Compiles the patterns of a script, one after another. A broken pattern is reported and left out. -/
def compilePatterns (script : Text) : List Text → Logged (List AddressPattern)
  | [] => pure []
  | source :: rest => do
    match AddressPattern.compile source with
    | .ok p => return p :: (← compilePatterns script rest)
    | .error e =>
      .record .warn (script ++ ": dropping pattern. ".toList ++ e.message)
      compilePatterns script rest

def ofMetadata (source : Text) (m : Metadata) : Logged Script := do
  let name := (m.firstText? Directive.name).getD []
  let includePatterns ← compilePatterns name (m.texts Directive.includePattern)
  let excludePatterns ← compilePatterns name (m.texts Directive.excludePattern)
  return {
    name, source, includePatterns, excludePatterns
    version := m.firstText? Directive.version
    runAt := ((m.firstText? Directive.runAt).bind RunAt.ofName?).getD default
    noFrames := (m.first? Directive.noFrames).any Metadata.Value.isSet
    matchPatterns := (m.texts Directive.matchPattern).filterMap MatchPattern.parse?
    downloadUrl := m.firstText? Directive.downloadUrl
    unsafeSequences := Markup.unsafeIn source
  }

def parse (source : Text) : Logged (Except Metadata.Error Script) :=
  match Directive.schema.read source with
  | .ok m => .ok <$> ofMetadata source m
  | .error e => pure (.error e)

def displayName (s : Script) : Text :=
  match s.version with
  | some version => s.name ++ " v".toList ++ version
  | none => s.name

/-- The address from which the script can be had, marked with the version if there is one. -/
def versionedDownloadUrl? (s : Script) : Option Text :=
  s.downloadUrl.map fun url =>
    match s.version with
    | some version => url ++ "?v=".toList ++ version
    | none => url

end Script

end Userscript
