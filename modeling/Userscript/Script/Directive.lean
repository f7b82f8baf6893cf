import Userscript.Metadata.Schema
import Userscript.Pattern.Address
import Userscript.Pattern.Match

/-!
The directives that a script may have: their names, and the schema that its metadata must follow.
-/

namespace Userscript

/-- When a script runs: as early as possible, once the document is complete, or after the load event. -/
inductive RunAt where
  | documentStart
  | documentEnd
  | documentIdle
  deriving DecidableEq, Repr

namespace RunAt

def all : List RunAt := [documentStart, documentEnd, documentIdle]

def name : RunAt → Text
  | documentStart => "document-start".toList
  | documentEnd => "document-end".toList
  | documentIdle => "document-idle".toList

def ofName? (t : Text) : Option RunAt := all.find? (·.name == t)

/-- A script that does not say when to run runs once the document is complete. -/
instance : Inhabited RunAt := ⟨documentEnd⟩

end RunAt

namespace Directive

def name : Text := "name".toList

def version : Text := "version".toList

def runAt : Text := "run-at".toList

def matchPattern : Text := "match".toList

/-- A glob or an expression for addresses on which a script runs. -/
def includePattern : Text := "include".toList

/-- A glob or an expression for addresses on which a script does not run. -/
def excludePattern : Text := "exclude".toList

def noFrames : Text := "noframes".toList

def downloadUrl : Text := "downloadURL".toList

def isWebAddress (t : Text) : Bool :=
  (Text.after? "http://".toList t).isSome || (Text.after? "https://".toList t).isSome

def schema : Metadata.Schema := [
  { name := name, unique := true, required := true, kind := .text none fun t => !t.isEmpty },
  { name := runAt, unique := true, required := false,
    kind := .text (some RunAt.documentEnd.name) fun t => (RunAt.ofName? t).isSome },
  { name := matchPattern, unique := false, required := false,
    kind := .text none MatchPattern.isValid },
  { name := noFrames, unique := true, required := false, kind := .flag (some false) fun _ => true },
  { name := includePattern, unique := false, required := false,
    kind := .text none AddressPattern.isCandidate },
  { name := excludePattern, unique := false, required := false,
    kind := .text none AddressPattern.isCandidate },
  { name := version, unique := true, required := false, kind := .text none fun _ => true },
  { name := downloadUrl, unique := true, required := false, kind := .text none isWebAddress }
]

end Directive

end Userscript
