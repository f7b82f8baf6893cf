import Userscript.About
import Userscript.Injection.Tag
import Userscript.Script.Basic

/-!
What becomes of a script in a document. A script is copied into the page, or linked by its download
address, or linked by a piece of code that makes the link when the page runs. The last is needed when
the script waits for the load event or stays out of frames, which a plain link cannot express.
-/

namespace Userscript

namespace Injection

/-- How a script gets into a document. -/
inductive Mode where
  /-- The script is copied. -/
  | inline
  /-- Code in the document links the script. -/
  | bootstrap
  /-- The element links the script. -/
  | linked
  deriving DecidableEq, Repr

namespace Mode

def carriesCode : Mode → Bool
  | linked => false
  | _ => true

def display : Mode → Text
  | inline => "inline".toList
  | _ => "linked".toList

def ofScript (alwaysInline : Bool) (s : Script) : Mode :=
  if alwaysInline || s.downloadUrl.isNone then inline
  else if s.runAt == .documentIdle || s.noFrames then bootstrap
  else linked

end Mode

inductive Placement where
  | early
  | late
  deriving DecidableEq, Repr

def Placement.ofRunAt : RunAt → Placement
  | .documentEnd => late
  | .documentStart | .documentIdle => early

structure Options where
  /-- Scripts are always copied, even those that could be linked. -/
  inline : Bool
  /-- The nonce for elements that hold code. -/
  nonce : Option Text
  deriving DecidableEq, Repr

structure Plan where
  mode : Mode
  placement : Placement
  tag : ScriptTag
  deriving DecidableEq, Repr

/-- A script cannot be copied because of these sequences in it. -/
structure Refusal where
  script : Text
  sequences : List Text
  deriving DecidableEq, Repr

namespace Refusal

def message (r : Refusal) : Text :=
  r.script ++ " cannot be injected inline because it contains unsafe sequences: ".toList ++
    Text.join ", ".toList r.sequences

def remedy : Text :=
  "<script> tags cannot contain any of these sequences (case-insensitive):\n".toList ++
  (Markup.unsafeSequences.flatMap fun s => "    ".toList ++ s ++ ['\n']) ++
  "Possible solutions:\n".toList ++
  "    • Make sure the userscript does not contain any of the sequences listed above.\n".toList ++
  "    • Make the userscript available online and give it a @".toList ++ Directive.downloadUrl ++
  ".\n".toList ++
  "    • Turn off always-inline injection.\n".toList

end Refusal

/-- The attribute with the version of the proxy, which every inserted element has. -/
def versionAttribute : Text := "data-userscript-proxy-version".toList

def quoteChar (c : Char) : Text :=
  if c = '"' then "\\\"".toList
  else if c = '\\' then "\\\\".toList
  else if c = '\n' then "\\n".toList
  else if c = '\r' then "\\r".toList
  else if c = '\t' then "\\t".toList
  else if c.toNat = 8 then "\\b".toList
  else if c.toNat = 12 then "\\f".toList
  else if c.toNat < 16 then "\\u000".toList ++ Text.hexOfNat c.toNat
  else if c.toNat < 32 then "\\u00".toList ++ Text.hexOfNat c.toNat
  else if c = '<' then "\\u003c".toList
  else [c]

/-- A text as a literal of script code. No `<` is left in it, so that it cannot end the element around
it. -/
def quote (t : Text) : Text := '"' :: t.flatMap quoteChar ++ ['"']

/-- Code that waits for the load event. -/
def afterLoad (code : Text) : Text :=
  "window.addEventListener(\"load\", function() \x7b\n".toList ++ code ++ "\n\x7d);".toList

def outsideFrames (code : Text) : Text :=
  "if (window.top === window) \x7b // @".toList ++ Directive.noFrames ++ ['\n'] ++ code ++
    "\n\x7d".toList

def whenIdle (s : Script) (code : Text) : Text :=
  if s.runAt = .documentIdle then afterLoad code else code

def guardFrames (s : Script) (code : Text) : Text := if s.noFrames then outsideFrames code else code

def bootstrapCode (s : Script) (address : Text) (nonce : Option Text) : Text :=
  guardFrames s <|
    "const s = document.createElement(\"script\");\n".toList ++
    "s.setAttribute(".toList ++ quote versionAttribute ++ ", ".toList ++ quote About.version ++
    ");\n".toList ++
    "s.src = ".toList ++ quote address ++ ";\n".toList ++
    (match nonce with
      | some nonce => "s.nonce = ".toList ++ quote nonce ++ ";\n".toList
      | none => []) ++
    whenIdle s "document.head.appendChild(s);".toList

def inlineCode (s : Script) : Text := '\n' :: guardFrames s (whenIdle s s.source)

def bareTag : ScriptTag := ScriptTag.blank.set versionAttribute About.version

def withNonce (tag : ScriptTag) : Option Text → ScriptTag
  | some nonce => tag.set "nonce".toList nonce
  | none => tag

/-- Plans the injection of a script. A script with unsafe sequences is not copied. -/
def plan (s : Script) (o : Options) : Except Refusal Plan :=
  let mode := Mode.ofScript o.inline s
  let placement := Placement.ofRunAt s.runAt
  match mode, s.versionedDownloadUrl? with
  | .linked, some address =>
    .ok { mode, placement, tag := bareTag.set "src".toList address }
  | .bootstrap, some address =>
    let tag := { bareTag with text := some (bootstrapCode s address o.nonce) }
    .ok { mode, placement, tag := withNonce tag o.nonce }
  | _, _ =>
    if s.unsafeSequences.isEmpty then
      let tag := { bareTag with text := some (inlineCode s) }
      .ok { mode, placement, tag := withNonce tag o.nonce }
    else .error { script := s.name, sequences := s.unsafeSequences }

end Injection

end Userscript
