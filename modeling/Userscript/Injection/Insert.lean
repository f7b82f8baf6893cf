import Userscript.Injection.Document
import Userscript.Injection.Plan

/-!
Inserting planned elements. An early script goes before the first element of the body. Without one it
goes behind the title, without a title before the first element of the document, and without any element
to the end of the document. A late script goes to the end of the body, or of the document without a body.
-/

namespace Userscript

namespace Injection

inductive Place where
  | beforeBodyContent
  | afterTitle
  | beforeContent
  | endOfBody
  | endOfDocument
  deriving DecidableEq, Repr

namespace Place

def body : Text := "body".toList

def title : Text := "title".toList

def early (t : Nodes) : Place :=
  if (t.below? body).any (·.hasElement) then beforeBodyContent
  else if t.has title then afterTitle
  else if t.hasElement then beforeContent
  else endOfDocument

def late (t : Nodes) : Place := if t.has body then endOfBody else endOfDocument

def find : Placement → Nodes → Place
  | .early => early
  | .late => late

/-- The operation that puts a node in a place. -/
def operation : Place → Document.Operation
  | beforeBodyContent | beforeContent => .insertBefore
  | afterTitle => .insertAfter
  | endOfBody | endOfDocument => .append

def put (new : Leaf) : Place → Nodes → Nodes
  | beforeBodyContent, t => t.changeBelow body (·.putBeforeElement new)
  | afterTitle, t => t.putAfter title new
  | beforeContent, t => t.putBeforeElement new
  | endOfBody, t => t.changeBelow body (·.putLast new)
  | endOfDocument, t => t.putLast new

end Place

/-- Makes the planned element and inserts it. An element that cannot be inserted is dropped. -/
def Plan.apply (p : Plan) (d : Document) : Except Document.Operation Unit × Document :=
  match d.call .createScript id with
  | (.error o, d) => (.error o, d)
  | (.ok (), d) =>
    let place := Place.find p.placement d.nodes
    d.call place.operation (place.put (.script p.tag))

/-- Why a script is not injected. -/
inductive Error where
  | unsafeContent (r : Refusal)
  | failed (script : Text) (o : Document.Operation)
  deriving DecidableEq, Repr

namespace Error

def script : Error → Text
  | unsafeContent r => r.script
  | failed script _ => script

def message : Error → Text
  | unsafeContent r => r.message
  | failed script o =>
    "Injecting ".toList ++ script ++ " failed: ".toList ++ o.refusal

def remedy? : Error → Option Text
  | unsafeContent _ => some Refusal.remedy
  | failed .. => none

def advice (e : Error) : Text :=
  match e.remedy? with
  | some remedy => e.message ++ '\n' :: remedy
  | none => e.message

end Error

/-- Plans and performs the injection of a script. -/
def inject (s : Script) (o : Options) (d : Document) : Except Error Plan × Document :=
  match plan s o with
  | .error r => (.error (.unsafeContent r), d)
  | .ok p =>
    match p.apply d with
    | (.error operation, d) => (.error (.failed s.name operation), d)
    | (.ok (), d) => (.ok p, d)

end Injection

end Userscript
