import Userscript.Injection.Tag

/-!
Documents. The nodes of a document are a forest: each node is followed by its later siblings, and an
element holds the nodes below it. Nodes are numbered nowhere; a place in a document is given by what
stands there.

A document may refuse operations. It says in advance which ones: the n-th call of an operation, or every
call.
-/

namespace Userscript

inductive Leaf where
  | doctype
  | text (t : Text)
  | comment (t : Text)
  | script (tag : ScriptTag)
  deriving DecidableEq, Repr

def Leaf.isScript : Leaf → Bool
  | script _ => true
  | _ => false

/-- The nodes from one node of a document to the last of its siblings, with everything below them. -/
inductive Nodes where
  | nil
  | leaf (l : Leaf) (rest : Nodes)
  | element (name : Text) (children rest : Nodes)
  deriving DecidableEq, Repr

namespace Nodes

def below? (name : Text) : Nodes → Option Nodes
  | nil => none
  | leaf _ rest => rest.below? name
  | element n children rest =>
    if n = name then some children else (children.below? name).or (rest.below? name)

def has (name : Text) (t : Nodes) : Bool := (t.below? name).isSome

def hasElement : Nodes → Bool
  | nil => false
  | leaf l rest => l.isScript || rest.hasElement
  | element .. => true

def putLast (new : Leaf) : Nodes → Nodes
  | nil => leaf new nil
  | leaf l rest => leaf l (rest.putLast new)
  | element n children rest => element n children (rest.putLast new)

def putBeforeElement (new : Leaf) : Nodes → Nodes
  | nil => nil
  | leaf l rest =>
    if l.isScript then leaf new (leaf l rest) else leaf l (rest.putBeforeElement new)
  | element n children rest => leaf new (element n children rest)

def putAfter (name : Text) (new : Leaf) : Nodes → Nodes
  | nil => nil
  | leaf l rest => leaf l (rest.putAfter name new)
  | element n children rest =>
    if n = name then element n children (leaf new rest)
    else if children.has name then element n (children.putAfter name new) rest
    else element n children (rest.putAfter name new)

def changeBelow (name : Text) (f : Nodes → Nodes) : Nodes → Nodes
  | nil => nil
  | leaf l rest => leaf l (rest.changeBelow name f)
  | element n children rest =>
    if n = name then element n (f children) rest
    else if children.has name then element n (children.changeBelow name f) rest
    else element n children (rest.changeBelow name f)

/-- Puts a node first, or second when a document type comes first. -/
def putOnTop (new : Leaf) : Nodes → Nodes
  | leaf .doctype rest => leaf .doctype (leaf new rest)
  | t => leaf new t

end Nodes

namespace Document

inductive Operation where
  | createScript
  | insertBefore
  | insertAfter
  | append
  | prependComment
  deriving DecidableEq, Repr

namespace Operation

def name : Operation → Text
  | createScript => "create_script".toList
  | insertBefore => "insert_before".toList
  | insertAfter => "insert_after".toList
  | append => "append".toList
  | prependComment => "prepend_comment".toList

def refusal (o : Operation) : Text := o.name ++ " refused".toList

end Operation

end Document

structure Document where
  nodes : Nodes
  /-- The calls that are refused, counted from one for each operation; zero stands for every call. -/
  refused : List (Document.Operation × Nat)
  /-- The calls made so far, the latest first. -/
  calls : List Document.Operation
  deriving DecidableEq, Repr

namespace Document

def fresh (nodes : Nodes) (refused : List (Operation × Nat)) : Document := ⟨nodes, refused, []⟩

def refuses (d : Document) (o : Operation) : Bool :=
  d.refused.any fun r => r.1 == o && (r.2 == 0 || r.2 == d.calls.count o + 1)

/-- Calls an operation with a change of the nodes. A refused call counts but changes nothing. -/
def call (d : Document) (o : Operation) (change : Nodes → Nodes) :
    Except Operation Unit × Document :=
  if d.refuses o then (.error o, { d with calls := o :: d.calls })
  else (.ok (), { d with nodes := change d.nodes, calls := o :: d.calls })

def prependComment (d : Document) (t : Text) : Except Operation Unit × Document :=
  d.call .prependComment (·.putOnTop (.comment t))

end Document

end Userscript
