import Userscript.Text.Basic

/-!
Script elements: attributes in order, each name once, and perhaps a text.
-/

namespace Userscript

structure ScriptTag where
  attributes : List (Text × Text)
  text : Option Text
  deriving DecidableEq, Repr

namespace ScriptTag

def blank : ScriptTag := ⟨[], none⟩

def get? (tag : ScriptTag) (name : Text) : Option Text :=
  (tag.attributes.find? (·.1 == name)).map (·.2)

/-- Gives an attribute a value in a list of attributes. A new one goes to the end. -/
def setIn (name value : Text) : List (Text × Text) → List (Text × Text)
  | [] => [(name, value)]
  | (n, v) :: rest => if n = name then (n, value) :: rest else (n, v) :: setIn name value rest

def set (tag : ScriptTag) (name value : Text) : ScriptTag :=
  { tag with attributes := setIn name value tag.attributes }

@[simp] theorem text_set (tag : ScriptTag) (name value : Text) : (tag.set name value).text = tag.text := rfl

end ScriptTag

end Userscript
