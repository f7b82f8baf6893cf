import Userscript.Text.Basic

/-!
The metadata of a script: tags with values, in the order in which they are written. A tag may occur any
number of times.
-/

namespace Userscript

namespace Metadata

/-- The value of a tag. A tag without a value is a flag. -/
inductive Value where
  | text (t : Text)
  | flag (b : Bool)
  deriving DecidableEq, Repr

namespace Value

def text? : Value → Option Text
  | text t => some t
  | flag _ => none

/-- The value as a flag: everything counts as true but the false flag. -/
def isSet : Value → Bool
  | flag false => false
  | _ => true

def display : Value → Text
  | text t => t
  | flag true => "true".toList
  | flag false => "false".toList

end Value

abbrev Item := Text × Value

inductive Error where
  | noBlock
  | invalidLine (line : Text)
  | missingTag (tag : Text)
  | missingValue (tag : Text)
  | invalidValue (tag value : Text)
  deriving DecidableEq, Repr

def Error.message : Error → Text
  | noBlock =>
    "No metadata block found. It must start with `// ==UserScript==`".toList ++
      " and end with `// ==/UserScript==`".toList
  | invalidLine line =>
    "Invalid metadata line `".toList ++ line ++
      "`. Only comments are allowed, like `// @key value`".toList
  | missingTag tag =>
    "The @".toList ++ tag ++ " metadata directive is required, but was not found".toList
  | missingValue tag =>
    "The @".toList ++ tag ++ " metadata directive requires a value, like `// @".toList ++ tag ++
      " something`".toList
  | invalidValue tag value =>
    "Detected a @".toList ++ tag ++ " metadata directive with an invalid value: ".toList ++ value

end Metadata

abbrev Metadata := List Metadata.Item

namespace Metadata

def has (m : Metadata) (tag : Text) : Bool := m.any (·.1 == tag)

def all (m : Metadata) (tag : Text) : List Value := (m.filter (·.1 == tag)).map (·.2)

def first? (m : Metadata) (tag : Text) : Option Value := (m.find? (·.1 == tag)).map (·.2)

/-- The first value of a tag when it is a text. -/
def firstText? (m : Metadata) (tag : Text) : Option Text := (m.first? tag).bind Value.text?

def texts (m : Metadata) (tag : Text) : List Text := (m.all tag).filterMap Value.text?

end Metadata

end Userscript
