import Userscript.Metadata.Block

/-!
Schemas for metadata. A schema names the tags that are known and says of each whether it must occur,
whether only its first occurrence counts, what it is when it does not occur, and which values it takes.
-/

namespace Userscript.Metadata

/-- The values that a tag takes: texts or flags, of which some may be refused. -/
inductive Kind where
  | text (default : Option Text) (accepts : Text → Bool)
  | flag (default : Option Bool) (accepts : Bool → Bool)

structure Tag where
  name : Text
  /-- Only the first occurrence counts. -/
  unique : Bool
  required : Bool
  kind : Kind

abbrev Schema := List Tag

namespace Tag

def default? (tag : Tag) : Option Value :=
  match tag.kind with
  | .text default _ => default.map .text
  | .flag default _ => default.map .flag

/-- Takes a value of the tag. A tag for texts needs a text; a tag for flags takes every value as a
flag. -/
def check (tag : Tag) (value : Value) : Except Error Value :=
  match tag.kind with
  | .text _ accepts =>
    match value with
    | .flag _ => .error (.missingValue tag.name)
    | .text t => if accepts t then .ok (.text t) else .error (.invalidValue tag.name t)
  | .flag _ accepts =>
    let flag := Value.flag value.isSet
    if accepts value.isSet then .ok flag else .error (.invalidValue tag.name flag.display)

end Tag

namespace Schema

def find? (schema : Schema) (name : Text) : Option Tag := List.find? (·.name == name) schema

def isUnique (schema : Schema) (name : Text) : Bool := (schema.find? name).any (·.unique)

def missing? (schema : Schema) (m : Metadata) : Option Tag :=
  List.find? (fun tag => tag.required && !m.has tag.name) schema

/-- Keeps the first occurrence of every unique tag that has not been seen, and everything else. -/
def dropRepeats (schema : Schema) (seen : List Text) : Metadata → Metadata
  | [] => []
  | (name, value) :: rest =>
    if schema.isUnique name then
      if seen.contains name then schema.dropRepeats seen rest
      else (name, value) :: schema.dropRepeats (name :: seen) rest
    else (name, value) :: schema.dropRepeats seen rest

/-- Adds a tag's default at the end when the tag does not occur. -/
def addDefault (m : Metadata) (tag : Tag) : Metadata :=
  if m.has tag.name then m
  else match tag.default? with
    | some value => m ++ [(tag.name, value)]
    | none => m

def checkItem (schema : Schema) (item : Item) : Except Error Item :=
  match schema.find? item.1 with
  | some tag => (tag.check item.2).map fun value => (item.1, value)
  | none => .ok item

/-- Checks metadata against a schema: required tags first, then repeats go, then defaults come, and
every item is checked at last. -/
def validate (schema : Schema) (m : Metadata) : Except Error Metadata :=
  match schema.missing? m with
  | some tag => .error (.missingTag tag.name)
  | none => (schema.foldl addDefault (schema.dropRepeats [] m)).mapM schema.checkItem

def read (schema : Schema) (source : Text) : Except Error Metadata := do
  schema.validate (parse (← extract source))

end Schema

end Userscript.Metadata
