import Userscript.Json.Reader

/-!
The configuration of an injector, and how it is read from a JSON text: as an object, in which every field
may be missing, or as an array of the fields in order, whose end may be missing. A missing field has its
default.
-/

namespace Userscript

/-- What happens to the content security policy of a page. -/
inductive CspBypass where
  /-- It stays as it is. -/
  | nothing
  /-- It is changed so that the injected scripts may run. -/
  | script
  /-- It is removed. -/
  | everything
  deriving DecidableEq, Repr

namespace CspBypass

def all : List CspBypass := [nothing, script, everything]

def name : CspBypass → Text
  | nothing => "nothing".toList
  | script => "script".toList
  | everything => "everything".toList

instance : Inhabited CspBypass := ⟨script⟩

end CspBypass

structure Config where
  /-- Scripts are always copied, even those that could be linked. -/
  inline : Bool
  listInjected : Bool
  disablingParameter : Text
  cspBypass : CspBypass
  deriving DecidableEq, Repr

namespace Config

/-- The query parameter that keeps scripts out of a page when the configuration names none. -/
def defaultParameter : Text := "nouserscripts".toList

instance : Inhabited Config := ⟨⟨false, false, defaultParameter, default⟩⟩

inductive Field where
  | inline
  | listInjected
  | disablingParameter
  | cspBypass
  deriving DecidableEq, Repr

def Field.all : List Field := [inline, listInjected, disablingParameter, cspBypass]

def Field.name : Field → Text
  | inline => "inline".toList
  | listInjected => "list_injected".toList
  | disablingParameter => "query_param_to_disable".toList
  | cspBypass => "bypass_csp".toList

open Json

/-- Names between backquotes, as in a list of what was expected. -/
def quoteAll (names : List Text) : Text :=
  Text.join ", ".toList (names.map fun n => "`".toList ++ n ++ "`".toList)

def unknown (kind name : Text) (expected : List Text) : Failure :=
  .unfit ("unknown ".toList ++ kind ++ " `".toList ++ name ++ "`, expected one of ".toList ++
    quoteAll expected)

def bypassOfName (name : Text) : Except Failure CspBypass :=
  match CspBypass.all.find? (·.name == name) with
  | some b => .ok b
  | none => .error (unknown "variant".toList name (CspBypass.all.map CspBypass.name))

/-- Reads a choice for the policy: its name, or an object with null under its name. -/
def readBypass (t : Text) : Except Failure (CspBypass × Text) :=
  match skipBlanks t with
  | [] => .error .incomplete
  | c :: rest =>
    if c = '"' then do
      let (name, rest) ← stringRest rest
      .ok (← bypassOfName name, rest)
    else if c.toNat = 0x7B then do
      let (name, rest) ← string "variant identifier".toList rest
      let b ← bypassOfName name
      let rest ← null (← mark ':' rest)
      .ok (b, ← mark (Char.ofNat 0x7D) rest)
    else .error .malformed

def readField (config : Config) (t : Text) : Field → Except Failure (Config × Text)
  | .inline => (bool t).map fun (b, rest) => ({ config with inline := b }, rest)
  | .listInjected => (bool t).map fun (b, rest) => ({ config with listInjected := b }, rest)
  | .disablingParameter =>
    (string "a string".toList t).map fun (s, rest) =>
      ({ config with disablingParameter := s }, rest)
  | .cspBypass => (readBypass t).map fun (b, rest) => ({ config with cspBypass := b }, rest)

def separated (first : Bool) (t : Text) : Except Failure Text :=
  if first then .ok t else (word [','] t).map skipBlanks

/-- Reads the members of an object through its closing brace. Each of the fields left may occur once. -/
def readMembers (config : Config) (left : List Field) (first : Bool) (t : Text) :
    Except Failure (Config × Text) :=
  match skipBlanks t with
  | [] => .error .incomplete
  | c :: rest =>
    if c.toNat = 0x7D then .ok (config, rest)
    else do
      let (name, rest) ← stringRest (← word ['"'] (← separated first (c :: rest)))
      match Field.all.find? (·.name == name) with
      | none => .error (unknown "field".toList name (Field.all.map Field.name))
      | some field =>
        if _h : field ∈ left then
          let (config, rest) ← config.readField (← mark ':' rest) field
          readMembers config (left.erase field) false rest
        else .error (.unfit ("duplicate field `".toList ++ name ++ "`".toList))
termination_by left.length
decreasing_by
  have := List.length_pos_of_mem _h
  rw [List.length_erase_of_mem _h]
  omega

/-- Reads the elements of an array through its closing bracket, one for each field. -/
def readElements (config : Config) (first : Bool) :
    List Field → Text → Except Failure (Config × Text)
  | [], t => (mark ']' t).map fun rest => (config, rest)
  | field :: fields, t =>
    match skipBlanks t with
    | [] => .error .incomplete
    | ']' :: rest => .ok (config, rest)
    | t => do
      let t ← separated first t
      if t.head? = some ']' then .error .malformed
      else
        let (config, rest) ← config.readField t field
        readElements config false fields rest

def readValue (t : Text) : Except Failure (Config × Text) :=
  match skipBlanks t with
  | '[' :: rest => readElements default true Field.all rest
  | t =>
    match t.head?.map Char.toNat with
    | some 0x7B => readMembers default Field.all true (t.drop 1)
    | _ => .error (unexpected "struct Config".toList t)

def read (t : Text) : Except Failure Config := do
  let (config, rest) ← readValue t
  if (skipBlanks rest).isEmpty then .ok config else .error .malformed

def message (reason : Text) : Text := "Invalid configuration: ".toList ++ reason

end Config

end Userscript
