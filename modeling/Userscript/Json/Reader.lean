import Userscript.Json.Double
import Userscript.Text.Quote
import Userscript.Text.Utf8

/-!
Reading values of the JSON notation. The reader knows which kind of value it wants and reads no further
than needed to see that it gets another one. What follows a value is given back with it.
-/

namespace Userscript.Json

/-- Why a value cannot be read. -/
inductive Failure where
  /-- The text ends too early. -/
  | incomplete
  /-- The text does not follow the notation. -/
  | malformed
  /-- The value is not of the kind that is wanted. -/
  | unfit (reason : Text)
  deriving DecidableEq, Repr

def isBlank (c : Char) : Bool := c == ' ' || c == '\n' || c == '\t' || c == '\r'

def skipBlanks (t : Text) : Text := t.dropWhile isBlank

def word : (expected : Text) → Text → Except Failure Text
  | [], t => .ok t
  | _ :: _, [] => .error .incomplete
  | e :: es, c :: rest => if c = e then word es rest else .error .malformed

/-- Reads four hexadecimal digits. The notation counts bytes: where four are missing, it ends too
early. -/
def hexDigits (t : Text) : Except Failure Nat :=
  if (Text.utf8 (t.take 4)).length < 4 then .error .incomplete
  else match Text.digitsValue? 16 (t.take 4) with
    | some n => .ok n
    | none => .error .malformed

def simpleEscape? (c : Char) : Option Char :=
  if c = '"' ∨ c = '\\' ∨ c = '/' then some c
  else if c = 'b' then some (Char.ofNat 8)
  else if c = 'f' then some (Char.ofNat 12)
  else if c = 'n' then some '\n'
  else if c = 'r' then some '\r'
  else if c = 't' then some '\t'
  else none

/-- Reads an escape behind its backslash: the character and the length of the escape. A character
beyond four digits is written as two halves. -/
def escapeLetter : Text → Except Failure (Char × Nat)
  | [] => .error .incomplete
  | 'u' :: rest => do
    let n ← hexDigits rest
    if n < 0xD800 ∨ 0xDFFF < n then .ok (Char.ofNat n, 5)
    else if 0xDC00 ≤ n then .error .malformed
    else match rest.drop 4 with
      | '\\' :: 'u' :: rest => do
        let m ← hexDigits rest
        if 0xDC00 ≤ m ∧ m ≤ 0xDFFF then
          .ok (Char.ofNat (0x10000 + (n - 0xD800) * 0x400 + (m - 0xDC00)), 11)
        else .error .malformed
      | [] | ['\\'] => .error .incomplete
      | _ => .error .malformed
  | c :: _ =>
    match simpleEscape? c with
    | some d => .ok (d, 1)
    | none => .error .malformed

def stringRest (t : Text) : Except Failure (Text × Text) :=
  match t with
  | [] => .error .incomplete
  | c :: rest =>
    if c = '"' then .ok ([], rest)
    else if c = '\\' then
      match escapeLetter rest with
      | .error e => .error e
      | .ok (d, n) => (stringRest (rest.drop n)).map fun (s, t) => (d :: s, t)
    else if c.toNat < 32 then .error .malformed
    else (stringRest rest).map fun (s, t) => (c :: s, t)
termination_by t.length
decreasing_by all_goals simp_all; try omega

inductive Number where
  | whole (negative : Bool) (n : Nat)
  | fraction (negative : Bool) (x : Double)

def Number.text : Number → Text
  | whole negative n => (if negative then ['-'] else []) ++ Text.ofNat n
  | fraction negative x => (if negative then ['-'] else []) ++ x.text

/-- The largest number that is kept digit by digit. Further digits only count. -/
def largestWhole : Nat := Nat.pow 2 64 - 1

/-- The value of digits behind a value, and how many digits did not fit. -/
def wholePart (n extra : Nat) : Text → Nat × Nat
  | [] => (n, extra)
  | c :: rest =>
    if extra = 0 ∧ n * 10 + (c.toNat - 48) ≤ largestWhole then
      wholePart (n * 10 + (c.toNat - 48)) 0 rest
    else wholePart n (extra + 1) rest

/-- The value of digits behind the point, and how many digits were taken. Those that do not fit are
left out. -/
def fractionPart (n taken : Nat) : Text → Nat × Nat
  | [] => (n, taken)
  | c :: rest =>
    if n * 10 + (c.toNat - 48) ≤ largestWhole then
      fractionPart (n * 10 + (c.toNat - 48)) (taken + 1) rest
    else (n, taken)

def digits (t : Text) : Except Failure (Text × Text) :=
  match t with
  | [] => .error .incomplete
  | c :: _ =>
    if Text.isDigit c then
      let ds := t.takeWhile Text.isDigit
      .ok (ds, t.drop ds.length)
    else .error .malformed

def exponent? (t : Text) : Except Failure (Option Int) :=
  match t with
  | [] => .ok none
  | c :: rest =>
    if c = 'e' ∨ c = 'E' then do
      let (negative, rest) := match rest with
        | '-' :: rest => (true, rest)
        | '+' :: rest => (false, rest)
        | rest => (false, rest)
      let (ds, _) ← digits rest
      let n : Int := (Text.digitsValue? 10 ds).getD 0
      .ok (some (if negative then -n else n))
    else .ok none

def fraction (negative : Bool) (n : Nat) (exponent : Int) : Except Failure Number :=
  match Double.ofDecimal? n exponent with
  | some x => .ok (.fraction negative x)
  | none => .error .malformed

/-- A number without fraction and exponent. One that does not fit into 64 bits is rounded, and so is a
negative zero. -/
def wholeNumber (negative : Bool) (n extra : Nat) : Except Failure Number :=
  if extra = 0 ∧ (negative = false ∨ (0 < n ∧ n ≤ Nat.pow 2 63)) then .ok (.whole negative n)
  else fraction negative n extra

/-- Reads a number behind its sign. A zero in front stands alone. -/
def number (negative : Bool) (t : Text) : Except Failure Number := do
  let (ds, rest) ← digits t
  if ds.head? = some '0' ∧ ds.length ≠ 1 then .error .malformed
  else
    let (n, extra) := wholePart 0 0 ds
    match rest with
    | '.' :: rest =>
      let (ds, rest) ← digits rest
      let (n, taken) := fractionPart n 0 ds
      fraction negative n (extra - taken + ((← exponent? rest).getD 0))
    | rest =>
      match ← exponent? rest with
      | some e => fraction negative n (extra + e)
      | none => wholeNumber negative n extra

def unfitType (found expected : Text) : Failure :=
  .unfit ("invalid type: ".toList ++ found ++ ", expected ".toList ++ expected)

/-- What stands at the start of a text, as far as that can be said. -/
def found (t : Text) : Except Failure Text :=
  let quoted (kind value : Text) : Text := kind ++ " `".toList ++ value ++ "`".toList
  match t with
  | [] => .error .incomplete
  | c :: rest =>
    if c = 'n' then (word "ull".toList rest).map fun _ => "null".toList
    else if c = 't' then
      (word "rue".toList rest).map fun _ => quoted "boolean".toList "true".toList
    else if c = 'f' then
      (word "alse".toList rest).map fun _ => quoted "boolean".toList "false".toList
    else if c = '"' then (stringRest rest).map fun s => "string ".toList ++ Text.quoted s.1
    else if c = '[' then .ok "sequence".toList
    else if c.toNat = 0x7B then .ok "map".toList
    else if c = '-' ∨ Text.isDigit c then
      (if c = '-' then number true rest else number false t).map fun n =>
        match n with
        | .whole .. => quoted "integer".toList n.text
        | .fraction .. => quoted "floating point".toList n.text
    else .error .malformed

def unexpected (expected t : Text) : Failure :=
  match found t with
  | .ok value => unfitType value expected
  | .error e => e

def bool (t : Text) : Except Failure (Bool × Text) :=
  match skipBlanks t with
  | 't' :: rest => (word "rue".toList rest).map fun rest => (true, rest)
  | 'f' :: rest => (word "alse".toList rest).map fun rest => (false, rest)
  | t => .error (unexpected "a boolean".toList t)

def string (expected t : Text) : Except Failure (Text × Text) :=
  match skipBlanks t with
  | '"' :: rest => stringRest rest
  | t => .error (unexpected expected t)

def null (t : Text) : Except Failure Text :=
  match skipBlanks t with
  | 'n' :: rest => word "ull".toList rest
  | t => .error (unexpected "unit".toList t)

def mark (c : Char) (t : Text) : Except Failure Text := word [c] (skipBlanks t)

end Userscript.Json
