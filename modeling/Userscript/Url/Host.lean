import Userscript.Url.Idna
import Userscript.Url.Percent

/-!
Hosts. In web addresses a host between brackets is an address of version 6, a host whose last label is a
number an address of version 4, and any other host a domain name. Elsewhere a host is a name that is
kept as written, percent-encoded.
-/

namespace Userscript.Url

inductive Host where
  | domain (name : Text)
  | ipv4 (address : Nat)
  /-- The eight pieces of the address. -/
  | ipv6 (pieces : List Nat)
  deriving DecidableEq, Repr

/-- Reads a number of an address: hexadecimal after `0x`, octal after `0`, decimal otherwise. The prefix
alone is zero. -/
def ipv4Number? (t : Text) : Option Nat :=
  let value (base : Nat) (digits : Text) : Option Nat :=
    if digits.isEmpty then some 0 else Text.digitsValue? base digits
  match t with
  | [] => none
  | '0' :: 'x' :: r | '0' :: 'X' :: r => value 16 r
  | '0' :: c :: r => value 8 (c :: r)
  | t => value 10 t

/-- Whether the last label of a name, a final empty one left out, is a number. -/
def endsInNumber (name : Text) : Bool :=
  let labels := (Text.splitOn '.' name).reverse
  let last := match labels with
    | [] :: l :: _ => l
    | l :: _ => l
    | [] => []
  (!last.isEmpty && last.all Text.isDigit) || (ipv4Number? last).isSome

/-- Joins the numbers of an address. Each but the last is one byte, and the last fills the bytes that
remain. -/
def joinIpv4? (index : Nat) : List Nat → Option Nat
  | [] => none
  | [last] => if last < Nat.pow 256 (4 - index) then some last else none
  | n :: rest => do
    let low ← joinIpv4? (index + 1) rest
    if n < 256 then some (n * Nat.pow 256 (3 - index) + low) else none

/-- Reads an address of at most four numbers between dots. A final dot is left out. -/
def ipv4? (name : Text) : Option Nat := do
  let labels := Text.splitOn '.' name
  let labels := if labels.getLast? = some [] then labels.dropLast else labels
  if 4 < labels.length then none
  joinIpv4? 0 (← labels.mapM ipv4Number?)

def ipv4Text (address : Nat) : Text :=
  Text.join ['.'] ([3, 2, 1, 0].map fun k => Text.ofNat (address / Nat.pow 256 k % 256))

/-- Reads one byte of an address of version 4 within one of version 6: no leading zeros. -/
def ipv4Byte? (t : Text) : Option Nat := do
  if t.isEmpty || (t.head? == some '0' && 1 < t.length) then none
  let n ← Text.digitsValue? 10 t
  if n < 256 then some n else none

def ipv4Pieces? (t : Text) : Option (List Nat) := do
  match ← (Text.splitOn '.' t).mapM ipv4Byte? with
  | [a, b, c, d] => some [a * 256 + b, c * 256 + d]
  | _ => none

def pieces? (lastMayBeIpv4 : Bool) : List Text → Option (List Nat)
  | [] => some []
  | [t] => if lastMayBeIpv4 && t.contains '.' then ipv4Pieces? t else (piece? t).map fun n => [n]
  | t :: ts => do
    let n ← piece? t
    let rest ← pieces? lastMayBeIpv4 ts
    some (n :: rest)
where
  /-- One to four hexadecimal digits. -/
  piece? (t : Text) : Option Nat :=
    if t.isEmpty || 4 < t.length then none else Text.digitsValue? 16 t

/-- Reads eight pieces, of which one run of zeros may be left out between two colons. -/
def ipv6? (t : Text) : Option (List Nat) :=
  let split (t : Text) : List Text := if t.isEmpty then [] else Text.splitOn ':' t
  match Text.cutAtPhrase [':', ':'] t with
  | some (before, after) => do
    let head ← pieces? false (split before)
    let tail ← pieces? true (split after)
    let given := head.length + tail.length
    if given < 8 then some (head ++ List.replicate (8 - given) 0 ++ tail) else none
  | none => do
    let pieces ← pieces? true (split t)
    if pieces.length = 8 then some pieces else none

def zeros (pieces : List Nat) : Nat := (pieces.takeWhile (· = 0)).length

def longestZeros : List Nat → Nat
  | [] => 0
  | p :: ps => Nat.max (zeros (p :: ps)) (longestZeros ps)

def cutZeros (n : Nat) : List Nat → List Nat × List Nat
  | [] => ([], [])
  | p :: ps =>
    if n ≤ zeros (p :: ps) then ([], (p :: ps).drop n)
    else
      let (before, after) := cutZeros n ps
      (p :: before, after)

/-- The pieces in hexadecimal between colons, with the first longest run of two or more zeros left
out. -/
def ipv6Text (pieces : List Nat) : Text :=
  let written (ps : List Nat) : Text := Text.join [':'] (ps.map Text.hexOfNat)
  let run := longestZeros pieces
  if run < 2 then written pieces
  else
    let (before, after) := cutZeros run pieces
    written before ++ [':', ':'] ++ written after

def Host.text : Host → Text
  | domain name => name
  | ipv4 address => ipv4Text address
  | ipv6 pieces => '[' :: ipv6Text pieces ++ [']']

def bracketed? (t : Text) : Option Host := do
  let inner ← Text.beforeSuffix? [']'] t
  (ipv6? inner).map .ipv6

def webHost? (t : Text) : Option Host :=
  match t with
  | '[' :: r => bracketed? r
  | t => do
    let name ← Idna.toAscii? (Text.decodeUtf8 (percentDecode t))
    if name.isEmpty then none
    if endsInNumber name then (ipv4? name).map .ipv4 else some (.domain name)

def isForbiddenInName (c : Char) : Bool :=
  c == '\x00' || c == '\t' || c == '\n' || c == '\r' || c == ' ' || c == '#' || c == '/' || c == ':' ||
    c == '<' || c == '>' || c == '?' || c == '@' || c == '[' || c == '\\' || c == ']' || c == '^' ||
    c == '|'

def plainHost? (t : Text) : Option Host :=
  match t with
  | '[' :: r => bracketed? r
  | t =>
    if t.any isForbiddenInName then none else some (.domain (percentEncode EncodeSet.controls t))

end Userscript.Url
