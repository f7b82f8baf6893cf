import Userscript.Text.CaseFold
import Userscript.Text.Property

/-!
Sets of characters as expressions: ranges and property tables, joined by the operations that a
bracketed class can write. Membership is computed from the expression; no set is ever listed.
-/

namespace Userscript.Regex

inductive CharSet where
  | empty
  | range (lo hi : Char)
  | blank
  | property (p : Unicode.PropertySet)
  | union (a b : CharSet)
  | inter (a b : CharSet)
  | diff (a b : CharSet)
  | symmDiff (a b : CharSet)
  | compl (a : CharSet)
  /-- The characters whose case folding is `c`. -/
  | folding (c : Char)
  /-- The characters whose case class meets the set. -/
  | closure (a : CharSet)
  /-- The set together with its ASCII letters in the other case. -/
  | asciiClosure (a : CharSet)

namespace CharSet

def swapAsciiCase (c : Char) : Char :=
  if 'A' ≤ c ∧ c ≤ 'Z' then Char.ofNat (c.toNat + 32)
  else if 'a' ≤ c ∧ c ≤ 'z' then Char.ofNat (c.toNat - 32)
  else c

def contains : CharSet → Char → Bool
  | empty, _ => false
  | range lo hi, c => lo ≤ c && c ≤ hi
  | blank, c => Text.isBlank c
  | property p, c => p.contains c
  | union a b, c => a.contains c || b.contains c
  | inter a b, c => a.contains c && b.contains c
  | diff a b, c => a.contains c && !b.contains c
  | symmDiff a b, c => a.contains c != b.contains c
  | compl a, c => !a.contains c
  | folding d, c => Text.foldChar c == d
  | closure a, c => (Text.caseClass c).any a.contains
  | asciiClosure a, c => a.contains c || a.contains (swapAsciiCase c)

def single (c : Char) : CharSet := range c c

def ofList (cs : List Char) : CharSet := cs.foldr (fun c s => union (single c) s) empty

/-- How many ranges the expression mentions, a measure of how large a machine for the set is. -/
def rangeCount : CharSet → Nat
  | empty => 0
  | range _ _ => 1
  | blank => 10
  | property p => p.rangeCount
  | union a b | symmDiff a b => a.rangeCount + b.rangeCount
  | inter a b | diff a b => max a.rangeCount b.rangeCount
  | compl a => a.rangeCount + 1
  | folding _ => 2
  | closure a | asciiClosure a => 2 * a.rangeCount

/-- Whether the expression mentions ASCII characters only. Complements and properties do not. -/
def isAscii : CharSet → Bool
  | empty => true
  | range _ hi => hi.toNat < 128
  | blank | property _ | compl _ => false
  | union a b | symmDiff a b => a.isAscii && b.isAscii
  | inter a b => a.isAscii || b.isAscii
  | diff a _ => a.isAscii
  | folding c => c.toNat < 128 && (Text.caseClass c).all (·.toNat < 128)
  | closure a | asciiClosure a => a.isAscii

def all : CharSet := compl empty

def asciiDigit : CharSet := range '0' '9'

def asciiWord : CharSet :=
  union (range 'a' 'z') (union (range 'A' 'Z') (union asciiDigit (single '_')))

def asciiBlank : CharSet := union (range '\t' '\r') (single ' ')

def digit : CharSet := property Unicode.decimalDigit

def word : CharSet := property Unicode.word

/-- The ASCII classes that a bracketed class names between colons. -/
def ofAsciiClass? (name : Text) : Option CharSet :=
  let letters := union (range 'a' 'z') (range 'A' 'Z')
  let table : List (String × CharSet) := [
    ("alnum", union asciiDigit letters),
    ("alpha", letters),
    ("ascii", range '\x00' '\x7f'),
    ("blank", union (single '\t') (single ' ')),
    ("cntrl", union (range '\x00' '\x1f') (single '\x7f')),
    ("digit", asciiDigit),
    ("graph", range '!' '~'),
    ("lower", range 'a' 'z'),
    ("print", range ' ' '~'),
    ("punct", union (range '!' '/') (union (range ':' '@') (union (range '[' (Char.ofNat 96))
      (range (Char.ofNat 123) '~')))),
    ("space", asciiBlank),
    ("upper", range 'A' 'Z'),
    ("word", asciiWord),
    ("xdigit", union asciiDigit (union (range 'a' 'f') (range 'A' 'F')))]
  (table.find? fun e => e.1.toList == name).map (·.2)

end CharSet

end Userscript.Regex
