import Userscript.Text.Unicode.CombiningClass
import Userscript.Text.Unicode.Composition

/-!
The composed normal form of a text: characters are taken apart canonically, marks are put into
canonical order, and what composes is put together again.
-/

namespace Userscript.Text

def takeSyllableApart (n : Nat) : List Nat :=
  let s := n - 0xAC00
  let tail := s % 28
  [0x1100 + s / 588, 0x1161 + s % 588 / 28] ++ (if tail = 0 then [] else [0x11A7 + tail])

def joinSyllable? (a b : Nat) : Option Nat :=
  if 0x1100 ≤ a ∧ a < 0x1113 ∧ 0x1161 ≤ b ∧ b < 0x1176 then
    some (0xAC00 + ((a - 0x1100) * 21 + (b - 0x1161)) * 28)
  else if 0xAC00 ≤ a ∧ a < 0xD7A4 ∧ (a - 0xAC00) % 28 = 0 ∧ 0x11A7 < b ∧ b < 0x11C3 then
    some (a + (b - 0x11A7))
  else none

/-- The code points that compose a code point by a table of compositions; `depth` bounds how often parts are
taken apart again. -/
def takeApartBy (table : List (Nat × Nat × Nat)) : (depth : Nat) → Nat → List Nat
  | 0, n => [n]
  | depth + 1, n =>
    if 0xAC00 ≤ n ∧ n < 0xD7A4 then takeSyllableApart n
    else match table.find? fun e => e.1 == n with
      | some (_, a, b) => takeApartBy table depth a ++ takeApartBy table depth b
      | none => [n]

def takeApart (depth n : Nat) : List Nat := takeApartBy Unicode.compositions depth n

def compose? (a b : Char) : Option Char :=
  (joinSyllable? a.toNat b.toNat <|>
    ((Unicode.compositions.find? fun e => e.2.1 == a.toNat && e.2.2 == b.toNat).map (·.1))).map
    Char.ofNat

/-- Puts a character into a list of marks, after those whose class is not above its own. -/
def insertMark (c : Char) (cls : Nat) : Text → Text
  | [] => [c]
  | d :: ds => if Unicode.combiningClass d ≤ cls then d :: insertMark c cls ds else c :: d :: ds

/-- Puts every run of marks into the order of their classes. `marks` is the run being read. -/
def orderMarks (marks : Text) : Text → Text
  | [] => marks
  | c :: r =>
    let cls := Unicode.combiningClass c
    if cls = 0 then marks ++ c :: orderMarks [] r else orderMarks (insertMark c cls marks) r

/-- Puts together what composes. `starter` is the character that others may join, `between` holds the
marks after it that did not, the latest first, and `last` the class of the latest. A mark is kept from
the starter by one of its own class or a higher one. -/
def composeFrom (starter : Char) (between : Text) (last : Nat) : Text → Text
  | [] => starter :: between.reverse
  | c :: r =>
    let cls := Unicode.combiningClass c
    match if !between.isEmpty && cls ≤ last then none else compose? starter c with
    | some d => composeFrom d between last r
    | none =>
      if cls = 0 then starter :: between.reverse ++ composeFrom c [] 0 r
      else composeFrom starter (c :: between) cls r

/-- The composed normal form. A text of ASCII is its own. -/
def composed (t : Text) : Text :=
  if t.all (·.toNat < 128) then t
  else
    let apart := t.flatMap fun c => (takeApart 4 c.toNat).map Char.ofNat
    match orderMarks [] apart with
    | [] => []
    | c :: r => composeFrom c [] 0 r

end Userscript.Text
