import Userscript.Text.Normal
import Userscript.Text.Property
import Userscript.Url.Idna.Direction
import Userscript.Url.Idna.Joining
import Userscript.Url.Idna.Mapping
import Userscript.Url.Punycode

/-!
The ASCII form of a domain name. Characters are mapped and composed, then every label is checked, and a
label outside ASCII is written in punycode behind `xn--`. A label that already has that form must be
the form of a label that passes the checks.
-/

namespace Userscript.Url.Idna

def acePhrase : Text := "xn--".toList

def isAscii (t : Text) : Bool := t.all (·.toNat < 128)

def normalize? (t : Text) : Option Text :=
  (t.mapM mapChar?).map fun parts => Text.composed parts.flatten

/-- The class of marks that suppress a vowel, after which a joiner may stand. -/
def virama : Nat := 9

/-- Whether the first character that joining does not pass through joins in the given way. -/
def firstJoins (joins : Char → Bool) (t : Text) : Bool :=
  match t.dropWhile fun c => joinsThrough.contains c.toNat with
  | c :: _ => joins c
  | [] => false

/-- Whether every joiner stands where it has an effect: after a virama, or, if it is the one that keeps
letters apart, between letters that would join. `before` is the text already passed, the latest
first. -/
def joinersFit (before : Text) : Text → Bool
  | [] => true
  | c :: r =>
    let afterVirama := before.head?.any fun d => Unicode.combiningClass d == virama
    let fits :=
      if c = '\u200d' then afterVirama
      else if c = '\u200c' then
        afterVirama ||
          (firstJoins (fun d => joinsBoth.contains d.toNat || joinsAfter.contains d.toNat) before &&
            firstJoins (fun d => joinsBoth.contains d.toNat || joinsBefore.contains d.toNat) r)
      else true
    fits && joinersFit (c :: before) r

/-- Whether a label outside ASCII is well-formed: it does not begin with a mark or in the way of a label
in punycode, mapping leaves it as it is, and its joiners fit. -/
def isLabel (label : Text) : Bool :=
  !(label.head?.any Unicode.mark.contains) && (Text.after? acePhrase label).isNone &&
    normalize? label == some label && joinersFit [] label

def meant? (label : Text) : Option Text :=
  match Text.after? acePhrase label with
  | some digits => do
    let decoded ← Punycode.decode? digits
    if !isAscii decoded && isLabel decoded then some decoded else none
  | none => if isAscii label || isLabel label then some label else none

inductive Direction where
  | leftToRight
  | rightToLeft
  | arabicNumber
  | europeanNumber
  | neutral
  | nonspacing
  deriving DecidableEq

def direction (c : Char) : Direction :=
  let n := c.toNat
  if rightToLeft.contains n then .rightToLeft
  else if arabicNumber.contains n then .arabicNumber
  else if europeanNumber.contains n then .europeanNumber
  else if neutral.contains n then .neutral
  else if nonspacing.contains n then .nonspacing
  else .leftToRight

def isRightToLeft (label : Text) : Bool :=
  label.any fun c => direction c = .rightToLeft ∨ direction c = .arabicNumber

/-- Whether the directions in a label go together: all characters fit the first one, the last one but
for marks is a letter or a number, and only one kind of numbers occurs between letters from right to
left. -/
def directionsFit (label : Text) : Bool :=
  let ds := label.map direction
  let last := (ds.reverse.dropWhile (· = .nonspacing)).head?
  match ds with
  | [] => true
  | .rightToLeft :: _ =>
    ds.all (· ≠ .leftToRight) &&
      (last == some .rightToLeft || last == some .europeanNumber || last == some .arabicNumber) &&
      !(ds.contains .europeanNumber && ds.contains .arabicNumber)
  | .leftToRight :: _ =>
    ds.all (fun d => d ≠ .rightToLeft ∧ d ≠ .arabicNumber) &&
      (last == some .leftToRight || last == some .europeanNumber)
  | _ => false

def isForbidden (c : Char) : Bool :=
  c.toNat ≤ 0x20 || c.toNat == 0x7F || c == '%' || c == '#' || c == '/' || c == ':' || c == '<' ||
    c == '>' || c == '?' || c == '@' || c == '[' || c == '\\' || c == ']' || c == '^' || c == '|'

/-- The longest label outside ASCII that is encoded. -/
def labelLimit : Nat := 1000

def encodeLabel (label : Text) : Text :=
  if isAscii label then label else acePhrase ++ Punycode.encode label

def toAscii? (name : Text) : Option Text := do
  let mapped ← normalize? name
  if mapped.any isForbidden then none
  let labels ← (Text.splitOn '.' mapped).mapM meant?
  if labels.any isRightToLeft && !labels.all directionsFit then none
  if labels.any fun l => !isAscii l && labelLimit < l.length then none
  some (Text.join ['.'] (labels.map encodeLabel))

end Userscript.Url.Idna
