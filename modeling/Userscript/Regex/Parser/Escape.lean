import Userscript.Regex.Parser.Flags

/-!
Escapes, the single parts of an expression that begin with a backslash. Digits after a backslash would
refer back to a group and are refused, as are letters without a meaning.
-/

namespace Userscript.Regex

def isMeta (c : Char) : Bool :=
  c == '\\' || c == '.' || c == '+' || c == '*' || c == '?' || c == '(' || c == ')' || c == '|' ||
    c == '[' || c == ']' || c == '{' || c == '}' || c == '^' || c == '$' || c == '#' || c == '&' ||
    c == '-' || c == '~'

/-- The text of an expression that matches a text literally: a backslash before each character that
has a meaning of its own. -/
def escape (t : Text) : Text := t.flatMap fun c => if isMeta c then ['\\', c] else [c]

/-- Whether a backslash before the character makes it stand for itself: every ASCII character but
letters, digits and the angle brackets. -/
def isEscapable (c : Char) : Bool :=
  isMeta c || (c.toNat < 128 && !Text.isLetter c && !Text.isDigit c && c != '<' && c != '>')

/-- A single part of an expression. A character written as two hexadecimal digits is marked, since it
stands for a byte where sets speak of ASCII only. -/
inductive Atom where
  | literal (c : Char) (isByte : Bool)
  | set (s : CharSet)
  | look (a : Assertion)

def charOfNat? (n : Nat) : Option Char := if n.isValidChar then some (Char.ofNat n) else none

def readHexDigits (f : Flags) : (n acc : Nat) → Text → Option (Nat × Text)
  | 0, acc, t => some (acc, t)
  | n + 1, acc, c :: r =>
    match Text.hexValue? c with
    | some d => readHexDigits f n (acc * 16 + d) (f.skip r)
    | none => none
  | _ + 1, _, [] => none

/-- The text up to a closing brace, without what does not count, and the rest after the brace. -/
def readBraced (f : Flags) (t : Text) : Option (Text × Text) :=
  match _h : f.skip t with
  | [] => none
  | c :: r =>
    if c = '}' then some ([], r)
    else (readBraced f r).map fun (inner, rest) => (c :: inner, rest)
termination_by t.length
decreasing_by
  have := f.length_skip t
  rw [_h] at this
  simp at this
  omega

/-- Reads the number of a character after `x` (two digits), `u` (four) or `U` (eight), or any number of
digits between braces. -/
def readHex (f : Flags) (digits : Nat) (t : Text) : Option (Atom × Text) :=
  match f.skip t with
  | '{' :: r => do
    let (inner, rest) ← readBraced f r
    if inner.isEmpty then none
    let n ← Text.digitsValue? 16 inner
    let c ← charOfNat? n
    some (.literal c false, f.skip rest)
  | t => do
    let (n, rest) ← readHexDigits f digits 0 t
    let c ← charOfNat? n
    some (.literal c (digits == 2), rest)

/-- The set of a property between braces: a bare name, or a property and a value around `=` or `:`, or
around `!=` for the complement. -/
def propertyNamed? (inner : Text) : Option (Bool × Unicode.PropertySet) :=
  match Text.cutAtPhrase ['!', '='] inner with
  | some (name, value) => (Unicode.byValue? name value).map fun p => (true, p)
  | none =>
    match Text.cutAt ':' inner <|> Text.cutAt '=' inner with
    | some (name, value) => (Unicode.byValue? name value).map fun p => (false, p)
    | none => (Unicode.byName? inner).map fun p => (false, p)

def readProperty (f : Flags) (negated : Bool) (t : Text) : Option (Atom × Text) :=
  if !f.unicode then none
  else match f.skip t with
    | [] => none
    | '{' :: r => do
      let (inner, rest) ← readBraced f r
      let (unequal, p) ← propertyNamed? inner
      let s ← f.negateIf (negated != unequal) (f.withCases (.property p))
      some (.set s, rest)
    | c :: r =>
      if c = '\\' then none
      else do
        let p ← Unicode.byName? [c]
        let s ← f.negateIf negated (f.withCases (.property p))
        some (.set s, f.skip r)

/-- Reads what may stand in braces after a word boundary. Anything else is left for a counted
repetition. -/
def readBoundaryKind (f : Flags) (t : Text) : Option (Atom × Text) :=
  let ascii := !f.unicode
  let isNameChar (c : Char) : Bool := Text.isLetter c || c == '-'
  match t with
  | '{' :: r =>
    match f.skip r with
    | [] => none
    | c :: _ =>
      if !isNameChar c then some (.look (.wordBoundary ascii), t)
      else do
        let (inner, rest) ← readBraced f r
        let a ←
          if inner = "start".toList then some (.wordStart ascii)
          else if inner = "end".toList then some (.wordEnd ascii)
          else if inner = "start-half".toList then some (.wordStartHalf ascii)
          else if inner = "end-half".toList then some (.wordEndHalf ascii)
          else none
        some (.look a, rest)
  | t => some (.look (.wordBoundary ascii), t)

def readEscape (f : Flags) : Text → Option (Atom × Text)
  | [] => none
  | c :: r =>
    let ascii := !f.unicode
    let plain (s inAscii : CharSet) (negated : Bool) : Option (Atom × Text) :=
      (f.negateIf negated (if ascii then inAscii else s)).map fun s => (.set s, r)
    let control (c : Char) : Option (Atom × Text) := some (.literal c false, r)
    let look (a : Assertion) : Option (Atom × Text) := some (.look a, r)
    if isEscapable c then some (.literal c false, r)
    else match c with
      | 'x' => readHex f 2 r
      | 'u' => readHex f 4 r
      | 'U' => readHex f 8 r
      | 'p' => readProperty f false r
      | 'P' => readProperty f true r
      | 'd' => plain .digit .asciiDigit false
      | 'D' => plain .digit .asciiDigit true
      | 's' => plain .blank .asciiBlank false
      | 'S' => plain .blank .asciiBlank true
      | 'w' => plain .word .asciiWord false
      | 'W' => plain .word .asciiWord true
      | 'a' => control '\x07'
      | 'f' => control '\x0c'
      | 't' => control '\t'
      | 'n' => control '\n'
      | 'r' => control '\r'
      | 'v' => control '\x0b'
      | 'A' => look .textStart
      | 'z' => look .textEnd
      | 'b' => readBoundaryKind f r
      | 'B' => look (.notWordBoundary ascii)
      | '<' => look (.wordStart ascii)
      | '>' => look (.wordEnd ascii)
      | _ => none

end Userscript.Regex
