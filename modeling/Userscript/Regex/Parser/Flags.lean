import Userscript.Regex.Basic

/-!
The settings that an expression can change while it is read, and how they act on single sets: case,
and whether sets speak of all characters or of ASCII only.
-/

namespace Userscript.Regex

structure Flags where
  /-- `i`: letters match in either case. -/
  ignoreCase : Bool := false
  /-- `m`: `^` and `$` match at lines. -/
  multiLine : Bool := false
  /-- `s`: the dot matches line feeds too. -/
  dotAll : Bool := false
  /-- `U`: repetitions are lazy, and greedy with a question mark. -/
  swapGreed : Bool := false
  /-- `u`: sets and word assertions speak of all characters, not of ASCII only. -/
  unicode : Bool := true
  /-- `R`: carriage returns end lines too. -/
  crlf : Bool := false
  /-- `x`: blanks and comments between the parts of an expression do not count. -/
  spaced : Bool := false
  deriving DecidableEq

/-- Drops blanks and comments. A comment runs from a number sign to the end of its line. -/
def skipIgnored : (inComment : Bool) → Text → Text
  | _, [] => []
  | true, c :: r => skipIgnored (c != '\n') r
  | false, c :: r =>
    if Text.isBlank c then skipIgnored false r
    else if c = '#' then skipIgnored true r
    else c :: r

theorem length_skipIgnored (b : Bool) (t : Text) : (skipIgnored b t).length ≤ t.length := by
  induction t generalizing b with
  | nil => simp [skipIgnored]
  | cons c r ih =>
    cases b with
    | true => have := ih (c != '\n'); simp [skipIgnored]; omega
    | false =>
      have h₁ := ih false
      have h₂ := ih true
      simp only [skipIgnored]
      split
      · simp; omega
      · split
        · simp
          omega
        · simp

namespace Flags

def skip (f : Flags) (t : Text) : Text := if f.spaced then skipIgnored false t else t

theorem length_skip (f : Flags) (t : Text) : (f.skip t).length ≤ t.length := by
  unfold skip
  split
  · exact length_skipIgnored false t
  · exact Nat.le_refl _

def set? (f : Flags) (letter : Char) (on : Bool) : Option Flags :=
  match letter with
  | 'i' => some { f with ignoreCase := on }
  | 'm' => some { f with multiLine := on }
  | 's' => some { f with dotAll := on }
  | 'U' => some { f with swapGreed := on }
  | 'u' => some { f with unicode := on }
  | 'R' => some { f with crlf := on }
  | 'x' => some { f with spaced := on }
  | _ => none

def withCases (f : Flags) (s : CharSet) : CharSet :=
  if f.ignoreCase then (if f.unicode then .closure s else .asciiClosure s) else s

/-- The complement where one is asked for. A set of ASCII has none, since its complement would cut
characters in pieces. -/
def negateIf (f : Flags) (negated : Bool) (s : CharSet) : Option CharSet :=
  if negated then (if f.unicode then some (.compl s) else none) else some s

def literal (f : Flags) (c : Char) : CharSet :=
  if f.ignoreCase then
    if f.unicode then .folding (Text.foldChar c) else .asciiClosure (.single c)
  else .single c

def dot? (f : Flags) : Option CharSet :=
  if !f.unicode then none
  else if f.dotAll then some .all
  else if f.crlf then some (.compl (.union (.single '\n') (.single '\r')))
  else some (.compl (.single '\n'))

def start (f : Flags) : Assertion :=
  if f.multiLine then (if f.crlf then .crlfLineStart else .lineStart) else .textStart

def finish (f : Flags) : Assertion :=
  if f.multiLine then (if f.crlf then .crlfLineEnd else .lineEnd) else .textEnd

end Flags

end Userscript.Regex
