import Userscript.Metadata.Basic
import Userscript.Regex.Captures
import Userscript.Regex.Parser

/-!
The metadata block of a script. It stands in line comments between two marked lines,

    // ==UserScript==
    // @name     Example
    // @noframes
    // ==/UserScript==

and holds one tag to a line, with a value or without. Between the marked lines only comments and blank
lines are allowed, and comments without a tag are skipped.
-/

namespace Userscript.Metadata

def commentMark : Text := "//".toList

def openingMark : Text := "==UserScript==".toList

def closingMark : Text := "==/UserScript==".toList

def comment? (line : Text) : Option Text := Text.after? commentMark (Text.trimStart line)

/-- Whether a line is a comment that holds a mark and nothing else. -/
def isMarkedLine (mark line : Text) : Bool :=
  match comment? line with
  | some rest => Text.trim rest == mark
  | none => false

/-- Whether a line may stand in a block. -/
def isBlockLine (line : Text) : Bool :=
  (Text.trimStart line).isEmpty || (comment? line).isSome

/-- The lines up to the closing line, put together. -/
def untilClosed : List Text → Except Error Text
  | [] => .error .noBlock
  | line :: rest =>
    if isMarkedLine closingMark line then .ok []
    else if isBlockLine line then (untilClosed rest).map (line ++ ·)
    else .error (.invalidLine (Text.dropLineEnd line))

/-- The block behind the first opening line. -/
def blockOf : List Text → Except Error Text
  | [] => .error .noBlock
  | line :: rest => if isMarkedLine openingMark line then untilClosed rest else blockOf rest

def dropByteOrderMark : Text → Text
  | '\uFEFF' :: rest => rest
  | t => t

def extract (source : Text) : Except Error Text :=
  blockOf (Text.rawLines (dropByteOrderMark source))

/-- The form of a line with a tag: `// @tag` or `// @tag value`. The tag goes up to the first blank, and
the value begins with a character that is not blank. -/
def lineForm : Text := "^\\s*//\\s*@(?P<tag>\\S+)(?:\\s+(?P<value>\\S.*)?)?$".toList

def lineRegex : Regex := (Regex.parse {} lineForm).getD .empty

/-- Reads a line with a tag. Blanks at its end do not belong to the value. -/
def item? (line : Text) : Option Item := do
  let groups ← lineRegex.captures? line
  let tag ← groups.text? "tag".toList line
  match groups.text? "value".toList line with
  | some value => some (tag, .text (Text.trimEnd value))
  | none => some (tag, .flag true)

def parse (block : Text) : Metadata := (Text.lines block).filterMap item?

end Userscript.Metadata
