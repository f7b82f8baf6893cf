import Userscript.Text.Basic

/-!
Rule files: one rule to a line. A `#` starts a comment, which goes up to the end of the line.
-/

namespace Userscript.RuleSet

def stripComment (line : Text) : Text := Text.trim (line.takeWhile (· != '#'))

def parse (t : Text) : List Text :=
  ((Text.lines t).map stripComment).filter (! ·.isEmpty)

def dropRepeats (seen : List Text) : List Text → List Text
  | [] => []
  | r :: rest =>
    if seen.contains r then dropRepeats seen rest else r :: dropRepeats (r :: seen) rest

def distinct (rules : List Text) : List Text := dropRepeats [] rules

def countRepeats (seen : List Text) : List Text → Nat
  | [] => 0
  | r :: rest =>
    if seen.contains r then countRepeats seen rest + 1 else countRepeats (r :: seen) rest

/-- The numbers of rules before and after repeats have been dropped, and of the rules dropped. -/
structure Counts where
  before : Nat
  after : Nat
  dropped : Nat
  deriving DecidableEq, Repr

def counts (rules : List Text) : Counts :=
  ⟨rules.length, (distinct rules).length, countRepeats [] rules⟩

end Userscript.RuleSet
