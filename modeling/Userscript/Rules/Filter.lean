import Userscript.Log
import Userscript.Pattern.HostRule
import Userscript.Rules.RuleSet

/-!
Filters for hosts. The rules of a file are put together into one expression, which says which hosts the
proxy leaves alone: those that match a rule, or those that match none.

The second kind of expression looks ahead for a match and refuses it. A filter does without that: it
uses the expression for the rules themselves and turns the answer round.
-/

namespace Userscript

inductive FilterMode where
  /-- A host that matches a rule is left alone. -/
  | ignore
  /-- A host that matches no rule is left alone. -/
  | intercept
  /-- No host is left alone. -/
  | disabled
  deriving DecidableEq, Repr

namespace FilterMode

def name : FilterMode → Text
  | ignore => "ignore".toList
  | intercept => "intercept".toList
  | disabled => "disabled".toList

instance : Inhabited FilterMode := ⟨ignore⟩

end FilterMode

namespace RuleSet

def noHosts : Text := "^$".toList

inductive Error where
  | invalidRule (rule : Text)
  | invalidFilter
  deriving DecidableEq, Repr

def Error.message : Error → Text
  | invalidRule rule =>
    "Rule `".toList ++ rule ++
      "` is wrapped in slashes but is not a valid regular expression: ".toList ++ Regex.explanation
  | invalidFilter =>
    "The combined host filter could not be compiled: ".toList ++ Regex.explanation

/-- The text of the expression for a rule. An expression between slashes is checked; a glob always has
one. -/
def compileRule (rule : Text) : Except Error Text :=
  let text := HostRule.regexText rule
  if (Pattern.expression? rule).isSome && (Regex.parse {} text).isNone then
    .error (.invalidRule rule)
  else .ok text

/-- The expression for the hosts that an expression does not match as a whole. -/
def negate (expression : Text) : Text := "^(?!(?:".toList ++ expression ++ ")$).*$".toList

structure Compiled where
  mode : FilterMode
  /-- The expression for the hosts that are left alone. -/
  expression : Text
  /-- The expression for the hosts that match a rule. -/
  ignoreExpression : Text
  rules : List Text
  /-- Why rules were left out. -/
  errors : List Error
  deriving DecidableEq, Repr

def compileEach : List Text → Logged (List Text × List Error)
  | [] => pure ([], [])
  | rule :: rest => do
    match compileRule rule with
    | .ok text =>
      let (texts, errors) ← compileEach rest
      return (text :: texts, errors)
    | .error e =>
      .record .warn ("Skipping rule: ".toList ++ e.message)
      let (texts, errors) ← compileEach rest
      return (texts, e :: errors)

def union : List Text → Text
  | [] => noHosts
  | texts => Text.join ['|'] texts

def expressionFor (ignoreExpression : Text) : FilterMode → Text
  | .ignore => ignoreExpression
  | .intercept => negate ignoreExpression
  | .disabled => noHosts

def recordDropped (c : Counts) : Logged Unit :=
  if c.dropped = 0 then pure ()
  else .record .debug ("Dropped ".toList ++ Text.ofNat c.dropped ++ " duplicate rule(s): ".toList ++
    Text.ofNat c.before ++ " -> ".toList ++ Text.ofNat c.after)

/-- Compiles a file of rules. A broken rule is reported and left out. -/
def compile (t : Text) (mode : FilterMode) : Logged Compiled := do
  let rules := distinct (parse t)
  recordDropped (counts (parse t))
  let (texts, errors) ← compileEach rules
  let ignoreExpression := union texts
  .record .info ("Compiled ".toList ++ Text.ofNat texts.length ++ [' '] ++ mode.name ++
    " rule(s) (".toList ++ Text.ofNat errors.length ++ " skipped)".toList)
  return {
    mode, ignoreExpression, rules, errors
    expression := expressionFor ignoreExpression mode
  }

end RuleSet

structure HostFilter where
  mode : FilterMode
  /-- Matches the hosts that match a rule; absent when no rule counts. -/
  regex : Option Regex

namespace HostFilter

def regexText? (ignoreExpression : Text) : FilterMode → Option Text
  | .ignore => some ignoreExpression
  | .intercept => some ("^(?:".toList ++ ignoreExpression ++ ")$".toList)
  | .disabled => none

def build (mode : FilterMode) (ignoreExpression : Text) : Except RuleSet.Error HostFilter :=
  match regexText? ignoreExpression mode with
  | none => .ok { mode, regex := none }
  | some text =>
    match Regex.parse {} text with
    | some regex => .ok { mode, regex := some regex }
    | none => .error .invalidFilter

def ofRules (rules : RuleSet.Compiled) : Except RuleSet.Error HostFilter :=
  build rules.mode rules.ignoreExpression

/-- Whether the proxy leaves a host alone. -/
def isIgnored (f : HostFilter) (host : Text) : Bool :=
  match f.regex with
  | none => false
  | some regex => if f.mode = .intercept then !regex.isMatch host else regex.isMatch host

end HostFilter

end Userscript
