import Userscript.Regex.Matcher
import Userscript.Regex.Parser
import Userscript.Text.Quote

/-!
Patterns for whole addresses: regular expressions between slashes, and globs. A glob must match the
address from its start to its end, an expression anywhere in it; case does not count in either.
-/

namespace Userscript

namespace Pattern

/-- The expression between two slashes, if a text has that form and the expression is not empty. -/
def expression? (t : Text) : Option Text := do
  let inner ← Text.beforeSuffix? ['/'] (← Text.after? ['/'] t)
  if inner.isEmpty then none else some inner

/-- The text of an expression for a glob: everything stands for itself but `*`, which is any run of
characters within a line. -/
def ofGlob (t : Text) : Text := Text.replacePhrase ['\\', '*'] ['.', '*'] (Regex.escape t)

end Pattern

structure AddressPattern where
  source : Text
  regex : Regex

namespace AddressPattern

/-- Why a pattern is refused: it is written between slashes and is no expression. -/
inductive Error where
  | invalidRegex (source : Text)
  deriving DecidableEq, Repr

def Error.message : Error → Text
  | invalidRegex source =>
    "Pattern `".toList ++ source ++
      "` is wrapped in slashes but is not a valid regular expression: ".toList ++ Regex.explanation

def regexText (source : Text) : Text :=
  match Pattern.expression? source with
  | some inner => inner
  | none => '^' :: Pattern.ofGlob source ++ ['$']

def compile (source : Text) : Except Error AddressPattern :=
  match Regex.parse { ignoreCase := true } (regexText source) with
  | some regex => .ok { source, regex }
  | none => .error (.invalidRegex source)

/-- Any text but the empty one can be a pattern. -/
def isCandidate (t : Text) : Bool := !t.isEmpty

def isExpression (p : AddressPattern) : Bool := (Pattern.expression? p.source).isSome

def isMatch (p : AddressPattern) (address : Text) : Bool := p.regex.isMatch address

def describe (p : AddressPattern) : Text :=
  "UrlPattern \x7b pattern: ".toList ++ Text.quoted p.source ++ " \x7d".toList

/-- Patterns are equal when they are written alike. -/
instance : BEq AddressPattern where
  beq p q := p.source == q.source

end AddressPattern

end Userscript
