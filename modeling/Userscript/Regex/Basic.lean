import Userscript.Regex.CharSet

/-!
Regular expressions as trees, and what each tree means. `Regex.Spans text r i j` says that `r` matches
the part of `text` from position `i` to position `j`; positions count characters and lie between them.
Whether an expression prefers longer or shorter matches is recorded in the tree but does not change
which parts it spans.
-/

namespace Userscript

inductive Assertion where
  | textStart
  | textEnd
  | lineStart
  | lineEnd
  /-- A line start or end where carriage returns end lines too. -/
  | crlfLineStart
  | crlfLineEnd
  /-- The word assertions take words of all scripts or, with `ascii`, of ASCII only. -/
  | wordBoundary (ascii : Bool)
  | notWordBoundary (ascii : Bool)
  | wordStart (ascii : Bool)
  | wordEnd (ascii : Bool)
  /-- No word character stands before the position. -/
  | wordStartHalf (ascii : Bool)
  /-- No word character stands after the position. -/
  | wordEndHalf (ascii : Bool)

inductive Regex where
  | empty
  | chars (s : Regex.CharSet)
  | look (a : Assertion)
  | cat (a b : Regex)
  /-- Matches what `a` or `b` matches, and prefers `a`. -/
  | alt (a b : Regex)
  /-- Matches at least `min` and at most `max` repetitions of `r`, any number from `min` on when there
  is no `max`. -/
  | rep (min : Nat) (max : Option Nat) (greedy : Bool) (r : Regex)
  /-- Matches what `r` matches and remembers where, under a name if there is one. -/
  | capture (name : Option Text) (r : Regex)
  /-- Matches the empty text where no match of `r` begins. -/
  | notAhead (r : Regex)

namespace Assertion

def isWordAt (ascii : Bool) (c : Option Char) : Bool :=
  match c with
  | some c => (if ascii then Regex.CharSet.asciiWord else Regex.CharSet.word).contains c
  | none => false

def between (before after : Option Char) : Assertion → Bool
  | textStart => before.isNone
  | textEnd => after.isNone
  | lineStart => before.all (· == '\n')
  | lineEnd => after.all (· == '\n')
  | crlfLineStart => before.all fun c => c == '\n' || (c == '\r' && after != some '\n')
  | crlfLineEnd => after.all fun c => c == '\r' || (c == '\n' && before != some '\r')
  | wordBoundary ascii => isWordAt ascii before != isWordAt ascii after
  | notWordBoundary ascii => isWordAt ascii before == isWordAt ascii after
  | wordStart ascii => !isWordAt ascii before && isWordAt ascii after
  | wordEnd ascii => isWordAt ascii before && !isWordAt ascii after
  | wordStartHalf ascii => !isWordAt ascii before
  | wordEndHalf ascii => !isWordAt ascii after

/-- Whether the assertion holds at a position of a text. -/
def holds (a : Assertion) (text : Array Char) (i : Nat) : Bool :=
  a.between (if i = 0 then none else text[i - 1]?) text[i]?

end Assertion

namespace Regex

inductive Chain (step : Nat → Nat → Prop) : Nat → Nat → Nat → Prop where
  | nil (i : Nat) : Chain step 0 i i
  | cons {n i k j : Nat} : step i k → Chain step n k j → Chain step (n + 1) i j

/-- The expression matches the part of the text between two positions. -/
def Spans (text : Array Char) : Regex → Nat → Nat → Prop
  | empty, i, j => i = j
  | chars s, i, j => j = i + 1 ∧ ∃ c, text[i]? = some c ∧ s.contains c = true
  | look a, i, j => i = j ∧ a.holds text i = true
  | cat a b, i, j => ∃ k, a.Spans text i k ∧ b.Spans text k j
  | alt a b, i, j => a.Spans text i j ∨ b.Spans text i j
  | rep min max _ r, i, j =>
    ∃ n, min ≤ n ∧ (∀ m, max = some m → n ≤ m) ∧ Chain (r.Spans text) n i j
  | capture _ r, i, j => r.Spans text i j
  | notAhead r, i, j => i = j ∧ ¬∃ k, r.Spans text i k

def Finds (r : Regex) (text : Array Char) : Prop :=
  ∃ i j, i ≤ text.size ∧ r.Spans text i j

def catAll : List Regex → Regex
  | [] => empty
  | [r] => r
  | r :: s :: rs => cat r (catAll (s :: rs))

def altAll : List Regex → Regex
  | [] => empty
  | [r] => r
  | r :: s :: rs => alt r (altAll (s :: rs))

/-- Whether the expression can match nothing but the empty text, as far as its form shows. -/
def isZeroWidth : Regex → Bool
  | empty | look _ | notAhead _ => true
  | chars _ => false
  | cat a b | alt a b => a.isZeroWidth && b.isZeroWidth
  | rep _ max _ r => max == some 0 || r.isZeroWidth
  | capture _ r => r.isZeroWidth

/-- A repetition in simplest form. Repeating an empty match adds nothing, so an expression that
matches only the empty text is repeated once at most. -/
def repeated (min : Nat) (max : Option Nat) (greedy : Bool) (r : Regex) : Regex :=
  if r.isZeroWidth then
    rep (Nat.min min 1) (some (match max with | some m => Nat.min m 1 | none => 1)) greedy r
  else rep min max greedy r

end Regex

end Userscript
