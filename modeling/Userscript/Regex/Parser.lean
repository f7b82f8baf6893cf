import Userscript.Regex.Footprint
import Userscript.Regex.Parser.Class

/-!
Reading the text of a regular expression. `Regex.parse` gives the tree of a well-formed expression and
`none` for any other text: unbalanced or empty parts, unknown escapes and flags, a group name used
twice, ranges and counts that run backwards, nesting or size beyond the limits.

Flags set without a group, such as `(?i)`, hold to the end of the group they stand in, across the bars
of its alternatives. Look-around is refused but for negative look-ahead in a dialect that has it.
-/

namespace Userscript.Regex

/-- What an engine accepts beyond the common syntax, and how it starts to read. -/
structure Dialect where
  ignoreCase : Bool := false
  negativeLookAhead : Bool := false

def nestingLimit : Nat := 250

/-- Stands in messages for an engine's own explanation of what is wrong with an expression. -/
def explanation : Text := "<engine>".toList

/-! ## Parts and levels -/

/-- A part of an expression with its depth, the levels of nesting in the written form. A setting of
flags is a part that matches the empty text and cannot be repeated. -/
structure Piece where
  regex : Regex
  depth : Nat
  isSetting : Bool := false

/-- What has been read of one group: its finished alternatives and the parts of the alternative being
read, the latest first in both. -/
structure Level where
  branches : List (Regex × Nat) := []
  pieces : List Piece := []

inductive GroupKind where
  | plain
  | capture (name : Option Text)
  | notAhead

/-- A group that is still open: what was read before it, and the flags to go back to. -/
structure Scope where
  kind : GroupKind
  flags : Flags
  outer : Level

structure State where
  flags : Flags := {}
  names : List Text := []
  level : Level := {}
  scopes : List Scope := []

namespace Level

def push (level : Level) (piece : Piece) : Level :=
  { level with pieces := piece :: level.pieces }

/-- The alternative being read, as one expression. Two or more parts are one level deeper. -/
def branch (level : Level) : Regex × Nat :=
  match level.pieces with
  | [p] => (p.regex, p.depth)
  | ps => (catAll (ps.reverse.map (·.regex)),
      if ps.isEmpty then 0 else (ps.map (·.depth)).foldl Nat.max 0 + 1)

def bar (level : Level) : Level := { branches := level.branch :: level.branches }

def close (level : Level) : Regex × Nat :=
  match level.branches with
  | [] => level.branch
  | bs =>
    let all := (level.branch :: bs).reverse
    (altAll (all.map (·.1)), (all.map (·.2)).foldl Nat.max 0 + 1)

end Level

namespace State

def push (st : State) (r : Regex) (depth : Nat := 0) : State :=
  { st with level := st.level.push { regex := r, depth } }

def openGroup (st : State) (kind : GroupKind) (inside : Flags) : State :=
  { st with
    flags := inside
    level := {}
    scopes := { kind, flags := st.flags, outer := st.level } :: st.scopes }

def closeGroup (st : State) : Option State :=
  match st.scopes with
  | [] => none
  | scope :: scopes =>
    let (r, depth) := st.level.close
    let r := match scope.kind with
      | .plain => r
      | .capture name => .capture name r
      | .notAhead => .notAhead r
    some { st with
      flags := scope.flags
      level := scope.outer.push { regex := r, depth := depth + 1 }
      scopes }

/-- Repeats the last part, which there must be and which must not be a setting of flags. -/
def repeatLast (st : State) (min : Nat) (max : Option Nat) (lazy : Bool) : Option State :=
  match st.level.pieces with
  | [] => none
  | p :: ps =>
    if p.isSetting then none
    else
      let r := repeated min max (lazy == st.flags.swapGreed) p.regex
      let piece : Piece := { regex := r, depth := p.depth + 1 }
      some { st with level := { st.level with pieces := piece :: ps } }

end State

/-! ## Counts -/

/-- The digits at the front, with what does not count after each, and the rest. -/
def readDigits (f : Flags) (t : Text) : Text × Text :=
  match t with
  | c :: r =>
    if Text.isDigit c then
      let (digits, rest) := readDigits f (f.skip r)
      (c :: digits, rest)
    else ([], t)
  | [] => ([], [])
termination_by t.length
decreasing_by
  have := f.length_skip r
  simp
  omega

def countLimit : Nat := Nat.pow 2 32 - 1

/-- Reads a count, with blanks around it. There may be none, and none is given for one too large. -/
def readCount (f : Flags) (t : Text) : Option Nat × Text :=
  let (digits, rest) := readDigits f (t.dropWhile Text.isBlank)
  let n := if digits.isEmpty then none else Text.digitsValue? 10 digits
  (n.filter (· ≤ countLimit), skipBlanks f rest)
where
  skipBlanks (f : Flags) (t : Text) : Text :=
    match t with
    | c :: r => if Text.isBlank c then f.skip (r.dropWhile Text.isBlank) else t
    | [] => []

def readBounds (f : Flags) (t : Text) : Option (Nat × Option Nat × Text) :=
  let (least, t) := readCount f (f.skip t)
  match t with
  | '}' :: rest => least.map fun n => (n, some n, rest)
  | ',' :: r =>
    match f.skip r with
    | '}' :: rest => least.map fun n => (n, none, rest)
    | t => do
      let min ← least
      let (most, t) := readCount f t
      let max ← most
      let rest ← Text.after? ['}'] t
      if min ≤ max then some (min, some max, rest) else none
  | _ => none

/-! ## Groups -/

/-- Whether a character may stand in the name of a group, first or later. The tables of other scripts
are asked last. -/
def isNameChar (first : Bool) (c : Char) : Bool :=
  c == '_' || Text.isLetter c ||
    (if first then Unicode.alphabetic.contains c
     else c == '.' || c == '[' || c == ']' || Text.isDigit c || Unicode.alphanumeric.contains c)

def readName (names : List Text) (t : Text) : Option (Text × Text) := do
  let (name, rest) ← Text.cutAt '>' t
  match name with
  | [] => none
  | c :: cs =>
    if isNameChar true c && cs.all (isNameChar false) && !names.contains name then some (name, rest)
    else none

/-- Reads flags up to a colon or a closing parenthesis, which is given with the flags and with the
letters seen. Letters after a hyphen are switched off; none may be given twice. -/
def readFlags (f : Flags) (seen : List Char) : Text → Option (Flags × List Char × Char × Text)
  | [] => none
  | c :: r =>
    if c = ':' ∨ c = ')' then if seen.head? = some '-' then none else some (f, seen, c, r)
    else if seen.contains c then none
    else if c = '-' then readFlags f ('-' :: seen) r
    else
      match f.set? c (!seen.contains '-') with
      | some f => readFlags f (c :: seen) r
      | none => none

def readGroup (d : Dialect) (st : State) (t : Text) : Option (State × Text) :=
  match st.flags.skip t with
  | '?' :: '=' :: _ | '?' :: '<' :: '=' :: _ | '?' :: '<' :: '!' :: _ => none
  | '?' :: '!' :: r =>
    if d.negativeLookAhead then some (st.openGroup .notAhead st.flags, r) else none
  | '?' :: 'P' :: '<' :: r | '?' :: '<' :: r => do
    let (name, rest) ← readName st.names r
    let st := { st with names := name :: st.names }
    some (st.openGroup (.capture (some name)) st.flags, rest)
  | '?' :: r => do
    let (f, seen, close, rest) ← readFlags st.flags [] r
    if close = ':' then some (st.openGroup .plain f, rest)
    else if seen.isEmpty then none
    else some ({ st with
      flags := f
      level := st.level.push { regex := .empty, depth := 0, isSetting := true } }, rest)
  | t => some (st.openGroup (.capture none) st.flags, t)

/-! ## The reader -/

/-- A question mark right after a repetition makes it lazy. -/
def readLazy : Text → Bool × Text
  | '?' :: r => (true, r)
  | t => (false, t)

def State.pushAtom (st : State) : Atom → Option State
  | .literal c isByte =>
    if isByte && !st.flags.unicode && 128 ≤ c.toNat then none
    else some (st.push (.chars (st.flags.literal c)))
  | .set s => some (st.push (.chars s))
  | .look a => some (st.push (.look a))

def step (d : Dialect) (st : State) : Char → Text → Option (State × Text)
  | '(', r => readGroup d st r
  | ')', r => st.closeGroup.map fun st => (st, r)
  | '|', r => some ({ st with level := st.level.bar }, r)
  | '[', r => do
    let (s, depth, rest) ← readClass st.flags [] {} ('[' :: r)
    some (st.push (.chars s) depth, rest)
  | '?', r => simple 0 (some 1) r
  | '*', r => simple 0 none r
  | '+', r => simple 1 none r
  | '{', r => do
    let (min, max, rest) ← readBounds st.flags r
    let (lazy, rest) := readLazy (st.flags.skip rest)
    let st ← st.repeatLast min max lazy
    some (st, rest)
  | '\\', r => do
    let (atom, rest) ← readEscape st.flags r
    let st ← st.pushAtom atom
    some (st, rest)
  | '.', r => do
    let s ← st.flags.dot?
    some (st.push (.chars s), r)
  | '^', r => some (st.push (.look st.flags.start), r)
  | '$', r => some (st.push (.look st.flags.finish), r)
  | c, r => some (st.push (.chars (st.flags.literal c)), r)
where
  simple (min : Nat) (max : Option Nat) (r : Text) : Option (State × Text) :=
    let (lazy, rest) := readLazy r
    (st.repeatLast min max lazy).map fun st => (st, rest)

/-- Reads to the end of the text. Every part takes at least one character, which the comparison of
lengths states for the recursion. -/
def read (d : Dialect) (st : State) (t : Text) : Option State :=
  match _h : st.flags.skip t with
  | [] => some st
  | c :: r =>
    match step d st c r with
    | none => none
    | some (next, rest) => if rest.length ≤ r.length then read d next rest else none
termination_by t.length
decreasing_by
  have := st.flags.length_skip t
  rw [_h] at this
  simp at this
  omega

/-- The tree of an expression's text, within the limits of nesting and size. -/
def parse (d : Dialect) (t : Text) : Option Regex := do
  let st ← read d { flags := { ignoreCase := d.ignoreCase } } t
  if st.scopes.isEmpty then
    let (r, depth) := st.level.close
    if depth ≤ nestingLimit ∧ r.footprint ≤ footprintLimit then some r else none
  else none

end Userscript.Regex
