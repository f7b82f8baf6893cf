import Userscript.Regex.Parser.Escape

/-!
Bracketed classes: single characters, ranges, escapes, named ASCII classes and nested brackets, joined
by `&&`, `--` and `~~`, which all bind alike and to the left. The reader keeps the brackets and
operands that are still open on a stack.

Beside each set stands its depth, the levels of nesting in the written form.
-/

namespace Userscript.Regex

inductive SetOp where
  | inter
  | diff
  | symmDiff

def SetOp.apply : SetOp → CharSet → CharSet → CharSet
  | inter => .inter
  | diff => .diff
  | symmDiff => .symmDiff

structure ClassItems where
  set : CharSet := .empty
  depth : Nat := 0
  count : Nat := 0

namespace ClassItems

def add (items : ClassItems) (s : CharSet) (depth : Nat) : ClassItems :=
  ⟨if items.count = 0 then s else .union items.set s, Nat.max items.depth depth, items.count + 1⟩

/-- The depth of the items together; two or more are one level deeper than each. -/
def depthTogether (items : ClassItems) : Nat :=
  if items.count ≤ 1 then items.depth else items.depth + 1

end ClassItems

inductive ClassFrame where
  /-- An open bracket, and the items before it. -/
  | bracket (negated : Bool) (before : ClassItems)
  /-- An operation whose right operand is being read. -/
  | operand (op : SetOp) (left : CharSet) (depth : Nat)

def closeOperand (f : Flags) (items : ClassItems) :
    List ClassFrame → CharSet × Nat × List ClassFrame
  | .operand op left depth :: stack =>
    (op.apply (f.withCases left) (f.withCases items.set),
      Nat.max depth items.depthTogether + 1, stack)
  | stack => (items.set, items.depthTogether, stack)

def readHyphens (f : Flags) (items : ClassItems) (t : Text) : ClassItems × Text :=
  match t with
  | '-' :: r => readHyphens f (items.add (.single '-') 0) (f.skip r)
  | t => (items, t)
termination_by t.length
decreasing_by
  have := f.length_skip r
  simp
  omega

/-- Reads the front of a class after its bracket: whether the class is a complement, then hyphens or a
closing bracket that stand for themselves. -/
def readFront (f : Flags) (t : Text) : Bool × ClassItems × Text :=
  let (negated, t) := match f.skip t with
    | '^' :: r => (true, f.skip r)
    | t => (false, t)
  let (items, t) := readHyphens f {} t
  match items.count, t with
  | 0, ']' :: r => (negated, items.add (.single ']') 0, f.skip r)
  | _, t => (negated, items, t)

/-- Reads a named ASCII class after its bracket: a colon, an optional `^`, the name, a colon and a
closing bracket. -/
def readAsciiClass? (t : Text) : Option (Bool × CharSet × Text) := do
  let t ← Text.after? [':'] t
  let (negated, t) := match t with
    | '^' :: r => (true, r)
    | t => (false, t)
  let (name, rest) ← Text.cutAt ':' t
  let rest ← Text.after? [']'] rest
  let s ← CharSet.ofAsciiClass? name
  some (negated, s, rest)

/-- The character of an atom as an end of a range or an item, where the settings allow it. -/
def Atom.char? (f : Flags) : Atom → Option Char
  | literal c _ => if f.unicode || c.toNat < 128 then some c else none
  | _ => none

def Atom.item? (f : Flags) : Atom → Option CharSet
  | literal c isByte => ((literal c isByte).char? f).map .single
  | set s => some s
  | look _ => none

def readClassAtom (f : Flags) : Text → Option (Atom × Text)
  | [] => none
  | '\\' :: r => readEscape f r
  | c :: r => some (.literal c false, r)

/-- Reads an item or a range. A hyphen before a closing bracket or another hyphen makes no range. -/
def readClassRange (f : Flags) (t : Text) : Option (CharSet × Text) := do
  let (first, t) ← readClassAtom f t
  match f.skip t with
  | [] => none
  | '-' :: r =>
    let next := (f.skip r).head?
    if next = some ']' ∨ next = some '-' then
      let s ← first.item? f
      some (s, '-' :: r)
    else
      let (last, rest) ← readClassAtom f (f.skip r)
      let lo ← first.char? f
      let hi ← last.char? f
      if lo ≤ hi then some (.range lo hi, rest) else none
  | t =>
    let s ← first.item? f
    some (s, t)

inductive ClassStep where
  | done (s : CharSet) (depth : Nat) (rest : Text)
  | more (stack : List ClassFrame) (items : ClassItems) (rest : Text)

def classStep (f : Flags) (stack : List ClassFrame) (items : ClassItems) :
    Char → Text → Option ClassStep
  | '[', r =>
    match (if stack.isEmpty then none else readAsciiClass? r) with
    | some (negated, s, rest) => do
      let s ← f.negateIf negated (f.withCases s)
      some (.more stack (items.add s 0) rest)
    | none =>
      let (negated, inner, rest) := readFront f r
      some (.more (.bracket negated items :: stack) inner rest)
  | ']', r =>
    let (s, depth, stack) := closeOperand f items stack
    match stack with
    | .bracket negated before :: stack => do
      let s ← f.negateIf negated (f.withCases s)
      if stack.isEmpty then some (.done s (depth + 1) r)
      else some (.more stack (before.add s (depth + 1)) r)
    | _ => none
  | '&', '&' :: r => operation .inter r
  | '-', '-' :: r => operation .diff r
  | '~', '~' :: r => operation .symmDiff r
  | c, r => do
    let (s, rest) ← readClassRange f (c :: r)
    some (.more stack (items.add s 0) rest)
where
  operation (op : SetOp) (rest : Text) : Option ClassStep :=
    let (s, depth, stack) := closeOperand f items stack
    some (.more (.operand op s depth :: stack) {} rest)

/-- Reads a class from its opening bracket on. Every step takes at least one character, which the
comparison of lengths states for the recursion. -/
def readClass (f : Flags) (stack : List ClassFrame) (items : ClassItems) (t : Text) :
    Option (CharSet × Nat × Text) :=
  match _h : f.skip t with
  | [] => none
  | c :: r =>
    match classStep f stack items c r with
    | none => none
    | some (.done s depth rest) => some (s, depth, rest)
    | some (.more stack items rest) =>
      if rest.length ≤ r.length then readClass f stack items rest else none
termination_by t.length
decreasing_by
  have := f.length_skip t
  rw [_h] at this
  simp at this
  omega

end Userscript.Regex
