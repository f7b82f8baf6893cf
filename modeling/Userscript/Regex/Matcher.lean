import Userscript.Regex.Basic

/-!
Deciding whether an expression occurs in a text. The matcher carries a set of positions through the
expression at once, from the positions where a part may begin to those where it may end, so it never
goes back and its work stays polynomial whatever the expression. A set of positions is a list in
ascending order without repetitions.
-/

namespace Userscript.Regex

def merge : List Nat → List Nat → List Nat
  | [], ys => ys
  | x :: xs, [] => x :: xs
  | x :: xs, y :: ys =>
    if x < y then x :: merge xs (y :: ys)
    else if y < x then y :: merge (x :: xs) ys
    else x :: merge xs ys
termination_by xs ys => xs.length + ys.length

def exactly (step : List Nat → List Nat) : Nat → List Nat → List Nat
  | 0, s => s
  | n + 1, s => if s.isEmpty then [] else exactly step n (step s)

/-- The positions of `reached`, and those reached from `s` by one to `n` steps. -/
def upTo (step : List Nat → List Nat) : Nat → (reached s : List Nat) → List Nat
  | 0, reached, _ => reached
  | n + 1, reached, s =>
    if s.isEmpty then reached
    else
      let t := step s
      upTo step n (merge reached t) t

/-- The positions reached from a set by any number of steps, in ascending order. Steps never lead
back, so the least waiting position is final: it is given out, and what one more step reaches from it
joins the waiting. Each round gives out another position, so `fuel` needs to exceed the last one. -/
def anyNumber (step : List Nat → List Nat) : (fuel : Nat) → (waiting : List Nat) → List Nat
  | 0, waiting => waiting
  | _ + 1, [] => []
  | fuel + 1, i :: waiting =>
    i :: anyNumber step fuel (merge waiting ((step [i]).filter (i < ·)))

/-- The positions where a match that begins in the set may end. -/
def ends (text : Array Char) : Regex → List Nat → List Nat
  | empty, s => s
  | chars set, s => s.filterMap fun i =>
    match text[i]? with
    | some c => if set.contains c then some (i + 1) else none
    | none => none
  | look a, s => s.filter (a.holds text)
  | cat a b, s => b.ends text (a.ends text s)
  | alt a b, s => merge (a.ends text s) (b.ends text s)
  | rep min max _ r, s =>
    let s := exactly (r.ends text) min s
    match max with
    | some m => upTo (r.ends text) (m - min) (if min ≤ m then s else []) s
    | none => anyNumber (r.ends text) (text.size + 1) s
  | capture _ r, s => r.ends text s
  | notAhead r, s => s.filter fun i => (r.ends text [i]).isEmpty

def isMatch (r : Regex) (text : Text) : Bool :=
  !(r.ends text.toArray (List.range (text.length + 1))).isEmpty

end Userscript.Regex
