import Userscript.Regex.Basic

/-!
Where the groups of an expression match. Here preference counts: of all ways to match, the first in
order of preference is taken, where a greedy repetition prefers more rounds, a lazy one fewer, and an
alternative its first branch. The search tries the ways in that order and goes back when the rest of
the expression, which it is given as a continuation, does not match behind one of them.
-/

namespace Userscript.Regex

/-- The parts that named groups matched, the latest first. -/
abbrev Groups := List (Text × Nat × Nat)

abbrev Rest := Nat → Groups → Option Groups

def searchExactly (once : Nat → Groups → Rest → Option Groups) :
    (n : Nat) → Nat → Groups → Rest → Option Groups
  | 0, i, g, rest => rest i g
  | n + 1, i, g, rest => once i g fun j h => searchExactly once n j h rest

/-- Repeats at most `n` times. A round that matches the empty text is the last one. -/
def searchUpTo (once : Nat → Groups → Rest → Option Groups) (greedy : Bool) :
    (n : Nat) → Nat → Groups → Rest → Option Groups
  | 0, i, g, rest => rest i g
  | n + 1, i, g, rest =>
    let more := fun (_ : Unit) => once i g fun j h =>
      if j = i then rest j h else searchUpTo once greedy n j h rest
    if greedy then (more ()).or (rest i g) else (rest i g).or (more ())

/-- Matches from a position on, and then the rest. -/
def search (text : Array Char) : Regex → Nat → Groups → Rest → Option Groups
  | empty, i, g, rest => rest i g
  | chars s, i, g, rest =>
    match text[i]? with
    | some c => if s.contains c then rest (i + 1) g else none
    | none => none
  | look a, i, g, rest => if a.holds text i then rest i g else none
  | cat a b, i, g, rest => a.search text i g fun j h => b.search text j h rest
  | alt a b, i, g, rest => (a.search text i g rest).or (b.search text i g rest)
  | rep min max greedy r, i, g, rest =>
    searchExactly (r.search text) min i g fun j h =>
      let rounds := match max with | some m => m - min | none => text.size + 1
      searchUpTo (r.search text) greedy rounds j h rest
  | capture (some name) r, i, g, rest =>
    r.search text i g fun j h => rest j ((name, i, j) :: h)
  | capture none r, i, g, rest => r.search text i g rest
  | notAhead r, i, g, rest =>
    if (r.search text i g fun _ h => some h).isNone then rest i g else none

/-- The groups of the preferred match at the leftmost position that has one. -/
def captures? (r : Regex) (text : Text) : Option Groups :=
  (List.range (text.length + 1)).findSome? fun i =>
    r.search text.toArray i [] fun _ g => some g

def Groups.text? (groups : Groups) (name text : Text) : Option Text :=
  (groups.find? fun g => g.1 == name).map fun g => (text.drop g.2.1).take (g.2.2 - g.2.1)

end Userscript.Regex
