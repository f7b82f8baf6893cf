import Userscript.Text.Basic

/-!
Sets of code points as sorted tables of ranges, and the compact written form in which the larger
tables of this library are kept: for each range the gap since the end of the last one, then its
length, as decimal numbers between blanks. `decode "48 10 7 26"` holds `0` to `9` and `A` to `Z`.
-/

namespace Userscript

/-- Ranges of code points, first and last, in ascending order and apart from each other. -/
abbrev RangeTable := List (Nat × Nat)

namespace RangeTable

/-- Whether a code point lies in some range; the search stops at the first range above it. -/
def contains : RangeTable → Nat → Bool
  | [], _ => false
  | (lo, hi) :: rest, n => lo ≤ n && (n ≤ hi || contains rest n)

/-- Reads gaps and lengths, counting from the end of the last range. -/
def ofGaps (start : Nat) : List Nat → RangeTable
  | gap :: len :: rest => (start + gap, start + gap + len - 1) :: ofGaps (start + gap + len) rest
  | _ => []

def decode (written : String) : RangeTable :=
  ofGaps 0 ((Text.words written.toList).filterMap (Text.digitsValue? 10))

end RangeTable

/-- Ranges under the names by which they are asked for. Names are in lower case and have neither
blanks, hyphens nor underscores. -/
structure NamedRanges where
  names : List String
  written : String

def NamedRanges.find? (tables : List NamedRanges) (name : Text) : Option RangeTable :=
  (tables.find? fun t => t.names.any fun n => n.toList == name).map fun t =>
    RangeTable.decode t.written

end Userscript
