import Userscript.Regex.Basic

/-!
About how large an expression is once its repetitions are written out. An expression beyond the limit is
refused, since a counted repetition of a counted repetition grows with the product of the counts.

The limit is set for the memory that a regular expression engine takes for a compiled expression, and how
much that is depends on how the engine shares states. The size here only approximates it: an expression
near the limit can be on one side of it here and on the other there.
-/

namespace Userscript.Regex

/-- Bytes for one state of the machine that the size is counted for. -/
def stateSize : Nat := 32

/-- The approximate size of a set: one state for an ASCII character, a fan-out of ranges otherwise. -/
def CharSet.footprint (s : CharSet) : Nat :=
  match s with
  | .range lo hi =>
    if lo = hi then
      stateSize * (if lo.toNat < 0x80 then 1 else if lo.toNat < 0x800 then 2
        else if lo.toNat < 0x10000 then 3 else 4)
    else 2 * stateSize + 8
  | s => if s.isAscii then 2 * stateSize + 8 * s.rangeCount else 8 * stateSize + 32 * s.rangeCount

/-- The approximate size of an expression in bytes, every repetition written out. -/
def footprint : Regex → Nat
  | empty | look _ => stateSize
  | chars s => s.footprint
  | cat a b => a.footprint + b.footprint
  | alt a b => a.footprint + b.footprint + stateSize + 8
  | rep min max _ r =>
    match max with
    | some m => min * r.footprint + (m - min) * (r.footprint + stateSize + 8) + stateSize
    | none => Nat.max min 1 * r.footprint + stateSize + 8
  | capture _ r => r.footprint + 2 * stateSize
  | notAhead r => r.footprint + 2 * stateSize

/-- The largest size accepted, ten mebibytes. -/
def footprintLimit : Nat := 10 * 1024 * 1024

end Userscript.Regex
