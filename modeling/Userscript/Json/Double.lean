import Userscript.Text.Basic

/-!
Numbers with a fraction, as they are kept in 64 bits: how a decimal number is rounded to one, and the
shortest decimal number that is rounded to a given one. Everything is computed on whole numbers.
-/

namespace Userscript.Json

/-- A finite number that is not negative, `m * 2 ^ e`. In normal form `m` is below `2 ^ 53`, and below
`2 ^ 52` only when `e` is `-1074`. -/
structure Double where
  m : Nat
  e : Int
  deriving DecidableEq, Repr

structure Ratio where
  num : Nat
  den : Nat

namespace Ratio

def scale (r : Ratio) (base : Nat) (n : Int) : Ratio :=
  if 0 ≤ n then ⟨r.num * base.pow n.toNat, r.den⟩ else ⟨r.num, r.den * base.pow (-n).toNat⟩

def nearest (r : Ratio) : Nat :=
  let q := r.num / r.den
  let rest := r.num % r.den
  if 2 * rest < r.den ∨ (2 * rest = r.den ∧ q % 2 = 0) then q else q + 1

end Ratio

namespace Double

def zero : Double := ⟨0, -1074⟩

def ratio (x : Double) : Ratio := Ratio.scale ⟨x.m, 1⟩ 2 x.e

/-- The nearest number to a quotient, the even one if there are two. There is none beyond the largest. -/
def ofRatio? (r : Ratio) : Option Double :=
  if r.num = 0 then some zero
  else
    let guess : Int := (r.num.log2 : Int) - r.den.log2 - 52
    let s := r.scale 2 (-guess)
    let e := max (if s.num < s.den * Nat.pow 2 52 then guess - 1 else guess) (-1074)
    let m := (r.scale 2 (-e)).nearest
    let x : Double := if m = Nat.pow 2 53 then ⟨Nat.pow 2 52, e + 1⟩ else ⟨m, e⟩
    if x.e ≤ 971 then some x else none

def tenTo (n : Nat) : Double := (ofRatio? ⟨Nat.pow 10 n, 1⟩).getD zero

def mulTen? (x : Double) (n : Nat) : Option Double :=
  let r := x.ratio
  let p := (tenTo n).ratio
  ofRatio? ⟨r.num * p.num, r.den * p.den⟩

def divTen (x : Double) (n : Nat) : Double :=
  let r := x.ratio
  let p := (tenTo n).ratio
  (ofRatio? ⟨r.num * p.den, r.den * p.num⟩).getD zero

/-- Divides by a large power of ten in steps no larger than `10 ^ 308`. Three full steps leave nothing
of any number that fits into 64 bits. -/
def divTenSteps (x : Double) (n : Nat) : (steps : Nat) → Double
  | 0 => zero
  | steps + 1 =>
    if n ≤ 308 then x.divTen n
    else if x.m = 0 then x
    else divTenSteps (x.divTen 308) (n - 308) steps

/-- A whole number times a power of ten, rounded once for the number and once for each step. There is
none beyond the largest. -/
def ofDecimal? (n : Nat) (exponent : Int) : Option Double := do
  let x ← ofRatio? ⟨n, 1⟩
  if exponent < 0 then some (x.divTenSteps (-exponent).toNat 4)
  else if exponent ≤ 308 then x.mulTen? exponent.toNat
  else if x.m = 0 then some x
  else none

/-- The number of digits before the point; zero or less counts the zeros behind it. The number must not
be zero. -/
def magnitude (r : Ratio) : Int :=
  if r.den ≤ r.num then (Text.ofNat (r.num / r.den)).length
  else
    let l := (Text.ofNat (r.den / r.num)).length
    if r.den = r.num * Nat.pow 10 (l - 1) then 2 - (l : Int) else 1 - (l : Int)

/-- A decimal number with `n` digits that is rounded to `x`, the nearest one if there are several, with
the exponent of its last digit. -/
def decimal? (x : Double) (n : Nat) : Option (Nat × Int) :=
  let k := magnitude x.ratio - n
  let r := x.ratio.scale 10 (-k)
  let fits (d : Nat) : Bool := ofRatio? (Ratio.scale ⟨d, 1⟩ 10 k) == some x
  let near := r.nearest
  let far := if near = r.num / r.den then near + 1 else near - 1
  if fits near then some (near, k) else if fits far then some (far, k) else none

/-- The shortest decimal number that is rounded to `x`. Seventeen digits are always enough. -/
def shortest (x : Double) : Nat × Int :=
  ((List.range 17).findSome? fun n => x.decimal? (n + 1)).getD (0, 0)

def dropZeros : (fuel : Nat) → Nat × Int → Nat × Int
  | 0, p => p
  | fuel + 1, (d, k) => if d ≠ 0 ∧ d % 10 = 0 then dropZeros fuel (d / 10, k + 1) else (d, k)

def decimalText (d : Nat) (k : Int) : Text :=
  let digits := Text.ofNat d
  let point := digits.length + k
  if 0 ≤ k ∧ point ≤ 16 then digits ++ List.replicate k.toNat '0' ++ ".0".toList
  else if 0 < point ∧ point ≤ 16 then
    digits.take point.toNat ++ '.' :: digits.drop point.toNat
  else if -5 < point ∧ point ≤ 0 then
    "0.".toList ++ List.replicate (-point).toNat '0' ++ digits
  else
    let exponent := if point ≤ 0 then '-' :: Text.ofNat (1 - point).toNat
      else Text.ofNat (point - 1).toNat
    match digits with
    | first :: more@(_ :: _) => first :: '.' :: more ++ 'e' :: exponent
    | _ => digits ++ 'e' :: exponent

def text (x : Double) : Text :=
  if x.m = 0 then "0.0".toList
  else
    let (d, k) := dropZeros 20 x.shortest
    decimalText d k

end Double

end Userscript.Json
