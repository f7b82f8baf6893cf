import Userscript.Text.Basic

/-!
Texts of all characters written with letters, digits and hyphens. The ASCII characters come first; then
numbers tell, one for each other character in ascending order, how far to move through all places where
a character of each value could be put. Each number is written in digits whose weight depends on the
place and adapts to the numbers before.
-/

namespace Userscript.Url.Punycode

def firstValue : Nat := 128

def adapt (delta count : Nat) (isFirst : Bool) : Nat :=
  let d := if isFirst then delta / 700 else delta / 2
  shrink 0 (d + d / count) 20
where
  shrink (k d : Nat) : (fuel : Nat) → Nat
    | 0 => k
    | fuel + 1 => if d > 455 then shrink (k + 36) (d / 35) fuel else k + 36 * d / (d + 38)

/-- The least digit value at place `k` that is not the last digit of a number. -/
def threshold (k bias : Nat) : Nat :=
  if k ≤ bias then 1 else if bias + 26 ≤ k then 26 else k - bias

def digitChar (d : Nat) : Char := Char.ofNat (if d < 26 then 97 + d else 22 + d)

def digitValue? (c : Char) : Option Nat :=
  if 'a' ≤ c ∧ c ≤ 'z' then some (c.toNat - 97)
  else if 'A' ≤ c ∧ c ≤ 'Z' then some (c.toNat - 65)
  else if '0' ≤ c ∧ c ≤ '9' then some (c.toNat - 22)
  else none

def encodeNumber (bias k q : Nat) : Text :=
  let t := threshold k bias
  if q < t then [digitChar q]
  else
    digitChar (t + (q - t) % (36 - t)) ::
      encodeNumber bias (k + 36) ((q - t) / (36 - t))
termination_by q
decreasing_by
  rename_i h
  have ht : 1 ≤ threshold k bias ∧ threshold k bias ≤ 26 := by
    unfold threshold; split <;> (try split) <;> omega
  have := Nat.div_le_self (q - threshold k bias) (36 - threshold k bias)
  omega

/-- Where the encoder stands: the pending distance, the weights, and how many characters are placed. -/
structure Encoder where
  delta : Nat
  bias : Nat
  placed : Nat
  output : Text

/-- Walks once through the text for the characters of one value. -/
def encodeValue (basic value : Nat) (t : Text) (e : Encoder) : Encoder :=
  let walked := t.foldl (fun e c =>
    if c.toNat < value then { e with delta := e.delta + 1 }
    else if c.toNat = value then
      { delta := 0
        bias := adapt e.delta (e.placed + 1) (e.placed == basic)
        placed := e.placed + 1
        output := e.output ++ encodeNumber e.bias 36 e.delta }
    else e) e
  { walked with delta := walked.delta + 1 }

def distinct : List Nat → List Nat
  | a :: b :: r => if a = b then distinct (b :: r) else a :: distinct (b :: r)
  | r => r

def valuesOf (t : Text) : List Nat :=
  distinct ((t.map Char.toNat).filter (firstValue ≤ ·)).mergeSort

def encode (t : Text) : Text :=
  let basic := t.filter (·.toNat < firstValue)
  let start : Nat × Encoder := (firstValue, ⟨0, 72, basic.length,
    basic ++ (if basic.isEmpty then [] else ['-'])⟩)
  ((valuesOf t).foldl (fun (n, e) value =>
    (value + 1, encodeValue basic.length value t
      { e with delta := e.delta + (value - n) * (e.placed + 1) })) start).2.output

/-- Where the decoder stands: the characters placed, the value and the place of the last one, and of
the number being read its sum, the weight of its next digit and that digit's place. -/
structure Decoder where
  output : Text
  value : Nat := firstValue
  position : Nat := 0
  bias : Nat := 72
  sum : Nat := 0
  weight : Nat := 1
  k : Nat := 36

/-- Reads the digits of all numbers. A text that ends within a number is refused. -/
def decodeNumbers (st : Decoder) : Text → Option Text
  | [] => if st.k = 36 then some st.output else none
  | c :: r =>
    match digitValue? c with
    | none => none
    | some d =>
      let sum := st.sum + d * st.weight
      let t := threshold st.k st.bias
      if t ≤ d then
        decodeNumbers { st with sum, weight := st.weight * (36 - t), k := st.k + 36 } r
      else
        let count := st.output.length + 1
        let place := st.position + sum
        let value := st.value + place / count
        let position := place % count
        if value.isValidChar then
          decodeNumbers
            { output := st.output.take position ++ Char.ofNat value :: st.output.drop position
              value
              position := position + 1
              bias := adapt sum count (st.position == 0) }
            r
        else none

/-- The text of a written form: what stands before the last hyphen, with the characters of the numbers
put in. A hyphen with nothing before it ends nothing and is no digit. -/
def decode? (t : Text) : Option Text :=
  let digits := (t.reverse.takeWhile (· != '-')).reverse
  let basic := (t.take (t.length - digits.length)).dropLast
  if basic.isEmpty then decodeNumbers { output := [] } t
  else if basic.all (·.toNat < firstValue) then decodeNumbers { output := basic } digits
  else none

end Userscript.Url.Punycode
