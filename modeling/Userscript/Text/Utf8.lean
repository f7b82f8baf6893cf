import Userscript.Text.Basic

/-!
Characters as bytes. Decoding never fails: every part that is no character, as far as it could have
begun one, becomes the replacement character.
-/

namespace Userscript.Text

def utf8Char (c : Char) : List UInt8 :=
  let n := c.toNat
  let tail (shift : Nat) : UInt8 := UInt8.ofNat (0x80 + n / Nat.pow 2 shift % 64)
  if n < 0x80 then [UInt8.ofNat n]
  else if n < 0x800 then [UInt8.ofNat (0xC0 + n / 64), tail 0]
  else if n < 0x10000 then [UInt8.ofNat (0xE0 + n / 4096), tail 6, tail 0]
  else [UInt8.ofNat (0xF0 + n / 262144), tail 12, tail 6, tail 0]

def utf8 (t : Text) : List UInt8 := t.flatMap utf8Char

/-- A character whose first bytes have been read: how many are missing, the bounds of the next byte,
and the value so far. -/
structure Partial where
  missing : Nat
  least : Nat
  most : Nat
  value : Nat

/-- Reads a byte at the start of a character: what it gives at once, and what it begins. -/
def readLead (b : UInt8) : Text × Option Partial :=
  let n := b.toNat
  if n < 0x80 then ([Char.ofNat n], none)
  else if 0xC2 ≤ n ∧ n ≤ 0xDF then ([], some ⟨1, 0x80, 0xBF, n - 0xC0⟩)
  else if 0xE0 ≤ n ∧ n ≤ 0xEF then
    ([], some ⟨2, if n = 0xE0 then 0xA0 else 0x80, if n = 0xED then 0x9F else 0xBF, n - 0xE0⟩)
  else if 0xF0 ≤ n ∧ n ≤ 0xF4 then
    ([], some ⟨3, if n = 0xF0 then 0x90 else 0x80, if n = 0xF4 then 0x8F else 0xBF, n - 0xF0⟩)
  else (['\uFFFD'], none)

def decodeUtf8From : Option Partial → List UInt8 → Text
  | none, [] => []
  | some _, [] => ['\uFFFD']
  | none, b :: r =>
    let (out, next) := readLead b
    out ++ decodeUtf8From next r
  | some p, b :: r =>
    if p.least ≤ b.toNat ∧ b.toNat ≤ p.most then
      let value := p.value * 64 + (b.toNat - 0x80)
      if p.missing = 1 then Char.ofNat value :: decodeUtf8From none r
      else decodeUtf8From (some ⟨p.missing - 1, 0x80, 0xBF, value⟩) r
    else
      let (out, next) := readLead b
      '\uFFFD' :: (out ++ decodeUtf8From next r)

def decodeUtf8 (bytes : List UInt8) : Text := decodeUtf8From none bytes

end Userscript.Text
