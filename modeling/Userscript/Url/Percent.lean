import Userscript.Text.Utf8

/-!
Percent-encoding. A set says which ASCII characters are encoded; everything outside ASCII always is.
The sets grow from one another as the parts of a URL need them.
-/

namespace Userscript.Url

abbrev EncodeSet := Char → Bool

namespace EncodeSet

def controls : EncodeSet := fun c => c.toNat < 0x20 || 0x7F ≤ c.toNat

def path : EncodeSet := fun c =>
  controls c || c == ' ' || c == '"' || c == '<' || c == '>' || c == Char.ofNat 0x60 || c == '#' ||
    c == '?' || c == '{' || c == '}'

def query : EncodeSet := fun c =>
  controls c || c == ' ' || c == '"' || c == '#' || c == '<' || c == '>'

def specialQuery : EncodeSet := fun c => query c || c == '\''

end EncodeSet

def percentByte (b : UInt8) : Text :=
  let digit (n : Nat) : Char := Char.ofNat (if n < 10 then 48 + n else 55 + n)
  ['%', digit (b.toNat / 16), digit (b.toNat % 16)]

def percentEncode (set : EncodeSet) (t : Text) : Text :=
  t.flatMap fun c => if set c then (Text.utf8Char c).flatMap percentByte else [c]

def percentDecode : Text → List UInt8
  | [] => []
  | '%' :: a :: b :: r =>
    match Text.hexValue? a, Text.hexValue? b with
    | some x, some y => UInt8.ofNat (x * 16 + y) :: percentDecode r
    | _, _ => Text.utf8Char '%' ++ percentDecode (a :: b :: r)
  | c :: r => Text.utf8Char c ++ percentDecode r

end Userscript.Url
