import Userscript.Text.Basic

/-!
Nonces: texts used once, by which a page tells its own code from foreign code.
-/

namespace Userscript.Nonce

def byteCount : Nat := 32

def ofByte (b : UInt8) : Text := (if b < 16 then ['0'] else []) ++ Text.hexOfNat b.toNat

def ofBytes (bytes : List UInt8) : Text := bytes.flatMap ofByte

/-- A supply of nonces, and how many of them have been spent. -/
structure Supply where
  nth : Nat → Text
  spent : Nat

namespace Supply

def next (s : Supply) : Text := s.nth s.spent

def spend (s : Supply) : Supply := { s with spent := s.spent + 1 }

end Supply

end Userscript.Nonce
