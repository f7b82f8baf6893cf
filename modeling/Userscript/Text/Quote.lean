import Userscript.Text.Property

/-!
Texts as they are shown in messages, between quotation marks. What could not be seen or would join the
character before it is shown by its number.
-/

namespace Userscript.Text

def quotedChar (c : Char) : Text :=
  if c = '"' then "\\\"".toList
  else if c = '\\' then "\\\\".toList
  else if c = '\n' then "\\n".toList
  else if c = '\r' then "\\r".toList
  else if c = '\t' then "\\t".toList
  else if c.toNat = 0 then "\\0".toList
  else if c ≠ ' ' ∧ (Unicode.graphemeExtend.contains c ∨ Unicode.invisible.contains c) then
    "\\u\x7b".toList ++ hexOfNat c.toNat ++ "\x7d".toList
  else [c]

def quoted (t : Text) : Text := '"' :: t.flatMap quotedChar ++ ['"']

end Userscript.Text
