/-!
Text as this library handles it: a list of characters, so that every function on text is a recursion
on the list. This module holds blanks, trimming, words, lines, and cutting at a character or a phrase.

Blank means the White_Space property. A line ends after its line feed; the last line may have none.
-/

namespace Userscript

abbrev Text := List Char

namespace Text

/-! ## Blanks -/

def isBlank (c : Char) : Bool :=
  let n := c.toNat
  (9 ≤ n && n ≤ 13) || n == 0x20 || n == 0x85 || n == 0xA0 || n == 0x1680 ||
    (0x2000 ≤ n && n ≤ 0x200A) || n == 0x2028 || n == 0x2029 || n == 0x202F || n == 0x205F ||
    n == 0x3000

def trimStart (t : Text) : Text := t.dropWhile isBlank

def trimEnd (t : Text) : Text := (t.reverse.dropWhile isBlank).reverse

def trim (t : Text) : Text := trimEnd (trimStart t)

/-! ## Cutting -/

/-- The pieces between the characters of a kind; one more than there are such characters. -/
def splitWhere (isSep : Char → Bool) : Text → List Text
  | [] => [[]]
  | c :: r =>
    if isSep c then [] :: splitWhere isSep r
    else match splitWhere isSep r with
      | p :: ps => (c :: p) :: ps
      | [] => [[c]]

def splitOn (sep : Char) (t : Text) : List Text := splitWhere (· == sep) t

/-- The maximal runs of characters that are not blank, in order. -/
def words (t : Text) : List Text := (splitWhere isBlank t).filter (! ·.isEmpty)

def cutAt (sep : Char) : Text → Option (Text × Text)
  | [] => none
  | c :: r => if c = sep then some ([], r) else (cutAt sep r).map fun (a, b) => (c :: a, b)

/-- The rest of the text when it begins with a phrase. -/
def after? : (phrase : Text) → Text → Option Text
  | [], t => some t
  | _ :: _, [] => none
  | p :: ps, c :: r => if p = c then after? ps r else none

def cutAtPhrase (phrase : Text) : Text → Option (Text × Text)
  | [] => (after? phrase []).map fun rest => ([], rest)
  | c :: r =>
    match after? phrase (c :: r) with
    | some rest => some ([], rest)
    | none => (cutAtPhrase phrase r).map fun (a, b) => (c :: a, b)

def hasPhrase (phrase t : Text) : Bool := (cutAtPhrase phrase t).isSome

/-- The text without its last characters when these are a given phrase. -/
def beforeSuffix? (phrase t : Text) : Option Text :=
  (after? phrase.reverse t.reverse).map List.reverse

def replaceChar (old : Char) (new : Text) (t : Text) : Text :=
  t.flatMap fun c => if c = old then new else [c]

/-- Replaces a phrase from left to right. The search goes on behind each occurrence. -/
def replacePhrase (old new t : Text) : Text :=
  match t with
  | [] => []
  | c :: rest =>
    if (after? old t).isSome then new ++ replacePhrase old new (rest.drop (old.length - 1))
    else c :: replacePhrase old new rest
termination_by t.length
decreasing_by all_goals simp_all; try omega

def join (sep : Text) : List Text → Text
  | [] => []
  | [t] => t
  | t :: u :: ts => t ++ sep ++ join sep (u :: ts)

/-! ## Lines -/

/-- The lines of a text, each with its line feed; nothing is lost. -/
def rawLines : Text → List Text
  | [] => []
  | c :: r =>
    if c = '\n' then [c] :: rawLines r
    else match rawLines r with
      | l :: ls => (c :: l) :: ls
      | [] => [[c]]

/-- A line without its line feed and without one carriage return directly before that. A line that
ends without a line feed keeps its carriage return. -/
def lineBody (line : Text) : Text :=
  match line.reverse with
  | '\n' :: '\r' :: r => r.reverse
  | '\n' :: r => r.reverse
  | _ => line

def lines (t : Text) : List Text := (rawLines t).map lineBody

def dropLineEnd (line : Text) : Text :=
  (line.reverse.dropWhile fun c => c == '\n' || c == '\r').reverse

/-! ## ASCII and numbers -/

def lowerChar (c : Char) : Char :=
  if 'A' ≤ c ∧ c ≤ 'Z' then Char.ofNat (c.toNat + 32) else c

def lower (t : Text) : Text := t.map lowerChar

def sameIgnoringCase (a b : Text) : Bool := lower a == lower b

def isLetter (c : Char) : Bool := ('a' ≤ c && c ≤ 'z') || ('A' ≤ c && c ≤ 'Z')

def isDigit (c : Char) : Bool := '0' ≤ c && c ≤ '9'

def hexValue? (c : Char) : Option Nat :=
  if '0' ≤ c ∧ c ≤ '9' then some (c.toNat - 48)
  else if 'a' ≤ c ∧ c ≤ 'f' then some (c.toNat - 87)
  else if 'A' ≤ c ∧ c ≤ 'F' then some (c.toNat - 55)
  else none

/-- The value of a text of digits in a base; none when some character is no digit of that base. The
empty text has the value zero. -/
def digitsValue? (base : Nat) (t : Text) : Option Nat :=
  t.foldl (fun acc c => do
    let n ← acc
    let d ← hexValue? c
    if d < base then some (n * base + d) else none) (some 0)

def ofNat (n : Nat) : Text := Nat.toDigits 10 n

def hexOfNat (n : Nat) : Text := Nat.toDigits 16 n

end Text

end Userscript
