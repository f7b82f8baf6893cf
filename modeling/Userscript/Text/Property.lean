import Userscript.Text.Unicode.Age
import Userscript.Text.Unicode.Binary
import Userscript.Text.Unicode.Category
import Userscript.Text.Unicode.Script
import Userscript.Text.Unicode.Segment

/-!
Character properties asked for by name, and the properties this library uses itself. Names are
compared loosely: case, blanks, hyphens and underscores do not count, nor does a leading `is`.
-/

namespace Userscript.Unicode

/-- A name as it is compared: ASCII letters in lower case, without blanks, hyphens, underscores and
characters outside ASCII, and without a leading `is`. The name `isc` keeps its `is`, since `c` alone
names something else. -/
def looseName (name : Text) : Text :=
  let squeeze (t : Text) : Text :=
    (t.filter fun c => c != ' ' && c != '_' && c != '-' && c.toNat < 128).map Text.lowerChar
  match name with
  | a :: b :: rest =>
    if Text.lowerChar a = 'i' ∧ Text.lowerChar b = 's' then
      if squeeze rest = ['c'] then ['i', 's', 'c'] else squeeze rest
    else squeeze name
  | _ => squeeze name

def categoryGroups : List (List String × List String) := [
  (["c", "other"], ["cc", "cf", "cn", "co"]),
  (["l", "letter"], ["ll", "lm", "lo", "lt", "lu"]),
  (["lc", "casedletter"], ["ll", "lt", "lu"]),
  (["m", "mark", "combiningmark"], ["mc", "me", "mn"]),
  (["n", "number"], ["nd", "nl", "no"]),
  (["p", "punctuation", "punct"], ["pc", "pd", "pe", "pf", "pi", "po", "ps"]),
  (["s", "symbol"], ["sc", "sk", "sm", "so"]),
  (["z", "separator"], ["zl", "zp", "zs"])]

/-- A set of code points as a union of tables or the complement of one table. -/
inductive PropertySet where
  | anyOf (tables : List RangeTable)
  | noneOf (table : RangeTable)

namespace PropertySet

def contains : PropertySet → Char → Bool
  | anyOf tables, c => tables.any (·.contains c.toNat)
  | noneOf table, c => !table.contains c.toNat

def rangeCount : PropertySet → Nat
  | anyOf tables => (tables.map List.length).foldr Nat.add 0
  | noneOf table => table.length + 1

end PropertySet

/-- The set of a general category or of a union of them; `any`, `assigned` and `ascii` count among
the categories. -/
def category? (name : Text) : Option PropertySet :=
  if name = "any".toList then some (.noneOf [])
  else if name = "ascii".toList then some (.anyOf [[(0, 127)]])
  else if name = "assigned".toList then
    (NamedRanges.find? categories "cn".toList).map .noneOf
  else match categoryGroups.find? fun g => g.1.any fun n => n.toList == name with
    | some g => some (.anyOf (g.2.filterMap fun n => NamedRanges.find? categories n.toList))
    | none => (NamedRanges.find? categories name).map fun t => .anyOf [t]

/-- The code points that a version of the standard and all earlier versions introduced. -/
def age? (version : Text) : Option PropertySet :=
  let older := ages.takeWhile fun t => !(t.names.any fun n => n.toList == version)
  match ages.drop older.length with
  | t :: _ => some (.anyOf ((older ++ [t]).map fun t => RangeTable.decode t.written))
  | [] => none

/-- The set that a bare name stands for: a binary property, else a category, else a script. The names
`cf`, `sc` and `lc` are categories. -/
def byName? (name : Text) : Option PropertySet :=
  let name := looseName name
  let single (tables : List NamedRanges) : Option PropertySet :=
    (NamedRanges.find? tables name).map fun t => .anyOf [t]
  single binaryProperties <|> category? name <|> single scripts

def byValue? (property value : Text) : Option PropertySet :=
  let property := looseName property
  let value := looseName value
  let named (names : List String) : Bool := names.any fun n => n.toList == property
  let single (tables : List NamedRanges) : Option PropertySet :=
    (NamedRanges.find? tables value).map fun t => .anyOf [t]
  if named ["gc", "generalcategory"] then category? value
  else if named ["sc", "script"] then single scripts
  else if named ["scx", "scriptextensions"] then single scriptExtensions
  else if named ["age"] then age? value
  else if named ["gcb", "graphemeclusterbreak"] then single graphemeBreaks
  else if named ["wb", "wordbreak"] then single wordBreaks
  else if named ["sb", "sentencebreak"] then single sentenceBreaks
  else none

private def categoryTable (name : String) : RangeTable :=
  (NamedRanges.find? categories name.toList).getD []

private def binaryTable (name : String) : RangeTable :=
  (NamedRanges.find? binaryProperties name.toList).getD []

def decimalDigit : PropertySet := .anyOf [categoryTable "nd"]

/-- The characters of words: alphabetic characters, marks, decimal digits, connectors and joiners. -/
def word : PropertySet :=
  .anyOf [binaryTable "alphabetic", categoryTable "nd", categoryTable "pc", categoryTable "mn",
    categoryTable "mc", categoryTable "me", binaryTable "joincontrol"]

def alphabetic : PropertySet := .anyOf [binaryTable "alphabetic"]

def alphanumeric : PropertySet :=
  .anyOf [binaryTable "alphabetic", categoryTable "nd", categoryTable "nl", categoryTable "no"]

def graphemeExtend : PropertySet := .anyOf [binaryTable "graphemeextend"]

def mark : PropertySet := .anyOf [categoryTable "mn", categoryTable "mc", categoryTable "me"]

/-- Characters with no visible form of their own: controls, formats, private and unassigned
characters, and all separators. The space counts among them. -/
def invisible : PropertySet :=
  .anyOf [categoryTable "cc", categoryTable "cf", categoryTable "co", categoryTable "cn",
    categoryTable "zl", categoryTable "zp", categoryTable "zs"]

end Userscript.Unicode
