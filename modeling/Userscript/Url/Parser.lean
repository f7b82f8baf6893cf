import Userscript.Url.Basic

/-!
Reading an address. Blanks and controls around it and tabs and line breaks within do not count. Web
addresses take backslashes for slashes, any number of slashes before the host, and always have a host;
other schemes have a host after two slashes, and a path that is not split into segments when it does not
begin with a slash.
-/

namespace Userscript.Url

def isSlash (kind : SchemeKind) (c : Char) : Bool := c == '/' || (kind != .other && c == '\\')

def isSingleDot (segment : Text) : Bool :=
  let s := Text.lower segment
  s == ['.'] || s == "%2e".toList

def isDoubleDot (segment : Text) : Bool :=
  let s := Text.lower segment
  s == "..".toList || s == ".%2e".toList || s == "%2e.".toList || s == "%2e%2e".toList

/-- Whether a segment names a drive: a letter and a colon, or a bar in its place. -/
def isDrive (segment : Text) : Bool :=
  match segment with
  | [a, b] => Text.isLetter a && (b == ':' || b == '|')
  | _ => false

/-- The directory above. Files never leave their drive. -/
def parent (kind : SchemeKind) (segments : List Text) : List Text :=
  match segments with
  | [drive] => if kind == .file && isDrive drive then [drive] else []
  | s => s.dropLast

/-- Adds segments to a path. A segment of dots at the end leaves an empty one behind. -/
def addSegments (kind : SchemeKind) (path : List Text) : List Text → List Text
  | [] => path
  | s :: rest =>
    if isDoubleDot s then
      let path := parent kind path
      addSegments kind (if rest.isEmpty then path ++ [[]] else path) rest
    else if isSingleDot s then addSegments kind (if rest.isEmpty then path ++ [[]] else path) rest
    else
      let encoded := percentEncode EncodeSet.path s
      let segment := match encoded with
        | [a, '|'] => if kind == .file && path.isEmpty && isDrive encoded then [a, ':'] else encoded
        | _ => encoded
      addSegments kind (path ++ [segment]) rest

def pathText (segments : List Text) : Text := segments.flatMap fun s => '/' :: s

def readPath (kind : SchemeKind) (t : Text) : Text :=
  pathText (addSegments kind [] (Text.splitWhere (isSlash kind) t))

def cutAuthority (kind : SchemeKind) (t : Text) : Text × Text :=
  let ends (c : Char) : Bool := c == '?' || c == '#' || isSlash kind c
  (t.takeWhile (! ends ·), t.dropWhile (! ends ·))

/-- Cuts a user off the front of an authority: everything before the last at sign. -/
def cutUser (t : Text) : Option Text × Text :=
  let host := (t.reverse.takeWhile (· != '@')).reverse
  if host.length = t.length then (none, t) else (some (t.take (t.length - host.length - 1)), host)

def namesUser (user : Text) : Bool := user != [] && user != [':']

/-- Cuts the port off a host at the first colon that is not between brackets. -/
def cutPort (inBrackets : Bool) : Text → Text × Option Text
  | [] => ([], none)
  | c :: r =>
    if c = ':' ∧ ¬inBrackets then ([], some r)
    else
      let (host, port) := cutPort (c = '[' ∨ (inBrackets ∧ c ≠ ']')) r
      (c :: host, port)

def portLimit : Nat := 65535

/-- Reads a port; none of digits, or the one that the scheme implies, is no port. -/
def port? (scheme digits : Text) : Option (Option Nat) := do
  if !digits.all Text.isDigit then none
  let n ← Text.digitsValue? 10 digits
  if portLimit < n then none
  some (if digits.isEmpty ∨ some n = defaultPort? scheme then none else some n)

/-- Reads a host. The text must not be empty in web addresses, and names no host elsewhere. -/
def host? (kind : SchemeKind) (t : Text) : Option (Option Host) :=
  match kind with
  | .other => if t.isEmpty then some none else (plainHost? t).map some
  | _ => (webHost? t).map some

/-- Reads an authority: the host, the port, and what is left of it. A user, a port or a web address
needs a host, and so does an at sign on its own, unless the address ends with it. A port ends at a
backslash, even where that is no slash. -/
def authority? (kind : SchemeKind) (scheme t : Text) (atEnd : Bool) :
    Option (Option Host × Option Nat × Text) := do
  let (user, t) := cutUser t
  let (name, digits) := cutPort false t
  let host ← host? kind name
  if host.isNone && (digits.isSome || user.any namesUser || (user == some [] && !atEnd)) then none
  match digits with
  | none => some (host, none, [])
  | some digits =>
    let port ← port? scheme (digits.takeWhile (· != '\\'))
    some (host, port, digits.dropWhile (· != '\\'))

/-- Cuts the fragment and the query off a text; the query is encoded. -/
def cutQuery (kind : SchemeKind) (t : Text) : Text × Option Text :=
  let t := t.takeWhile (· != '#')
  let set := if kind == .other then EncodeSet.query else EncodeSet.specialQuery
  match Text.cutAt '?' t with
  | some (t, q) => (t, some (percentEncode set q))
  | none => (t, none)

def withAuthority (kind : SchemeKind) (scheme t : Text) : Option Url := do
  let (authority, rest) := cutAuthority kind t
  let (host, port, left) ← authority? kind scheme authority rest.isEmpty
  let (path, query) := cutQuery kind (left ++ rest)
  let path :=
    if kind == .other && path.isEmpty then []
    else readPath kind (match path with | c :: r => if isSlash kind c then r else c :: r | [] => [])
  some { scheme, host, port, path, query }

/-- Reads the path of a file. Slashes at the front count once. -/
def filePath (t : Text) : Text :=
  let t := match t with | c :: r => if isSlash .file c then r else c :: r | [] => []
  '/' :: (readPath .file t).dropWhile (· == '/')

/-- Reads what follows `file:`. The own machine is no host, and a drive in the place of a host belongs
to the path. -/
def fileUrl? (scheme t : Text) : Option Url :=
  match t with
  | a :: b :: r =>
    if isSlash .file a ∧ isSlash .file b then do
      let (name, rest) := cutAuthority .file r
      let named (host : Option Host) (rest : Text) : Url :=
        let (path, query) := cutQuery .file rest
        { scheme, host, port := none, path := filePath path, query }
      if isDrive name then some (named none r)
      else if name.isEmpty then some (named none rest)
      else
        let host ← webHost? name
        some (named (if host = .domain "localhost".toList then none else some host) rest)
    else some (onMachine t)
  | t => some (onMachine t)
where
  onMachine (t : Text) : Url :=
    let (path, query) := cutQuery .file t
    { scheme, host := none, port := none, path := filePath path, query }

def otherUrl? (scheme t : Text) : Option Url :=
  match t with
  | '/' :: '/' :: r => withAuthority .other scheme r
  | t =>
    let (path, query) := cutQuery .other t
    let path := match path with
      | '/' :: r => readPath .other r
      | path => percentEncode EncodeSet.controls path
    some { scheme, host := none, port := none, path, query }

def cutScheme? (t : Text) : Option (Text × Text) := do
  let (scheme, rest) ← Text.cutAt ':' t
  let isSchemeChar (c : Char) : Bool :=
    Text.isLetter c || Text.isDigit c || c == '+' || c == '-' || c == '.'
  if scheme.head?.any Text.isLetter && scheme.all isSchemeChar then some (Text.lower scheme, rest)
  else none

def clean (t : Text) : Text :=
  let isOuter (c : Char) : Bool := c.toNat ≤ 0x20
  let inner := ((t.dropWhile isOuter).reverse.dropWhile isOuter).reverse
  inner.filter fun c => c != '\t' && c != '\n' && c != '\r'

/-- Reads an address. A text without a scheme is none. -/
def parse? (t : Text) : Option Url := do
  let (scheme, rest) ← cutScheme? (clean t)
  match SchemeKind.ofScheme scheme with
  | .web => withAuthority .web scheme (rest.dropWhile (isSlash .web))
  | .file => fileUrl? scheme rest
  | .other => otherUrl? scheme rest

end Userscript.Url
