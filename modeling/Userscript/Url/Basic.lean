import Userscript.Url.Host

/-!
Addresses of resources, taken apart: what scripts and patterns are compared with.
-/

namespace Userscript

/-- A parsed address. The fragment and the user are not kept. -/
structure Url where
  /-- In lower case. -/
  scheme : Text
  host : Option Url.Host
  /-- Only where it differs from the port that the scheme implies. -/
  port : Option Nat
  path : Text
  query : Option Text
  deriving DecidableEq, Repr

namespace Url

inductive SchemeKind where
  /-- Addresses with a host that is a domain or an address of a machine. -/
  | web
  | file
  | other
  deriving DecidableEq

def SchemeKind.ofScheme (scheme : Text) : SchemeKind :=
  if scheme = "http".toList ∨ scheme = "https".toList ∨ scheme = "ws".toList ∨
      scheme = "wss".toList ∨ scheme = "ftp".toList then .web
  else if scheme = "file".toList then .file
  else .other

def defaultPort? (scheme : Text) : Option Nat :=
  if scheme = "http".toList ∨ scheme = "ws".toList then some 80
  else if scheme = "https".toList ∨ scheme = "wss".toList then some 443
  else if scheme = "ftp".toList then some 21
  else none

def hostText? (u : Url) : Option Text := u.host.map Host.text

/-- The host, a colon and the port, the one that the scheme implies if the address has none. -/
def hostWithPort? (u : Url) : Option Text := do
  let host ← u.hostText?
  let port ← u.port <|> defaultPort? u.scheme
  some (host ++ ':' :: Text.ofNat port)

def pathAndQuery (u : Url) : Text :=
  match u.query with
  | some q => u.path ++ '?' :: q
  | none => u.path

/-- Decodes a name or a value of a query: a plus sign is a space, the rest is percent-encoded. -/
def decodeParameter (t : Text) : Text :=
  Text.decodeUtf8 (percentDecode (t.map fun c => if c = '+' then ' ' else c))

def parameterNames (query : Text) : List Text :=
  ((Text.splitOn '&' query).filter (! ·.isEmpty)).map fun part =>
    decodeParameter (part.takeWhile (· != '='))

def hasParameter (u : Url) (name : Text) : Bool :=
  (parameterNames (u.query.getD [])).contains name

end Url

end Userscript
