import Userscript.Pattern.Glob
import Userscript.Url.Parser

/-!
Match patterns: a scheme, a host and a path, as in `https://*.example.com/app/*`. The host stands for
itself or, behind `*.`, also for everything below it; the path is a glob for path and query.
-/

namespace Userscript

inductive SchemePattern where
  /-- Either of the two. -/
  | web
  | http
  | https
  deriving DecidableEq, Repr

namespace SchemePattern

def parse? (t : Text) : Option SchemePattern :=
  if t = ['*'] then some web
  else if t = "http".toList then some http
  else if t = "https".toList then some https
  else none

def isMatch (p : SchemePattern) (scheme : Text) : Bool :=
  match p with
  | web => scheme == "http".toList || scheme == "https".toList
  | http => scheme == "http".toList
  | https => scheme == "https".toList

end SchemePattern

inductive HostPattern where
  | any
  /-- The host itself and every host below it. -/
  | below (base : Text)
  | exact (base : Text)
  deriving DecidableEq, Repr

namespace HostPattern

/-- Takes `*.` off the front as often as it stands there. More than one says no more than one. -/
def bare : Text → Text
  | '*' :: '.' :: r => bare r
  | t => t

def parse? (t : Text) : Option HostPattern :=
  if t = ['*'] then some any
  else
    let base := bare t
    if base.isEmpty || base.contains '*' then none
    else if base.length < t.length then some (below (Text.lower base))
    else some (exact (Text.lower base))

def namesPort : HostPattern → Bool
  | any => false
  | below base | exact base => base.contains ':'

def isMatch (p : HostPattern) (host : Text) : Bool :=
  match p with
  | any => true
  | exact base => host == base
  | below base => host == base || (Text.beforeSuffix? ('.' :: base) host).isSome

end HostPattern

structure MatchPattern where
  source : Text
  scheme : SchemePattern
  host : HostPattern
  path : Text
  deriving DecidableEq, Repr

namespace MatchPattern

def allUrls : Text := "<all_urls>".toList

/-- The pattern for every web address is read as one with wildcards throughout. -/
def normalize (t : Text) : Text := if t = allUrls then "*://*/*".toList else t

def parse? (source : Text) : Option MatchPattern := do
  let (scheme, rest) ← Text.cutAtPhrase "://".toList (normalize source)
  let scheme ← SchemePattern.parse? scheme
  let (host, path) ← Text.cutAt '/' rest
  let host ← HostPattern.parse? host
  some { source, scheme, host, path := '/' :: path }

def isValid (t : Text) : Bool := (parse? t).isSome

/-- Whether a parsed address matches. A pattern that names a port is compared with host and port, any
other with the host alone. -/
def isMatchUrl (p : MatchPattern) (u : Url) : Bool :=
  p.scheme.isMatch u.scheme &&
    (if p.host.namesPort then u.hostWithPort? else u.hostText?).any p.host.isMatch &&
    Glob.isMatch p.path u.pathAndQuery

/-- Whether an address matches. A text that is no address matches nothing. -/
def isMatch (p : MatchPattern) (address : Text) : Bool :=
  (Url.parse? address).any p.isMatchUrl

end MatchPattern

end Userscript
