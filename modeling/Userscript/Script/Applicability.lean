import Userscript.Script.Basic

/-!
Which scripts run on a page. An exclude pattern keeps a script away; otherwise an include pattern lets
it in; otherwise a match pattern must match, and these match only what can be parsed as an address.
-/

namespace Userscript

/-- The address of a page, and what it is parsed to. -/
structure Page where
  address : Text
  url : Option Url

namespace Page

def ofAddress (address : Text) : Page := ⟨address, Url.parse? address⟩

def runs (page : Page) (s : Script) : Bool :=
  !s.excludePatterns.any (·.isMatch page.address) &&
    (s.includePatterns.any (·.isMatch page.address) ||
      page.url.any fun url => s.matchPatterns.any (·.isMatchUrl url))

def applicable (page : Page) (scripts : List Script) : List Script := scripts.filter page.runs

end Page

def Script.isApplicable (s : Script) (address : Text) : Bool := (Page.ofAddress address).runs s

end Userscript
