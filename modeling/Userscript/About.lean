import Userscript.Text.Basic

/-!
The name and the version of the proxy, as they appear in what it writes into documents.
-/

namespace Userscript.About

def name : Text := "Userscript Proxy".toList

def version : Text := "0.12.0".toList

end Userscript.About
