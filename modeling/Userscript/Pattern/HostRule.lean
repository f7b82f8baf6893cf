import Userscript.Pattern.Address

/-!
Host rules, one to a host or family of hosts. A rule between slashes is an expression; any other rule is
a glob for hosts and stands for the host, everything below it, and any port unless it names one itself.
-/

namespace Userscript.HostRule

def anyPort : Text := "(:\\d+)?".toList

def regexText (rule : Text) : Text :=
  match Pattern.expression? rule with
  | some inner => inner
  | none =>
    "^(?:.+\\.)?".toList ++ Pattern.ofGlob rule ++
      (if rule.contains ':' then [] else anyPort) ++ ['$']

end Userscript.HostRule
