import Userscript.Text.Basic

/-!
Globs, in which `*` stands for any run of characters. The first literal must sit at the start, the last
at the end, and those in between are found from left to right, each as early as possible.
-/

namespace Userscript.Glob

/-- Finds literals one after another and gives what is left. -/
def skipLiterals? : List Text → Text → Option Text
  | [], t => some t
  | l :: ls, t => do
    let (_, rest) ← Text.cutAtPhrase l t
    skipLiterals? ls rest

def isMatch (pattern t : Text) : Bool :=
  match Text.splitOn '*' pattern with
  | [] => t.isEmpty
  | first :: literals =>
    match Text.after? first t with
    | none => false
    | some rest =>
      match literals.getLast? with
      | none => rest.isEmpty
      | some last =>
        match skipLiterals? literals.dropLast rest with
        | some rest => (Text.beforeSuffix? last rest).isSome
        | none => false

end Userscript.Glob
