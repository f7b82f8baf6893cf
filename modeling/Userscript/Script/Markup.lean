import Userscript.Text.CaseFold

/-!
Sequences that no inline script may contain, since they end or spoil the element around it. They count
in any letter case.
-/

namespace Userscript.Markup

def unsafeSequences : List Text := ["<!--".toList, "<script".toList, "</script".toList]

/-- Whether a text begins with a phrase when letter case does not count. -/
def beginsWith (phrase t : Text) : Bool := (Text.after? (Text.fold phrase) (Text.fold t)).isSome

def unsafeLength? (t : Text) : Option Nat :=
  (unsafeSequences.find? fun s => beginsWith s (t.take s.length)).map List.length

/-- The unsafe sequences in a text, in order and as written. The search goes on behind each. -/
def unsafeIn (t : Text) : List Text :=
  match t with
  | [] => []
  | _ :: rest =>
    match unsafeLength? t with
    | some n => t.take n :: unsafeIn (rest.drop (n - 1))
    | none => unsafeIn rest
termination_by t.length
decreasing_by all_goals simp_all; try omega

end Userscript.Markup
