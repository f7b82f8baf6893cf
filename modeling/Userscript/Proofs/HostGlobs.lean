import Userscript.Proofs.LineGlobs

/-!
# Hosts that globs cover

The expression of a rule that is a glob has three parts between its ends: anything up to a dot, the glob, and a
port. So the hosts that it is found in are put together from three texts, one for each part.
-/

namespace Userscript.HostRule

open Regex

/-- What may stand before the text of a rule: nothing, or a text of one line and a dot. -/
def IsBelow (front : Text) : Prop :=
  front = [] ∨ ∃ name, front = name ++ ['.'] ∧ name ≠ [] ∧ '\n' ∉ name

/-- What may stand behind the text of a rule: nothing, or any port where the rule has no colon. The digits may be
those of any script. -/
def IsPort (rule back : Text) : Prop :=
  back = [] ∨ ':' ∉ rule ∧ ∃ digits, back = ':' :: digits ∧ digits ≠ [] ∧
    ∀ c ∈ digits, Unicode.decimalDigit.contains c = true

/-- A host that a rule covers: a text that comes from the rule when its stars give way to texts of one line, with
what may stand before and behind it. -/
def Covers (rule host : Text) : Prop :=
  ∃ front glob back, host = front ++ (glob ++ back) ∧
    IsBelow front ∧ Glob.FillsLine Eq rule glob ∧ IsPort rule back

lemma takes_prefixPiece : prefixPiece.regex.Takes IsBelow := by
  have hdot : (catAll [.chars (.single '.')]).Takes _ := takes_chars (.single '.')
  refine (((takes_run 1 true dot).catAll_cons hdot).optional true).congr fun t => or_congr_right ?_
  simp only [contains_dot_iff, CharSet.contains_single, decide_eq_true_eq, exists_eq_right]
  constructor
  · rintro ⟨name, b, rfl, ⟨hlength, hname⟩, rfl⟩
    exact ⟨name, rfl, List.ne_nil_of_length_pos hlength, fun hmem => hname '\n' hmem rfl⟩
  · rintro ⟨name, rfl, hne, hline⟩
    exact ⟨name, _, rfl, ⟨List.length_pos_of_ne_nil hne, fun c hc heq => hline (heq ▸ hc)⟩, rfl⟩

lemma takes_portPiece : portPiece.regex.Takes fun t => t = [] ∨ ∃ digits, t = ':' :: digits ∧
    digits ≠ [] ∧ ∀ c ∈ digits, Unicode.decimalDigit.contains c = true := by
  have hdigits : (catAll [.rep 1 none true (.chars .digit)]).Takes _ := takes_run 1 true .digit
  have hport := (takes_chars (.single ':')).catAll_cons hdigits
  refine ((hport.capture none).optional true).congr fun t => or_congr_right ?_
  simp only [CharSet.contains_single, decide_eq_true_eq, exists_eq_right]
  constructor
  · rintro ⟨a, digits, rfl, rfl, hlength, hdigits⟩
    exact ⟨digits, rfl, List.ne_nil_of_length_pos hlength, hdigits⟩
  · rintro ⟨digits, rfl, hne, hdigits⟩
    exact ⟨_, digits, rfl, rfl, List.length_pos_of_ne_nil hne, hdigits⟩

lemma takes_port (rule : Text) :
    (catAll ((if rule.contains ':' then [] else [portPiece]).map Piece.regex)).Takes (IsPort rule) := by
  by_cases hcolon : ':' ∈ rule
  · rw [if_pos (by simpa using hcolon)]
    refine takes_empty.congr fun t => ?_
    simp [IsPort, hcolon]
  · rw [if_neg (by simpa using hcolon)]
    refine takes_portPiece.congr fun t => ?_
    simp only [IsPort, hcolon, not_false_eq_true, true_and]

def globTree (rule : Text) : Regex := fromStartToEnd ((innerPieces rule).map Piece.regex)

theorem isMatch_globTree_iff (rule host : Text) : (globTree rule).isMatch host = true ↔ Covers rule host := by
  have hlike : (fun c d => (({} : Flags).literal c).contains d = true) = Eq := by
    funext c d
    simp [Flags.literal, eq_comm]
  have hglob := takes_globPieces {} rule
  rw [hlike] at hglob
  have hinner : (innerPieces rule).map Piece.regex = prefixPiece.regex ::
      ((rule.map (globPiece {} dot)).map Piece.regex ++
        (if rule.contains ':' then [] else [portPiece]).map Piece.regex) := by
    rw [innerPieces, List.map_cons, List.map_append]
  rw [globTree, hinner,
    isMatch_fromStartToEnd_iff (takes_prefixPiece.catAll_cons (hglob.catAll_append (takes_port rule)))]
  constructor
  · rintro ⟨front, _, rfl, hfront, glob, back, rfl, hglob, hback⟩
    exact ⟨front, glob, back, rfl, hfront, hglob, hback⟩
  · rintro ⟨front, glob, back, rfl, hfront, hglob, hback⟩
    exact ⟨front, _, rfl, hfront, glob, back, rfl, hglob, hback⟩

lemma parse_regexText_of_glob {rule : Text} (hglob : Pattern.expression? rule = none)
    (hsize : (globTree rule).footprint ≤ footprintLimit) :
    parse {} (regexText rule) = some (globTree rule) := by
  have hread := read_regexText_of_glob hglob
  rw [globState, globPieces_eq] at hread
  exact parse_of_read_fromStartToEnd (depth_innerPieces_le rule) hread hsize

/-- A rule that is a glob and not too large has an expression, which is found in just the hosts that the rule
covers. -/
theorem compileRule_of_glob {rule : Text} (hglob : Pattern.expression? rule = none)
    (hsize : (globTree rule).footprint ≤ footprintLimit) :
    ∃ text r, RuleSet.compileRule rule = .ok text ∧ parse {} text = some r ∧
      ∀ host, r.isMatch host = true ↔ Covers rule host := by
  refine ⟨_, _, ?_, parse_regexText_of_glob hglob hsize, isMatch_globTree_iff rule⟩
  simp [RuleSet.compileRule, hglob]

/-- A star, a sign that expressions use, and a port of the rule's own. -/
theorem compileRule_of_star : ∃ text r, RuleSet.compileRule "a*+:8".toList = .ok text ∧
    parse {} text = some r ∧ r.isMatch "w.a.b+:8".toList = true := by
  have hglob : Pattern.expression? "a*+:8".toList = none := by decide
  obtain ⟨text, r, hrule, hparse, hmatch⟩ := compileRule_of_glob hglob (by decide +kernel)
  have hfills : Glob.FillsLine Eq "a*+:8".toList "a.b+:8".toList := by
    have hpattern : "a*+:8".toList = ['a', '*', '+', ':', '8'] := by decide
    have htext : "a.b+:8".toList = 'a' :: (['.', 'b'] ++ ['+', ':', '8']) := by decide
    rw [hpattern, htext]
    exact .literal (by decide) rfl (.star (by decide) (.literal (by decide) rfl
      (.literal (by decide) rfl (.literal (by decide) rfl .nil))))
  exact ⟨text, r, hrule, hparse, (hmatch _).mpr ⟨"w.".toList, "a.b+:8".toList, [], by decide,
    Or.inr ⟨"w".toList, by decide, by decide, by decide⟩, hfills, Or.inl rfl⟩⟩

end Userscript.HostRule
