import Userscript.Proofs.CaseClasses
import Userscript.Proofs.GlobMatching
import Userscript.Proofs.SpannedTexts

/-!
# Globs as expressions

The expression of a glob takes just the texts that come from the glob when every star gives way to a text of one
line. So an address of one line is matched by a pattern that is a glob just when the glob matches it with the
letter case left out of both.
-/

namespace Userscript

open Regex

namespace Glob

/-- A text comes from a glob by putting a text of one line in the place of each star, and a character that is like
it in the place of each other one. -/
inductive FillsLine (like : Char → Char → Prop) : (pattern t : Text) → Prop where
  | nil : FillsLine like [] []
  | star {run pattern t : Text} (hrun : '\n' ∉ run) :
    FillsLine like pattern t → FillsLine like ('*' :: pattern) (run ++ t)
  | literal {c d : Char} {pattern t : Text} (hc : c ≠ '*') (hd : like c d) :
    FillsLine like pattern t → FillsLine like (c :: pattern) (d :: t)

variable {like : Char → Char → Prop} {pattern t : Text} {c : Char}

lemma fillsLine_nil_iff : FillsLine like [] t ↔ t = [] := by
  constructor
  · rintro ⟨⟩
    rfl
  · rintro rfl
    exact .nil

lemma fillsLine_star_iff :
    FillsLine like ('*' :: pattern) t ↔
      ∃ run rest, t = run ++ rest ∧ '\n' ∉ run ∧ FillsLine like pattern rest := by
  constructor
  · intro h
    cases h with
    | star hrun h => exact ⟨_, _, rfl, hrun, h⟩
    | literal hc => exact absurd rfl hc
  · rintro ⟨run, rest, rfl, hrun, h⟩
    exact .star hrun h

lemma fillsLine_literal_iff (hc : c ≠ '*') :
    FillsLine like (c :: pattern) t ↔
      ∃ d rest, t = d :: rest ∧ like c d ∧ FillsLine like pattern rest := by
  constructor
  · intro h
    cases h with
    | star => exact absurd rfl hc
    | literal _ hd h => exact ⟨_, _, rfl, hd, h⟩
  · rintro ⟨d, rest, rfl, hd, h⟩
    exact .literal hc hd h

/-- Where letters of one class are alike, a text of one line comes from a glob just when it does so with each
character replaced by the representative of its class. -/
theorem fillsLine_iff_fills_map {rep : Char → Char} (hrep : Text.Represents rep) (hline : '\n' ∉ t) :
    FillsLine (fun c d => Text.foldChar d = Text.foldChar c) pattern t ↔
      Fills (pattern.map rep) (t.map rep) := by
  have hstar : rep '*' = '*' := hrep.eq_star_iff.mpr rfl
  induction pattern generalizing t with
  | nil => rw [fillsLine_nil_iff, List.map_nil, fills_nil_iff, List.map_eq_nil_iff]
  | cons c pattern ih =>
    by_cases hc : c = '*'
    · subst hc
      rw [fillsLine_star_iff, List.map_cons, hstar, fills_star_iff]
      constructor
      · rintro ⟨run, rest, rfl, -, h⟩
        have hrest : '\n' ∉ rest := fun hmem => hline (List.mem_append_right _ hmem)
        exact ⟨run.map rep, rest.map rep, List.map_append, (ih hrest).mp h⟩
      · rintro ⟨run', rest', heq, h⟩
        obtain ⟨run, rest, rfl, rfl, rfl⟩ := List.map_eq_append_iff.mp heq
        rw [List.mem_append, not_or] at hline
        exact ⟨run, rest, rfl, hline.1, (ih hline.2).mpr h⟩
    · have hrepc : rep c ≠ '*' := fun h => hc (hrep.eq_star_iff.mp h)
      rw [fillsLine_literal_iff hc, List.map_cons, fills_literal_iff hrepc]
      constructor
      · rintro ⟨d, rest, rfl, hd, h⟩
        have hrest : '\n' ∉ rest := fun hmem => hline (List.mem_cons_of_mem _ hmem)
        exact ⟨rest.map rep, by rw [List.map_cons, hrep.eq_iff.mpr hd], (ih hrest).mp h⟩
      · rintro ⟨rest', heq, h⟩
        obtain ⟨d, rest, rfl, hd, rfl⟩ := List.map_eq_cons_iff.mp heq
        have hrest : '\n' ∉ rest := fun hmem => hline (List.mem_cons_of_mem _ hmem)
        exact ⟨d, rest, rfl, hrep.eq_iff.mp hd, (ih hrest).mpr h⟩

end Glob

namespace Regex

lemma contains_dot_iff (c : Char) : HostRule.dot.contains c = true ↔ c ≠ '\n' := by
  simp [HostRule.dot]

theorem takes_globPieces (f : Flags) (pattern : Text) :
    (catAll ((pattern.map (globPiece f HostRule.dot)).map Piece.regex)).Takes
      (Glob.FillsLine (fun c d => (f.literal c).contains d = true) pattern) := by
  induction pattern with
  | nil => exact takes_empty.congr fun t => Glob.fillsLine_nil_iff.symm
  | cons c pattern ih =>
    by_cases hc : c = '*'
    · subst hc
      have hrun := takes_run 0 (false == f.swapGreed) HostRule.dot
      refine (hrun.catAll_cons ih).congr fun t => ?_
      simp only [Glob.fillsLine_star_iff, Nat.zero_le, true_and, contains_dot_iff]
      refine exists₂_congr fun run rest => and_congr_right fun _ => and_congr_left fun _ => ?_
      exact ⟨fun h hmem => h '\n' hmem rfl, fun h d hd heq => h (heq ▸ hd)⟩
    · have hpiece : (globPiece f HostRule.dot c).regex = .chars (f.literal c) := by
        rw [globPiece, if_neg hc]
      rw [List.map_cons, List.map_cons, hpiece]
      refine ((takes_chars (f.literal c)).catAll_cons ih).congr fun t => ?_
      rw [Glob.fillsLine_literal_iff hc]
      constructor
      · rintro ⟨a, rest, rfl, ⟨d, rfl, hd⟩, h⟩
        exact ⟨d, rest, rfl, hd, h⟩
      · rintro ⟨d, rest, rfl, hd, h⟩
        exact ⟨[d], rest, rfl, ⟨d, rfl, hd⟩, h⟩

lemma parse_of_read_fromStartToEnd {d : Dialect} {t : Text} {parts : List Piece}
    (hdepth : ∀ p ∈ parts, p.depth ≤ 4)
    (hread : read d { flags := { ignoreCase := d.ignoreCase } } t =
      some (State.pushAll { flags := { ignoreCase := d.ignoreCase } }
        ({ regex := .look .textStart, depth := 0 } ::
          (parts ++ [{ regex := .look .textEnd, depth := 0 }]))))
    (hsize : (fromStartToEnd (parts.map Piece.regex)).footprint ≤ footprintLimit) :
    parse d t = some (fromStartToEnd (parts.map Piece.regex)) := by
  obtain ⟨depth, hle, halternatives⟩ := exists_alternatives_pushAll hdepth
  have hlimits : withinLimits (fromStartToEnd (parts.map Piece.regex), depth) =
      some (fromStartToEnd (parts.map Piece.regex)) :=
    withinLimits_eq_some.mpr ⟨rfl, hle.trans (by decide), hsize⟩
  -- The flags have no part in what has been pushed.
  have hpushed : (State.pushAll { flags := { ignoreCase := d.ignoreCase } }
      ({ regex := .look .textStart, depth := 0 } ::
        (parts ++ [{ regex := .look .textEnd, depth := 0 }]))).level.alternatives =
      [(fromStartToEnd (parts.map Piece.regex), depth)] := halternatives
  rw [parse_of_read hread rfl, hpushed]
  exact hlimits

end Regex

namespace AddressPattern

def flags : Flags := { ignoreCase := true }

def globTree (source : Text) : Regex :=
  fromStartToEnd ((source.map (globPiece flags HostRule.dot)).map Piece.regex)

def globState (source : Text) : State :=
  State.pushAll { flags } ({ regex := .look .textStart, depth := 0 } ::
    (source.map (globPiece flags HostRule.dot) ++ [{ regex := .look .textEnd, depth := 0 }]))

lemma read_regexText_of_glob {source : Text} (h : Pattern.expression? source = none) :
    read { ignoreCase := true } { flags } (regexText source) = some (globState source) := by
  have htext : regexText source = '^' :: (Pattern.ofGlob source ++ ['$']) := by
    rw [regexText, h]
    rfl
  have hstart : ∀ u, read { ignoreCase := true } { flags } ('^' :: u) =
      read { ignoreCase := true } (State.pushAll { flags } [⟨.look .textStart, 0, false⟩]) u :=
    fun u => read_of_step _ rfl rfl (Nat.le_refl _)
  have hend : ∀ st : State, st.flags = flags → read { ignoreCase := true } st ['$'] =
      some (st.pushAll [⟨.look .textEnd, 0, false⟩]) := by
    rintro ⟨_, names, level, scopes⟩ rfl
    rw [read_of_step _ rfl rfl (Nat.le_refl _), read_of_skip_eq_nil _ _ rfl]
    rfl
  have hdot : flags.dot? = some HostRule.dot := rfl
  rw [htext, hstart, read_ofGlob _ rfl hdot source (by decide), hend _ rfl]
  simp [globState, State.pushAll]

lemma compile_of_glob {source : Text} (h : Pattern.expression? source = none)
    (hsize : (globTree source).footprint ≤ footprintLimit) :
    compile source = .ok { source, regex := globTree source } := by
  have hdepth : ∀ p ∈ source.map (globPiece flags HostRule.dot), p.depth ≤ 4 :=
    List.forall_mem_map.mpr fun c _ => depth_globPiece_le flags HostRule.dot c
  have hparse : parse { ignoreCase := true } (regexText source) = some (globTree source) :=
    parse_of_read_fromStartToEnd hdepth (read_regexText_of_glob h) hsize
  rw [compile, hparse]

/-- A pattern that is a glob and not too large is compiled. It matches an address of one line just when the glob
matches the address after every character of both has been replaced by the representative of its class. -/
theorem isMatch_compile_of_glob {rep : Char → Char} (hrep : Text.Represents rep) {source : Text}
    (hglob : Pattern.expression? source = none) (hsize : (globTree source).footprint ≤ footprintLimit) :
    ∃ p, compile source = .ok p ∧ ∀ t : Text, '\n' ∉ t →
      (p.isMatch t = true ↔ Glob.isMatch (source.map rep) (t.map rep) = true) := by
  refine ⟨_, compile_of_glob hglob hsize, fun t hline => ?_⟩
  have hlike : ∀ c d, (flags.literal c).contains d = true ↔ Text.foldChar d = Text.foldChar c :=
    fun c d => beq_iff_eq
  have htakes := isMatch_fromStartToEnd_iff (takes_globPieces flags source) t
  simp only [hlike] at htakes
  obtain ⟨first, literals, hsplit⟩ := Text.exists_splitOn_eq_cons '*' (source.map rep)
  rw [Glob.isMatch_eq_true_iff hsplit, ← Glob.fills_iff_leadTo hsplit,
    ← Glob.fillsLine_iff_fills_map hrep hline]
  exact htakes

/-- A backslash before a star, signs that expressions use, and a Kelvin sign for a letter. -/
theorem isMatch_compile_of_backslash_star :
    ∃ p, compile "k(\\*?)".toList = .ok p ∧ p.isMatch "\u212A(\\Any.?)".toList = true := by
  have hglob : Pattern.expression? "k(\\*?)".toList = none := by decide
  obtain ⟨p, hp, hmatch⟩ := isMatch_compile_of_glob Text.represents_foldChar hglob (by decide +kernel)
  exact ⟨p, hp, (hmatch _ (by decide)).mpr (by decide +kernel)⟩

end AddressPattern

end Userscript
