import Userscript.Pattern.HostRule
import Userscript.Proofs.Cutting
import Userscript.Proofs.JoinedExpressions

/-!
# The expressions of globs

What a glob is turned into is read one character of the glob after another: a star becomes a repetition of
the dot, any other character stands for itself. So the expression of a glob, and that of a rule for hosts
made from one, can always be read, is complete in itself, and leaves the settings as they are.
-/

namespace Userscript

namespace Pattern

lemma mem_of_expression? {t inner : Text} (h : expression? t = some inner) {c : Char}
    (hc : c ∈ inner) : c ∈ t := by
  obtain ⟨rest, hrest, h⟩ := Option.bind_eq_some_iff.mp h
  obtain ⟨body, hbody, h⟩ := Option.bind_eq_some_iff.mp h
  obtain ⟨rev, hrev, rfl⟩ := Option.map_eq_some_iff.mp hbody
  have hrest' := Text.after?_eq_some_iff.mp hrest
  have hrev' := Text.after?_eq_some_iff.mp hrev
  by_cases hempty : rev.reverse.isEmpty = true
  · rw [if_pos hempty] at h
    cases h
  · rw [if_neg hempty] at h
    cases h
    have hmem : c ∈ rest.reverse := by
      rw [hrev']
      exact List.mem_append_right _ (List.mem_reverse.mp hc)
    rw [hrest']
    exact List.mem_append_right _ (List.mem_reverse.mp hmem)

/-- The part of an expression for one character of a glob. -/
def globChar (c : Char) : Text :=
  if c = '*' then ['.', '*'] else if Regex.isMeta c then ['\\', c] else [c]

lemma escape_cons (c : Char) (t : Text) :
    Regex.escape (c :: t) = (if Regex.isMeta c then ['\\', c] else [c]) ++ Regex.escape t := rfl

lemma head_escape_ne_star (t : Text) : (Regex.escape t).head? ≠ some '*' := by
  cases t with
  | nil => simp [Regex.escape]
  | cons c t =>
    rw [escape_cons]
    by_cases hc : Regex.isMeta c = true
    · simp [hc]
    · have hstar : c ≠ '*' := by
        rintro rfl
        exact hc (by decide)
      simp [hc, hstar]

lemma after?_star_eq_none {c : Char} {t : Text} (h : c ≠ '\\' ∨ t.head? ≠ some '*') :
    Text.after? ['\\', '*'] (c :: t) = none := by
  cases hs : Text.after? ['\\', '*'] (c :: t) with
  | none => rfl
  | some r =>
    obtain ⟨rfl, rfl⟩ := List.cons.inj (Text.after?_eq_some_iff.mp hs)
    simp at h

lemma replacePhrase_cons_of_none {old new rest : Text} {c : Char}
    (h : Text.after? old (c :: rest) = none) :
    Text.replacePhrase old new (c :: rest) = c :: Text.replacePhrase old new rest := by
  rw [Text.replacePhrase, h]
  rfl

theorem ofGlob_eq (t : Text) : ofGlob t = t.flatMap globChar := by
  unfold ofGlob
  induction t with
  | nil => rw [Regex.escape, List.flatMap_nil, Text.replacePhrase, List.flatMap_nil]
  | cons c t ih =>
    rw [escape_cons, List.flatMap_cons, globChar, ← ih]
    by_cases hmeta : Regex.isMeta c = true
    · rw [if_pos hmeta]
      by_cases hstar : c = '*'
      · subst hstar
        rw [if_pos rfl]
        have hfound : (Text.after? ['\\', '*'] ('\\' :: '*' :: Regex.escape t)).isSome = true :=
          Text.isSome_after?_iff.mpr ⟨Regex.escape t, rfl⟩
        rw [List.cons_append, List.cons_append, List.nil_append, Text.replacePhrase, if_pos hfound]
        rfl
      · rw [if_neg hstar, List.cons_append, List.cons_append, List.nil_append,
          replacePhrase_cons_of_none (after?_star_eq_none (Or.inr (by simpa using hstar))),
          replacePhrase_cons_of_none (after?_star_eq_none (Or.inr (head_escape_ne_star t)))]
        rfl
    · have hstar : c ≠ '*' := by
        rintro rfl
        exact hmeta (by decide)
      have hslash : c ≠ '\\' := by
        rintro rfl
        exact hmeta (by decide)
      rw [if_neg hmeta, if_neg hstar, List.singleton_append,
        replacePhrase_cons_of_none (after?_star_eq_none (Or.inl hslash))]
      rfl

lemma number_sign_not_mem_ofGlob {t : Text} (h : '#' ∉ t) : '#' ∉ ofGlob t := by
  rw [ofGlob_eq]
  intro hc
  obtain ⟨c, hmem, hc⟩ := List.mem_flatMap.mp hc
  have hne : '#' ≠ c := fun he => h (he ▸ hmem)
  unfold globChar at hc
  split_ifs at hc
  · exact absurd hc (by decide)
  · exact absurd hc (by simp [hne])
  · exact absurd hc (by simp [hne])

lemma head_globChars_ne_question {t u : Text} (hu : u.head? ≠ some '?') :
    (t.flatMap globChar ++ u).head? ≠ some '?' := by
  cases t with
  | nil => exact hu
  | cons c t =>
    rw [List.flatMap_cons, globChar]
    split_ifs with hstar hmeta
    · simp
    · simp
    · have hquestion : c ≠ '?' := by
        rintro rfl
        exact hmeta (by decide)
      simpa using hquestion

end Pattern

namespace Regex

/-- The part for one character of a glob under some settings, with the set of the dot. -/
def globPiece (f : Flags) (dot : CharSet) (c : Char) : Piece :=
  if c = '*' then { regex := repeated 0 none (false == f.swapGreed) (.chars dot), depth := 1 }
  else { regex := .chars (f.literal c), depth := 0 }

def State.pushAll (st : State) (pieces : List Piece) : State :=
  { st with level := { st.level with pieces := pieces.reverse ++ st.level.pieces } }

lemma skip_of_not_spaced {f : Flags} (h : f.spaced = false) (t : Text) : f.skip t = t := by
  simp [Flags.skip, h]

lemma read_globChar (d : Dialect) {st : State} {dot : CharSet} (hspaced : st.flags.spaced = false)
    (hdot : st.flags.dot? = some dot) (c : Char) {u : Text} (hu : u.head? ≠ some '?') :
    read d st (Pattern.globChar c ++ u) =
      read d (st.pushAll [globPiece st.flags dot c]) u := by
  unfold Pattern.globChar globPiece
  by_cases hstar : c = '*'
  · rw [if_pos hstar, if_pos hstar, List.cons_append, List.singleton_append]
    have hstep : step d st '.' ('*' :: u) = some (st.push (.chars dot), '*' :: u) := by
      rw [step_dot, hdot, Option.bind_some]
    have hskip : (st.push (.chars dot)).flags.skip ('*' :: u) = '*' :: u :=
      skip_of_not_spaced hspaced _
    rw [read_of_step d (skip_of_not_spaced hspaced _) hstep (Nat.le_refl _),
      read_repeated d hskip rfl rfl rfl hu]
    rfl
  · rw [if_neg hstar, if_neg hstar]
    by_cases hmeta : isMeta c = true
    · rw [if_pos hmeta, List.cons_append, List.singleton_append]
      refine read_of_step d (skip_of_not_spaced hspaced _) ?_ (by simp)
      have hescape : readEscape st.flags (c :: u) = some (.literal c false, u) := by
        unfold readEscape
        dsimp only
        rw [if_pos (by simp [isEscapable, hmeta])]
      rw [step_backslash, hescape]
      rfl
    · rw [if_neg hmeta, List.singleton_append]
      refine read_of_step d (skip_of_not_spaced hspaced _) (step_of_literal d st ?_ u) (Nat.le_refl _)
      intro hc
      simp only [syntaxChars, List.mem_cons, List.not_mem_nil, or_false] at hc
      rcases hc with rfl | rfl | rfl | rfl | rfl | rfl | rfl | rfl | rfl | rfl | rfl | rfl <;>
        exact hmeta (by decide)

/-- The expression of a glob is read as one part for each character of the glob. -/
theorem read_ofGlob (d : Dialect) {st : State} {dot : CharSet} (hspaced : st.flags.spaced = false)
    (hdot : st.flags.dot? = some dot) (t : Text) {u : Text} (hu : u.head? ≠ some '?') :
    read d st (Pattern.ofGlob t ++ u) =
      read d (st.pushAll (t.map (globPiece st.flags dot))) u := by
  rw [Pattern.ofGlob_eq]
  induction t generalizing st with
  | nil => rfl
  | cons c t ih =>
    rw [List.flatMap_cons, List.append_assoc,
      read_globChar d hspaced hdot c (Pattern.head_globChars_ne_question hu)]
    have hrest : read d (st.pushAll [globPiece st.flags dot c]) (t.flatMap Pattern.globChar ++ u) =
        read d ((st.pushAll [globPiece st.flags dot c]).pushAll
          (t.map (globPiece st.flags dot))) u := ih hspaced hdot
    rw [hrest]
    simp [State.pushAll]

end Regex

namespace HostRule

open Regex

def dot : CharSet := .compl (.single '\n')

def prefixPiece : Piece where
  regex := repeated 0 (some 1) true
    (catAll [repeated 1 none true (.chars dot), .chars (.single '.')])
  depth := 4

def portPiece : Piece where
  regex := repeated 0 (some 1) true
    (.capture none (catAll [.chars (.single ':'), repeated 1 none true (.chars .digit)]))
  depth := 4

def globPieces (rule : Text) : List Piece :=
  [{ regex := .look .textStart, depth := 0 }, prefixPiece] ++ rule.map (globPiece {} dot) ++
    (if rule.contains ':' then [] else [portPiece]) ++ [{ regex := .look .textEnd, depth := 0 }]

def globState (rule : Text) : State := ({} : State).pushAll (globPieces rule)

lemma read_prefix {u : Text} (hu : u.head? ≠ some '?') :
    read {} {} ("^(?:.+\\.)?".toList ++ u) =
      read {} (({} : State).pushAll [{ regex := .look .textStart, depth := 0 }, prefixPiece]) u := by
  have hfront : "^(?:.+\\.)?".toList = ['^', '(', '?', ':', '.', '+', '\\', '.', ')', '?'] := by
    decide
  rw [hfront]
  simp only [List.cons_append, List.nil_append]
  rw [read_of_step {} rfl rfl (Nat.le_refl _), read_of_step {} rfl rfl (by simp),
    read_of_step {} rfl rfl (Nat.le_refl _), read_repeated {} rfl rfl rfl rfl (by simp),
    read_of_step {} rfl rfl (by simp), read_of_step {} rfl rfl (Nat.le_refl _),
    read_repeated {} rfl rfl rfl rfl hu]
  rfl

lemma read_port {st : State} (hflags : st.flags = {}) {u : Text} (hu : u.head? ≠ some '?') :
    read {} st (anyPort ++ u) = read {} (st.pushAll [portPiece]) u := by
  obtain ⟨flags, names, level, scopes⟩ := st
  dsimp only at hflags
  subst hflags
  have hport : anyPort = ['(', ':', '\\', 'd', '+', ')', '?'] := by decide
  rw [hport]
  simp only [List.cons_append, List.nil_append]
  rw [read_of_step {} rfl rfl (Nat.le_refl _), read_of_step {} rfl rfl (Nat.le_refl _),
    read_of_step {} rfl rfl (by simp), read_repeated {} rfl rfl rfl rfl (by simp),
    read_of_step {} rfl rfl (Nat.le_refl _), read_repeated {} rfl rfl rfl rfl hu]
  rfl

lemma regexText_of_glob {rule : Text} (h : Pattern.expression? rule = none) :
    regexText rule = "^(?:.+\\.)?".toList ++ (Pattern.ofGlob rule ++
      ((if rule.contains ':' then [] else anyPort) ++ ['$'])) := by
  unfold regexText
  rw [h]
  simp only [List.append_assoc]

/-- The expression of a glob for hosts can be read, is complete, and leaves the settings alone. -/
theorem read_regexText_of_glob {rule : Text} (h : Pattern.expression? rule = none) :
    read {} {} (regexText rule) = some (globState rule) := by
  have hend : ∀ st : State, st.flags = {} →
      read {} st ['$'] = some (st.pushAll [{ regex := .look .textEnd, depth := 0 }]) := by
    rintro ⟨flags, names, level, scopes⟩ rfl
    rw [read_of_step {} rfl rfl (Nat.le_refl _), read_of_skip_eq_nil {} _ rfl]
    rfl
  have hafter : ((if rule.contains ':' then [] else anyPort) ++ ['$']).head? ≠ some '?' := by
    split_ifs <;> decide
  have hglob : (Pattern.ofGlob rule ++
      ((if rule.contains ':' then [] else anyPort) ++ ['$'])).head? ≠ some '?' := by
    rw [Pattern.ofGlob_eq]
    exact Pattern.head_globChars_ne_question hafter
  have hdot : ({} : Flags).dot? = some dot := rfl
  rw [regexText_of_glob h, read_prefix hglob, read_ofGlob {} rfl hdot rule hafter]
  by_cases hcolon : rule.contains ':' = true
  · rw [if_pos hcolon, List.nil_append, hend _ rfl, globState, globPieces, if_pos hcolon]
    simp [State.pushAll]
  · rw [if_neg hcolon, read_port rfl (by decide), hend _ rfl, globState, globPieces, if_neg hcolon]
    simp [State.pushAll]

lemma number_sign_not_mem_regexText {rule : Text} (h : '#' ∉ rule) : '#' ∉ regexText rule := by
  cases hexpr : Pattern.expression? rule with
  | none =>
    have hglob := Pattern.number_sign_not_mem_ofGlob h
    rw [regexText_of_glob hexpr]
    simp only [List.mem_append, not_or]
    refine ⟨by decide, hglob, ?_, by decide⟩
    split_ifs <;> decide
  | some inner =>
    have htext : regexText rule = inner := by
      unfold regexText
      rw [hexpr]
    rw [htext]
    exact fun hc => h (Pattern.mem_of_expression? hexpr hc)

end HostRule

end Userscript
