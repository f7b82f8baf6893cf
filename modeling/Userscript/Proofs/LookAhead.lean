import Userscript.Proofs.JoinedExpressions
import Userscript.Proofs.MatchedSpans
import Userscript.Proofs.PreferredMatch
import Userscript.Rules.Filter

/-!
# Refusing a match by looking ahead

An expression that looks ahead for a match of another as a whole, and refuses it, is found in just the texts of
one line that the other does not match as a whole. It is read in a dialect with look-ahead, in which everything
else reads as it does without.
-/

namespace Userscript.Regex

/-- The dialect with negative look-ahead. -/
def lookAhead : Dialect := { negativeLookAhead := true }

def lookAheadTree? (t : Text) : Option Regex :=
  (read lookAhead {} t).bind fun st => if st.scopes.isEmpty then some st.level.close.1 else none

variable {st st' : State} {t rest : Text} {c : Char}

lemma readGroup_lookAhead (h : readGroup {} st t = some (st', rest)) :
    readGroup lookAhead st t = some (st', rest) := by
  unfold readGroup at h ⊢
  split at h
  all_goals simp_all

lemma step_lookAhead (h : step {} st c t = some (st', rest)) :
    step lookAhead st c t = some (st', rest) := by
  by_cases hc : c = '('
  · subst hc
    exact readGroup_lookAhead h
  · have hstep : step lookAhead st c t = step {} st c t := by
      unfold step
      split <;> first | rfl | exact absurd rfl hc
    rw [hstep, h]

theorem read_lookAhead (h : read {} st t = some st') : read lookAhead st t = some st' := by
  induction hn : t.length using Nat.strongRecOn generalizing t st with
  | ind n ih =>
    have hlen := st.flags.length_skip t
    cases hs : st.flags.skip t with
    | nil =>
      rw [read_of_skip_eq_nil _ st hs] at h ⊢
      exact h
    | cons c r =>
      obtain ⟨next, rest, hstep, hle, h⟩ := exists_step_of_read hs h
      rw [hs, List.length_cons] at hlen
      rw [read_of_skip_eq_cons _ st hs, step_lookAhead hstep, Option.bind_some, if_pos hle]
      exact ih rest.length (by omega) h rfl

def anyChar : CharSet := .compl (.single '\n')

/-- The expression that is found in a text that another does not match as a whole. -/
def refusing (r : Regex) : Regex :=
  cat (look .textStart) (cat (notAhead (cat r (look .textEnd)))
    (cat (rep 0 none true (chars anyChar)) (look .textEnd)))

def refusalSurroundings : Surroundings where
  scopes := [{ kind := .plain, flags := {}, outer := {} },
    { kind := .notAhead, flags := {}, outer := ({} : Level).push ⟨.look .textStart, 0, false⟩ }]

section Groups

variable {d : Dialect} {flags f : Flags} {names : List Text} {level outer : Level} {scopes : List Scope}

lemma read_open_plain (rest : Text) :
    read d ⟨{}, names, level, scopes⟩ ('(' :: '?' :: ':' :: rest) =
      read d ⟨{}, names, {}, ⟨.plain, {}, level⟩ :: scopes⟩ rest :=
  read_of_step d rfl rfl (Nat.le_add_right _ 2)

lemma read_open_notAhead (rest : Text) :
    read lookAhead ⟨{}, names, level, scopes⟩ ('(' :: '?' :: '!' :: rest) =
      read lookAhead ⟨{}, names, {}, ⟨.notAhead, {}, level⟩ :: scopes⟩ rest :=
  read_of_step lookAhead rfl rfl (Nat.le_add_right _ 2)

lemma read_textStart (rest : Text) :
    read d ⟨{}, names, level, scopes⟩ ('^' :: rest) =
      read d ⟨{}, names, level.push ⟨look .textStart, 0, false⟩, scopes⟩ rest :=
  read_of_step d rfl rfl (Nat.le_refl _)

lemma read_close_plain (rest : Text) :
    read d ⟨flags, names, level, ⟨.plain, f, outer⟩ :: scopes⟩ (')' :: rest) =
      read d ⟨f, names, outer.push ⟨level.close.1, level.close.2 + 1, false⟩, scopes⟩ rest :=
  read_of_step d (skip_of_stops flags (.close _)) rfl (Nat.le_refl _)

lemma read_close_notAhead (rest : Text) :
    read d ⟨flags, names, level, ⟨.notAhead, f, outer⟩ :: scopes⟩ (')' :: rest) =
      read d ⟨f, names, outer.push ⟨notAhead level.close.1, level.close.2 + 1, false⟩, scopes⟩ rest :=
  read_of_step d (skip_of_stops flags (.close _)) rfl (Nat.le_refl _)

lemma read_textEnd (rest : Text) :
    read d ⟨{}, names, level, scopes⟩ ('$' :: rest) =
      read d ⟨{}, names, level.push ⟨look .textEnd, 0, false⟩, scopes⟩ rest :=
  read_of_step d rfl rfl (Nat.le_refl _)

lemma read_anything {rest : Text} (h : rest.head? ≠ some '?') :
    read d ⟨{}, names, level, scopes⟩ ('.' :: '*' :: rest) =
      read d ⟨{}, names, level.push ⟨rep 0 none true (chars anyChar), 1, false⟩, scopes⟩ rest := by
  rw [read_of_step d rfl rfl (Nat.le_refl _)]
  exact read_repeated d (p := ⟨chars anyChar, 0, false⟩) rfl rfl rfl rfl h

lemma read_negate (t : Text) :
    read lookAhead {} (RuleSet.negate t) =
      read lookAhead (State.inside {} refusalSurroundings) (t ++ ")$).*$".toList) := by
  have hopen : RuleSet.negate t =
      '^' :: '(' :: '?' :: '!' :: '(' :: '?' :: ':' :: (t ++ ")$).*$".toList) := by
    have hfront : "^(?!(?:".toList = ['^', '(', '?', '!', '(', '?', ':'] := by decide
    have hnegate : RuleSet.negate t = "^(?!(?:".toList ++ t ++ ")$).*$".toList := rfl
    rw [hnegate, hfront, List.append_assoc]
    rfl
  rw [hopen, read_textStart, read_open_notAhead, read_open_plain]
  rfl

lemma read_close_refusal (flags : Flags) (names : List Text) (level : Level) :
    ∃ out, read lookAhead ⟨flags, names, level, refusalSurroundings.scopes⟩ ")$).*$".toList = some out ∧
      out.scopes = [] ∧ out.level.close.1 = refusing level.close.1 := by
  have hclose : ")$).*$".toList = [')', '$', ')', '.', '*', '$'] := by decide
  rw [hclose, refusalSurroundings, read_close_plain, read_textEnd, read_close_notAhead,
    read_anything (by decide), read_textEnd, read_of_skip_eq_nil lookAhead _ rfl]
  exact ⟨_, rfl, rfl, rfl⟩

end Groups

lemma tree?_eq_some {r : Regex × Nat} (h : tree? t = some r) :
    ∃ flags names level, read {} {} t = some ⟨flags, names, level, []⟩ ∧ level.close = r := by
  obtain ⟨⟨flags, names, level, scopes⟩, hread, h⟩ := Option.bind_eq_some_iff.mp h
  dsimp only at h
  split at h
  · rename_i hscopes
    rw [List.isEmpty_iff.mp hscopes] at hread
    exact ⟨flags, names, level, hread, Option.some.inj h⟩
  · cases h

/-- An expression that reads on its own is refused as a whole by the expression around it. -/
theorem lookAheadTree?_negate (hsign : '#' ∉ t) {r : Regex × Nat} (h : tree? t = some r) :
    lookAheadTree? (RuleSet.negate t) = some (refusing r.1) := by
  obtain ⟨flags, names, level, hread, rfl⟩ := tree?_eq_some h
  have hclash : ∀ names, ¬refusalSurroundings.Clashes names := by
    rintro names ⟨n, -, hn⟩
    exact absurd hn List.not_mem_nil
  have hstops : Stops ")$).*$".toList := by
    have hclose : ")$).*$".toList = ')' :: ['$', ')', '.', '*', '$'] := by decide
    rw [hclose]
    exact .close _
  have hinside := read_inside lookAhead hstops (hclash _) hsign (read_lookAhead hread)
  have hlevel : level.behind [] = level := by simp [Level.behind]
  rw [if_neg (hclash _)] at hinside
  obtain ⟨out, hout, hscopes, hclose⟩ := read_close_refusal flags names level
  have hstate : State.inside ⟨flags, names, level, []⟩ refusalSurroundings =
      ⟨flags, names, level, refusalSurroundings.scopes⟩ := by
    simp [State.inside, Surroundings.stack, refusalSurroundings, hlevel]
  rw [lookAheadTree?, read_negate, hinside, hstate, hout, Option.bind_some, hscopes, hclose]
  rfl

lemma lookAheadTree?_of_tree? {r : Regex × Nat} (h : tree? t = some r) :
    lookAheadTree? t = some r.1 := by
  obtain ⟨flags, names, level, hread, rfl⟩ := tree?_eq_some h
  rw [lookAheadTree?, read_lookAhead hread]
  rfl

variable {text : Array Char} {i j n : Nat} {r : Regex}

lemma holds_textStart_iff (hi : i ≤ text.size) : Assertion.textStart.holds text i = true ↔ i = 0 := by
  by_cases h : i = 0
  · simp [h, Assertion.holds, Assertion.between]
  · simp only [Assertion.holds, Assertion.between, if_neg h, Option.isNone_iff_eq_none,
      Array.getElem?_eq_none_iff]
    omega

lemma holds_textEnd_iff (hi : i ≤ text.size) : Assertion.textEnd.holds text i = true ↔ i = text.size := by
  simp only [Assertion.holds, Assertion.between, Option.isNone_iff_eq_none, Array.getElem?_eq_none_iff]
  omega

lemma spans_to_end_iff (hi : i ≤ text.size) :
    (∃ j, (cat r (look .textEnd)).Spans text i j) ↔ r.Spans text i text.size := by
  simp only [Spans]
  constructor
  · rintro ⟨j, k, hspans, rfl, hend⟩
    have hk := ((steps_ends text r).forward i k hi hspans).2
    rwa [(holds_textEnd_iff hk).mp hend] at hspans
  · intro hspans
    exact ⟨_, _, hspans, rfl, (holds_textEnd_iff (Nat.le_refl _)).mpr rfl⟩

lemma finds_textStart_iff : (cat (look .textStart) r).Finds text ↔ ∃ j, r.Spans text 0 j := by
  simp only [Finds, Spans]
  constructor
  · rintro ⟨i, j, hi, k, ⟨rfl, hstart⟩, hspans⟩
    rw [(holds_textStart_iff hi).mp hstart] at hspans
    exact ⟨j, hspans⟩
  · rintro ⟨j, hspans⟩
    exact ⟨0, j, Nat.zero_le _, 0, ⟨rfl, (holds_textStart_iff (Nat.zero_le _)).mpr rfl⟩, hspans⟩

lemma finds_whole_iff : r.whole.Finds text ↔ r.Spans text 0 text.size :=
  finds_textStart_iff.trans (spans_to_end_iff (Nat.zero_le _))

lemma chain_anyChar (hline : '\n' ∉ text) (h : i + n = text.size) :
    Chain ((chars anyChar).Spans text) n i text.size := by
  induction n generalizing i with
  | zero => exact h ▸ .nil i
  | succ n ih =>
    have hlt : i < text.size := by omega
    have hchar : anyChar.contains text[i] = true := by
      have hne : text[i] ≠ '\n' := fun heq => hline (heq ▸ Array.getElem_mem hlt)
      simpa [anyChar, CharSet.contains, CharSet.contains_single] using hne
    exact .cons ⟨rfl, _, Array.getElem?_eq_getElem hlt, hchar⟩ (ih (by omega))

/-- In a text of one line the refusing expression is found just where the other does not match as a whole. -/
theorem finds_refusing_iff (hline : '\n' ∉ text) :
    (refusing r).Finds text ↔ ¬ r.whole.Finds text := by
  rw [refusing, finds_textStart_iff, finds_whole_iff, ← spans_to_end_iff (Nat.zero_le _)]
  constructor
  · rintro ⟨j, k, ⟨rfl, hrefused⟩, -⟩
    exact hrefused
  · intro hrefused
    exact ⟨text.size, 0, ⟨rfl, hrefused⟩, text.size,
      ⟨text.size, Nat.zero_le _, by simp, chain_anyChar hline (Nat.zero_add _)⟩, rfl,
      (holds_textEnd_iff (Nat.le_refl _)).mpr rfl⟩

end Userscript.Regex
