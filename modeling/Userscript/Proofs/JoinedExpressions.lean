import Userscript.Proofs.Alternatives
import Userscript.Proofs.ReadInside

/-!
# Joined expressions

Expressions with bars between them are read as the alternatives of one expression. Each is read as it would
be on its own but for two things: it begins under the settings that the one before leaves, and no name may
be used twice.
-/

namespace Userscript.Regex

/-- Reads expressions one after another, each under the settings that the one before leaves. Every one must
be complete in itself. -/
def readInTurn (f : Flags) : List Text → Option (List State)
  | [] => some []
  | t :: ts => do
    let st ← read {} { flags := f } t
    if st.scopes.isEmpty then
      let sts ← readInTurn st.flags ts
      some (st :: sts)
    else none

lemma readInTurn_cons {f : Flags} {t : Text} {ts : List Text} {sts : List State}
    (h : readInTurn f (t :: ts) = some sts) :
    ∃ st rest, read {} { flags := f } t = some st ∧ st.scopes = [] ∧
      readInTurn st.flags ts = some rest ∧ sts = st :: rest := by
  obtain ⟨st, hread, h⟩ := Option.bind_eq_some_iff.mp h
  by_cases hscopes : st.scopes.isEmpty = true
  · rw [if_pos hscopes] at h
    obtain ⟨rest, hrest, heq⟩ := Option.bind_eq_some_iff.mp h
    exact ⟨st, rest, hread, List.isEmpty_iff.mp hscopes, hrest, (Option.some.inj heq).symm⟩
  · rw [if_neg hscopes] at h
    cases h

lemma scopes_of_readInTurn {f : Flags} {ts : List Text} {sts : List State}
    (h : readInTurn f ts = some sts) : ∀ st ∈ sts, st.scopes = [] := by
  induction ts generalizing f sts with
  | nil =>
    cases h
    simp
  | cons t ts ih =>
    obtain ⟨st, rest, -, hscopes, hrest, rfl⟩ := readInTurn_cons h
    exact List.forall_mem_cons.mpr ⟨hscopes, ih hrest⟩

def alternativesOf (sts : List State) : List (Regex × Nat) := sts.flatMap (·.level.alternatives)

def Surroundings.afterBar (s : Surroundings) (st : State) : Surroundings where
  branches := st.level.branch :: (st.level.branches ++ s.branches)
  names := st.names ++ s.names
  scopes := s.scopes

/-- The state after expressions that have been read inside surroundings, with bars between them. None is
given when a name is used twice. -/
def joinStates (s : Surroundings) : List State → Option State
  | [] => none
  | [st] => if s.Clashes st.names then none else some (st.inside s)
  | st :: st' :: sts =>
    if s.Clashes st.names then none else joinStates (s.afterBar st) (st' :: sts)

lemma not_clashes_start (s : Surroundings) (f : Flags) : ¬s.Clashes (State.names { flags := f }) := by
  rintro ⟨n, hn, -⟩
  exact absurd hn List.not_mem_nil

lemma read_bar {st : State} (hscopes : st.scopes = []) (s : Surroundings) (t : Text) :
    read {} (st.inside s) ('|' :: t) =
      read {} (State.inside { flags := st.flags } (s.afterBar st)) t := by
  obtain ⟨flags, names, level, scopes⟩ := st
  dsimp only at hscopes
  subst hscopes
  have hskip : (State.inside ⟨flags, names, level, []⟩ s).flags.skip ('|' :: t) = '|' :: t :=
    skip_of_stops flags (.bar t)
  rw [read_of_skip_eq_cons {} _ hskip]
  have hstep : step {} (State.inside ⟨flags, names, level, []⟩ s) '|' t =
      some (State.inside { flags := flags } (s.afterBar ⟨flags, names, level, []⟩), t) := rfl
  rw [hstep, Option.bind_some, if_pos (Nat.le_refl _)]

/-- Joined expressions are read one after another. -/
theorem read_join {f : Flags} {ts : List Text} {sts : List State} (hne : ts ≠ [])
    (hsign : ∀ t ∈ ts, '#' ∉ t) (h : readInTurn f ts = some sts) (s : Surroundings) {u : Text}
    (hu : Stops u) :
    read {} (State.inside { flags := f } s) (Text.join ['|'] ts ++ u) =
      (joinStates s sts).bind fun st => read {} st u := by
  -- On the expressions: behind a bar, what was read before it is part of the surroundings.
  induction ts generalizing f s sts with
  | nil => exact absurd rfl hne
  | cons t ts ih =>
    obtain ⟨st, rest, hread, hscopes, hrest, rfl⟩ := readInTurn_cons h
    have ht := hsign t List.mem_cons_self
    cases ts with
    | nil =>
      cases hrest
      rw [Text.join, read_inside {} hu (not_clashes_start s f) ht hread, joinStates]
      by_cases hclash : s.Clashes st.names
      · rw [if_pos hclash, if_pos hclash, Option.bind_none]
      · rw [if_neg hclash, if_neg hclash, Option.bind_some]
    | cons t' ts =>
      obtain ⟨st', rest', -, -, -, rfl⟩ := readInTurn_cons hrest
      rw [Text.join, List.append_assoc, List.append_assoc, List.singleton_append,
        read_inside {} (.bar _) (not_clashes_start s f) ht hread, joinStates]
      by_cases hclash : s.Clashes st.names
      · rw [if_pos hclash, if_pos hclash, Option.bind_none]
      · rw [if_neg hclash, if_neg hclash, read_bar hscopes]
        exact ih (List.cons_ne_nil _ _) (fun q hq => hsign q (List.mem_cons_of_mem _ hq)) hrest _

theorem joinStates_eq_some {s : Surroundings} {sts : List State} {st : State}
    (hscopes : ∀ x ∈ sts, x.scopes = []) (h : joinStates s sts = some st) :
    st.scopes = s.scopes ∧
      st.level.alternatives = s.branches.reverse ++ alternativesOf sts := by
  induction sts generalizing s with
  | nil => cases h
  | cons x sts ih =>
    have hx := hscopes x List.mem_cons_self
    cases sts with
    | nil =>
      rw [joinStates] at h
      by_cases hclash : s.Clashes x.names
      · rw [if_pos hclash] at h
        cases h
      · rw [if_neg hclash] at h
        cases h
        obtain ⟨flags, names, level, scopes⟩ := x
        dsimp only at hx
        subst hx
        refine ⟨rfl, ?_⟩
        have hbranch : (level.behind s.branches).branch = level.branch := rfl
        simp [State.inside, Surroundings.stack, alternativesOf, Level.alternatives, Level.behind] at hbranch ⊢
        exact hbranch
    | cons y sts =>
      rw [joinStates] at h
      by_cases hclash : s.Clashes x.names
      · rw [if_pos hclash] at h
        cases h
      · rw [if_neg hclash] at h
        obtain ⟨hs, ha⟩ := ih (fun z hz => hscopes z (List.mem_cons_of_mem _ hz)) h
        refine ⟨hs, ?_⟩
        rw [ha]
        simp [Surroundings.afterBar, alternativesOf, Level.alternatives]

def withinLimits (r : Regex × Nat) : Option Regex :=
  if r.2 ≤ nestingLimit ∧ r.1.footprint ≤ footprintLimit then some r.1 else none

lemma withinLimits_eq_some {r : Regex × Nat} {out : Regex} :
    withinLimits r = some out ↔
      r.1 = out ∧ r.2 ≤ nestingLimit ∧ r.1.footprint ≤ footprintLimit := by
  unfold withinLimits
  by_cases h : r.2 ≤ nestingLimit ∧ r.1.footprint ≤ footprintLimit
  · simp [h]
  · rw [if_neg h]
    exact ⟨fun h' => (by cases h'), fun h' => absurd h'.2 h⟩

def tree? (t : Text) : Option (Regex × Nat) :=
  (read {} {} t).bind fun st => if st.scopes.isEmpty then some st.level.close else none

lemma parse_eq (t : Text) :
    parse {} t = (read {} {} t).bind fun st =>
      if st.scopes.isEmpty then withinLimits st.level.close else none := rfl

lemma parse_eq_tree? (t : Text) : parse {} t = (tree? t).bind withinLimits := by
  rw [parse_eq, tree?, Option.bind_assoc]
  refine Option.bind_congr fun st _ => ?_
  split_ifs <;> rfl

theorem tree?_join {ts : List Text} {sts : List State} (hne : ts ≠ []) (hsign : ∀ t ∈ ts, '#' ∉ t)
    (h : readInTurn {} ts = some sts) :
    tree? (Text.join ['|'] ts) = (joinStates {} sts).map fun _ =>
      (altAll ((alternativesOf sts).map Prod.fst), depthOf (alternativesOf sts)) := by
  have hread := read_join hne hsign h {} .nil
  rw [List.append_nil] at hread
  have hstart : State.inside { flags := {} } {} = {} := rfl
  rw [hstart] at hread
  rw [tree?, hread]
  cases hjoin : joinStates {} sts with
  | none => rfl
  | some st =>
    obtain ⟨hscopes, halternatives⟩ := joinStates_eq_some (scopes_of_readInTurn h) hjoin
    rw [Option.bind_some, read_of_skip_eq_nil {} st (skip_of_stops st.flags .nil), Option.bind_some,
      Option.map_some, hscopes, Level.close_eq, halternatives]
    rfl

/-- The text that matches as a whole what a text matches anywhere. -/
def wholeText (t : Text) : Text := "^(?:".toList ++ t ++ ")$".toList

def wholeSurroundings : Surroundings where
  scopes := [{ kind := .plain, flags := {}, outer := ({} : Level).push ⟨.look .textStart, 0, false⟩ }]

lemma read_wholeText (t : Text) :
    read {} {} (wholeText t) =
      read {} (State.inside { flags := {} } wholeSurroundings) (t ++ ")$".toList) := by
  have hopen : wholeText t = '^' :: '(' :: '?' :: ':' :: (t ++ ")$".toList) := by
    have hfront : "^(?:".toList = ['^', '(', '?', ':'] := by decide
    rw [wholeText, hfront, List.append_assoc]
    rfl
  rw [hopen, read_of_step {} rfl rfl (Nat.le_refl _)]
  exact read_of_step {} rfl rfl (by simp)

lemma read_close_whole {st : State} (hscopes : st.scopes = wholeSurroundings.scopes) :
    ∃ out, read {} st ")$".toList = some out ∧ out.scopes = [] ∧
      out.level.close = (st.level.close.1.whole, st.level.close.2 + 2) := by
  obtain ⟨flags, names, level, scopes⟩ := st
  dsimp only at hscopes
  subst hscopes
  have hclose : ")$".toList = [')', '$'] := by decide
  rw [hclose, read_of_step {} (skip_of_stops flags (.close _)) rfl (Nat.le_refl _),
    read_of_step {} rfl rfl (Nat.le_refl _), read_of_skip_eq_nil {} _ rfl]
  refine ⟨_, rfl, rfl, Prod.ext rfl ?_⟩
  change [0, level.close.2 + 1, 0].foldl Nat.max 0 + 1 = level.close.2 + 2
  simp

/-- The tree of joined expressions that are to match as a whole. -/
theorem tree?_wholeText_join {ts : List Text} {sts : List State} (hne : ts ≠ [])
    (hsign : ∀ t ∈ ts, '#' ∉ t) (h : readInTurn {} ts = some sts) :
    tree? (wholeText (Text.join ['|'] ts)) = (joinStates wholeSurroundings sts).map fun _ =>
      ((altAll ((alternativesOf sts).map Prod.fst)).whole, depthOf (alternativesOf sts) + 2) := by
  have hstops : Stops ")$".toList := by
    have hclose : ")$".toList = [')', '$'] := by decide
    rw [hclose]
    exact .close ['$']
  rw [tree?, read_wholeText, read_join hne hsign h wholeSurroundings hstops]
  cases hjoin : joinStates wholeSurroundings sts with
  | none => rfl
  | some st =>
    obtain ⟨hscopes, halternatives⟩ := joinStates_eq_some (scopes_of_readInTurn h) hjoin
    obtain ⟨out, hread, hout, hclose⟩ := read_close_whole hscopes
    rw [Option.bind_some, Option.map_some, hread, Option.bind_some, hout, hclose, Level.close_eq,
      halternatives]
    rfl

theorem parse_wholeText_join {ts : List Text} {sts : List State} (hne : ts ≠ [])
    (hsign : ∀ t ∈ ts, '#' ∉ t) (h : readInTurn {} ts = some sts) :
    parse {} (wholeText (Text.join ['|'] ts)) = (joinStates wholeSurroundings sts).bind fun _ =>
      withinLimits ((altAll ((alternativesOf sts).map Prod.fst)).whole,
        depthOf (alternativesOf sts) + 2) := by
  rw [parse_eq_tree?, tree?_wholeText_join hne hsign h, Option.bind_map]
  rfl

theorem parse_of_read {d : Dialect} {t : Text} {st : State}
    (h : read d { flags := { ignoreCase := d.ignoreCase } } t = some st) (hscopes : st.scopes = []) :
    parse d t = withinLimits (altAll (st.level.alternatives.map Prod.fst),
      depthOf st.level.alternatives) := by
  have hparse : parse d t = (read d { flags := { ignoreCase := d.ignoreCase } } t).bind fun st =>
      if st.scopes.isEmpty then withinLimits st.level.close else none := rfl
  rw [hparse, h, Option.bind_some, hscopes, Level.close_eq]
  rfl

theorem parse_wholeText_of_read {t : Text} (hsign : '#' ∉ t) {st : State}
    (h : read {} {} t = some st) (hscopes : st.scopes = []) :
    parse {} (wholeText t) = withinLimits ((altAll (st.level.alternatives.map Prod.fst)).whole,
      depthOf st.level.alternatives + 2) := by
  have hturn : readInTurn {} [t] = some [st] := by
    simp [readInTurn, h, hscopes]
  have hparse := parse_wholeText_join (List.cons_ne_nil t []) (by simpa using hsign) hturn
  have hclash : ¬wholeSurroundings.Clashes st.names := by
    rintro ⟨n, -, hn⟩
    exact absurd hn List.not_mem_nil
  rw [Text.join, joinStates, if_neg hclash, Option.bind_some] at hparse
  rw [hparse]
  simp [alternativesOf]

end Userscript.Regex
