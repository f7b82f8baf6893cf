import Userscript.Proofs.ReadClassBehind
import Userscript.Proofs.ReadGroupBehind

/-!
# Reading inside other text

An expression that can be read on its own is read in the same way where it stands as one alternative among
others, perhaps in a group that is still open. The reader has then seen other alternatives and names before,
but a step never looks at them, save for a name that is used again. Then the expression is refused.
-/

namespace Userscript.Regex

/-- What has been read before an expression and around it: the alternatives before it, the names of groups,
and the groups that are still open. -/
structure Surroundings where
  branches : List (Regex × Nat) := []
  names : List Text := []
  scopes : List Scope := []

def Level.behind (level : Level) (branches : List (Regex × Nat)) : Level :=
  { level with branches := level.branches ++ branches }

namespace Surroundings

def stack (s : Surroundings) (level : Level) : List Scope → Level × List Scope
  | [] => (level.behind s.branches, s.scopes)
  | scope :: scopes =>
    (level, { scope with outer := (s.stack scope.outer scopes).1 } ::
      (s.stack scope.outer scopes).2)

/-- A name is used in the surroundings already. -/
def Clashes (s : Surroundings) (names : List Text) : Prop := ∃ n ∈ names, n ∈ s.names

instance (s : Surroundings) (names : List Text) : Decidable (s.Clashes names) :=
  inferInstanceAs (Decidable (∃ n ∈ names, n ∈ s.names))

end Surroundings

namespace State

variable {st st' : State} {s : Surroundings}

def inside (st : State) (s : Surroundings) : State where
  flags := st.flags
  names := st.names ++ s.names
  level := (s.stack st.level st.scopes).1
  scopes := (s.stack st.level st.scopes).2

@[simp]
lemma flags_inside (st : State) (s : Surroundings) : (st.inside s).flags = st.flags := rfl

@[simp]
lemma pieces_inside (st : State) (s : Surroundings) :
    (st.inside s).level.pieces = st.level.pieces := by
  obtain ⟨flags, names, level, scopes⟩ := st
  cases scopes <;> rfl

lemma inside_level (st : State) (s : Surroundings) (flags : Flags) (g : Level → Level)
    (hg : ∀ level branches, (g level).behind branches = g (level.behind branches)) :
    State.inside { st with flags, level := g st.level } s =
      { st.inside s with flags, level := g (st.inside s).level } := by
  obtain ⟨f, names, level, scopes⟩ := st
  cases scopes with
  | nil => simp only [inside, Surroundings.stack, hg]
  | cons scope scopes => rfl

lemma inside_push (st : State) (s : Surroundings) (r : Regex) (depth : Nat) :
    (st.push r depth).inside s = (st.inside s).push r depth :=
  inside_level st s st.flags (·.push { regex := r, depth }) fun _ _ => rfl

lemma inside_bar (st : State) (s : Surroundings) :
    State.inside { st with level := st.level.bar } s =
      { st.inside s with level := (st.inside s).level.bar } :=
  inside_level st s st.flags Level.bar fun _ _ => rfl

lemma inside_closeGroup (h : st.closeGroup = some st') :
    (st.inside s).closeGroup = some (st'.inside s) := by
  obtain ⟨flags, names, level, scopes⟩ := st
  cases scopes with
  | nil => cases h
  | cons scope scopes =>
    cases h
    cases scopes <;> rfl

lemma names_closeGroup (h : st.closeGroup = some st') : st'.names = st.names := by
  obtain ⟨flags, names, level, scopes⟩ := st
  cases scopes with
  | nil => cases h
  | cons scope scopes =>
    cases h
    rfl

lemma inside_repeatLast {min : Nat} {max : Option Nat} {lazy : Bool}
    (h : st.repeatLast min max lazy = some st') :
    (st.inside s).repeatLast min max lazy = some (st'.inside s) := by
  unfold repeatLast at h ⊢
  rw [pieces_inside]
  cases hp : st.level.pieces with
  | nil =>
    rw [hp] at h
    cases h
  | cons p ps =>
    rw [hp] at h
    by_cases hsetting : p.isSetting = true
    · simp only [hsetting, if_true] at h
      cases h
    · simp only [hsetting, Bool.false_eq_true, if_false, Option.some.injEq] at h ⊢
      subst h
      exact (inside_level st s st.flags (fun level => { level with pieces := _ :: ps })
        fun _ _ => rfl).symm

lemma names_repeatLast {min : Nat} {max : Option Nat} {lazy : Bool}
    (h : st.repeatLast min max lazy = some st') : st'.names = st.names := by
  unfold repeatLast at h
  split at h
  · cases h
  · split at h
    · cases h
    · cases h
      rfl

lemma inside_pushAtom {a : Atom} (h : st.pushAtom a = some st') :
    (st.inside s).pushAtom a = some (st'.inside s) := by
  cases a with
  | literal c isByte =>
    unfold pushAtom at h ⊢
    dsimp only at h ⊢
    rw [flags_inside]
    by_cases hbyte : (isByte && !st.flags.unicode && decide (128 ≤ c.toNat)) = true
    · rw [if_pos hbyte] at h
      cases h
    · rw [if_neg hbyte] at h ⊢
      cases h
      rw [inside_push]
  | set set =>
    cases h
    exact congrArg some (inside_push st s _ _).symm
  | look a =>
    cases h
    exact congrArg some (inside_push st s _ _).symm

lemma names_pushAtom {a : Atom} (h : st.pushAtom a = some st') : st'.names = st.names := by
  cases a with
  | literal c isByte =>
    unfold pushAtom at h
    dsimp only at h
    split at h
    · cases h
    · cases h
      rfl
  | set set =>
    cases h
    rfl
  | look a =>
    cases h
    rfl

end State

/-! ## Groups -/

def readFlagsGroup (st : State) (t : Text) : Option (State × Text) := do
  let (f, seen, close, rest) ← readFlags st.flags [] t
  if close = ':' then some (st.openGroup .plain f, rest)
  else if seen.isEmpty then none
  else some ({ st with
    flags := f
    level := st.level.push { regex := .empty, depth := 0, isSetting := true } }, rest)

def readNamedGroup (st : State) (t : Text) : Option (State × Text) := do
  let (name, rest) ← readName st.names t
  some ({ st with names := name :: st.names }.openGroup (.capture (some name)) st.flags, rest)

lemma readGroup_of_flags (d : Dialect) (st : State) {t r : Text} (hs : st.flags.skip t = '?' :: r)
    (hr : ∀ c ∈ r.head?, c ∉ ['=', '!', '<', 'P']) :
    readGroup d st t = readFlagsGroup st r := by
  unfold readGroup
  split
  · rename_i heq
    rw [hs] at heq
    cases heq
    exact absurd (hr '=' rfl) (by decide)
  · rename_i heq
    rw [hs] at heq
    cases heq
    exact absurd (hr '<' rfl) (by decide)
  · rename_i heq
    rw [hs] at heq
    cases heq
    exact absurd (hr '<' rfl) (by decide)
  · rename_i heq
    rw [hs] at heq
    cases heq
    exact absurd (hr '!' rfl) (by decide)
  · rename_i heq
    rw [hs] at heq
    cases heq
    exact absurd (hr 'P' rfl) (by decide)
  · rename_i heq
    rw [hs] at heq
    cases heq
    exact absurd (hr '<' rfl) (by decide)
  · rename_i heq
    rw [hs] at heq
    cases heq
    rfl
  · rename_i heq
    exact absurd hs (heq r)

lemma readGroup_of_plain (d : Dialect) (st : State) {t : Text}
    (hs : ∀ r, st.flags.skip t ≠ '?' :: r) :
    readGroup d st t = some (st.openGroup (.capture none) st.flags, st.flags.skip t) := by
  unfold readGroup
  split
  all_goals first
    | rename_i heq
      exact absurd heq (hs _)
    | rfl

lemma readGroup_of_notAhead (d : Dialect) (st : State) {t r : Text}
    (hs : st.flags.skip t = '?' :: '!' :: r) :
    readGroup d st t =
      if d.negativeLookAhead then some (st.openGroup .notAhead st.flags, r) else none := by
  unfold readGroup
  rw [hs]
  rfl

lemma readGroup_of_long_name (d : Dialect) (st : State) {t r : Text}
    (hs : st.flags.skip t = '?' :: 'P' :: '<' :: r) : readGroup d st t = readNamedGroup st r := by
  unfold readGroup
  rw [hs]
  rfl

lemma readGroup_of_name (d : Dialect) (st : State) {t r : Text}
    (hs : st.flags.skip t = '?' :: '<' :: r) (hr : ∀ c ∈ r.head?, c ∉ ['=', '!']) :
    readGroup d st t = readNamedGroup st r := by
  unfold readGroup
  rw [hs]
  split
  · rename_i heq
    cases heq
  · rename_i heq
    cases heq
    exact absurd (hr '=' rfl) (by decide)
  · rename_i heq
    cases heq
    exact absurd (hr '!' rfl) (by decide)
  · rename_i heq
    cases heq
  · rename_i heq
    cases heq
  · rename_i heq
    cases heq
    rfl
  · rename_i heq
    cases heq
    rename_i hname
    exact absurd rfl (hname _)
  · rename_i hplain
    exact absurd rfl (hplain _)

lemma head_of_readFlags {f : Flags} {t : Text} {out : Flags × List Char × Char × Text}
    (h : readFlags f [] t = some out) : ∀ c ∈ t.head?, c ∉ ['=', '!', '<', 'P'] := by
  cases t with
  | nil => cases h
  | cons c r =>
    intro d hd hmem
    cases hd
    simp only [List.mem_cons, List.not_mem_nil, or_false] at hmem
    rcases hmem with rfl | rfl | rfl | rfl <;> cases h

lemma readName_append_names {names more : List Text} {t name rest : Text}
    (h : readName names t = some (name, rest)) :
    readName (names ++ more) t = if name ∈ more then none else some (name, rest) := by
  unfold readName at h ⊢
  obtain ⟨⟨n, r⟩, hcut, h⟩ := Option.bind_eq_some_iff.mp h
  rw [hcut, Option.bind_eq_bind, Option.bind_some]
  cases n with
  | nil => cases h
  | cons c cs =>
    dsimp only at h ⊢
    by_cases hc : (isNameChar true c && cs.all (isNameChar false) && !names.contains (c :: cs)) = true
    · rw [if_pos hc] at h
      cases h
      simp only [Bool.and_eq_true, Bool.not_eq_true', List.contains_eq_mem,
        decide_eq_false_iff_not] at hc
      by_cases hmem : c :: cs ∈ more <;> simp [hc.1.1, hc.1.2, hc.2, hmem]
    · rw [if_neg hc] at h
      cases h

/-- What a part read inside surroundings, and with more text behind, has to give when the same part read
outside leads from one state to another. It is refused if a name is then used twice. -/
structure ReadInside (s : Surroundings) (u : Text) (st st' : State) (rest : Text)
    (inside : Option (State × Text)) : Prop where
  result : inside = if s.Clashes st'.names then none else some (st'.inside s, rest ++ u)
  rest : '#' ∉ rest
  names : st.names ⊆ st'.names

section Inside

variable {u : Text} {st st' : State} {s : Surroundings} {t rest : Text}

lemma ReadInside.of_names_eq {inside : Option (State × Text)} (hs : ¬s.Clashes st.names)
    (hnames : st'.names = st.names) (hrest : '#' ∉ rest)
    (h : inside = some (st'.inside s, rest ++ u)) : ReadInside s u st st' rest inside where
  result := by rw [hnames, if_neg hs, h]
  rest := hrest
  names := hnames ▸ List.Subset.refl _

lemma readFlagsGroup_inside (u : Text) (s : Surroundings) (ht : '#' ∉ t)
    (h : readFlagsGroup st t = some (st', rest)) :
    readFlagsGroup (st.inside s) (t ++ u) = some (st'.inside s, rest ++ u) ∧
      st'.names = st.names ∧ '#' ∉ rest := by
  unfold readFlagsGroup at h ⊢
  obtain ⟨⟨f, seen, close, r⟩, hflags, h⟩ := Option.bind_eq_some_iff.mp h
  obtain ⟨hflags', hr⟩ := readFlags_append st.flags [] u ht hflags
  rw [State.flags_inside, hflags', Option.bind_eq_bind, Option.bind_some]
  dsimp only at h ⊢
  by_cases hclose : close = ':'
  · rw [if_pos hclose] at h ⊢
    cases h
    exact ⟨rfl, rfl, hr⟩
  · rw [if_neg hclose] at h ⊢
    by_cases hseen : seen.isEmpty = true
    · rw [if_pos hseen] at h
      cases h
    · rw [if_neg hseen] at h ⊢
      cases h
      refine ⟨?_, rfl, hr⟩
      rw [State.inside_level st s f
        (·.push { regex := .empty, depth := 0, isSetting := true }) fun _ _ => rfl]

lemma readNamedGroup_inside (u : Text) (hs : ¬s.Clashes st.names) (ht : '#' ∉ t)
    (h : readNamedGroup st t = some (st', rest)) :
    ReadInside s u st st' rest (readNamedGroup (st.inside s) (t ++ u)) := by
  obtain ⟨⟨name, r⟩, hname, h⟩ := Option.bind_eq_some_iff.mp h
  cases h
  obtain ⟨hname', hr⟩ := extends_readName st.names u ht _ _ hname
  refine ⟨?_, hr, List.subset_cons_self _ _⟩
  unfold readNamedGroup
  have hnames : (st.inside s).names = st.names ++ s.names := rfl
  rw [hnames, readName_append_names hname']
  have hclash : s.Clashes (name :: st.names) ↔ name ∈ s.names := by
    simp only [Surroundings.Clashes, List.exists_mem_cons_iff, or_iff_left_iff_imp]
    exact fun h => absurd h hs
  by_cases hmem : name ∈ s.names
  · rw [if_pos hmem]
    exact (if_pos (hclash.mpr hmem)).symm
  · rw [if_neg hmem]
    refine Eq.trans ?_ (if_neg (hclash.not.mpr hmem)).symm
    rfl

lemma exists_of_readNamedGroup (h : readNamedGroup st t = some (st', rest)) :
    ∃ c r, t = c :: r := by
  obtain ⟨p, hname, -⟩ := Option.bind_eq_some_iff.mp h
  obtain ⟨q, hcut, -⟩ := Option.bind_eq_some_iff.mp hname
  cases t with
  | nil => cases hcut
  | cons c r => exact ⟨c, r, rfl⟩

lemma readGroup_inside (d : Dialect) (hu : Stops u) (hs : ¬s.Clashes st.names) (ht : '#' ∉ t)
    (h : readGroup d st t = some (st', rest)) :
    ReadInside s u st st' rest (readGroup d (st.inside s) (t ++ u)) := by
  have hskip : (st.inside s).flags.skip (t ++ u) = st.flags.skip t ++ u :=
    skip_append st.flags ht hu
  have hmem := number_sign_not_mem_skip st.flags ht
  unfold readGroup at h
  split at h
  · cases h
  · cases h
  · cases h
  · rename_i r hr
    rw [hr] at hskip hmem
    rw [readGroup_of_notAhead d _ hskip]
    by_cases hd : d.negativeLookAhead = true
    · rw [if_pos hd] at h ⊢
      cases h
      exact .of_names_eq hs rfl (fun hc => hmem (by simp [hc])) rfl
    · rw [if_neg hd] at h
      cases h
  · rename_i r hr
    rw [hr] at hskip hmem
    rw [readGroup_of_long_name d _ hskip]
    exact readNamedGroup_inside u hs (fun hc => hmem (by simp [hc])) h
  · rename_i r hpositive hnegative hr
    rw [hr] at hskip hmem
    obtain ⟨c, q, rfl⟩ := exists_of_readNamedGroup h
    have hhead : ∀ d ∈ (c :: q ++ u).head?, d ∉ ['=', '!'] := by
      rintro d ⟨⟩ hd
      simp only [List.mem_cons, List.not_mem_nil, or_false] at hd
      rcases hd with rfl | rfl
      · exact hpositive q rfl
      · exact hnegative q rfl
    rw [readGroup_of_name d _ hskip hhead]
    exact readNamedGroup_inside u hs (fun hc => hmem (by simp [List.mem_cons.mp hc])) h
  · rename_i r _ _ _ _ _ _ hr
    rw [hr, List.cons_append] at hskip
    rw [hr] at hmem
    obtain ⟨p, hflags, -⟩ := Option.bind_eq_some_iff.mp h
    have hhead : ∀ d ∈ (r ++ u).head?, d ∉ ['=', '!', '<', 'P'] := by
      cases r with
      | nil => cases hflags
      | cons c q => exact fun d hd => head_of_readFlags hflags d hd
    obtain ⟨hflags', hnames, hrest⟩ :=
      readFlagsGroup_inside u s (fun hc => hmem (List.mem_cons_of_mem _ hc)) h
    rw [readGroup_of_flags d _ hskip hhead]
    exact .of_names_eq hs hnames hrest hflags'
  · rename_i hplain
    cases h
    have hplain' : ∀ r, (st.inside s).flags.skip (t ++ u) ≠ '?' :: r := by
      intro r hr
      rw [hskip] at hr
      obtain ⟨r', hr'⟩ := exists_of_append_stops hu (by decide) (by decide) hr
      exact hplain r' hr'
    rw [readGroup_of_plain d _ hplain', hskip]
    exact .of_names_eq hs rfl hmem rfl

/-! ## Steps -/

lemma simple_inside (hu : Stops u) (hs : ¬s.Clashes st.names) (ht : '#' ∉ t) {min : Nat}
    {max : Option Nat} (h : step.simple st min max t = some (st', rest)) :
    ReadInside s u st st' rest (step.simple (st.inside s) min max (t ++ u)) := by
  obtain ⟨hlazy, hrest⟩ := readLazy_append hu ht
  unfold step.simple at h ⊢
  rw [hlazy]
  dsimp only at h ⊢
  obtain ⟨st₁, hrepeat, heq⟩ := Option.map_eq_some_iff.mp h
  cases heq
  refine .of_names_eq hs (State.names_repeatLast hrepeat) hrest ?_
  rw [State.inside_repeatLast hrepeat, Option.map_some]

lemma step_bracket (d : Dialect) (st : State) (t : Text) :
    step d st '[' t = (readClass st.flags [] {} ('[' :: t)).bind fun p =>
      some (st.push (.chars p.1) p.2.1, p.2.2) := rfl

lemma step_brace (d : Dialect) (st : State) (t : Text) :
    step d st '{' t = (readBounds st.flags t).bind fun p =>
      (st.repeatLast p.1 p.2.1 (readLazy (st.flags.skip p.2.2)).1).bind fun next =>
        some (next, (readLazy (st.flags.skip p.2.2)).2) := rfl

lemma step_backslash (d : Dialect) (st : State) (t : Text) :
    step d st '\\' t = (readEscape st.flags t).bind fun p =>
      (st.pushAtom p.1).bind fun next => some (next, p.2) := rfl

lemma step_dot (d : Dialect) (st : State) (t : Text) :
    step d st '.' t = st.flags.dot?.bind fun set => some (st.push (.chars set), t) := rfl

lemma readClass_step_inside (hu : Stops u) (hs : ¬s.Clashes st.names) (ht : '#' ∉ t) {d : Dialect}
    (h : step d st '[' t = some (st', rest)) :
    ReadInside s u st st' rest (step d (st.inside s) '[' (t ++ u)) := by
  have ht' : '#' ∉ '[' :: t := by simp [ht]
  obtain ⟨⟨set, depth, r⟩, hclass, heq⟩ := Option.bind_eq_some_iff.mp h
  cases heq
  obtain ⟨hclass', hr⟩ := readClass_append st.flags hu [] {} ht' hclass
  refine .of_names_eq hs rfl hr ?_
  rw [State.inside_push, step_bracket, State.flags_inside, ← List.cons_append, hclass',
    Option.bind_some]

lemma readBounds_step_inside (hu : Stops u) (hs : ¬s.Clashes st.names) (ht : '#' ∉ t) {d : Dialect}
    (h : step d st '{' t = some (st', rest)) :
    ReadInside s u st st' rest (step d (st.inside s) '{' (t ++ u)) := by
  rw [step_brace] at h
  obtain ⟨⟨min, max, r⟩, hbounds, h⟩ := Option.bind_eq_some_iff.mp h
  obtain ⟨st₁, hrepeat, heq⟩ := Option.bind_eq_some_iff.mp h
  obtain ⟨rfl, rfl⟩ := Prod.mk.inj (Option.some.inj heq)
  obtain ⟨hbounds', hr⟩ := readBounds_append st.flags hu ht hbounds
  obtain ⟨hlazy, hrest⟩ := readLazy_append hu (number_sign_not_mem_skip st.flags hr)
  refine .of_names_eq hs (State.names_repeatLast hrepeat) hrest ?_
  rw [step_brace, State.flags_inside, hbounds', Option.bind_some, skip_append st.flags hr hu, hlazy,
    State.inside_repeatLast hrepeat, Option.bind_some]

lemma readEscape_step_inside (hu : Stops u) (hs : ¬s.Clashes st.names) (ht : '#' ∉ t) {d : Dialect}
    (h : step d st '\\' t = some (st', rest)) :
    ReadInside s u st st' rest (step d (st.inside s) '\\' (t ++ u)) := by
  obtain ⟨⟨a, r⟩, hescape, h⟩ := Option.bind_eq_some_iff.mp h
  obtain ⟨st₁, hatom, heq⟩ := Option.bind_eq_some_iff.mp h
  cases heq
  obtain ⟨hescape', hr⟩ := extends_readEscape st.flags hu ht _ _ hescape
  refine .of_names_eq hs (State.names_pushAtom hatom) hr ?_
  rw [step_backslash, State.flags_inside, hescape', Option.bind_some, State.inside_pushAtom hatom,
    Option.bind_some]

def syntaxChars : List Char := ['(', ')', '|', '[', '?', '*', '+', '{', '\\', '.', '^', '$']

lemma step_of_literal (d : Dialect) (st : State) {c : Char} (hc : c ∉ syntaxChars) (r : Text) :
    step d st c r = some (st.push (.chars (st.flags.literal c)), r) := by
  unfold step
  split <;> first
    | exact absurd (by decide) hc
    | rfl

/-- A step inside surroundings is the step outside, unless it brings a name that is used there. -/
theorem step_inside (d : Dialect) (hu : Stops u) (hs : ¬s.Clashes st.names) {c : Char}
    (ht : '#' ∉ c :: t) (h : step d st c t = some (st', rest)) :
    ReadInside s u st st' rest (step d (st.inside s) c (t ++ u)) := by
  have hr : '#' ∉ t := fun hc => ht (List.mem_cons_of_mem _ hc)
  by_cases hc : c ∈ syntaxChars
  · simp only [syntaxChars, List.mem_cons, List.not_mem_nil, or_false] at hc
    rcases hc with rfl | rfl | rfl | rfl | rfl | rfl | rfl | rfl | rfl | rfl | rfl | rfl
    · exact readGroup_inside d hu hs hr h
    · obtain ⟨st₁, hclose, heq⟩ := Option.map_eq_some_iff.mp h
      cases heq
      refine .of_names_eq hs (State.names_closeGroup hclose) hr ?_
      exact congrArg (Option.map _) (State.inside_closeGroup hclose)
    · cases h
      exact .of_names_eq hs rfl hr (by rw [State.inside_bar]; rfl)
    · exact readClass_step_inside hu hs hr h
    · exact simple_inside hu hs hr h
    · exact simple_inside hu hs hr h
    · exact simple_inside hu hs hr h
    · exact readBounds_step_inside hu hs hr h
    · exact readEscape_step_inside hu hs hr h
    · obtain ⟨set, hdot, heq⟩ := Option.bind_eq_some_iff.mp h
      cases heq
      refine .of_names_eq hs rfl hr ?_
      rw [step_dot, State.flags_inside, hdot, State.inside_push, Option.bind_some]
    · cases h
      exact .of_names_eq hs rfl hr (by rw [State.inside_push]; rfl)
    · cases h
      exact .of_names_eq hs rfl hr (by rw [State.inside_push]; rfl)
  · rw [step_of_literal d _ hc] at h
    cases h
    rw [step_of_literal d _ hc, State.flags_inside]
    exact .of_names_eq hs rfl hr (by rw [State.inside_push])

end Inside

/-! ## Runs -/

lemma read_eq (d : Dialect) (st : State) (t : Text) :
    read d st t = match st.flags.skip t with
      | [] => some st
      | c :: r => match step d st c r with
        | none => none
        | some (next, rest) => if rest.length ≤ r.length then read d next rest else none := by
  rw [read.eq_def]
  split
  · rename_i hs
    rw [hs]
  · rename_i c r hs
    rewrite [hs]
    rfl

lemma read_of_skip_eq_nil (d : Dialect) (st : State) {t : Text} (h : st.flags.skip t = []) :
    read d st t = some st := by
  rw [read_eq, h]

lemma read_of_skip_eq_cons (d : Dialect) (st : State) {t r : Text} {c : Char}
    (h : st.flags.skip t = c :: r) :
    read d st t = (step d st c r).bind fun p =>
      if p.2.length ≤ r.length then read d p.1 p.2 else none := by
  rw [read_eq, h]
  dsimp only
  cases step d st c r <;> rfl

lemma read_of_step (d : Dialect) {st next : State} {c : Char} {r rest : Text}
    (hskip : st.flags.skip (c :: r) = c :: r) (h : step d st c r = some (next, rest))
    (hle : rest.length ≤ r.length) : read d st (c :: r) = read d next rest := by
  rw [read_of_skip_eq_cons d st hskip, h, Option.bind_some, if_pos hle]

lemma readLazy_of_head {t : Text} (h : t.head? ≠ some '?') : readLazy t = (false, t) := by
  unfold readLazy
  split
  · exact absurd rfl h
  · rfl

lemma read_repeated (d : Dialect) {st : State} {c : Char} {t : Text} {min : Nat} {max : Option Nat}
    {p : Piece} {ps : List Piece} (hskip : st.flags.skip (c :: t) = c :: t)
    (hstep : step d st c t = step.simple st min max t) (hpieces : st.level.pieces = p :: ps)
    (hsetting : p.isSetting = false) (ht : t.head? ≠ some '?') :
    read d st (c :: t) = read d
      { st with level := { st.level with pieces :=
        { regex := repeated min max (false == st.flags.swapGreed) p.regex, depth := p.depth + 1 } ::
          ps } } t := by
  refine read_of_step d hskip ?_ (Nat.le_refl _)
  rw [hstep]
  unfold step.simple State.repeatLast
  simp only [readLazy_of_head ht, hpieces, hsetting, Bool.false_eq_true, if_false, Option.map_some]

lemma exists_step_of_read {d : Dialect} {st st' : State} {t r : Text} {c : Char}
    (hs : st.flags.skip t = c :: r) (h : read d st t = some st') :
    ∃ next rest, step d st c r = some (next, rest) ∧ rest.length ≤ r.length ∧
      read d next rest = some st' := by
  rw [read_of_skip_eq_cons d st hs] at h
  obtain ⟨⟨next, rest⟩, hstep, h⟩ := Option.bind_eq_some_iff.mp h
  dsimp only at h
  by_cases hle : rest.length ≤ r.length
  · rw [if_pos hle] at h
    exact ⟨next, rest, hstep, hle, h⟩
  · rw [if_neg hle] at h
    cases h

lemma not_clashes_nil (names : List Text) : ¬Surroundings.Clashes {} names := by
  rintro ⟨n, -, hn⟩
  exact absurd hn (List.not_mem_nil)

lemma names_subset_of_read {d : Dialect} {st st' : State} {t : Text} (ht : '#' ∉ t)
    (h : read d st t = some st') : st.names ⊆ st'.names := by
  induction hn : t.length using Nat.strongRecOn generalizing t st with
  | ind n ih =>
    have hmem := number_sign_not_mem_skip st.flags ht
    have hlen := st.flags.length_skip t
    cases hs : st.flags.skip t with
    | nil =>
      rw [read_of_skip_eq_nil d st hs] at h
      cases h
      exact List.Subset.refl _
    | cons c r =>
      rw [hs] at hmem hlen
      obtain ⟨next, rest, hstep, hle, h⟩ := exists_step_of_read hs h
      have hinside := step_inside d .nil (not_clashes_nil st.names) hmem hstep
      exact List.Subset.trans hinside.names
        (ih rest.length (by simp at hlen; omega) hinside.rest h rfl)

/-- An expression that can be read on its own is read in the same way inside surroundings, unless a name
of it is used there. Then nothing that goes on with it can be read. -/
theorem read_inside (d : Dialect) {u : Text} (hu : Stops u) {s : Surroundings} {st st' : State}
    {t : Text} (hs : ¬s.Clashes st.names) (ht : '#' ∉ t) (h : read d st t = some st') :
    read d (st.inside s) (t ++ u) =
      if s.Clashes st'.names then none else read d (st'.inside s) u := by
  -- On what is left to read: as long as no name clashes, both readers are at the same character.
  induction hn : t.length using Nat.strongRecOn generalizing t st with
  | ind n ih =>
    have hskip : (st.inside s).flags.skip (t ++ u) = st.flags.skip t ++ u :=
      skip_append st.flags ht hu
    have hmem := number_sign_not_mem_skip st.flags ht
    have hlen := st.flags.length_skip t
    cases hs' : st.flags.skip t with
    | nil =>
      rw [read_of_skip_eq_nil d st hs'] at h
      cases h
      rw [hs', List.nil_append] at hskip
      rw [if_neg hs, read_eq, hskip, read_eq d _ u, skip_of_stops _ hu]
    | cons c r =>
      rw [hs', List.cons_append] at hskip
      rw [hs'] at hmem hlen
      obtain ⟨next, rest, hstep, hle, h⟩ := exists_step_of_read hs' h
      have hinside := step_inside d hu hs hmem hstep
      rw [read_of_skip_eq_cons d _ hskip, hinside.result]
      by_cases hclash : s.Clashes next.names
      -- Names are never given back, so a clash at one step is a clash at the end.
      · obtain ⟨n, hn, hused⟩ := hclash
        have hclash' : s.Clashes st'.names := ⟨n, names_subset_of_read hinside.rest h hn, hused⟩
        rw [if_pos ⟨n, hn, hused⟩, if_pos hclash', Option.bind_none]
      · have hle' : (rest ++ u).length ≤ (r ++ u).length := by simpa using hle
        rw [if_neg hclash, Option.bind_some, if_pos hle']
        exact ih rest.length (by simp at hlen; omega) hclash hinside.rest h rfl

end Userscript.Regex
