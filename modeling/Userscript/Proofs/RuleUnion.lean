import Userscript.Proofs.DistinctRules
import Userscript.Proofs.GlobExpression
import Userscript.Rules.Filter
import Mathlib.Data.List.TakeWhile

/-!
# Rules together and alone

A filter joins the expressions of its rules with bars. Its decision is that of the rules one by one as long
as no rule but the last leaves changed settings behind. A glob never does, but an expression between slashes
may, and the rules after it are then read under its settings.
-/

namespace Userscript

open Regex

/-! ## Expressions -/

namespace Regex

theorem readInTurn_eq_filterMap {ts : List Text}
    (hread : ∀ t ∈ ts, ∃ st, read {} {} t = some st ∧ st.scopes = [])
    (hkeep : ∀ t ∈ ts.dropLast, ∀ st, read {} {} t = some st → st.flags = {}) :
    readInTurn {} ts = some (ts.filterMap (read {} {})) := by
  induction ts with
  | nil => rfl
  | cons t ts ih =>
    obtain ⟨st, hst, hscopes⟩ := hread t List.mem_cons_self
    have hrest : readInTurn st.flags ts = some (ts.filterMap (read {} {})) := by
      cases ts with
      -- Nothing is read behind the last expression, so the settings that it leaves do not count.
      | nil => rfl
      | cons t' ts =>
        rw [hkeep t List.mem_cons_self st hst]
        exact ih (fun q hq => hread q (List.mem_cons_of_mem _ hq))
          (fun q hq => hkeep q (List.mem_cons_of_mem _ hq))
    rw [List.filterMap_cons_some hst]
    simp [readInTurn, hst, hscopes, hrest]

lemma alternatives_sublist {sts : List State} {st : State} (h : st ∈ sts) :
    st.level.alternatives.Sublist (alternativesOf sts) := by
  obtain ⟨before, after, rfl⟩ := List.append_of_mem h
  unfold alternativesOf
  rw [List.flatMap_append, List.flatMap_cons]
  exact (List.sublist_append_left _ _).trans (List.sublist_append_right _ _)

end Regex

/-! ## Modes -/

namespace FilterMode

/-- What a mode makes of an expression and its depth. -/
def around (mode : FilterMode) (r : Regex × Nat) : Option (Regex × Nat) :=
  match mode with
  | .ignore => some r
  | .intercept => some (r.1.whole, r.2 + 2)
  | .disabled => none

def surroundings : FilterMode → Surroundings
  | .intercept => wholeSurroundings
  | _ => {}

/-- Whether what has been read matches a host in the way that a mode asks for. -/
def Meets (mode : FilterMode) (host : Text) (st : State) : Prop :=
  ∃ r, mode.around st.level.close = some r ∧ r.1.isMatch host = true

variable {mode : FilterMode} {as bs : List (Regex × Nat)} {r : Regex × Nat}

lemma isMatch_around (hne : as ≠ [])
    (h : mode.around (altAll (as.map Prod.fst), depthOf as) = some r) (host : Text) :
    r.1.isMatch host = true ↔ ∃ a ∈ as, ∃ q, mode.around a = some q ∧ q.1.isMatch host = true := by
  have hmap : as.map Prod.fst ≠ [] := by simpa using hne
  cases mode with
  | ignore =>
    cases h
    simp [around, isMatch_altAll hmap]
  | intercept =>
    cases h
    simp [around, isMatch_whole_altAll hmap]
  | disabled => cases h

lemma isMatch_around_close {st : State} (h : mode.around st.level.close = some r) (host : Text) :
    r.1.isMatch host = true ↔
      ∃ a ∈ st.level.alternatives, ∃ q, mode.around a = some q ∧ q.1.isMatch host = true := by
  rw [Level.close_eq] at h
  exact isMatch_around st.level.alternatives_ne_nil h host

lemma withinLimits_around (hne : as ≠ []) (h : as.Sublist bs) {out : Regex}
    (hbs : (mode.around (altAll (bs.map Prod.fst), depthOf bs)).bind withinLimits = some out) :
    ∃ r, mode.around (altAll (as.map Prod.fst), depthOf as) = some r ∧
      withinLimits r = some r.1 := by
  have hfoot := footprint_altAll_le (by simpa using hne) (h.map Prod.fst)
  have hdepth := depthOf_le hne h
  obtain ⟨b, hb, hlimits⟩ := Option.bind_eq_some_iff.mp hbs
  obtain ⟨-, hbdepth, hbfoot⟩ := withinLimits_eq_some.mp hlimits
  cases mode with
  | ignore =>
    cases hb
    exact ⟨_, rfl, withinLimits_eq_some.mpr ⟨rfl, hdepth.trans hbdepth, hfoot.trans hbfoot⟩⟩
  | intercept =>
    cases hb
    -- To match as a whole costs the same depth and size whatever is inside.
    refine ⟨_, rfl, withinLimits_eq_some.mpr ⟨rfl, ?_, ?_⟩⟩
    · exact (Nat.add_le_add_right hdepth 2).trans hbdepth
    · simp only [whole, footprint] at hbfoot ⊢
      omega
  | disabled => cases hb

end FilterMode

namespace HostFilter

variable {mode : FilterMode} {e t : Text} {ts : List Text} {sts : List State} {st : State}

lemma regexText?_eq_none_iff : regexText? e mode = none ↔ mode = .disabled := by
  cases mode <;> simp [regexText?]

lemma tree?_of_regexText?_join (he : regexText? (Text.join ['|'] ts) mode = some e) (hne : ts ≠ [])
    (hsign : ∀ t ∈ ts, '#' ∉ t) (h : readInTurn {} ts = some sts) :
    tree? e = (joinStates mode.surroundings sts).bind fun _ =>
      mode.around (altAll ((alternativesOf sts).map Prod.fst), depthOf (alternativesOf sts)) := by
  cases mode with
  | ignore =>
    cases he
    rw [tree?_join hne hsign h, Option.map_eq_bind]
    rfl
  | intercept =>
    cases he
    have htree := tree?_wholeText_join hne hsign h
    rw [wholeText] at htree
    rw [htree, Option.map_eq_bind]
    rfl
  | disabled => cases he

lemma parse_of_regexText?_join (he : regexText? (Text.join ['|'] ts) mode = some e) (hne : ts ≠ [])
    (hsign : ∀ t ∈ ts, '#' ∉ t) (h : readInTurn {} ts = some sts) {out : Regex}
    (hout : parse {} e = some out) :
    (mode.around (altAll ((alternativesOf sts).map Prod.fst), depthOf (alternativesOf sts))).bind
      withinLimits = some out := by
  rw [parse_eq_tree?, tree?_of_regexText?_join he hne hsign h, Option.bind_assoc] at hout
  obtain ⟨-, -, hout⟩ := Option.bind_eq_some_iff.mp hout
  exact hout

lemma parse_of_regexText?_read (he : regexText? t mode = some e) (hsign : '#' ∉ t)
    (h : read {} {} t = some st) (hscopes : st.scopes = []) :
    parse {} e = (mode.around st.level.close).bind withinLimits := by
  rw [Level.close_eq]
  cases mode with
  | ignore =>
    cases he
    exact parse_of_read h hscopes
  | intercept =>
    cases he
    exact parse_wholeText_of_read hsign h hscopes
  | disabled => cases he

lemma alternativesOf_ne_nil (h : sts ≠ []) : alternativesOf sts ≠ [] := by
  cases sts with
  | nil => exact absurd rfl h
  | cons st sts => simp [alternativesOf, st.level.alternatives_ne_nil]

/-- The joined rules match a host just when what has been read of one of them does. -/
theorem isMatch_join_iff (he : regexText? (Text.join ['|'] ts) mode = some e) (hne : ts ≠ [])
    (hsign : ∀ t ∈ ts, '#' ∉ t) (h : readInTurn {} ts = some sts) {out : Regex}
    (hout : parse {} e = some out) (host : Text) :
    out.isMatch host = true ↔ ∃ st ∈ sts, mode.Meets host st := by
  have hparse := parse_of_regexText?_join he hne hsign h hout
  obtain ⟨r, hr, hlimits⟩ := Option.bind_eq_some_iff.mp hparse
  obtain ⟨rfl, -, -⟩ := withinLimits_eq_some.mp hlimits
  have hsts : sts ≠ [] := by
    rintro rfl
    cases ts with
    | nil => exact hne rfl
    | cons t ts =>
      obtain ⟨st, rest, -, -, -, hcons⟩ := readInTurn_cons h
      cases hcons
  rw [FilterMode.isMatch_around (alternativesOf_ne_nil hsts) hr]
  constructor
  · rintro ⟨a, ha, q, hq, hmatch⟩
    obtain ⟨st, hst, ha⟩ := List.mem_flatMap.mp ha
    have hclose : ∃ c, mode.around st.level.close = some c := by
      cases mode with
      | ignore => exact ⟨_, rfl⟩
      | intercept => exact ⟨_, rfl⟩
      | disabled => cases hq
    obtain ⟨c, hc⟩ := hclose
    exact ⟨st, hst, c, hc, (FilterMode.isMatch_around_close hc host).mpr ⟨a, ha, q, hq, hmatch⟩⟩
  · rintro ⟨st, hst, c, hc, hmatch⟩
    obtain ⟨a, ha, q, hq, hmatch⟩ := (FilterMode.isMatch_around_close hc host).mp hmatch
    exact ⟨a, List.mem_flatMap.mpr ⟨st, hst, ha⟩, q, hq, hmatch⟩

def noHostsState : State := ({} : State).pushAll
  [{ regex := .look .textStart, depth := 0 }, { regex := .look .textEnd, depth := 0 }]

lemma read_noHosts : read {} {} RuleSet.noHosts = some noHostsState := by
  have htext : RuleSet.noHosts = ['^', '$'] := by decide
  rw [htext, read_of_step {} rfl rfl (Nat.le_refl _), read_of_step {} rfl rfl (Nat.le_refl _),
    read_of_skip_eq_nil {} _ rfl]
  rfl

lemma isMatch_noHosts (he : regexText? RuleSet.noHosts mode = some e) {out : Regex}
    (hout : parse {} e = some out) {host : Text} (hhost : host ≠ []) : out.isMatch host = false := by
  rw [parse_of_regexText?_read he (by decide) read_noHosts rfl] at hout
  obtain ⟨r, hr, hlimits⟩ := Option.bind_eq_some_iff.mp hout
  obtain ⟨rfl, -, -⟩ := withinLimits_eq_some.mp hlimits
  have hnone : ∀ j ≤ host.length, Assertion.textStart.holds host.toArray j = true →
      Assertion.textEnd.holds host.toArray j = true → False := by
    intro j hj hstart hend
    simp [Assertion.holds, Assertion.between] at hstart hend
    have hsize := List.length_pos_iff.mpr hhost
    omega
  by_contra hmatch
  rw [Bool.not_eq_false] at hmatch
  cases mode with
  | ignore =>
    cases hr
    obtain ⟨j, hj⟩ := (isMatch_iff _ _).mp hmatch
    obtain ⟨hj, hend⟩ := List.mem_filter.mp hj
    obtain ⟨hj, hstart⟩ := List.mem_filter.mp hj
    exact hnone j (Nat.lt_succ_iff.mp (List.mem_range.mp hj)) hstart hend
  | intercept =>
    cases hr
    obtain ⟨j, hj, hend⟩ := (isMatch_whole_iff _ _).mp hmatch
    obtain ⟨hj, -⟩ := List.mem_filter.mp hj
    obtain ⟨hj, hstart⟩ := List.mem_filter.mp hj
    obtain ⟨hj, -⟩ := List.mem_filter.mp hj
    exact hnone j (Nat.lt_succ_iff.mp (List.mem_range.mp hj)) hstart hend
  | disabled => cases hr

end HostFilter

/-! ## Rules -/

namespace RuleSet

def isUsable (rule : Text) : Bool := (compileRule rule).toBool

/-- The rules of a file, without repeats, that have an expression. -/
def usable (t : Text) : List Text := (distinct (parse t)).filter isUsable

def expressions (t : Text) : List Text := (usable t).map HostRule.regexText

/-- Whether a rule leaves the settings as they are for what is read behind it. A glob always does. -/
def keepsSettings (rule : Text) : Bool :=
  match Pattern.expression? rule with
  | none => true
  | some inner => (Regex.read {} {} inner).all fun st => st.flags = {}

lemma compileRule_eq_ok {rule text : Text} (h : compileRule rule = .ok text) :
    text = HostRule.regexText rule := by
  unfold compileRule at h
  dsimp only at h
  split at h
  · cases h
  · cases h
    rfl

lemma isUsable_iff {rule : Text} :
    isUsable rule = true ↔ compileRule rule = .ok (HostRule.regexText rule) := by
  unfold isUsable
  cases h : compileRule rule with
  | error e => simp [Except.toBool]
  | ok text => simp [Except.toBool, compileRule_eq_ok h]

def error? (rule : Text) : Option Error :=
  match compileRule rule with
  | .ok _ => none
  | .error e => some e

lemma error?_eq_none_iff {rule : Text} : error? rule = none ↔ isUsable rule = true := by
  unfold error? isUsable
  cases compileRule rule <;> simp [Except.toBool]

/-- The expressions that are put together are those of the rules that have one, and the errors are those of the other
rules, each in the order of the rules. -/
theorem compileEach_value (rules : List Text) : (compileEach rules).value =
    ((rules.filter isUsable).map HostRule.regexText, rules.filterMap error?) := by
  induction rules with
  | nil => rfl
  | cons rule rest ih =>
    cases h : compileRule rule with
    | ok text =>
      have husable : isUsable rule = true := by
        rw [isUsable, h]
        rfl
      rw [List.filter_cons_of_pos husable, List.map_cons,
        List.filterMap_cons_none (error?_eq_none_iff.mpr husable), ← compileRule_eq_ok h]
      simp [compileEach, h, ih]
    | error e =>
      have herror : error? rule = some e := by rw [error?, h]
      have husable : ¬isUsable rule = true := by
        rw [isUsable, h]
        exact Bool.false_ne_true
      rw [List.filter_cons_of_neg husable, List.filterMap_cons_some herror]
      simp [compileEach, h, ih]

theorem compile_ignoreExpression (t : Text) (mode : FilterMode) :
    (compile t mode).value.ignoreExpression = union (expressions t) := by
  have htexts := congrArg Prod.fst (compileEach_value (distinct (parse t)))
  exact congrArg union htexts

lemma compile_errors (t : Text) (mode : FilterMode) :
    (compile t mode).value.errors = (distinct (parse t)).filterMap error? :=
  congrArg Prod.snd (compileEach_value (distinct (parse t)))

lemma mem_of_mem_dropRepeats {seen rules : List Text} {rule : Text}
    (h : rule ∈ dropRepeats seen rules) : rule ∈ rules :=
  (mem_dropRepeats_iff.mp h).1

lemma number_sign_not_mem_stripComment (line : Text) : '#' ∉ stripComment line := by
  intro h
  have htrim : '#' ∈ line.takeWhile (· != '#') := by
    have hstart := List.mem_reverse.mp ((List.dropWhile_suffix _).subset (List.mem_reverse.mp h))
    exact (List.dropWhile_suffix _).subset hstart
  exact absurd (List.mem_takeWhile_imp htrim) (by decide)

lemma number_sign_not_mem_of_mem_expressions {t e : Text} (h : e ∈ expressions t) : '#' ∉ e := by
  obtain ⟨rule, hrule, rfl⟩ := List.mem_map.mp h
  have hparse := mem_of_mem_dropRepeats (List.mem_filter.mp hrule).1
  obtain ⟨line, -, rfl⟩ := List.mem_map.mp (List.mem_filter.mp hparse).1
  exact HostRule.number_sign_not_mem_regexText (number_sign_not_mem_stripComment line)

theorem read_of_mem_usable {t rule : Text} (h : rule ∈ usable t) :
    ∃ st, read {} {} (HostRule.regexText rule) = some st ∧ st.scopes = [] ∧
      (keepsSettings rule = true → st.flags = {}) := by
  have hok := isUsable_iff.mp (List.mem_filter.mp h).2
  cases hexpr : Pattern.expression? rule with
  | none => exact ⟨_, HostRule.read_regexText_of_glob hexpr, rfl, fun _ => rfl⟩
  | some inner =>
    have htext : HostRule.regexText rule = inner := by
      unfold HostRule.regexText
      rw [hexpr]
    rw [htext]
    have hparse : Regex.parse {} inner ≠ none := by
      intro hnone
      unfold compileRule at hok
      simp [hexpr, htext, hnone] at hok
    obtain ⟨out, hout⟩ := Option.ne_none_iff_exists'.mp hparse
    rw [parse_eq] at hout
    obtain ⟨st, hread, hout⟩ := Option.bind_eq_some_iff.mp hout
    by_cases hscopes : st.scopes.isEmpty = true
    · refine ⟨st, hread, List.isEmpty_iff.mp hscopes, ?_⟩
      intro hkeeps
      unfold keepsSettings at hkeeps
      simpa [hexpr, hread] using hkeeps
    · rw [if_neg hscopes] at hout
      cases hout

theorem readInTurn_expressions {t : Text}
    (hkeeps : ∀ rule ∈ (usable t).dropLast, keepsSettings rule = true) :
    readInTurn {} (expressions t) = some ((expressions t).filterMap (read {} {})) := by
  apply readInTurn_eq_filterMap
  · intro text htext
    obtain ⟨rule, hrule, rfl⟩ := List.mem_map.mp htext
    obtain ⟨st, hst, hscopes, -⟩ := read_of_mem_usable hrule
    exact ⟨st, hst, hscopes⟩
  · intro text htext st hst
    rw [expressions, ← List.map_dropLast] at htext
    obtain ⟨rule, hrule, rfl⟩ := List.mem_map.mp htext
    obtain ⟨st', hst', -, hkept⟩ := read_of_mem_usable (List.dropLast_subset _ hrule)
    rw [hst] at hst'
    cases hst'
    exact hkept (hkeeps rule hrule)

end RuleSet

/-! ## Decisions -/

namespace HostFilter

/-- A filter selects a host just when a condition holds. In one mode the hosts that are selected are left
alone, in the other mode all others are, and a disabled filter selects none. -/
def SelectsIff (f : HostFilter) (host : Text) (p : Prop) : Prop :=
  match f.mode with
  | .ignore => f.isIgnored host = true ↔ p
  | .intercept => f.isIgnored host = false ↔ p
  | .disabled => f.isIgnored host = false ∧ ¬p

/-- Whether the expression of a rule, compiled on its own, matches a host in the way that a mode asks for. -/
def MatchesAlone (mode : FilterMode) (host rule : Text) : Prop :=
  ∃ text e r, RuleSet.compileRule rule = .ok text ∧ regexText? text mode = some e ∧
    parse {} e = some r ∧ r.isMatch host = true

lemma matchesAlone_iff (mode : FilterMode) (host rule : Text) :
    MatchesAlone mode host rule ↔ ((RuleSet.compileRule rule).toOption.any fun text =>
      (regexText? text mode).any fun e => (parse {} e).any fun r => r.isMatch host) = true := by
  unfold MatchesAlone
  cases RuleSet.compileRule rule <;> simp [Option.any_eq_true, Except.toOption]

instance (mode : FilterMode) (host rule : Text) : Decidable (MatchesAlone mode host rule) :=
  decidable_of_iff _ (matchesAlone_iff mode host rule).symm

section Decision

variable {mode : FilterMode} {f : HostFilter} {t host : Text} {p q : Prop}

lemma SelectsIff.congr (h : f.SelectsIff host p) : f.SelectsIff host q ↔ (p ↔ q) := by
  unfold SelectsIff at h ⊢
  cases hmode : f.mode with
  | ignore =>
    rw [hmode] at h
    exact ⟨fun hq => h.symm.trans hq, fun hpq => h.trans hpq⟩
  | intercept =>
    rw [hmode] at h
    exact ⟨fun hq => h.symm.trans hq, fun hpq => h.trans hpq⟩
  | disabled =>
    rw [hmode] at h
    exact ⟨fun hq => iff_of_false h.2 hq.2, fun hpq => ⟨h.1, fun hq => h.2 (hpq.mpr hq)⟩⟩

lemma SelectsIff.isIgnored_eq {f' : HostFilter} (hmode : f.mode = f'.mode) (h : f.SelectsIff host p)
    (h' : f'.SelectsIff host p) : f.isIgnored host = f'.isIgnored host := by
  unfold SelectsIff at h h'
  rw [← hmode] at h'
  cases hf : f.mode with
  | ignore =>
    rw [hf] at h h'
    exact Bool.eq_iff_iff.mpr (h.trans h'.symm)
  | intercept =>
    rw [hf] at h h'
    exact Bool.not_inj (Bool.eq_iff_iff.mpr (by simpa using h.trans h'.symm))
  | disabled =>
    rw [hf] at h h'
    exact h.1.trans h'.1.symm

lemma build_eq_ok {expression : Text} (h : build mode expression = .ok f) : f.mode = mode ∧
    ((mode = .disabled ∧ f.regex = none) ∨ ∃ e out, regexText? expression mode = some e ∧
      parse {} e = some out ∧ f.regex = some out) := by
  unfold build at h
  split at h
  · rename_i htext
    cases h
    exact ⟨rfl, Or.inl ⟨regexText?_eq_none_iff.mp htext, rfl⟩⟩
  · rename_i e htext
    split at h
    · rename_i out hparse
      cases h
      exact ⟨rfl, Or.inr ⟨e, out, htext, hparse, rfl⟩⟩
    · cases h

lemma selectsIff_of_regex {out : Regex} (hmode : f.mode ≠ .disabled) (hregex : f.regex = some out)
    (h : out.isMatch host = true ↔ p) : f.SelectsIff host p := by
  unfold SelectsIff isIgnored
  rw [hregex]
  cases hf : f.mode with
  | ignore => simpa using h
  | intercept => simpa using h
  | disabled => exact absurd hf hmode

lemma ofRules_eq_ok (hf : ofRules (RuleSet.compile t mode).value = .ok f) : f.mode = mode ∧
    ((mode = .disabled ∧ f.regex = none) ∨
      ∃ e out, regexText? (RuleSet.union (RuleSet.expressions t)) mode = some e ∧
        parse {} e = some out ∧ f.regex = some out) := by
  rw [ofRules, RuleSet.compile_ignoreExpression] at hf
  exact build_eq_ok hf

/-- A filter selects a host just when what has been read of one of its rules, each under the settings
that the rules before it leave, matches the host. -/
theorem selectsIff_meets (hf : ofRules (RuleSet.compile t mode).value = .ok f) (hhost : host ≠ [])
    {sts : List State} (h : readInTurn {} (RuleSet.expressions t) = some sts) :
    f.SelectsIff host (∃ st ∈ sts, mode.Meets host st) := by
  obtain ⟨rfl, ⟨hdisabled, hregex⟩ | ⟨e, out, he, hparse, hregex⟩⟩ := ofRules_eq_ok hf
  · unfold SelectsIff isIgnored FilterMode.Meets
    rw [hdisabled, hregex]
    refine ⟨rfl, ?_⟩
    rintro ⟨st, -, r, hr, -⟩
    cases hr
  · have hmode : f.mode ≠ .disabled := by
      intro hdisabled
      rw [hdisabled] at he
      cases he
    apply selectsIff_of_regex hmode hregex
    have hsign : ∀ text ∈ RuleSet.expressions t, '#' ∉ text :=
      fun text => RuleSet.number_sign_not_mem_of_mem_expressions
    cases htexts : RuleSet.expressions t with
    | nil =>
      rw [htexts] at h he
      cases h
      rw [isMatch_noHosts he hparse hhost]
      simp
    | cons text texts =>
      rw [htexts] at h he hsign
      exact isMatch_join_iff he (List.cons_ne_nil _ _) hsign h hparse host

lemma withinLimits_of_mem (hf : ofRules (RuleSet.compile t mode).value = .ok f)
    (hmode : mode ≠ .disabled) {sts : List State}
    (h : readInTurn {} (RuleSet.expressions t) = some sts) {st : State} (hst : st ∈ sts) :
    ∃ r, mode.around st.level.close = some r ∧ withinLimits r = some r.1 := by
  obtain ⟨rfl, ⟨hdisabled, -⟩ | ⟨e, out, he, hparse, -⟩⟩ := ofRules_eq_ok hf
  · exact absurd hdisabled hmode
  · have hsign : ∀ text ∈ RuleSet.expressions t, '#' ∉ text :=
      fun text => RuleSet.number_sign_not_mem_of_mem_expressions
    cases htexts : RuleSet.expressions t with
    | nil =>
      rw [htexts] at h
      cases h
      cases hst
    | cons text texts =>
      rw [htexts] at h he hsign
      have hlimits := parse_of_regexText?_join he (List.cons_ne_nil _ _) hsign h hparse
      rw [Level.close_eq]
      exact FilterMode.withinLimits_around st.level.alternatives_ne_nil (alternatives_sublist hst) hlimits

lemma meets_iff_matchesAlone (hf : ofRules (RuleSet.compile t mode).value = .ok f) {sts : List State}
    (h : readInTurn {} (RuleSet.expressions t) = some sts) {rule : Text} (hrule : rule ∈ RuleSet.usable t)
    {st : State} (hread : read {} {} (HostRule.regexText rule) = some st) (hst : st ∈ sts) :
    mode.Meets host st ↔ MatchesAlone mode host rule := by
  cases hmode : regexText? (HostRule.regexText rule) mode with
  | none =>
    obtain rfl := regexText?_eq_none_iff.mp hmode
    refine iff_of_false ?_ ?_
    · rintro ⟨r, hr, -⟩
      cases hr
    · rintro ⟨text, e, r, -, he, -⟩
      cases he
  | some e =>
    have henabled : mode ≠ .disabled := by
      rintro rfl
      cases hmode
    obtain ⟨r, hr, hlimits⟩ := withinLimits_of_mem hf henabled h hst
    have hcompile := RuleSet.isUsable_iff.mp (List.mem_filter.mp hrule).2
    have hsign := RuleSet.number_sign_not_mem_of_mem_expressions (List.mem_map_of_mem hrule)
    have hparse : parse {} e = some r.1 := by
      rw [parse_of_regexText?_read hmode hsign hread (scopes_of_readInTurn h st hst), hr,
        Option.bind_some, hlimits]
    constructor
    · rintro ⟨r', hr', hmatch⟩
      rw [hr] at hr'
      cases hr'
      exact ⟨_, e, r.1, hcompile, hmode, hparse, hmatch⟩
    · rintro ⟨text, e', out, hcompile', he', hout, hmatch⟩
      rw [hcompile] at hcompile'
      cases hcompile'
      rw [hmode] at he'
      cases he'
      rw [hparse] at hout
      cases hout
      exact ⟨r, hr, hmatch⟩

/-- A filter goes by its rules one by one when no rule but the last leaves changed settings behind. -/
theorem selectsIff_matchesAlone (hf : ofRules (RuleSet.compile t mode).value = .ok f) (hhost : host ≠ [])
    (hkeeps : ∀ rule ∈ (RuleSet.usable t).dropLast, RuleSet.keepsSettings rule = true) :
    f.SelectsIff host (∃ rule ∈ RuleSet.usable t, MatchesAlone mode host rule) := by
  have hturn := RuleSet.readInTurn_expressions hkeeps
  refine (selectsIff_meets hf hhost hturn).congr.mpr ?_
  constructor
  · rintro ⟨st, hst, hmeets⟩
    obtain ⟨text, htext, hread⟩ := List.mem_filterMap.mp hst
    obtain ⟨rule, hrule, rfl⟩ := List.mem_map.mp htext
    exact ⟨rule, hrule, (meets_iff_matchesAlone hf hturn hrule hread hst).mp hmeets⟩
  · rintro ⟨rule, hrule, hmatch⟩
    obtain ⟨st, hread, -⟩ := RuleSet.read_of_mem_usable hrule
    have hst : st ∈ (RuleSet.expressions t).filterMap (read {} {}) :=
      List.mem_filterMap.mpr ⟨_, List.mem_map_of_mem hrule, hread⟩
    exact ⟨st, hst, (meets_iff_matchesAlone hf hturn hrule hread hst).mpr hmatch⟩

/-- A filter goes by its rules one by one when no rule but the last leaves changed settings behind; the
order of the rules then does not count. In general, a filter whose rules can be read in turn goes by them
one by one just when that makes no difference to what matches the host. -/
theorem selectsIff_rules (hf : ofRules (RuleSet.compile t mode).value = .ok f) (hhost : host ≠ []) :
    ((∀ rule ∈ (RuleSet.usable t).dropLast, RuleSet.keepsSettings rule = true) →
      f.SelectsIff host (∃ rule ∈ RuleSet.usable t, MatchesAlone mode host rule)) ∧
    (∀ t' f', ofRules (RuleSet.compile t' mode).value = .ok f' →
      (∀ rule, rule ∈ RuleSet.usable t' ↔ rule ∈ RuleSet.usable t) →
      (∀ rule ∈ RuleSet.usable t, RuleSet.keepsSettings rule = true) →
        f'.isIgnored host = f.isIgnored host) ∧
    ∀ sts, readInTurn {} (RuleSet.expressions t) = some sts →
      (f.SelectsIff host (∃ rule ∈ RuleSet.usable t, MatchesAlone mode host rule) ↔
        ((∃ st ∈ sts, mode.Meets host st) ↔
          ∃ rule ∈ RuleSet.usable t, MatchesAlone mode host rule)) := by
  refine ⟨selectsIff_matchesAlone hf hhost, ?_, ?_⟩
  · intro t' f' hf' hsame hkeeps
    have hselects := selectsIff_matchesAlone hf hhost fun rule hrule =>
      hkeeps rule (List.dropLast_subset _ hrule)
    have hselects' := selectsIff_matchesAlone hf' hhost fun rule hrule =>
      hkeeps rule ((hsame rule).mp (List.dropLast_subset _ hrule))
    simp only [hsame] at hselects'
    exact hselects'.isIgnored_eq ((ofRules_eq_ok hf').1.trans (ofRules_eq_ok hf).1.symm) hselects
  · intro sts hturn
    exact (selectsIff_meets hf hhost hturn).congr

end Decision

lemma exists_of_map_toOption {β : Type} {x : Except RuleSet.Error HostFilter} {g : HostFilter → β}
    {b : β} (h : x.toOption.map g = some b) : ∃ f, x = .ok f ∧ g f = b := by
  cases x with
  | error e => cases h
  | ok f => exact ⟨f, rfl, Option.some.inj h⟩

/-- A glob behind an expression that leaves the settings alone: each decides on its own. -/
theorem selectsIff_rules_of_expression_and_glob :
    ∃ f, ofRules (RuleSet.compile "/^ads\\./\n*.test:80 # with a port\n".toList .ignore).value = .ok f ∧
      f.isIgnored "shop.test:80".toList = true := by
  obtain ⟨f, hf, -⟩ := exists_of_map_toOption (b := FilterMode.ignore)
    (g := HostFilter.mode) (x := ofRules
      (RuleSet.compile "/^ads\\./\n*.test:80 # with a port\n".toList .ignore).value) (by decide +kernel)
  refine ⟨f, hf, ?_⟩
  have hhost : "shop.test:80".toList ≠ [] := by decide
  have husable : RuleSet.usable "/^ads\\./\n*.test:80 # with a port\n".toList =
      ["/^ads\\./".toList, "*.test:80".toList] := by
    decide +kernel
  have hkeeps : ∀ rule ∈ (RuleSet.usable "/^ads\\./\n*.test:80 # with a port\n".toList).dropLast,
      RuleSet.keepsSettings rule = true := by
    rw [husable]
    decide +kernel
  have hselects := (selectsIff_rules hf hhost).1 hkeeps
  unfold SelectsIff at hselects
  rw [(ofRules_eq_ok hf).1, husable] at hselects
  have halone : MatchesAlone .ignore "shop.test:80".toList "*.test:80".toList := by decide +kernel
  exact hselects.mpr ⟨_, by simp, halone⟩

/-- A rule that turns case off for itself turns it off for the rule behind it too, but not for one in
front of it. -/
theorem not_selectsIff_rules_of_leaked_case :
    (∃ f, ofRules (RuleSet.compile "/(?i)ads/\n/tracker/\n".toList .intercept).value = .ok f ∧
      f.isIgnored "TRACKER".toList = false ∧
      ¬f.SelectsIff "TRACKER".toList (∃ rule ∈ RuleSet.usable "/(?i)ads/\n/tracker/\n".toList,
        MatchesAlone .intercept "TRACKER".toList rule)) ∧
    ∃ f, ofRules (RuleSet.compile "/tracker/\n/(?i)ads/\n".toList .intercept).value = .ok f ∧
      f.isIgnored "TRACKER".toList = true := by
  refine ⟨?_, exists_of_map_toOption (by decide +kernel)⟩
  have hignored : (ofRules (RuleSet.compile "/(?i)ads/\n/tracker/\n".toList
      .intercept).value).toOption.map (·.isIgnored "TRACKER".toList) = some false := by
    decide +kernel
  obtain ⟨f, hf, hignored⟩ := exists_of_map_toOption hignored
  refine ⟨f, hf, hignored, ?_⟩
  intro hselects
  unfold SelectsIff at hselects
  rw [(ofRules_eq_ok hf).1] at hselects
  have husable : RuleSet.usable "/(?i)ads/\n/tracker/\n".toList =
      ["/(?i)ads/".toList, "/tracker/".toList] := by
    decide +kernel
  rw [husable] at hselects
  have halone : ∀ rule ∈ ["/(?i)ads/".toList, "/tracker/".toList],
      ¬MatchesAlone .intercept "TRACKER".toList rule := by
    decide +kernel
  obtain ⟨rule, hrule, hmatch⟩ := hselects.mp hignored
  exact halone rule hrule hmatch

end HostFilter

end Userscript
