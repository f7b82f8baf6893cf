import Userscript.Proofs.GroupNames
import Userscript.Proofs.LookAhead

/-!
# The published expression and the filter

The expression that is published for a file of rules may look ahead, and the filter made of the same file does
without. They decide alike about every host of one line, as long as the joined rules are an expression of their
own: a rule that changes settings may make a later one close a group that is not its own, and then the two
expressions have different things around them.
-/

namespace Userscript.HostFilter

open Regex

variable {mode : FilterMode} {f : HostFilter} {t host expression : Text}

/-- The expression reads where look-ahead is known, and is found in a host just when the filter leaves the host
alone. -/
def Agrees (f : HostFilter) (expression host : Text) : Prop :=
  ∃ r, lookAheadTree? expression = some r ∧ (f.isIgnored host = true ↔ r.Finds host.toArray)

/-- The expression for the rules can be read by itself, whatever its size. -/
def ReadsAlone (t : Text) (mode : FilterMode) : Prop :=
  (tree? (RuleSet.compile t mode).value.ignoreExpression).isSome = true

instance (t : Text) (mode : FilterMode) : Decidable (ReadsAlone t mode) :=
  inferInstanceAs (Decidable (_ = true))

lemma tree?_of_parse {out : Regex} (h : parse {} t = some out) : ∃ r, tree? t = some r ∧ r.1 = out := by
  rw [parse_eq_tree?] at h
  obtain ⟨r, hr, hlimits⟩ := Option.bind_eq_some_iff.mp h
  exact ⟨r, hr, (withinLimits_eq_some.mp hlimits).1⟩

lemma parse_wholeText_of_tree? (hsign : '#' ∉ t) {r : Regex × Nat} (h : tree? t = some r) {out : Regex}
    (hout : parse {} (wholeText t) = some out) : out = r.1.whole := by
  obtain ⟨flags, names, level, hread, rfl⟩ := tree?_eq_some h
  rw [parse_wholeText_of_read hsign hread rfl] at hout
  obtain ⟨rfl, -, -⟩ := withinLimits_eq_some.mp hout
  rw [Level.close_eq]

lemma number_sign_not_mem_union (t : Text) : '#' ∉ RuleSet.union (RuleSet.expressions t) := by
  rw [RuleSet.union_expressions]
  exact Text.not_mem_join (by decide) fun _ => RuleSet.number_sign_not_mem_of_mem_operands

lemma agrees_of_ignore (hf : ofRules (RuleSet.compile t .ignore).value = .ok f) :
    f.Agrees (RuleSet.compile t .ignore).value.expression host := by
  obtain ⟨hmode, ⟨hdisabled, -⟩ | ⟨e, out, he, hout, hregex⟩⟩ := ofRules_eq_ok hf
  · cases hdisabled
  · have hexpression : (RuleSet.compile t .ignore).value.expression = e :=
      (RuleSet.compile_ignoreExpression t .ignore).trans (Option.some.inj he)
    obtain ⟨r, hr, rfl⟩ := tree?_of_parse hout
    rw [hexpression]
    refine ⟨r.1, lookAheadTree?_of_tree? hr, ?_⟩
    rw [isIgnored, hregex, hmode, ← isMatch_iff_finds]
    rfl

lemma agrees_of_intercept (hf : ofRules (RuleSet.compile t .intercept).value = .ok f) (hline : '\n' ∉ host)
    (halone : ReadsAlone t .intercept) : f.Agrees (RuleSet.compile t .intercept).value.expression host := by
  obtain ⟨hmode, ⟨hdisabled, -⟩ | ⟨e, out, he, hout, hregex⟩⟩ := ofRules_eq_ok hf
  · cases hdisabled
  · have hexpression : (RuleSet.compile t .intercept).value.expression =
        RuleSet.negate (RuleSet.union (RuleSet.expressions t)) :=
      congrArg RuleSet.negate (RuleSet.compile_ignoreExpression t .intercept)
    have hsign := number_sign_not_mem_union t
    rw [ReadsAlone, RuleSet.compile_ignoreExpression] at halone
    obtain ⟨r, hr⟩ := Option.isSome_iff_exists.mp halone
    rw [← Option.some.inj he] at hout
    have hout := parse_wholeText_of_tree? hsign hr hout
    subst hout
    rw [hexpression]
    refine ⟨refusing r.1, lookAheadTree?_negate hsign hr, ?_⟩
    rw [finds_refusing_iff (by simpa using hline), ← isMatch_iff_finds, isIgnored, hregex, hmode]
    simp

lemma agrees_of_disabled (hf : ofRules (RuleSet.compile t .disabled).value = .ok f) (hhost : host ≠ []) :
    f.Agrees (RuleSet.compile t .disabled).value.expression host := by
  have hregex : f.regex = none := by
    obtain ⟨-, ⟨-, hregex⟩ | ⟨e, -, he, -⟩⟩ := ofRules_eq_ok hf
    · exact hregex
    · cases he
  have htree : tree? RuleSet.noHosts = some noHostsState.level.close := by
    rw [tree?, read_noHosts]
    rfl
  refine ⟨_, lookAheadTree?_of_tree? htree, iff_of_false (by simp [isIgnored, hregex]) fun hfinds => ?_⟩
  obtain ⟨j, rfl, hend⟩ := finds_textStart_iff.mp hfinds
  have hsize := (holds_textEnd_iff (Nat.zero_le _)).mp hend
  rw [List.size_toArray] at hsize
  exact hhost (List.length_eq_zero_iff.mp hsize.symm)

lemma readsAlone_of_keepsSettings (hf : ofRules (RuleSet.compile t .intercept).value = .ok f)
    (hkeeps : ∀ rule ∈ (RuleSet.usable t).dropLast, RuleSet.keepsSettings rule = true) :
    ReadsAlone t .intercept := by
  obtain ⟨sts, hread, hne, -⟩ := RuleSet.exists_readInTurn_operands (RuleSet.readInTurn_expressions hkeeps)
  have hsign : ∀ e ∈ RuleSet.operands t, '#' ∉ e := fun _ => RuleSet.number_sign_not_mem_of_mem_operands
  obtain ⟨-, ⟨hdisabled, -⟩ | ⟨e, out, he, hout, -⟩⟩ := ofRules_eq_ok hf
  · cases hdisabled
  · rw [RuleSet.union_expressions] at he
    rw [parse_eq_tree?, tree?_of_regexText?_join he (RuleSet.operands_ne_nil t) hsign hread] at hout
    have hjoin : (joinStates FilterMode.intercept.surroundings sts).isSome = true := by
      cases hstate : joinStates FilterMode.intercept.surroundings sts with
      | none =>
        rw [hstate] at hout
        cases hout
      | some st => rfl
    -- Neither of the surroundings uses a name, so the names keep apart in both or in none.
    have hjoin' : (joinStates {} sts).isSome = true := by
      rw [isSome_joinStates_iff hne] at hjoin ⊢
      exact ⟨fun st _ => not_clashes_nil st.names, hjoin.2⟩
    rw [ReadsAlone, RuleSet.compile_ignoreExpression, RuleSet.union_expressions,
      tree?_join (RuleSet.operands_ne_nil t) hsign hread, Option.isSome_map, hjoin']

/-- Filter and expression decide alike about a host of one line if the joined rules are one expression, which
they are if no rule but the last leaves changed settings behind. Only where hosts that match are the ones not
left alone does it matter. -/
theorem agrees_of_ofRules (hf : ofRules (RuleSet.compile t mode).value = .ok f) (hhost : host ≠ [])
    (hline : '\n' ∉ host)
    (hrules : mode = .intercept → ReadsAlone t mode ∨
      ∀ rule ∈ (RuleSet.usable t).dropLast, RuleSet.keepsSettings rule = true) :
    f.Agrees (RuleSet.compile t mode).value.expression host := by
  cases mode with
  | ignore => exact agrees_of_ignore hf
  | intercept =>
    rcases hrules rfl with halone | hkeeps
    · exact agrees_of_intercept hf hline halone
    · exact agrees_of_intercept hf hline (readsAlone_of_keepsSettings hf hkeeps)
  | disabled => exact agrees_of_disabled hf hhost

/-- A rule with alternatives and settings of its own in front of a glob. -/
theorem agrees_of_alternatives :
    let t := "/b$|(?s)^x/\n*.test:80\n".toList
    ∃ f, ofRules (RuleSet.compile t .intercept).value = .ok f ∧ f.isIgnored "x".toList = false ∧
      f.Agrees (RuleSet.compile t .intercept).value.expression "x".toList := by
  intro t
  have hignored : (ofRules (RuleSet.compile t .intercept).value).toOption.map
      (·.isIgnored "x".toList) = some false := by
    decide +kernel
  obtain ⟨f, hf, hignored⟩ := exists_of_map_toOption hignored
  exact ⟨f, hf, hignored, agrees_of_ofRules hf (by decide) (by decide) fun _ => Or.inl (by decide +kernel)⟩

/-- The first rule makes blanks not count for those behind it. A bracket then takes up the blank and the
bracket behind it, so that a parenthesis of the second rule closes the group around all rules. What comes
after that is an alternative to the whole filter, but not to the whole expression. -/
theorem not_agrees_of_leaked_blanks :
    let t := "/(?x)q/\n/[ ](a])|(?x)b/\n/([ ])]/\n".toList
    ∃ f, ofRules (RuleSet.compile t .intercept).value = .ok f ∧ f.isIgnored "xb".toList = false ∧
      (∃ r, lookAheadTree? (RuleSet.compile t .intercept).value.expression = some r ∧
        r.Finds "xb".toList.toArray) ∧
      ¬ f.Agrees (RuleSet.compile t .intercept).value.expression "xb".toList := by
  intro t
  have hignored : (ofRules (RuleSet.compile t .intercept).value).toOption.map
      (·.isIgnored "xb".toList) = some false := by
    decide +kernel
  have hmatch : (lookAheadTree? (RuleSet.compile t .intercept).value.expression).map
      (·.isMatch "xb".toList) = some true := by
    decide +kernel
  obtain ⟨f, hf, hignored⟩ := exists_of_map_toOption hignored
  obtain ⟨r, hr, hmatch⟩ := Option.map_eq_some_iff.mp hmatch
  have hfinds := (isMatch_iff_finds r _).mp hmatch
  refine ⟨f, hf, hignored, ⟨r, hr, hfinds⟩, ?_⟩
  rintro ⟨r', hr', hagrees⟩
  rw [hr, Option.some.injEq] at hr'
  subst hr'
  rw [hagrees.mpr hfinds] at hignored
  cases hignored

end Userscript.HostFilter
