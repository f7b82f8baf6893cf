import Userscript.Proofs.RuleUnion

/-!
# Names of groups in joined rules

A name stands for one group of an expression. Rules with a name in common are accepted one by one, but joined
they are no expression, and no filter is made of them. Nothing else keeps rules that can be read in turn from
making a filter, as long as the joined rules stay within the limits of nesting and size.
-/

namespace Userscript

open Regex

namespace Regex

/-- The text of an expression, if it is one, stays within the limits of nesting and size. -/
def KeepsLimits (t : Text) : Prop :=
  ∀ r, tree? t = some r → r.2 ≤ nestingLimit ∧ r.1.footprint ≤ footprintLimit

instance (t : Text) : Decidable (KeepsLimits t) :=
  decidable_of_iff
    ((tree? t).all fun r => r.2 ≤ nestingLimit ∧ r.1.footprint ≤ footprintLimit) <| by
      simp [KeepsLimits, Option.all_eq_true]

lemma KeepsLimits.isSome_parse_iff {t : Text} (h : KeepsLimits t) :
    (parse {} t).isSome = true ↔ (tree? t).isSome = true := by
  rw [parse_eq_tree?]
  cases htree : tree? t with
  | none => rfl
  | some r =>
    have hr : withinLimits r = some r.1 := withinLimits_eq_some.mpr ⟨rfl, h r htree⟩
    simp [hr]

/-- No name is used in two of the expressions that have been read. -/
def NamesApart (sts : List State) : Prop := sts.Pairwise fun a b => a.names.Disjoint b.names

lemma clashes_afterBar_iff {s : Surroundings} {st : State} {names : List Text} :
    (s.afterBar st).Clashes names ↔ ¬st.names.Disjoint names ∨ s.Clashes names := by
  have hshared : ¬st.names.Disjoint names ↔ ∃ n ∈ names, n ∈ st.names := by
    rw [List.disjoint_comm, List.disjoint_left]
    push Not
    rfl
  rw [hshared]
  simp only [Surroundings.Clashes, Surroundings.afterBar, List.mem_append, and_or_left, exists_or]

/-- Joined expressions can be read just when none uses a name of the surroundings and no two share one. -/
theorem isSome_joinStates_iff {sts : List State} (hne : sts ≠ []) (s : Surroundings) :
    (joinStates s sts).isSome = true ↔ (∀ st ∈ sts, ¬s.Clashes st.names) ∧ NamesApart sts := by
  -- On the expressions: behind a bar, the names of an expression are part of the surroundings.
  induction sts generalizing s with
  | nil => exact absurd rfl hne
  | cons st sts ih =>
    cases sts with
    | nil => by_cases hclash : s.Clashes st.names <;> simp [joinStates, NamesApart, hclash]
    | cons st' sts =>
      rw [joinStates, NamesApart, List.pairwise_cons, List.forall_mem_cons]
      by_cases hclash : s.Clashes st.names
      · simp [hclash]
      · rw [if_neg hclash, ih (List.cons_ne_nil _ _), NamesApart]
        simp only [clashes_afterBar_iff, not_or, not_not, hclash, not_false_eq_true, true_and,
          forall_and, ← and_assoc]
        rw [and_comm (a := ∀ x ∈ st' :: sts, st.names.Disjoint x.names)]

end Regex

namespace FilterMode

lemma not_clashes_surroundings (mode : FilterMode) (names : List Text) :
    ¬mode.surroundings.Clashes names := by
  rintro ⟨n, -, hn⟩
  cases mode <;> exact absurd hn List.not_mem_nil

lemma isSome_around_iff (mode : FilterMode) (r : Regex × Nat) :
    (mode.around r).isSome = true ↔ mode ≠ .disabled := by
  cases mode <;> simp [around]

end FilterMode

namespace RuleSet

def groupNames (rule : Text) : List Text :=
  ((Regex.read {} {} (HostRule.regexText rule)).map State.names).getD []

/-- The expressions that are joined: those of the rules or, when there is none, that for no host. -/
def operands (t : Text) : List Text := if expressions t = [] then [noHosts] else expressions t

lemma union_expressions (t : Text) : union (expressions t) = Text.join ['|'] (operands t) := by
  unfold operands
  cases expressions t <;> rfl

lemma operands_ne_nil (t : Text) : operands t ≠ [] := by
  unfold operands
  split_ifs with h
  · exact List.cons_ne_nil _ _
  · exact h

lemma number_sign_not_mem_of_mem_operands {t e : Text} (h : e ∈ operands t) : '#' ∉ e := by
  unfold operands at h
  split_ifs at h
  · rw [List.mem_singleton.mp h]
    decide
  · exact number_sign_not_mem_of_mem_expressions h

lemma exists_readInTurn_operands {t : Text} {sts : List State}
    (h : readInTurn {} (expressions t) = some sts) :
    ∃ sts', readInTurn {} (operands t) = some sts' ∧ sts' ≠ [] ∧
      (sts' = sts ∨ sts = [] ∧ sts' = [HostFilter.noHostsState]) := by
  unfold operands
  cases hexpressions : expressions t with
  | nil =>
    rw [hexpressions] at h
    cases h
    refine ⟨[HostFilter.noHostsState], ?_, List.cons_ne_nil _ _, Or.inr ⟨rfl, rfl⟩⟩
    rw [if_pos rfl, readInTurn, HostFilter.read_noHosts]
    rfl
  | cons e es =>
    rw [hexpressions] at h
    obtain ⟨st, rest, -, -, -, rfl⟩ := readInTurn_cons h
    exact ⟨st :: rest, by rw [if_neg (List.cons_ne_nil e es), h], List.cons_ne_nil _ _, Or.inl rfl⟩

end RuleSet

namespace HostFilter

variable {mode : FilterMode} {t : Text}

lemma exists_build_iff {expression : Text} :
    (∃ f, build mode expression = .ok f) ↔
      ∀ e, regexText? expression mode = some e → (parse {} e).isSome = true := by
  unfold build
  cases regexText? expression mode with
  | none => simp
  | some e => cases hparse : parse {} e <;> simp [hparse]

theorem exists_ofRules_iff_namesApart
    (hlimits : ∀ e, regexText? (RuleSet.compile t mode).value.ignoreExpression mode = some e →
      KeepsLimits e)
    {sts : List State} (h : readInTurn {} (RuleSet.expressions t) = some sts) :
    (∃ f, ofRules (RuleSet.compile t mode).value = .ok f) ↔ mode = .disabled ∨ NamesApart sts := by
  obtain ⟨sts', hread, hne, hsts⟩ := RuleSet.exists_readInTurn_operands h
  have hapart : NamesApart sts' ↔ NamesApart sts := by
    rcases hsts with rfl | ⟨rfl, rfl⟩
    · rfl
    · simp [NamesApart]
  rw [RuleSet.compile_ignoreExpression, RuleSet.union_expressions] at hlimits
  rw [ofRules, RuleSet.compile_ignoreExpression, RuleSet.union_expressions]
  change (∃ f, build mode (Text.join ['|'] (RuleSet.operands t)) = .ok f) ↔ _
  rw [exists_build_iff]
  cases hmode : regexText? (Text.join ['|'] (RuleSet.operands t)) mode with
  | none => simp [regexText?_eq_none_iff.mp hmode]
  | some e =>
    have henabled : mode ≠ .disabled := by
      rintro rfl
      cases hmode
    have hjoin : (joinStates mode.surroundings sts').isSome = true ↔ NamesApart sts := by
      rw [isSome_joinStates_iff hne, hapart]
      exact and_iff_right fun st _ => mode.not_clashes_surroundings st.names
    have htree := tree?_of_regexText?_join hmode (RuleSet.operands_ne_nil t)
      (fun _ => RuleSet.number_sign_not_mem_of_mem_operands) hread
    have hsome : (tree? e).isSome = true ↔ NamesApart sts := by
      rw [← hjoin, htree]
      cases joinStates mode.surroundings sts' with
      | none => rfl
      | some st => simp [mode.isSome_around_iff, henabled]
    simp [henabled, (hlimits e hmode).isSome_parse_iff, hsome]

/-- Rules that leave the settings alone share no name just when what has been read of them shares none. -/
lemma namesApart_expressions_iff (t : Text) :
    NamesApart ((RuleSet.expressions t).filterMap (read {} {})) ↔
      (RuleSet.usable t).Pairwise fun a b =>
        (RuleSet.groupNames a).Disjoint (RuleSet.groupNames b) := by
  rw [NamesApart, RuleSet.expressions, List.filterMap_map, List.pairwise_filterMap]
  refine List.Pairwise.iff_of_mem fun {a b} ha hb => ?_
  obtain ⟨st, hst, -⟩ := RuleSet.read_of_mem_usable ha
  obtain ⟨st', hst', -⟩ := RuleSet.read_of_mem_usable hb
  simp [RuleSet.groupNames, hst, hst']

/-- Within the limits a filter is made of any rules, none of which but the last leaves changed settings
behind, just when no two of them share the name of a group. In general a filter is made of rules that can be
read in turn just when no two of them share a name as they are read. A disabled filter is always made. -/
theorem exists_ofRules_iff
    (hlimits : ∀ e, regexText? (RuleSet.compile t mode).value.ignoreExpression mode = some e →
      KeepsLimits e) :
    ((∀ rule ∈ (RuleSet.usable t).dropLast, RuleSet.keepsSettings rule = true) →
      ((∃ f, ofRules (RuleSet.compile t mode).value = .ok f) ↔ mode = .disabled ∨
        (RuleSet.usable t).Pairwise fun a b =>
          (RuleSet.groupNames a).Disjoint (RuleSet.groupNames b))) ∧
    ∀ sts, readInTurn {} (RuleSet.expressions t) = some sts →
      ((∃ f, ofRules (RuleSet.compile t mode).value = .ok f) ↔ mode = .disabled ∨ NamesApart sts) := by
  refine ⟨fun hkeeps => ?_, fun sts h => exists_ofRules_iff_namesApart hlimits h⟩
  rw [← namesApart_expressions_iff]
  exact exists_ofRules_iff_namesApart hlimits (RuleSet.readInTurn_expressions hkeeps)

/-- Two rules with names of their own make a filter, together with a glob. -/
theorem exists_ofRules_of_two_names :
    ∃ f, ofRules (RuleSet.compile "/^(?P<a>x)\\./\n/(?P<b>y)/\n*.test:80\n".toList .intercept).value =
      .ok f := by
  have hlimits : ∀ e, regexText? (RuleSet.compile "/^(?P<a>x)\\./\n/(?P<b>y)/\n*.test:80\n".toList
      .intercept).value.ignoreExpression .intercept = some e → KeepsLimits e := by
    decide +kernel
  have hkeeps : ∀ rule ∈ (RuleSet.usable "/^(?P<a>x)\\./\n/(?P<b>y)/\n*.test:80\n".toList).dropLast,
      RuleSet.keepsSettings rule = true := by
    decide +kernel
  have hnames : (RuleSet.usable "/^(?P<a>x)\\./\n/(?P<b>y)/\n*.test:80\n".toList).Pairwise fun a b =>
      ∀ n ∈ RuleSet.groupNames a, n ∉ RuleSet.groupNames b := by
    decide +kernel
  exact ((exists_ofRules_iff hlimits).1 hkeeps).mpr (Or.inr hnames)

/-- Two rules that are accepted one by one, but use a name twice between them, make no filter. Nor do a rule
that turns Unicode off and a glob behind it, which has a dot in its expression; the other way round they do. -/
theorem not_exists_ofRules_of_repeated_name :
    (∀ text ∈ ["/(?P<a>x)/\n/(?P<a>y)/\n".toList, "/(?-u)x/\na.test:80\n".toList],
      (∀ rule ∈ RuleSet.parse text, RuleSet.isUsable rule = true) ∧
      (∀ e, regexText? (RuleSet.compile text .ignore).value.ignoreExpression .ignore = some e →
        KeepsLimits e) ∧
      ¬∃ f, ofRules (RuleSet.compile text .ignore).value = .ok f) ∧
    ∃ f, ofRules (RuleSet.compile "a.test:80\n/(?-u)x/\n".toList .ignore).value = .ok f := by
  simp only [ofRules, exists_build_iff]
  decide +kernel

end HostFilter

end Userscript
