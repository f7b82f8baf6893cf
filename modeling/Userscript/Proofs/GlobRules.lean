import Userscript.Proofs.GroupNames

/-!
# Rules that are globs

The expression of a glob for hosts reaches from the start of a host to its end, so it matches a host anywhere
just when it matches it as a whole. Rules that are globs therefore make a filter in either mode, and the two
filters never agree about a host.
-/

namespace Userscript

open Regex

namespace Regex

lemma ends_catAll (text : Array Char) (rs : List Regex) (s : List Nat) :
    (catAll rs).ends text s = rs.foldl (fun s r => r.ends text s) s := by
  induction rs generalizing s with
  | nil => rfl
  | cons r rs ih =>
    cases rs with
    | nil => rfl
    | cons r' rs =>
      rw [catAll, ends, ih]
      rfl

def fromStartToEnd (rs : List Regex) : Regex :=
  catAll (look .textStart :: (rs ++ [look .textEnd]))

theorem isMatch_whole_fromStartToEnd (rs : List Regex) (t : Text) :
    (fromStartToEnd rs).whole.isMatch t = true ↔ (fromStartToEnd rs).isMatch t = true := by
  have hends : ∀ s, (fromStartToEnd rs).ends t.toArray s =
      (rs.foldl (fun s r => r.ends t.toArray s)
        (s.filter (Assertion.textStart.holds t.toArray))).filter
          (Assertion.textEnd.holds t.toArray) := by
    intro s
    rw [fromStartToEnd, ends_catAll, List.foldl_cons, List.foldl_append]
    rfl
  rw [isMatch_whole_iff, isMatch_iff]
  simp only [hends, List.filter_filter, Bool.and_self, List.mem_filter]
  constructor
  · rintro ⟨j, hj, -⟩
    exact ⟨j, hj⟩
  · rintro ⟨j, hj⟩
    exact ⟨j, hj, hj.2⟩

lemma alternatives_pushAll {pieces : List Piece} (h : 2 ≤ pieces.length) :
    (({} : State).pushAll pieces).level.alternatives = [(catAll (pieces.map (·.regex)),
      (pieces.reverse.map (·.depth)).foldl Nat.max 0 + 1)] := by
  have hpieces : (({} : State).pushAll pieces).level.pieces = pieces.reverse := by
    simp [State.pushAll]
  have hempty : pieces.reverse.isEmpty = false := by
    rw [List.isEmpty_reverse, List.isEmpty_eq_false_iff, ← List.length_pos_iff]
    omega
  rw [Level.alternatives, Level.branch, hpieces]
  split
  · rename_i p hp
    have hlength := congrArg List.length hp
    rw [List.length_reverse, List.length_singleton] at hlength
    omega
  · rw [hempty, List.reverse_reverse]
    rfl

lemma depthOf_le_of_forall {as : List (Regex × Nat)} {n : Nat} (h : ∀ a ∈ as, a.2 ≤ n) :
    depthOf as ≤ n + 1 := by
  have hmax : (as.map Prod.snd).foldl Nat.max 0 ≤ n := by
    rw [foldl_max_le_iff, List.forall_mem_map]
    exact ⟨Nat.zero_le n, h⟩
  unfold depthOf
  split
  · exact Nat.le_succ_of_le (h _ List.mem_cons_self)
  · exact Nat.succ_le_succ hmax

/-- What has been read is one alternative that reaches from start to end. -/
def State.IsAnchored (st : State) : Prop :=
  ∃ rs depth, st.level.alternatives = [(fromStartToEnd rs, depth)] ∧ depth ≤ 5

lemma exists_alternatives_pushAll {parts : List Piece} (h : ∀ p ∈ parts, p.depth ≤ 4) :
    ∃ depth ≤ 5, (({} : State).pushAll ({ regex := .look .textStart, depth := 0 } ::
      (parts ++ [{ regex := .look .textEnd, depth := 0 }]))).level.alternatives =
        [(fromStartToEnd (parts.map Piece.regex), depth)] := by
  have hlength : 2 ≤ (({ regex := .look .textStart, depth := 0 } : Piece) ::
      (parts ++ [{ regex := .look .textEnd, depth := 0 }])).length := by simp
  have halternatives := alternatives_pushAll hlength
  rw [List.map_cons, List.map_append] at halternatives
  refine ⟨_, Nat.succ_le_succ ?_, halternatives⟩
  rw [foldl_max_le_iff, List.forall_mem_map]
  refine ⟨Nat.zero_le 4, fun p hp => ?_⟩
  rw [List.mem_reverse, List.mem_cons, List.mem_append, List.mem_singleton] at hp
  rcases hp with rfl | hp | rfl
  · exact Nat.zero_le 4
  · exact h p hp
  · exact Nat.zero_le 4

lemma isAnchored_pushAll {parts : List Piece} (h : ∀ p ∈ parts, p.depth ≤ 4) :
    (({} : State).pushAll ({ regex := .look .textStart, depth := 0 } ::
      (parts ++ [{ regex := .look .textEnd, depth := 0 }]))).IsAnchored := by
  obtain ⟨depth, hdepth, halternatives⟩ := exists_alternatives_pushAll h
  exact ⟨parts.map Piece.regex, depth, halternatives, hdepth⟩

lemma depth_globPiece_le (f : Flags) (dot : CharSet) (c : Char) : (globPiece f dot c).depth ≤ 4 := by
  unfold globPiece
  split_ifs
  · exact Nat.succ_le_succ (Nat.zero_le 3)
  · exact Nat.zero_le 4

lemma isAnchored_noHostsState : HostFilter.noHostsState.IsAnchored :=
  isAnchored_pushAll (List.forall_mem_nil fun p : Piece => p.depth ≤ 4)

lemma depthOf_alternativesOf_le {sts : List State} (h : ∀ st ∈ sts, st.IsAnchored) :
    depthOf (alternativesOf sts) ≤ 6 := by
  refine depthOf_le_of_forall fun a ha => ?_
  obtain ⟨st, hst, ha⟩ := List.mem_flatMap.mp ha
  obtain ⟨rs, depth, heq, hdepth⟩ := h st hst
  rw [heq, List.mem_singleton] at ha
  rw [ha]
  exact hdepth

/-- What reaches from start to end meets a host in one mode just when it does in the other. -/
theorem State.IsAnchored.meets_iff {st : State} (h : st.IsAnchored) (host : Text) :
    FilterMode.intercept.Meets host st ↔ FilterMode.ignore.Meets host st := by
  obtain ⟨rs, depth, heq, -⟩ := h
  simp only [FilterMode.Meets, FilterMode.around, Level.close_eq, heq, List.map_cons, List.map_nil,
    altAll, Option.some.injEq, exists_eq_left']
  exact isMatch_whole_fromStartToEnd rs host

end Regex

namespace HostRule

def innerPieces (rule : Text) : List Piece :=
  prefixPiece :: (rule.map (globPiece {} dot) ++ (if rule.contains ':' then [] else [portPiece]))

lemma globPieces_eq (rule : Text) : globPieces rule = { regex := .look .textStart, depth := 0 } ::
    (innerPieces rule ++ [{ regex := .look .textEnd, depth := 0 }]) := by
  simp [globPieces, innerPieces]

lemma depth_innerPieces_le (rule : Text) : ∀ p ∈ innerPieces rule, p.depth ≤ 4 := by
  intro p hp
  rcases List.mem_cons.mp hp with rfl | hp
  · exact Nat.le_refl 4
  · rcases List.mem_append.mp hp with hp | hp
    · obtain ⟨c, -, rfl⟩ := List.mem_map.mp hp
      exact depth_globPiece_le _ _ c
    · split_ifs at hp
      · cases hp
      · rw [List.mem_singleton.mp hp]
        exact Nat.le_refl 4

lemma isAnchored_globState (rule : Text) : (globState rule).IsAnchored := by
  rw [globState, globPieces_eq]
  exact isAnchored_pushAll (depth_innerPieces_le rule)

end HostRule

namespace RuleSet

variable {t : Text}

lemma isUsable_of_glob {rule : Text} (h : Pattern.expression? rule = none) :
    isUsable rule = true := by
  simp [isUsable, compileRule, h, Except.toBool]

lemma keepsSettings_of_glob {rule : Text} (h : Pattern.expression? rule = none) :
    keepsSettings rule = true := by
  simp [keepsSettings, h]

section Globs

variable (hglobs : ∀ rule ∈ parse t, Pattern.expression? rule = none)
include hglobs

lemma errors_of_globs (mode : FilterMode) : (compile t mode).value.errors = [] := by
  rw [compile_errors, List.filterMap_eq_nil_iff]
  intro rule hrule
  exact error?_eq_none_iff.mpr (isUsable_of_glob (hglobs rule (mem_of_mem_dropRepeats hrule)))

lemma glob_of_mem_usable {rule : Text} (h : rule ∈ usable t) : Pattern.expression? rule = none :=
  hglobs rule (mem_of_mem_dropRepeats (List.mem_filter.mp h).1)

/-- Globs are read in turn, and what is read of them reaches from start to end and has no names. -/
lemma exists_readInTurn_of_globs : ∃ sts, readInTurn {} (expressions t) = some sts ∧
    ∀ st ∈ sts, st.IsAnchored ∧ st.names = [] := by
  refine ⟨_, readInTurn_expressions fun rule hrule => keepsSettings_of_glob
    (glob_of_mem_usable hglobs (List.dropLast_subset _ hrule)), fun st hst => ?_⟩
  obtain ⟨text, htext, hread⟩ := List.mem_filterMap.mp hst
  obtain ⟨rule, hrule, rfl⟩ := List.mem_map.mp htext
  rw [HostRule.read_regexText_of_glob (glob_of_mem_usable hglobs hrule)] at hread
  cases hread
  exact ⟨HostRule.isAnchored_globState rule, rfl⟩

end Globs

end RuleSet

namespace HostFilter

variable {t : Text}

section Globs

variable (hglobs : ∀ rule ∈ RuleSet.parse t, Pattern.expression? rule = none)
include hglobs

lemma exists_readInTurn_operands_of_globs :
    ∃ sts, readInTurn {} (RuleSet.operands t) = some sts ∧ ∀ st ∈ sts, st.IsAnchored := by
  obtain ⟨sts, hread, hsts⟩ := RuleSet.exists_readInTurn_of_globs hglobs
  obtain ⟨sts', hread', -, rfl | ⟨-, rfl⟩⟩ := RuleSet.exists_readInTurn_operands hread
  · exact ⟨_, hread', fun st hst => (hsts st hst).1⟩
  · exact ⟨_, hread', by simpa using isAnchored_noHostsState⟩

lemma keepsLimits_of_globs {mode : FilterMode} {e : Text}
    (he : regexText? (RuleSet.compile t mode).value.ignoreExpression mode = some e)
    (hsize : ∀ r, tree? e = some r → r.1.footprint ≤ footprintLimit) : KeepsLimits e := by
  intro r hr
  refine ⟨?_, hsize r hr⟩
  obtain ⟨sts, hread, hsts⟩ := exists_readInTurn_operands_of_globs hglobs
  rw [RuleSet.compile_ignoreExpression, RuleSet.union_expressions] at he
  rw [tree?_of_regexText?_join he (RuleSet.operands_ne_nil t)
    (fun _ => RuleSet.number_sign_not_mem_of_mem_operands) hread] at hr
  obtain ⟨-, -, hr⟩ := Option.bind_eq_some_iff.mp hr
  have hdepth := depthOf_alternativesOf_le hsts
  cases mode with
  | ignore =>
    cases hr
    exact hdepth.trans (by decide)
  | intercept =>
    cases hr
    exact (Nat.add_le_add_right hdepth 2).trans (by decide)
  | disabled => cases hr

lemma exists_ofRules_of_globs {mode : FilterMode}
    (hsize : ∀ e r, regexText? (RuleSet.compile t mode).value.ignoreExpression mode = some e →
      tree? e = some r → r.1.footprint ≤ footprintLimit) :
    ∃ f, ofRules (RuleSet.compile t mode).value = .ok f := by
  obtain ⟨sts, hread, hsts⟩ := RuleSet.exists_readInTurn_of_globs hglobs
  have hlimits := fun e he => keepsLimits_of_globs hglobs he fun r => hsize e r he
  refine (exists_ofRules_iff_namesApart hlimits hread).mpr (Or.inr ?_)
  refine List.pairwise_of_forall_mem_list fun a ha b _ => ?_
  rw [(hsts a ha).2]
  exact List.disjoint_nil_left _

end Globs

lemma exists_isMatch_iff {mode : FilterMode} {f : HostFilter}
    (hf : ofRules (RuleSet.compile t mode).value = .ok f) (hmode : mode ≠ .disabled)
    {sts : List State} (hread : readInTurn {} (RuleSet.operands t) = some sts) (host : Text) :
    ∃ out, f.regex = some out ∧ (out.isMatch host = true ↔ ∃ st ∈ sts, mode.Meets host st) := by
  obtain ⟨rfl, ⟨hdisabled, -⟩ | ⟨e, out, he, hparse, hregex⟩⟩ := ofRules_eq_ok hf
  · exact absurd hdisabled hmode
  · rw [RuleSet.union_expressions] at he
    exact ⟨out, hregex, isMatch_join_iff he (RuleSet.operands_ne_nil t)
      (fun _ => RuleSet.number_sign_not_mem_of_mem_operands) hread hparse host⟩

/-- Rules that are globs have no errors and, while the joined rules are not too large, make a filter in
either mode. The filter in one mode leaves a host alone just when the filter in the other does not. -/
theorem isIgnored_intercept_of_globs
    (hglobs : ∀ rule ∈ RuleSet.parse t, Pattern.expression? rule = none)
    (hsize : ∀ mode e r, regexText? (RuleSet.compile t mode).value.ignoreExpression mode = some e →
      tree? e = some r → r.1.footprint ≤ footprintLimit) :
    (∀ mode, (RuleSet.compile t mode).value.errors = []) ∧
    ∃ ignoring intercepting, ofRules (RuleSet.compile t .ignore).value = .ok ignoring ∧
      ofRules (RuleSet.compile t .intercept).value = .ok intercepting ∧
      ∀ host, intercepting.isIgnored host = !ignoring.isIgnored host := by
  refine ⟨RuleSet.errors_of_globs hglobs, ?_⟩
  obtain ⟨ignoring, hignoring⟩ := exists_ofRules_of_globs hglobs (hsize .ignore)
  obtain ⟨intercepting, hintercepting⟩ := exists_ofRules_of_globs hglobs (hsize .intercept)
  refine ⟨ignoring, intercepting, hignoring, hintercepting, fun host => ?_⟩
  obtain ⟨sts, hread, hsts⟩ := exists_readInTurn_operands_of_globs hglobs
  obtain ⟨r, hr, hmatch⟩ := exists_isMatch_iff hignoring (by decide) hread host
  obtain ⟨r', hr', hmatch'⟩ := exists_isMatch_iff hintercepting (by decide) hread host
  have hsame : r'.isMatch host = r.isMatch host := by
    rw [Bool.eq_iff_iff, hmatch, hmatch']
    exact exists_congr fun st => and_congr_right fun hst => (hsts st hst).meets_iff host
  simp [isIgnored, hr, hr', (ofRules_eq_ok hignoring).1, (ofRules_eq_ok hintercepting).1, hsame]

/-- Globs with and without a port, a repeated one and a comment: what one filter takes the other leaves. -/
theorem isIgnored_intercept_of_two_globs :
    ∃ ignoring intercepting,
      ofRules (RuleSet.compile "a.test:80 # twice\na.test:80\n*.b:1\n".toList .ignore).value = .ok ignoring ∧
      ofRules (RuleSet.compile "a.test:80 # twice\na.test:80\n*.b:1\n".toList .intercept).value =
        .ok intercepting ∧
      intercepting.isIgnored "w.a.test:80".toList = !ignoring.isIgnored "w.a.test:80".toList := by
  have hglobs : ∀ rule ∈ RuleSet.parse "a.test:80 # twice\na.test:80\n*.b:1\n".toList,
      Pattern.expression? rule = none := by
    decide +kernel
  have hsize : ∀ mode e r, regexText? (RuleSet.compile "a.test:80 # twice\na.test:80\n*.b:1\n".toList
      mode).value.ignoreExpression mode = some e → tree? e = some r →
        r.1.footprint ≤ footprintLimit := by
    have hlimits : ∀ mode ∈ [FilterMode.ignore, .intercept, .disabled], ∀ e,
        regexText? (RuleSet.compile "a.test:80 # twice\na.test:80\n*.b:1\n".toList
          mode).value.ignoreExpression mode = some e → KeepsLimits e := by
      decide +kernel
    intro mode e r he hr
    exact (hlimits mode (by cases mode <;> decide) e he r hr).2
  obtain ⟨-, ignoring, intercepting, hignoring, hintercepting, hhost⟩ :=
    isIgnored_intercept_of_globs hglobs hsize
  exact ⟨ignoring, intercepting, hignoring, hintercepting, hhost _⟩

end HostFilter

end Userscript
