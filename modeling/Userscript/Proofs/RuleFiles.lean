import Userscript.Proofs.RuleUnion
import Userscript.Proofs.Trimming

/-!
# Rule files

A file has the rules of its lines, and what stands on a line besides a rule is of no account, so the rules of two
files are those of the one and then those of the other. Rules that are written one to a line are read back. So
what a file is compiled to can be had again from its rules alone, and its expressions from those rules alone that
are not broken.
-/

namespace Userscript.RuleSet

variable {t line rule : Text} {rules : List Text} {mode : FilterMode}

lemma stripComment_append {trail : Text} (htrail : ∀ c ∈ trail, Text.isBlank c = true) (line : Text) :
    stripComment (line ++ trail) = stripComment line := by
  unfold stripComment
  rw [List.takeWhile_append]
  split_ifs with hlength
  · have hall : line.takeWhile (· != '#') = line := (List.takeWhile_prefix _).eq_of_length hlength
    have hblank : ∀ c ∈ trail.takeWhile (· != '#'), Text.isBlank c = true := fun c hc =>
      htrail c ((List.takeWhile_prefix _).subset hc)
    rw [hall, Text.trim_append hblank]
  · rfl

lemma stripComment_lineBody (line : Text) :
    stripComment (Text.lineBody (line ++ ['\n'])) = stripComment line := by
  rcases Text.eq_lineBody_append line with hbody | hbody
  · rw [← hbody]
  · have hreturn : ∀ c ∈ ['\r'], Text.isBlank c = true := List.forall_mem_singleton.mpr rfl
    conv_rhs => rw [hbody]
    exact (stripComment_append hreturn _).symm

lemma parse_of_not_mem (h : '\n' ∉ line) : parse line = [stripComment line].filter (! ·.isEmpty) := by
  by_cases hempty : line = []
  · rw [hempty]
    rfl
  · have hraw : Text.rawLines line = [line] := by
      rw [← Text.linesOf_iff]
      exact ⟨List.flatten_singleton.symm, .last hempty h⟩
    rw [parse, Text.lines, hraw, List.map_singleton, Text.lineBody_of_not_mem h, List.map_singleton]

lemma parse_line (h : '\n' ∉ line) (t : Text) : parse (line ++ '\n' :: t) = parse line ++ parse t := by
  rw [parse_of_not_mem h, parse, Text.lines, Text.rawLines_line h, List.map_cons, List.map_cons,
    stripComment_lineBody, ← List.singleton_append, List.filter_append]
  rfl

lemma parse_flatten_append {ls : List Text} (h : Text.AreLines ls) (u : Text) :
    parse (ls.flatten ++ '\n' :: u) = parse ls.flatten ++ parse u := by
  induction h with
  | nil => exact parse_line List.not_mem_nil u
  | @last line _ hfeed =>
    rw [List.flatten_singleton]
    exact parse_line hfeed u
  | @cons line rest hfeed _ ih =>
    simp only [List.flatten_cons, List.append_assoc, List.cons_append, List.nil_append]
    rw [parse_line hfeed, parse_line hfeed, ih, List.append_assoc]

theorem parse_append_feed (t u : Text) : parse (t ++ '\n' :: u) = parse t ++ parse u := by
  obtain ⟨heq, hlines⟩ := Text.linesOf_rawLines t
  conv_lhs => rw [heq]
  conv_rhs => rw [heq]
  exact parse_flatten_append hlines u

/-- A text that stands for itself on a line of its own. -/
structure IsRule (rule : Text) : Prop where
  ne_nil : rule ≠ []
  head : ∀ c ∈ rule.head?, Text.isBlank c = false
  last : ∀ c ∈ rule.getLast?, Text.isBlank c = false
  number_sign : '#' ∉ rule
  feed : '\n' ∉ rule

lemma mem_of_mem_stripComment {c : Char} (h : c ∈ stripComment line) : c ∈ line := by
  obtain ⟨lead, trail, -, -, heq⟩ := Text.exists_eq_append_trim (line.takeWhile (· != '#'))
  apply (List.takeWhile_prefix (· != '#')).subset
  rw [heq]
  exact List.mem_append_right _ (List.mem_append_left _ h)

lemma isRule_of_mem_parse (h : rule ∈ parse t) : IsRule rule := by
  obtain ⟨hmem, hne⟩ := List.mem_filter.mp h
  obtain ⟨line, hline, rfl⟩ := List.mem_map.mp hmem
  exact {
    ne_nil := by simpa using hne
    head := Text.head?_trim _
    last := Text.getLast?_trim _
    number_sign := number_sign_not_mem_stripComment line
    feed := fun hfeed => Text.feed_not_mem_of_mem_lines hline (mem_of_mem_stripComment hfeed) }

lemma IsRule.stripComment_eq (h : IsRule rule) : stripComment rule = rule := by
  have hall : rule.takeWhile (· != '#') = rule := by
    rw [List.takeWhile_eq_self_iff]
    intro c hc
    rw [bne_iff_ne]
    exact ne_of_mem_of_not_mem hc h.number_sign
  rw [stripComment, hall, Text.trim_eq_iff h.head h.last]
  exact ⟨[], [], List.forall_mem_nil _, List.forall_mem_nil _, by simp⟩

lemma IsRule.parse_eq (h : IsRule rule) : parse rule = [rule] := by
  rw [parse_of_not_mem h.feed, h.stripComment_eq]
  simp [h.ne_nil]

def write (rules : List Text) : Text := Text.join ['\n'] rules

theorem parse_write (h : ∀ rule ∈ rules, IsRule rule) : parse (write rules) = rules := by
  induction rules with
  | nil => rfl
  | cons rule rest ih =>
    obtain ⟨hrule, hrest⟩ := List.forall_mem_cons.mp h
    cases rest with
    | nil => exact hrule.parse_eq
    | cons next rest =>
      have hwrite : write (rule :: next :: rest) = rule ++ '\n' :: write (next :: rest) := by
        simp [write, Text.join]
      rw [hwrite, parse_line hrule.feed, hrule.parse_eq, ih hrest, List.singleton_append]

lemma compile_expression (t : Text) (mode : FilterMode) : (compile t mode).value.expression =
    expressionFor (compile t mode).value.ignoreExpression mode := rfl

lemma compile_congr {u : Text} (h : distinct (parse t) = distinct (parse u)) (mode : FilterMode) :
    (compile t mode).value = (compile u mode).value := by
  have hvalue (t : Text) : (compile t mode).value =
      ⟨mode, expressionFor (union (compileEach (distinct (parse t))).value.1) mode,
        union (compileEach (distinct (parse t))).value.1, distinct (parse t),
        (compileEach (distinct (parse t))).value.2⟩ := rfl
  rw [hvalue t, hvalue u, h]

lemma isRule_of_mem_distinct (h : rule ∈ distinct (parse t)) : IsRule rule :=
  isRule_of_mem_parse (mem_distinct_iff.mp h)

lemma distinct_parse_write (hrules : ∀ rule ∈ rules, IsRule rule) (hnodup : rules.Nodup) :
    distinct (parse (write rules)) = rules := by
  rw [parse_write hrules, distinct_eq_self hnodup]

/-- The rules that a file is compiled with are compiled to what the file is compiled to. -/
theorem compile_write_rules (t : Text) (mode : FilterMode) :
    (compile (write (compile t mode).value.rules) mode).value = (compile t mode).value :=
  compile_congr (distinct_parse_write (fun _ => isRule_of_mem_distinct) (nodup_distinct _)) mode

lemma distinct_parse_write_usable (t : Text) : distinct (parse (write (usable t))) = usable t :=
  distinct_parse_write (fun _ h => isRule_of_mem_distinct (List.mem_of_mem_filter h))
    ((nodup_distinct _).filter _)

lemma usable_write_usable (t : Text) : usable (write (usable t)) = usable t := by
  rw [usable, distinct_parse_write_usable, List.filter_eq_self]
  exact fun _ h => List.of_mem_filter h

lemma ignoreExpression_write_usable (t : Text) (mode : FilterMode) :
    (compile (write (usable t)) mode).value.ignoreExpression = (compile t mode).value.ignoreExpression := by
  rw [compile_ignoreExpression, compile_ignoreExpression, expressions, usable_write_usable, expressions]

lemma errors_write_usable (t : Text) (mode : FilterMode) :
    (compile (write (usable t)) mode).value.errors = [] := by
  rw [compile_errors, distinct_parse_write_usable, List.filterMap_eq_nil_iff]
  intro rule hrule
  exact error?_eq_none_iff.mpr (List.of_mem_filter hrule)

/-- The rules of two files are those of the one and then those of the other, and each stands for itself. A file is
compiled with its rules where they occur first, and its errors are those of the broken rules, in their order.
Compiling these rules again gives all of it again, and without the broken ones there are the same expressions and no
errors. -/
theorem parse_append_and_compile_write (t u : Text) (mode : FilterMode) :
    let compiled := (compile t mode).value
    let repaired := (compile (write (compiled.rules.filter isUsable)) mode).value
    parse (t ++ '\n' :: u) = parse t ++ parse u ∧
      (∀ rule ∈ parse t, IsRule rule) ∧
      KeepsFirsts (parse t) compiled.rules ∧
      compiled.errors = compiled.rules.filterMap error? ∧
      (compile (write compiled.rules) mode).value = compiled ∧
      repaired.expression = compiled.expression ∧
      repaired.ignoreExpression = compiled.ignoreExpression ∧ repaired.errors = [] := by
  intro compiled repaired
  have hignore : repaired.ignoreExpression = compiled.ignoreExpression :=
    ignoreExpression_write_usable t mode
  refine ⟨parse_append_feed t u, fun _ => isRule_of_mem_parse, keepsFirsts_distinct _,
    compile_errors t mode, compile_write_rules t mode, ?_, hignore, errors_write_usable t mode⟩
  rw [compile_expression, compile_expression, hignore]

/-- A broken rule with a comment between a rule and its repeat. -/
example :
    let compiled := (compile "a.test\r\n/ad(s/ # broken\n\n  a.test\n".toList .ignore).value
    (compiled.rules, compiled.errors) =
      (["a.test".toList, "/ad(s/".toList], [.invalidRule "/ad(s/".toList]) := by
  decide +kernel

end Userscript.RuleSet
