import Userscript.Proofs.MetadataBlock

/-!
# Blocks between marked lines

A block is found in one pass over the lines of a script. What is found are just the lines between the first
opening line and the first closing line behind it, if no line between the two is refused. The pass ends at a
refused line, though, before it has seen whether a closing line follows, so it names that line also where no
line closes the block.
-/

namespace Userscript.Metadata

/-! ## Single lines -/

/-- A line that holds a mark: without the blanks at its ends it is a comment of blanks and the mark. -/
def IsMark (mark line : Text) : Prop :=
  ∃ gap, (∀ c ∈ gap, Text.isBlank c = true) ∧ Text.trim line = commentMark ++ (gap ++ mark)

/-- A line that may stand in a block: it is blank, or a comment begins behind its leading blanks. -/
def IsAllowed (line : Text) : Prop :=
  (∀ c ∈ line, Text.isBlank c = true) ∨ commentMark <+: Text.trimStart line

variable {mark line source t block : Text} {ls before inside good behind after : List Text}
  {opening closing bad : Text}

lemma isMarkedLine_eq_true_iff :
    isMarkedLine mark line = true ↔
      ∃ rest, Text.trimStart line = commentMark ++ rest ∧ Text.trim rest = mark := by
  unfold isMarkedLine
  cases hcomment : comment? line with
  | none =>
    constructor
    · intro h
      cases h
    · rintro ⟨rest, hstart, -⟩
      have hsome : comment? line = some rest := Text.after?_eq_some_iff.mpr hstart
      rw [hcomment] at hsome
      cases hsome
  | some rest =>
    have hstart : Text.trimStart line = commentMark ++ rest := Text.after?_eq_some_iff.mp hcomment
    constructor
    · intro h
      exact ⟨rest, hstart, beq_iff_eq.mp h⟩
    · rintro ⟨rest', hstart', rfl⟩
      rw [hstart, List.append_cancel_left_eq] at hstart'
      rw [hstart']
      exact beq_self_eq_true _

lemma isMarkedLine_iff (hmark : mark = openingMark ∨ mark = closingMark) :
    isMarkedLine mark line = true ↔ IsMark mark line := by
  obtain ⟨hfirst, hfinal⟩ : mark.head? = some '=' ∧ mark.getLast? = some '=' := by
    rcases hmark with rfl | rfl
    · exact ⟨rfl, rfl⟩
    · exact ⟨rfl, rfl⟩
  have hne : mark ≠ [] := by
    rintro rfl
    cases hfirst
  have hhead : ∀ c ∈ mark.head?, Text.isBlank c = false := by
    intro c hc
    rw [hfirst] at hc
    exact Option.some.inj hc ▸ rfl
  have hlast : ∀ c ∈ mark.getLast?, Text.isBlank c = false := by
    intro c hc
    rw [hfinal] at hc
    exact Option.some.inj hc ▸ rfl
  rw [isMarkedLine_eq_true_iff]
  constructor
  · rintro ⟨rest, hstart, hrest⟩
    obtain ⟨gap, trail, hgap, htrail, happend⟩ := Text.exists_eq_append_trim rest
    refine ⟨gap, hgap, ?_⟩
    have hend : ∀ c ∈ (commentMark ++ (gap ++ mark)).getLast?, Text.isBlank c = false := by
      rwa [← List.append_assoc, List.getLast?_append_of_ne_nil _ hne]
    rw [hrest] at happend
    rw [Text.trim, hstart, happend, ← List.append_assoc gap, ← List.append_assoc commentMark,
      Text.trimEnd_append htrail, Text.trimEnd_of_getLast? hend]
  · rintro ⟨gap, hgap, htrim⟩
    obtain ⟨trail, htrail, hstart⟩ := Text.exists_eq_trimEnd_append (Text.trimStart line)
    refine ⟨gap ++ (mark ++ trail), ?_, (Text.trim_eq_iff hhead hlast).mpr ⟨gap, trail, hgap, htrail, rfl⟩⟩
    rw [hstart, ← Text.trim, htrim]
    simp only [List.append_assoc]

lemma isBlockLine_iff : isBlockLine line = true ↔ IsAllowed line := by
  unfold isBlockLine comment? IsAllowed
  rw [Bool.or_eq_true, List.isEmpty_iff, Text.isSome_after?_iff, Text.trimStart,
    List.dropWhile_eq_nil_iff]

lemma isAllowed_iff_trim :
    IsAllowed line ↔ Text.trim line = [] ∨ commentMark <+: Text.trim line := by
  have hlast : ∀ c ∈ commentMark.getLast?, Text.isBlank c = false := by
    intro c hc
    exact Option.some.inj hc ▸ rfl
  rw [IsAllowed, Text.trim_eq_nil_iff, Text.trim, Text.prefix_trimEnd_iff hlast]

/-! ## Lines up to the closing one -/

/-- A line that the pass goes over: it does not close the block, and may stand in it. -/
def IsPassed (line : Text) : Prop := ¬IsMark closingMark line ∧ IsAllowed line

lemma isPassed_iff : IsPassed line ↔ isMarkedLine closingMark line = false ∧ isBlockLine line = true := by
  rw [IsPassed, ← isMarkedLine_iff (.inr rfl), ← isBlockLine_iff, Bool.not_eq_true]

lemma untilClosed_of_passed (hgood : ∀ l ∈ good, IsPassed l) : untilClosed good = .error .noBlock := by
  have hall := untilClosed_append (fun l hl => isPassed_iff.mp (hgood l hl)) []
  rwa [List.append_nil] at hall

lemma untilClosed_of_closing (hinside : ∀ l ∈ inside, IsPassed l) (hclosing : IsMark closingMark closing) :
    untilClosed (inside ++ closing :: after) = .ok inside.flatten :=
  untilClosed_closed (fun l hl => isPassed_iff.mp (hinside l hl))
    ((isMarkedLine_iff (.inr rfl)).mpr hclosing)

lemma untilClosed_of_refused (hgood : ∀ l ∈ good, IsPassed l) (hclosing : ¬IsMark closingMark bad)
    (hbad : ¬IsAllowed bad) :
    untilClosed (good ++ bad :: after) = .error (.invalidLine (Text.dropLineEnd bad)) := by
  rw [← isMarkedLine_iff (.inr rfl)] at hclosing
  rw [← isBlockLine_iff] at hbad
  rw [untilClosed_append fun l hl => isPassed_iff.mp (hgood l hl), untilClosed, if_neg hclosing, if_neg hbad]
  rfl

lemma exists_first {p : Text → Prop} (h : ∃ l ∈ ls, p l) :
    ∃ before first after, ls = before ++ first :: after ∧ (∀ l ∈ before, ¬p l) ∧ p first := by
  classical
  obtain ⟨l, hl, hp⟩ := h
  obtain ⟨first, before, after, hbefore, hfirst, happend, -⟩ :=
    List.exists_of_eraseP (p := fun l => decide (p l)) hl (decide_eq_true hp)
  exact ⟨before, first, after, happend, fun l hl hl' => hbefore l hl (decide_eq_true hl'),
    of_decide_eq_true hfirst⟩

lemma passed_or_stopped (ls : List Text) :
    (∀ l ∈ ls, IsPassed l) ∨
      ∃ good stop after, ls = good ++ stop :: after ∧ (∀ l ∈ good, IsPassed l) ∧ ¬IsPassed stop := by
  by_cases h : ∀ l ∈ ls, IsPassed l
  · exact .inl h
  · push Not at h
    obtain ⟨good, stop, after, happend, hgood, hstop⟩ := exists_first h
    exact .inr ⟨good, stop, after, happend, fun l hl => not_not.mp (hgood l hl), hstop⟩

/-- The pass ends in one of three ways: at no line, at a closing line, or at a refused line. -/
lemma untilClosed_cases (ls : List Text) :
    ((∀ l ∈ ls, IsPassed l) ∧ untilClosed ls = .error .noBlock) ∨
    (∃ inside closing after, ls = inside ++ closing :: after ∧ (∀ l ∈ inside, IsPassed l) ∧
      IsMark closingMark closing ∧ untilClosed ls = .ok inside.flatten) ∨
    ∃ good bad after, ls = good ++ bad :: after ∧ (∀ l ∈ good, IsPassed l) ∧
      ¬IsMark closingMark bad ∧ ¬IsAllowed bad ∧
      untilClosed ls = .error (.invalidLine (Text.dropLineEnd bad)) := by
  rcases passed_or_stopped ls with hall | ⟨good, stop, after, rfl, hgood, hstop⟩
  · exact .inl ⟨hall, untilClosed_of_passed hall⟩
  · by_cases hclosing : IsMark closingMark stop
    · exact .inr (.inl ⟨good, stop, after, rfl, hgood, hclosing, untilClosed_of_closing hgood hclosing⟩)
    · have hbad : ¬IsAllowed stop := fun hallowed => hstop ⟨hclosing, hallowed⟩
      exact .inr (.inr ⟨good, stop, after, rfl, hgood, hclosing, hbad,
        untilClosed_of_refused hgood hclosing hbad⟩)

theorem untilClosed_eq_ok_iff :
    untilClosed ls = .ok block ↔ ∃ inside closing after, ls = inside ++ closing :: after ∧
      (∀ l ∈ inside, IsPassed l) ∧ IsMark closingMark closing ∧ block = inside.flatten := by
  constructor
  · intro h
    obtain ⟨-, heq⟩ | ⟨inside, closing, after, happend, hinside, hclosing, heq⟩ | ⟨_, _, _, -, -, -, -, heq⟩ :=
      untilClosed_cases ls
    all_goals
      rw [heq] at h
      cases h
    exact ⟨inside, closing, after, happend, hinside, hclosing, rfl⟩
  · rintro ⟨inside, closing, after, rfl, hinside, hclosing, rfl⟩
    exact untilClosed_of_closing hinside hclosing

theorem untilClosed_eq_noBlock_iff : untilClosed ls = .error .noBlock ↔ ∀ l ∈ ls, IsPassed l := by
  constructor
  · intro h
    obtain ⟨hall, -⟩ | ⟨_, _, _, -, -, -, heq⟩ | ⟨_, _, _, -, -, -, -, heq⟩ := untilClosed_cases ls
    · exact hall
    all_goals
      rw [heq] at h
      cases h
  · exact untilClosed_of_passed

theorem untilClosed_eq_invalidLine_iff :
    untilClosed ls = .error (.invalidLine line) ↔ ∃ good bad after, ls = good ++ bad :: after ∧
      (∀ l ∈ good, IsPassed l) ∧ ¬IsMark closingMark bad ∧ ¬IsAllowed bad ∧
      line = Text.dropLineEnd bad := by
  constructor
  · intro h
    obtain ⟨-, heq⟩ | ⟨_, _, _, -, -, -, heq⟩ | ⟨good, bad, after, happend, hgood, hclosing, hbad, heq⟩ :=
      untilClosed_cases ls
    all_goals
      rw [heq] at h
      cases h
    exact ⟨good, bad, after, happend, hgood, hclosing, hbad, rfl⟩
  · rintro ⟨good, bad, after, rfl, hgood, hclosing, hbad, rfl⟩
    exact untilClosed_of_refused hgood hclosing hbad

/-! ## Marked blocks -/

/-- The lines of a text, with the first opening line set apart. -/
structure Opened (t : Text) (before : List Text) (opening : Text) (behind : List Text) : Prop where
  linesOf : Text.LinesOf t (before ++ opening :: behind)
  before_not : ∀ l ∈ before, ¬IsMark openingMark l
  isMark_opening : IsMark openingMark opening

/-- The lines of a text, with the first opening line and the first closing line behind it set apart. -/
structure Framed (t : Text) (before : List Text) (opening : Text) (inside : List Text) (closing : Text)
    (after : List Text) : Prop extends Opened t before opening (inside ++ closing :: after) where
  inside_not : ∀ l ∈ inside, ¬IsMark closingMark l
  isMark_closing : IsMark closingMark closing

/-- Among the lines of a text an opening line has a closing line behind it. -/
def HasMarks (t : Text) : Prop :=
  ∃ ls opening closing, Text.LinesOf t ls ∧ [opening, closing].Sublist ls ∧ IsMark openingMark opening ∧
    IsMark closingMark closing

def FirstRefused (ls : List Text) (line : Text) : Prop :=
  ∃ good bad after, ls = good ++ bad :: after ∧ (∀ l ∈ good, IsAllowed l) ∧ ¬IsAllowed bad ∧
    line = Text.dropLineEnd bad

lemma opened_or (t : Text) : (∃ before opening behind, Opened t before opening behind) ∨
    ∀ l ∈ Text.rawLines t, ¬IsMark openingMark l := by
  by_cases h : ∃ l ∈ Text.rawLines t, IsMark openingMark l
  · obtain ⟨before, opening, behind, hlines, hbefore, hopening⟩ := exists_first h
    exact .inl ⟨before, opening, behind, Text.linesOf_iff.mpr hlines, hbefore, hopening⟩
  · push Not at h
    exact .inr h

lemma extract_of_opened (h : Opened (dropByteOrderMark source) before opening behind) :
    extract source = untilClosed behind := by
  rw [extract, Text.linesOf_iff.mp h.linesOf]
  apply blockOf_append
  · intro l hl
    rw [← Bool.not_eq_true, isMarkedLine_iff (.inl rfl)]
    exact h.before_not l hl
  · rw [isMarkedLine_iff (.inl rfl)]
    exact h.isMark_opening

lemma blockOf_of_forall (h : ∀ l ∈ ls, ¬IsMark openingMark l) : blockOf ls = .error .noBlock := by
  induction ls with
  | nil => rfl
  | cons l ls ih =>
    obtain ⟨hl, hls⟩ := List.forall_mem_cons.mp h
    rw [← isMarkedLine_iff (.inl rfl)] at hl
    rw [blockOf, if_neg hl]
    exact ih hls

lemma exists_framed_of_extract (h : extract source = .ok block) :
    ∃ before opening inside closing after,
      Framed (dropByteOrderMark source) before opening inside closing after ∧
      (∀ l ∈ inside, IsAllowed l) ∧ block = inside.flatten := by
  rcases opened_or (dropByteOrderMark source) with ⟨before, opening, behind, hopened⟩ | hnone
  · rw [extract_of_opened hopened, untilClosed_eq_ok_iff] at h
    obtain ⟨inside, closing, after, rfl, hinside, hclosing, rfl⟩ := h
    exact ⟨before, opening, inside, closing, after, ⟨hopened, fun l hl => (hinside l hl).1, hclosing⟩,
      fun l hl => (hinside l hl).2, rfl⟩
  · rw [extract, blockOf_of_forall hnone] at h
    cases h

lemma mem_of_mem_extract (h : extract source = .ok block) {c : Char} (hc : c ∈ block) : c ∈ source := by
  obtain ⟨before, opening, inside, closing, after, hframed, -, rfl⟩ := exists_framed_of_extract h
  have hmem : c ∈ dropByteOrderMark source := by
    rw [hframed.linesOf.eq_flatten]
    simp only [List.flatten_append, List.flatten_cons, List.mem_append, hc, true_or, or_true]
  unfold dropByteOrderMark at hmem
  split at hmem
  · exact List.mem_cons_of_mem _ hmem
  · exact hmem

/-- The block of a script is what stands between the first opening line and the first closing line behind it, if
each line of it may stand in a block. -/
theorem extract_eq_ok_iff :
    extract source = .ok block ↔ ∃ before opening inside closing after,
      Framed (dropByteOrderMark source) before opening inside closing after ∧
      (∀ l ∈ inside, IsAllowed l) ∧ block = inside.flatten := by
  constructor
  · exact exists_framed_of_extract
  · rintro ⟨before, opening, inside, closing, after, hframed, hallowed, rfl⟩
    rw [extract_of_opened hframed.toOpened]
    exact untilClosed_of_closing (fun l hl => ⟨hframed.inside_not l hl, hallowed l hl⟩)
      hframed.isMark_closing

/-! ## Failures -/

lemma Opened.hasMarks_iff (h : Opened t before opening behind) :
    HasMarks t ↔ ∃ l ∈ behind, IsMark closingMark l := by
  constructor
  · rintro ⟨ls, opening', closing, hlines, hsub, hopening, hclosing⟩
    rw [← Text.linesOf_iff.mp hlines, Text.linesOf_iff.mp h.linesOf, List.sublist_append_iff] at hsub
    obtain ⟨start, rest, happend, hstart, hrest⟩ := hsub
    have hnil : start = [] := by
      cases start with
      | nil => rfl
      | cons l start =>
        obtain rfl : opening' = l := (List.cons.inj happend).1
        exact absurd hopening (h.before_not _ (hstart.subset List.mem_cons_self))
    rw [hnil, List.nil_append] at happend
    rw [← happend] at hrest
    exact ⟨closing, hrest.tail.subset List.mem_cons_self, hclosing⟩
  · rintro ⟨closing, hmem, hclosing⟩
    refine ⟨_, opening, closing, h.linesOf, ?_, h.isMark_opening, hclosing⟩
    have hsub : [opening, closing].Sublist (opening :: behind) :=
      (List.singleton_sublist.mpr hmem).cons_cons opening
    exact hsub.trans (List.sublist_append_right before _)

lemma not_hasMarks_of_not_opened (h : ∀ l ∈ Text.rawLines t, ¬IsMark openingMark l) : ¬HasMarks t := by
  rintro ⟨ls, opening, closing, hlines, hsub, hopening, -⟩
  rw [Text.linesOf_iff.mp hlines] at h
  exact h opening (hsub.subset List.mem_cons_self) hopening

lemma isPassed_of_not_hasMarks (h : Opened t before opening behind) (hmarks : ¬HasMarks t)
    (hl : line ∈ behind) : IsPassed line ↔ IsAllowed line := by
  rw [h.hasMarks_iff] at hmarks
  push Not at hmarks
  exact and_iff_right (hmarks line hl)

lemma extract_eq_noBlock_iff :
    extract source = .error .noBlock ↔ ¬HasMarks (dropByteOrderMark source) ∧
      ∀ before opening behind, Opened (dropByteOrderMark source) before opening behind →
        ∀ l ∈ behind, IsAllowed l := by
  constructor
  · intro h
    refine ⟨fun hmarks => ?_, fun before opening behind hopened l hl => ?_⟩
    · rcases opened_or (dropByteOrderMark source) with ⟨before, opening, behind, hopened⟩ | hnone
      · obtain ⟨closing, hmem, hclosing⟩ := hopened.hasMarks_iff.mp hmarks
        rw [extract_of_opened hopened, untilClosed_eq_noBlock_iff] at h
        exact (h closing hmem).1 hclosing
      · exact not_hasMarks_of_not_opened hnone hmarks
    · rw [extract_of_opened hopened, untilClosed_eq_noBlock_iff] at h
      exact (h l hl).2
  · rintro ⟨hmarks, hallowed⟩
    rcases opened_or (dropByteOrderMark source) with ⟨before, opening, behind, hopened⟩ | hnone
    · rw [extract_of_opened hopened, untilClosed_eq_noBlock_iff]
      intro l hl
      exact (isPassed_of_not_hasMarks hopened hmarks hl).mpr (hallowed _ _ _ hopened l hl)
    · exact blockOf_of_forall hnone

lemma extract_eq_invalidLine_iff :
    extract source = .error (.invalidLine line) ↔
      (∃ before opening inside closing after,
        Framed (dropByteOrderMark source) before opening inside closing after ∧
        FirstRefused inside line) ∨
      (¬HasMarks (dropByteOrderMark source) ∧ ∃ before opening behind,
        Opened (dropByteOrderMark source) before opening behind ∧ FirstRefused behind line) := by
  constructor
  · intro h
    rcases opened_or (dropByteOrderMark source) with ⟨before, opening, behind, hopened⟩ | hnone
    · rw [extract_of_opened hopened, untilClosed_eq_invalidLine_iff] at h
      obtain ⟨good, bad, after, rfl, hgood, hclosing, hbad, rfl⟩ := h
      have hallowed : ∀ l ∈ good, IsAllowed l := fun l hl => (hgood l hl).2
      -- Whether the block is closed shows only behind the line that is reported.
      by_cases hafter : ∃ l ∈ after, IsMark closingMark l
      · obtain ⟨inside, closing, after, rfl, hinside, hmark⟩ := exists_first hafter
        refine .inl ⟨before, opening, good ++ bad :: inside, closing, after, ⟨?_, ?_, hmark⟩,
          good, bad, inside, rfl, hallowed, hbad, rfl⟩
        · rwa [List.append_assoc, List.cons_append]
        · intro l hl
          rcases List.mem_append.mp hl with hl | hl
          · exact (hgood l hl).1
          · rcases List.mem_cons.mp hl with rfl | hl
            · exact hclosing
            · exact hinside l hl
      · refine .inr ⟨?_, before, opening, _, hopened, good, bad, after, rfl, hallowed, hbad, rfl⟩
        rw [hopened.hasMarks_iff]
        rintro ⟨closing, hmem, hmark⟩
        rcases List.mem_append.mp hmem with hmem | hmem
        · exact (hgood closing hmem).1 hmark
        · rcases List.mem_cons.mp hmem with rfl | hmem
          · exact hclosing hmark
          · exact hafter ⟨closing, hmem, hmark⟩
    · rw [extract, blockOf_of_forall hnone] at h
      cases h
  · rintro (⟨before, opening, inside, closing, after, hframed, hrefused⟩ |
      ⟨hmarks, before, opening, behind, hopened, hrefused⟩)
    · obtain ⟨good, bad, rest, rfl, hgood, hbad, rfl⟩ := hrefused
      rw [extract_of_opened hframed.toOpened, List.append_assoc, List.cons_append]
      apply untilClosed_of_refused
      · intro l hl
        exact ⟨hframed.inside_not l (List.mem_append_left _ hl), hgood l hl⟩
      · exact hframed.inside_not bad (List.mem_append_right _ List.mem_cons_self)
      · exact hbad
    · obtain ⟨good, bad, rest, rfl, hgood, hbad, rfl⟩ := hrefused
      rw [extract_of_opened hopened]
      apply untilClosed_of_refused
      · intro l hl
        exact (isPassed_of_not_hasMarks hopened hmarks (List.mem_append_left _ hl)).mpr (hgood l hl)
      · intro hmark
        exact hmarks (hopened.hasMarks_iff.mpr ⟨bad, List.mem_append_right _ List.mem_cons_self, hmark⟩)
      · exact hbad

/-- There is no block in a script just when no closing line stands behind an opening line and no line behind the
first opening line is refused. A line is reported if it is the first that is refused between the two lines, or,
where no closing line follows, behind the first opening line. -/
theorem extract_eq_error_iff (source : Text) :
    (extract source = .error .noBlock ↔ ¬HasMarks (dropByteOrderMark source) ∧
      ∀ before opening behind, Opened (dropByteOrderMark source) before opening behind →
        ∀ l ∈ behind, IsAllowed l) ∧
    ∀ line, extract source = .error (.invalidLine line) ↔
      (∃ before opening inside closing after,
        Framed (dropByteOrderMark source) before opening inside closing after ∧
        FirstRefused inside line) ∨
      (¬HasMarks (dropByteOrderMark source) ∧ ∃ before opening behind,
        Opened (dropByteOrderMark source) before opening behind ∧ FirstRefused behind line) :=
  ⟨extract_eq_noBlock_iff, fun _ => extract_eq_invalidLine_iff⟩

/-- A script whose block is not closed is refused for a line behind the opening one, although it has no block. -/
theorem not_noBlock_iff_of_unclosed :
    let source := "// ==UserScript==\nalert(1);\n".toList
    extract source = .error (.invalidLine "alert(1);".toList) ∧
    ¬(extract source = .error .noBlock ↔ ¬HasMarks (dropByteOrderMark source)) := by
  intro source
  have hextract : extract source = .error (.invalidLine "alert(1);".toList) := rfl
  have hmarks : ¬HasMarks (dropByteOrderMark source) := by
    rintro ⟨ls, opening, closing, hlines, hsub, -, hclosing⟩
    have hnone : ∀ l ∈ Text.rawLines (dropByteOrderMark source), isMarkedLine closingMark l = false := by
      decide
    rw [Text.linesOf_iff.mp hlines] at hnone
    have hfalse := hnone closing (hsub.subset (List.mem_cons_of_mem _ List.mem_cons_self))
    rw [← isMarkedLine_iff (.inr rfl), hfalse] at hclosing
    cases hclosing
  refine ⟨hextract, fun h => ?_⟩
  have hnone := h.mpr hmarks
  rw [hextract] at hnone
  cases hnone

end Userscript.Metadata
