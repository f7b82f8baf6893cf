import Userscript.Proofs.MetadataLine

/-!
# Blocks that are written and read

The lines that are written for items, put between the two marked lines, are found in a script whatever stands
behind them, and are read back as the items. Neither a value that looks like a marked line or like another
tag nor a carriage return inside a value can confuse the reader, since a written line begins with a comment
mark and a tag and holds no other line feed than its last character.
-/

namespace Userscript.Metadata

/-- The line of an item without its end. -/
def lineText : Item → Text
  | (tag, .flag _) => tagged tag
  | (tag, .text value) => tagged tag ++ ' ' :: value

def write (items : Metadata) : Text := items.flatMap fun item => lineText item ++ ['\n']

/-- A value that can be written behind a tag. -/
def Value.IsWritable : Value → Prop
  | .flag b => b = true
  | .text t => t ≠ [] ∧ '\n' ∉ t ∧ (∀ c ∈ t.head?, Text.isBlank c = false) ∧
      ∀ c ∈ t.getLast?, Text.isBlank c = false

/-- An item that can be written on a line. -/
@[mk_iff]
structure IsWritable (item : Item) : Prop where
  tag_ne_nil : item.1 ≠ []
  tag_blank : ∀ c ∈ item.1, Text.isBlank c = false
  value : item.2.IsWritable

instance (v : Value) : Decidable v.IsWritable :=
  match v with
  | .flag b => inferInstanceAs (Decidable (b = true))
  | .text t =>
    decidable_of_iff (t ≠ [] ∧ '\n' ∉ t ∧ (t.head?.all fun c => !Text.isBlank c) = true ∧
      (t.getLast?.all fun c => !Text.isBlank c) = true) <| by
        simp [Value.IsWritable, Option.all_eq_true]

instance (item : Item) : Decidable (IsWritable item) :=
  decidable_of_iff
    (item.1 ≠ [] ∧ (item.1.all fun c => !Text.isBlank c) = true ∧ item.2.IsWritable) <| by
      simp [isWritable_iff]

namespace IsWritable

variable {item : Item}

theorem item?_lineText (h : IsWritable item) : item? (lineText item) = some item := by
  obtain ⟨tag, value⟩ := item
  cases value with
  | flag b =>
    obtain rfl : b = true := h.value
    exact item?_tagged h.tag_ne_nil h.tag_blank
  | text t =>
    obtain ⟨hne, hfeed, hhead, hlast⟩ := h.value
    exact item?_tagged_append h.tag_ne_nil h.tag_blank hne hfeed hhead hlast

lemma feed_not_mem_lineText (h : IsWritable item) : '\n' ∉ lineText item := by
  obtain ⟨tag, value⟩ := item
  have htag : '\n' ∉ tagged tag := by
    intro hmem
    rcases List.mem_append.mp hmem with hmark | htag
    · exact absurd hmark (by decide)
    · exact absurd (h.tag_blank '\n' htag) (by decide)
  cases value with
  | flag b => exact htag
  | text t =>
    obtain ⟨-, hfeed, -, -⟩ := h.value
    simp [lineText, htag, hfeed]

lemma getLast?_lineText (h : IsWritable item) :
    ∀ c ∈ (lineText item).getLast?, Text.isBlank c = false := by
  obtain ⟨tag, value⟩ := item
  cases value with
  | flag b =>
    intro c hc
    rw [lineText, tagged, List.getLast?_append_of_ne_nil _ h.tag_ne_nil] at hc
    exact h.tag_blank c (List.mem_of_getLast? hc)
  | text t =>
    obtain ⟨hne, -, -, hlast⟩ := h.value
    intro c hc
    rw [lineText, List.getLast?_append_of_ne_nil _ (List.cons_ne_nil _ _)] at hc
    obtain ⟨d, t, rfl⟩ := List.exists_cons_of_ne_nil hne
    rw [List.getLast?_cons_cons] at hc
    exact hlast c hc

end IsWritable

lemma comment?_lineText (item : Item) (t : Text) :
    ∃ rest, comment? (lineText item ++ t) = some (' ' :: '@' :: rest) := by
  obtain ⟨tag, value⟩ := item
  have hmark : ∀ r : Text, comment? ("// @".toList ++ r) = some (' ' :: '@' :: r) := fun _ => rfl
  cases value with
  | flag b => exact ⟨_, by rw [lineText, tagged, List.append_assoc, hmark]⟩
  | text value => exact ⟨_, by rw [lineText, tagged, List.append_assoc, List.append_assoc, hmark]⟩

lemma isBlockLine_lineText (item : Item) (t : Text) : isBlockLine (lineText item ++ t) = true := by
  obtain ⟨rest, hcomment⟩ := comment?_lineText item t
  rw [isBlockLine, hcomment, Option.isSome_some, Bool.or_true]

lemma isMarkedLine_lineText {mark : Text} (hmark : mark.head? = some '=') (item : Item) (t : Text) :
    isMarkedLine mark (lineText item ++ t) = false := by
  obtain ⟨rest, hcomment⟩ := comment?_lineText item t
  have htrim : Text.trim (' ' :: '@' :: rest) ≠ mark := by
    intro h
    obtain ⟨r, hr⟩ : mark <+: '@' :: rest := h ▸ Text.trimEnd_prefix ('@' :: rest)
    have hhead : (mark ++ r).head? = some '@' := congrArg List.head? hr
    rw [List.head?_append, hmark] at hhead
    exact absurd (Option.some.inj hhead) (by decide)
  simp [isMarkedLine, hcomment, htrim]

lemma blockOf_append {before after : List Text} {line : Text}
    (hbefore : ∀ l ∈ before, isMarkedLine openingMark l = false)
    (hline : isMarkedLine openingMark line = true) :
    blockOf (before ++ line :: after) = untilClosed after := by
  induction before with
  | nil => rw [List.nil_append, blockOf, if_pos hline]
  | cons l before ih =>
    obtain ⟨hl, hrest⟩ := List.forall_mem_cons.mp hbefore
    rw [List.cons_append, blockOf, if_neg (Bool.eq_false_iff.mp hl), ih hrest]

lemma untilClosed_append {block : List Text}
    (hblock : ∀ l ∈ block, isMarkedLine closingMark l = false ∧ isBlockLine l = true) (ls : List Text) :
    untilClosed (block ++ ls) = (untilClosed ls).map (block.flatten ++ ·) := by
  induction block with
  | nil => cases h : untilClosed ls <;> simp [h, Except.map]
  | cons l block ih =>
    obtain ⟨⟨hopen, hallowed⟩, hrest⟩ := List.forall_mem_cons.mp hblock
    rw [List.cons_append, untilClosed, if_neg (Bool.eq_false_iff.mp hopen), if_pos hallowed, ih hrest]
    cases untilClosed ls with
    | error e => rfl
    | ok text => simp [Except.map]

lemma untilClosed_closed {block after : List Text} {line : Text}
    (hblock : ∀ l ∈ block, isMarkedLine closingMark l = false ∧ isBlockLine l = true)
    (hline : isMarkedLine closingMark line = true) :
    untilClosed (block ++ line :: after) = .ok block.flatten := by
  rw [untilClosed_append hblock, untilClosed, if_pos hline]
  simp [Except.map]

lemma dropByteOrderMark_of_head? {t : Text} (h : t.head? ≠ some '\uFEFF') :
    dropByteOrderMark t = t := by
  unfold dropByteOrderMark
  split
  · exact absurd rfl h
  · rfl

lemma lines_write {items : Metadata} (h : ∀ item ∈ items, IsWritable item) :
    Text.lines (write items) = items.map lineText := by
  have hraw : Text.rawLines (write items) = items.map fun item => lineText item ++ ['\n'] := by
    have hall := Text.rawLines_flatMap (fun item hmem => (h item hmem).feed_not_mem_lineText) []
    rwa [List.append_nil, Text.rawLines, List.append_nil] at hall
  rw [Text.lines, hraw, List.map_map]
  refine List.map_congr_left fun item hmem => Text.lineBody_feed fun hlast => ?_
  exact absurd ((h item hmem).getLast?_lineText '\r' hlast) (by decide)

/-- What is written for items is read back as the items. -/
theorem parse_write {items : Metadata} (h : ∀ item ∈ items, IsWritable item) :
    parse (write items) = items := by
  rw [parse, lines_write h, List.filterMap_map]
  calc items.filterMap (item? ∘ lineText)
      = items.filterMap some := List.filterMap_congr fun item hmem => (h item hmem).item?_lineText
    _ = items := List.filterMap_some

theorem extract_write {preamble body : Text} (items : Metadata)
    (hend : preamble = [] ∨ preamble.getLast? = some '\n') (hbom : preamble.head? ≠ some '\uFEFF')
    (hopen : ∀ line ∈ Text.rawLines preamble, isMarkedLine openingMark line = false)
    (hitems : ∀ item ∈ items, IsWritable item) :
    extract (preamble ++ ("// ==UserScript==\n".toList ++
      (write items ++ ("// ==/UserScript==\n".toList ++ body)))) = .ok (write items) := by
  have hopening : "// ==UserScript==\n".toList = "// ==UserScript==".toList ++ ['\n'] := by decide
  have hclosing : "// ==/UserScript==\n".toList = "// ==/UserScript==".toList ++ ['\n'] := by decide
  have hblock : ∀ line ∈ items.map fun item => lineText item ++ ['\n'],
      isMarkedLine closingMark line = false ∧ isBlockLine line = true := by
    intro line hline
    obtain ⟨item, -, rfl⟩ := List.mem_map.mp hline
    exact ⟨isMarkedLine_lineText rfl item ['\n'], isBlockLine_lineText item ['\n']⟩
  have hdrop : (preamble ++ ("// ==UserScript==\n".toList ++
      (write items ++ ("// ==/UserScript==\n".toList ++ body)))).head? ≠ some '\uFEFF' := by
    cases preamble with
    | nil =>
      intro hhead
      have hslash : some '/' = some '\uFEFF' := hhead
      exact absurd hslash (by decide)
    | cons c preamble => exact hbom
  rw [extract, dropByteOrderMark_of_head? hdrop, Text.rawLines_append hend, hopening, List.append_assoc,
    List.singleton_append, Text.rawLines_line (by decide), write,
    Text.rawLines_flatMap (fun item hmem => (hitems item hmem).feed_not_mem_lineText), hclosing,
    List.append_assoc, List.singleton_append, Text.rawLines_line (by decide),
    blockOf_append hopen (by decide), untilClosed_closed hblock (by decide), List.flatMap_def]

/-- Items that are written between the marked lines of a script are found there, and read back. -/
theorem extract_and_parse_write {items : Metadata} {preamble body : Text}
    (hitems : ∀ item ∈ items, IsWritable item)
    (hend : preamble = [] ∨ preamble.getLast? = some '\n') (hbom : preamble.head? ≠ some '\uFEFF')
    (hopen : ∀ line ∈ Text.rawLines preamble, isMarkedLine openingMark line = false) :
    extract (preamble ++ ("// ==UserScript==\n".toList ++
      (write items ++ ("// ==/UserScript==\n".toList ++ body)))) = .ok (write items) ∧
    parse (write items) = items :=
  ⟨extract_write items hend hbom hopen hitems, parse_write hitems⟩

/-- Tags and values that look like marked lines, comments, or other tags are found and read back. -/
theorem extract_and_parse_write_of_look_alikes :
    let items : Metadata := [("name".toList, .text "a // @b\rc".toList), ("@x".toList, .flag true),
      ("==UserScript==".toList, .text "// ==/UserScript==".toList)]
    let block := "// @name a // @b\rc\n// @@x\n// @==UserScript== // ==/UserScript==\n".toList
    extract ("#!/bin/sh\r\n// ==UserScript== x\n".toList ++ ("// ==UserScript==\n".toList ++
      (block ++ ("// ==/UserScript==\n".toList ++ "// @late\n".toList)))) = .ok block ∧
    parse block = items := by
  intro items block
  have hblock : block = write items := by decide
  rw [hblock]
  exact extract_and_parse_write (by decide) (.inr (by decide)) (by decide) (by decide)

end Userscript.Metadata
