import Userscript.Proofs.MetadataBlock
import Userscript.Proofs.SearchSoundness
import Userscript.Proofs.SpannedTexts

/-!
# Lines with a tag, split from left to right

The expression for lines with a tag has three runs of blanks and two parts that may be left out, yet it leaves
no choice: on one line it reads what a splitter reads that goes over the line once and never back. So a tag
holds no blank, and a value has none at its ends.
-/

namespace Userscript.Metadata

open Regex

/-- Splits a line with a tag. Blanks before the comment mark and behind it are skipped, and an `@` has to follow;
the tag goes up to the next blank, and what is left behind it is its value. -/
def splitItem? (line : Text) : Option Item := do
  let comment ← Text.after? commentMark (Text.trimStart line)
  let named ← Text.after? ['@'] (Text.trimStart comment)
  let tag := named.takeWhile fun c => !Text.isBlank c
  if tag = [] then none
  else some (tag, valueBehind (named.dropWhile fun c => !Text.isBlank c))

variable {line tag tail block : Text}

lemma splitItem?_of_carriesTag (h : CarriesTag line tag tail) :
    splitItem? line = some (tag, valueBehind tail) := by
  obtain ⟨indent, gap, hindent, hgap, rfl⟩ := h.eq_front_append
  have hcomment : Text.after? commentMark (Text.trimStart (front indent gap ++ (tag ++ tail))) =
      some (gap ++ '@' :: (tag ++ tail)) := by
    have hstart : front indent gap ++ (tag ++ tail) =
        indent ++ (commentMark ++ (gap ++ '@' :: (tag ++ tail))) := by simp [front]
    rw [hstart, Text.trimStart_append hindent, Text.after?_eq_some_iff]
    exact Text.trimStart_of_head? (by simp [commentMark]; decide)
  have hnamed : Text.after? ['@'] (Text.trimStart (gap ++ '@' :: (tag ++ tail))) =
      some (tag ++ tail) := by
    rw [Text.trimStart_append hgap, Text.after?_eq_some_iff]
    exact Text.trimStart_of_head? (by simp; decide)
  have htag : ∀ c ∈ tag, (!Text.isBlank c) = true := by
    intro c hc
    rw [h.tag_blank c hc]
    rfl
  have hstop : tail.takeWhile (fun c => !Text.isBlank c) = [] ∧
      tail.dropWhile (fun c => !Text.isBlank c) = tail := by
    cases tail with
    | nil => exact ⟨rfl, rfl⟩
    | cons c tail =>
      have hc : Text.isBlank c = true := h.tail_blank c rfl
      exact ⟨List.takeWhile_cons_of_neg (by simp [hc]), List.dropWhile_cons_of_neg (by simp [hc])⟩
  have htake : (tag ++ tail).takeWhile (fun c => !Text.isBlank c) = tag := by
    rw [List.takeWhile_append_of_pos htag, hstop.1, List.append_nil]
  have hdrop : (tag ++ tail).dropWhile (fun c => !Text.isBlank c) = tail := by
    rw [List.dropWhile_append_of_pos htag, hstop.2]
  simp only [splitItem?, hcomment, hnamed, Option.bind_eq_bind, Option.bind_some, htake, hdrop,
    if_neg h.tag_ne_nil]

lemma exists_carriesTag_of_splitItem? {item : Item} (h : splitItem? line = some item) :
    ∃ tag tail, CarriesTag line tag tail := by
  obtain ⟨comment, hcomment, h⟩ := Option.bind_eq_some_iff.mp h
  obtain ⟨named, hnamed, h⟩ := Option.bind_eq_some_iff.mp h
  obtain ⟨indent, hindent, hline⟩ := Text.exists_eq_append_trimStart line
  obtain ⟨gap, hgap, hrest⟩ := Text.exists_eq_append_trimStart comment
  rw [Text.after?_eq_some_iff] at hcomment hnamed
  refine ⟨named.takeWhile fun c => !Text.isBlank c, named.dropWhile fun c => !Text.isBlank c,
    ⟨indent, gap, hindent, hgap, ?_⟩, ?_, ?_, ?_⟩
  · rw [List.takeWhile_append_dropWhile, hline, hcomment, hrest, hnamed]
    simp [front]
  · intro hnil
    simp [hnil] at h
  · intro c hc
    simpa using List.mem_takeWhile_imp hc
  · intro c hc
    have hfirst := List.head?_dropWhile_not (fun c => !Text.isBlank c) named
    rw [hc] at hfirst
    simpa using hfirst

def innerParts : List Regex := [
  rep 0 none true (chars .blank), chars (.single '/'), chars (.single '/'),
  rep 0 none true (chars .blank), chars (.single '@'), tagPart, valuePart]

lemma lineRegex_eq_fromStartToEnd : lineRegex = fromStartToEnd innerParts := lineRegex_eq

lemma isSound_lineRegex : lineRegex.IsSound := by
  have hrun : ∀ (min : Nat) (set : CharSet), (rep min none true (chars set)).IsSound := fun _ set =>
    (isSound_chars set).rep (by simp) true
  have hvalue : valuePart.IsSound :=
    ((hrun 1 _).cat ((((isSound_chars _).cat (hrun 0 _)).capture _).rep (by simp) true)).rep (by simp) true
  rw [lineRegex_eq]
  exact (isSound_look _).cat ((hrun 0 _).cat ((isSound_chars _).cat ((isSound_chars _).cat
    ((hrun 0 _).cat ((isSound_chars _).cat (((hrun 1 _).capture _).cat (hvalue.cat (isSound_look _))))))))

lemma takes_blanks (min : Nat) :
    (rep min none true (chars .blank)).Takes fun t => min ≤ t.length ∧ ∀ c ∈ t, Text.isBlank c = true :=
  takes_run min true .blank

lemma takes_single (d : Char) : (chars (.single d)).Takes (· = [d]) :=
  (takes_chars _).congr fun t => by simp

lemma takes_tagPart : tagPart.Takes fun t => t ≠ [] ∧ ∀ c ∈ t, Text.isBlank c = false :=
  ((takes_run 1 true _).capture _).congr fun t => by
    simp [Nat.succ_le_iff, List.length_pos_iff]

lemma exists_takes_valuePart :
    ∃ texts, valuePart.Takes texts ∧ ∀ t, texts t → ∀ c ∈ t.head?, Text.isBlank c = true := by
  have hinner := (((takes_chars (.compl .blank)).cat
    (takes_run 0 true (.compl (.single '\n')))).capture (some "value".toList)).optional true
  refine ⟨_, ((takes_blanks 1).cat hinner).optional true, ?_⟩
  rintro t (rfl | ⟨lead, value, rfl, ⟨hlength, hlead⟩, -⟩) c hc
  · cases hc
  · obtain ⟨d, lead, rfl⟩ := List.exists_cons_of_length_pos hlength
    obtain rfl : d = c := Option.some.inj hc
    exact hlead d List.mem_cons_self

lemma exists_carriesTag_of_isMatch (h : lineRegex.isMatch line = true) :
    ∃ tag tail, CarriesTag line tag tail := by
  obtain ⟨texts, hvalue, hbehind⟩ := exists_takes_valuePart
  have hnone : (catAll []).Takes (· = []) := takes_empty
  have hinner : (catAll innerParts).Takes _ := (takes_blanks 0).catAll_cons ((takes_single '/').catAll_cons
    ((takes_single '/').catAll_cons ((takes_blanks 0).catAll_cons ((takes_single '@').catAll_cons
      (takes_tagPart.catAll_cons (hvalue.catAll_cons hnone))))))
  rw [lineRegex_eq_fromStartToEnd, isMatch_fromStartToEnd_iff hinner] at h
  obtain ⟨indent, _, rfl, ⟨-, hindent⟩, _, _, rfl, rfl, _, _, rfl, rfl, gap, _, rfl, ⟨-, hgap⟩, _, _, rfl, rfl,
    tag, _, rfl, ⟨hne, htag⟩, tail, _, rfl, htail, rfl⟩ := h
  refine ⟨tag, tail, ⟨indent, gap, hindent, hgap, ?_⟩, hne, htag, hbehind tail htail⟩
  simp [front, commentMark]

/-- On one line the expression reads what the splitter reads. -/
theorem item?_eq_splitItem? (hfeed : '\n' ∉ line) : item? line = splitItem? line := by
  by_cases hcarries : ∃ tag tail, CarriesTag line tag tail
  · obtain ⟨tag, tail, hline⟩ := hcarries
    have htail : '\n' ∉ tail := by
      obtain ⟨indent, gap, -, -, rfl⟩ := hline.eq_front_append
      exact fun hmem => hfeed (by simp [hmem])
    rw [item?_of_carriesTag hline htail, splitItem?_of_carriesTag hline]
  · have hitem : item? line = none := by
      cases hgroups : lineRegex.captures? line with
      | none => simp [item?, hgroups]
      | some groups =>
        exact absurd (exists_carriesTag_of_isMatch (isMatch_of_captures? isSound_lineRegex hgroups)) hcarries
    have hsplit : splitItem? line = none := by
      cases hsplit : splitItem? line with
      | none => rfl
      | some item => exact absurd (exists_carriesTag_of_splitItem? hsplit) hcarries
    rw [hitem, hsplit]

theorem parse_eq_filterMap_splitItem? (block : Text) :
    parse block = (Text.lines block).filterMap splitItem? :=
  List.filterMap_congr fun _ hline => item?_eq_splitItem? (Text.feed_not_mem_of_mem_lines hline)

lemma isWritable_valueBehind (hfeed : '\n' ∉ tail) : (valueBehind tail).IsWritable := by
  unfold valueBehind
  split_ifs with hnil
  · rfl
  · refine ⟨hnil, fun hmem => hfeed ?_, Text.head?_trim tail, Text.getLast?_trim tail⟩
    obtain ⟨lead, trail, -, -, htail⟩ := Text.exists_eq_append_trim tail
    rw [htail]
    exact List.mem_append_right _ (List.mem_append_left _ hmem)

theorem isWritable_of_mem_parse {item : Item} (h : item ∈ parse block) : IsWritable item := by
  rw [parse_eq_filterMap_splitItem?] at h
  obtain ⟨line, hline, hsplit⟩ := List.mem_filterMap.mp h
  obtain ⟨tag, tail, hcarries⟩ := exists_carriesTag_of_splitItem? hsplit
  rw [splitItem?_of_carriesTag hcarries] at hsplit
  obtain rfl := Option.some.inj hsplit
  refine ⟨hcarries.tag_ne_nil, hcarries.tag_blank, isWritable_valueBehind fun hmem => ?_⟩
  obtain ⟨indent, gap, -, -, rfl⟩ := hcarries.eq_front_append
  exact Text.feed_not_mem_of_mem_lines hline (by simp [hmem])

/-- What is read from a block is read again when it is written. -/
theorem parse_write_parse (block : Text) : parse (write (parse block)) = parse block :=
  parse_write fun _ => isWritable_of_mem_parse

/-- A line is read as the splitter splits it, and a block as its lines are split one after another. No tag of it is
empty or holds a blank, and no text of it is empty or has a blank at an end. -/
theorem item?_and_parse_split :
    (∀ line, '\n' ∉ line → item? line = splitItem? line) ∧
    ∀ block, parse block = (Text.lines block).filterMap splitItem? ∧
      ∀ tag value, (tag, value) ∈ parse block →
        tag ≠ [] ∧ (∀ c ∈ tag, Text.isBlank c = false) ∧
        ∀ t, value = .text t → t ≠ [] ∧ (∀ c ∈ t.head?, Text.isBlank c = false) ∧
          ∀ c ∈ t.getLast?, Text.isBlank c = false := by
  refine ⟨fun line => item?_eq_splitItem?, fun block => ⟨parse_eq_filterMap_splitItem? block, ?_⟩⟩
  intro tag value hmem
  have hitem := isWritable_of_mem_parse hmem
  refine ⟨hitem.tag_ne_nil, hitem.tag_blank, ?_⟩
  rintro t rfl
  obtain ⟨hne, -, hhead, hlast⟩ := hitem.value
  exact ⟨hne, hhead, hlast⟩

/-- A tag with an `@` and slashes in it, blanks of many kinds, and carriage returns that end no line. -/
theorem item?_and_parse_split_of_blanks :
    let line := "\u3000//\t @@a/b\r \u0085 x // @y\r".toList
    let block := "alert(1)\n//@ none\n\u3000//\t @@a/b\r \u0085 x // @y\r\r\n// @flag \r".toList
    '\n' ∉ line ∧ item? line = some ("@a/b".toList, .text "x // @y".toList) ∧
    parse block = [("@a/b".toList, .text "x // @y".toList), ("flag".toList, .flag true)] ∧
    ("@a/b".toList, Value.text "x // @y".toList) ∈ parse block ∧
    ∀ c ∈ "@a/b".toList, Text.isBlank c = false := by
  intro line block
  have hsplit : splitItem? line = some ("@a/b".toList, .text "x // @y".toList) := by decide
  have hfeed : '\n' ∉ line := by decide
  obtain ⟨hparse, htags⟩ := item?_and_parse_split.2 block
  have hitems : parse block = [("@a/b".toList, .text "x // @y".toList), ("flag".toList, .flag true)] :=
    hparse.trans (by decide)
  have hmem : ("@a/b".toList, Value.text "x // @y".toList) ∈ parse block := by
    rw [hitems]
    exact List.mem_cons_self
  exact ⟨hfeed, (item?_and_parse_split.1 line hfeed).trans hsplit, hitems, hmem, (htags _ _ hmem).2.1⟩

end Userscript.Metadata
