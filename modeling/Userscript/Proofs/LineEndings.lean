import Userscript.Proofs.MarkedBlocks
import Userscript.Proofs.SplitItems
import Userscript.Proofs.Validation

/-!
# Line ends and byte order marks

A carriage return before each line feed is a blank at the end of a line. Marked lines, blank lines and comments
are told apart by what is left when the blanks at the ends are gone, a refused line is reported without its end,
and so is a line with a tag read. So a script with such line ends has the same metadata, or fails in the same
way, and a byte order mark before it changes nothing.
-/

namespace Userscript

namespace Text

/-- The text with a carriage return before every line feed. -/
def withReturns (t : Text) : Text := replaceChar '\n' ['\r', '\n'] t

variable {t line body : Text}

lemma withReturns_cons (c : Char) (t : Text) :
    withReturns (c :: t) = (if c = '\n' then ['\r', '\n'] else [c]) ++ withReturns t := rfl

lemma withReturns_append (a b : Text) : withReturns (a ++ b) = withReturns a ++ withReturns b :=
  List.flatMap_append

lemma withReturns_of_not_mem (h : '\n' ∉ t) : withReturns t = t := by
  induction t with
  | nil => rfl
  | cons c t ih =>
    obtain ⟨hc, ht⟩ := List.ne_and_not_mem_of_not_mem_cons h
    rw [withReturns_cons, if_neg (Ne.symm hc), ih ht, List.singleton_append]

lemma withReturns_line (h : '\n' ∉ body) : withReturns (body ++ ['\n']) = body ++ ['\r', '\n'] := by
  rw [withReturns_append, withReturns_of_not_mem h]
  rfl

lemma withReturns_flatten (ls : List Text) : withReturns ls.flatten = (ls.map withReturns).flatten := by
  induction ls with
  | nil => rfl
  | cons l ls ih => rw [List.flatten_cons, withReturns_append, ih, List.map_cons, List.flatten_cons]

lemma AreLines.withReturns {ls : List Text} (h : AreLines ls) : AreLines (ls.map withReturns) := by
  induction h with
  | nil => exact .nil
  | last hne hfeed =>
    rw [List.map_singleton, withReturns_of_not_mem hfeed]
    exact .last hne hfeed
  | @cons line rest hfeed _ ih =>
    have hline : Text.withReturns (line ++ ['\n']) = (line ++ ['\r']) ++ ['\n'] := by
      rw [withReturns_line hfeed, List.append_assoc, List.singleton_append]
    rw [List.map_cons, hline]
    exact .cons (by simpa using hfeed) ih

theorem rawLines_withReturns (t : Text) : rawLines (withReturns t) = (rawLines t).map withReturns := by
  have hlines := linesOf_rawLines t
  rw [← linesOf_iff]
  refine ⟨?_, hlines.areLines.withReturns⟩
  rw [← withReturns_flatten, ← hlines.eq_flatten]

lemma trim_withReturns (h : IsLine line) : trim (withReturns line) = trim line := by
  rcases h with hfeed | ⟨body, hfeed, rfl⟩
  · rw [withReturns_of_not_mem hfeed]
  · rw [withReturns_line hfeed]
    have hreturn : ∀ c ∈ ['\r', '\n'], isBlank c = true := by simp; decide
    have hfeed : ∀ c ∈ ['\n'], isBlank c = true := List.forall_mem_singleton.mpr rfl
    rw [trim_append hreturn, trim_append hfeed]

lemma dropLineEnd_withReturns (h : IsLine line) : dropLineEnd (withReturns line) = dropLineEnd line := by
  rcases h with hfeed | ⟨body, hfeed, rfl⟩
  · rw [withReturns_of_not_mem hfeed]
  · rw [withReturns_line hfeed]
    simp [dropLineEnd]

lemma lineBody_withReturns (h : IsLine line) (hreturn : '\r' ∉ line) :
    lineBody (withReturns line) = lineBody line := by
  rcases h with hfeed | ⟨body, hfeed, rfl⟩
  · rw [withReturns_of_not_mem hfeed]
  · have hlast : body.getLast? ≠ some '\r' := fun hlast =>
      hreturn (List.mem_append_left _ (List.mem_of_getLast? hlast))
    rw [withReturns_line hfeed, lineBody_return, lineBody_feed hlast]

end Text

namespace Metadata

variable {source block line line' : Text} {ls : List Text}

lemma isMarkedLine_congr {mark : Text} (hmark : mark = openingMark ∨ mark = closingMark)
    (h : Text.trim line = Text.trim line') : isMarkedLine mark line = isMarkedLine mark line' := by
  rw [Bool.eq_iff_iff, isMarkedLine_iff hmark, isMarkedLine_iff hmark, IsMark, IsMark, h]

lemma isBlockLine_congr (h : Text.trim line = Text.trim line') : isBlockLine line = isBlockLine line' := by
  rw [Bool.eq_iff_iff, isBlockLine_iff, isBlockLine_iff, isAllowed_iff_trim, isAllowed_iff_trim, h]

lemma untilClosed_map_withReturns (h : ∀ l ∈ ls, Text.IsLine l) :
    untilClosed (ls.map Text.withReturns) = (untilClosed ls).map Text.withReturns := by
  induction ls with
  | nil => rfl
  | cons l ls ih =>
    obtain ⟨hl, hls⟩ := List.forall_mem_cons.mp h
    have htrim := Text.trim_withReturns hl
    rw [List.map_cons, untilClosed, untilClosed, isMarkedLine_congr (.inr rfl) htrim,
      isBlockLine_congr htrim, Text.dropLineEnd_withReturns hl, ih hls]
    split_ifs
    · rfl
    · cases untilClosed ls with
      | error e => rfl
      | ok block => simp [Except.map, Text.withReturns_append]
    · rfl

lemma blockOf_map_withReturns (h : ∀ l ∈ ls, Text.IsLine l) :
    blockOf (ls.map Text.withReturns) = (blockOf ls).map Text.withReturns := by
  induction ls with
  | nil => rfl
  | cons l ls ih =>
    obtain ⟨hl, hls⟩ := List.forall_mem_cons.mp h
    rw [List.map_cons, blockOf, blockOf, isMarkedLine_congr (.inl rfl) (Text.trim_withReturns hl)]
    split_ifs
    · exact untilClosed_map_withReturns hls
    · exact ih hls

/-- The block of a script with such line ends is the block with such line ends, and the failures are the same. -/
theorem blockOf_rawLines_withReturns (t : Text) :
    blockOf (Text.rawLines (Text.withReturns t)) = (blockOf (Text.rawLines t)).map Text.withReturns := by
  rw [Text.rawLines_withReturns]
  exact blockOf_map_withReturns fun _ => Text.isLine_of_mem_rawLines

lemma mem_of_mem_rawLines {t : Text} (h : line ∈ Text.rawLines t) {c : Char} (hc : c ∈ line) : c ∈ t := by
  rw [(Text.linesOf_rawLines t).eq_flatten]
  exact List.mem_flatten_of_mem h hc

theorem parse_withReturns (hreturn : '\r' ∉ block) : parse (Text.withReturns block) = parse block := by
  have hlines : Text.lines (Text.withReturns block) = Text.lines block := by
    rw [Text.lines, Text.lines, Text.rawLines_withReturns, List.map_map]
    apply List.map_congr_left
    intro l hl
    exact Text.lineBody_withReturns (Text.isLine_of_mem_rawLines hl)
      fun hmem => hreturn (mem_of_mem_rawLines hl hmem)
  rw [parse, parse, hlines]

lemma dropByteOrderMark_withReturns (h : source.head? ≠ some '\uFEFF') :
    dropByteOrderMark (Text.withReturns source) = Text.withReturns source := by
  apply dropByteOrderMark_of_head?
  cases source with
  | nil => exact h
  | cons c source =>
    rw [Text.withReturns_cons]
    split_ifs
    · intro hhead
      exact absurd (Option.some.inj hhead) (by decide)
    · exact h

lemma read_of_extract (schema : Schema) {source' : Text} (hreturn : '\r' ∉ source)
    (h : extract source' = (extract source).map Text.withReturns) :
    schema.read source' = schema.read source := by
  unfold Schema.read
  rw [h]
  cases hextract : extract source with
  | error e => rfl
  | ok block =>
    have hblock : parse (Text.withReturns block) = parse block :=
      parse_withReturns fun hmem => hreturn (mem_of_mem_extract hextract hmem)
    simp only [Except.map, bind, Except.bind, hblock]

/-- Carriage returns before the line feeds of a script, and a byte order mark before them, change neither its
metadata nor the failure that is reported. -/
theorem read_withReturns (schema : Schema) (hreturn : '\r' ∉ source)
    (hmark : source.head? ≠ some '\uFEFF') :
    schema.read (Text.withReturns source) = schema.read source ∧
    schema.read ('\uFEFF' :: Text.withReturns source) = schema.read source := by
  have hbare : extract (Text.withReturns source) = (extract source).map Text.withReturns := by
    rw [extract, extract, dropByteOrderMark_withReturns hmark, dropByteOrderMark_of_head? hmark,
      blockOf_rawLines_withReturns]
  have hmarked : extract ('\uFEFF' :: Text.withReturns source) = extract (Text.withReturns source) := by
    rw [extract, extract, dropByteOrderMark_withReturns hmark]
    rfl
  exact ⟨read_of_extract schema hreturn hbare, read_of_extract schema hreturn (hmarked.trans hbare)⟩

/-- A script with a value, a blank line, and a flag, and one with a refused line. -/
theorem read_withReturns_of_blank_line :
    let source := "// ==UserScript==\n// @name A\n\n// @noframes\n// ==/UserScript==\nrun();".toList
    let refused := "// ==UserScript==\nrun();\n// ==/UserScript==\n".toList
    ('\r' ∉ source ∧ source.head? ≠ some '\uFEFF') ∧
    Schema.read [] ("\uFEFF// ==UserScript==\r\n// @name A\r\n\r\n".toList ++
      "// @noframes\r\n// ==/UserScript==\r\nrun();".toList) =
        .ok [("name".toList, .text "A".toList), ("noframes".toList, .flag true)] ∧
    ('\r' ∉ refused ∧ refused.head? ≠ some '\uFEFF') ∧
    Schema.read [] "// ==UserScript==\r\nrun();\r\n// ==/UserScript==\r\n".toList =
      .error (.invalidLine "run();".toList) := by
  intro source refused
  have hsource : '\r' ∉ source ∧ source.head? ≠ some '\uFEFF' := by decide
  have hrefused : '\r' ∉ refused ∧ refused.head? ≠ some '\uFEFF' := by decide
  have hreturns : "\uFEFF// ==UserScript==\r\n// @name A\r\n\r\n".toList ++
      "// @noframes\r\n// ==/UserScript==\r\nrun();".toList = '\uFEFF' :: Text.withReturns source := by
    decide +kernel
  have hreturns' : "// ==UserScript==\r\nrun();\r\n// ==/UserScript==\r\n".toList =
      Text.withReturns refused := by
    decide +kernel
  have hitems : parse "// @name A\n\n// @noframes\n".toList =
      [("name".toList, .text "A".toList), ("noframes".toList, .flag true)] := by
    rw [parse_eq_filterMap_splitItem?]
    decide
  have hextract : extract source = .ok "// @name A\n\n// @noframes\n".toList := by decide +kernel
  have hread : Schema.read [] source =
      .ok [("name".toList, .text "A".toList), ("noframes".toList, .flag true)] := by
    rw [Schema.read, hextract]
    exact congrArg (Schema.validate []) hitems
  have hextract' : extract refused = .error (.invalidLine "run();".toList) := by decide +kernel
  have hread' : Schema.read [] refused = .error (.invalidLine "run();".toList) := by
    rw [Schema.read, hextract']
    rfl
  rw [hreturns, hreturns']
  exact ⟨hsource, (read_withReturns [] hsource.1 hsource.2).2.trans hread, hrefused,
    (read_withReturns [] hrefused.1 hrefused.2).1.trans hread'⟩

end Metadata

end Userscript
