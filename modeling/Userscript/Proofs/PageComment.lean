import Userscript.Injector
import Userscript.Proofs.MetadataBlock
import Userscript.Proofs.ParsedScript
import Mathlib.Data.List.Infix

/-!
# The comment that lists scripts

A page may get a comment that lists what has been injected. Its text never begins in a way that would end the comment
at once. A phrase that ends a comment occurs in it just when the name or the version of a listed script holds the
phrase, and nothing keeps such phrases out of these: every text that can stand behind a tag can be the name
of a script, and its version.
-/

namespace Userscript

namespace Script

open Metadata (Value)

lemma displayName_of_version {s : Script} {version : Text} (h : s.version = some version) :
    s.displayName = s.name ++ ' ' :: ([] ++ 'v' :: version) := by
  unfold displayName
  rw [h]
  exact List.append_assoc _ _ _

lemma displayName_of_no_version {s : Script} (h : s.version = none) : s.displayName = s.name := by
  unfold displayName
  rw [h]

lemma validate_name_and_version {name : Text} (hne : name ≠ []) (version : Text) :
    Directive.schema.validate [(Directive.name, .text name), (Directive.version, .text version)] =
      .ok [(Directive.name, .text name), (Directive.version, .text version),
        (Directive.runAt, .text RunAt.documentEnd.name), (Directive.noFrames, .flag false)] := by
  obtain ⟨c, name, rfl⟩ := List.exists_cons_of_ne_nil hne
  rfl

/-- Texts that can stand behind a tag are the name and the version of some script. -/
theorem exists_parse_of_name_and_version {name version : Text} (hname : (Value.text name).IsWritable)
    (hversion : (Value.text version).IsWritable) :
    ∃ source s, (parse source).value = .ok s ∧ s.name = name ∧ s.version = some version := by
  let items : Metadata := [(Directive.name, .text name), (Directive.version, .text version)]
  have htag {tag : Text} (h : (tag.all fun c => !Text.isBlank c) = true) : ∀ c ∈ tag, Text.isBlank c = false :=
    fun c hc => by simpa using List.all_eq_true.mp h c hc
  have hnameTag : Directive.name ≠ [] ∧ ∀ c ∈ Directive.name, Text.isBlank c = false :=
    ⟨by decide, htag (by decide)⟩
  have hversionTag : Directive.version ≠ [] ∧ ∀ c ∈ Directive.version, Text.isBlank c = false :=
    ⟨by decide, htag (by decide)⟩
  have hitems : ∀ item ∈ items, Metadata.IsWritable item := by
    intro item hitem
    rcases List.mem_pair.mp hitem with rfl | rfl
    · exact ⟨hnameTag.1, hnameTag.2, hname⟩
    · exact ⟨hversionTag.1, hversionTag.2, hversion⟩
  exact ⟨_, _, parse_sourceOf hitems (validate_name_and_version hname.1 version) [], rfl, rfl⟩

end Script

namespace Injection

/-- The phrases that end a comment wherever they occur in it. -/
def commentEnds : List Text := ["-->".toList, "--!>".toList]

/-- The phrases that end a comment which begins with them. -/
def emptyComments : List Text := [">".toList, "->".toList]

def commentHead : Text := "\n[".toList ++ About.name ++ " v".toList ++ About.version ++ [']']

def commentLines (injected : List Injection) : Text :=
  if injected.isEmpty then "No matching userscripts for this URL.".toList
  else "These scripts were inserted:".toList ++
    '\n' :: Text.join ['\n'] (injected.map fun i => "    •".toList ++ ' ' :: i.script.displayName)

lemma comment_eq (injected : List Injection) :
    comment injected = commentHead ++ '\n' :: (commentLines injected ++ '\n' :: []) := by
  have hhead : "\n[".toList ++ About.name ++ " v".toList ++ About.version ++ "]\n".toList =
      commentHead ++ ['\n'] := by decide
  have hinserted : "These scripts were inserted:\n".toList = "These scripts were inserted:".toList ++ ['\n'] := by
    decide
  have hitem : "    • ".toList = "    •".toList ++ [' '] := by decide
  unfold comment commentLines
  rw [hhead, hinserted, hitem]
  simp only [List.append_assoc, List.cons_append, List.nil_append]

section Phrases

variable {phrase : Text}

lemma not_infix_of_not_mem {t : Text} {c : Char} (hc : c ∈ phrase) (ht : c ∉ t) : ¬phrase <:+: t :=
  fun h => ht (h.subset hc)

lemma infix_displayName_iff (hblank : ' ' ∉ phrase) (hv : 'v' ∉ phrase) (hne : phrase ≠ []) (s : Script) :
    phrase <:+: s.displayName ↔
      phrase <:+: s.name ∨ ∃ version, s.version = some version ∧ phrase <:+: version := by
  cases hversion : s.version with
  | none => simp [Script.displayName_of_no_version hversion]
  | some version =>
    rw [Script.displayName_of_version hversion, Text.infix_append_cons_iff hblank,
      Text.infix_append_cons_iff hv, List.infix_nil]
    simp [hne]

/-- A phrase that ends at `>` and has none of the characters between the parts of the comment occurs in the comment
where the name or the version of a listed script holds it. -/
theorem infix_comment_iff (hend : '>' ∈ phrase) (hfeed : '\n' ∉ phrase) (hblank : ' ' ∉ phrase)
    (hv : 'v' ∉ phrase) (injected : List Injection) :
    phrase <:+: comment injected ↔ ∃ i ∈ injected,
      phrase <:+: i.script.name ∨ ∃ version, i.script.version = some version ∧ phrase <:+: version := by
  have hne : phrase ≠ [] := List.ne_nil_of_mem hend
  have hlines : phrase <:+: comment injected ↔ phrase <:+: commentLines injected := by
    have hhead : ¬phrase <:+: commentHead := not_infix_of_not_mem hend (by decide)
    rw [comment_eq, Text.infix_append_cons_iff hfeed, Text.infix_append_cons_iff hfeed, List.infix_nil]
    simp [hhead, hne]
  rw [hlines, commentLines]
  cases injected with
  | nil =>
    have hnone : ¬phrase <:+: "No matching userscripts for this URL.".toList :=
      not_infix_of_not_mem hend (by decide)
    rw [List.isEmpty_nil, if_pos rfl]
    exact iff_of_false hnone fun ⟨i, hi, _⟩ => List.not_mem_nil hi
  | cons i rest =>
    have hinserted : ¬phrase <:+: "These scripts were inserted:".toList :=
      not_infix_of_not_mem hend (by decide)
    have hbullet : ¬phrase <:+: "    •".toList := not_infix_of_not_mem hend (by decide)
    rw [List.isEmpty_cons, if_neg Bool.false_ne_true, Text.infix_append_cons_iff hfeed,
      or_iff_right hinserted, Text.infix_join_iff hfeed hne]
    simp only [List.mem_map, exists_exists_and_eq_and]
    refine exists_congr fun j => and_congr_right fun _ => ?_
    rw [Text.infix_append_cons_iff hblank, or_iff_right hbullet, infix_displayName_iff hblank hv hne]

end Phrases

/-- A text that stands in a comment as a whole: nothing in it ends the comment. -/
structure StaysInComment (t : Text) : Prop where
  start : ∀ phrase ∈ emptyComments, ¬phrase <+: t
  inside : ∀ phrase ∈ commentEnds, ¬phrase <:+: t

lemma not_prefix_comment {phrase : Text} (h : phrase ∈ emptyComments) (injected : List Injection) :
    ¬phrase <+: comment injected := by
  have hhead : (comment injected).head? = some '\n' := by
    rw [comment_eq]
    rfl
  rintro ⟨rest, hrest⟩
  rw [← hrest] at hhead
  rcases List.mem_pair.mp h with rfl | rfl
  · exact absurd (Option.some.inj hhead) (by decide)
  · exact absurd (Option.some.inj hhead) (by decide)

/-- The list of scripts stands in its comment as a whole just when no name and no version in it holds a phrase that
ends comments. Every text that can stand behind a tag is the name of some script, and its version. -/
theorem staysInComment_comment_iff (injected : List Injection) :
    (StaysInComment (comment injected) ↔ ∀ i ∈ injected, ∀ phrase ∈ commentEnds,
      ¬phrase <:+: i.script.name ∧ ∀ version, i.script.version = some version → ¬phrase <:+: version) ∧
      ∀ name version : Text, (Metadata.Value.text name).IsWritable → (Metadata.Value.text version).IsWritable →
        ∃ source s, (Script.parse source).value = .ok s ∧ s.name = name ∧ s.version = some version := by
  have hphrases : ∀ phrase ∈ commentEnds, '>' ∈ phrase ∧ '\n' ∉ phrase ∧ ' ' ∉ phrase ∧ 'v' ∉ phrase := by
    decide
  have hinside : ∀ phrase ∈ commentEnds, ¬phrase <:+: comment injected ↔ ∀ i ∈ injected,
      ¬phrase <:+: i.script.name ∧ ∀ version, i.script.version = some version → ¬phrase <:+: version := by
    intro phrase hphrase
    obtain ⟨hend, hfeed, hblank, hv⟩ := hphrases phrase hphrase
    simp [infix_comment_iff hend hfeed hblank hv]
  refine ⟨⟨fun h i hi phrase hphrase => (hinside phrase hphrase).mp (h.inside phrase hphrase) i hi,
    fun h => ⟨fun phrase hphrase => not_prefix_comment hphrase injected, fun phrase hphrase =>
      (hinside phrase hphrase).mpr fun i hi => h i hi phrase hphrase⟩⟩, ?_⟩
  exact fun name version => Script.exists_parse_of_name_and_version

/-- Parts of the phrases do no harm, and neither do the phrases with blanks in them. -/
theorem staysInComment_comment_of_arrows :
    ∃ source s, (Script.parse source).value = .ok s ∧ s.name = "<b> -> c".toList ∧
      s.version = some "--! >".toList ∧ StaysInComment (comment [⟨s, none⟩]) := by
  obtain ⟨-, hexists⟩ := staysInComment_comment_iff []
  obtain ⟨source, s, hs, hname, hversion⟩ :=
    hexists "<b> -> c".toList "--! >".toList (by decide) (by decide)
  refine ⟨source, s, hs, hname, hversion, (staysInComment_comment_iff _).1.mpr fun i hi phrase hphrase => ?_⟩
  rw [List.mem_singleton.mp hi, hname, hversion]
  have hfree : ∀ phrase ∈ commentEnds, ¬phrase <:+: "<b> -> c".toList ∧ ¬phrase <:+: "--! >".toList := by
    decide +kernel
  obtain ⟨hfreeName, hfreeVersion⟩ := hfree phrase hphrase
  exact ⟨hfreeName, fun version h => Option.some.inj h ▸ hfreeVersion⟩

/-- A script is accepted whose name and version end the comment. -/
theorem not_staysInComment_comment_of_arrows :
    ∃ s, (Script.parse ("// ==UserScript==\n// @name A --> • B\n".toList ++
        "// @version 1.0-->\n// ==/UserScript==\nrun();\n".toList)).value = .ok s ∧
      ¬StaysInComment (comment [⟨s, none⟩]) := by
  have hname : (Script.parse ("// ==UserScript==\n// @name A --> • B\n".toList ++
      "// @version 1.0-->\n// ==/UserScript==\nrun();\n".toList)).value.toOption.map Script.name =
      some "A --> • B".toList := by
    decide +kernel
  obtain ⟨s, hs, hname⟩ := exists_of_toOption_map hname
  refine ⟨s, hs, fun h => h.inside "-->".toList (by decide) ?_⟩
  have hheld : "-->".toList <:+: s.name := hname ▸ ⟨"A ".toList, " • B".toList, by decide⟩
  exact (infix_comment_iff (by decide) (by decide) (by decide) (by decide) _).mpr
    ⟨_, List.mem_singleton_self _, .inl hheld⟩

end Injection

end Userscript
