import Userscript.Proofs.ParsedScript
import Userscript.Proofs.QueryParameters

/-!
# Addresses marked with a version

The address from which a script can be had is marked with the version by text that is written behind it, as if the
address had neither a query nor a fragment. Without either of them the mark is the query. A fragment takes the mark
in, and the query stays as it is. A query takes it into its last part: behind an equals sign it becomes the end of a
value, and otherwise the end of a name that is lost by that.
-/

namespace Userscript

namespace Url

/-! ## Cleaned addresses -/

def isCounted (c : Char) : Bool := c != '\t' && c != '\n' && c != '\r'

def cleanEnd (t : Text) : Text := (t.reverse.dropWhile fun c => decide (c.toNat ≤ 0x20)).reverse.filter isCounted

lemma clean_append {front : Text} (hfirst : ∃ c ∈ front.head?, 0x20 < c.toNat)
    (hlast : ∃ c ∈ front.getLast?, 0x20 < c.toNat) (t : Text) :
    clean (front ++ t) = front.filter isCounted ++ cleanEnd t := by
  obtain ⟨first, hmem, hfirst⟩ := hfirst
  obtain ⟨last, hmem', hlast⟩ := hlast
  have hstart : (front ++ t).dropWhile (fun c => decide (c.toNat ≤ 0x20)) = front ++ t := by
    obtain ⟨rest, rfl⟩ : ∃ rest, front = first :: rest := List.head?_eq_some_iff.mp hmem
    rw [List.cons_append, List.dropWhile_cons_of_neg (by simpa using hfirst)]
  have hend : front.reverse.dropWhile (fun c => decide (c.toNat ≤ 0x20)) = front.reverse := by
    obtain ⟨rest, rfl⟩ : ∃ rest, front = rest ++ [last] := List.getLast?_eq_some_iff.mp hmem'
    rw [List.reverse_append, List.reverse_singleton, List.singleton_append,
      List.dropWhile_cons_of_neg (by simpa using hlast)]
  change (((front ++ t).dropWhile _).reverse.dropWhile _).reverse.filter isCounted = _
  rw [hstart, List.reverse_append, List.dropWhile_append, cleanEnd]
  split_ifs with h
  · have hnil : t.reverse.dropWhile (fun c => decide (c.toNat ≤ 0x20)) = [] := List.isEmpty_iff.mp h
    rw [hend, hnil, List.reverse_reverse]
    simp
  · rw [List.reverse_append, List.reverse_reverse, List.filter_append]

def IsGap (t : Text) : Prop := ∀ c ∈ t, c.toNat ≤ 0x20

lemma IsGap.not_mem {gap : Text} (h : IsGap gap) {c : Char} (hc : 0x20 < c.toNat) : c ∉ gap :=
  fun hmem => absurd (h c hmem) (Nat.not_le.mpr hc)

lemma exists_filter_eq_cleanEnd (t : Text) : ∃ gap, IsGap gap ∧ t.filter isCounted = cleanEnd t ++ gap := by
  let outer := (t.reverse.takeWhile fun c => decide (c.toNat ≤ 0x20)).reverse
  have ht : t = (t.reverse.dropWhile fun c => decide (c.toNat ≤ 0x20)).reverse ++ outer := by
    rw [← List.reverse_append, List.takeWhile_append_dropWhile, List.reverse_reverse]
  refine ⟨outer.filter isCounted, fun c hc => ?_, ?_⟩
  · have hmem := List.mem_reverse.mp (List.mem_of_mem_filter hc)
    simpa using List.mem_takeWhile_imp hmem
  · conv_lhs => rw [ht]
    exact List.filter_append _ _

lemma exists_of_isWebAddress {t : Text} (h : Directive.isWebAddress t = true) :
    ∃ front rest, (front = "http://".toList ∨ front = "https://".toList) ∧ t = front ++ rest := by
  simp only [Directive.isWebAddress, Bool.or_eq_true, Option.isSome_iff_exists] at h
  rcases h with ⟨rest, h⟩ | ⟨rest, h⟩
  · exact ⟨_, rest, .inl rfl, Text.after?_eq_some_iff.mp h⟩
  · exact ⟨_, rest, .inr rfl, Text.after?_eq_some_iff.mp h⟩

lemma clean_of_isWebAddress {t : Text} (h : Directive.isWebAddress t = true) :
    (∃ scheme rest, cutScheme? (clean t) = some (scheme, rest) ∧ SchemeKind.ofScheme scheme = .web) ∧
      ∃ gap, IsGap gap ∧ t.filter isCounted = clean t ++ gap := by
  obtain ⟨front, rest, hfront, rfl⟩ := exists_of_isWebAddress h
  obtain ⟨gap, hgap, hrest⟩ := exists_filter_eq_cleanEnd rest
  rcases hfront with rfl | rfl
  · rw [clean_append ⟨'h', rfl, by decide⟩ ⟨'/', rfl, by decide⟩]
    refine ⟨⟨"http".toList, '/' :: '/' :: cleanEnd rest, rfl, by decide⟩, gap, hgap, ?_⟩
    rw [List.filter_append, hrest, List.append_assoc]
  · rw [clean_append ⟨'h', rfl, by decide⟩ ⟨'/', rfl, by decide⟩]
    refine ⟨⟨"https".toList, '/' :: '/' :: cleanEnd rest, rfl, by decide⟩, gap, hgap, ?_⟩
    rw [List.filter_append, hrest, List.append_assoc]

/-! ## Parts that a mark leaves -/

/-- The parts of a query whose names stay when more text follows the query: all but a last one that has no equals
sign. -/
def settledParts (parts : List Text) : List Text :=
  parts.dropLast ++ parts.getLast?.toList.filter fun last => decide ('=' ∈ last)

lemma names_settledParts_iff {before : List Text} {last name : Text} :
    Names (settledParts (before ++ [last])) name ↔
      Names before name ∨ ('=' ∈ last ∧ partName last = name) := by
  rw [settledParts, List.dropLast_concat, List.getLast?_concat, names_append_iff]
  by_cases h : '=' ∈ last
  · have hne : last ≠ [] := List.ne_nil_of_mem h
    simp [Names, h, hne]
  · simp [Names, h]

lemma encodeQuery_cons {c : Char} (hc : c.toNat ≤ 0x20) (gap : Text) :
    encodeQuery (c :: gap) = percentByte (UInt8.ofNat c.toNat) ++ encodeQuery gap := by
  have hall : ∀ n ≤ 0x20, encodeQuery [Char.ofNat n] = percentByte (UInt8.ofNat n) := by decide
  have hfirst := hall c.toNat hc
  rw [Char.ofNat_toNat] at hfirst
  rw [← hfirst, ← encodeQuery_append, List.singleton_append]

lemma IsGap.not_mem_encodeQuery {gap : Text} (hgap : IsGap gap) :
    '&' ∉ encodeQuery gap ∧ '=' ∉ encodeQuery gap := by
  have hall : ∀ n ≤ 0x20, '&' ∉ percentByte (UInt8.ofNat n) ∧ '=' ∉ percentByte (UInt8.ofNat n) := by decide
  induction gap with
  | nil => exact ⟨List.not_mem_nil, List.not_mem_nil⟩
  | cons c gap ih =>
    obtain ⟨hc, hrest⟩ := List.forall_mem_cons.mp hgap
    obtain ⟨hand, hequals⟩ := hall c.toNat hc
    rw [encodeQuery_cons hc]
    exact ⟨List.not_mem_append hand (ih hrest).1, List.not_mem_append hequals (ih hrest).2⟩

lemma exists_decodeParameter_marked {gap : Text} (hgap : IsGap gap) (name : Text) :
    ∃ c rest, c ≠ 'v' ∧
      decodeParameter (name ++ (encodeQuery gap ++ "?v".toList)) = decodeParameter name ++ c :: rest := by
  cases gap with
  | nil =>
    exact ⟨'?', _, by decide, decodeParameter_append_cons (by decide) (by decide) (by decide) (by decide) _ _⟩
  | cons c gap =>
    have hc := hgap c List.mem_cons_self
    refine ⟨c, decodeParameter (encodeQuery gap ++ "?v".toList), ?_, ?_⟩
    · rintro rfl
      exact absurd hc (by decide)
    · rw [encodeQuery_cons hc, List.append_assoc, decodeParameter_append_percentByte hc]

/-! ## Marked queries -/

/-- The text that marks an address with a version. -/
def versionMark (version : Text) : Text := "?v=".toList ++ version

def markQuery (version : Text) : Text := (cutQuery .web (clean (versionMark version))).2.getD []

/-- The parts that the version adds behind an ampersand in it. -/
def addedParts (version : Text) : List Text := (Text.splitOn '&' (markQuery version)).tail

lemma clean_versionMark (version : Text) : clean (versionMark version) = "?v=".toList ++ cleanEnd version :=
  clean_append ⟨'?', rfl, by decide⟩ ⟨'=', rfl, by decide⟩ version

lemma takeWhile_clean_versionMark (version : Text) : ∃ t,
    (clean (versionMark version)).takeWhile (· != '#') = '?' :: ("v=".toList ++ t) ∧
      markQuery version = "v=".toList ++ encodeQuery t := by
  refine ⟨(cleanEnd version).takeWhile (· != '#'), ?_, ?_⟩
  · rw [clean_versionMark]
    rfl
  · rw [markQuery, clean_versionMark, cutQuery_web_snd]
    rfl

lemma exists_splitOn_markQuery (version : Text) :
    ∃ value, Text.splitOn '&' (markQuery version) = ("v=".toList ++ value) :: addedParts version := by
  obtain ⟨t, -, hquery⟩ := takeWhile_clean_versionMark version
  obtain ⟨value, rest, hrest⟩ := Text.exists_splitOn_eq_cons '&' (encodeQuery t)
  have hname : Text.splitOn '&' "v=".toList = [] ++ ["v=".toList] := rfl
  have hsplit : Text.splitOn '&' (markQuery version) = ("v=".toList ++ value) :: rest := by
    rw [hquery, Text.splitOn_append hname hrest, List.nil_append]
  exact ⟨value, by rw [addedParts, hsplit, List.tail_cons]⟩

/-- Behind a cleaned address the mark is cleaned on its own. What goes at the end of the address stays before it. -/
lemma exists_clean_marked {t : Text} (h : Directive.isWebAddress t = true) (version : Text) :
    ∃ gap, IsGap gap ∧ clean (t ++ versionMark version) = clean t ++ (gap ++ clean (versionMark version)) ∧
      ('#' ∈ clean t ↔ '#' ∈ t) := by
  obtain ⟨-, gap, hgap, hclean⟩ := clean_of_isWebAddress h
  refine ⟨gap, hgap, ?_, ?_⟩
  · have hfirst : ∃ c ∈ (t ++ "?v=".toList).head?, 0x20 < c.toNat := by
      obtain ⟨front, rest, hfront | hfront, rfl⟩ := exists_of_isWebAddress h
      · exact ⟨'h', by rw [hfront]; rfl, by decide⟩
      · exact ⟨'h', by rw [hfront]; rfl, by decide⟩
    have hlast : ∃ c ∈ (t ++ "?v=".toList).getLast?, 0x20 < c.toNat := ⟨'=', by simp, by decide⟩
    have hmark : "?v=".toList.filter isCounted = "?v=".toList := by decide
    rw [clean_versionMark, versionMark, ← List.append_assoc, clean_append hfirst hlast, List.filter_append, hclean,
      hmark]
    simp only [List.append_assoc]
  · have hcount : '#' ∈ t.filter isCounted ↔ '#' ∈ t := by
      rw [List.mem_filter]
      exact and_iff_left (by decide)
    rw [← hcount, hclean, List.mem_append]
    exact (or_iff_left (hgap.not_mem (by decide))).symm

section Marked

variable {t version : Text} {u u' : Url}

lemma isWebAddress_append (h : Directive.isWebAddress t = true) (more : Text) :
    Directive.isWebAddress (t ++ more) = true := by
  simp only [Directive.isWebAddress, Bool.or_eq_true, Text.isSome_after?_iff] at h ⊢
  exact h.imp (fun h => h.trans (List.prefix_append ..)) fun h => h.trans (List.prefix_append ..)

lemma query_of_isWebAddress (h : Directive.isWebAddress t = true) (hu : parse? t = some u) :
    u.query = (queryText? (clean t)).map encodeQuery := by
  obtain ⟨⟨scheme, rest, hcut, hkind⟩, -⟩ := clean_of_isWebAddress h
  exact query_of_parse? hcut hkind hu

lemma splitOn_marked {a last p m gap : Text} {before ps : List Text} (hgap : IsGap gap)
    (ha : Text.splitOn '&' a = before ++ [last]) (hm : Text.splitOn '&' m = p :: ps) :
    Text.splitOn '&' (a ++ (encodeQuery gap ++ '?' :: m)) =
      before ++ (last ++ (encodeQuery gap ++ '?' :: p)) :: ps := by
  have hgapParts : Text.splitOn '&' (encodeQuery gap) = [] ++ [encodeQuery gap] :=
    Text.splitOn_of_not_mem hgap.not_mem_encodeQuery.1
  have hmark : Text.splitOn '&' ('?' :: m) = ('?' :: p) :: ps := Text.splitOn_cons_of_ne (by decide) hm
  exact Text.splitOn_append ha (Text.splitOn_append hgapParts hmark)

/-- The names that matter are those of the settled parts and of the parts that the version adds: the part that takes
the mark in keeps its name behind an equals sign, and has neither the name of the version nor the old one without. -/
lemma names_marked_iff {before added : List Text} {last gap value name : Text}
    (hgap : IsGap gap) (hname : name = "v".toList ∨ Names (before ++ [last]) name) :
    Names (before ++ (last ++ (encodeQuery gap ++ "?v".toList) ++ '=' :: value) :: added) name ↔
      Names (settledParts (before ++ [last]) ++ added) name := by
  have hne : last ++ (encodeQuery gap ++ "?v".toList) ++ '=' :: value ≠ [] := by simp
  rw [names_append_iff, names_append_iff, names_cons_iff, names_settledParts_iff, or_assoc, and_iff_right hne]
  by_cases hequals : '=' ∈ last
  · have hpart : partName (last ++ (encodeQuery gap ++ "?v".toList) ++ '=' :: value) = partName last := by
      rw [List.append_assoc, partName_append hequals]
    rw [hpart, and_iff_right hequals]
  · obtain ⟨c, rest, hc, hdecoded⟩ := exists_decodeParameter_marked hgap last
    have hfree : '=' ∉ last ++ (encodeQuery gap ++ "?v".toList) :=
      List.not_mem_append hequals (List.not_mem_append hgap.not_mem_encodeQuery.2 (by decide))
    have hpart : partName (last ++ (encodeQuery gap ++ "?v".toList) ++ '=' :: value) =
        partName last ++ c :: rest := by
      rw [partName_append_cons hfree, hdecoded, partName_of_not_mem hequals]
    have hold : partName last ++ c :: rest = name → Names before name := by
      rintro rfl
      rcases hname with hversion | hnamed
      · have hmem : c ∈ "v".toList := hversion ▸ List.mem_append_right _ List.mem_cons_self
        exact absurd (List.mem_singleton.mp hmem) hc
      · rcases names_append_iff.mp hnamed with hbefore | ⟨part, hmem, -, hsame⟩
        · exact hbefore
        · rw [List.mem_singleton.mp hmem] at hsame
          simp at hsame
    rw [hpart]
    simp only [hequals, false_and, false_or]
    tauto

variable (h : Directive.isWebAddress t = true) (hu : parse? t = some u)
  (hu' : parse? (t ++ versionMark version) = some u')
include h hu'

lemma query_marked : ∃ gap, IsGap gap ∧
    u'.query = (queryText? (clean t ++ (gap ++ clean (versionMark version)))).map encodeQuery ∧
      ('#' ∈ clean t ↔ '#' ∈ t) := by
  obtain ⟨gap, hgap, hclean, hnumber⟩ := exists_clean_marked h version
  have hquery := query_of_isWebAddress (isWebAddress_append h _) hu'
  rw [hclean] at hquery
  exact ⟨gap, hgap, hquery, hnumber⟩

include hu

lemma hasParameter_marked_of_fragment (hnumber : '#' ∈ t) (name : Text) :
    u'.hasParameter name = true ↔ u.hasParameter name = true := by
  obtain ⟨gap, -, hquery, hsame⟩ := query_marked h hu'
  rw [queryText?_append_of_mem (hsame.mpr hnumber), ← query_of_isWebAddress h hu] at hquery
  rw [hasParameter_iff, hasParameter_iff, queryParts, queryParts, hquery]

lemma hasParameter_marked_of_plain (hnumber : '#' ∉ t) (hnone : u.query = none) :
    u'.hasParameter "v".toList = true ∧ ∀ name, ¬u.hasParameter name = true := by
  obtain ⟨gap, hgap, hquery, hsame⟩ := query_marked h hu'
  obtain ⟨value, hvalue⟩ := exists_splitOn_markQuery version
  have hgapPlain : ∀ c ∈ gap, c ≠ '?' ∧ c ≠ '#' := fun c hc =>
    ⟨ne_of_mem_of_not_mem hc (hgap.not_mem (by decide)), ne_of_mem_of_not_mem hc (hgap.not_mem (by decide))⟩
  have hnothing : queryText? (clean t) = none :=
    Option.map_eq_none_iff.mp ((query_of_isWebAddress h hu).symm.trans hnone)
  rw [queryText?_append_of_none (mt hsame.mp hnumber) hnothing, queryText?_append_of_plain hgapPlain,
    ← cutQuery_web_snd] at hquery
  have hparts : u'.queryParts = ("v=".toList ++ value) :: addedParts version := by
    rw [← hvalue, queryParts, hquery, markQuery]
  have hversion : partName ("v=".toList ++ value) = "v".toList :=
    partName_append_cons (a := "v".toList) (by decide) value
  refine ⟨?_, fun name hname => ?_⟩
  · rw [hasParameter_iff, hparts, names_cons_iff]
    exact .inl ⟨by simp, hversion⟩
  · rw [hasParameter_iff, queryParts, hnone] at hname
    exact not_names_empty name hname

lemma exists_queryParts_marked (hnumber : '#' ∉ t) (hsome : u.query ≠ none) :
    ∃ before last gap value, IsGap gap ∧ u.queryParts = before ++ [last] ∧
      u'.queryParts =
        before ++ (last ++ (encodeQuery gap ++ "?v".toList) ++ '=' :: value) :: addedParts version := by
  obtain ⟨gap, hgap, hquery', hsame⟩ := query_marked h hu'
  obtain ⟨shown, htext, hmark⟩ := takeWhile_clean_versionMark version
  obtain ⟨value, hvalue⟩ := exists_splitOn_markQuery version
  have hquery := query_of_isWebAddress h hu
  obtain ⟨q, hq⟩ : ∃ q, queryText? (clean t) = some q := by
    rw [hquery, Ne, Option.map_eq_none_iff] at hsome
    exact Option.ne_none_iff_exists'.mp hsome
  rw [hq, Option.map_some] at hquery
  have hbehind : (gap ++ clean (versionMark version)).takeWhile (· != '#') =
      gap ++ '?' :: ("v=".toList ++ shown) := by
    rw [Text.takeWhile_append_of_not_mem (hgap.not_mem (by decide)), htext]
  have hencoded : u'.query = some (encodeQuery q ++ (encodeQuery gap ++ '?' :: markQuery version)) := by
    rw [hquery', queryText?_append_of_some (mt hsame.mp hnumber) hq, hbehind, Option.map_some,
      encodeQuery_append, encodeQuery_append, hmark]
    rfl
  have hparts : u.queryParts ≠ [] := by
    obtain ⟨first, rest, heq⟩ := Text.exists_splitOn_eq_cons '&' (u.query.getD [])
    simp [queryParts, heq]
  obtain ⟨before, last, hlast⟩ := (List.eq_nil_or_concat _).resolve_left hparts
  rw [List.concat_eq_append] at hlast
  refine ⟨before, last, gap, value, hgap, hlast, ?_⟩
  rw [queryParts, hquery, Option.getD_some] at hlast
  rw [queryParts, hencoded, Option.getD_some, splitOn_marked hgap hlast hvalue]
  simp

lemma hasParameter_marked_of_query (hnumber : '#' ∉ t) (hsome : u.query ≠ none) {name : Text}
    (hname : name = "v".toList ∨ u.hasParameter name = true) :
    u'.hasParameter name = true ↔ Names (settledParts u.queryParts ++ addedParts version) name := by
  obtain ⟨before, last, gap, value, hgap, hparts, hparts'⟩ := exists_queryParts_marked h hu hu' hnumber hsome
  rw [hasParameter_iff, hparts] at hname
  rw [hasParameter_iff, hparts, hparts']
  exact names_marked_iff hgap hname

end Marked

end Url

namespace Script

open Url

lemma versionedDownloadUrl?_eq {s : Script} {version url : Text} (hversion : s.version = some version)
    (hurl : s.downloadUrl = some url) : s.versionedDownloadUrl? = some (url ++ versionMark version) := by
  rw [versionedDownloadUrl?, hurl, hversion]
  simp [versionMark]

/-- The marked address has a parameter for the version and keeps all parameters, just when, behind a fragment, the
address has one for the version itself, and, behind a query without a fragment, these names all stand in settled parts
of the query or in parts that the version adds. Without a query or a fragment it always does. -/
theorem hasParameter_versionedDownloadUrl_iff {source version url marked : Text} {s : Script} {u u' : Url}
    (hs : (parse source).value = .ok s) (hversion : s.version = some version) (hurl : s.downloadUrl = some url)
    (hmarked : s.versionedDownloadUrl? = some marked) (hu : Url.parse? url = some u)
    (hu' : Url.parse? marked = some u') :
    (u'.hasParameter "v".toList = true ∧ ∀ name, u.hasParameter name = true → u'.hasParameter name = true) ↔
      ('#' ∈ url → u.hasParameter "v".toList = true) ∧
      ('#' ∉ url → u.query ≠ none → ∀ name, name = "v".toList ∨ u.hasParameter name = true →
        Names (settledParts u.queryParts ++ addedParts version) name) := by
  rw [versionedDownloadUrl?_eq hversion hurl] at hmarked
  cases hmarked
  have hweb := isWebAddress_of_parse hs hurl
  by_cases hnumber : '#' ∈ url
  · have hsame := hasParameter_marked_of_fragment hweb hu hu' hnumber
    simp [hsame, hnumber]
  simp only [hnumber, false_implies, true_and, not_false_eq_true, true_implies]
  by_cases hnone : u.query = none
  · obtain ⟨hv, hnothing⟩ := hasParameter_marked_of_plain hweb hu hu' hnumber hnone
    exact iff_of_true ⟨hv, fun name hname => (hnothing name hname).elim⟩ fun hsome => absurd hnone hsome
  · have hmatter (name : Text) (hname : name = "v".toList ∨ u.hasParameter name = true) :=
      hasParameter_marked_of_query hweb hu hu' hnumber hnone hname
    constructor
    · rintro ⟨hv, hkept⟩ - name hname
      refine (hmatter name hname).mp ?_
      rcases hname with rfl | hname
      · exact hv
      · exact hkept name hname
    · intro hsettled
      exact ⟨(hmatter _ (.inl rfl)).mpr (hsettled hnone _ (.inl rfl)), fun name hname =>
        (hmatter name (.inr hname)).mpr (hsettled hnone name (.inr hname))⟩

/-- An ampersand in a version brings its parameter behind a query. -/
theorem hasParameter_versionedDownloadUrl_of_ampersand :
    ∃ s u u', (parse ("// ==UserScript==\n// @name A\n// @version 2&v=2\n".toList ++
        "// @downloadURL http://[::1]/u.js?x=1\n// ==/UserScript==\n".toList)).value = .ok s ∧
      s.versionedDownloadUrl? = some "http://[::1]/u.js?x=1?v=2&v=2".toList ∧
      Url.parse? "http://[::1]/u.js?x=1".toList = some u ∧
      Url.parse? "http://[::1]/u.js?x=1?v=2&v=2".toList = some u' ∧
      u'.hasParameter "v".toList = true ∧ ∀ name, u.hasParameter name = true → u'.hasParameter name = true := by
  have hread : (parse ("// ==UserScript==\n// @name A\n// @version 2&v=2\n".toList ++
      "// @downloadURL http://[::1]/u.js?x=1\n// ==/UserScript==\n".toList)).value.toOption.map
        (fun s => (s.version, s.downloadUrl)) =
      some (some "2&v=2".toList, some "http://[::1]/u.js?x=1".toList) := by
    decide +kernel
  obtain ⟨s, hs, hfields⟩ := exists_of_toOption_map hread
  obtain ⟨hversion, hurl⟩ := Prod.mk.inj hfields
  let u : Url := ⟨"http".toList, some (.ipv6 [0, 0, 0, 0, 0, 0, 0, 1]), none, "/u.js".toList, some "x=1".toList⟩
  let u' : Url := { u with query := some "x=1?v=2&v=2".toList }
  have hu : Url.parse? "http://[::1]/u.js?x=1".toList = some u := by decide +kernel
  have hu' : Url.parse? "http://[::1]/u.js?x=1?v=2&v=2".toList = some u' := by decide +kernel
  have hmarked : s.versionedDownloadUrl? = some "http://[::1]/u.js?x=1?v=2&v=2".toList :=
    versionedDownloadUrl?_eq hversion hurl
  have hparts : u.queryParts = ["x=1".toList] := by decide +kernel
  have hkept : settledParts u.queryParts ++ addedParts "2&v=2".toList = ["x=1".toList, "v=2".toList] := by
    decide +kernel
  have hiff := hasParameter_versionedDownloadUrl_iff hs hversion hurl hmarked hu hu'
  refine ⟨s, u, u', hs, hmarked, hu, hu', hiff.mpr ⟨by decide, fun _ _ name hname => ?_⟩⟩
  rw [hasParameter_iff, hparts] at hname
  rw [hkept]
  rcases hname with rfl | ⟨part, hmem, hpart⟩
  · exact ⟨"v=2".toList, by simp, by decide, by decide +kernel⟩
  · exact ⟨part, List.mem_cons.mpr (.inl (List.mem_singleton.mp hmem)), hpart⟩

/-- A name without a value at the end of an address is lost to the mark, and the version has no parameter. -/
theorem not_hasParameter_versionedDownloadUrl_of_query :
    ∃ s u u', (parse ("// ==UserScript==\n// @name A\n// @version 2\n".toList ++
        "// @downloadURL http://[::1]/u.js?x\n// ==/UserScript==\n".toList)).value = .ok s ∧
      s.version = some "2".toList ∧ s.downloadUrl = some "http://[::1]/u.js?x".toList ∧
      s.versionedDownloadUrl? = some "http://[::1]/u.js?x?v=2".toList ∧
      Url.parse? "http://[::1]/u.js?x".toList = some u ∧ Url.parse? "http://[::1]/u.js?x?v=2".toList = some u' ∧
      u'.hasParameter "v".toList = false ∧
      u.hasParameter "x".toList = true ∧ u'.hasParameter "x".toList = false := by
  have hread : (parse ("// ==UserScript==\n// @name A\n// @version 2\n".toList ++
      "// @downloadURL http://[::1]/u.js?x\n// ==/UserScript==\n".toList)).value.toOption.map
        (fun s => (s.version, s.downloadUrl)) =
      some (some "2".toList, some "http://[::1]/u.js?x".toList) := by
    decide +kernel
  obtain ⟨s, hs, hfields⟩ := exists_of_toOption_map hread
  obtain ⟨hversion, hurl⟩ := Prod.mk.inj hfields
  let u : Url := ⟨"http".toList, some (.ipv6 [0, 0, 0, 0, 0, 0, 0, 1]), none, "/u.js".toList, some "x".toList⟩
  let u' : Url := { u with query := some "x?v=2".toList }
  have hu : Url.parse? "http://[::1]/u.js?x".toList = some u := by decide +kernel
  have hu' : Url.parse? "http://[::1]/u.js?x?v=2".toList = some u' := by decide +kernel
  exact ⟨s, u, u', hs, hversion, hurl, versionedDownloadUrl?_eq hversion hurl, hu, hu', by decide +kernel,
    by decide +kernel, by decide +kernel⟩

end Script

end Userscript
