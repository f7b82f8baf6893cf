import Userscript.Proofs.GlobMatching
import Userscript.Proofs.PatternForms
import Userscript.Proofs.WebAddresses

/-!
# Patterns written from addresses

The scheme, the host, the path and the query of a web address make a match pattern. The address matches it,
whatever port it has, unless its host is an address of version 6: the colons in that are taken for one before a
port, so the pattern is compared with host and port and matches nothing.
-/

namespace Userscript

namespace Glob

lemma fills_self (t : Text) : Fills t t := by
  induction t with
  | nil => exact .nil
  | cons c t ih =>
    by_cases hc : c = '*'
    · subst hc
      exact .star ['*'] ih
    · exact .literal hc ih

lemma isMatch_self (t : Text) : isMatch t t = true := by
  obtain ⟨first, literals, hsplit⟩ := Text.exists_splitOn_eq_cons '*' t
  rw [isMatch_eq_true_iff hsplit, ← fills_iff_leadTo hsplit]
  exact fills_self t

end Glob

namespace Url

/-- The pattern that is written from an address with a host, without its port. -/
def patternText (u : Url) (host : Host) : Text :=
  u.scheme ++ ("://".toList ++ (host.text ++ u.pathAndQuery))

lemma lower_text_of_isPlain {host : Host} (h : host.IsPlain) : Text.lower host.text = host.text :=
  (List.map_congr_left fun c hc => (h.2 c hc).lowerChar_eq).trans (List.map_id host.text)

/-- A plain host is compared as it stands. A host of version 6 is compared with a port behind it. -/
lemma compared_text_iff {host : Host} {name : Text} (h : webHost? name = some host) (u : Url) :
    HostForm.compared host.text u host.text = Text.lower host.text ↔ ¬host.IsIpv6 := by
  unfold HostForm.compared
  rcases webHost?_cases h with ⟨hplain, hversion⟩ | ⟨pieces, rfl, hlength⟩
  · rw [if_neg fun hcolon => (hplain.2 ':' hcolon).ne_colon rfl]
    exact iff_of_true (lower_text_of_isPlain hplain).symm hversion
  · rw [if_pos (mem_text_ipv6 hlength).2]
    refine iff_of_false (fun heq => ?_) fun hversion => hversion ⟨pieces, rfl⟩
    have hlengths := congrArg List.length heq
    simp only [List.length_append, List.length_cons, Text.lower, List.length_map] at hlengths
    omega

lemma slash_not_mem_text {host : Host} {name : Text} (h : webHost? name = some host) : '/' ∉ host.text := by
  rcases webHost?_cases h with ⟨hplain, -⟩ | ⟨pieces, rfl, hlength⟩
  · exact fun hslash => (hplain.2 '/' hslash).ne_slash rfl
  · exact (mem_text_ipv6 hlength).1

lemma text_ne_nil {host : Host} {name : Text} (h : webHost? name = some host) : host.text ≠ [] := by
  rcases webHost?_cases h with ⟨hplain, -⟩ | ⟨pieces, rfl, -⟩
  · exact hplain.1
  · exact List.cons_ne_nil _ _

lemma exists_pathAndQuery_eq {u : Url} {rest : Text} (h : u.path = '/' :: rest) :
    ∃ rest', u.pathAndQuery = '/' :: rest' := by
  unfold pathAndQuery
  rw [h]
  cases u.query with
  | none => exact ⟨rest, rfl⟩
  | some q => exact ⟨rest ++ '?' :: q, rfl⟩

lemma exists_schemePattern {u : Url} (h : u.scheme = "http".toList ∨ u.scheme = "https".toList) :
    ∃ s : SchemePattern, s.text = u.scheme ∧ u.scheme ∈ s.schemes := by
  rcases h with h | h
  · exact ⟨.http, h.symm, by simp [SchemePattern.schemes, h]⟩
  · exact ⟨.https, h.symm, by simp [SchemePattern.schemes, h]⟩

lemma exists_form_patternText {u : Url} (hscheme : u.scheme = "http".toList ∨ u.scheme = "https".toList)
    {host : Host} {name rest : Text} (hread : webHost? name = some host) (hhost : u.host = some host)
    (hstar : '*' ∉ host.text) (hpath : u.path = '/' :: rest) :
    ∃ f : MatchPattern.Form, f.text = u.patternText host ∧
      (f.Admits u ↔ HostForm.compared host.text u host.text = Text.lower host.text) := by
  obtain ⟨rest', hrest⟩ := exists_pathAndQuery_eq hpath
  obtain ⟨s, hs, hpass⟩ := exists_schemePattern hscheme
  have hhostText : u.hostText? = some host.text := by rw [hostText?, hhost, Option.map_some]
  refine ⟨⟨s, .based 0 host.text (text_ne_nil hread) hstar (slash_not_mem_text hread), rest'⟩, ?_, ?_⟩
  · rw [patternText, hrest, ← hs]
    rfl
  · have hglob : Glob.isMatch ('/' :: rest') u.pathAndQuery = true := hrest ▸ Glob.isMatch_self _
    simp [MatchPattern.Form.Admits, MatchPattern.Form.path, HostForm.Admits, hpass, hglob, hhostText]

/-- A web address has a host. When there is no star in that, the pattern written from the address can be read,
and the address matches it just when the host is no address of version 6. -/
theorem isMatch_patternText_iff {t : Text} {u : Url} (h : parse? t = some u)
    (hscheme : u.scheme = "http".toList ∨ u.scheme = "https".toList) :
    ∃ host, u.host = some host ∧ ('*' ∉ host.text →
      ∃ p, MatchPattern.parse? (u.patternText host) = some p ∧ (p.isMatch t = true ↔ ¬host.IsIpv6)) := by
  obtain ⟨⟨name, host, hread, hhost⟩, path, hpath⟩ := exists_of_parse?_web h hscheme
  refine ⟨host, hhost, fun hstar => ?_⟩
  obtain ⟨f, htext, hadmits⟩ := exists_form_patternText hscheme hread hhost hstar hpath
  rw [← htext]
  refine ⟨_, MatchPattern.parse?_text f, ?_⟩
  rw [MatchPattern.isMatch_iff_admits f.text f t, h, ← compared_text_iff hread u, ← hadmits]
  simp only [Option.some.injEq, exists_eq_left']

/-- A user, a port and a fragment do not count, and stars in path and query do no harm. -/
theorem isMatch_patternText_of_port : ∃ p, MatchPattern.parse? "http://a.test/*?q=*".toList = some p ∧
    p.isMatch "http://me@a.test:81/*?q=*#f".toList = true := by
  have hdecoded : Text.decodeUtf8 (percentDecode "a.test".toList) = "a.test".toList := by decide +kernel
  have hlabels : (Text.splitOn '.' "a.test".toList).mapM Idna.meant? = some ["a".toList, "test".toList] := by
    decide +kernel
  have hname : Idna.toAscii? "a.test".toList = some "a.test".toList :=
    Idna.toAscii?_of_isAscii (by decide +kernel) (by decide +kernel) hlabels (by decide +kernel)
  have hdomain : webHost? "a.test".toList = some (.domain "a.test".toList) :=
    webHost?_of_name (by decide) (by rw [hdecoded]; exact hname) (by decide) (by decide +kernel)
  have hhost : host? .web "a.test".toList = some (some (.domain "a.test".toList)) := by
    simp only [host?, hdomain, Option.map_some]
  have huser : cutUser "me@a.test:81".toList = (some "me".toList, "a.test:81".toList) := by decide +kernel
  have hport : cutPort false "a.test:81".toList = ("a.test".toList, some "81".toList) := by decide +kernel
  have hauthority : authority? .web "http".toList "me@a.test:81".toList false =
      some (some (.domain "a.test".toList), some 81, []) := by
    rw [authority?, huser]
    dsimp only
    rw [hport]
    dsimp only
    rw [hhost]
    decide +kernel
  have hscheme : cutScheme? (clean "http://me@a.test:81/*?q=*#f".toList) =
      some ("http".toList, "//me@a.test:81/*?q=*#f".toList) := by decide +kernel
  have hcut : cutAuthority .web ("//me@a.test:81/*?q=*#f".toList.dropWhile (isSlash .web)) =
      ("me@a.test:81".toList, "/*?q=*#f".toList) := by decide +kernel
  have hbehind : "/*?q=*#f".toList.isEmpty = false := by decide
  have hparse : parse? "http://me@a.test:81/*?q=*#f".toList =
      some ⟨"http".toList, some (.domain "a.test".toList), some 81, "/*".toList, some "q=*".toList⟩ := by
    rw [parse?_of_cutScheme? hscheme (by decide), withAuthority, hcut]
    dsimp only
    rw [hbehind, hauthority]
    decide +kernel
  obtain ⟨host, hsome, hwritten⟩ := isMatch_patternText_iff hparse (Or.inl rfl)
  cases hsome
  obtain ⟨p, hp, hmatch⟩ := hwritten (by decide)
  exact ⟨p, hp, hmatch.mpr fun ⟨_, heq⟩ => by cases heq⟩

/-- The pattern written from an address of version 6 can be read, and the address does not match it. -/
theorem not_isMatch_patternText_of_ipv6 : ∃ u host p, parse? "http://[::1]/".toList = some u ∧
    u.scheme = "http".toList ∧ u.host = some host ∧ '*' ∉ host.text ∧
    MatchPattern.parse? (u.patternText host) = some p ∧ p.isMatch "http://[::1]/".toList = false :=
  ⟨⟨"http".toList, some (.ipv6 [0, 0, 0, 0, 0, 0, 0, 1]), none, ['/'], none⟩,
    .ipv6 [0, 0, 0, 0, 0, 0, 0, 1],
    ⟨"http://[::1]/".toList, .http, .exact "[::1]".toList, ['/']⟩,
    by decide +kernel, rfl, rfl, by decide +kernel, by decide +kernel, by decide +kernel⟩

end Url

end Userscript
