import Userscript.Proofs.PolicyHeader

/-!
# Policies that are extended in passes

The header of a page can be rewritten more than once, and every pass reads what the pass before has written. As
long as sources are added that stand as tokens in a header, nothing is lost between two passes, and two passes
come to the same as one that adds the sources of both: the directive for scripts is made in the first pass
and only grows in later ones.
-/

namespace Userscript

namespace Csp

/-- The policies that come from a policy by letting scripts come from further sources, any number of times.
The sources are tokens. -/
inductive Extends (p : Csp) : Csp → Prop where
  | refl : Extends p p
  | allowScripts {q : Csp} {new : List Text} (hnew : ∀ s ∈ new, IsToken s) :
    Extends p q → Extends p (q.allowScripts new)

theorem Extends.isClean {p q : Csp} (h : Extends p q) (hp : IsClean p) : IsClean q := by
  induction h with
  | refl => exact hp
  | allowScripts hnew _ ih => exact ih.allowScripts hnew

lemma extendScriptSrc_extendScriptSrc (a b : List Text) (p : Csp) :
    extendScriptSrc b (extendScriptSrc a p) = extendScriptSrc (a ++ b) p := by
  induction p with
  | nil => rfl
  | cons d rest ih =>
    by_cases hd : Text.sameIgnoringCase d.name scriptSrc = true
    · rw [extendScriptSrc, if_pos hd, extendScriptSrc, if_pos hd, extendScriptSrc, if_pos hd,
        List.append_assoc]
    · rw [extendScriptSrc, if_neg hd, extendScriptSrc, if_neg hd, extendScriptSrc, if_neg hd, ih]

lemma withScriptSrc_allowScripts (p : Csp) (new : List Text) :
    (p.allowScripts new).withScriptSrc = p.allowScripts new := by
  rw [withScriptSrc, get?_allowScripts, Option.isSome_some, if_pos rfl]

/-- Sources that are added one list after the other are added as one list. -/
theorem allowScripts_allowScripts (p : Csp) (a b : List Text) :
    (p.allowScripts a).allowScripts b = p.allowScripts (a ++ b) := by
  rw [allowScripts, withScriptSrc_allowScripts, allowScripts, extendScriptSrc_extendScriptSrc,
    ← allowScripts]

lemma parse_extendHeader {header : Text} {injections : List Injection}
    (h : ∀ i ∈ injections, ∀ s, i.source? = some s → IsToken s) :
    parse (extendHeader header injections) =
      (parse header).allowScripts (injections.filterMap Injection.source?) := by
  refine parse_render ((isClean_parse header).allowScripts fun s hs => ?_)
  obtain ⟨i, hi, hsource⟩ := List.mem_filterMap.mp hs
  exact h i hi s hsource

/-- A policy that has been read, and every one that comes from it by tokens, has no two directives of one name
and is read back from its header. A header that is extended for some injections and then for others is the
header extended for all of them, if the sources of the former are tokens. -/
theorem parse_render_and_extendHeader_append (header : Text) :
    parse (parse header).render = parse header ∧
      (∀ p, Extends (parse header) p → parse p.render = p ∧
        p.Pairwise fun d e => Text.sameIgnoringCase d.name e.name = false) ∧
      ∀ first second : List Injection,
        (∀ i ∈ first, ∀ s, i.source? = some s → IsToken s) →
          extendHeader (extendHeader header first) second = extendHeader header (first ++ second) := by
  refine ⟨parse_render (isClean_parse header), fun p hp => ?_, fun first second hfirst => ?_⟩
  · have hclean : IsClean p := hp.isClean (isClean_parse header)
    exact ⟨parse_render hclean, hclean.distinct⟩
  · calc extendHeader (extendHeader header first) second
      _ = ((parse (extendHeader header first)).allowScripts
            (second.filterMap Injection.source?)).render := rfl
      _ = (((parse header).allowScripts (first.filterMap Injection.source?)).allowScripts
            (second.filterMap Injection.source?)).render := by rw [parse_extendHeader hfirst]
      _ = ((parse header).allowScripts ((first ++ second).filterMap Injection.source?)).render := by
          rw [allowScripts_allowScripts, List.filterMap_append]
      _ = extendHeader header (first ++ second) := rfl

/-- The directive for scripts is made from the default one in a first pass, for a linked script, and grows in a
second pass, for a copied one. The second default directive is of no account in either. -/
theorem parse_render_and_extendHeader_append_of_default :
    ∃ linked copied,
      (Script.parse ("// ==UserScript==\n// @name Linked\n".toList ++
        "// @downloadURL https://a.test/u.js\n// ==/UserScript==\n".toList)).value = .ok linked ∧
      (Script.parse "// ==UserScript==\n// @name Inline\n// ==/UserScript==\n".toList).value =
        .ok copied ∧
      (∀ i ∈ [(⟨linked, none⟩ : Injection)], ∀ s, i.source? = some s → IsToken s) ∧
      extendHeader (extendHeader "Default-Src 'self'; default-src *".toList [⟨linked, none⟩])
          [⟨copied, some "ab12".toList⟩] =
        extendHeader "Default-Src 'self'; default-src *".toList
          [⟨linked, none⟩, ⟨copied, some "ab12".toList⟩] ∧
      extendHeader "Default-Src 'self'; default-src *".toList
          [⟨linked, none⟩, ⟨copied, some "ab12".toList⟩] =
        "Default-Src 'self'; script-src 'self' https://a.test/u.js 'nonce-ab12'".toList ∧
      ∃ p, Extends (parse "Default-Src 'self'; default-src *".toList) p ∧
        p.map Directive.name = ["Default-Src".toList, scriptSrc] ∧ parse p.render = p := by
  obtain ⟨linked, hlinked, hurl⟩ := Script.exists_of_downloadUrl
    ("// ==UserScript==\n// @name Linked\n".toList ++
      "// @downloadURL https://a.test/u.js\n// ==/UserScript==\n".toList)
    (some "https://a.test/u.js".toList) (by decide +kernel)
  obtain ⟨copied, hcopied, -⟩ := Script.exists_of_downloadUrl
    "// ==UserScript==\n// @name Inline\n// ==/UserScript==\n".toList none (by decide +kernel)
  have htokens : ∀ i ∈ [(⟨linked, none⟩ : Injection)], ∀ s, i.source? = some s → IsToken s := by
    intro i hi s hs
    rw [List.mem_singleton.mp hi, Injection.source?, hurl] at hs
    cases hs
    decide
  obtain ⟨-, hback, happend⟩ :=
    parse_render_and_extendHeader_append "Default-Src 'self'; default-src *".toList
  refine ⟨linked, copied, hlinked, hcopied, htokens, happend _ _ htokens, ?_,
    (parse "Default-Src 'self'; default-src *".toList).allowScripts ["b".toList], ?_, by decide, ?_⟩
  · simp only [extendHeader, List.filterMap_cons, List.filterMap_nil, Injection.source?, hurl]
    decide
  · exact .allowScripts (by decide) .refl
  · exact (hback _ (.allowScripts (by decide) .refl)).1

end Csp

end Userscript
