import Userscript.Proofs.ParsedScript
import Userscript.Proofs.UnsafeMarkup
import Userscript.Injection.Plan

/-!
# The text of planned elements

Whatever way a script is injected, the text of its element holds no sequence that would end or spoil the
element. Code that links a script is free of `<` altogether, since every address and nonce in it is
quoted. A copied script is refused when it holds such a sequence, and what is put around it begins and
ends at line feeds, over which no sequence reaches.
-/

namespace Userscript

namespace Injection

@[simp]
lemma text_withNonce (tag : ScriptTag) (nonce : Option Text) :
    (withNonce tag nonce).text = tag.text := by
  cases nonce <;> rfl

/-- What a planned element holds: nothing, code that links the script, or a script without unsafe
sequences. -/
theorem text_of_plan {s : Script} {o : Options} {p : Plan} (h : plan s o = .ok p) :
    p.tag.text = none ∨ (∃ address, p.tag.text = some (bootstrapCode s address o.nonce)) ∨
      s.unsafeSequences = [] ∧ p.tag.text = some (inlineCode s) := by
  unfold plan at h
  dsimp only at h
  split at h
  · cases h
    exact Or.inl rfl
  · cases h
    rename_i address _ _
    exact Or.inr (Or.inl ⟨address, by simp⟩)
  · by_cases hu : s.unsafeSequences.isEmpty = true
    · rw [if_pos hu] at h
      cases h
      exact Or.inr (Or.inr ⟨List.isEmpty_iff.mp hu, by simp⟩)
    · rw [if_neg hu] at h
      cases h

lemma lt_not_mem_hexOfNat {n : Nat} (h : n < 32) : '<' ∉ Text.hexOfNat n := by
  have hall : ∀ n < 32, '<' ∉ Text.hexOfNat n := by decide +kernel
  exact hall n h

lemma lt_not_mem_quoteChar (c : Char) : '<' ∉ quoteChar c := by
  unfold quoteChar
  split_ifs <;> first
    | decide
    | (rename_i hc
       have hlt := lt_not_mem_hexOfNat (n := c.toNat) (by omega)
       simp [hlt])
    | (rename_i hc
       simpa [eq_comm] using hc)

theorem lt_not_mem_quote (t : Text) : '<' ∉ quote t := by
  simp [quote, lt_not_mem_quoteChar]

lemma outsideFrames_eq (code : Text) :
    outsideFrames code = "if (window.top === window) \x7b // @".toList ++ Directive.noFrames ++
      '\n' :: (code ++ '\n' :: ['\x7d']) := by
  have hclose : "\n\x7d".toList = '\n' :: ['\x7d'] := by decide
  unfold outsideFrames
  simp only [hclose, List.append_assoc, List.cons_append, List.nil_append]

lemma afterLoad_eq (code : Text) :
    afterLoad code = "window.addEventListener(\"load\", function() \x7b".toList ++
      '\n' :: (code ++ '\n' :: "\x7d);".toList) := by
  have hopen : "window.addEventListener(\"load\", function() \x7b\n".toList =
      "window.addEventListener(\"load\", function() \x7b".toList ++ ['\n'] := by decide
  have hclose : "\n\x7d);".toList = '\n' :: "\x7d);".toList := by decide
  unfold afterLoad
  simp only [hopen, hclose, List.append_assoc, List.cons_append, List.nil_append]

theorem lt_not_mem_guardFrames {s : Script} {code : Text} (h : '<' ∉ code) :
    '<' ∉ guardFrames s code := by
  by_cases hs : s.noFrames = true
  · have hopen : '<' ∉ "if (window.top === window) \x7b // @".toList ++ Directive.noFrames := by
      decide
    rw [guardFrames, if_pos hs, outsideFrames_eq]
    simp only [List.mem_append, List.mem_cons, not_or] at hopen ⊢
    exact ⟨hopen, by decide, h, by decide, by decide, List.not_mem_nil⟩
  · rw [guardFrames, if_neg hs]
    exact h

theorem lt_not_mem_whenIdle {s : Script} {code : Text} (h : '<' ∉ code) : '<' ∉ whenIdle s code := by
  by_cases hs : s.runAt = .documentIdle
  · rw [whenIdle, if_pos hs, afterLoad_eq]
    simp only [List.mem_append, List.mem_cons, not_or]
    exact ⟨by decide, by decide, h, by decide, by decide⟩
  · rw [whenIdle, if_neg hs]
    exact h

theorem lt_not_mem_bootstrapCode (s : Script) (address : Text) (nonce : Option Text) :
    '<' ∉ bootstrapCode s address nonce := by
  have happend : '<' ∉ whenIdle s "document.head.appendChild(s);".toList :=
    lt_not_mem_whenIdle (by decide)
  apply lt_not_mem_guardFrames
  simp only [List.mem_append, not_or]
  refine ⟨⟨⟨⟨⟨⟨⟨⟨⟨⟨by decide, by decide⟩, lt_not_mem_quote _⟩, by decide⟩, lt_not_mem_quote _⟩,
    by decide⟩, by decide⟩, lt_not_mem_quote _⟩, by decide⟩, ?_⟩, happend⟩
  cases nonce with
  | none => exact List.not_mem_nil
  | some n =>
    simp only [List.mem_append, not_or]
    exact ⟨⟨by decide, lt_not_mem_quote n⟩, by decide⟩

theorem isSafe_guardFrames {s : Script} {code : Text} (h : Markup.IsSafe code) :
    Markup.IsSafe (guardFrames s code) := by
  by_cases hs : s.noFrames = true
  · have hopen : Markup.IsSafe ("if (window.top === window) \x7b // @".toList ++ Directive.noFrames) :=
      Markup.isSafe_of_not_mem (by decide)
    have hclose : Markup.IsSafe ['\x7d'] := Markup.isSafe_of_not_mem (by decide)
    rw [guardFrames, if_pos hs, outsideFrames_eq]
    exact Markup.isSafe_append_newline hopen (Markup.isSafe_append_newline h hclose)
  · rw [guardFrames, if_neg hs]
    exact h

theorem isSafe_whenIdle {s : Script} {code : Text} (h : Markup.IsSafe code) :
    Markup.IsSafe (whenIdle s code) := by
  by_cases hs : s.runAt = .documentIdle
  · have hopen : Markup.IsSafe "window.addEventListener(\"load\", function() \x7b".toList :=
      Markup.isSafe_of_not_mem (by decide)
    have hclose : Markup.IsSafe "\x7d);".toList := Markup.isSafe_of_not_mem (by decide)
    rw [whenIdle, if_pos hs, afterLoad_eq]
    exact Markup.isSafe_append_newline hopen (Markup.isSafe_append_newline h hclose)
  · rw [whenIdle, if_neg hs]
    exact h

theorem isSafe_inlineCode {s : Script} (h : Markup.IsSafe s.source) :
    Markup.IsSafe (inlineCode s) :=
  Markup.isSafe_append_newline (Markup.isSafe_of_not_mem (t := []) (by simp))
    (isSafe_guardFrames (isSafe_whenIdle h))

/-- No unsafe sequence occurs, in any letter case, in the text of an element planned for a script that
has been read from its source. -/
theorem planned_text_isSafe {source : Text} {s : Script} (hs : (Script.parse source).value = .ok s)
    {o : Options} {p : Plan} (hp : plan s o = .ok p) {text : Text} (ht : p.tag.text = some text) :
    Markup.IsSafe text ∧ Markup.unsafeIn text = [] := by
  have hsafe : Markup.IsSafe text := by
    rcases text_of_plan hp with hnone | ⟨address, hboot⟩ | ⟨hfound, hinline⟩
    · simp [hnone] at ht
    · rw [hboot] at ht
      cases ht
      exact Markup.isSafe_of_not_mem (lt_not_mem_bootstrapCode s address o.nonce)
    · rw [hinline] at ht
      cases ht
      rw [Script.unsafeSequences_of_parse hs, Markup.unsafeIn_eq_nil_iff,
        ← Script.source_of_parse hs] at hfound
      exact isSafe_inlineCode hfound
  exact ⟨hsafe, (Markup.unsafeIn_eq_nil_iff text).mpr hsafe⟩

/-- A script whose source and address would end its element, and with it a nonce that would: the code that
links the script is safe all the same. -/
theorem planned_text_isSafe_of_closing_address :
    ∃ s p text, (Script.parse ("// ==UserScript==\n// @name Hostile\n// @noframes\n".toList ++
        "// @run-at document-idle\n// @downloadURL https://a.test/</script>\n".toList ++
        "// ==/UserScript==\n<!-- <SCRIPT> </Script>".toList)).value = .ok s ∧
      plan s ⟨false, some "</sCRIPT><!--".toList⟩ = .ok p ∧ p.tag.text = some text ∧
      Markup.IsSafe text ∧ Markup.unsafeIn text = [] := by
  have hsome : ((Script.parse ("// ==UserScript==\n// @name Hostile\n// @noframes\n".toList ++
      "// @run-at document-idle\n// @downloadURL https://a.test/</script>\n".toList ++
      "// ==/UserScript==\n<!-- <SCRIPT> </Script>".toList)).value.toOption.bind fun s =>
      (plan s ⟨false, some "</sCRIPT><!--".toList⟩).toOption.bind fun p => p.tag.text).isSome := by
    decide +kernel
  obtain ⟨text, h⟩ := Option.isSome_iff_exists.mp hsome
  obtain ⟨s, hs, h⟩ := Option.bind_eq_some_iff.mp h
  obtain ⟨p, hp, ht⟩ := Option.bind_eq_some_iff.mp h
  exact ⟨s, p, text, eq_ok_of_toOption hs, eq_ok_of_toOption hp, ht,
    planned_text_isSafe (eq_ok_of_toOption hs) (eq_ok_of_toOption hp) ht⟩

end Injection

end Userscript
