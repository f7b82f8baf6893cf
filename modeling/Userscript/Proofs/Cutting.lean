import Userscript.Text.Basic
import Mathlib.Tactic.Lemma
import Mathlib.Data.List.Basic

/-!
# Cutting and joining texts

Texts are cut at characters and at phrases, and put together with separators. This file connects both
with the operations on lists: the pieces of a text are those of `List.splitOnP`, and joined texts are
those of `List.intercalate`. Words are cut apart by blanks, so a text without blanks is one word and a
blank between two texts keeps their words apart. Lines are cut behind line feeds, so a text that ends with one
has its own lines whatever stands behind it.
-/

namespace Userscript.Text

/-! ## Phrases -/

theorem after?_eq_some_iff {phrase t rest : Text} :
    after? phrase t = some rest ↔ t = phrase ++ rest := by
  induction phrase generalizing t with
  | nil => simp [after?, eq_comm]
  | cons p ps ih =>
    cases t with
    | nil => simp [after?]
    | cons c r =>
      by_cases h : p = c
      · subst h
        simp [after?, ih]
      · have hc : ¬c = p := fun e => h e.symm
        simp [after?, h, hc]

lemma isSome_after?_iff {phrase t : Text} : (after? phrase t).isSome ↔ phrase <+: t := by
  rw [Option.isSome_iff_exists]
  constructor
  · rintro ⟨rest, h⟩
    exact ⟨rest, (after?_eq_some_iff.mp h).symm⟩
  · rintro ⟨rest, h⟩
    exact ⟨rest, after?_eq_some_iff.mpr h.symm⟩

lemma cutAtPhrase_of_after? {phrase t rest : Text} (h : after? phrase t = some rest) :
    cutAtPhrase phrase t = some ([], rest) := by
  cases t with
  | nil => rw [cutAtPhrase, h, Option.map_some]
  | cons c t => rw [cutAtPhrase, h]

lemma cutAtPhrase_cons_of_none {phrase t : Text} {c : Char} (h : after? phrase (c :: t) = none) :
    cutAtPhrase phrase (c :: t) = (cutAtPhrase phrase t).map fun (a, b) => (c :: a, b) := by
  rw [cutAtPhrase, h]

theorem eq_append_of_cutAtPhrase {phrase t before behind : Text}
    (h : cutAtPhrase phrase t = some (before, behind)) : t = before ++ (phrase ++ behind) := by
  induction t generalizing before with
  | nil =>
    rw [cutAtPhrase] at h
    obtain ⟨rest, hafter, heq⟩ := Option.map_eq_some_iff.mp h
    cases heq
    rw [List.nil_append]
    exact after?_eq_some_iff.mp hafter
  | cons c t ih =>
    cases hafter : after? phrase (c :: t) with
    | none =>
      rw [cutAtPhrase_cons_of_none hafter] at h
      obtain ⟨⟨start, rest⟩, hcut, heq⟩ := Option.map_eq_some_iff.mp h
      cases heq
      rw [ih hcut, List.cons_append]
    | some rest =>
      rw [cutAtPhrase_of_after? hafter] at h
      cases h
      rw [List.nil_append]
      exact after?_eq_some_iff.mp hafter

/-- A phrase that stands in a text is found, and what stands behind it ends the rest that is left. -/
theorem exists_cutAtPhrase (before phrase behind : Text) :
    ∃ start rest, cutAtPhrase phrase (before ++ (phrase ++ behind)) = some (start, rest) ∧
      behind <:+ rest := by
  induction before with
  | nil =>
    have hafter : after? phrase (phrase ++ behind) = some behind := after?_eq_some_iff.mpr rfl
    exact ⟨[], behind, cutAtPhrase_of_after? hafter, List.suffix_refl _⟩
  | cons c before ih =>
    rw [List.cons_append]
    cases hafter : after? phrase (c :: (before ++ (phrase ++ behind))) with
    | none =>
      obtain ⟨start, rest, hcut, hrest⟩ := ih
      exact ⟨c :: start, rest, by rw [cutAtPhrase_cons_of_none hafter, hcut]; rfl, hrest⟩
    | some rest =>
      -- The phrase stands at the start already, so no less is left than behind its other place.
      refine ⟨[], rest, cutAtPhrase_of_after? hafter, ?_⟩
      have htext := after?_eq_some_iff.mp hafter
      have hbehind : behind <:+ phrase ++ rest := htext ▸ ⟨c :: (before ++ phrase), by simp⟩
      refine List.suffix_of_suffix_length_le hbehind (List.suffix_append _ _) ?_
      have hlength := congrArg List.length htext
      simp only [List.length_cons, List.length_append] at hlength
      omega

lemma cutAtPhrase_of_not_mem {p : Char} {before : Text} (h : p ∉ before) (phrase behind : Text) :
    cutAtPhrase (p :: phrase) (before ++ (p :: phrase ++ behind)) = some (before, behind) := by
  induction before with
  | nil => exact cutAtPhrase_of_after? (after?_eq_some_iff.mpr rfl)
  | cons c before ih =>
    obtain ⟨hc, hbefore⟩ := List.ne_and_not_mem_of_not_mem_cons h
    have hafter : after? (p :: phrase) (c :: (before ++ (p :: phrase ++ behind))) = none := by
      rw [after?, if_neg hc]
    rw [List.cons_append, cutAtPhrase_cons_of_none hafter, ih hbefore]
    rfl

lemma prefix_append_cons_iff {phrase a b : Text} {c : Char} (hc : c ∉ phrase) :
    phrase <+: a ++ c :: b ↔ phrase <+: a := by
  induction phrase generalizing a with
  | nil => simp
  | cons p phrase ih =>
    obtain ⟨hp, hphrase⟩ := List.ne_and_not_mem_of_not_mem_cons hc
    cases a with
    | nil => simp [Ne.symm hp]
    | cons d a => rw [List.cons_append, List.cons_prefix_cons, List.cons_prefix_cons, ih hphrase]

theorem infix_append_cons_iff {phrase a b : Text} {c : Char} (hc : c ∉ phrase) :
    phrase <:+: a ++ c :: b ↔ phrase <:+: a ∨ phrase <:+: b := by
  induction a with
  | nil =>
    have hprefix : phrase <+: c :: b ↔ phrase <+: [] := prefix_append_cons_iff (a := []) hc
    rw [List.nil_append, List.infix_cons_iff, hprefix, List.prefix_nil, List.infix_nil]
  | cons d a ih =>
    rw [List.cons_append, List.infix_cons_iff, ← List.cons_append, prefix_append_cons_iff hc, ih,
      List.infix_cons_iff, or_assoc]

/-- A text is cut at a character where that occurs first. -/
theorem cutAt_eq_some_iff {sep : Char} {t a b : Text} :
    cutAt sep t = some (a, b) ↔ t = a ++ sep :: b ∧ sep ∉ a := by
  constructor
  · intro h
    induction t generalizing a with
    | nil => cases h
    | cons c r ih =>
      by_cases hc : c = sep
      · rw [cutAt, if_pos hc] at h
        cases h
        exact ⟨by rw [hc, List.nil_append], List.not_mem_nil⟩
      · rw [cutAt, if_neg hc] at h
        obtain ⟨⟨a', b'⟩, hcut, heq⟩ := Option.map_eq_some_iff.mp h
        cases heq
        obtain ⟨rfl, ha⟩ := ih hcut
        exact ⟨rfl, List.not_mem_cons_of_ne_of_not_mem (Ne.symm hc) ha⟩
  · rintro ⟨rfl, h⟩
    induction a with
    | nil => exact if_pos rfl
    | cons c a ih =>
      obtain ⟨hc, ha⟩ := List.ne_and_not_mem_of_not_mem_cons h
      rw [List.cons_append, cutAt, if_neg (Ne.symm hc), ih ha]
      rfl

lemma cutAt_append (sep : Char) (t u : Text) :
    cutAt sep (t ++ u) = match cutAt sep t with
      | some (a, b) => some (a, b ++ u)
      | none => (cutAt sep u).map fun (a, b) => (t ++ a, b) := by
  induction t with
  | nil => simp [cutAt]
  | cons c r ih =>
    by_cases hc : c = sep
    · simp [cutAt, hc]
    · simp only [List.cons_append, cutAt, hc, if_false, ih]
      cases cutAt sep r with
      | some p => rfl
      | none => cases cutAt sep u <;> rfl

lemma isSome_beforeSuffix?_iff {phrase t : Text} :
    (beforeSuffix? phrase t).isSome = true ↔ phrase <:+ t := by
  rw [beforeSuffix?, Option.isSome_map, isSome_after?_iff, List.reverse_prefix]

/-! ## Pieces -/

theorem splitWhere_eq_splitOnP (isSep : Char → Bool) (t : Text) :
    splitWhere isSep t = t.splitOnP isSep := by
  induction t with
  | nil => rfl
  | cons c r ih =>
    rw [splitWhere, List.splitOnP_cons_eq_if_modifyHead, ih]
    obtain ⟨p, ps, hp⟩ := List.exists_cons_of_ne_nil (List.splitOnP_ne_nil isSep r)
    rw [hp]
    rfl

lemma splitOn_eq_splitOn (sep : Char) (t : Text) : splitOn sep t = List.splitOn sep t := by
  rw [splitOn, splitWhere_eq_splitOnP, List.splitOn_eq_splitOnP]

lemma exists_splitOn_eq_cons (sep : Char) (t : Text) : ∃ p ps, splitOn sep t = p :: ps := by
  rw [splitOn_eq_splitOn]
  exact List.exists_cons_of_ne_nil (List.splitOn_ne_nil sep t)

lemma splitOn_cons_self (sep : Char) (t : Text) :
    splitOn sep (sep :: t) = [] :: splitOn sep t := by
  simp [splitOn, splitWhere]

lemma splitOn_cons_of_ne {sep c : Char} (hc : c ≠ sep) {t p : Text} {ps : List Text}
    (h : splitOn sep t = p :: ps) : splitOn sep (c :: t) = (c :: p) :: ps := by
  unfold splitOn at h ⊢
  simp [splitWhere, h, hc]

lemma splitOn_append_cons (sep : Char) (a b : Text) :
    splitOn sep (a ++ sep :: b) = splitOn sep a ++ splitOn sep b := by
  simp only [splitOn, splitWhere_eq_splitOnP]
  exact List.splitOnP_append_cons a b (beq_self_eq_true sep)

lemma splitOn_of_not_mem {sep : Char} {t : Text} (h : sep ∉ t) : splitOn sep t = [t] := by
  rw [splitOn, splitWhere_eq_splitOnP]
  apply List.splitOnP_eq_singleton
  intro c hc
  exact beq_false_of_ne (ne_of_mem_of_not_mem hc h)

lemma splitOn_append {sep : Char} {a b last p : Text} {before ps : List Text}
    (ha : splitOn sep a = before ++ [last]) (hb : splitOn sep b = p :: ps) :
    splitOn sep (a ++ b) = before ++ (last ++ p) :: ps := by
  induction a generalizing before last with
  | nil =>
    obtain ⟨rfl, rfl⟩ : before = [] ∧ last = [] := by
      simpa [splitOn, splitWhere, eq_comm, List.append_eq_singleton_iff] using ha
    exact hb
  | cons c a ih =>
    obtain ⟨q, qs, hq⟩ := exists_splitOn_eq_cons sep a
    by_cases hc : c = sep
    · rw [hc, splitOn_cons_self, hq] at ha
      rw [hc, List.cons_append, splitOn_cons_self]
      cases before with
      | nil => simp at ha
      | cons first before =>
        obtain ⟨rfl, hrest⟩ := List.cons_eq_cons.mp ha
        rw [ih (hq.trans hrest), List.cons_append]
    · rw [splitOn_cons_of_ne hc hq] at ha
      rw [List.cons_append]
      cases before with
      | nil =>
        obtain ⟨rfl, rfl⟩ := List.cons_eq_cons.mp ha
        exact splitOn_cons_of_ne hc (@ih q [] hq)
      | cons first before =>
        obtain ⟨rfl, rfl⟩ := List.cons_eq_cons.mp ha
        exact splitOn_cons_of_ne hc (@ih last (q :: before) hq)

theorem mem_of_mem_splitWhere {isSep : Char → Bool} {t piece : Text}
    (h : piece ∈ splitWhere isSep t) {c : Char} (hc : c ∈ piece) : c ∈ t ∧ isSep c = false := by
  induction t generalizing piece with
  | nil =>
    have hp : piece = [] := by simpa [splitWhere] using h
    simp [hp] at hc
  | cons d r ih =>
    rw [splitWhere] at h
    by_cases hd : isSep d = true
    · rw [if_pos hd] at h
      rcases List.mem_cons.mp h with rfl | h
      · simp at hc
      · exact (ih h hc).imp_left (List.mem_cons_of_mem _)
    · rw [if_neg hd] at h
      cases hs : splitWhere isSep r with
      | nil =>
        rw [splitWhere_eq_splitOnP] at hs
        exact absurd hs (List.splitOnP_ne_nil isSep r)
      | cons p ps =>
        rw [hs] at h ih
        rcases List.mem_cons.mp h with rfl | h
        · rcases List.mem_cons.mp hc with rfl | hc
          · exact ⟨List.mem_cons_self .., by simpa using hd⟩
          · exact (ih (List.mem_cons_self ..) hc).imp_left (List.mem_cons_of_mem _)
        · exact (ih (List.mem_cons_of_mem _ h) hc).imp_left (List.mem_cons_of_mem _)

/-! ## Words -/

@[simp]
lemma words_nil : words [] = [] := rfl

theorem not_blank_of_mem_words {t w : Text} (h : w ∈ words t) :
    w ≠ [] ∧ ∀ c ∈ w, isBlank c = false := by
  obtain ⟨hw, hne⟩ := List.mem_filter.mp h
  exact ⟨by simpa using hne, fun c hc => (mem_of_mem_splitWhere hw hc).2⟩

lemma mem_of_mem_words {t w : Text} (h : w ∈ words t) {c : Char} (hc : c ∈ w) : c ∈ t :=
  (mem_of_mem_splitWhere (List.mem_filter.mp h).1 hc).1

theorem words_append_blank {c : Char} (hc : isBlank c = true) (a b : Text) :
    words (a ++ c :: b) = words a ++ words b := by
  simp only [words, splitWhere_eq_splitOnP]
  rw [List.splitOnP_append_cons a b hc, List.filter_append]

lemma words_cons_blank {c : Char} (hc : isBlank c = true) (t : Text) :
    words (c :: t) = words t := by
  simpa using words_append_blank hc [] t

lemma words_of_forall_not_blank {w : Text} (hne : w ≠ []) (h : ∀ c ∈ w, isBlank c = false) :
    words w = [w] := by
  rw [words, splitWhere_eq_splitOnP, List.splitOnP_eq_singleton h]
  simp [hne]

/-! ## Joined texts -/

theorem join_eq_intercalate (sep : Text) (ts : List Text) : join sep ts = sep.intercalate ts := by
  induction ts with
  | nil => rfl
  | cons t ts ih =>
    cases ts with
    | nil => simp [join]
    | cons u us => rw [join, ih, List.intercalate_cons_cons, List.append_assoc]

lemma forall_mem_join {p : Char → Prop} {sep : Text} {ts : List Text} (hsep : ∀ c ∈ sep, p c)
    (hts : ∀ t ∈ ts, ∀ c ∈ t, p c) : ∀ c ∈ join sep ts, p c := by
  induction ts with
  | nil => exact List.forall_mem_nil p
  | cons t ts ih =>
    obtain ⟨ht, hrest⟩ := List.forall_mem_cons.mp hts
    cases ts with
    | nil => exact ht
    | cons t' ts =>
      rw [join]
      exact List.forall_mem_append.mpr ⟨List.forall_mem_append.mpr ⟨ht, hsep⟩, ih hrest⟩

lemma not_mem_join {c : Char} {sep : Text} {ts : List Text} (hsep : c ∉ sep) (hts : ∀ t ∈ ts, c ∉ t) :
    c ∉ join sep ts := by
  have hne : ∀ d ∈ join sep ts, d ≠ c := forall_mem_join (fun _ hd => ne_of_mem_of_not_mem hd hsep)
    fun t ht _ hd => ne_of_mem_of_not_mem hd (hts t ht)
  exact fun hc => hne c hc rfl

/-- A phrase without the separator occurs in joined texts just when it occurs in one of them. -/
lemma infix_join_iff {phrase : Text} {sep : Char} (hsep : sep ∉ phrase) (hne : phrase ≠ []) {ts : List Text} :
    phrase <:+: join [sep] ts ↔ ∃ t ∈ ts, phrase <:+: t := by
  induction ts with
  | nil => simp [join, hne]
  | cons t ts ih =>
    cases ts with
    | nil => simp [join]
    | cons u us =>
      rw [join, List.append_assoc, List.singleton_append, infix_append_cons_iff hsep, ih]
      simp

theorem words_join {ws : List Text} (h : ∀ w ∈ ws, w ≠ [] ∧ ∀ c ∈ w, isBlank c = false) :
    words (join [' '] ws) = ws := by
  induction ws with
  | nil => rfl
  | cons w ws ih =>
    have hw := words_of_forall_not_blank (h w (by simp)).1 (h w (by simp)).2
    cases ws with
    | nil => rw [join, hw]
    | cons u us =>
      rw [join, List.append_assoc, List.singleton_append, words_append_blank (by decide), hw,
        ih (fun v hv => h v (List.mem_cons_of_mem _ hv))]
      rfl

/-! ## Trimming -/

lemma trimStart_of_head? {t : Text} (h : ∀ c ∈ t.head?, isBlank c = false) :
    trimStart t = t := by
  cases t with
  | nil => rfl
  | cons c t => exact List.dropWhile_cons_of_neg (Bool.eq_false_iff.mp (h c rfl))

lemma trimEnd_of_getLast? {t : Text} (h : ∀ c ∈ t.getLast?, isBlank c = false) :
    trimEnd t = t := by
  have hreverse : trimStart t.reverse = t.reverse :=
    trimStart_of_head? (by rwa [List.head?_reverse])
  have hend : trimEnd t = (trimStart t.reverse).reverse := rfl
  rw [hend, hreverse, List.reverse_reverse]

lemma trimEnd_prefix (t : Text) : trimEnd t <+: t := by
  have hsuffix : t.reverse.dropWhile isBlank <:+ t.reverse := List.dropWhile_suffix _
  rwa [← List.reverse_prefix, List.reverse_reverse] at hsuffix

/-! ## Lines -/

lemma rawLines_feed (t : Text) : rawLines ('\n' :: t) = ['\n'] :: rawLines t := if_pos rfl

lemma rawLines_ne_nil {t : Text} (h : t ≠ []) : rawLines t ≠ [] := by
  cases t with
  | nil => exact absurd rfl h
  | cons c t =>
    rw [rawLines]
    split_ifs
    · exact List.cons_ne_nil _ _
    · split <;> exact List.cons_ne_nil _ _

lemma rawLines_cons {c : Char} (hc : c ≠ '\n') {t line : Text} {rest : List Text}
    (h : rawLines t = line :: rest) : rawLines (c :: t) = (c :: line) :: rest := by
  rw [rawLines, if_neg hc, h]

lemma rawLines_line {line : Text} (h : '\n' ∉ line) (t : Text) :
    rawLines (line ++ '\n' :: t) = (line ++ ['\n']) :: rawLines t := by
  induction line with
  | nil => exact rawLines_feed t
  | cons c line ih =>
    obtain ⟨hc, hline⟩ := List.ne_and_not_mem_of_not_mem_cons h
    exact rawLines_cons (Ne.symm hc) (ih hline)

theorem rawLines_append {t : Text} (h : t = [] ∨ t.getLast? = some '\n') (u : Text) :
    rawLines (t ++ u) = rawLines t ++ rawLines u := by
  induction t with
  | nil => rfl
  | cons c t ih =>
    have hlast : (c :: t).getLast? = some '\n' := h.resolve_left (List.cons_ne_nil c t)
    by_cases hc : c = '\n'
    · subst hc
      have ht : t = [] ∨ t.getLast? = some '\n' := by
        cases t with
        | nil => exact .inl rfl
        | cons d t => exact .inr (by rwa [List.getLast?_cons_cons] at hlast)
      rw [List.cons_append, rawLines_feed, rawLines_feed, ih ht, List.cons_append]
    -- The last line feed stands behind the character, which begins the first line of what is left.
    · have hne : t ≠ [] := by
        rintro rfl
        exact hc (Option.some.inj hlast)
      obtain ⟨d, t, rfl⟩ := List.exists_cons_of_ne_nil hne
      rw [List.getLast?_cons_cons] at hlast
      obtain ⟨line, rest, hlines⟩ := List.exists_cons_of_ne_nil (rawLines_ne_nil hne)
      have hall : rawLines (d :: t ++ u) = line :: (rest ++ rawLines u) := by
        rw [ih (.inr hlast), hlines, List.cons_append]
      rw [List.cons_append, rawLines_cons hc hall, rawLines_cons hc hlines, List.cons_append]

lemma lineBody_feed {line : Text} (h : line.getLast? ≠ some '\r') :
    lineBody (line ++ ['\n']) = line := by
  rw [← List.head?_reverse] at h
  unfold lineBody
  rw [List.reverse_append, List.reverse_singleton, List.singleton_append]
  split
  · rename_i r hr
    rw [(List.cons.inj hr).2] at h
    exact absurd rfl h
  · rename_i r _ hr
    rw [← (List.cons.inj hr).2, List.reverse_reverse]
  · rename_i hne
    exact absurd rfl (hne line.reverse)

lemma rawLines_flatMap {α : Type} {f : α → Text} {xs : List α} (h : ∀ x ∈ xs, '\n' ∉ f x)
    (t : Text) :
    rawLines ((xs.flatMap fun x => f x ++ ['\n']) ++ t) =
      (xs.map fun x => f x ++ ['\n']) ++ rawLines t := by
  induction xs with
  | nil => rfl
  | cons x xs ih =>
    obtain ⟨hx, hxs⟩ := List.forall_mem_cons.mp h
    rw [List.flatMap_cons, List.append_assoc, List.append_assoc, List.singleton_append,
      rawLines_line hx, ih hxs, List.map_cons, List.cons_append]

end Userscript.Text
