import Userscript.Csp
import Userscript.Proofs.Cutting
import Userscript.Proofs.ParsedScript

/-!
# Policies and their headers

A policy whose names and sources are tokens, and no two of whose names are the same, is read back from its
header. Every policy that has been read is of this kind, so what an extended header says depends only on
the added sources: they are read back just when they are tokens. A nonce source is one. A download address
need not be, since nothing keeps `;` and blanks out of it, and what follows such a character in the header
is then read as something else.
-/

namespace Userscript

lemma Text.not_blank_of_hexValue {c : Char} (h : (hexValue? c).isSome = true) :
    isBlank c = false ∧ c ≠ ';' := by
  have hrange : ∀ a b : Char, a ≤ c ∧ c ≤ b ↔ a.toNat ≤ c.toNat ∧ c.toNat ≤ b.toNat :=
    fun a b => Iff.rfl
  have hcode : 48 ≤ c.toNat ∧ c.toNat ≤ 57 ∨ 97 ≤ c.toNat ∧ c.toNat ≤ 102 ∨
      65 ≤ c.toNat ∧ c.toNat ≤ 70 := by
    by_contra hnot
    obtain ⟨hdigit, hsmall, hlarge⟩ : ¬('0' ≤ c ∧ c ≤ '9') ∧ ¬('a' ≤ c ∧ c ≤ 'f') ∧
        ¬('A' ≤ c ∧ c ≤ 'F') := by
      simp only [hrange, Char.reduceToNat]
      omega
    simp [hexValue?, hdigit, hsmall, hlarge] at h
  constructor
  · simp only [isBlank, Bool.or_eq_false_iff, Bool.and_eq_false_iff, decide_eq_false_iff_not,
      beq_eq_false_iff_ne]
    omega
  · rintro rfl
    simp at hcode

namespace Csp

/-- A text that stands as one name or source in a header. -/
def IsToken (t : Text) : Prop := t ≠ [] ∧ ∀ c ∈ t, Text.isBlank c = false ∧ c ≠ ';'

instance (t : Text) : Decidable (IsToken t) :=
  decidable_of_iff (t ≠ [] ∧ (t.all fun c => !Text.isBlank c && c != ';') = true) (by simp [IsToken])

/-- A policy that can be read back from its header. -/
structure IsClean (p : Csp) : Prop where
  names : ∀ d ∈ p, IsToken d.name
  sources : ∀ d ∈ p, ∀ s ∈ d.sources, IsToken s
  distinct : p.Pairwise fun d e => Text.sameIgnoringCase d.name e.name = false

/-! ## Names -/

lemma sameIgnoringCase_iff {a b : Text} :
    Text.sameIgnoringCase a b = true ↔ Text.lower a = Text.lower b := by
  simp [Text.sameIgnoringCase]

lemma sameIgnoringCase_comm (a b : Text) : Text.sameIgnoringCase a b = Text.sameIgnoringCase b a :=
  BEq.comm

lemma sameIgnoringCase_congr {a b : Text} (h : Text.sameIgnoringCase a b = true) (name : Text) :
    Text.sameIgnoringCase a name = Text.sameIgnoringCase b name := by
  rw [Text.sameIgnoringCase, Text.sameIgnoringCase, sameIgnoringCase_iff.mp h]

lemma get?_cons_of_same {d : Directive} {name : Text}
    (h : Text.sameIgnoringCase d.name name = true) (rest : Csp) :
    get? (d :: rest) name = some d.sources := by
  simp [get?, h]

lemma get?_cons_of_not_same {d : Directive} {name : Text}
    (h : Text.sameIgnoringCase d.name name = false) (rest : Csp) :
    get? (d :: rest) name = get? rest name := by
  simp [get?, h]

lemma get?_eq_none_iff {p : Csp} {name : Text} :
    p.get? name = none ↔ ∀ d ∈ p, Text.sameIgnoringCase d.name name = false := by
  simp [get?]

lemma exists_mem_of_get? {p : Csp} {name : Text} {sources : List Text}
    (h : p.get? name = some sources) : ∃ d ∈ p, d.sources = sources := by
  obtain ⟨d, hd, rfl⟩ := Option.map_eq_some_iff.mp h
  exact ⟨d, List.mem_of_find?_eq_some hd, rfl⟩

lemma IsClean.nil : IsClean [] := ⟨by simp, by simp, List.Pairwise.nil⟩

lemma IsClean.concat {p : Csp} (hp : IsClean p) {d : Directive} (hname : IsToken d.name)
    (hsources : ∀ s ∈ d.sources, IsToken s) (hnew : p.get? d.name = none) :
    IsClean (p ++ [d]) where
  names e he := by
    rcases List.mem_append.mp he with he | he
    · exact hp.names e he
    · exact List.mem_singleton.mp he ▸ hname
  sources e he := by
    rcases List.mem_append.mp he with he | he
    · exact hp.sources e he
    · exact List.mem_singleton.mp he ▸ hsources
  distinct := by
    refine List.pairwise_append.mpr ⟨hp.distinct, List.pairwise_singleton _ _, ?_⟩
    intro e he f hf
    exact List.mem_singleton.mp hf ▸ get?_eq_none_iff.mp hnew e he

/-! ## Reading -/

lemma isToken_of_mem_words {part w : Text} (hpart : ';' ∉ part) (hw : w ∈ Text.words part) :
    IsToken w := by
  obtain ⟨hne, hblank⟩ := Text.not_blank_of_mem_words hw
  exact ⟨hne, fun c hc => ⟨hblank c hc, fun h => hpart (h ▸ Text.mem_of_mem_words hw hc)⟩⟩

lemma IsClean.add {p : Csp} (hp : IsClean p) {part : Text} (hpart : ';' ∉ part) :
    IsClean (p.add part) := by
  have htokens : ∀ w ∈ Text.words part, IsToken w := fun w hw => isToken_of_mem_words hpart hw
  unfold Csp.add
  cases hw : Text.words part with
  | nil => exact hp
  | cons name sources =>
    rw [hw] at htokens
    by_cases hsome : (p.get? name).isSome = true
    · simp only [hsome, if_true]
      exact hp
    · simp only [hsome, Bool.false_eq_true, if_false]
      exact hp.concat (htokens name (by simp)) (fun s hs => htokens s (by simp [hs]))
        (by simpa using hsome)

lemma not_mem_of_mem_splitOn {sep : Char} {t part : Text} (h : part ∈ Text.splitOn sep t) :
    sep ∉ part :=
  fun hc => by simpa using (Text.mem_of_mem_splitWhere h hc).2

/-- Reading gives clean policies only. -/
theorem isClean_parse (header : Text) : IsClean (parse header) := by
  have hparts : ∀ part ∈ Text.splitOn ';' header, ';' ∉ part :=
    fun part h => not_mem_of_mem_splitOn h
  have hfold : ∀ (parts : List Text) (p : Csp), (∀ part ∈ parts, ';' ∉ part) → IsClean p →
      IsClean (parts.foldl Csp.add p) := by
    intro parts
    induction parts with
    | nil => exact fun p _ hp => hp
    | cons part parts ih =>
      intro p h hp
      exact ih (p.add part) (fun q hq => h q (List.mem_cons_of_mem _ hq))
        (hp.add (h part List.mem_cons_self))
  exact hfold _ [] hparts IsClean.nil

/-! ## Reading back -/

lemma words_render {d : Directive} (hname : IsToken d.name) (hsources : ∀ s ∈ d.sources, IsToken s) :
    Text.words d.render = d.name :: d.sources := by
  refine Text.words_join ?_
  intro w hw
  have htoken : IsToken w := by
    rcases List.mem_cons.mp hw with rfl | hw
    · exact hname
    · exact hsources w hw
  exact ⟨htoken.1, fun c hc => (htoken.2 c hc).1⟩

lemma semicolon_not_mem_render {d : Directive} (hname : IsToken d.name)
    (hsources : ∀ s ∈ d.sources, IsToken s) : ';' ∉ d.render := by
  have htoken : ∀ w ∈ d.name :: d.sources, IsToken w := fun w hw => by
    rcases List.mem_cons.mp hw with rfl | hw
    · exact hname
    · exact hsources w hw
  exact Text.not_mem_join (by decide) fun w hw hc => ((htoken w hw).2 _ hc).2 rfl

lemma add_render {p : Csp} {d : Directive} (hname : IsToken d.name)
    (hsources : ∀ s ∈ d.sources, IsToken s) (hnew : p.get? d.name = none) {part : Text}
    (hpart : Text.words part = Text.words d.render) : p.add part = p ++ [d] := by
  unfold Csp.add
  rw [hpart, words_render hname hsources]
  simp [hnew]

lemma splitOn_render {d : Directive} {rest : Csp} (hp : IsClean (d :: rest)) :
    Text.splitOn ';' (render (d :: rest)) =
      d.render :: rest.map fun e => ' ' :: e.render := by
  have hrender : render (d :: rest) =
      List.intercalate [';'] (d.render :: rest.map fun e => ' ' :: e.render) := by
    have hsep : "; ".toList = [';', ' '] := by decide
    rw [render, Text.join_eq_intercalate, hsep]
    clear hp
    induction rest generalizing d with
    | nil => rfl
    | cons e rest ih =>
      have hrest := ih (d := e)
      simp only [List.map_cons, List.intercalate_cons_cons] at hrest ⊢
      rw [hrest]
      cases rest <;> simp [List.intercalate_cons_cons]
  rw [Text.splitOn_eq_splitOn, hrender, List.splitOn_intercalate]
  · intro part hpart
    rcases List.mem_cons.mp hpart with rfl | hpart
    · exact semicolon_not_mem_render (hp.names d (by simp)) (hp.sources d (by simp))
    · obtain ⟨e, he, rfl⟩ := List.mem_map.mp hpart
      have := semicolon_not_mem_render (hp.names e (by simp [he])) (hp.sources e (by simp [he]))
      simp [this]
  · simp

/-- A clean policy is read back from its header. -/
theorem parse_render {p : Csp} (hp : IsClean p) : parse p.render = p := by
  cases p with
  | nil => rfl
  | cons d rest =>
    have hfold : ∀ (done todo : Csp), IsClean (done ++ todo) →
        (todo.map fun e => ' ' :: e.render).foldl Csp.add done = done ++ todo := by
      intro done todo
      induction todo generalizing done with
      | nil => simp
      | cons e todo ih =>
        intro h
        have hnew : done.get? e.name = none := get?_eq_none_iff.mpr fun f hf =>
          (List.pairwise_append.mp h.distinct).2.2 f hf e (by simp)
        rw [List.map_cons, List.foldl_cons,
          add_render (h.names e (by simp)) (h.sources e (by simp)) hnew
            (Text.words_cons_blank (by decide) _), ih, List.append_assoc, List.singleton_append]
        rwa [List.append_assoc, List.singleton_append]
    rw [parse, splitOn_render hp, List.foldl_cons,
      add_render (hp.names d (by simp)) (hp.sources d (by simp)) rfl rfl]
    exact hfold [d] rest hp

/-! ## Allowing scripts -/

lemma get?_withScriptSrc (p : Csp) : p.withScriptSrc.get? scriptSrc = some p.scriptSources := by
  unfold withScriptSrc
  cases h : p.get? scriptSrc with
  | some sources => simp [h, scriptSources]
  | none =>
    have hself : Text.sameIgnoringCase scriptSrc scriptSrc = true := by decide
    simp only [get?, Option.map_eq_none_iff] at h
    simp [get?, h, hself]

lemma get?_withScriptSrc_of_not_same {name : Text}
    (h : Text.sameIgnoringCase scriptSrc name = false) (p : Csp) :
    p.withScriptSrc.get? name = p.get? name := by
  unfold withScriptSrc
  by_cases hsome : (p.get? scriptSrc).isSome = true
  · rw [if_pos hsome]
  · rw [if_neg hsome]
    simp [get?, List.find?_append, h]

lemma get?_extendScriptSrc {new : List Text} {name : Text}
    (h : Text.sameIgnoringCase scriptSrc name = true) (p : Csp) :
    (extendScriptSrc new p).get? name = (p.get? name).map (· ++ new) := by
  induction p with
  | nil => rfl
  | cons d rest ih =>
    have hname : Text.sameIgnoringCase d.name name = Text.sameIgnoringCase d.name scriptSrc := by
      rw [sameIgnoringCase_comm, ← sameIgnoringCase_congr h, sameIgnoringCase_comm]
    rw [extendScriptSrc]
    by_cases hd : Text.sameIgnoringCase d.name scriptSrc = true
    · rw [if_pos hd, get?_cons_of_same (hname.trans hd)]
      exact get?_cons_of_same (d := ⟨d.name, d.sources ++ new⟩) (hname.trans hd) rest
    · rw [Bool.not_eq_true] at hd
      rw [if_neg (by simp [hd]), get?_cons_of_not_same (hname.trans hd),
        get?_cons_of_not_same (hname.trans hd), ih]

lemma get?_extendScriptSrc_of_not_same {new : List Text} {name : Text}
    (h : Text.sameIgnoringCase scriptSrc name = false) (p : Csp) :
    (extendScriptSrc new p).get? name = p.get? name := by
  induction p with
  | nil => rfl
  | cons d rest ih =>
    rw [extendScriptSrc]
    by_cases hd : Text.sameIgnoringCase d.name scriptSrc = true
    · have hname : Text.sameIgnoringCase d.name name = false := (sameIgnoringCase_congr hd name).trans h
      rw [if_pos hd, get?_cons_of_not_same hname]
      exact get?_cons_of_not_same (d := ⟨d.name, d.sources ++ new⟩) hname rest
    · rw [if_neg hd]
      cases hname : Text.sameIgnoringCase d.name name with
      | true => rw [get?_cons_of_same hname, get?_cons_of_same hname]
      | false => rw [get?_cons_of_not_same hname, get?_cons_of_not_same hname, ih]

theorem get?_allowScripts (p : Csp) (new : List Text) :
    (p.allowScripts new).get? scriptSrc = some (p.scriptSources ++ new) := by
  rw [allowScripts, get?_extendScriptSrc (by decide), get?_withScriptSrc]
  rfl

theorem get?_allowScripts_of_not_same {name : Text}
    (h : Text.sameIgnoringCase scriptSrc name = false) (p : Csp) (new : List Text) :
    (p.allowScripts new).get? name = p.get? name := by
  rw [allowScripts, get?_extendScriptSrc_of_not_same h, get?_withScriptSrc_of_not_same h]

lemma IsClean.isToken_of_get? {p : Csp} (hp : IsClean p) {name : Text} {sources : List Text}
    (h : p.get? name = some sources) : ∀ s ∈ sources, IsToken s := by
  obtain ⟨d, hd, rfl⟩ := exists_mem_of_get? h
  exact hp.sources d hd

lemma IsClean.isToken_scriptSources {p : Csp} (hp : IsClean p) :
    ∀ s ∈ p.scriptSources, IsToken s := by
  unfold scriptSources
  cases hs : p.get? scriptSrc with
  | some sources => exact hp.isToken_of_get? hs
  | none =>
    cases hd : p.get? defaultSrc with
    | some sources => exact hp.isToken_of_get? hd
    | none => simp

lemma IsClean.withScriptSrc {p : Csp} (hp : IsClean p) : IsClean p.withScriptSrc := by
  unfold Csp.withScriptSrc
  cases hs : p.get? scriptSrc with
  | some sources => simpa using hp
  | none =>
    have hname : IsToken scriptSrc := by decide
    exact hp.concat hname hp.isToken_scriptSources hs

lemma map_name_extendScriptSrc (new : List Text) (p : Csp) :
    (extendScriptSrc new p).map Directive.name = p.map Directive.name := by
  induction p with
  | nil => rfl
  | cons d rest ih =>
    rw [Csp.extendScriptSrc]
    by_cases hd : Text.sameIgnoringCase d.name scriptSrc = true
    · rw [if_pos hd, List.map_cons, List.map_cons]
    · rw [if_neg hd, List.map_cons, List.map_cons, ih]

lemma exists_of_mem_extendScriptSrc {new : List Text} {p : Csp} {d : Directive}
    (h : d ∈ extendScriptSrc new p) :
    ∃ e ∈ p, d.name = e.name ∧ ∀ s ∈ d.sources, s ∈ e.sources ∨ s ∈ new := by
  induction p with
  | nil => simp [Csp.extendScriptSrc] at h
  | cons e rest ih =>
    rw [Csp.extendScriptSrc] at h
    by_cases he : Text.sameIgnoringCase e.name scriptSrc = true
    · rw [if_pos he] at h
      rcases List.mem_cons.mp h with rfl | h
      · exact ⟨e, by simp, rfl, fun s hs => List.mem_append.mp hs⟩
      · exact ⟨d, by simp [h], rfl, fun s hs => Or.inl hs⟩
    · rw [if_neg he] at h
      rcases List.mem_cons.mp h with rfl | h
      · exact ⟨d, by simp, rfl, fun s hs => Or.inl hs⟩
      · obtain ⟨f, hf, hname, hsources⟩ := ih h
        exact ⟨f, List.mem_cons_of_mem _ hf, hname, hsources⟩

lemma IsClean.extendScriptSrc {p : Csp} (hp : IsClean p) {new : List Text}
    (hnew : ∀ s ∈ new, IsToken s) : IsClean (p.extendScriptSrc new) where
  names d hd := by
    obtain ⟨e, he, hname, -⟩ := exists_of_mem_extendScriptSrc hd
    exact hname ▸ hp.names e he
  sources d hd s hs := by
    obtain ⟨e, he, -, hsources⟩ := exists_of_mem_extendScriptSrc hd
    exact (hsources s hs).elim (hp.sources e he s) (hnew s)
  distinct := by
    have h : (p.map Directive.name).Pairwise fun a b => Text.sameIgnoringCase a b = false :=
      List.pairwise_map.mpr hp.distinct
    rw [← map_name_extendScriptSrc new p] at h
    exact List.pairwise_map.mp h

theorem IsClean.allowScripts {p : Csp} (hp : IsClean p) {new : List Text}
    (hnew : ∀ s ∈ new, IsToken s) : IsClean (p.allowScripts new) :=
  hp.withScriptSrc.extendScriptSrc hnew

/-- The new sources are read back from the header of an extended policy just when they are tokens, and all
directives of other names are. -/
theorem parse_render_allowScripts_iff {p : Csp} (hp : IsClean p) (new : List Text) :
    ((∀ name, Text.sameIgnoringCase scriptSrc name = false →
        (parse (p.allowScripts new).render).get? name = p.get? name) ∧
      (parse (p.allowScripts new).render).get? scriptSrc = some (p.scriptSources ++ new)) ↔
      ∀ s ∈ new, IsToken s := by
  constructor
  · rintro ⟨-, h⟩ s hs
    exact (isClean_parse _).isToken_of_get? h s (List.mem_append_right _ hs)
  · intro hnew
    rw [parse_render (hp.allowScripts hnew)]
    exact ⟨fun name hname => get?_allowScripts_of_not_same hname p new, get?_allowScripts p new⟩

end Csp

namespace Injection

/-! ## Sources of injections -/

lemma isToken_of_hexadecimal {nonce : Text} (h : ∀ c ∈ nonce, (Text.hexValue? c).isSome = true) :
    Csp.IsToken ("'nonce-".toList ++ nonce ++ ['\'']) := by
  have hopen : Csp.IsToken "'nonce-".toList := by decide
  refine ⟨by simp, fun c hc => ?_⟩
  simp only [List.mem_append, List.mem_singleton] at hc
  rcases hc with (hc | hc) | rfl
  · exact hopen.2 c hc
  · exact Text.not_blank_of_hexValue (h c hc)
  · decide

lemma ne_nil_of_isWebAddress {url : Text} (h : Directive.isWebAddress url = true) : url ≠ [] := by
  rintro rfl
  exact absurd h (by decide)

/-- The address of a linked script stands in a header as one source. -/
def HasPlainAddress (i : Injection) : Prop :=
  ∀ url, i.nonce = none → i.script.downloadUrl = some url →
    ∀ c ∈ url, Text.isBlank c = false ∧ c ≠ ';'

lemma isToken_source_iff {i : Injection} {text : Text}
    (hscript : (Script.parse text).value = .ok i.script)
    (hnonce : ∀ nonce, i.nonce = some nonce → ∀ c ∈ nonce, (Text.hexValue? c).isSome = true) :
    (∀ s, i.source? = some s → Csp.IsToken s) ↔ i.HasPlainAddress := by
  unfold HasPlainAddress source?
  cases hn : i.nonce with
  | some nonce =>
    simp only [Option.some.injEq, reduceCtorEq, false_implies, implies_true, iff_true]
    rintro s rfl
    exact isToken_of_hexadecimal (hnonce nonce hn)
  | none =>
    simp only [true_implies]
    refine forall_congr' fun url => forall_congr' fun hurl => ?_
    have hne := ne_nil_of_isWebAddress (Script.isWebAddress_of_parse hscript hurl)
    exact ⟨fun h => h.2, fun h => ⟨hne, h⟩⟩

/-- Scripts are injected into a page with a policy. What is read from the extended header has the old
sources under every other name, and the old sources of scripts with one more for each injection, just when
no linked script has an address with a blank or `;` in it. -/
theorem parse_extendHeader_iff (header : Text) (injections : List Injection)
    (hscript : ∀ i ∈ injections, ∃ text, (Script.parse text).value = .ok i.script)
    (hnonce : ∀ i ∈ injections, ∀ nonce, i.nonce = some nonce →
      ∀ c ∈ nonce, (Text.hexValue? c).isSome = true) :
    ((∀ name, Text.sameIgnoringCase Csp.scriptSrc name = false →
        (Csp.parse (Csp.extendHeader header injections)).get? name =
          (Csp.parse header).get? name) ∧
      (Csp.parse (Csp.extendHeader header injections)).get? Csp.scriptSrc =
        some ((Csp.parse header).scriptSources ++ injections.filterMap source?)) ↔
      ∀ i ∈ injections, i.HasPlainAddress := by
  unfold Csp.extendHeader
  rw [Csp.parse_render_allowScripts_iff (Csp.isClean_parse header)]
  simp only [List.mem_filterMap]
  constructor
  · intro h i hi
    obtain ⟨text, htext⟩ := hscript i hi
    exact (isToken_source_iff htext (hnonce i hi)).mp fun s hs => h s ⟨i, hi, hs⟩
  · rintro h s ⟨i, hi, hs⟩
    obtain ⟨text, htext⟩ := hscript i hi
    exact (isToken_source_iff htext (hnonce i hi)).mpr (h i hi) s hs

/-- A linked script with a plain address and a copied one are let in by what is read from the header. -/
theorem parse_extendHeader_of_plain_address :
    ∃ linked copied,
      (Script.parse ("// ==UserScript==\n// @name Linked\n".toList ++
        "// @downloadURL https://a.test/u.js\n// ==/UserScript==\n".toList)).value = .ok linked ∧
      (Script.parse "// ==UserScript==\n// @name Inline\n// ==/UserScript==\n".toList).value =
        .ok copied ∧
      (Csp.parse (Csp.extendHeader "default-src 'self'; IMG-SRC *".toList
        [⟨linked, none⟩, ⟨copied, some "ab12".toList⟩])).get? Csp.scriptSrc =
        some ["'self'".toList, "https://a.test/u.js".toList, "'nonce-ab12'".toList] := by
  obtain ⟨linked, hlinked, hurl⟩ := Script.exists_of_downloadUrl
    ("// ==UserScript==\n// @name Linked\n".toList ++
      "// @downloadURL https://a.test/u.js\n// ==/UserScript==\n".toList)
    (some "https://a.test/u.js".toList) (by decide +kernel)
  obtain ⟨copied, hcopied, -⟩ := Script.exists_of_downloadUrl
    "// ==UserScript==\n// @name Inline\n// ==/UserScript==\n".toList none (by decide +kernel)
  refine ⟨linked, copied, hlinked, hcopied, ?_⟩
  have hplain : ∀ i ∈ [(⟨linked, none⟩ : Injection), ⟨copied, some "ab12".toList⟩],
      i.HasPlainAddress := by
    intro i hi
    rcases List.mem_pair.mp hi with rfl | rfl
    · rintro url - hu
      rw [hurl] at hu
      cases hu
      have htoken : Csp.IsToken "https://a.test/u.js".toList := by decide
      exact htoken.2
    · rintro url ⟨⟩
  have hsources := ((parse_extendHeader_iff "default-src 'self'; IMG-SRC *".toList _
    (by
      intro i hi
      rcases List.mem_pair.mp hi with rfl | rfl
      · exact ⟨_, hlinked⟩
      · exact ⟨_, hcopied⟩)
    (by
      intro i hi nonce hnonce
      rcases List.mem_pair.mp hi with rfl | rfl
      · cases hnonce
      · cases hnonce
        exact List.all_eq_true.mp (by decide))).mpr hplain).2
  rw [hsources]
  simp only [List.filterMap_cons, List.filterMap_nil, source?, hurl]
  decide

/-- A linked script with `;` in its address shuts out the script after it: neither its address nor the
nonce of the other is read from the header. -/
theorem parse_extendHeader_of_semicolon :
    ∃ linked copied,
      (Script.parse ("// ==UserScript==\n// @name Linked\n".toList ++
        "// @downloadURL https://a.test/u;v.js\n// ==/UserScript==\n".toList)).value = .ok linked ∧
      (Script.parse "// ==UserScript==\n// @name Inline\n// ==/UserScript==\n".toList).value =
        .ok copied ∧
      (Csp.parse (Csp.extendHeader "script-src 'self'".toList
        [⟨linked, none⟩, ⟨copied, some "ab12".toList⟩])).get? Csp.scriptSrc =
        some ["'self'".toList, "https://a.test/u".toList] ∧
      (Csp.parse (Csp.extendHeader "script-src 'self'".toList
        [⟨linked, none⟩, ⟨copied, some "ab12".toList⟩])).get? Csp.scriptSrc ≠
        some ((Csp.parse "script-src 'self'".toList).scriptSources ++
          [(⟨linked, none⟩ : Injection), ⟨copied, some "ab12".toList⟩].filterMap source?) := by
  obtain ⟨linked, hlinked, hurl⟩ := Script.exists_of_downloadUrl
    ("// ==UserScript==\n// @name Linked\n".toList ++
      "// @downloadURL https://a.test/u;v.js\n// ==/UserScript==\n".toList)
    (some "https://a.test/u;v.js".toList) (by decide +kernel)
  obtain ⟨copied, hcopied, -⟩ := Script.exists_of_downloadUrl
    "// ==UserScript==\n// @name Inline\n// ==/UserScript==\n".toList none (by decide +kernel)
  refine ⟨linked, copied, hlinked, hcopied, ?_, ?_⟩
  · simp only [Csp.extendHeader, List.filterMap_cons, List.filterMap_nil, source?, hurl]
    decide
  · simp only [Csp.extendHeader, List.filterMap_cons, List.filterMap_nil, source?, hurl]
    decide

end Injection

end Userscript
