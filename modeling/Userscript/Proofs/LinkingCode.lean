import Userscript.Proofs.PlannedText
import Userscript.Proofs.WrittenStrings

/-!
# Code that links a script

Addresses and nonces stand in the code that links a script as strings of the JSON notation, written in the usual way
but for `<`, which is replaced by its number. A string that is written so is read back, and no line ends within it.
So every line of the code is one of its own, and the lines that give the address and the nonce to the new element can
be told from all others by how they begin.
-/

namespace Userscript

namespace Text

lemma replaceChar_append (old : Char) (new a b : Text) :
    replaceChar old new (a ++ b) = replaceChar old new a ++ replaceChar old new b := List.flatMap_append

lemma replaceChar_of_not_mem {old : Char} {t : Text} (h : old ∉ t) (new : Text) :
    replaceChar old new t = t := by
  induction t with
  | nil => rfl
  | cons c t ih =>
    obtain ⟨hc, ht⟩ := List.ne_and_not_mem_of_not_mem_cons h
    rw [replaceChar, List.flatMap_cons, if_neg (Ne.symm hc)]
    exact congrArg (c :: ·) (ih ht)

end Text

namespace Injection

variable {s : Script} {o : Options} {place : Text}

lemma quoteChar_eq (c : Char) :
    quoteChar c = if c = '<' then "\\u003c".toList else Json.escapeChar c := by
  by_cases hcontrol : c.toNat < 32
  · have hall : ∀ n < 32, quoteChar (Char.ofNat n) =
        if Char.ofNat n = '<' then "\\u003c".toList else Json.escapeChar (Char.ofNat n) := by
      decide +kernel
    have hc := hall c.toNat hcontrol
    rwa [Char.ofNat_toNat] at hc
  · by_cases hmark : c = '"'
    · subst hmark
      decide
    by_cases hbackslash : c = '\\'
    · subst hbackslash
      decide
    -- Any other character stands for itself, as far as it is not `<`.
    have hne : ∀ d : Char, d.toNat < 32 → c ≠ d := by
      rintro d hd rfl
      exact hcontrol hd
    have hfeed := hne '\n' (by decide)
    have hreturn := hne '\r' (by decide)
    have htab := hne '\t' (by decide)
    have hback : c.toNat ≠ 8 := by omega
    have hform : c.toNat ≠ 12 := by omega
    have hsmall : ¬c.toNat < 16 := by omega
    have hletter : Json.letterFor? c = none := by
      rw [Json.letterFor?, if_neg (not_or.mpr ⟨hmark, hbackslash⟩), if_neg hfeed, if_neg hreturn, if_neg htab,
        if_neg hback, if_neg hform]
    rw [quoteChar, if_neg hmark, if_neg hbackslash, if_neg hfeed, if_neg hreturn, if_neg htab, if_neg hback,
      if_neg hform, if_neg hsmall, if_neg hcontrol, Json.escapeChar, hletter]
    simp only [if_neg hcontrol]

lemma writes_quoteChar (c : Char) : Json.Writes c (quoteChar c) := by
  rw [quoteChar_eq]
  split_ifs with hlt
  · subst hlt
    have hform : "\\u003c".toList = '\\' :: 'u' :: "003c".toList := by decide
    rw [hform]
    exact Json.writes_of_digitsValue? (n := 60) (by decide) (by decide) (by decide)
  · exact Json.writes_escapeChar c

/-- A quoted text is the usual string with every `<` replaced. -/
theorem quote_eq_replaceChar (t : Text) :
    quote t = Text.replaceChar '<' "\\u003c".toList (Json.literal t) := by
  have hchar : ∀ c, Text.replaceChar '<' "\\u003c".toList (Json.escapeChar c) = quoteChar c := by
    intro c
    rw [quoteChar_eq]
    split_ifs with hlt
    · subst hlt
      decide
    · apply Text.replaceChar_of_not_mem
      have hnot := lt_not_mem_quoteChar c
      rwa [quoteChar_eq, if_neg hlt] at hnot
  have hinside : Text.replaceChar '<' "\\u003c".toList (t.flatMap Json.escapeChar) = t.flatMap quoteChar := by
    induction t with
    | nil => rfl
    | cons c t ih => rw [List.flatMap_cons, Text.replaceChar_append, hchar, ih, List.flatMap_cons]
  rw [Json.literal, ← List.singleton_append, List.append_assoc, Text.replaceChar_append,
    Text.replaceChar_append, hinside]
  rfl

theorem string_quote (expected t rest : Text) : Json.string expected (quote t ++ rest) = .ok (t, rest) := by
  rw [quote, List.append_assoc, List.singleton_append]
  exact Json.string_of_writes writes_quoteChar expected t rest

lemma le_of_mem_quote (t : Text) : ∀ c ∈ quote t, 32 ≤ c.toNat := by
  intro c hc
  rw [quote, List.mem_append, List.mem_cons, List.mem_flatMap, List.mem_singleton] at hc
  rcases hc with (rfl | ⟨d, -, hd⟩) | rfl
  · decide
  · exact (writes_quoteChar d).forall_mem c hd
  · decide

lemma feed_not_mem_quote (t : Text) : '\n' ∉ quote t := by
  intro h
  exact absurd (le_of_mem_quote t '\n' h) (by decide)

/-- What lines of code give to a place: all that stands behind the place and the equals sign. -/
def assignedTo (place code : Text) : List Text :=
  (Text.splitOn '\n' code).filterMap (Text.after? (place ++ " = ".toList))

def assignment (place value : Text) : Text := place ++ " = ".toList ++ quote value ++ [';']

lemma assignedTo_append_cons (place a b : Text) :
    assignedTo place (a ++ '\n' :: b) = assignedTo place a ++ assignedTo place b := by
  rw [assignedTo, Text.splitOn_append_cons, List.filterMap_append]
  rfl

lemma assignedTo_line {line : Text} (h : '\n' ∉ line) :
    assignedTo place line = (Text.after? (place ++ " = ".toList) line).toList := by
  rw [assignedTo, Text.splitOn_of_not_mem h, List.filterMap_cons]
  cases Text.after? (place ++ " = ".toList) line <;> rfl

lemma feed_not_mem_assignment (hplace : '\n' ∉ place) (value : Text) : '\n' ∉ assignment place value := by
  have hequals : '\n' ∉ " = ".toList := by decide
  have hend : '\n' ∉ [';'] := by decide
  simp only [assignment, List.mem_append, not_or]
  exact ⟨⟨⟨hplace, hequals⟩, feed_not_mem_quote value⟩, hend⟩

lemma assignedTo_assignment (hplace : '\n' ∉ place) (value : Text) :
    assignedTo place (assignment place value) = [quote value ++ [';']] := by
  have hafter : Text.after? (place ++ " = ".toList) (assignment place value) = some (quote value ++ [';']) := by
    rw [Text.after?_eq_some_iff, assignment, List.append_assoc]
  rw [assignedTo_line (feed_not_mem_assignment hplace value), hafter]
  rfl

/-- The places to which the code gives texts. -/
def IsPlace (place : Text) : Prop := place = "s.src".toList ∨ place = "s.nonce".toList

lemma assignedTo_of_none {line : Text} (hfeed : '\n' ∉ line)
    (h : Text.after? (place ++ " = ".toList) line = none) : assignedTo place line = [] := by
  rw [assignedTo_line hfeed, h]
  rfl

lemma assignedTo_guardFrames (hplace : IsPlace place) (s : Script) (code : Text) :
    assignedTo place (guardFrames s code) = assignedTo place code := by
  by_cases hs : s.noFrames = true
  · have hopen : assignedTo place ("if (window.top === window) \x7b // @".toList ++ Directive.noFrames) = [] := by
      rcases hplace with rfl | rfl <;> decide
    have hclose : assignedTo place ['\x7d'] = [] := by
      rcases hplace with rfl | rfl <;> decide
    rw [guardFrames, if_pos hs, outsideFrames_eq, assignedTo_append_cons, assignedTo_append_cons, hopen,
      hclose, List.nil_append, List.append_nil]
  · rw [guardFrames, if_neg hs]

lemma assignedTo_whenIdle (hplace : IsPlace place) (s : Script) :
    assignedTo place (whenIdle s "document.head.appendChild(s);".toList) = [] := by
  unfold whenIdle
  split_ifs
  · rcases hplace with rfl | rfl <;> decide
  · rcases hplace with rfl | rfl <;> decide

lemma bootstrapCode_eq (s : Script) (address : Text) (nonce : Option Text) :
    bootstrapCode s address nonce = guardFrames s
      ("const s = document.createElement(\"script\");".toList ++ '\n' ::
        ("s.setAttribute(".toList ++ quote versionAttribute ++ ", ".toList ++ quote About.version ++ ");".toList ++
          '\n' :: (assignment "s.src".toList address ++ '\n' ::
            ((nonce.toList.flatMap fun n => assignment "s.nonce".toList n ++ ['\n']) ++
              whenIdle s "document.head.appendChild(s);".toList)))) := by
  have hcreate : "const s = document.createElement(\"script\");\n".toList =
      "const s = document.createElement(\"script\");".toList ++ ['\n'] := by decide
  have hversion : ");\n".toList = ");".toList ++ ['\n'] := by decide
  have hline : ";\n".toList = [';', '\n'] := by decide
  have hsrc : "s.src = ".toList = "s.src".toList ++ " = ".toList := by decide
  have hnonce : "s.nonce = ".toList = "s.nonce".toList ++ " = ".toList := by decide
  unfold bootstrapCode
  cases nonce <;>
    simp only [hcreate, hversion, hline, hsrc, hnonce, assignment, Option.toList_none, Option.toList_some,
      List.flatMap_nil, List.flatMap_cons, List.append_assoc, List.cons_append, List.nil_append, List.append_nil]

lemma assignedTo_bootstrapCode (hplace : IsPlace place) (s : Script) (address : Text) (nonce : Option Text) :
    assignedTo place (bootstrapCode s address nonce) =
      assignedTo place (assignment "s.src".toList address) ++
        nonce.toList.flatMap fun n => assignedTo place (assignment "s.nonce".toList n) := by
  have hcreate : assignedTo place "const s = document.createElement(\"script\");".toList = [] := by
    rcases hplace with rfl | rfl <;> decide
  have hversion : assignedTo place ("s.setAttribute(".toList ++ quote versionAttribute ++ ", ".toList ++
      quote About.version ++ ");".toList) = [] := by
    rcases hplace with rfl | rfl <;> decide
  have hlast := assignedTo_whenIdle hplace s
  rw [bootstrapCode_eq, assignedTo_guardFrames hplace, assignedTo_append_cons, assignedTo_append_cons,
    assignedTo_append_cons, hcreate, hversion, List.nil_append, List.nil_append]
  cases nonce with
  | none => simp only [Option.toList_none, List.flatMap_nil, List.nil_append, List.append_nil, hlast]
  | some n =>
    simp only [Option.toList_some, List.flatMap_cons, List.flatMap_nil, List.append_nil, List.append_assoc,
      List.singleton_append]
    rw [assignedTo_append_cons, hlast, List.append_nil]

lemma assignedTo_assignment_of_none {other : Text} (hother : '\n' ∉ other)
    (h : ∀ rest, Text.after? (place ++ " = ".toList) (other ++ rest) = none) (value : Text) :
    assignedTo place (assignment other value) = [] := by
  apply assignedTo_of_none (feed_not_mem_assignment hother value)
  rw [assignment, List.append_assoc, List.append_assoc]
  exact h _

lemma assignedTo_src (s : Script) (address : Text) (nonce : Option Text) :
    assignedTo "s.src".toList (bootstrapCode s address nonce) = [quote address ++ [';']] := by
  have hother (value : Text) : assignedTo "s.src".toList (assignment "s.nonce".toList value) = [] :=
    assignedTo_assignment_of_none (by decide) (fun rest => rfl) value
  rw [assignedTo_bootstrapCode (Or.inl rfl), assignedTo_assignment (by decide)]
  cases nonce with
  | none => rfl
  | some n => simp only [Option.toList_some, List.flatMap_cons, List.flatMap_nil, hother, List.append_nil]

lemma assignedTo_nonce (s : Script) (address : Text) (nonce : Option Text) :
    assignedTo "s.nonce".toList (bootstrapCode s address nonce) =
      nonce.toList.map fun n => quote n ++ [';'] := by
  have hother (value : Text) : assignedTo "s.nonce".toList (assignment "s.src".toList value) = [] :=
    assignedTo_assignment_of_none (by decide) (fun rest => rfl) value
  rw [assignedTo_bootstrapCode (Or.inr rfl), hother, List.nil_append]
  cases nonce with
  | none => rfl
  | some n =>
    rw [Option.toList_some, List.flatMap_cons, List.flatMap_nil, List.append_nil,
      assignedTo_assignment (by decide), List.map_singleton]

lemma mode_of_plan {p : Plan} (h : plan s o = .ok p) : p.mode = Mode.ofScript o.inline s := by
  unfold plan at h
  dsimp only at h
  split at h
  · cases h
    rfl
  · cases h
    rfl
  · split_ifs at h
    cases h
    rfl

lemma exists_plan_of_bootstrap (h : Mode.ofScript o.inline s = .bootstrap) :
    ∃ p address, plan s o = .ok p ∧ p.mode = .bootstrap ∧ s.versionedDownloadUrl? = some address ∧
      p.tag.text = some (bootstrapCode s address o.nonce) := by
  cases hurl : s.downloadUrl with
  | none =>
    rw [Mode.ofScript, hurl, Option.isNone_none, Bool.or_true, if_pos rfl] at h
    cases h
  | some url =>
    obtain ⟨address, haddress⟩ : ∃ address, s.versionedDownloadUrl? = some address := by
      rw [Script.versionedDownloadUrl?, hurl]
      exact ⟨_, rfl⟩
    have hplan : plan s o = .ok {
        mode := .bootstrap, placement := .ofRunAt s.runAt,
        tag := withNonce { bareTag with text := some (bootstrapCode s address o.nonce) } o.nonce } := by
      unfold plan
      simp only [h, haddress]
    exact ⟨_, address, hplan, rfl, haddress, text_withNonce _ o.nonce⟩

/-- A quoted text is a string that is read back as it was. It is the usual string with every `<` replaced, and neither
`<` nor a control character is left in it. So a script that is linked by code gets the address it has and, where one is
given, the nonce. -/
theorem quoted_values_are_read_back (expected : Text) :
    (∀ v, Json.string expected (quote v) = .ok (v, []) ∧ '<' ∉ quote v ∧ (∀ c ∈ quote v, 32 ≤ c.toNat) ∧
      quote v = Text.replaceChar '<' "\\u003c".toList (Json.literal v)) ∧
    (∀ s o, Mode.ofScript o.inline s = .bootstrap → ∃ p, plan s o = .ok p ∧ p.mode = .bootstrap) ∧
    ∀ s o p, plan s o = .ok p → p.mode = .bootstrap →
      ∃ address code, s.versionedDownloadUrl? = some address ∧ p.tag.text = some code ∧
        (assignedTo "s.src".toList code).map (Json.string expected) = [.ok (address, [';'])] ∧
        (assignedTo "s.nonce".toList code).map (Json.string expected) =
          o.nonce.toList.map fun nonce => .ok (nonce, [';']) := by
  refine ⟨?quoted, ?planned, ?assigned⟩
  case quoted =>
    intro v
    have hread := string_quote expected v []
    rw [List.append_nil] at hread
    exact ⟨hread, lt_not_mem_quote v, le_of_mem_quote v, quote_eq_replaceChar v⟩
  case planned =>
    intro s o hmode
    obtain ⟨p, -, hp, hbootstrap, -⟩ := exists_plan_of_bootstrap hmode
    exact ⟨p, hp, hbootstrap⟩
  case assigned =>
    intro s o p hp hbootstrap
    rw [mode_of_plan hp] at hbootstrap
    obtain ⟨q, address, hq, -, haddress, htext⟩ := exists_plan_of_bootstrap hbootstrap
    obtain rfl : p = q := Except.ok.inj (hp.symm.trans hq)
    refine ⟨address, _, haddress, htext, ?src, ?nonce⟩
    case src => rw [assignedTo_src, List.map_singleton, string_quote]
    case nonce =>
      rw [assignedTo_nonce, List.map_map]
      exact List.map_congr_left fun nonce _ => string_quote expected nonce [';']

/-- An address with an end tag and a line of code for the nonce in it, and a nonce that closes its string. -/
theorem quoted_values_are_read_back_of_hostile_address :
    let s : Script := {
      name := "Hostile".toList, version := some "1\"\n".toList, source := [], runAt := .documentIdle,
      noFrames := true, matchPatterns := [], includePatterns := [], excludePatterns := [],
      downloadUrl := some "https://a.test/</script>\ns.nonce = \"b\";\\u003c".toList, unsafeSequences := [] }
    let o : Options := ⟨false, some "\";</sCRIPT>\u0008".toList⟩
    ∃ p code, plan s o = .ok p ∧ p.mode = .bootstrap ∧ p.tag.text = some code ∧
      (assignedTo "s.src".toList code).map (Json.string []) =
        [.ok ("https://a.test/</script>\ns.nonce = \"b\";\\u003c?v=1\"\n".toList, [';'])] ∧
      (assignedTo "s.nonce".toList code).map (Json.string []) =
        [.ok ("\";</sCRIPT>\u0008".toList, [';'])] := by
  intro s o
  obtain ⟨-, hplanned, hassigned⟩ := quoted_values_are_read_back []
  have hmode : Mode.ofScript o.inline s = .bootstrap := by decide
  obtain ⟨p, hp, hbootstrap⟩ := hplanned s o hmode
  obtain ⟨address, code, haddress, htext, hsrc, hnonce⟩ := hassigned s o p hp hbootstrap
  have hurl : s.versionedDownloadUrl? =
      some "https://a.test/</script>\ns.nonce = \"b\";\\u003c?v=1\"\n".toList := by
    decide
  obtain rfl := Option.some.inj (hurl.symm.trans haddress)
  exact ⟨p, code, hp, hbootstrap, htext, hsrc, hnonce⟩

end Injection

end Userscript
