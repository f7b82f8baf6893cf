import Userscript.Proofs.WebAddresses
import Mathlib.Data.List.Infix
import Mathlib.Data.List.TakeWhile
import Mathlib.Tactic.ByContra
import Mathlib.Tactic.SplitIfs

/-!
# Names of query parameters

The query of a web address stands between the first question mark and the first number sign, and is cut into
parts. The name of a parameter is decoded from what its part has before the first equals sign. No character outside
ASCII and nothing that is encoded reaches over a question mark or an encoded control, so what stands on both sides
of one is decoded on its own.
-/

namespace Userscript

namespace Text

lemma least_of_readLead {b : UInt8} {p : Partial} (h : (readLead b).2 = some p) : 0x80 ≤ p.least := by
  unfold readLead at h
  dsimp only at h
  split_ifs at h <;> cases h <;> simp

lemma decodeUtf8From_append_cons {b : UInt8} (hb : b.toNat < 0x80) {p : Option Partial}
    (hp : ∀ q ∈ p, 0x80 ≤ q.least) (x y : List UInt8) :
    decodeUtf8From p (x ++ b :: y) = decodeUtf8From p x ++ Char.ofNat b.toNat :: decodeUtf8 y := by
  have hlead : readLead b = ([Char.ofNat b.toNat], none) := if_pos hb
  -- What has been begun waits for a byte from 0x80 on, in every state that the bytes of `x` lead to.
  induction x generalizing p with
  | nil =>
    cases p with
    | none => simp [decodeUtf8From, hlead, decodeUtf8]
    | some q =>
      have hq : ¬(q.least ≤ b.toNat ∧ b.toNat ≤ q.most) := by
        have := hp q rfl
        omega
      simp [decodeUtf8From, hlead, hq, decodeUtf8]
  | cons a x ih =>
    have hnext := ih fun q hq => least_of_readLead (b := a) hq
    cases p with
    | none => simp only [List.cons_append, decodeUtf8From, hnext, List.append_assoc]
    | some q =>
      by_cases ha : q.least ≤ a.toNat ∧ a.toNat ≤ q.most
      · by_cases hmissing : q.missing = 1
        · have hdone := ih (p := none) (by simp)
          simp [decodeUtf8From, ha, hmissing, hdone]
        · have hmore := ih (p := some ⟨q.missing - 1, 0x80, 0xBF, q.value * 64 + (a.toNat - 0x80)⟩) (by simp)
          simp [decodeUtf8From, ha, hmissing, hmore]
      · simp only [List.cons_append, decodeUtf8From, if_neg ha, hnext, List.append_assoc]

theorem decodeUtf8_append_cons {b : UInt8} (hb : b.toNat < 0x80) (x y : List UInt8) :
    decodeUtf8 (x ++ b :: y) = decodeUtf8 x ++ Char.ofNat b.toNat :: decodeUtf8 y :=
  decodeUtf8From_append_cons hb (by simp) x y

lemma takeWhile_append_of_not_mem {c : Char} {a : Text} (h : c ∉ a) (b : Text) :
    (a ++ b).takeWhile (· != c) = a ++ b.takeWhile (· != c) :=
  List.takeWhile_append_of_pos fun _ hd => bne_iff_ne.mpr (ne_of_mem_of_not_mem hd h)

lemma takeWhile_of_not_mem {c : Char} {a : Text} (h : c ∉ a) : a.takeWhile (· != c) = a := by
  simpa using takeWhile_append_of_not_mem h []

lemma takeWhile_append_of_mem {c : Char} {a : Text} (h : c ∈ a) (b : Text) :
    (a ++ b).takeWhile (· != c) = a.takeWhile (· != c) := by
  rw [List.takeWhile_append, if_neg]
  intro hlength
  have hall := List.takeWhile_eq_self_iff.mp ((List.takeWhile_prefix _).eq_of_length hlength) c h
  simp at hall

end Text

namespace Url

/-- A percent sign that no two hexadecimal digits follow stands for itself, and so does any other character. -/
lemma percentDecode_cons {c : Char} {t : Text}
    (h : c = '%' → ∀ a b r, t = a :: b :: r → Text.hexValue? a = none ∨ Text.hexValue? b = none) :
    percentDecode (c :: t) = Text.utf8Char c ++ percentDecode t := by
  by_cases hc : c = '%'
  · subst hc
    match t, h with
    | [], _ => simp [percentDecode]
    | [a], _ => simp [percentDecode]
    | a :: b :: r, h =>
      rw [percentDecode]
      rcases h rfl a b r rfl with ha | hb
      · rw [ha]
      · rw [hb]
        cases Text.hexValue? a <;> rfl
  · rw [percentDecode]
    exact fun a b r heq _ => hc heq

theorem percentDecode_append {x y : Text} (hy : ∀ c ∈ y.head?, Text.hexValue? c = none) :
    percentDecode (x ++ y) = percentDecode x ++ percentDecode y := by
  fun_induction percentDecode x with
  | case1 => rfl
  | case2 a b r m n hb ha ih =>
    simp only [List.cons_append]
    rw [percentDecode]
    simp [ha, hb, ih]
  | case3 a b r h ih =>
    rw [List.append_assoc, ← ih]
    apply percentDecode_cons
    rintro - a' b' r' heq
    cases heq
    simp only [Option.eq_none_iff_forall_ne_some]
    by_contra! hboth
    obtain ⟨⟨m, hm⟩, n, hn⟩ := hboth
    exact h m n hm hn
  | case4 c r h ih =>
    rw [List.append_assoc, ← ih]
    apply percentDecode_cons
    -- Less than two characters are left of `x`, so one of the two comes from the front of `y`.
    rintro rfl a b r' heq
    match r, h with
    | [], _ =>
      have hfront : y = a :: b :: r' := heq
      exact .inl (hy a (by rw [hfront]; rfl))
    | [_], _ =>
      have hfront : y = b :: r' := (List.cons_eq_cons.mp heq).2
      exact .inr (hy b (by rw [hfront]; rfl))
    | a' :: b' :: r, h => exact (h a' b' r rfl rfl).elim

lemma hexValue?_digit :
    ∀ n < 16, Text.hexValue? (Char.ofNat (if n < 10 then 48 + n else 55 + n)) = some n := by
  decide

lemma percentDecode_percentByte (b : UInt8) (y : Text) :
    percentDecode (percentByte b ++ y) = b :: percentDecode y := by
  have hb := b.toNat_lt
  have hhigh := hexValue?_digit (b.toNat / 16) (by omega)
  have hlow := hexValue?_digit (b.toNat % 16) (by omega)
  have hvalue : UInt8.ofNat (b.toNat / 16 * 16 + b.toNat % 16) = b := by
    rw [Nat.div_add_mod', UInt8.ofNat_toNat]
  unfold percentByte
  simp only [List.cons_append, List.nil_append]
  rw [percentDecode, hhigh, hlow]
  dsimp only
  rw [hvalue]

lemma toNat_byte {c : Char} (h : c.toNat < 0x80) : (UInt8.ofNat c.toNat).toNat = c.toNat := by
  rw [UInt8.toNat_ofNat', Nat.mod_eq_of_lt (by omega)]

lemma decodeParameter_append_percentByte {c : Char} (hc : c.toNat ≤ 0x20) (x y : Text) :
    decodeParameter (x ++ (percentByte (UInt8.ofNat c.toNat) ++ y)) =
      decodeParameter x ++ c :: decodeParameter y := by
  have hplus : ∀ n ≤ 0x20, (percentByte (UInt8.ofNat n)).map (fun c => if c = '+' then ' ' else c) =
      percentByte (UInt8.ofNat n) := by decide
  have hbyte := toNat_byte (c := c) (by omega)
  have hfirst : ∀ d ∈ (percentByte (UInt8.ofNat c.toNat) ++ y.map fun c => if c = '+' then ' ' else c).head?,
      Text.hexValue? d = none := by
    rintro d ⟨⟩
    rfl
  unfold decodeParameter
  rw [List.map_append, List.map_append, hplus _ hc, percentDecode_append hfirst, percentDecode_percentByte,
    Text.decodeUtf8_append_cons (by omega), hbyte, Char.ofNat_toNat]

lemma decodeParameter_append_cons {c : Char} (hascii : c.toNat < 0x80) (hdigit : Text.hexValue? c = none)
    (hpercent : c ≠ '%') (hplus : c ≠ '+') (x y : Text) :
    decodeParameter (x ++ c :: y) = decodeParameter x ++ c :: decodeParameter y := by
  have hwritten : Text.utf8Char c = [UInt8.ofNat c.toNat] := by simp [Text.utf8Char, hascii]
  have hbyte := toNat_byte hascii
  unfold decodeParameter
  rw [List.map_append, List.map_cons, if_neg hplus, percentDecode_append (by simpa using hdigit),
    percentDecode_cons (by simp [hpercent]), hwritten, List.singleton_append,
    Text.decodeUtf8_append_cons (by omega), hbyte, Char.ofNat_toNat]

def queryParts (u : Url) : List Text := Text.splitOn '&' (u.query.getD [])

def partName (part : Text) : Text := decodeParameter (part.takeWhile (· != '='))

/-- A part names a parameter. Empty parts name none. -/
def Names (parts : List Text) (name : Text) : Prop := ∃ part ∈ parts, part ≠ [] ∧ partName part = name

lemma hasParameter_iff {u : Url} {name : Text} : u.hasParameter name = true ↔ Names u.queryParts name := by
  simp [hasParameter, parameterNames, Names, queryParts, partName, and_assoc]

lemma not_names_empty (name : Text) : ¬Names [[]] name := by
  simp [Names]

lemma names_append_iff {ps qs : List Text} {name : Text} :
    Names (ps ++ qs) name ↔ Names ps name ∨ Names qs name := by
  simp [Names, or_and_right, exists_or]

lemma names_cons_iff {p : Text} {ps : List Text} {name : Text} :
    Names (p :: ps) name ↔ (p ≠ [] ∧ partName p = name) ∨ Names ps name := by
  simp [Names]

lemma partName_append {a : Text} (h : '=' ∈ a) (b : Text) : partName (a ++ b) = partName a := by
  rw [partName, Text.takeWhile_append_of_mem h, partName]

lemma partName_append_cons {a : Text} (h : '=' ∉ a) (b : Text) :
    partName (a ++ '=' :: b) = decodeParameter a := by
  rw [partName, Text.takeWhile_append_of_not_mem h, List.takeWhile_cons_of_neg (by decide), List.append_nil]

lemma partName_of_not_mem {a : Text} (h : '=' ∉ a) : partName a = decodeParameter a := by
  rw [partName, Text.takeWhile_of_not_mem h]

/-- The text between the first question mark and the first number sign behind it, unless a number sign stands before
that question mark. -/
def queryText? (t : Text) : Option Text := (Text.cutAt '?' (t.takeWhile (· != '#'))).map Prod.snd

/-- A text as it is encoded in the query of a web address. -/
def encodeQuery (t : Text) : Text := percentEncode EncodeSet.specialQuery t

lemma encodeQuery_append (a b : Text) : encodeQuery (a ++ b) = encodeQuery a ++ encodeQuery b :=
  List.flatMap_append

lemma cutQuery_web_snd (t : Text) : (cutQuery .web t).2 = (queryText? t).map encodeQuery := by
  unfold cutQuery queryText?
  dsimp only
  cases Text.cutAt '?' (t.takeWhile (· != '#')) <;> rfl

lemma queryText?_append_of_none {a : Text} (hnumber : '#' ∉ a) (h : queryText? a = none) (t : Text) :
    queryText? (a ++ t) = queryText? t := by
  rw [queryText?, Text.takeWhile_of_not_mem hnumber, Option.map_eq_none_iff] at h
  unfold queryText?
  rw [Text.takeWhile_append_of_not_mem hnumber, Text.cutAt_append, h]
  dsimp only
  rw [Option.map_map]
  rfl

lemma queryText?_append_of_some {a q : Text} (hnumber : '#' ∉ a) (h : queryText? a = some q) (t : Text) :
    queryText? (a ++ t) = some (q ++ t.takeWhile (· != '#')) := by
  rw [queryText?, Text.takeWhile_of_not_mem hnumber] at h
  obtain ⟨⟨x, y⟩, hcut, rfl⟩ := Option.map_eq_some_iff.mp h
  unfold queryText?
  rw [Text.takeWhile_append_of_not_mem hnumber, Text.cutAt_append, hcut]
  rfl

lemma queryText?_append_of_mem {a : Text} (h : '#' ∈ a) (t : Text) : queryText? (a ++ t) = queryText? a := by
  unfold queryText?
  rw [Text.takeWhile_append_of_mem h]

lemma queryText?_append_of_plain {a : Text} (h : ∀ c ∈ a, c ≠ '?' ∧ c ≠ '#') (t : Text) :
    queryText? (a ++ t) = queryText? t := by
  have hnumber : '#' ∉ a := fun hc => (h '#' hc).2 rfl
  refine queryText?_append_of_none hnumber ?_ t
  rw [queryText?, Text.takeWhile_of_not_mem hnumber, Option.map_eq_none_iff, Option.eq_none_iff_forall_ne_some]
  rintro ⟨x, y⟩ hcut
  obtain ⟨rfl, -⟩ := Text.cutAt_eq_some_iff.mp hcut
  exact (h '?' (by simp)).1 rfl

lemma mem_of_mem_cutUser {t : Text} {c : Char} (h : c ∈ (cutUser t).2) : c ∈ t := by
  unfold cutUser at h
  dsimp only at h
  split_ifs at h
  · exact h
  · exact List.mem_reverse.mp ((List.takeWhile_sublist _).subset (List.mem_reverse.mp h))

lemma mem_of_mem_cutPort {inBrackets : Bool} {t digits : Text} (h : (cutPort inBrackets t).2 = some digits)
    {c : Char} (hc : c ∈ digits) : c ∈ t := by
  induction t generalizing inBrackets with
  | nil => cases h
  | cons d r ih =>
    rw [cutPort] at h
    split_ifs at h
    · cases h
      exact List.mem_cons_of_mem d hc
    · exact List.mem_cons_of_mem d (ih h)

lemma mem_of_mem_left {kind : SchemeKind} {scheme t left : Text} {atEnd : Bool} {host : Option Host}
    {port : Option Nat} (h : authority? kind scheme t atEnd = some (host, port, left)) {c : Char} (hc : c ∈ left) :
    c ∈ t := by
  unfold authority? at h
  dsimp only at h
  obtain ⟨found, -, h⟩ := Option.bind_eq_some_iff.mp h
  split_ifs at h
  · cases h
  · cases hdigits : (cutPort false (cutUser t).2).2 with
    | none =>
      rw [hdigits] at h
      cases h
      cases hc
    | some digits =>
      rw [hdigits] at h
      dsimp only at h
      obtain ⟨found', -, h⟩ := Option.bind_eq_some_iff.mp h
      cases h
      exact mem_of_mem_cutUser (mem_of_mem_cutPort hdigits ((List.dropWhile_sublist _).subset hc))

lemma query_of_withAuthority_web {scheme t : Text} {u : Url} (h : withAuthority .web scheme t = some u) :
    u.query = (queryText? t).map encodeQuery := by
  unfold withAuthority at h
  obtain ⟨⟨host, port, left⟩, hauthority, h⟩ := Option.bind_eq_some_iff.mp h
  have hquery : (cutQuery .web (left ++ (cutAuthority .web t).2)).2 = u.query :=
    congrArg query (Option.some.inj h)
  have hfront : ∀ c ∈ (cutAuthority .web t).1, c ≠ '?' ∧ c ≠ '#' := by
    intro c hc
    have hinside := List.mem_takeWhile_imp hc
    simp only [Bool.not_eq_true', Bool.or_eq_false_iff, beq_eq_false_iff_ne] at hinside
    exact hinside.1
  have hleft : ∀ c ∈ left, c ≠ '?' ∧ c ≠ '#' := fun c hc => hfront c (mem_of_mem_left hauthority hc)
  have hsplit : (cutAuthority .web t).1 ++ (cutAuthority .web t).2 = t := List.takeWhile_append_dropWhile
  rw [← hquery, cutQuery_web_snd, queryText?_append_of_plain hleft, ← queryText?_append_of_plain hfront, hsplit]

lemma queryText?_of_cutScheme? {t scheme rest : Text} (h : cutScheme? t = some (scheme, rest)) :
    queryText? t = queryText? (rest.dropWhile (isSlash .web)) := by
  obtain ⟨⟨written, rest'⟩, hcut, h⟩ := Option.bind_eq_some_iff.mp h
  dsimp only at h
  split_ifs at h with hchars
  cases h
  obtain ⟨rfl, -⟩ := Text.cutAt_eq_some_iff.mp hcut
  rw [Bool.and_eq_true, List.all_eq_true] at hchars
  have hscheme : ∀ c ∈ written, c ≠ '?' ∧ c ≠ '#' := by
    intro c hc
    constructor
    · rintro rfl
      exact absurd (hchars.2 '?' hc) (by decide)
    · rintro rfl
      exact absurd (hchars.2 '#' hc) (by decide)
  have hslashes : ∀ c ∈ rest.takeWhile (isSlash .web), c ≠ '?' ∧ c ≠ '#' := by
    intro c hc
    have hslash := List.mem_takeWhile_imp hc
    constructor
    · rintro rfl
      exact absurd hslash (by decide)
    · rintro rfl
      exact absurd hslash (by decide)
  have hcolon : queryText? (':' :: rest) = queryText? rest :=
    queryText?_append_of_plain (List.forall_mem_singleton.mpr (by decide)) rest
  rw [queryText?_append_of_plain hscheme, hcolon, ← queryText?_append_of_plain hslashes (rest.dropWhile _),
    List.takeWhile_append_dropWhile]

/-- The query of a web address is encoded from the text between its first question mark and its first number sign. -/
theorem query_of_parse? {t scheme rest : Text} {u : Url} (hcut : cutScheme? (clean t) = some (scheme, rest))
    (hkind : SchemeKind.ofScheme scheme = .web) (h : parse? t = some u) :
    u.query = (queryText? (clean t)).map encodeQuery := by
  rw [parse?_of_cutScheme? hcut hkind] at h
  rw [query_of_withAuthority_web h, queryText?_of_cutScheme? hcut]

end Url

end Userscript
