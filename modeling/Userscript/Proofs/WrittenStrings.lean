import Userscript.Json.Reader
import Mathlib.Data.List.Induction
import Mathlib.Tactic.Lemma
import Mathlib.Tactic.SplitIfs

/-!
# Written strings

A string of the JSON notation may be written in many ways, since each of its characters stands either for itself or
behind a backslash. Each of them is read back, whatever stands behind the string.
-/

namespace Userscript

namespace Text

lemma utf8Char_ne_nil (c : Char) : utf8Char c ≠ [] := by
  unfold utf8Char
  dsimp only
  split_ifs <;> exact List.cons_ne_nil _ _

lemma length_le_length_utf8 (t : Text) : t.length ≤ (utf8 t).length := by
  induction t with
  | nil => exact Nat.le_refl 0
  | cons c t ih =>
    have hc := List.length_pos_iff.mpr (utf8Char_ne_nil c)
    rw [utf8] at ih
    rw [utf8, List.flatMap_cons, List.length_append, List.length_cons]
    omega

lemma le_toNat_of_hexValue? {c : Char} {d : Nat} (h : hexValue? c = some d) : 32 ≤ c.toNat := by
  have hleast : ∀ first : Char, 32 ≤ first.toNat → first ≤ c → 32 ≤ c.toNat := fun _ => Nat.le_trans
  unfold hexValue? at h
  split_ifs at h with hdigit hsmall hcapital
  · exact hleast '0' (by decide) hdigit.1
  · exact hleast 'a' (by decide) hsmall.1
  · exact hleast 'A' (by decide) hcapital.1

lemma le_toNat_of_digitsValue? {base n : Nat} {t : Text} (h : digitsValue? base t = some n) :
    ∀ c ∈ t, 32 ≤ c.toNat := by
  -- The value is made from the front, so what is known of the whole text tells of its last character first.
  induction t using List.reverseRecOn generalizing n with
  | nil => exact List.forall_mem_nil _
  | append_singleton t last ih =>
    rw [digitsValue?, List.foldl_append] at h
    obtain ⟨m, hfront, hlast⟩ := Option.bind_eq_some_iff.mp h
    obtain ⟨d, hd, -⟩ := Option.bind_eq_some_iff.mp hlast
    intro c hc
    rcases List.mem_append.mp hc with hc | hc
    · exact ih hfront c hc
    · rw [List.mem_singleton.mp hc]
      exact le_toNat_of_hexValue? hd

end Text

namespace Json

variable {c : Char} {written : Text}

def IsEscape (c : Char) (e : Text) : Prop := ∀ rest, escapeLetter (e ++ rest) = .ok (c, e.length)

/-- The text is one way to write the character in a string. Control characters cannot stand for themselves, nor can
the quotation mark and the backslash. -/
inductive Writes : Char → Text → Prop where
  | itself {c : Char} (hmark : c ≠ '"') (hbackslash : c ≠ '\\') (hcontrol : 32 ≤ c.toNat) : Writes c [c]
  | escape {c : Char} {e : Text} (he : IsEscape c e) (hcontrol : ∀ d ∈ e, 32 ≤ d.toNat) :
    Writes c ('\\' :: e)

lemma Writes.forall_mem (h : Writes c written) : ∀ d ∈ written, 32 ≤ d.toNat := by
  cases h with
  | itself _ _ hcontrol =>
    intro d hd
    rwa [List.mem_singleton.mp hd]
  | escape _ hcontrol => exact List.forall_mem_cons.mpr ⟨by decide, hcontrol⟩

lemma isEscape_of_simpleEscape? {letter : Char} (hletter : letter ≠ 'u')
    (h : simpleEscape? letter = some c) : IsEscape c [letter] := by
  intro rest
  rw [List.singleton_append, escapeLetter, h]
  · rfl
  · exact hletter

lemma hexDigits_append {digits : Text} {n : Nat} (hlength : digits.length = 4)
    (hvalue : Text.digitsValue? 16 digits = some n) (rest : Text) : hexDigits (digits ++ rest) = .ok n := by
  have hbytes : 4 ≤ (Text.utf8 digits).length := hlength ▸ Text.length_le_length_utf8 digits
  rw [hexDigits, List.take_left' hlength, if_neg (Nat.not_lt.mpr hbytes), hvalue]

lemma writes_of_digitsValue? {digits : Text} {n : Nat} (hlength : digits.length = 4)
    (hvalue : Text.digitsValue? 16 digits = some n) (hn : n < 0xD800) :
    Writes (Char.ofNat n) ('\\' :: 'u' :: digits) := by
  refine .escape ?escape (List.forall_mem_cons.mpr ⟨by decide, Text.le_toNat_of_digitsValue? hvalue⟩)
  intro rest
  rw [List.cons_append, escapeLetter, hexDigits_append hlength hvalue, List.length_cons, hlength]
  simp [bind, Except.bind, hn]

lemma stringRest_of_writes (h : Writes c written) (rest : Text) :
    stringRest (written ++ rest) = (stringRest rest).map fun (s, t) => (c :: s, t) := by
  cases h with
  | itself hmark hbackslash hcontrol =>
    rw [List.singleton_append, stringRest, if_neg hmark, if_neg hbackslash,
      if_neg (Nat.not_lt.mpr hcontrol)]
  | escape he _ =>
    rw [List.cons_append, stringRest, if_neg (by decide), if_pos rfl, he rest]
    simp only [List.drop_left]

/-- A string is read back however its characters are written. -/
theorem string_of_writes {write : Char → Text} (h : ∀ c, Writes c (write c)) (expected t rest : Text) :
    string expected ('"' :: t.flatMap write ++ '"' :: rest) = .ok (t, rest) := by
  have hrest : stringRest (t.flatMap write ++ '"' :: rest) = .ok (t, rest) := by
    induction t with
    | nil => rw [List.flatMap_nil, List.nil_append, stringRest, if_pos rfl]
    | cons c t ih =>
      rw [List.flatMap_cons, List.append_assoc, stringRest_of_writes (h c), ih]
      rfl
  rw [List.cons_append, string, skipBlanks, List.dropWhile_cons_of_neg (by decide)]
  exact hrest

def letterFor? (c : Char) : Option Char :=
  if c = '"' ∨ c = '\\' then some c
  else if c = '\n' then some 'n'
  else if c = '\r' then some 'r'
  else if c = '\t' then some 't'
  else if c.toNat = 8 then some 'b'
  else if c.toNat = 12 then some 'f'
  else none

def controlDigits (n : Nat) : Text := "00".toList ++ (if n < 16 then ['0'] else []) ++ Text.hexOfNat n

/-- A character as it is usually written: by a letter if there is one for it, by its number if it is any other control
character, and as itself otherwise. -/
def escapeChar (c : Char) : Text :=
  match letterFor? c with
  | some letter => ['\\', letter]
  | none => if c.toNat < 32 then '\\' :: 'u' :: controlDigits c.toNat else [c]

def literal (t : Text) : Text := '"' :: t.flatMap escapeChar ++ ['"']

lemma simpleEscape?_of_letterFor? {letter : Char} (h : letterFor? c = some letter) :
    simpleEscape? letter = some c ∧ letter ≠ 'u' ∧ 32 ≤ letter.toNat := by
  have hnumber : ∀ n, c.toNat = n → Char.ofNat n = c := by
    rintro n rfl
    exact Char.ofNat_toNat c
  unfold letterFor? at h
  split_ifs at h with hself hfeed hreturn htab hback hform
  all_goals
    obtain rfl := Option.some.inj h
  · rcases hself with rfl | rfl <;> decide
  · exact ⟨hfeed ▸ by decide, by decide, by decide⟩
  · exact ⟨hreturn ▸ by decide, by decide, by decide⟩
  · exact ⟨htab ▸ by decide, by decide, by decide⟩
  · exact ⟨hnumber 8 hback ▸ by decide, by decide, by decide⟩
  · exact ⟨hnumber 12 hform ▸ by decide, by decide, by decide⟩

lemma eq_of_letterFor?_eq_none (h : letterFor? c = none) : c ≠ '"' ∧ c ≠ '\\' := by
  rw [← not_or]
  intro hself
  rw [letterFor?, if_pos hself] at h
  cases h

lemma writes_controlDigits (h : c.toNat < 32) : Writes c ('\\' :: 'u' :: controlDigits c.toNat) := by
  have hlength : ∀ n < 32, (controlDigits n).length = 4 := by decide
  have hvalue : ∀ n < 32, Text.digitsValue? 16 (controlDigits n) = some n := by decide
  have hwrites := writes_of_digitsValue? (hlength _ h) (hvalue _ h) (by omega)
  rwa [Char.ofNat_toNat] at hwrites

theorem writes_escapeChar (c : Char) : Writes c (escapeChar c) := by
  unfold escapeChar
  cases hletter : letterFor? c with
  | some letter =>
    obtain ⟨hescape, hne, hcontrol⟩ := simpleEscape?_of_letterFor? hletter
    apply Writes.escape (isEscape_of_simpleEscape? hne hescape)
    intro d hd
    rwa [List.mem_singleton.mp hd]
  | none =>
    obtain ⟨hmark, hbackslash⟩ := eq_of_letterFor?_eq_none hletter
    by_cases hcontrol : c.toNat < 32
    · simp only [if_pos hcontrol]
      exact writes_controlDigits hcontrol
    · simp only [if_neg hcontrol]
      exact Writes.itself hmark hbackslash (Nat.not_lt.mp hcontrol)

end Json

end Userscript
