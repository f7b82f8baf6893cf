import Userscript.Pattern.Match
import Userscript.Proofs.Cutting

/-!
# Match patterns as they are written

A match pattern is written as a scheme, a host and a path, and can be taken apart in one way only. The host
is a wildcard, or a base behind any number of wildcards with a dot each. This file says which addresses a
pattern of each form admits, and shows that reading a pattern and matching with it come to just that.
-/

namespace Userscript

namespace SchemePattern

def text : SchemePattern → Text
  | web => "*".toList
  | http => "http".toList
  | https => "https".toList

def schemes : SchemePattern → List Text
  | web => ["http".toList, "https".toList]
  | http => ["http".toList]
  | https => ["https".toList]

lemma parse?_eq_some_iff {t : Text} {s : SchemePattern} : parse? t = some s ↔ t = s.text := by
  constructor
  · intro h
    unfold parse? at h
    split_ifs at h with hweb hhttp hhttps
    · cases h
      exact hweb
    · cases h
      exact hhttp
    · cases h
      exact hhttps
  · rintro rfl
    cases s <;> decide

lemma isMatch_iff {s : SchemePattern} {scheme : Text} : s.isMatch scheme = true ↔ scheme ∈ s.schemes := by
  cases s <;> simp [isMatch, schemes]

lemma web_of_mem_schemes {s : SchemePattern} {scheme : Text} (h : scheme ∈ s.schemes) :
    scheme = "http".toList ∨ scheme = "https".toList := by
  cases s <;> simp_all [schemes]

lemma colon_not_mem_text (s : SchemePattern) : ':' ∉ s.text := by
  cases s <;> decide

end SchemePattern

def wildcards (n : Nat) : Text := (List.replicate n ['*', '.']).flatten

lemma wildcards_succ (n : Nat) : wildcards (n + 1) = '*' :: '.' :: wildcards n := by
  rw [wildcards, List.replicate_succ, List.flatten_cons]
  rfl

lemma length_wildcards (n : Nat) : (wildcards n).length = 2 * n := by
  simp [wildcards, Nat.mul_comm]

lemma slash_not_mem_wildcards (n : Nat) : '/' ∉ wildcards n := by
  simp [wildcards, List.mem_flatten, List.mem_replicate]

/-- The host of a pattern as it is written. -/
inductive HostForm where
  | any
  /-- A base behind some wildcards. -/
  | based (count : Nat) (base : Text) (hne : base ≠ []) (hstar : '*' ∉ base) (hslash : '/' ∉ base)

namespace HostForm

def text : HostForm → Text
  | any => ['*']
  | based count base _ _ _ => wildcards count ++ base

def pattern : HostForm → HostPattern
  | any => .any
  | based 0 base _ _ _ => .exact (Text.lower base)
  | based (_ + 1) base _ _ _ => .below (Text.lower base)

lemma slash_not_mem_text (f : HostForm) : '/' ∉ f.text := by
  cases f with
  | any => decide
  | based count base hne hstar hslash =>
    rw [text, List.mem_append, not_or]
    exact ⟨slash_not_mem_wildcards count, hslash⟩

end HostForm

namespace HostPattern

lemma exists_wildcards (t : Text) : ∃ n, t = wildcards n ++ bare t := by
  fun_induction bare t with
  | case1 r ih =>
    obtain ⟨n, hn⟩ := ih
    refine ⟨n + 1, ?_⟩
    rw [wildcards_succ, List.cons_append, List.cons_append, ← hn]
  | case2 t => exact ⟨0, rfl⟩

lemma bare_of_not_mem {t : Text} (h : '*' ∉ t) : bare t = t := by
  obtain ⟨n, hn⟩ := exists_wildcards t
  cases n with
  | zero => exact hn.symm
  | succ n =>
    rw [hn, wildcards_succ] at h
    exact absurd List.mem_cons_self h

lemma bare_wildcards (n : Nat) {base : Text} (h : '*' ∉ base) : bare (wildcards n ++ base) = base := by
  induction n with
  | zero => exact bare_of_not_mem h
  | succ n ih => rw [wildcards_succ, List.cons_append, List.cons_append, bare, ih]

lemma parse?_of_ne {t : Text} (ht : t ≠ ['*']) (hne : bare t ≠ []) (hstar : '*' ∉ bare t) :
    parse? t = some (if (bare t).length < t.length then below (Text.lower (bare t))
      else exact (Text.lower (bare t))) := by
  have hempty : ((bare t).isEmpty || (bare t).contains '*') = false := by simp [hne, hstar]
  simp only [parse?, ht, hempty, if_false, Bool.false_eq_true]
  split_ifs <;> rfl

theorem parse?_text (f : HostForm) : parse? f.text = some f.pattern := by
  cases f with
  | any => rfl
  | based count base hne hstar hslash =>
    have hbare := bare_wildcards count hstar
    have htext : wildcards count ++ base ≠ ['*'] := by
      intro h
      rw [h] at hbare
      rw [← hbare] at hstar
      exact hstar List.mem_cons_self
    rw [HostForm.text, parse?_of_ne htext (hbare.symm ▸ hne) (hbare.symm ▸ hstar), hbare,
      List.length_append, length_wildcards]
    cases count with
    | zero => rw [if_neg (by omega)]; rfl
    | succ count => rw [if_pos (by omega)]; rfl

theorem exists_form {t : Text} {p : HostPattern} (h : parse? t = some p) (hslash : '/' ∉ t) :
    ∃ f : HostForm, t = f.text := by
  by_cases ht : t = ['*']
  · exact ⟨.any, ht⟩
  · simp only [parse?, ht, if_false] at h
    by_cases hbase : ((bare t).isEmpty || (bare t).contains '*') = true
    · rw [if_pos hbase] at h
      cases h
    · obtain ⟨n, hn⟩ := exists_wildcards t
      rw [Bool.or_eq_true, List.isEmpty_iff, List.contains_iff_mem, not_or] at hbase
      have hslash' : '/' ∉ bare t := fun hmem => hslash (hn ▸ List.mem_append_right _ hmem)
      exact ⟨.based n (bare t) hbase.1 hbase.2 hslash', hn⟩

end HostPattern

namespace MatchPattern

/-- A pattern as it is written. -/
structure Form where
  scheme : SchemePattern
  host : HostForm
  rest : Text

namespace Form

def path (f : Form) : Text := '/' :: f.rest

def text (f : Form) : Text := f.scheme.text ++ ("://".toList ++ (f.host.text ++ f.path))

def everything : Form := ⟨.web, .any, ['*']⟩

end Form

end MatchPattern

/-- What the base of a host is compared with: the host of an address, and its port if the base has a colon.
The port that the scheme implies is filled in. -/
def HostForm.compared (base : Text) (u : Url) (host : Text) : Text :=
  if ':' ∈ base then
    host ++ ':' :: Text.ofNat (u.port.getD (if u.scheme = "http".toList then 80 else 443))
  else host

/-- The host of an address passes: any host there is, or one that is the base or, behind a wildcard, ends with
a dot and the base. The letter case of the base does not count. -/
def HostForm.Admits (f : HostForm) (u : Url) : Prop :=
  ∃ host, u.hostText? = some host ∧ match f with
    | .any => True
    | .based count base _ _ _ =>
      compared base u host = Text.lower base ∨
        1 ≤ count ∧ '.' :: Text.lower base <:+ compared base u host

/-- An address passes when its scheme and its host do and the path is a glob for its path and query. -/
def MatchPattern.Form.Admits (f : MatchPattern.Form) (u : Url) : Prop :=
  u.scheme ∈ f.scheme.schemes ∧ f.host.Admits u ∧ Glob.isMatch f.path u.pathAndQuery = true

namespace Text

lemma lowerChar_eq_colon_iff {c : Char} : lowerChar c = ':' ↔ c = ':' := by
  unfold lowerChar
  split_ifs with h
  · have hlower : ∀ n ∈ List.range 91, 65 ≤ n → Char.ofNat (n + 32) ≠ ':' ∧ Char.ofNat n ≠ ':' := by
      decide
    have hc := hlower c.toNat (List.mem_range.mpr (Nat.lt_succ_of_le h.2)) h.1
    rw [Char.ofNat_toNat] at hc
    exact iff_of_false hc.1 hc.2
  · exact Iff.rfl

lemma colon_mem_lower_iff {t : Text} : ':' ∈ lower t ↔ ':' ∈ t := by
  rw [lower, List.mem_map]
  simp only [lowerChar_eq_colon_iff, exists_eq_right]

end Text

namespace HostForm

lemma namesPort_pattern {count : Nat} {base : Text} (hne : base ≠ []) (hstar : '*' ∉ base)
    (hslash : '/' ∉ base) :
    (based count base hne hstar hslash).pattern.namesPort = true ↔ ':' ∈ base := by
  rw [← Text.colon_mem_lower_iff]
  cases count <;> exact List.contains_iff_mem

lemma isMatch_pattern {count : Nat} {base : Text} (hne : base ≠ []) (hstar : '*' ∉ base)
    (hslash : '/' ∉ base) (t : Text) :
    (based count base hne hstar hslash).pattern.isMatch t = true ↔
      t = Text.lower base ∨ 1 ≤ count ∧ '.' :: Text.lower base <:+ t := by
  cases count with
  | zero => simp [pattern, HostPattern.isMatch]
  | succ count => simp [pattern, HostPattern.isMatch, Text.isSome_beforeSuffix?_iff]

lemma hostWithPort?_of_web {u : Url} (h : u.scheme = "http".toList ∨ u.scheme = "https".toList) :
    u.hostWithPort? = u.hostText?.map fun host =>
      host ++ ':' :: Text.ofNat (u.port.getD (if u.scheme = "http".toList then 80 else 443)) := by
  have hport : (u.port <|> Url.defaultPort? u.scheme) =
      some (u.port.getD (if u.scheme = "http".toList then 80 else 443)) := by
    cases u.port with
    | some n => rfl
    | none => rcases h with h | h <;> rw [h] <;> rfl
  cases hhost : u.hostText? with
  | none => simp [Url.hostWithPort?, hhost]
  | some host => simp [Url.hostWithPort?, hhost, hport]

theorem isMatch_iff_admits (f : HostForm) {u : Url}
    (h : u.scheme = "http".toList ∨ u.scheme = "https".toList) :
    (if f.pattern.namesPort then u.hostWithPort? else u.hostText?).any f.pattern.isMatch = true ↔
      f.Admits u := by
  cases f with
  | any =>
    have hport : any.pattern.namesPort = false := rfl
    have hany : ∀ host, any.pattern.isMatch host = true := fun _ => rfl
    simp [Admits, hport, hany, Option.any_eq_true]
  | based count base hne hstar hslash =>
    have hcompared : (if (based count base hne hstar hslash).pattern.namesPort then u.hostWithPort?
        else u.hostText?) = u.hostText?.map (compared base u) := by
      simp only [namesPort_pattern, hostWithPort?_of_web h]
      unfold compared
      split_ifs <;> simp
    rw [hcompared]
    simp only [Option.any_eq_true, Option.map_eq_some_iff, isMatch_pattern]
    constructor
    · rintro ⟨_, ⟨host, hhost, rfl⟩, hmatch⟩
      exact ⟨host, hhost, hmatch⟩
    · rintro ⟨host, hhost, hmatch⟩
      exact ⟨_, ⟨host, hhost, rfl⟩, hmatch⟩

end HostForm

namespace MatchPattern

lemma text_ne_allUrls (f : Form) : f.text ≠ allUrls := by
  intro h
  have hcolon : ':' ∈ "://".toList := by decide
  have hmem : ':' ∈ f.text := List.mem_append_right _ (List.mem_append_left _ hcolon)
  rw [h] at hmem
  exact absurd hmem (by decide)

theorem parse?_text (f : Form) :
    parse? f.text = some ⟨f.text, f.scheme, f.host.pattern, f.path⟩ := by
  have hnormal : normalize f.text = f.text := if_neg (text_ne_allUrls f)
  have hscheme : Text.cutAtPhrase "://".toList f.text = some (f.scheme.text, f.host.text ++ f.path) :=
    Text.cutAtPhrase_of_not_mem f.scheme.colon_not_mem_text ['/', '/'] (f.host.text ++ f.path)
  have hpath : Text.cutAt '/' (f.host.text ++ f.path) = some (f.host.text, f.rest) :=
    Text.cutAt_eq_some_iff.mpr ⟨rfl, f.host.slash_not_mem_text⟩
  have hread : SchemePattern.parse? f.scheme.text = some f.scheme :=
    SchemePattern.parse?_eq_some_iff.mpr rfl
  simp only [parse?, hnormal, hscheme, Option.bind_eq_bind, Option.bind_some, hread, hpath,
    HostPattern.parse?_text]
  rfl

lemma parse?_allUrls : parse? allUrls = some ⟨allUrls, .web, .any, ['/', '*']⟩ := by decide

/-- A text that can be read as a pattern has one of the forms, or is the one for every web address. -/
theorem exists_form {t : Text} {p : MatchPattern} (h : parse? t = some p) :
    t = allUrls ∨ ∃ f : Form, t = f.text := by
  by_cases ht : t = allUrls
  · exact Or.inl ht
  · refine Or.inr ?_
    rw [parse?, normalize, if_neg ht] at h
    obtain ⟨⟨scheme, rest⟩, hcut, h⟩ := Option.bind_eq_some_iff.mp h
    obtain ⟨s, hs, h⟩ := Option.bind_eq_some_iff.mp h
    obtain ⟨⟨host, path⟩, hpath, h⟩ := Option.bind_eq_some_iff.mp h
    obtain ⟨hp, hhost, -⟩ := Option.bind_eq_some_iff.mp h
    obtain ⟨hrest, hslash⟩ := Text.cutAt_eq_some_iff.mp hpath
    obtain ⟨f, hf⟩ := HostPattern.exists_form hhost hslash
    refine ⟨⟨s, f, path⟩, ?_⟩
    rw [Text.eq_append_of_cutAtPhrase hcut, SchemePattern.parse?_eq_some_iff.mp hs, hrest, hf]
    rfl

lemma isMatchUrl_iff_admits (source : Text) (f : Form) (u : Url) :
    isMatchUrl ⟨source, f.scheme, f.host.pattern, f.path⟩ u = true ↔ f.Admits u := by
  rw [isMatchUrl, Bool.and_eq_true, Bool.and_eq_true, SchemePattern.isMatch_iff, and_assoc]
  exact and_congr_right fun h => and_congr_left fun _ =>
    f.host.isMatch_iff_admits (SchemePattern.web_of_mem_schemes h)

lemma isMatch_iff_admits (source : Text) (f : Form) (t : Text) :
    isMatch ⟨source, f.scheme, f.host.pattern, f.path⟩ t = true ↔
      ∃ u, Url.parse? t = some u ∧ f.Admits u := by
  rw [isMatch, Option.any_eq_true]
  exact exists_congr fun u => and_congr_right fun _ => isMatchUrl_iff_admits source f u

/-- The texts that can be read as patterns are those of the forms and the one for every web address. What is
read matches a text just when that is an address which the form admits. -/
theorem parse?_iff_form :
    (∀ t, (parse? t).isSome = true ↔ t = allUrls ∨ ∃ f : Form, t = f.text) ∧
    (∀ f : Form, ∃ p, parse? f.text = some p ∧
      ∀ t, p.isMatch t = true ↔ ∃ u, Url.parse? t = some u ∧ f.Admits u) ∧
    (∃ p, parse? allUrls = some p ∧
      ∀ t, p.isMatch t = true ↔ ∃ u, Url.parse? t = some u ∧ Form.everything.Admits u) := by
  refine ⟨fun t => ⟨fun h => ?_, ?_⟩, fun f => ⟨_, parse?_text f, isMatch_iff_admits f.text f⟩,
    ⟨_, parse?_allUrls, isMatch_iff_admits allUrls Form.everything⟩⟩
  · obtain ⟨p, hp⟩ := Option.isSome_iff_exists.mp h
    exact exists_form hp
  · rintro (rfl | ⟨f, rfl⟩)
    · rw [parse?_allUrls]
      rfl
    · rw [parse?_text]
      rfl

end MatchPattern

end Userscript
