import Userscript.Proofs.DomainNames
import Userscript.Url.Parser

/-!
# Web addresses

Every web address has a host, and a path that begins with a slash. The text of the host is made of plain
characters, unless the host is an address of version 6, which stands between brackets and has colons.
-/

namespace Userscript.Url

/-- The text of a host is not empty and is made of plain characters. -/
def Host.IsPlain (h : Host) : Prop := h.text ≠ [] ∧ ∀ c ∈ h.text, Url.IsPlain c

def Host.IsIpv6 (h : Host) : Prop := ∃ pieces, h = .ipv6 pieces

lemma isPlain_ipv4 (address : Nat) : (Host.ipv4 address).IsPlain := by
  refine ⟨by simp [Host.text, ipv4Text, Text.join], ?_⟩
  refine Text.forall_mem_join (List.forall_mem_singleton.mpr (by decide))
    (List.forall_mem_map.mpr fun k _ => ?_)
  exact isPlain_of_mem_toDigits (by decide) (by decide)

lemma length_of_ipv6? {t : Text} {pieces : List Nat} (h : ipv6? t = some pieces) : pieces.length = 8 := by
  unfold ipv6? at h
  dsimp only at h
  split at h
  · obtain ⟨head, -, h⟩ := Option.bind_eq_some_iff.mp h
    obtain ⟨tail, -, h⟩ := Option.bind_eq_some_iff.mp h
    split_ifs at h with hgiven
    rw [← Option.some.inj h]
    simp only [List.length_append, List.length_replicate]
    omega
  · obtain ⟨all, -, h⟩ := Option.bind_eq_some_iff.mp h
    split_ifs at h with hlength
    rwa [← Option.some.inj h]

lemma slash_not_mem_ipv6Text (pieces : List Nat) : '/' ∉ ipv6Text pieces := by
  have hwritten (ps : List Nat) : '/' ∉ Text.join [':'] (ps.map Text.hexOfNat) :=
    Text.not_mem_join (by decide) (List.forall_mem_map.mpr fun n _ hc =>
      (isPlain_of_mem_toDigits (by decide) (Nat.le_refl 16) _ hc).ne_slash rfl)
  unfold ipv6Text
  dsimp only
  split_ifs
  · exact hwritten _
  · exact List.not_mem_append (List.not_mem_append (hwritten _) (by decide)) (hwritten _)

lemma colon_mem_ipv6Text {pieces : List Nat} (h : 2 ≤ pieces.length) : ':' ∈ ipv6Text pieces := by
  unfold ipv6Text
  dsimp only
  split_ifs
  · match pieces, h with
    | a :: b :: rest, _ => simp [Text.join]
  · simp

lemma mem_text_ipv6 {pieces : List Nat} (h : pieces.length = 8) :
    '/' ∉ (Host.ipv6 pieces).text ∧ ':' ∈ (Host.ipv6 pieces).text := by
  have hslash := slash_not_mem_ipv6Text pieces
  have hcolon := colon_mem_ipv6Text (by omega : 2 ≤ pieces.length)
  simp [Host.text, hslash, hcolon]

/-- A host of a web address is plain, or an address of version 6 with all its pieces. -/
theorem webHost?_cases {t : Text} {h : Host} (hread : webHost? t = some h) :
    h.IsPlain ∧ ¬h.IsIpv6 ∨ ∃ pieces, h = .ipv6 pieces ∧ pieces.length = 8 := by
  unfold webHost? at hread
  split at hread
  · obtain ⟨inner, -, hread⟩ := Option.bind_eq_some_iff.mp hread
    obtain ⟨pieces, hpieces, rfl⟩ := Option.map_eq_some_iff.mp hread
    exact Or.inr ⟨pieces, rfl, length_of_ipv6? hpieces⟩
  · refine Or.inl ?_
    obtain ⟨name, hname, hread⟩ := Option.bind_eq_some_iff.mp hread
    by_cases hempty : name.isEmpty = true
    · simp [hempty] at hread
    · rw [if_neg hempty] at hread
      dsimp only at hread
      split_ifs at hread
      · obtain ⟨address, -, rfl⟩ := Option.map_eq_some_iff.mp hread
        exact ⟨isPlain_ipv4 address, fun ⟨_, heq⟩ => by cases heq⟩
      · cases hread
        have hne : name ≠ [] := by simpa using hempty
        exact ⟨⟨hne, Idna.isPlain_of_toAscii? hname⟩, fun ⟨_, heq⟩ => by cases heq⟩

lemma webHost?_of_name {t name : Text} (hbracket : t.head? ≠ some '[')
    (hname : Idna.toAscii? (Text.decodeUtf8 (percentDecode t)) = some name) (hne : name ≠ [])
    (hnumber : endsInNumber name = false) : webHost? t = some (.domain name) := by
  unfold webHost?
  split
  · exact absurd rfl hbracket
  · simp [hname, hne, hnumber]

lemma addSegments_ne_nil (kind : SchemeKind) {segments : List Text} (h : segments ≠ []) (path : List Text) :
    addSegments kind path segments ≠ [] := by
  induction segments generalizing path with
  | nil => exact absurd rfl h
  | cons s rest ih =>
    rw [addSegments]
    by_cases hrest : rest = []
    · subst hrest
      simp only [List.isEmpty_nil, if_true, addSegments]
      split_ifs <;> exact List.append_ne_nil_of_right_ne_nil _ (List.cons_ne_nil _ _)
    · dsimp only
      split_ifs <;> exact ih hrest _

lemma exists_readPath_eq (kind : SchemeKind) (t : Text) : ∃ rest, readPath kind t = '/' :: rest := by
  have hpieces : Text.splitWhere (isSlash kind) t ≠ [] := by
    rw [Text.splitWhere_eq_splitOnP]
    exact List.splitOnP_ne_nil _ t
  obtain ⟨s, segments, hsegments⟩ := List.exists_cons_of_ne_nil (addSegments_ne_nil kind hpieces [])
  exact ⟨s ++ pathText segments, by rw [readPath, hsegments]; rfl⟩

lemma exists_of_withAuthority_web {scheme t : Text} {u : Url} (h : withAuthority .web scheme t = some u) :
    u.scheme = scheme ∧ (∃ name host, webHost? name = some host ∧ u.host = some host) ∧
      ∃ rest, u.path = '/' :: rest := by
  unfold withAuthority at h
  obtain ⟨⟨host, port, left⟩, hauthority, h⟩ := Option.bind_eq_some_iff.mp h
  cases h
  refine ⟨rfl, ?_, exists_readPath_eq .web _⟩
  obtain ⟨found, hfound, h⟩ := Option.bind_eq_some_iff.mp hauthority
  obtain ⟨host', hhost', rfl⟩ := Option.map_eq_some_iff.mp hfound
  refine ⟨_, host', hhost', ?_⟩
  rw [if_neg (by simp)] at h
  dsimp only at h
  split at h
  · cases h
    rfl
  · obtain ⟨port', -, h⟩ := Option.bind_eq_some_iff.mp h
    cases h
    rfl

lemma scheme_of_fileUrl? {scheme t : Text} {u : Url} (h : fileUrl? scheme t = some u) : u.scheme = scheme := by
  unfold fileUrl? at h
  split at h
  · split_ifs at h
    · dsimp only at h
      split_ifs at h
      · cases h
        rfl
      · cases h
        rfl
      · obtain ⟨host, -, h⟩ := Option.bind_eq_some_iff.mp h
        cases h
        rfl
    · cases h
      rfl
  · cases h
    rfl

lemma scheme_of_otherUrl? {scheme t : Text} {u : Url} (h : otherUrl? scheme t = some u) :
    u.scheme = scheme := by
  unfold otherUrl? at h
  split at h
  · unfold withAuthority at h
    obtain ⟨⟨host, port, left⟩, -, h⟩ := Option.bind_eq_some_iff.mp h
    cases h
    rfl
  · cases h
    rfl

lemma parse?_of_cutScheme? {t scheme rest : Text} (hcut : cutScheme? (clean t) = some (scheme, rest))
    (hkind : SchemeKind.ofScheme scheme = .web) :
    parse? t = withAuthority .web scheme (rest.dropWhile (isSlash .web)) := by
  simp [parse?, hcut, hkind]

theorem exists_of_parse?_web {t : Text} {u : Url} (h : parse? t = some u)
    (hscheme : u.scheme = "http".toList ∨ u.scheme = "https".toList) :
    (∃ name host, webHost? name = some host ∧ u.host = some host) ∧ ∃ rest, u.path = '/' :: rest := by
  obtain ⟨⟨scheme, rest⟩, -, h⟩ := Option.bind_eq_some_iff.mp h
  have hweb : u.scheme = scheme → SchemeKind.ofScheme scheme = .web := by
    rintro rfl
    rcases hscheme with heq | heq <;> rw [heq] <;> decide
  dsimp only at h
  split at h
  · exact (exists_of_withAuthority_web h).2
  · rename_i hkind
    rw [hweb (scheme_of_fileUrl? h)] at hkind
    cases hkind
  · rename_i hkind
    rw [hweb (scheme_of_otherUrl? h)] at hkind
    cases hkind

end Userscript.Url
