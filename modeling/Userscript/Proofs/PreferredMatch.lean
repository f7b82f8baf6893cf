import Userscript.Regex.Captures
import Mathlib.Tactic.Lemma
import Mathlib.Data.List.Basic

/-!
# The preferred match

A search takes one way through an expression as soon as the rest of the expression matches behind it. Such ways
are put together in the same manner as the expression: one after another for a row, the longest run of
characters for a greedy repetition, and none or one round of a part that may be left out.
-/

namespace Userscript.Regex

namespace CharSet

@[simp]
lemma contains_blank (c : Char) : blank.contains c = Text.isBlank c := rfl

@[simp]
lemma contains_compl (set : CharSet) (c : Char) : set.compl.contains c = !set.contains c := rfl

@[simp]
lemma contains_single (c d : Char) : (single c).contains d = decide (d = c) := by
  have hrange : (single c).contains d = (decide (c ≤ d) && decide (d ≤ c)) := rfl
  rw [hrange, ← Bool.decide_and]
  refine decide_eq_decide.mpr ⟨fun h => Char.le_antisymm h.2 h.1, ?_⟩
  rintro rfl
  exact ⟨Char.le_refl d, Char.le_refl d⟩

end CharSet

/-- A search from one position takes the way to another, on which more groups match, as soon as the rest
matches there. -/
def Prefers (text : Array Char) (r : Regex) (i j : Nat) (more : Groups) : Prop :=
  ∀ g rest out, rest j (more ++ g) = some out → r.search text i g rest = some out

def Refuses (text : Array Char) (r : Regex) (i : Nat) : Prop :=
  ∀ g rest, r.search text i g rest = none

variable {text : Array Char} {r s : Regex} {i j k : Nat} {more more' : Groups}

section Search

variable (text : Array Char) (r s : Regex) (i : Nat) (g : Groups) (rest : Rest)

lemma searchExactly_succ (once : Nat → Groups → Rest → Option Groups) (n : Nat) :
    searchExactly once (n + 1) i g rest = once i g fun j h => searchExactly once n j h rest := rfl

lemma searchUpTo_succ (once : Nat → Groups → Rest → Option Groups) (n : Nat) :
    searchUpTo once true (n + 1) i g rest =
      (once i g fun j h => if j = i then rest j h else searchUpTo once true n j h rest).or (rest i g) := rfl

lemma searchUpTo_succ_lazy (once : Nat → Groups → Rest → Option Groups) (n : Nat) :
    searchUpTo once false (n + 1) i g rest =
      (rest i g).or (once i g fun j h => if j = i then rest j h else searchUpTo once false n j h rest) := rfl

lemma search_chars (set : CharSet) :
    (chars set).search text i g rest =
      match text[i]? with
      | some c => if set.contains c then rest (i + 1) g else none
      | none => none := rfl

lemma search_look (a : Assertion) :
    (look a).search text i g rest = if a.holds text i then rest i g else none := rfl

lemma search_cat :
    (Regex.cat r s).search text i g rest = r.search text i g fun j h => s.search text j h rest := rfl

lemma search_capture (name : Text) :
    (Regex.capture (some name) r).search text i g rest =
      r.search text i g fun j h => rest j ((name, i, j) :: h) := rfl

lemma search_capture_none :
    (Regex.capture none r).search text i g rest = r.search text i g rest := rfl

lemma search_rep (min : Nat) (max : Option Nat) (greedy : Bool) :
    (rep min max greedy r).search text i g rest =
      searchExactly (r.search text) min i g fun j h =>
        searchUpTo (r.search text) greedy (max.elim (text.size + 1) (· - min)) j h rest := by
  cases max with
  | none => rfl
  | some m => rfl

lemma search_optional :
    (rep 0 (some 1) true r).search text i g rest = (r.search text i g rest).or (rest i g) := by
  have hround : (rep 0 (some 1) true r).search text i g rest =
      (r.search text i g fun j h => if j = i then rest j h else rest j h).or (rest i g) := rfl
  simpa only [ite_self] using hround

end Search

lemma search_chars_of_contains {set : CharSet} {c : Char} (hc : text[i]? = some c)
    (hset : set.contains c = true) (g : Groups) (rest : Rest) :
    (chars set).search text i g rest = rest (i + 1) g := by
  simp only [search_chars, hc, hset, if_true]

lemma prefers_chars {set : CharSet} {c : Char} (hc : text[i]? = some c)
    (hset : set.contains c = true) : Prefers text (chars set) i (i + 1) [] := by
  intro g rest out hrest
  rw [search_chars_of_contains hc hset]
  exact hrest

lemma refuses_chars {set : CharSet} (h : ∀ c, text[i]? = some c → set.contains c = false) :
    Refuses text (chars set) i := by
  intro g rest
  rw [search_chars]
  cases hc : text[i]? with
  | none => rfl
  | some c => simp [h c hc]

lemma prefers_look {a : Assertion} (h : a.holds text i = true) : Prefers text (look a) i i [] := by
  intro g rest out hrest
  rw [search_look, if_pos h]
  exact hrest

lemma Prefers.cat (hr : Prefers text r i k more) (hs : Prefers text s k j more') :
    Prefers text (cat r s) i j (more' ++ more) := by
  intro g rest out hrest
  rw [search_cat]
  refine hr g _ out (hs (more ++ g) rest out ?_)
  rw [← List.append_assoc]
  exact hrest

lemma Refuses.cat (hr : Refuses text r i) : Refuses text (cat r s) i := by
  intro g rest
  rw [search_cat]
  exact hr g _

lemma Refuses.capture (name : Text) (hr : Refuses text r i) :
    Refuses text (capture (some name) r) i := by
  intro g rest
  rw [search_capture]
  exact hr g _

lemma Prefers.capture (name : Text) (hr : Prefers text r i j more) :
    Prefers text (capture (some name) r) i j ((name, i, j) :: more) := by
  intro g rest out hrest
  rw [search_capture]
  exact hr g _ out hrest

lemma Prefers.optional (hr : Prefers text r i j more) :
    Prefers text (rep 0 (some 1) true r) i j more := by
  intro g rest out hrest
  rw [search_optional, hr g rest out hrest]
  rfl

lemma Refuses.optional (hr : Refuses text r i) : Prefers text (rep 0 (some 1) true r) i i [] := by
  intro g rest out hrest
  rw [search_optional, hr g]
  exact hrest

lemma Refuses.repeated {n : Nat} {max : Option Nat} {greedy : Bool} (hr : Refuses text r i) :
    Refuses text (rep (n + 1) max greedy r) i := by
  intro g rest
  rw [search_rep, searchExactly_succ]
  exact hr g _

/-- From a position on stand as many characters of a set. -/
def HasRun (text : Array Char) (set : CharSet) (i n : Nat) : Prop :=
  ∀ l < n, ∃ c, text[i + l]? = some c ∧ set.contains c = true

section Runs

variable {set : CharSet} {n : Nat}

lemma HasRun.head (h : HasRun text set i (n + 1)) :
    ∃ c, text[i]? = some c ∧ set.contains c = true := h 0 (Nat.succ_pos n)

lemma HasRun.drop (h : HasRun text set i n) (m : Nat) : HasRun text set (i + m) (n - m) := by
  intro l hl
  rw [Nat.add_assoc]
  exact h (m + l) (by omega)

lemma searchExactly_chars (h : HasRun text set i n) (g : Groups) (rest : Rest) :
    searchExactly ((chars set).search text) n i g rest = rest (i + n) g := by
  induction n generalizing i with
  | zero => rfl
  | succ n ih =>
    obtain ⟨c, hc, hset⟩ := h.head
    have hnext : HasRun text set (i + 1) n := h.drop 1
    rw [searchExactly_succ, search_chars_of_contains hc hset, ih hnext, Nat.add_assoc, Nat.add_comm 1 n]

lemma searchUpTo_chars (h : HasRun text set i n)
    (hstop : ∀ c, text[i + n]? = some c → set.contains c = false) {rounds : Nat} (hn : n ≤ rounds)
    {g : Groups} {rest : Rest} {out : Groups} (hrest : rest (i + n) g = some out) :
    searchUpTo ((chars set).search text) true rounds i g rest = some out := by
  -- On the length of the run: a round passes its first character, and the last round fails.
  induction n generalizing i rounds with
  | zero =>
    cases rounds with
    | zero => exact hrest
    | succ rounds =>
      have hround := (refuses_chars (i := i) hstop) g fun j h =>
        if j = i then rest j h else searchUpTo ((chars set).search text) true rounds j h rest
      rw [searchUpTo_succ, hround]
      exact hrest
  | succ n ih =>
    cases rounds with
    | zero => exact absurd hn (Nat.not_succ_le_zero n)
    | succ rounds =>
      obtain ⟨c, hc, hset⟩ := h.head
      have hnext : HasRun text set (i + 1) n := h.drop 1
      have hshift : i + 1 + n = i + (n + 1) := by omega
      have hmore : searchUpTo ((chars set).search text) true rounds (i + 1) g rest = some out :=
        ih hnext (by rwa [hshift]) (Nat.le_of_succ_le_succ hn) (by rwa [hshift])
      rw [searchUpTo_succ, search_chars_of_contains hc hset, if_neg (Nat.succ_ne_self i), hmore]
      rfl

theorem prefers_run {t before run after : Text} {min : Nat} (ht : t = before ++ (run ++ after))
    (hmin : min ≤ run.length) (hrun : ∀ c ∈ run, set.contains c = true)
    (hafter : ∀ c ∈ after.head?, set.contains c = false) :
    Prefers t.toArray (rep min none true (chars set)) before.length (before.length + run.length)
      [] := by
  intro g rest out hrest
  have hchars : HasRun t.toArray set before.length run.length := by
    intro l hl
    refine ⟨run[l], ?_, hrun _ (List.getElem_mem hl)⟩
    rw [List.getElem?_toArray, ht, List.getElem?_append_right (Nat.le_add_right _ _),
      Nat.add_sub_cancel_left, List.getElem?_append_left hl, List.getElem?_eq_getElem hl]
  have hstop : ∀ c, t.toArray[before.length + run.length]? = some c → set.contains c = false := by
    intro c hc
    rw [List.getElem?_toArray, ht, List.getElem?_append_right (Nat.le_add_right _ _),
      Nat.add_sub_cancel_left, List.getElem?_append_right (Nat.le_refl _), Nat.sub_self,
      ← List.head?_eq_getElem?] at hc
    exact hafter c hc
  have hrounds : run.length - min ≤ t.toArray.size + 1 := by
    rw [List.size_toArray, ht, List.length_append, List.length_append]
    omega
  have hsum : before.length + min + (run.length - min) = before.length + run.length := by omega
  have hfirst : HasRun t.toArray set before.length min := fun l hl =>
    hchars l (Nat.lt_of_lt_of_le hl hmin)
  rw [search_rep, searchExactly_chars hfirst]
  exact searchUpTo_chars (hchars.drop min) (by rwa [hsum]) hrounds (by rwa [hsum])

end Runs

/-- The way that a search takes from the start of a part of a text leads to the end of the part. -/
def PrefersPart (r : Regex) (before part after : Text) (more : Groups) : Prop :=
  Prefers (before ++ (part ++ after)).toArray r before.length (before ++ part).length more

section Parts

variable {before part after a b : Text} {set : CharSet} {c : Char}

lemma PrefersPart.cat (hr : r.PrefersPart before a (b ++ after) more)
    (hs : s.PrefersPart (before ++ a) b after more') :
    (Regex.cat r s).PrefersPart before (a ++ b) after (more' ++ more) := by
  unfold PrefersPart at hr hs ⊢
  simp only [List.append_assoc] at hr hs ⊢
  exact Prefers.cat hr hs

lemma PrefersPart.capture (name : Text) (hr : r.PrefersPart before part after more) :
    (Regex.capture (some name) r).PrefersPart before part after
      ((name, before.length, (before ++ part).length) :: more) :=
  Prefers.capture name hr

lemma PrefersPart.optional (hr : r.PrefersPart before part after more) :
    (Regex.rep 0 (some 1) true r).PrefersPart before part after more :=
  Prefers.optional hr

lemma prefersPart_char (hset : set.contains c = true) :
    (chars set).PrefersPart before [c] after [] := by
  unfold PrefersPart
  rw [List.length_append]
  apply prefers_chars (c := c) _ hset
  simp

lemma prefersPart_run {min : Nat} (hmin : min ≤ part.length)
    (hrun : ∀ c ∈ part, set.contains c = true) (hafter : ∀ c ∈ after.head?, set.contains c = false) :
    (rep min none true (chars set)).PrefersPart before part after [] := by
  unfold PrefersPart
  rw [List.length_append]
  exact prefers_run rfl hmin hrun hafter

lemma prefersPart_nothing (hr : Refuses (before ++ after).toArray r before.length) :
    (rep 0 (some 1) true r).PrefersPart before [] after [] := by
  unfold PrefersPart
  rw [List.append_nil, List.nil_append]
  exact Refuses.optional hr

lemma refuses_chars_of_head? (hafter : ∀ c ∈ after.head?, set.contains c = false) :
    Refuses (before ++ after).toArray (chars set) before.length := by
  apply refuses_chars
  intro c hc
  apply hafter c
  rw [List.getElem?_toArray, List.getElem?_append_right (Nat.le_refl _), Nat.sub_self,
    ← List.head?_eq_getElem?] at hc
  exact hc

lemma text?_cons_self (name before part after : Text) (groups : Groups) :
    Groups.text? ((name, before.length, (before ++ part).length) :: groups) name
      (before ++ (part ++ after)) = some part := by
  simp [Groups.text?]

lemma text?_cons_of_ne {name other : Text} (hne : other ≠ name) (i j : Nat) (groups : Groups) (t : Text) :
    Groups.text? ((other, i, j) :: groups) name t = Groups.text? groups name t := by
  simp [Groups.text?, hne]

end Parts

/-- A way through the whole of a text gives the groups of the text. -/
theorem captures?_of_prefersPart {t : Text} (h : r.PrefersPart [] t [] more) :
    r.captures? t = some more := by
  unfold PrefersPart at h
  rw [List.nil_append, List.append_nil, List.nil_append] at h
  have hfirst : r.search t.toArray 0 [] (fun _ g => some g) = some more :=
    h [] _ more (by rw [List.append_nil])
  rw [captures?, List.range_succ_eq_map, List.findSome?_cons, hfirst]

end Userscript.Regex
