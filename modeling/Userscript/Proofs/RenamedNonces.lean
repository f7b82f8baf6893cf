import Userscript.Injection.Insert
import Userscript.Nonce
import Mathlib.Data.List.Nodup
import Mathlib.Logic.Equiv.Fintype
import Mathlib.Tactic.Lemma
import Mathlib.Tactic.SplitIfs

/-!
# Pages up to nonces

Nonces are drawn anew for each page, so what is done with a page can be compared only up to them. Two documents
agree up to a renaming when they have the same shape and the same leaves but for added elements, which are planned
for one script with a nonce and with the one that replaces it. Where a node goes depends on the shape alone, and
which calls are refused on the calls alone, so every operation keeps this.
-/

namespace Userscript

variable {rename : Text → Text} {page : List Leaf}

/-- The second leaf is the first one with nonces renamed: both are one leaf of the page or one comment, or they are
the elements planned for one script, with a nonce and with the one that replaces it, if it has one. -/
inductive Leaf.Renamed (rename : Text → Text) (page : List Leaf) : Leaf → Leaf → Prop where
  | page {l : Leaf} (h : l ∈ page) : Renamed rename page l l
  | comment (t : Text) : Renamed rename page (.comment t) (.comment t)
  | script {s : Script} {inline : Bool} {nonce : Option Text} {p q : Injection.Plan}
    (hp : Injection.plan s { inline, nonce } = .ok p)
    (hq : Injection.plan s { inline, nonce := nonce.map rename } = .ok q) :
    Renamed rename page (.script p.tag) (.script q.tag)

lemma Leaf.Renamed.isScript {l m : Leaf} (h : l.Renamed rename page m) : l.isScript = m.isScript := by
  cases h <;> rfl

namespace Nodes

def leaves : Nodes → List Leaf
  | nil => []
  | leaf l rest => l :: rest.leaves
  | element _ children rest => children.leaves ++ rest.leaves

/-- The second forest has the shape of the first one, and its leaves with nonces renamed. -/
inductive Renamed (rename : Text → Text) (page : List Leaf) : Nodes → Nodes → Prop where
  | nil : Renamed rename page nil nil
  | leaf {l m : Leaf} {rest rest' : Nodes} (hl : l.Renamed rename page m)
    (hrest : Renamed rename page rest rest') : Renamed rename page (leaf l rest) (leaf m rest')
  | element (name : Text) {children children' rest rest' : Nodes}
    (hchildren : Renamed rename page children children') (hrest : Renamed rename page rest rest') :
    Renamed rename page (element name children rest) (element name children' rest')

lemma Renamed.of_leaves {t : Nodes} (h : t.leaves ⊆ page) : Renamed rename page t t := by
  induction t with
  | nil => exact .nil
  | leaf l rest ih =>
    obtain ⟨hl, hrest⟩ := List.cons_subset.mp h
    exact .leaf (.page hl) (ih hrest)
  | element name children rest ihc ihr =>
    obtain ⟨hchildren, hrest⟩ := List.append_subset.mp h
    exact .element name (ihc hchildren) (ihr hrest)

variable {t u : Nodes}

lemma Renamed.below? (h : Renamed rename page t u) (name : Text) :
    (t.below? name = none ∧ u.below? name = none) ∨
      ∃ v w, t.below? name = some v ∧ u.below? name = some w ∧ Renamed rename page v w := by
  induction h with
  | nil => exact .inl ⟨rfl, rfl⟩
  | leaf _ _ ih => exact ih
  | element n hchildren _ ihc ihr =>
    rw [Nodes.below?, Nodes.below?]
    by_cases hn : n = name
    · rw [if_pos hn, if_pos hn]
      exact .inr ⟨_, _, rfl, rfl, hchildren⟩
    · rw [if_neg hn, if_neg hn]
      rcases ihc with ⟨ht, hu⟩ | ⟨v, w, ht, hu, hvw⟩
      · rw [ht, hu, Option.none_or, Option.none_or]
        exact ihr
      · rw [ht, hu, Option.some_or, Option.some_or]
        exact .inr ⟨v, w, rfl, rfl, hvw⟩

lemma Renamed.has (h : Renamed rename page t u) (name : Text) : t.has name = u.has name := by
  rw [Nodes.has, Nodes.has]
  rcases h.below? name with ⟨ht, hu⟩ | ⟨v, w, ht, hu, -⟩
  · rw [ht, hu]
  · rw [ht, hu, Option.isSome_some, Option.isSome_some]

lemma Renamed.hasElement (h : Renamed rename page t u) : t.hasElement = u.hasElement := by
  induction h with
  | nil => rfl
  | leaf hl _ ih => rw [Nodes.hasElement, Nodes.hasElement, hl.isScript, ih]
  | element => rfl

variable {l m : Leaf}

lemma Renamed.putLast (hl : l.Renamed rename page m) (h : Renamed rename page t u) :
    Renamed rename page (t.putLast l) (u.putLast m) := by
  induction h with
  | nil => exact .leaf hl .nil
  | leaf hk _ ih => exact .leaf hk ih
  | element name hchildren _ _ ih => exact .element name hchildren ih

lemma Renamed.putBeforeElement (hl : l.Renamed rename page m) (h : Renamed rename page t u) :
    Renamed rename page (t.putBeforeElement l) (u.putBeforeElement m) := by
  induction h with
  | nil => exact .nil
  | @leaf k k' rest rest' hk hrest ih =>
    rw [Nodes.putBeforeElement, Nodes.putBeforeElement, hk.isScript]
    by_cases hscript : k'.isScript = true
    · rw [if_pos hscript, if_pos hscript]
      exact .leaf hl (.leaf hk hrest)
    · rw [if_neg hscript, if_neg hscript]
      exact .leaf hk ih
  | element name hchildren hrest => exact .leaf hl (.element name hchildren hrest)

lemma Renamed.putAfter (hl : l.Renamed rename page m) (h : Renamed rename page t u) (name : Text) :
    Renamed rename page (t.putAfter name l) (u.putAfter name m) := by
  induction h with
  | nil => exact .nil
  | leaf hk _ ih => exact .leaf hk ih
  | element n hchildren hrest ihc ihr =>
    rw [Nodes.putAfter, Nodes.putAfter, hchildren.has]
    split_ifs
    · exact .element n hchildren (.leaf hl hrest)
    · exact .element n ihc hrest
    · exact .element n hchildren ihr

lemma Renamed.changeBelow {f g : Nodes → Nodes}
    (hchange : ∀ {v w}, Renamed rename page v w → Renamed rename page (f v) (g w)) (h : Renamed rename page t u)
    (name : Text) : Renamed rename page (t.changeBelow name f) (u.changeBelow name g) := by
  induction h with
  | nil => exact .nil
  | leaf hk _ ih => exact .leaf hk ih
  | element n hchildren hrest ihc ihr =>
    rw [Nodes.changeBelow, Nodes.changeBelow, hchildren.has]
    split_ifs
    · exact .element n (hchange hchildren) hrest
    · exact .element n ihc hrest
    · exact .element n hchildren ihr

lemma Renamed.putOnTop (hl : l.Renamed rename page m) (h : Renamed rename page t u) :
    Renamed rename page (t.putOnTop l) (u.putOnTop m) := by
  cases h with
  | nil => exact .leaf hl .nil
  | element name hchildren hrest => exact .leaf hl (.element name hchildren hrest)
  | @leaf k _ _ _ hk hrest =>
    cases hk with
    | comment t => exact .leaf hl (.leaf (.comment t) hrest)
    | script hp hq => exact .leaf hl (.leaf (.script hp hq) hrest)
    | page hk =>
      -- Only a leaf of the page can be a document type.
      cases k with
      | doctype => exact .leaf (.page hk) (.leaf hl hrest)
      | text | comment | script => exact .leaf hl (.leaf (.page hk) hrest)

end Nodes

namespace Injection.Place

variable {t u : Nodes}

lemma find_renamed (h : t.Renamed rename page u) (placement : Placement) :
    find placement t = find placement u := by
  have hbody : (t.below? body).any (·.hasElement) = (u.below? body).any (·.hasElement) := by
    rcases h.below? body with ⟨ht, hu⟩ | ⟨v, w, ht, hu, hvw⟩
    · rw [ht, hu]
    · rw [ht, hu, Option.any_some, Option.any_some, hvw.hasElement]
  cases placement with
  | early => simp only [find, early, hbody, h.has, h.hasElement]
  | late => simp only [find, late, h.has]

lemma put_renamed {l m : Leaf} (hl : l.Renamed rename page m) (h : t.Renamed rename page u) (place : Place) :
    (place.put l t).Renamed rename page (place.put m u) := by
  cases place with
  | beforeBodyContent => exact h.changeBelow (fun hvw => hvw.putBeforeElement hl) body
  | afterTitle => exact h.putAfter hl title
  | beforeContent => exact h.putBeforeElement hl
  | endOfBody => exact h.changeBelow (fun hvw => hvw.putLast hl) body
  | endOfDocument => exact h.putLast hl

end Injection.Place

namespace Document

/-- The second document is the first one with nonces renamed. The same calls have been made on both, and both
refuse the same. -/
structure Renamed (rename : Text → Text) (page : List Leaf) (d e : Document) : Prop where
  nodes : d.nodes.Renamed rename page e.nodes
  refused : d.refused = e.refused
  calls : d.calls = e.calls

lemma Renamed.refl (rename : Text → Text) (d : Document) : Renamed rename d.nodes.leaves d d :=
  ⟨.of_leaves (List.Subset.refl _), rfl, rfl⟩

variable {d e : Document}

theorem Renamed.call (h : Renamed rename page d e) (o : Operation) {f g : Nodes → Nodes}
    (hchange : (f d.nodes).Renamed rename page (g e.nodes)) :
    ∃ result d' e', d.call o f = (result, d') ∧ e.call o g = (result, e') ∧
      d'.Renamed rename page e' := by
  have hrefuses : d.refuses o = e.refuses o := by
    rw [refuses, refuses, h.refused, h.calls]
  have hcalls : o :: d.calls = o :: e.calls := congrArg (o :: ·) h.calls
  rw [Document.call, Document.call, hrefuses]
  by_cases hr : e.refuses o = true
  · rw [if_pos hr, if_pos hr]
    exact ⟨_, _, _, rfl, rfl, h.nodes, h.refused, hcalls⟩
  · rw [if_neg hr, if_neg hr]
    exact ⟨_, _, _, rfl, rfl, hchange, h.refused, hcalls⟩

end Document

namespace Nonce

namespace Supply

variable (s : Supply)

def upcoming (n : Nat) : List Text := (List.range' s.spent n).map s.nth

lemma upcoming_succ (n : Nat) : s.upcoming (n + 1) = s.next :: s.spend.upcoming n := by
  rw [upcoming, List.range'_succ, List.map_cons]
  rfl

lemma upcoming_sublist_upcoming_succ (n : Nat) : (s.upcoming n).Sublist (s.upcoming (n + 1)) :=
  (List.range'_sublist_right.mpr n.le_succ).map s.nth

end Supply

/-- Nonces of which none occurs twice can be renamed one by one. -/
lemma exists_renaming {pairs : List (Text × Text)} (hfst : (pairs.map Prod.fst).Nodup)
    (hsnd : (pairs.map Prod.snd).Nodup) : ∃ rename : Equiv.Perm Text, ∀ x ∈ pairs, rename x.1 = x.2 := by
  obtain ⟨rename, hrename⟩ := Equiv.Perm.exists_extending_pair
    (fun x : {x // x ∈ pairs} => x.1.1) (fun x => x.1.2)
    (fun x y h => Subtype.ext (List.inj_on_of_nodup_map hfst x.2 y.2 h))
    (fun x y h => Subtype.ext (List.inj_on_of_nodup_map hsnd x.2 y.2 h))
  exact ⟨rename, fun x hx => hrename ⟨x, hx⟩⟩

end Nonce

end Userscript
