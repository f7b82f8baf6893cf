import Userscript.Proofs.PageTokens
import Mathlib.Data.List.Perm.Basic

/-!
# Added nodes

An overlay is a forest in which some leaves are marked as added. It shows both documents at once, the one
with the additions and the one without them. Every place where an element can go takes one leaf more and
leaves all other nodes as they are, so each insertion extends the overlay by one addition.
-/

namespace Userscript

namespace Nodes

/-- The second forest is the first one with one leaf put in somewhere. -/
inductive Inserted (new : Leaf) : Nodes → Nodes → Prop where
  | here (t : Nodes) : Inserted new t (leaf new t)
  | past (l : Leaf) {t t' : Nodes} : Inserted new t t' → Inserted new (leaf l t) (leaf l t')
  | within (name : Text) {t t' : Nodes} (rest : Nodes) :
    Inserted new t t' → Inserted new (element name t rest) (element name t' rest)
  | beyond (name : Text) (children : Nodes) {t t' : Nodes} :
    Inserted new t t' → Inserted new (element name children t) (element name children t')

lemma InsertedAt.inserted {new : Leaf} {p : Nat} {t t' : Nodes} (h : InsertedAt new p t t') :
    Inserted new t t' := by
  induction h with
  | here t => exact .here t
  | past l _ ih => exact .past l ih
  | within name rest _ ih => exact .within name rest ih
  | beyond name children _ ih => exact .beyond name children ih

end Nodes

/-- Nodes of which some leaves have been added. -/
inductive Overlay where
  | nil
  | kept (l : Leaf) (rest : Overlay)
  | added (l : Leaf) (rest : Overlay)
  | element (name : Text) (children rest : Overlay)
  deriving DecidableEq, Repr

namespace Overlay

def whole : Overlay → Nodes
  | nil => .nil
  | kept l rest => .leaf l rest.whole
  | added l rest => .leaf l rest.whole
  | element name children rest => .element name children.whole rest.whole

def base : Overlay → Nodes
  | nil => .nil
  | kept l rest => .leaf l rest.base
  | added _ rest => rest.base
  | element name children rest => .element name children.base rest.base

def additions : Overlay → List Leaf
  | nil => []
  | kept _ rest => rest.additions
  | added l rest => l :: rest.additions
  | element _ children rest => children.additions ++ rest.additions

def ofNodes : Nodes → Overlay
  | .nil => nil
  | .leaf l rest => kept l (ofNodes rest)
  | .element name children rest => element name (ofNodes children) (ofNodes rest)

@[simp]
lemma whole_ofNodes (t : Nodes) : (ofNodes t).whole = t := by
  induction t with
  | nil => rfl
  | leaf l rest ih => simp [ofNodes, whole, ih]
  | element name children rest ihc ihr => simp [ofNodes, whole, ihc, ihr]

@[simp]
lemma base_ofNodes (t : Nodes) : (ofNodes t).base = t := by
  induction t with
  | nil => rfl
  | leaf l rest ih => simp [ofNodes, base, ih]
  | element name children rest ihc ihr => simp [ofNodes, base, ihc, ihr]

@[simp]
lemma additions_ofNodes (t : Nodes) : (ofNodes t).additions = [] := by
  induction t with
  | nil => rfl
  | leaf l rest ih => exact ih
  | element name children rest ihc ihr => simp [ofNodes, additions, ihc, ihr]

/-- An insertion into the nodes of an overlay is one addition more. -/
theorem exists_of_inserted {new : Leaf} {t t' : Nodes} (h : Nodes.Inserted new t t') (o : Overlay)
    (ho : o.whole = t) :
    ∃ o' : Overlay, o'.whole = t' ∧ o'.base = o.base ∧
      o'.additions.Perm (new :: o.additions) := by
  induction h generalizing o with
  | here t => exact ⟨added new o, by rw [whole, ho], rfl, List.Perm.refl _⟩
  | past l _ ih =>
    cases o with
    | nil => cases ho
    | kept k rest =>
      obtain ⟨rfl, hrest⟩ := Nodes.leaf.inj ho
      obtain ⟨o', hw, hb, ha⟩ := ih rest hrest
      exact ⟨kept k o', by rw [whole, hw], by rw [base, hb, base], ha⟩
    | added k rest =>
      obtain ⟨rfl, hrest⟩ := Nodes.leaf.inj ho
      obtain ⟨o', hw, hb, ha⟩ := ih rest hrest
      exact ⟨added k o', by rw [whole, hw], hb, (ha.cons k).trans (List.Perm.swap _ _ _)⟩
    | element n children rest => cases ho
  | within name rest _ ih =>
    cases o with
    | nil => cases ho
    | kept k rest => cases ho
    | added k rest => cases ho
    | element n children others =>
      obtain ⟨rfl, hchildren, rfl⟩ := Nodes.element.inj ho
      obtain ⟨o', hw, hb, ha⟩ := ih children hchildren
      exact ⟨element n o' others, by rw [whole, hw], by rw [base, hb, base],
        ha.append_right others.additions⟩
  | beyond name children _ ih =>
    cases o with
    | nil => cases ho
    | kept k rest => cases ho
    | added k rest => cases ho
    | element n below rest =>
      obtain ⟨rfl, rfl, hrest⟩ := Nodes.element.inj ho
      obtain ⟨o', hw, hb, ha⟩ := ih rest hrest
      exact ⟨element n below o', by rw [whole, hw], by rw [base, hb, base],
        (ha.append_left below.additions).trans List.perm_middle⟩

end Overlay

end Userscript
