import Userscript.Proofs.PolicyHeader

/-!
# Rewritten headers

A header is rewritten directive by directive. What is written under a name for the first time stays, in its place
and its spelling, and what comes later under that name is left out. The directive for scripts alone gets further
sources; where there is none it is made from the first default directive and comes last.
-/

namespace Userscript

namespace Text

lemma join_blank_cons (t : Text) (ts : List Text) :
    join [' '] (t :: ts) = t ++ ts.flatMap fun u => ' ' :: u := by
  induction ts generalizing t with
  | nil => simp [join]
  | cons u ts ih =>
    rw [join, ih, List.flatMap_cons, List.append_assoc, List.singleton_append, List.cons_append]

end Text

namespace Csp

def directive? (part : Text) : Option Directive :=
  match Text.words part with
  | [] => none
  | name :: sources => some ⟨name, sources⟩

def written (header : Text) : Csp := (Text.splitOn ';' header).filterMap directive?

/-- The first directive of each name, in order. -/
def firsts : Csp → Csp
  | [] => []
  | d :: rest => d :: (firsts rest).filter fun e => !Text.sameIgnoringCase d.name e.name

lemma add_of_directive?_eq_none {part : Text} (h : directive? part = none) (p : Csp) :
    p.add part = p := by
  unfold directive? at h
  unfold add
  cases hwords : Text.words part with
  | nil => rfl
  | cons name sources =>
    rw [hwords] at h
    cases h

lemma add_of_directive?_eq_some {part : Text} {d : Directive} (h : directive? part = some d) (p : Csp) :
    p.add part = if (p.get? d.name).isSome then p else p ++ [d] := by
  unfold directive? at h
  unfold add
  cases hwords : Text.words part with
  | nil =>
    rw [hwords] at h
    cases h
  | cons name sources =>
    rw [hwords] at h
    cases h
    rfl

lemma isNone_get?_concat (p : Csp) (d : Directive) (name : Text) :
    (get? (p ++ [d]) name).isNone = ((p.get? name).isNone && !Text.sameIgnoringCase d.name name) := by
  cases hd : Text.sameIgnoringCase d.name name <;> simp [get?, List.find?_append, hd]

lemma get?_congr {a b : Text} (h : Text.sameIgnoringCase a b = true) (p : Csp) : p.get? a = p.get? b := by
  have hname (d : Directive) : Text.sameIgnoringCase d.name a = Text.sameIgnoringCase d.name b := by
    rw [sameIgnoringCase_comm, sameIgnoringCase_congr h, sameIgnoringCase_comm]
  simp only [get?, hname]

lemma foldl_add (parts : List Text) (p : Csp) :
    parts.foldl add p =
      p ++ (firsts (parts.filterMap directive?)).filter fun e => (p.get? e.name).isNone := by
  induction parts generalizing p with
  | nil => simp [firsts]
  | cons part parts ih =>
    rw [List.foldl_cons, ih]
    cases hpart : directive? part with
    | none => rw [add_of_directive?_eq_none hpart, List.filterMap_cons_none hpart]
    | some d =>
      rw [add_of_directive?_eq_some hpart, List.filterMap_cons_some hpart, firsts, List.filter_cons,
        List.filter_filter]
      cases hd : p.get? d.name with
      | none =>
        rw [Option.isSome_none, if_neg Bool.false_ne_true, Option.isNone_none, if_pos rfl,
          List.append_assoc, List.singleton_append]
        congr 2
        exact List.filter_congr fun e _ => isNone_get?_concat p d e.name
      | some sources =>
        -- The name is taken, so the later directives that have it are left out for that reason alone.
        rw [Option.isSome_some, if_pos rfl, Option.isNone_some, if_neg Bool.false_ne_true]
        congr 1
        refine List.filter_congr fun e _ => ?_
        cases hname : Text.sameIgnoringCase d.name e.name with
        | false => rw [Bool.not_false, Bool.and_true]
        | true => rw [← get?_congr hname, hd, Option.isNone_some, Bool.false_and]

/-- Reading a header keeps the first directive of each name. -/
theorem parse_eq_firsts (header : Text) : parse header = firsts (written header) := by
  rw [parse, foldl_add, List.nil_append]
  exact List.filter_eq_self.mpr fun _ _ => rfl

lemma get?_filter_of_not_same {name other : Text} (h : Text.sameIgnoringCase other name = false)
    (p : Csp) : get? (p.filter fun e => !Text.sameIgnoringCase other e.name) name = p.get? name := by
  induction p with
  | nil => rfl
  | cons e p ih =>
    by_cases he : Text.sameIgnoringCase other e.name = true
    · have hname : Text.sameIgnoringCase e.name name = false := sameIgnoringCase_congr he name ▸ h
      rw [List.filter_cons_of_neg (by simp [he]), ih, get?_cons_of_not_same hname]
    · rw [List.filter_cons_of_pos (by simpa using he)]
      cases hname : Text.sameIgnoringCase e.name name with
      | true => rw [get?_cons_of_same hname, get?_cons_of_same hname]
      | false => rw [get?_cons_of_not_same hname, get?_cons_of_not_same hname, ih]

lemma get?_firsts (p : Csp) (name : Text) : (firsts p).get? name = p.get? name := by
  induction p with
  | nil => rfl
  | cons d p ih =>
    rw [firsts]
    cases hd : Text.sameIgnoringCase d.name name with
    | true => rw [get?_cons_of_same hd, get?_cons_of_same hd]
    | false => rw [get?_cons_of_not_same hd, get?_cons_of_not_same hd, get?_filter_of_not_same hd, ih]

def Directive.admitting (new : List Text) (d : Directive) : Directive :=
  if Text.sameIgnoringCase d.name scriptSrc then { d with sources := d.sources ++ new } else d

def rewritten (header : Text) (new : List Text) : Csp :=
  let kept := firsts (written header)
  if kept.any fun d => Text.sameIgnoringCase d.name scriptSrc then kept.map (Directive.admitting new)
  else
    let seed := ((written header).find? fun d => Text.sameIgnoringCase d.name defaultSrc).elim []
      Directive.sources
    kept ++ [⟨scriptSrc, seed ++ new⟩]

lemma map_admitting_of_get?_eq_none {p : Csp} (h : p.get? scriptSrc = none) (new : List Text) :
    p.map (Directive.admitting new) = p := by
  refine (List.map_congr_left fun d hd => ?_).trans (List.map_id p)
  rw [Directive.admitting, if_neg (by simp [get?_eq_none_iff.mp h d hd]), id_eq]

lemma extendScriptSrc_eq_map {p : Csp}
    (h : p.Pairwise fun d e => Text.sameIgnoringCase d.name e.name = false) (new : List Text) :
    extendScriptSrc new p = p.map (Directive.admitting new) := by
  induction p with
  | nil => rfl
  | cons d rest ih =>
    obtain ⟨hd, hrest⟩ := List.pairwise_cons.mp h
    rw [extendScriptSrc, List.map_cons, Directive.admitting]
    by_cases hname : Text.sameIgnoringCase d.name scriptSrc = true
    · have hnone : get? rest scriptSrc = none := get?_eq_none_iff.mpr fun e he => by
        rw [sameIgnoringCase_comm, ← sameIgnoringCase_congr hname]
        exact hd e he
      rw [if_pos hname, if_pos hname, map_admitting_of_get?_eq_none hnone]
    · rw [if_neg hname, if_neg hname, ih hrest]

lemma extendScriptSrc_append_of_get?_eq_none {p : Csp} (h : p.get? scriptSrc = none) (rest : Csp)
    (new : List Text) : extendScriptSrc new (p ++ rest) = p ++ extendScriptSrc new rest := by
  induction p with
  | nil => rfl
  | cons d p ih =>
    obtain ⟨hd, hp⟩ := List.forall_mem_cons.mp (get?_eq_none_iff.mp h)
    rw [List.cons_append, extendScriptSrc, if_neg (by simp [hd]), ih (get?_eq_none_iff.mpr hp),
      List.cons_append]

/-- A policy that has been read lets scripts come from further sources by one directive. -/
theorem allowScripts_parse (header : Text) (new : List Text) :
    (parse header).allowScripts new = rewritten header new := by
  have hclean := isClean_parse header
  rw [parse_eq_firsts] at hclean ⊢
  have hany : ((firsts (written header)).any fun d => Text.sameIgnoringCase d.name scriptSrc) =
      ((firsts (written header)).get? scriptSrc).isSome := by
    rw [get?, Option.isSome_map, List.isSome_find?]
  unfold rewritten allowScripts withScriptSrc
  dsimp only
  rw [hany]
  cases hscript : (firsts (written header)).get? scriptSrc with
  | some sources =>
    rw [Option.isSome_some, if_pos rfl, if_pos rfl, extendScriptSrc_eq_map hclean.distinct]
  | none =>
    have hself : Text.sameIgnoringCase scriptSrc scriptSrc = true := by decide
    rw [Option.isSome_none, if_neg Bool.false_ne_true, if_neg Bool.false_ne_true,
      extendScriptSrc_append_of_get?_eq_none hscript, scriptSources, hscript, Option.none_or, get?_firsts,
      extendScriptSrc, if_pos hself, get?]
    cases (written header).find? fun d => Text.sameIgnoringCase d.name defaultSrc <;> rfl

end Csp

namespace Injection

/-- What an injection adds to the sources of scripts: its nonce, or else the download address of its script, or
nothing. -/
def added (i : Injection) : List Text :=
  match i.nonce, i.script.downloadUrl with
  | some nonce, _ => ["'nonce-".toList ++ nonce ++ "'".toList]
  | none, some url => [url]
  | none, none => []

lemma filterMap_source? (injections : List Injection) :
    injections.filterMap source? = injections.flatMap added := by
  rw [List.filterMap_eq_flatMap_toList]
  congr 1
  funext i
  unfold source? added
  cases i.nonce with
  | some nonce => rfl
  | none => cases i.script.downloadUrl <;> rfl

end Injection

namespace Csp

/-- A header that is extended for injections holds the first directive of each name that is written in it, as it is
written. Only the directive for scripts has a source more for each injection that gives one. Where it is missing
it comes last, with the sources of the first default directive, and it comes first where nothing else is left. -/
theorem extendHeader_eq_join (header : Text) (injections : List Injection) :
    extendHeader header injections =
        Text.join "; ".toList ((rewritten header (injections.flatMap Injection.added)).map fun d =>
          d.name ++ d.sources.flatMap fun s => ' ' :: s) ∧
      (firsts (written header) = [] → scriptSrc <+: extendHeader header injections) := by
  have hheader : extendHeader header injections =
      Text.join "; ".toList ((rewritten header (injections.flatMap Injection.added)).map fun d =>
        d.name ++ d.sources.flatMap fun s => ' ' :: s) := by
    rw [extendHeader, allowScripts_parse, Injection.filterMap_source?, render]
    congr 1
    exact List.map_congr_left fun d _ => Text.join_blank_cons d.name d.sources
  refine ⟨hheader, fun hnone => ?_⟩
  rw [hheader, rewritten, hnone]
  exact List.prefix_append _ _

/-- A linked script, one that gives no source and a copied one are let into a page whose header has no directive for
scripts, and into one whose header has no directive at all. -/
theorem extendHeader_eq_join_of_repeats :
    ∃ linked bare,
      (Script.parse ("// ==UserScript==\n// @name Linked\n".toList ++
        "// @downloadURL https://a.test/u.js\n// ==/UserScript==\n".toList)).value = .ok linked ∧
      (Script.parse "// ==UserScript==\n// @name Inline\n// ==/UserScript==\n".toList).value = .ok bare ∧
      let injections : List Injection := [⟨linked, none⟩, ⟨bare, none⟩, ⟨bare, some "ab12".toList⟩]
      extendHeader "Default-Src  'self' ;\u2003IMG-SRC *;; img-src b; default-src c".toList injections =
        ("Default-Src 'self'; IMG-SRC *; ".toList ++
          "script-src 'self' https://a.test/u.js 'nonce-ab12'".toList) ∧
      firsts (written " ;\u3000;".toList) = [] ∧
      scriptSrc <+: extendHeader " ;\u3000;".toList injections := by
  obtain ⟨linked, hlinked, hurl⟩ := Script.exists_of_downloadUrl
    ("// ==UserScript==\n// @name Linked\n".toList ++
      "// @downloadURL https://a.test/u.js\n// ==/UserScript==\n".toList)
    (some "https://a.test/u.js".toList) (by decide +kernel)
  obtain ⟨bare, hbare, hnone⟩ := Script.exists_of_downloadUrl
    "// ==UserScript==\n// @name Inline\n// ==/UserScript==\n".toList none (by decide +kernel)
  have hblank : firsts (written " ;\u3000;".toList) = [] := by decide
  refine ⟨linked, bare, hlinked, hbare, ?_, hblank, (extendHeader_eq_join _ _).2 hblank⟩
  rw [(extendHeader_eq_join _ _).1]
  simp only [List.flatMap_cons, List.flatMap_nil, Injection.added, hurl, hnone]
  decide

end Csp

end Userscript
