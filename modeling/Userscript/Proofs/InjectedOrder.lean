import Userscript.Proofs.ParsedScript
import Userscript.Proofs.ProcessedPage
import Userscript.Proofs.ScriptOrder

/-!
# The order of injected scripts

The injection into a page, followed with a record of what each token comes from. The record agrees with the
document at every step, whichever calls the document refuses, and tells where each injected script stands.
-/

namespace Userscript

open Injection (Origin Before Placement HasTag Recorded)

def Injection.placement (i : Injection) : Placement := .ofRunAt i.script.runAt

def InjectionReport.placements (report : InjectionReport) : List Placement :=
  report.injected.map Injection.placement

namespace Injection

/-- The token that something of a page becomes, where the tags of the injected scripts and the comment are
known. -/
def Origin.token? (base : Nodes) (tags : List ScriptTag) (comment : Text) : Origin → Option Token
  | page n => base.tokens[n]?
  | script k => tags[k]?.map fun tag => .leaf (.script tag)
  | .comment => some (.leaf (.comment comment))

/-- The tokens of a page, as what they come from. -/
def Origin.pageOrder (base : Nodes) : List Origin := (List.range base.tokens.length).map .page

variable {base : Nodes} {tags more : List ScriptTag} {comment : Text} {order : List Origin}
  {tokens : List Token} {x : Origin}

lemma Origin.map_pageOrder (base : Nodes) (tags : List ScriptTag) (comment : Text) :
    (pageOrder base).map (token? base tags comment) = base.tokens.map some := by
  refine List.ext_getElem? fun n => ?_
  simp only [pageOrder, List.map_map, List.getElem?_map]
  rcases Nat.lt_or_ge n base.tokens.length with hlt | hge
  · rw [List.getElem?_range hlt, List.getElem?_eq_getElem hlt]
    simp [token?, List.getElem?_eq_getElem hlt]
  · rw [List.getElem?_eq_none (by simpa using hge), List.getElem?_eq_none hge]
    rfl

lemma Origin.map_append (h : order.map (token? base tags comment) = tokens.map some) :
    order.map (token? base (tags ++ more) comment) = tokens.map some := by
  rw [← h]
  refine List.map_congr_left fun x hx => ?_
  have hsome : token? base tags comment x ∈ tokens.map some := h ▸ List.mem_map_of_mem hx
  cases x with
  | page n => rfl
  | comment => rfl
  | script k =>
    rcases Nat.lt_or_ge k tags.length with hlt | hge
    · simp only [token?, List.getElem?_append_left hlt]
    · rw [token?, List.getElem?_eq_none hge] at hsome
      simp at hsome

end Injection

namespace Injector

open Injection.Origin (token? pageOrder place)

def orderNext (config : Config) (address : Text) (p : Progress) (s : Script) (order : List Origin) :
    List Origin :=
  if (injectNext config address p s).value.injected.length = p.injected.length then order
  else order.insertIdx (p.document.nodes.slots.slot (.ofRunAt s.runAt)) (.script p.injected.length)

def orderEach (config : Config) (address : Text) : Progress → List Script → List Origin → List Origin
  | _, [], order => order
  | p, s :: rest, order =>
    orderEach config address (injectNext config address p s).value rest
      (orderNext config address p s order)

def placed (i : Injector) (r : Response) (d : Document) (nonces : Nonce.Supply) : List Origin :=
  orderEach i.config r.address { document := d, nonces, injected := [], failures := [] }
    ((Page.ofAddress r.address).applicable i.scripts) (pageOrder d.nodes)

def order (i : Injector) (r : Response) (d : Document) (nonces : Nonce.Supply) : List Origin :=
  if (commentFor i.config (progressOn i r d nonces).injected (progressOn i r d nonces).document).isEmpty then
    placed i r d nonces
  else (placed i r d nonces).insertIdx (progressOn i r d nonces).document.nodes.topSlot .comment

/-- The order is a true record of a page after injection: it holds nothing twice, and the page as it was in its
order, the injected scripts are numbered as in the list of scripts, and each token of the document is what its
origin becomes. -/
structure Records (i : Injector) (r : Response) (d : Document) (report : InjectionReport) (d' : Document)
    (order : List Origin) : Prop where
  nodup : order.Nodup
  page : (pageOrder d.nodes).Sublist order
  scripts : (report.injected.map (·.script)).Sublist ((Page.ofAddress r.address).applicable i.scripts)
  tokens : ∃ tags, List.Forall₂ (HasTag i.config.inline) report.injected tags ∧
    order.map (token? d.nodes tags (Injection.comment report.injected)) = d'.nodes.tokens.map some

variable {config : Config} {address comment : Text} {base : Nodes}

/-- A script that is injected goes into the slot for its time; the others change nothing. -/
theorem injectNext_order (config : Config) (address : Text) (p : Progress) (s : Script)
    (order : List Origin) :
    (∃ nonce tag, (injectNext config address p s).value.injected = p.injected ++ [⟨s, nonce⟩] ∧
      HasTag config.inline ⟨s, nonce⟩ tag ∧
      (injectNext config address p s).value.document.nodes.tokens =
        p.document.nodes.tokens.insertIdx (p.document.nodes.slots.slot (.ofRunAt s.runAt))
          (.leaf (.script tag)) ∧
      (injectNext config address p s).value.document.nodes.slots =
        p.document.nodes.slots.next (.ofRunAt s.runAt) ∧
      orderNext config address p s order =
        order.insertIdx (p.document.nodes.slots.slot (.ofRunAt s.runAt)) (.script p.injected.length)) ∨
    ((injectNext config address p s).value.injected = p.injected ∧
      (injectNext config address p s).value.document.nodes = p.document.nodes ∧
      orderNext config address p s order = order) := by
  rcases injectNext_cases config address p s with
    ⟨nonce, tag, hi, -, htag, hput⟩ | ⟨-, -, hi, -, hnodes⟩
  · have hins := Nodes.insertedAt_put_find (.ofRunAt s.runAt) (.script tag) p.document.nodes
    rw [← hput] at hins
    refine Or.inl ⟨nonce, tag, hi, htag, hins.tokens, hins.slots, ?_⟩
    rw [orderNext, if_neg]
    simp [hi]
  · exact Or.inr ⟨hi, hnodes, by rw [orderNext, if_pos (by rw [hi])]⟩

/-- A run over scripts keeps the record true, and the record is what comes of placing the injected scripts. -/
theorem injectEach_order (config : Config) (address comment : Text) (base : Nodes) (p : Progress)
    (scripts : List Script) (order : List Origin) (earlier : List ScriptTag)
    (hearlier : earlier.length = p.injected.length)
    (horder : order.map (token? base earlier comment) = p.document.nodes.tokens.map some) :
    ∃ injected tags, (injectEach config address p scripts).value.injected = p.injected ++ injected ∧
      List.Forall₂ (HasTag config.inline) injected tags ∧
      (orderEach config address p scripts order).map (token? base (earlier ++ tags) comment) =
        (injectEach config address p scripts).value.document.nodes.tokens.map some ∧
      orderEach config address p scripts order =
        place p.document.nodes.slots p.injected.length (injected.map Injection.placement) order := by
  induction scripts generalizing p order earlier with
  | nil => exact ⟨[], [], (List.append_nil _).symm, .nil, by rw [List.append_nil]; exact horder, rfl⟩
  | cons s rest ih =>
    rw [injectEach_cons, orderEach]
    rcases injectNext_order config address p s order with
      ⟨nonce, tag, hi, htag, htokens, hslots, hnext⟩ | ⟨hi, hnodes, hnext⟩
    · have hlength : (earlier ++ [tag]).length = (injectNext config address p s).value.injected.length := by
        rw [hi, List.length_append, List.length_append, hearlier, List.length_singleton,
          List.length_singleton]
      have htag' : token? base (earlier ++ [tag]) comment (.script p.injected.length) =
          some (.leaf (.script tag)) := by
        rw [token?, ← hearlier, List.getElem?_concat_length, Option.map_some]
      have horder' : (orderNext config address p s order).map (token? base (earlier ++ [tag]) comment) =
          (injectNext config address p s).value.document.nodes.tokens.map some := by
        rw [hnext, htokens, List.map_insertIdx, List.map_insertIdx, Injection.Origin.map_append horder, htag']
      obtain ⟨injected, tags, hinjected, htags, hmap, hplace⟩ := ih _ _ _ hlength horder'
      refine ⟨⟨s, nonce⟩ :: injected, tag :: tags, ?_, .cons htag htags, ?_, ?_⟩
      · rw [hinjected, hi, List.append_assoc, List.singleton_append]
      · rw [← hmap, List.append_assoc, List.singleton_append]
      · rw [hplace, hslots, hnext, hi, List.length_append]
        rfl
    · rw [hnext]
      obtain ⟨injected, tags, hinjected, htags, hmap, hplace⟩ :=
        ih _ order earlier (hearlier.trans (congrArg List.length hi).symm) (by rw [hnodes]; exact horder)
      refine ⟨injected, tags, hinjected.trans (by rw [hi]), htags, hmap, ?_⟩
      rw [hplace, hnodes, hi]

lemma scripts_of_recorded {scripts : List Script} {injected : List Injection}
    {failures : List Injection.Error} (h : Recorded scripts injected failures) :
    (injected.map (·.script)).Sublist scripts := by
  induction h with
  | nil => exact List.Sublist.refl _
  | injected s nonce _ ih => exact List.Sublist.cons_cons s ih
  | failed _ _ ih => exact List.Sublist.cons _ ih

variable (i : Injector) (r : Response) (d : Document) (nonces : Nonce.Supply)

lemma placed_records : ∃ tags, List.Forall₂ (HasTag i.config.inline) (progressOn i r d nonces).injected tags ∧
    (placed i r d nonces).map (token? d.nodes tags (Injection.comment (progressOn i r d nonces).injected)) =
      (progressOn i r d nonces).document.nodes.tokens.map some ∧
    placed i r d nonces =
      place d.nodes.slots 0 ((progressOn i r d nonces).injected.map Injection.placement)
        (pageOrder d.nodes) := by
  obtain ⟨injected, tags, hinjected, htags, hmap, hplace⟩ :=
    injectEach_order i.config r.address (Injection.comment (progressOn i r d nonces).injected) d.nodes
      { document := d, nonces, injected := [], failures := [] }
      ((Page.ofAddress r.address).applicable i.scripts) (pageOrder d.nodes) [] rfl
      (Injection.Origin.map_pageOrder d.nodes [] _)
  have hinjected : (progressOn i r d nonces).injected = injected := hinjected
  rw [hinjected] at hmap ⊢
  exact ⟨tags, htags, hmap, hplace⟩

lemma nodup_pageOrder (t : Nodes) : (pageOrder t).Nodup :=
  List.Nodup.map (fun _ _ h => by cases h; rfl) List.nodup_range

lemma not_mem_pageOrder (t : Nodes) {x : Origin} (hx : ∀ n, x ≠ .page n) : x ∉ pageOrder t := fun hmem => by
  obtain ⟨n, -, hn⟩ := List.mem_map.mp hmem
  exact hx n hn.symm

lemma nodup_placed : (placed i r d nonces).Nodup := by
  obtain ⟨-, -, -, hplace⟩ := placed_records i r d nonces
  rw [hplace]
  exact Injection.Origin.nodup_place (nodup_pageOrder _) fun j _ => not_mem_pageOrder _ (by simp)

lemma comment_not_mem_placed : Origin.comment ∉ placed i r d nonces := by
  obtain ⟨-, -, -, hplace⟩ := placed_records i r d nonces
  rw [hplace]
  intro hmem
  rcases Injection.Origin.mem_place hmem with hmem | ⟨j, hj⟩
  · exact not_mem_pageOrder _ (by simp) hmem
  · cases hj

lemma pageOrder_sublist_placed : (pageOrder d.nodes).Sublist (placed i r d nonces) := by
  obtain ⟨-, -, -, hplace⟩ := placed_records i r d nonces
  rw [hplace]
  exact Injection.Origin.sublist_place

lemma nodup_order : (order i r d nonces).Nodup := by
  rw [order]
  split
  · exact nodup_placed i r d nonces
  · exact Injection.Origin.nodup_insertIdx (comment_not_mem_placed i r d nonces) (nodup_placed i r d nonces) _

lemma placed_sublist_order : (placed i r d nonces).Sublist (order i r d nonces) := by
  rw [order]
  split
  · exact List.Sublist.refl _
  · exact List.sublist_insertIdx _ _ _

lemma place_sublist_order {report : InjectionReport}
    (h : report.injected = (progressOn i r d nonces).injected) :
    (place d.nodes.slots 0 report.placements (pageOrder d.nodes)).Sublist (order i r d nonces) := by
  obtain ⟨-, -, -, hplace⟩ := placed_records i r d nonces
  rw [InjectionReport.placements, h, ← hplace]
  exact placed_sublist_order i r d nonces

lemma order_records : ∃ tags, List.Forall₂ (HasTag i.config.inline) (progressOn i r d nonces).injected tags ∧
    (order i r d nonces).map (token? d.nodes tags (Injection.comment (progressOn i r d nonces).injected)) =
      (listInjected i.config r.address (progressOn i r d nonces).injected
        (progressOn i r d nonces).document).value.nodes.tokens.map some := by
  obtain ⟨tags, htags, hmap, -⟩ := placed_records i r d nonces
  refine ⟨tags, htags, ?_⟩
  rcases listInjected_cases i.config r.address (progressOn i r d nonces).injected
    (progressOn i r d nonces).document with ⟨hcomment, hnodes⟩ | ⟨hcomment, hnodes⟩
  · rw [order, hcomment, hnodes]
    exact hmap
  · rw [order, hcomment, hnodes, (Nodes.insertedAt_putOnTop _ _).tokens, List.map_insertIdx, ← hmap]
    exact List.map_insertIdx _ _ _ _

lemma process_cases :
    (∃ reason, (i.process r d nonces).value = (.skipped reason, d, nonces)) ∨
      ∃ report d', (i.process r d nonces).value = (.processed report, d', (progressOn i r d nonces).nonces) ∧
        report.injected = (progressOn i r d nonces).injected ∧
        Records i r d report d' (order i r d nonces) := by
  cases hskip : skipReason? i.config r with
  | some reason => exact .inl ⟨reason, process_of_skipped hskip d nonces⟩
  | none =>
    exact .inr ⟨_, _, process_of_not_skipped hskip d nonces, rfl, nodup_order i r d nonces,
      (pageOrder_sublist_placed i r d nonces).trans (placed_sublist_order i r d nonces),
      scripts_of_recorded (progressOn_records_and_adds i r d nonces).1, order_records i r d nonces⟩

lemma exists_processed (h : (i.process r d nonces).value.2.1.nodes ≠ d.nodes) :
    ∃ report d' rest, (i.process r d nonces).value = (.processed report, d', rest) ∧
      report.injected = (progressOn i r d nonces).injected ∧
      Records i r d report d' (order i r d nonces) := by
  rcases process_cases i r d nonces with ⟨reason, hvalue⟩ | ⟨report, d', hvalue, hinjected, hrecords⟩
  · rw [hvalue] at h
    exact absurd rfl h
  · exact ⟨report, d', _, hvalue, hinjected, hrecords⟩

/-- Linked scripts of these names and times, for all pages with the path `/x`. -/
def sample (scripts : List (Text × RunAt)) : Injector where
  config := default
  scripts := scripts.map fun x => Script.sample x.1 x.2

lemma parse_of_mem_sample {scripts : List (Text × RunAt)}
    (h : ∀ x ∈ scripts, (∀ item ∈ Script.sampleItems x.1 x.2, Metadata.IsWritable item) ∧
      (Directive.schema.validate (Script.sampleItems x.1 x.2)).toOption =
        some (Script.sampleItems x.1 x.2 ++ [(Directive.noFrames, .flag false)])) :
    ∀ s ∈ (sample scripts).scripts, (Script.parse s.source).value = .ok s := by
  intro s hs
  obtain ⟨x, hx, rfl⟩ := List.mem_map.mp hs
  exact Script.parse_sample (h x hx).1 (h x hx).2

def sampleLink (name : Text) : Leaf :=
  .script (Injection.bareTag.set "src".toList ("https://a.test/".toList ++ name))

def sampleResponse : Response := ⟨"http://[::1]/x".toList, some "text/html".toList, none⟩

def samplePage (content : Nodes) : Document :=
  .fresh (.element "head".toList (.element "title".toList .nil .nil)
    (.element "body".toList content .nil)) []

/-! ## Early and late scripts -/

lemma slots_le (t : Nodes) (π : Placement) : t.slots.slot π ≤ (pageOrder t).length := by
  rw [pageOrder, List.length_map, List.length_range]
  exact (Nodes.insertedAt_put_find π .doctype t).le

lemma page_mem_take {t : Nodes} {n m : Nat} (hn : n < t.tokens.length) (hm : n < m) :
    .page n ∈ (pageOrder t).take m := by
  refine List.mem_take_iff_getElem.mpr ⟨n, ?_, ?_⟩
  · simp only [pageOrder, List.length_map, List.length_range]
    omega
  · simp [pageOrder]

lemma page_mem_drop {t : Nodes} {n m : Nat} (hn : n < t.tokens.length) (hm : m ≤ n) :
    .page n ∈ (pageOrder t).drop m := by
  obtain ⟨k, rfl⟩ := Nat.exists_eq_add_of_le hm
  exact List.mem_drop_iff_getElem.mpr ⟨k, by simpa [pageOrder, Nat.add_comm] using hn, by simp [pageOrder]⟩

/-- Where two early scripts stand in the order of the list: in a page with the title, if any, before the body
and with no element in the body, where a late script is injected between them and none before them. -/
def KeepsOrder (t : Nodes) (placements : List Placement) (j k : Nat) : Prop :=
  t.BareBody ∧ t.TitleFirst ∧ (∀ m ≤ j, placements[m]? = some .early) ∧
    ∃ n < k, placements[n]? = some .late

lemma kept_iff (t : Nodes) (placements : List Placement) (j k : Nat) :
    Injection.Origin.Kept t.slots placements j k ↔ KeepsOrder t placements j k := by
  rw [Injection.Origin.Kept, KeepsOrder, ← Nodes.bare_iff]
  exact and_congr_right fun hbare => by rw [Nodes.early_le_late_iff_of_bare hbare]

/-- Two early scripts stand in reverse in the page, unless a late script between them was the first element of
the body. -/
theorem process_early_order :
    match (i.process r d nonces).value with
    | (.skipped _, d', _) => d' = d
    | (.processed report, d', _) =>
      Records i r d report d' (order i r d nonces) ∧
      ∀ j k, j < k → report.placements[j]? = some .early → report.placements[k]? = some .early →
        (Before (order i r d nonces) (.script j) (.script k) ↔ KeepsOrder d.nodes report.placements j k) ∧
        (Before (order i r d nonces) (.script k) (.script j) ↔
          ¬ KeepsOrder d.nodes report.placements j k) := by
  rcases process_cases i r d nonces with ⟨reason, hvalue⟩ | ⟨report, d', hvalue, hinjected, hrecords⟩
  · rw [hvalue]
  · rw [hvalue]
    refine ⟨hrecords, fun j k hjk hj hk => ?_⟩
    have hkept : KeepsOrder d.nodes report.placements j k →
        Before (order i r d nonces) (.script j) (.script k) := fun h =>
      (Injection.Origin.before_place_of_kept (slots_le d.nodes .late) hk ((kept_iff _ _ _ _).mpr h)).trans
        (place_sublist_order i r d nonces hinjected)
    have hnot : ¬ KeepsOrder d.nodes report.placements j k →
        Before (order i r d nonces) (.script k) (.script j) := fun h =>
      (Injection.Origin.before_place_of_not_kept (slots_le d.nodes .early) (slots_le d.nodes .late)
        Nodes.early_le_late_of_not_bare hjk hj hk (fun hk => h ((kept_iff _ _ _ _).mp hk))).trans
        (place_sublist_order i r d nonces hinjected)
    constructor
    · exact ⟨fun h => by_contra fun hn => (hnot hn).asymm hrecords.nodup h, hkept⟩
    · exact ⟨fun h hk => (hkept hk).asymm hrecords.nodup h, hnot⟩

/-- In a body with an element in it the second of two early scripts comes first. -/
theorem process_reverses_early_scripts :
    let i := sample [("A".toList, .documentStart), ("B".toList, .documentStart)]
    let d := samplePage (.element "h1".toList .nil .nil)
    let nonces : Nonce.Supply := ⟨fun n => List.replicate (n + 1) 'n', 0⟩
    (∀ s ∈ i.scripts, (Script.parse s.source).value = .ok s) ∧ d.refused = [] ∧ ∃ report d' rest,
      (i.process sampleResponse d nonces).value = (.processed report, d', rest) ∧
      report.injected.map (·.script.name) = ["A".toList, "B".toList] ∧
      report.placements = [.early, .early] ∧
      d'.nodes = (samplePage (.leaf (sampleLink "B".toList) (.leaf (sampleLink "A".toList)
        (.element "h1".toList .nil .nil)))).nodes ∧
      Records i sampleResponse d report d' (i.order sampleResponse d nonces) ∧
      Before (i.order sampleResponse d nonces) (.script 1) (.script 0) ∧
      ¬ Before (i.order sampleResponse d nonces) (.script 0) (.script 1) := by
  intro i d nonces
  have hnodes : (i.process sampleResponse d nonces).value.2.1.nodes =
      (samplePage (.leaf (sampleLink "B".toList) (.leaf (sampleLink "A".toList)
        (.element "h1".toList .nil .nil)))).nodes := by decide +kernel
  obtain ⟨report, d', rest, hvalue, hinjected, hrecords⟩ :=
    exists_processed i sampleResponse d nonces (by rw [hnodes]; decide)
  have hreversed : Before (i.order sampleResponse d nonces) (.script 1) (.script 0) := by decide +kernel
  rw [hvalue] at hnodes
  refine ⟨parse_of_mem_sample (by decide +kernel), rfl, report, d', rest, hvalue, ?_, ?_, hnodes, hrecords,
    hreversed, hreversed.asymm hrecords.nodup⟩
  · rw [hinjected]
    decide +kernel
  · rw [InjectionReport.placements, hinjected]
    decide +kernel

/-- In an empty body a late script becomes the first element, and the early scripts around it keep their
order. -/
theorem process_early_order_of_empty_body :
    let i := sample [("A".toList, .documentStart), ("B".toList, .documentEnd), ("C".toList, .documentIdle)]
    let d := samplePage .nil
    let nonces : Nonce.Supply := ⟨fun n => List.replicate (n + 1) 'n', 0⟩
    (∀ s ∈ i.scripts, (Script.parse s.source).value = .ok s) ∧ ∃ report d' rest,
      (i.process sampleResponse d nonces).value = (.processed report, d', rest) ∧
      report.injected.map (·.script.name) = ["A".toList, "B".toList, "C".toList] ∧
      report.placements = [.early, .late, .early] ∧ KeepsOrder d.nodes report.placements 0 2 ∧
      Before (i.order sampleResponse d nonces) (.script 0) (.script 2) := by
  intro i d nonces
  obtain ⟨report, d', rest, hvalue, hinjected, -⟩ :=
    exists_processed i sampleResponse d nonces (by decide +kernel)
  have hplacements : report.placements = [.early, .late, .early] := by
    rw [InjectionReport.placements, hinjected]
    decide +kernel
  have horder := process_early_order i sampleResponse d nonces
  rw [hvalue] at horder
  obtain ⟨-, horder⟩ := horder
  rw [hplacements] at horder
  have hbefore : Before (i.order sampleResponse d nonces) (.script 0) (.script 2) := by decide +kernel
  have hkept := (horder 0 2 (by decide) rfl rfl).1.mp hbefore
  rw [← hplacements] at hkept
  refine ⟨parse_of_mem_sample (by decide +kernel), report, d', rest, hvalue, ?_, hplacements, hkept, hbefore⟩
  rw [hinjected]
  decide +kernel

/-- Where the title, if any, comes before the body and is not around it, the early scripts stand before every
element that was in the body and before the late scripts. These stand in order, behind all that was in the
body, or in the page if it has none. -/
theorem process_order_of_titleFirst (htitle : d.nodes.TitleFirst) :
    match (i.process r d nonces).value with
    | (.skipped _, d', _) => d' = d
    | (.processed report, d', _) =>
      Records i r d report d' (order i r d nonces) ∧
      (∀ k, report.placements[k]? = some .early →
        (∀ n x, d.nodes.InBody n → d.nodes.tokens[n]? = some x → x.isElement = true →
          Before (order i r d nonces) (.script k) (.page n)) ∧
        ∀ l, report.placements[l]? = some .late →
          Before (order i r d nonces) (.script k) (.script l)) ∧
      ∀ l, report.placements[l]? = some .late →
        (∀ n < d.nodes.tokens.length, d.nodes.span? Injection.Place.body = none ∨ d.nodes.InBody n →
          Before (order i r d nonces) (.page n) (.script l)) ∧
        ∀ k < l, report.placements[k]? = some .late →
          Before (order i r d nonces) (.script k) (.script l) := by
  rcases process_cases i r d nonces with ⟨reason, hvalue⟩ | ⟨report, d', hvalue, hinjected, hrecords⟩
  · rw [hvalue]
  · rw [hvalue]
    have hsub := place_sublist_order i r d nonces hinjected
    have hle : d.nodes.slots.early ≤ d.nodes.slots.late := by
      cases hbare : d.nodes.slots.bare with
      | true => exact (Nodes.early_le_late_iff_of_bare hbare).mpr htitle
      | false => exact Nodes.early_le_late_of_not_bare hbare
    have hlen : d.nodes.slots.late ≤ (pageOrder d.nodes).length := slots_le d.nodes .late
    refine ⟨hrecords, fun k hk => ?_, fun l hl => ?_⟩
    · obtain ⟨hpage, hlate⟩ := Injection.Origin.before_place_early hle hlen hk
      refine ⟨fun n x hn hx hx' => ?_, fun l hl => (hlate l hl).trans hsub⟩
      obtain ⟨hbare, hearly⟩ := Nodes.early_le_of_inBody hn hx hx'
      have hlt := (List.getElem?_eq_some_iff.mp hx).1
      exact (hpage hbare _ (page_mem_drop hlt hearly)).trans hsub
    · obtain ⟨hpage, hlate⟩ := Injection.Origin.before_place_late hle hlen hl
      refine ⟨fun n hn hbody => ?_, fun k hkl hk => (hlate k hkl hk).trans hsub⟩
      exact (hpage _ (page_mem_take hn (Nodes.lt_late hn hbody))).trans hsub

/-- A page with a title, a text and an element in the body, and a script of either kind that is refused. -/
theorem process_order_of_titleFirst_of_refusals :
    let i := sample [("A".toList, .documentEnd), ("B".toList, .documentStart), ("C".toList, .documentEnd),
      ("D".toList, .documentIdle), ("E".toList, .documentEnd)]
    let d := { samplePage (.leaf (.text "t".toList) (.element "h1".toList .nil .nil)) with
      refused := [(.createScript, 2), (.append, 2)] }
    let nonces : Nonce.Supply := ⟨fun n => List.replicate (n + 1) 'n', 0⟩
    (∀ s ∈ i.scripts, (Script.parse s.source).value = .ok s) ∧ d.nodes.TitleFirst ∧ ∃ report d' rest,
      (i.process sampleResponse d nonces).value = (.processed report, d', rest) ∧
      report.injected.map (·.script.name) = ["A".toList, "D".toList, "E".toList] ∧
      report.placements = [.late, .early, .late] ∧ d.nodes.InBody 6 ∧
      d.nodes.tokens[6]? = some (.start "h1".toList) ∧
      Before (i.order sampleResponse d nonces) (.script 1) (.page 6) ∧
      Before (i.order sampleResponse d nonces) (.page 6) (.script 0) ∧
      Before (i.order sampleResponse d nonces) (.script 0) (.script 2) := by
  intro i d nonces
  have hbody : d.nodes.span? Injection.Place.body = some ⟨5, 8⟩ := by decide
  have htitle : d.nodes.TitleFirst := by
    intro title body ht hb
    have ht' : d.nodes.span? Injection.Place.title = some ⟨2, 2⟩ := by decide
    rw [ht', Option.some.injEq] at ht
    rw [hbody, Option.some.injEq] at hb
    rw [← ht, ← hb]
    decide
  have hin : d.nodes.InBody 6 := ⟨⟨5, 8⟩, hbody, by decide, by decide⟩
  obtain ⟨report, d', rest, hvalue, hinjected, -⟩ :=
    exists_processed i sampleResponse d nonces (by decide +kernel)
  have hnames : report.injected.map (·.script.name) = ["A".toList, "D".toList, "E".toList] := by
    rw [hinjected]
    decide +kernel
  have hplacements : report.placements = [.late, .early, .late] := by
    rw [InjectionReport.placements, hinjected]
    decide +kernel
  have horder := process_order_of_titleFirst i sampleResponse d nonces htitle
  rw [hvalue] at horder
  obtain ⟨-, hearly, hlate⟩ := horder
  rw [hplacements] at hearly hlate
  have hheading : d.nodes.tokens[6]? = some (.start "h1".toList) := by decide
  exact ⟨parse_of_mem_sample (by decide +kernel), htitle, report, d', rest, hvalue, hnames, hplacements, hin,
    hheading, (hearly 1 rfl).1 6 _ hin hheading rfl, (hlate 0 rfl).1 6 (by decide) (Or.inr hin),
    (hlate 2 rfl).2 0 (by decide) rfl⟩

end Injector

end Userscript
