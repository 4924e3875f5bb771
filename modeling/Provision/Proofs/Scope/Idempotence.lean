import Provision.Proofs.Scope.Substitution

/-!
# Collecting twice

What a collection makes of a parameter tree is a tree that no collection changes
any more. Strings stay strings and keep their references to resources, in order
and as they are written; a string that was one reference to metadata becomes the
value referred to, in which nothing reads as a reference.
-/

set_option autoImplicit false

namespace Provision

open Placeholder Outcome

namespace Value

mutual

/-- Whether a value comes from another one by rewriting its strings as `R` allows. -/
def Rewritten (R : String → Value → Prop) : Value → Value → Prop
  | .string s, w => R s w
  | .list vs, .list ws => RewrittenItems R vs ws
  | .map es, .map fs => RewrittenEntries R es fs
  | v, w => w = v

def RewrittenItems (R : String → Value → Prop) : List Value → List Value → Prop
  | [], [] => True
  | v :: vs, w :: ws => Rewritten R v w ∧ RewrittenItems R vs ws
  | _, _ => False

def RewrittenEntries (R : String → Value → Prop) :
    List (String × Value) → List (String × Value) → Prop
  | [], [] => True
  | (k, v) :: es, (l, w) :: fs => l = k ∧ Rewritten R v w ∧ RewrittenEntries R es fs
  | _, _ => False

end

def ReferenceFree (v : Value) : Prop :=
  ∀ s ∈ v.strings, ∃ t, Template.parse s = .ok t ∧ t.references = []

end Value

namespace Scope

open Template

theorem parse_doubleDollars (s : String) :
    Template.parse (doubleDollars s) = .ok (consEscaped s.toList []) := by
  refine parse_eq_ok_iff.mpr ?_
  rw [doubleDollars, String.toList_ofList]
  exact reads_escapeChars s.toList

mutual

theorem strings_escapeTree (v : Value) :
    (escapeTree v).strings = v.strings.map doubleDollars := by
  match v with
  | .null => rfl
  | .bool _ => rfl
  | .int _ => rfl
  | .float _ => rfl
  | .string _ => rfl
  | .list items => exact strings_escapeItems items
  | .map entries => exact strings_escapeEntries entries

theorem strings_escapeItems (vs : List Value) :
    Value.stringsOfItems (escapeItems vs) = (Value.stringsOfItems vs).map doubleDollars := by
  match vs with
  | [] => rfl
  | v :: rest =>
    rw [escapeItems, Value.stringsOfItems, strings_escapeTree, strings_escapeItems,
      Value.stringsOfItems, List.map_append]

theorem strings_escapeEntries (es : List (String × Value)) :
    Value.stringsOfEntries (escapeEntries es) =
      (Value.stringsOfEntries es).map doubleDollars := by
  match es with
  | [] => rfl
  | (k, v) :: rest =>
    rw [escapeEntries, Value.stringsOfEntries, strings_escapeTree, strings_escapeEntries,
      Value.stringsOfEntries, List.map_append]

end

/-- A value that comes from metadata refers to nothing. -/
theorem referenceFree_escapeTree (v : Value) : (escapeTree v).ReferenceFree := by
  intro s hs
  rw [strings_escapeTree] at hs
  obtain ⟨x, -, rfl⟩ := List.mem_map.mp hs
  refine ⟨_, parse_doubleDollars x, ?_⟩
  rw [references_consEscaped]
  rfl

/-- What a collection makes of a string: of one reference to metadata the value
referred to, escaped so that it refers to nothing; of any other string a string with
the same references to resources. -/
inductive Settled (scope : Scope) (s : String) : Value → Prop
  | value {r : Reference} {keys : List String} {v : Value}
      (hs : Template.parse s = .ok [.reference r]) (hr : r.target = .metadata keys)
      (hv : scope.metadataValue r.raw keys = .ok v) (hfree : (escapeTree v).ReferenceFree) :
      Settled scope s (escapeTree v)
  | string {t u : Template} {text : String} (hs : Template.parse s = .ok t)
      (hu : Template.parse text = .ok u)
      (hr : u.references = t.references.filter Reference.isResource) :
      Settled scope s (.string text)

section Text

variable {scope : Scope} {s : String} {v : Value} {found : Found}

theorem collectText_settled (h : scope.collectText s = .ok (v, found)) : scope.Settled s v := by
  rcases collectText_settles h with ⟨hu, rfl, -⟩ | ⟨r, keys, w, hs, hr, hw, rfl, -⟩ |
    ⟨t, u, text, ht, hu, rfl, -, htext⟩
  · obtain ⟨t, ht, hrefs⟩ := Template.exists_parse_of_isUnmarked hu
    exact .string ht ht (by simp [hrefs])
  · exact .value hs hr hw (referenceFree_escapeTree w)
  · exact .string ht htext hu.references

/-- A template that refers to resources only is collected to what it was read from. -/
theorem collectText_of_collectSegments {u : Template} (hp : Template.parse s = .ok u)
    (hr : ∀ r ∈ u.references, r.isResource = true)
    (h : scope.collectSegments u = .ok (s, found)) :
    scope.collectText s = .ok (.string s, found) := by
  unfold collectText
  split
  · next hplain =>
    obtain ⟨t, ht, hrefs⟩ := Template.exists_parse_of_isUnmarked hplain
    cases hp.symm.trans ht
    obtain ⟨_, hsettles, -⟩ := settles_of_collectSegments h
    have hnone := hsettles.found
    rw [hrefs, List.filterMap_nil, List.map_eq_nil_iff] at hnone
    rw [hnone]
  · refine bind_eq_ok.mpr ⟨u, hp, ?_⟩
    have hjoined : (scope.collectSegments u >>= fun p => pure (Value.string p.1, p.2)) =
        .ok (.string s, found) := by
      rw [h]
      rfl
    unfold collectTemplate
    split
    · next r hsingle =>
      split
      · next keys ht =>
        have hres := hr r (Template.mem_references_of_single? hsingle)
        simp [Reference.isResource, Reference.alias?, ht] at hres
      · exact hjoined
    · exact hjoined

theorem collectText_doubleDollars (scope : Scope) (s : String) :
    scope.collectText (doubleDollars s) = .ok (.string (doubleDollars s), []) := by
  refine collectText_of_collectSegments (parse_doubleDollars s) ?_ ?_
  · rw [references_consEscaped]
    simp [Template.references]
  · have hnil : scope.collectSegments [] = .ok ("", []) := rfl
    rw [collectSegments_consEscaped hnil, String.append_empty]
    rfl

end Text

section Tree

variable {scope other : Scope}

mutual

theorem collectTree_escapeTree (scope : Scope) (path : String) (v : Value) :
    scope.collectTree path (escapeTree v) = .ok (escapeTree v, []) := by
  match v with
  | .null => rfl
  | .bool _ => rfl
  | .int _ => rfl
  | .float _ => rfl
  | .string s =>
    rw [escapeTree, collectTree, collectText_doubleDollars]
    rfl
  | .list items =>
    rw [escapeTree, collectTree, collectItems_escapeItems]
    rfl
  | .map entries =>
    rw [escapeTree, collectTree, collectEntries_escapeEntries]
    rfl

theorem collectItems_escapeItems (scope : Scope) (path : String) (i : Nat) (vs : List Value) :
    scope.collectItems path i (escapeItems vs) = .ok (escapeItems vs, []) := by
  match vs with
  | [] => rfl
  | v :: rest =>
    rw [escapeItems, collectItems, collectTree_escapeTree, collectItems_escapeItems]
    rfl

theorem collectEntries_escapeEntries (scope : Scope) (path : String)
    (es : List (String × Value)) :
    scope.collectEntries path (escapeEntries es) = .ok (escapeEntries es, []) := by
  match es with
  | [] => rfl
  | (k, v) :: rest =>
    rw [escapeEntries, collectEntries, collectTree_escapeTree, collectEntries_escapeEntries]
    rfl

end

theorem collectText_again {s : String} {v : Value} {found : Found}
    (h : scope.collectText s = .ok (v, found)) (ha : other.aliases = scope.aliases)
    (path : String) : other.collectTree path v = .ok (v, found) := by
  rcases collectText_settles h with ⟨hu, rfl, rfl⟩ | ⟨r, keys, w, -, -, -, rfl, rfl⟩ |
    ⟨t, u, text, -, hu, rfl, htext, hp⟩
  · rw [collectTree, collectText, if_pos hu]
    rfl
  · exact collectTree_escapeTree other path w
  · have hres : ∀ r ∈ u.references, r.isResource = true := by
      intro r hr
      rw [hu.references] at hr
      exact (List.mem_filter.mp hr).2
    have hagain := hu.collectSegments ha
    rw [← htext] at hagain
    rw [collectTree, collectText_of_collectSegments hp hres hagain]
    rfl

mutual

/-- A second collection of a tree changes nothing and finds the same aliases. -/
theorem collectTree_again {path : String} {v w : Value} {found : Found}
    (h : scope.collectTree path v = .ok (w, found)) (ha : other.aliases = scope.aliases) :
    other.collectTree path w = .ok (w, found) ∧ Value.Rewritten scope.Settled v w := by
  match v with
  | .null => cases h; exact ⟨rfl, rfl⟩
  | .bool _ => cases h; exact ⟨rfl, rfl⟩
  | .int _ => cases h; exact ⟨rfl, rfl⟩
  | .float _ => cases h; exact ⟨rfl, rfl⟩
  | .string s =>
    have hs := locate_eq_ok.mp h
    exact ⟨collectText_again hs ha path, collectText_settled hs⟩
  | .list items =>
    obtain ⟨⟨ws, f⟩, hi, h⟩ := bind_eq_ok.mp h
    cases pure_eq_ok.mp h
    obtain ⟨hagain, hrewritten⟩ := collectItems_again hi ha
    refine ⟨?_, hrewritten⟩
    rw [collectTree, hagain]
    rfl
  | .map entries =>
    obtain ⟨⟨es, f⟩, he, h⟩ := bind_eq_ok.mp h
    cases pure_eq_ok.mp h
    obtain ⟨hagain, hrewritten⟩ := collectEntries_again he ha
    refine ⟨?_, hrewritten⟩
    rw [collectTree, hagain]
    rfl

theorem collectItems_again {path : String} {i : Nat} {vs ws : List Value} {found : Found}
    (h : scope.collectItems path i vs = .ok (ws, found)) (ha : other.aliases = scope.aliases) :
    other.collectItems path i ws = .ok (ws, found) ∧ Value.RewrittenItems scope.Settled vs ws := by
  match vs with
  | [] => cases h; exact ⟨rfl, trivial⟩
  | v :: rest =>
    obtain ⟨⟨w, f⟩, hv, h⟩ := bind_eq_ok.mp h
    obtain ⟨⟨us, more⟩, hr, h⟩ := bind_eq_ok.mp h
    cases pure_eq_ok.mp h
    obtain ⟨hfirst, hw⟩ := collectTree_again hv ha
    obtain ⟨hrest, hus⟩ := collectItems_again hr ha
    refine ⟨?_, hw, hus⟩
    rw [collectItems, hfirst, hrest]
    rfl

theorem collectEntries_again {path : String} {es fs : List (String × Value)} {found : Found}
    (h : scope.collectEntries path es = .ok (fs, found)) (ha : other.aliases = scope.aliases) :
    other.collectEntries path fs = .ok (fs, found) ∧
      Value.RewrittenEntries scope.Settled es fs := by
  match es with
  | [] => cases h; exact ⟨rfl, trivial⟩
  | (k, v) :: rest =>
    obtain ⟨⟨w, f⟩, hv, h⟩ := bind_eq_ok.mp h
    obtain ⟨⟨us, more⟩, hr, h⟩ := bind_eq_ok.mp h
    cases pure_eq_ok.mp h
    obtain ⟨hfirst, hw⟩ := collectTree_again hv ha
    obtain ⟨hrest, hus⟩ := collectEntries_again hr ha
    refine ⟨?_, rfl, hw, hus⟩
    rw [collectEntries, hfirst, hrest]
    rfl

end

theorem collectParams_again {es fs : List (String × Value)} {found : Found}
    (h : scope.collectParams es = .ok (fs, found)) (ha : other.aliases = scope.aliases) :
    other.collectParams fs = .ok (fs, found) ∧ Value.RewrittenEntries scope.Settled es fs := by
  induction es generalizing fs found with
  | nil =>
    cases h
    exact ⟨rfl, trivial⟩
  | cons e rest ih =>
    obtain ⟨⟨w, f⟩, hv, h⟩ := bind_eq_ok.mp h
    obtain ⟨⟨us, more⟩, hr, h⟩ := bind_eq_ok.mp h
    cases pure_eq_ok.mp h
    obtain ⟨hfirst, hw⟩ := collectTree_again hv ha
    obtain ⟨hrest, hus⟩ := ih hr
    refine ⟨?_, rfl, hw, hus⟩
    rw [collectParams, hfirst, hrest]
    rfl

end Tree

/-- Collecting is idempotent, with whatever metadata the second run has, and text
from metadata never becomes a reference. -/
theorem collect_idempotent {scope : Scope} {params out : List (String × Value)}
    {deps : Table String} (h : scope.collect params = .ok (out, deps)) :
    (∀ other : Scope, other.aliases = scope.aliases → other.collect out = .ok (out, deps)) ∧
      Value.RewrittenEntries scope.Settled params out := by
  obtain ⟨⟨fs, found⟩, hp, h⟩ := bind_eq_ok.mp h
  cases pure_eq_ok.mp h
  refine ⟨?_, (collectParams_again hp rfl).2⟩
  intro other ha
  rw [collect, (collectParams_again hp ha).1]
  rfl

def hostile : Scope :=
  ⟨some [("note", .string "$\x7bresources.db\x7d$"), ("tree", .list [.string "$$\x7bx", .int 5])],
    Table.ofList [("db", "node")]⟩

def hostileParams : List (String × Value) :=
  [("a", .string
      "$$$\x7bmetadata.note\x7d\x7b$\x7bmetadata.note\x7d$\x7bresources.db.host\x7d$"),
    ("b", .list [.string "$\x7bmetadata.tree\x7d"])]

theorem collect_idempotent_hostile :
    ∃ out deps, hostile.collect hostileParams = .ok (out, deps) ∧
      (Value.stringsOfEntries out, deps.entries) =
        (["$$$$\x7bresources.db\x7d$$\x7b$$\x7bresources.db\x7d$$$\x7bresources.db.host\x7d$",
          "$$$$\x7bx"], [("db", "node")]) ∧
      (∀ other : Scope, other.aliases = hostile.aliases → other.collect out = .ok (out, deps)) ∧
      Value.RewrittenEntries hostile.Settled hostileParams out := by
  have hmap : (hostile.collect hostileParams).map
      (fun result => (Value.stringsOfEntries result.1, result.2.entries)) =
        .ok (["$$$$\x7bresources.db\x7d$$\x7b$$\x7bresources.db\x7d$$$\x7bresources.db.host\x7d$",
          "$$$$\x7bx"], [("db", "node")]) := by
    decide +kernel
  obtain ⟨⟨out, deps⟩, hc, hout⟩ := map_eq_ok.mp hmap
  exact ⟨out, deps, hc, hout, collect_idempotent hc⟩

end Scope

end Provision
