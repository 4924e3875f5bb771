import Provision.Proofs.Outcome
import Provision.Proofs.Placeholder
import Provision.Scope.Collect
import Provision.Scope.Interpolate

/-!
# What a collection has seen

Collecting a parameter tree goes through its strings one after another. Where it
succeeds, every string is a template whose references resolve, in the scope of the
collection and in any other with the same metadata that knows the aliases found.
-/

set_option autoImplicit false

namespace Provision

open Placeholder Outcome

namespace Value

mutual

def strings : Value → List String
  | .string s => [s]
  | .list items => stringsOfItems items
  | .map entries => stringsOfEntries entries
  | _ => []

def stringsOfItems : List Value → List String
  | [] => []
  | v :: rest => v.strings ++ stringsOfItems rest

def stringsOfEntries : List (String × Value) → List String
  | [] => []
  | (_, v) :: rest => v.strings ++ stringsOfEntries rest

end

end Value

namespace Scope

def Resolves (scope : Scope) (s : String) : Prop :=
  ∃ t, Template.parse s = .ok t ∧ ∀ r ∈ t.references, ∃ a, scope.resolve r = .ok a

/-- Whether another scope has the same metadata and knows the aliases found. -/
structure Agrees (scope other : Scope) (found : Found) : Prop where
  metadata : other.metadata = scope.metadata
  aliases : ∀ e ∈ found, other.aliases.find? e.1 = some e.2

/-- A string whose references resolve has a meaning. -/
theorem Resolves.interpolate {scope : Scope} {s : String} (h : scope.Resolves s) :
    ∃ i, scope.interpolate s = .ok i := by
  obtain ⟨t, ht, hr⟩ := h
  cases hi : scope.interpolate s with
  | ok i => exact ⟨i, rfl⟩
  | error e =>
    have hresolve : ∀ r ∈ t.references, scope.resolve r ≠ .error e := by
      intro r hmem hfail
      obtain ⟨a, ha⟩ := hr r hmem
      rw [ha] at hfail
      cases hfail
    unfold Scope.interpolate at hi
    rcases bind_eq_error.mp hi with hparse | ⟨t', ht', hi⟩
    · rw [ht] at hparse
      cases hparse
    · rw [ht] at ht'
      cases ht'
      split at hi
      · exact absurd hi pure_ne_error
      · split at hi
        · next r hsingle =>
          rcases bind_eq_error.mp hi with hfail | ⟨a, _, hi⟩
          · exact absurd hfail (hresolve r (Template.mem_references_of_single? hsingle))
          · split at hi <;> exact absurd hi pure_ne_error
        · rcases bind_eq_error.mp hi with hfail | ⟨_, _, hi⟩
          · obtain ⟨r, hmem, hfail⟩ := mapM_eq_error hfail
            exact absurd hfail (hresolve r hmem)
          · exact absurd hi pure_ne_error

theorem Agrees.mono {scope other : Scope} {found part : Found} (h : scope.Agrees other found)
    (hp : ∀ e ∈ part, e ∈ found) : scope.Agrees other part :=
  ⟨h.metadata, fun e he => h.aliases e (hp e he)⟩

theorem metadataValue_congr {scope other : Scope} (h : other.metadata = scope.metadata)
    (raw : String) (keys : List String) :
    other.metadataValue raw keys = scope.metadataValue raw keys := by
  simp only [metadataValue, findMetadata, h]

theorem aliasNode_eq_ok {scope : Scope} {raw name node : String} :
    scope.aliasNode raw name = .ok node ↔ scope.aliases.find? name = some node := by
  unfold aliasNode findAlias
  cases scope.aliases.find? name <;> simp [within]

theorem resolve_metadata {scope : Scope} {r : Reference} {keys : List String} {v : Value}
    (ht : r.target = .metadata keys) (h : scope.metadataValue r.raw keys = .ok v) :
    scope.resolve r = .ok (.value v) := by
  simp only [resolve, ht, h]
  rfl

theorem resolve_resource {scope : Scope} {r : Reference} {name node : String}
    {fields : List String} (ht : r.target = .resource name fields)
    (h : scope.aliases.find? name = some node) :
    scope.resolve r = .ok (.output ⟨node, fields⟩) := by
  simp only [resolve, ht, aliasNode_eq_ok.mpr h]
  rfl

theorem collectSegment_reference {scope : Scope} {r : Reference} {text : String} {found : Found}
    (h : scope.collectSegment (.reference r) = .ok (text, found)) :
    (∃ keys v, r.target = .metadata keys ∧ scope.metadataValue r.raw keys = .ok v ∧ found = []) ∨
      ∃ name fields node, r.target = .resource name fields ∧
        scope.aliases.find? name = some node ∧ found = [(name, node)] := by
  simp only [collectSegment] at h
  split at h
  · next keys ht =>
    obtain ⟨v, hv, h⟩ := bind_eq_ok.mp h
    obtain ⟨s, _, h⟩ := bind_eq_ok.mp h
    cases pure_eq_ok.mp h
    exact .inl ⟨keys, v, ht, hv, rfl⟩
  · next name fields ht =>
    obtain ⟨node, hn, h⟩ := bind_eq_ok.mp h
    cases pure_eq_ok.mp h
    exact .inr ⟨name, fields, node, ht, aliasNode_eq_ok.mp hn, rfl⟩

/-- The segments of a template, each collected by itself. -/
theorem collectSegments_cons {scope : Scope} {s : Segment} {t : Template} {text : String}
    {found : Found} (h : scope.collectSegments (s :: t) = .ok (text, found)) :
    ∃ first part rest more, scope.collectSegment s = .ok (first, part) ∧
      scope.collectSegments t = .ok (rest, more) ∧ found = part ++ more := by
  obtain ⟨⟨first, part⟩, hs, h⟩ := bind_eq_ok.mp h
  obtain ⟨⟨rest, more⟩, ht, h⟩ := bind_eq_ok.mp h
  cases pure_eq_ok.mp h
  exact ⟨first, part, rest, more, hs, ht, rfl⟩

theorem references_cons (s : Segment) (t : Template) :
    Template.references (s :: t) = Template.references [s] ++ Template.references t := by
  cases s <;> rfl

theorem collectSegment_resolves {scope other : Scope} {s : Segment} {text : String}
    {found : Found} (h : scope.collectSegment s = .ok (text, found))
    (ha : scope.Agrees other found) :
    ∀ r ∈ Template.references [s], ∃ a, other.resolve r = .ok a := by
  intro r hr
  cases s with
  | text s => simp [Template.references] at hr
  | escape => simp [Template.references] at hr
  | reference ref =>
    have heq : r = ref := by simpa [Template.references] using hr
    subst heq
    rcases collectSegment_reference h with ⟨keys, v, ht, hv, -⟩ | ⟨name, fields, node, ht, -, rfl⟩
    · exact ⟨_, resolve_metadata ht (by rw [metadataValue_congr ha.metadata, hv])⟩
    · exact ⟨_, resolve_resource ht (ha.aliases (name, node) (by simp))⟩

theorem collectSegments_resolves {scope other : Scope} {t : Template} {text : String}
    {found : Found} (h : scope.collectSegments t = .ok (text, found))
    (ha : scope.Agrees other found) : ∀ r ∈ t.references, ∃ a, other.resolve r = .ok a := by
  induction t generalizing text found with
  | nil => simp [Template.references]
  | cons s t ih =>
    obtain ⟨first, part, rest, more, hs, ht, rfl⟩ := collectSegments_cons h
    intro r hr
    rw [references_cons] at hr
    rcases List.mem_append.mp hr with hr | hr
    · exact collectSegment_resolves hs (ha.mono fun e he => List.mem_append_left _ he) r hr
    · exact ih ht (ha.mono fun e he => List.mem_append_right _ he) r hr

theorem collectSegments_found {scope : Scope} {t : Template} {text : String} {found : Found}
    (h : scope.collectSegments t = .ok (text, found)) :
    ∀ e ∈ found, scope.aliases.find? e.1 = some e.2 := by
  induction t generalizing text found with
  | nil =>
    cases h
    simp
  | cons s t ih =>
    obtain ⟨first, part, rest, more, hs, ht, rfl⟩ := collectSegments_cons h
    intro e he
    rcases List.mem_append.mp he with he | he
    · cases s with
      | text s =>
        cases hs
        simp at he
      | escape =>
        cases hs
        simp at he
      | reference ref =>
        rcases collectSegment_reference hs with ⟨_, _, _, _, rfl⟩ | ⟨_, _, _, _, hf, rfl⟩
        · simp at he
        · cases List.mem_singleton.mp he
          exact hf
    · exact ih ht e he

/-- A template is one reference to metadata, or its segments are collected. -/
theorem collectTemplate_cases {scope : Scope} {t : Template} {v : Value} {found : Found}
    (h : scope.collectTemplate t = .ok (v, found)) :
    (∃ r keys w, t = [.reference r] ∧ r.target = .metadata keys ∧
        scope.metadataValue r.raw keys = .ok w ∧ v = escapeTree w ∧ found = []) ∨
      ∃ s, scope.collectSegments t = .ok (s, found) ∧ v = .string s := by
  have hjoined : ∀ {v : Value} {found : Found},
      (scope.collectSegments t >>= fun p => pure (Value.string p.1, p.2)) = .ok (v, found) →
      ∃ s, scope.collectSegments t = .ok (s, found) ∧ v = .string s := by
    intro v found h
    obtain ⟨⟨s, f⟩, hs, h⟩ := bind_eq_ok.mp h
    cases pure_eq_ok.mp h
    exact ⟨s, hs, rfl⟩
  unfold collectTemplate at h
  split at h
  · next r hsingle =>
    split at h
    · next keys htarget =>
      obtain ⟨w, hw, h⟩ := bind_eq_ok.mp h
      cases pure_eq_ok.mp h
      exact .inl ⟨r, keys, w, Template.eq_of_single? hsingle, htarget, hw, rfl, rfl⟩
    · exact .inr (hjoined h)
  · exact .inr (hjoined h)

/-- A string is left as it is, or it is a template. -/
theorem collectText_cases {scope : Scope} {s : String} {v : Value} {found : Found}
    (h : scope.collectText s = .ok (v, found)) :
    (isUnmarked s = true ∧ v = .string s ∧ found = []) ∨
      ∃ t, Template.parse s = .ok t ∧ scope.collectTemplate t = .ok (v, found) := by
  unfold collectText at h
  split at h
  · next hu =>
    cases h
    exact .inl ⟨hu, rfl, rfl⟩
  · exact .inr (bind_eq_ok.mp h)

theorem collectText_resolves {scope other : Scope} {s : String} {v : Value} {found : Found}
    (h : scope.collectText s = .ok (v, found)) (ha : scope.Agrees other found) :
    other.Resolves s := by
  rcases collectText_cases h with ⟨hu, -, -⟩ | ⟨t, ht, h⟩
  · obtain ⟨t, ht, hrefs⟩ := Template.exists_parse_of_isUnmarked hu
    exact ⟨t, ht, by simp [hrefs]⟩
  · refine ⟨t, ht, ?_⟩
    rcases collectTemplate_cases h with ⟨r, keys, w, rfl, htarget, hw, -, -⟩ | ⟨_, hs, -⟩
    · intro r' hr
      have heq : r' = r := by simpa [Template.references] using hr
      subst heq
      exact ⟨_, resolve_metadata htarget (by rw [metadataValue_congr ha.metadata, hw])⟩
    · exact collectSegments_resolves hs ha

theorem collectText_found {scope : Scope} {s : String} {v : Value} {found : Found}
    (h : scope.collectText s = .ok (v, found)) :
    ∀ e ∈ found, scope.aliases.find? e.1 = some e.2 := by
  rcases collectText_cases h with ⟨-, -, rfl⟩ | ⟨t, -, h⟩
  · simp
  · rcases collectTemplate_cases h with ⟨_, _, _, _, _, _, _, rfl⟩ | ⟨_, hs, -⟩
    · simp
    · exact collectSegments_found hs

/-- The strings collected one after another, with what each of them found. -/
inductive Gathers (scope : Scope) : List String → Found → Prop
  | nil : Gathers scope [] []
  | cons {s : String} {v : Value} {part found : Found} {rest : List String}
      (hs : scope.collectText s = .ok (v, part)) (hrest : Gathers scope rest found) :
      Gathers scope (s :: rest) (part ++ found)

theorem Gathers.append {scope : Scope} {ss rest : List String} {found more : Found}
    (h : scope.Gathers ss found) (hr : scope.Gathers rest more) :
    scope.Gathers (ss ++ rest) (found ++ more) := by
  induction h with
  | nil => exact hr
  | cons hs _ ih =>
    rw [List.cons_append, List.append_assoc]
    exact .cons hs ih

theorem Gathers.resolves {scope other : Scope} {ss : List String} {found : Found}
    (h : scope.Gathers ss found) (ha : scope.Agrees other found) :
    ∀ s ∈ ss, other.Resolves s := by
  induction h with
  | nil => simp
  | cons hs _ ih =>
    intro x hx
    rcases List.mem_cons.mp hx with rfl | hx
    · exact collectText_resolves hs (ha.mono fun e he => List.mem_append_left _ he)
    · exact ih (ha.mono fun e he => List.mem_append_right _ he) x hx

theorem Gathers.found {scope : Scope} {ss : List String} {found : Found}
    (h : scope.Gathers ss found) : ∀ e ∈ found, scope.aliases.find? e.1 = some e.2 := by
  induction h with
  | nil => simp
  | cons hs _ ih =>
    intro e he
    rcases List.mem_append.mp he with he | he
    · exact collectText_found hs e he
    · exact ih e he

theorem locate_eq_ok {α : Type} {path : String} {x : Except Error α} {a : α} :
    locate path x = .ok a ↔ x = .ok a := by
  cases x <;> simp [locate]

mutual

theorem collectTree_gathers {scope : Scope} {path : String} {v w : Value} {found : Found}
    (h : scope.collectTree path v = .ok (w, found)) : scope.Gathers v.strings found := by
  match v with
  | .null => cases h; exact .nil
  | .bool _ => cases h; exact .nil
  | .int _ => cases h; exact .nil
  | .float _ => cases h; exact .nil
  | .string s =>
    have hs := Gathers.cons (locate_eq_ok.mp h) .nil
    rw [List.append_nil] at hs
    exact hs
  | .list items =>
    obtain ⟨⟨vs, f⟩, hi, h⟩ := bind_eq_ok.mp h
    cases pure_eq_ok.mp h
    exact collectItems_gathers hi
  | .map entries =>
    obtain ⟨⟨es, f⟩, he, h⟩ := bind_eq_ok.mp h
    cases pure_eq_ok.mp h
    exact collectEntries_gathers he

theorem collectItems_gathers {scope : Scope} {path : String} {i : Nat} {vs ws : List Value}
    {found : Found} (h : scope.collectItems path i vs = .ok (ws, found)) :
    scope.Gathers (Value.stringsOfItems vs) found := by
  match vs with
  | [] => cases h; exact .nil
  | v :: rest =>
    obtain ⟨⟨w, f⟩, hv, h⟩ := bind_eq_ok.mp h
    obtain ⟨⟨us, more⟩, hr, h⟩ := bind_eq_ok.mp h
    cases pure_eq_ok.mp h
    exact (collectTree_gathers hv).append (collectItems_gathers hr)

theorem collectEntries_gathers {scope : Scope} {path : String} {es fs : List (String × Value)}
    {found : Found} (h : scope.collectEntries path es = .ok (fs, found)) :
    scope.Gathers (Value.stringsOfEntries es) found := by
  match es with
  | [] => cases h; exact .nil
  | (k, v) :: rest =>
    obtain ⟨⟨w, f⟩, hv, h⟩ := bind_eq_ok.mp h
    obtain ⟨⟨us, more⟩, hr, h⟩ := bind_eq_ok.mp h
    cases pure_eq_ok.mp h
    exact (collectTree_gathers hv).append (collectEntries_gathers hr)

end

theorem collectParams_gathers {scope : Scope} {es fs : List (String × Value)} {found : Found}
    (h : scope.collectParams es = .ok (fs, found)) :
    scope.Gathers (Value.stringsOfEntries es) found := by
  induction es generalizing fs found with
  | nil =>
    cases h
    exact .nil
  | cons e rest ih =>
    obtain ⟨⟨w, f⟩, hv, h⟩ := bind_eq_ok.mp h
    obtain ⟨⟨us, more⟩, hr, h⟩ := bind_eq_ok.mp h
    cases pure_eq_ok.mp h
    exact (collectTree_gathers hv).append (ih hr)

/-- The dependencies that a collection reports are the aliases found in its strings. -/
theorem collect_gathers {scope : Scope} {es fs : List (String × Value)} {deps : Table String}
    (h : scope.collect es = .ok (fs, deps)) :
    ∃ found, scope.Gathers (Value.stringsOfEntries es) found ∧ deps = Table.ofList found := by
  obtain ⟨⟨us, found⟩, hp, h⟩ := bind_eq_ok.mp h
  cases pure_eq_ok.mp h
  exact ⟨found, collectParams_gathers hp, rfl⟩

def Collects (scope : Scope) (s : String) : Prop := ∃ r, scope.collectText s = .ok r

theorem Gathers.collects {scope : Scope} {ss : List String} {found : Found}
    (h : scope.Gathers ss found) : ∀ s ∈ ss, scope.Collects s := by
  induction h with
  | nil => simp
  | cons hs _ ih => exact List.forall_mem_cons.mpr ⟨⟨_, hs⟩, ih⟩

mutual

theorem exists_collectTree {scope : Scope} {v : Value} (h : ∀ s ∈ v.strings, scope.Collects s)
    (path : String) : ∃ r, scope.collectTree path v = .ok r := by
  match v with
  | .null => exact ⟨_, rfl⟩
  | .bool _ => exact ⟨_, rfl⟩
  | .int _ => exact ⟨_, rfl⟩
  | .float _ => exact ⟨_, rfl⟩
  | .string s =>
    obtain ⟨r, hr⟩ := h s (by simp [Value.strings])
    exact ⟨r, locate_eq_ok.mpr hr⟩
  | .list items =>
    obtain ⟨r, hr⟩ := exists_collectItems h path 0
    exact ⟨_, bind_eq_ok.mpr ⟨r, hr, rfl⟩⟩
  | .map entries =>
    obtain ⟨r, hr⟩ := exists_collectEntries h path
    exact ⟨_, bind_eq_ok.mpr ⟨r, hr, rfl⟩⟩

theorem exists_collectItems {scope : Scope} {vs : List Value}
    (h : ∀ s ∈ Value.stringsOfItems vs, scope.Collects s) (path : String) (i : Nat) :
    ∃ r, scope.collectItems path i vs = .ok r := by
  match vs with
  | [] => exact ⟨_, rfl⟩
  | v :: rest =>
    obtain ⟨hv, hrest⟩ := List.forall_mem_append.mp h
    obtain ⟨r, hr⟩ := exists_collectTree hv (Json.indexPath path i)
    obtain ⟨q, hq⟩ := exists_collectItems hrest path (i + 1)
    exact ⟨_, bind_eq_ok.mpr ⟨r, hr, bind_eq_ok.mpr ⟨q, hq, rfl⟩⟩⟩

theorem exists_collectEntries {scope : Scope} {es : List (String × Value)}
    (h : ∀ s ∈ Value.stringsOfEntries es, scope.Collects s) (path : String) :
    ∃ r, scope.collectEntries path es = .ok r := by
  match es with
  | [] => exact ⟨_, rfl⟩
  | (k, v) :: rest =>
    obtain ⟨hv, hrest⟩ := List.forall_mem_append.mp h
    obtain ⟨r, hr⟩ := exists_collectTree hv (Json.keyPath path k)
    obtain ⟨q, hq⟩ := exists_collectEntries hrest path
    exact ⟨_, bind_eq_ok.mpr ⟨r, hr, bind_eq_ok.mpr ⟨q, hq, rfl⟩⟩⟩

end

/-- Parameters can be collected when each of their strings can be. -/
theorem exists_collect_iff {scope : Scope} {ps : List (String × Value)} :
    (∃ r, scope.collect ps = .ok r) ↔
      ∀ s ∈ Value.stringsOfEntries ps, scope.Collects s := by
  constructor
  · rintro ⟨⟨out, deps⟩, h⟩
    obtain ⟨found, hg, -⟩ := collect_gathers h
    exact hg.collects
  · intro h
    obtain ⟨r, hr⟩ : ∃ r, scope.collectParams ps = .ok r := by
      induction ps with
      | nil => exact ⟨_, rfl⟩
      | cons e rest ih =>
        obtain ⟨hv, hrest⟩ := List.forall_mem_append.mp h
        obtain ⟨r, hr⟩ := exists_collectTree hv e.1
        obtain ⟨q, hq⟩ := ih hrest
        exact ⟨_, bind_eq_ok.mpr ⟨r, hr, bind_eq_ok.mpr ⟨q, hq, rfl⟩⟩⟩
    exact ⟨_, bind_eq_ok.mpr ⟨r, hr, rfl⟩⟩

end Scope

end Provision
