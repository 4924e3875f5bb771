import Provision.Project.Codec
import Provision.Proofs.Value

/-!
# Reading ordered values

A source that reads only ordered values reads only ordered workloads. Both kinds
of documents are such sources, so every project that is read from a file, and
every project that is made from one by adding workload files, is ordered.
-/

set_option autoImplicit false

namespace Provision

open Outcome

namespace Value

theorem orderedItems_iff {vs : List Value} : OrderedItems vs ↔ ∀ v ∈ vs, v.Ordered := by
  induction vs with
  | nil => simp [OrderedItems]
  | cons v rest ih => simp [OrderedItems, ih]

theorem orderedEntries_iff {es : List (String × Value)} :
    OrderedEntries es ↔ ∀ e ∈ es, e.2.Ordered := by
  induction es with
  | nil => simp [OrderedEntries]
  | cons e rest ih => simp [OrderedEntries, ih]

/-- Entries are put in order by making a table of them. -/
theorem ordered_ofList {es : List (String × Value)} (h : ∀ e ∈ es, e.2.Ordered) :
    (Value.map (Entries.ofList es)).Ordered := by
  refine ⟨Entries.ascending_ofList es, orderedEntries_iff.mpr ?_⟩
  intro e he
  exact h e (Entries.mem_of_mem_ofList he)

end Value

namespace Source

variable {ν α : Type} {m : Type → Type} [Monad m] [Returning m]
variable {P : α → Prop} {read : ν → m α}

theorem orElse_returns (h : ∀ part a, Returns (read part) a → P a) {name : String} {dflt : α}
    (hd : P dflt) {fields : List (String × ν)} {a : α}
    (ha : Returns (orElse name dflt read fields) a) : P a := by
  unfold orElse at ha
  split at ha
  · next part _ => exact h part a ha
  · cases Returning.of_pure ha
    exact hd

variable [Source ν m]

theorem optional_returns (h : ∀ part a, Returns (read part) a → P a) {name : String}
    {fields : List (String × ν)} {o : Option α} (ho : Returns (optional name read fields) o) :
    ∀ a, o = some a → P a := by
  rintro a rfl
  unfold optional at ho
  split at ho
  · cases Returning.of_pure ho
  · obtain ⟨part, _, ho⟩ := Returning.of_bind ho
    split at ho
    · cases Returning.of_pure ho
    · next part _ =>
      obtain ⟨b, hb, ho⟩ := Returning.of_bind ho
      cases Returning.of_pure ho
      exact h part a hb

variable [LawfulMonad m]

theorem list_returns (h : ∀ part a, Returns (read part) a → P a) {part : ν} {as : List α}
    (ha : Returns (list read part) as) : ∀ a ∈ as, P a := by
  obtain ⟨parts, _, ha⟩ := Returning.of_bind ha
  intro a hmem
  obtain ⟨x, _, hx⟩ := mem_of_mapM_returns ha a hmem
  exact h x a hx

theorem table_returns (h : ∀ part a, Returns (read part) a → P a) {part : ν} {t : Table α}
    (ht : Returns (table read part) t) : ∀ e ∈ t.entries, P e.2 := by
  obtain ⟨parts, _, ht⟩ := Returning.of_bind ht
  obtain ⟨es, hes, ht⟩ := Returning.of_bind ht
  cases Returning.of_pure ht
  intro e he
  obtain ⟨x, _, hx⟩ := mem_of_mapM_returns hes e (Entries.mem_of_mem_ofList he)
  obtain ⟨a, ha, hx⟩ := Returning.of_bind hx
  cases Returning.of_pure hx
  exact h x.2 a ha

theorem tableOrEmpty_returns (h : ∀ part a, Returns (read part) a → P a) {name : String}
    {fields : List (String × ν)} {t : Table α}
    (ht : Returns (orElse name Table.empty (table read) fields) t) : ∀ e ∈ t.entries, P e.2 := by
  refine orElse_returns (P := fun t : Table α => ∀ e ∈ t.entries, P e.2) ?_ ?_ ht
  · intro part t ht
    exact table_returns h ht
  · intro e he
    cases he

end Source

section Decode

variable {ν : Type} {m : Type → Type} [Monad m] [Returning m] [Source ν m]
variable (hv : ∀ (part : ν) v, Returns (Source.value part) v → v.Ordered)
include hv

theorem Container.decode_ordered (part : ν) (c : Container) (h : Returns (decode part) c) :
    ∀ v, c.livenessProbe = some v ∨ c.readinessProbe = some v → v.Ordered := by
  unfold decode at h
  iterate 8 obtain ⟨_, _, h⟩ := Returning.of_bind h
  obtain ⟨live, hl, h⟩ := Returning.of_bind h
  obtain ⟨ready, hr, h⟩ := Returning.of_bind h
  cases Returning.of_pure h
  rintro v (hp | hp)
  · exact Source.optional_returns hv hl v hp
  · exact Source.optional_returns hv hr v hp

variable [LawfulMonad m]

theorem Source.values_ordered (part : ν) (t : Table Value)
    (h : Returns (table Source.value part) t) : Value.OrderedEntries t.entries :=
  Value.orderedEntries_iff.mpr (table_returns hv h)

theorem Resource.decode_ordered (part : ν) (r : Resource) (h : Returns (decode part) r) :
    ∀ t, r.metadata = some t ∨ r.params = some t → Value.OrderedEntries t.entries := by
  unfold decode at h
  iterate 4 obtain ⟨_, _, h⟩ := Returning.of_bind h
  obtain ⟨metadata, hm, h⟩ := Returning.of_bind h
  obtain ⟨params, hp, h⟩ := Returning.of_bind h
  cases Returning.of_pure h
  rintro t (ht | ht)
  · exact Source.optional_returns (Source.values_ordered hv) hm t ht
  · exact Source.optional_returns (Source.values_ordered hv) hp t ht

/-- A workload is ordered if its source reads only ordered values. -/
theorem Workload.decode_ordered (part : ν) (w : Workload) (h : Returns (decode part) w) :
    w.Ordered := by
  unfold decode at h
  iterate 2 obtain ⟨_, _, h⟩ := Returning.of_bind h
  obtain ⟨metadata, hm, h⟩ := Returning.of_bind h
  obtain ⟨containers, hc, h⟩ := Returning.of_bind h
  obtain ⟨_, _, h⟩ := Returning.of_bind h
  obtain ⟨resources, hr, h⟩ := Returning.of_bind h
  cases Returning.of_pure h
  exact ⟨Value.orderedEntries_iff.mpr (Source.tableOrEmpty_returns hv hm),
    Source.tableOrEmpty_returns (Container.decode_ordered hv) hc,
    Source.tableOrEmpty_returns (Resource.decode_ordered hv) hr⟩

end Decode

namespace Json

mutual

theorem value?_ordered {j : Json} {v : Value} (h : j.value? = some v) : v.Ordered := by
  match j with
  | .null => cases h; trivial
  | .bool _ => cases h; trivial
  | .int n =>
    obtain ⟨i, _, rfl⟩ := Option.map_eq_some_iff.mp h
    trivial
  | .float _ => cases h; trivial
  | .string _ => cases h; trivial
  | .array items =>
    obtain ⟨vs, hvs, rfl⟩ := Option.map_eq_some_iff.mp h
    exact Value.orderedItems_iff.mpr (valueItems?_ordered hvs)
  | .object members =>
    obtain ⟨es, hes, rfl⟩ := Option.map_eq_some_iff.mp h
    exact Value.ordered_ofList (valueMembers?_ordered hes)

theorem valueItems?_ordered {js : List Json} {vs : List Value} (h : valueItems? js = some vs) :
    ∀ v ∈ vs, v.Ordered := by
  match js with
  | [] =>
    cases h
    simp
  | j :: rest =>
    obtain ⟨v, hv, h⟩ := Option.bind_eq_some_iff.mp h
    obtain ⟨vs, hvs, h⟩ := Option.bind_eq_some_iff.mp h
    cases h
    exact List.forall_mem_cons.mpr ⟨value?_ordered hv, valueItems?_ordered hvs⟩

theorem valueMembers?_ordered {js : List (String × Json)} {es : List (String × Value)}
    (h : valueMembers? js = some es) : ∀ e ∈ es, e.2.Ordered := by
  match js with
  | [] =>
    cases h
    simp
  | (k, j) :: rest =>
    obtain ⟨v, hv, h⟩ := Option.bind_eq_some_iff.mp h
    obtain ⟨es, hes, h⟩ := Option.bind_eq_some_iff.mp h
    cases h
    exact List.forall_mem_cons.mpr ⟨value?_ordered hv, valueMembers?_ordered hes⟩

end

end Json

namespace Yaml

theorem plainValue?_ordered {s : String} {v : Value} (h : plainValue? s = some v) :
    v.Ordered := by
  unfold plainValue? at h
  split at h
  · cases h
    trivial
  · split at h
    · cases h
      trivial
    · split at h
      · obtain ⟨i, _, rfl⟩ := Option.map_eq_some_iff.mp h
        trivial
      · split at h <;> cases h <;> trivial

namespace Place

theorem scalarValue?_ordered {tag : Option String} {text : String} {style : Style} {v : Value}
    (h : scalarValue? tag text style = some v) : v.Ordered := by
  unfold scalarValue? at h
  split at h
  · split at h
    · exact plainValue?_ordered h
    · cases h
      trivial
  · split at h
    · obtain ⟨b, _, rfl⟩ := Option.map_eq_some_iff.mp h
      trivial
    · split at h
      · obtain ⟨i, _, rfl⟩ := Option.map_eq_some_iff.mp h
        trivial
      · split at h
        · obtain ⟨x, _, rfl⟩ := Option.map_eq_some_iff.mp h
          trivial
        · split at h
          · split at h
            · cases h
              trivial
            · cases h
          · cases h
            trivial

theorem not_returns_fail {α : Type} {a : α} : ¬ Returns (fail : Read α) a := by
  rintro ⟨s, t, h⟩
  cases h

theorem scalarAt_ordered {tag : Option String} {text : String} {style : Style} {v : Value}
    (h : Returns (scalarAt tag text style) v) : v.Ordered := by
  unfold scalarAt at h
  split at h
  · exact absurd h not_returns_fail
  · obtain ⟨s, t, h⟩ := h
    obtain ⟨w, hw, h⟩ := Option.map_eq_some_iff.mp h
    cases h
    exact scalarValue?_ordered hw

theorem valueAt_ordered {anchors : List (Nat × Node)} {depth : Nat} {n : Node} {v : Value}
    (h : Returns (valueAt anchors depth n) v) : v.Ordered := by
  induction depth generalizing n v with
  | zero =>
    obtain ⟨t, _, h⟩ := Returning.of_bind h
    split at h
    · exact scalarAt_ordered h
    · exact absurd h not_returns_fail
  | succ depth ih =>
    obtain ⟨t, _, h⟩ := Returning.of_bind h
    split at h
    · exact scalarAt_ordered h
    · split at h
      · exact absurd h not_returns_fail
      · obtain ⟨vs, hvs, h⟩ := Returning.of_bind h
        cases Returning.of_pure h
        refine Value.orderedItems_iff.mpr ?_
        intro v hv
        obtain ⟨_, _, hret⟩ := mem_of_mapM_returns hvs v hv
        exact ih hret
    · split at h
      · exact absurd h not_returns_fail
      · obtain ⟨es, hes, h⟩ := Returning.of_bind h
        cases Returning.of_pure h
        refine Value.ordered_ofList ?_
        intro e he
        obtain ⟨_, _, hret⟩ := mem_of_mapM_returns hes e he
        obtain ⟨k, _, hret⟩ := Returning.of_bind hret
        obtain ⟨w, hw, hret⟩ := Returning.of_bind hret
        cases Returning.of_pure hret
        exact ih hw
    · exact absurd h not_returns_fail

end Place

end Yaml

/-- A workload file holds an ordered workload. -/
theorem Workload.parse_ordered {text : String} {w : Workload} (h : parse text = .ok w) :
    w.Ordered := by
  unfold parse at h
  split at h
  · next w' hread =>
    obtain ⟨_, _, h⟩ := bind_eq_ok.mp h
    cases pure_eq_ok.mp h
    obtain ⟨d, _, hread⟩ := Option.bind_eq_some_iff.mp hread
    obtain ⟨⟨w, t⟩, hrun, hfst⟩ := Option.map_eq_some_iff.mp hread
    cases hfst
    have hplace : ∀ (part : Yaml.Place) w, Returns (decode part) w → w.Ordered :=
      decode_ordered fun _ _ => Yaml.Place.valueAt_ordered
    exact hplace _ _ ⟨_, t, hrun⟩
  · cases h

namespace Project

/-- A project file holds an ordered project. -/
theorem decode?_ordered {text : String} {p : Project} (h : decode? text = some p) :
    p.Ordered := by
  obtain ⟨j, _, h⟩ := Option.bind_eq_some_iff.mp h
  obtain ⟨fields, _, h⟩ := Option.bind_eq_some_iff.mp h
  obtain ⟨workloads, hw, h⟩ := Option.bind_eq_some_iff.mp h
  obtain ⟨_, _, h⟩ := Option.bind_eq_some_iff.mp h
  obtain ⟨_, _, h⟩ := Option.bind_eq_some_iff.mp h
  cases h
  have hread : ∀ (part : Json) w, Returns (Workload.decode part) w → w.Ordered :=
    Workload.decode_ordered fun _ _ => Json.value?_ordered
  refine Source.orElse_returns (P := fun ws : List Workload => ∀ w ∈ ws, w.Ordered)
    (fun _ _ => Source.list_returns hread) ?_ hw
  simp

theorem replace_ordered {name : String} {w : Workload} {ws vs : List Workload} (hw : w.Ordered)
    (ho : ∀ x ∈ ws, x.Ordered) (h : replace name w ws = .ok vs) : ∀ x ∈ vs, x.Ordered := by
  induction ws generalizing vs with
  | nil =>
    cases h
    simpa using hw
  | cons x rest ih =>
    obtain ⟨hx, hrest⟩ := List.forall_mem_cons.mp ho
    obtain ⟨other, _, h⟩ := bind_eq_ok.mp h
    split at h
    · cases pure_eq_ok.mp h
      exact List.forall_mem_cons.mpr ⟨hw, hrest⟩
    · obtain ⟨vs, hvs, h⟩ := bind_eq_ok.mp h
      cases pure_eq_ok.mp h
      exact List.forall_mem_cons.mpr ⟨hx, ih hrest hvs⟩

/-- A project stays ordered when the workload of a file is added. -/
theorem upsert_ordered {p q : Project} {w : Workload} (hp : p.Ordered) (hw : w.Ordered)
    (h : p.upsert w = .ok q) : q.Ordered := by
  obtain ⟨name, _, h⟩ := bind_eq_ok.mp h
  obtain ⟨ws, hws, h⟩ := bind_eq_ok.mp h
  cases pure_eq_ok.mp h
  exact replace_ordered hw hp hws

end Project

end Provision
