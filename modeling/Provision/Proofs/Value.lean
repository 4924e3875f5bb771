import Provision.Json
import Provision.Proofs.Outcome
import Provision.Proofs.Table
import Provision.Project
import Provision.Workload.Params

/-!
# Ordered values

The maps of a value ascend by key at every depth when it was made from tables.
Such a value is its own normal form: taken through a document, sorted and read
back, it is the same. The metadata of a workload therefore stands unchanged in
the parameters of the workload.
-/

set_option autoImplicit false

namespace Provision

open Outcome

theorem int64?_toInt (i : Int64) : int64? i.toInt = some i := by
  have hlo : -0x8000000000000000 ≤ i.toInt := i.le_toInt
  have hhi : i.toInt < 0x8000000000000000 := i.toInt_lt
  simp [int64?, hlo, hhi]

namespace Value

mutual

/-- Whether the maps of a value ascend by key, at any depth. -/
def Ordered : Value → Prop
  | .list items => OrderedItems items
  | .map entries => Entries.Ascending entries ∧ OrderedEntries entries
  | _ => True

def OrderedItems : List Value → Prop
  | [] => True
  | v :: rest => v.Ordered ∧ OrderedItems rest

def OrderedEntries : List (String × Value) → Prop
  | [] => True
  | (_, v) :: rest => v.Ordered ∧ OrderedEntries rest

end

mutual

/-- A value that has a document is read back from it. -/
theorem normalize_json {v : Value} {j : Json} (h : v.json = .ok j) (path : String) :
    j.normalize path = .ok v := by
  match v with
  | .null => cases h; rfl
  | .bool _ => cases h; rfl
  | .int i =>
    cases h
    simp [Json.normalize, int64?_toInt]
  | .float x =>
    simp only [json] at h
    split at h
    · next hf =>
      cases h
      simp [Json.normalize, hf]
    · cases h
  | .string _ => cases h; rfl
  | .list items =>
    obtain ⟨js, hj, h⟩ := bind_eq_ok.mp h
    cases pure_eq_ok.mp h
    rw [Json.normalize, normalizeItems_json hj]
    rfl
  | .map entries =>
    obtain ⟨js, hj, h⟩ := bind_eq_ok.mp h
    cases pure_eq_ok.mp h
    rw [Json.normalize, normalizeMembers_json hj]
    rfl

theorem normalizeItems_json {vs : List Value} {js : List Json} (h : jsonItems vs = .ok js)
    (path : String) (i : Nat) : Json.normalizeItems path i js = .ok vs := by
  match vs with
  | [] => cases h; rfl
  | v :: rest =>
    obtain ⟨j, hj, h⟩ := bind_eq_ok.mp h
    obtain ⟨js, hjs, h⟩ := bind_eq_ok.mp h
    cases pure_eq_ok.mp h
    rw [Json.normalizeItems, normalize_json hj, normalizeItems_json hjs]
    rfl

theorem normalizeMembers_json {es : List (String × Value)} {js : List (String × Json)}
    (h : jsonEntries es = .ok js) (path : String) : Json.normalizeMembers path js = .ok es := by
  match es with
  | [] => cases h; rfl
  | (k, v) :: rest =>
    obtain ⟨j, hj, h⟩ := bind_eq_ok.mp h
    obtain ⟨js, hjs, h⟩ := bind_eq_ok.mp h
    cases pure_eq_ok.mp h
    rw [Json.normalizeMembers, normalize_json hj, normalizeMembers_json hjs]
    rfl

end

theorem keys_jsonEntries {es : List (String × Value)} {js : List (String × Json)}
    (h : jsonEntries es = .ok js) : js.map Prod.fst = es.map Prod.fst := by
  induction es generalizing js with
  | nil =>
    cases h
    rfl
  | cons e rest ih =>
    obtain ⟨j, _, h⟩ := bind_eq_ok.mp h
    obtain ⟨js, hjs, h⟩ := bind_eq_ok.mp h
    cases pure_eq_ok.mp h
    simp [ih hjs]

theorem ascending_jsonEntries {es : List (String × Value)} {js : List (String × Json)}
    (ha : Entries.Ascending es) (h : jsonEntries es = .ok js) : Entries.Ascending js := by
  have hkeys : (es.map Prod.fst).Pairwise (· < ·) := List.pairwise_map.mpr ha
  rw [← keys_jsonEntries h] at hkeys
  exact List.pairwise_map.mp hkeys

mutual

/-- Sorting does not change the document of an ordered value. -/
theorem sorted_json {v : Value} {j : Json} (ho : v.Ordered) (h : v.json = .ok j) :
    j.sorted = j := by
  match v with
  | .null => cases h; rfl
  | .bool _ => cases h; rfl
  | .int _ => cases h; rfl
  | .float x =>
    simp only [json] at h
    split at h
    · cases h; rfl
    · cases h
  | .string _ => cases h; rfl
  | .list items =>
    obtain ⟨js, hj, h⟩ := bind_eq_ok.mp h
    cases pure_eq_ok.mp h
    rw [Json.sorted, sortedItems_json ho hj]
  | .map entries =>
    obtain ⟨js, hj, h⟩ := bind_eq_ok.mp h
    cases pure_eq_ok.mp h
    rw [Json.sorted, sortedMembers_json ho.2 hj,
      Entries.ofList_of_ascending (ascending_jsonEntries ho.1 hj)]

theorem sortedItems_json {vs : List Value} {js : List Json} (ho : OrderedItems vs)
    (h : jsonItems vs = .ok js) : Json.sortedItems js = js := by
  match vs with
  | [] => cases h; rfl
  | v :: rest =>
    obtain ⟨j, hj, h⟩ := bind_eq_ok.mp h
    obtain ⟨js, hjs, h⟩ := bind_eq_ok.mp h
    cases pure_eq_ok.mp h
    rw [Json.sortedItems, sorted_json ho.1 hj, sortedItems_json ho.2 hjs]

theorem sortedMembers_json {es : List (String × Value)} {js : List (String × Json)}
    (ho : OrderedEntries es) (h : jsonEntries es = .ok js) : Json.sortedMembers js = js := by
  match es with
  | [] => cases h; rfl
  | (k, v) :: rest =>
    obtain ⟨j, hj, h⟩ := bind_eq_ok.mp h
    obtain ⟨js, hjs, h⟩ := bind_eq_ok.mp h
    cases pure_eq_ok.mp h
    rw [Json.sortedMembers, sorted_json ho.1 hj, sortedMembers_json ho.2 hjs]

end

theorem encodeEntries_json (es : List (String × Value)) :
    Json.encodeEntries json es = jsonEntries es := by
  induction es with
  | nil => rfl
  | cons e rest ih =>
    rw [Json.encodeEntries, jsonEntries, ih]

theorem encodeTable_json (t : Table Value) : Json.encodeTable json t = (map t.entries).json := by
  rw [Json.encodeTable, encodeEntries_json, json]

end Value

structure Workload.Ordered (w : Workload) : Prop where
  metadata : Value.OrderedEntries w.metadata.entries
  probes : ∀ e ∈ w.containers.entries, ∀ v,
    e.2.livenessProbe = some v ∨ e.2.readinessProbe = some v → v.Ordered
  resources : ∀ e ∈ w.resources.entries, ∀ t,
    e.2.metadata = some t ∨ e.2.params = some t → Value.OrderedEntries t.entries

def Project.Ordered (p : Project) : Prop := ∀ w ∈ p.workloads, w.Ordered

namespace Workload

theorem treeOf_json {path : String} {t : Table Value} {v : Value}
    (ho : Value.OrderedEntries t.entries)
    (h : treeOf path (Json.encodeTable Value.json t) = .ok v) : v = .map t.entries := by
  have hmap : (Value.map t.entries).Ordered := ⟨t.ascending, ho⟩
  rw [Value.encodeTable_json] at h
  cases hj : (Value.map t.entries).json with
  | error cause =>
    rw [hj] at h
    cases h
  | ok j =>
    rw [hj, treeOf, Value.sorted_json hmap hj, Value.normalize_json hj] at h
    cases h
    rfl

/-- The metadata stands unchanged in the parameters of a workload. -/
theorem find?_metadata_params {w : Workload} {ps : Table Value} (ho : w.Ordered)
    (h : w.params = .ok ps) : ps.find? "metadata" = some (.map w.metadata.entries) := by
  obtain ⟨metadata, hm, h⟩ := bind_eq_ok.mp h
  obtain ⟨containers, _, h⟩ := bind_eq_ok.mp h
  have hbase : (Table.ofList [("metadata", metadata), ("containers", containers)]).find?
      "metadata" = some metadata := Entries.find?_ofList _ _
  rw [treeOf_json ho.metadata hm] at hbase h
  split at h
  · cases pure_eq_ok.mp h
    exact hbase
  · obtain ⟨service, _, h⟩ := bind_eq_ok.mp h
    cases pure_eq_ok.mp h
    rw [Table.find?_insert_ne _ _ (by decide)]
    exact hbase

end Workload

end Provision
