import Mathlib.Data.List.Nodup
import Mathlib.Data.List.Basic
import Provision.Table

/-!
# Look-ups in tables

A table answers a look-up with the one entry of that key. What an insertion and a
list of entries leave behind is stated through look-ups, so later proofs never
open the entry lists.
-/

set_option autoImplicit false

namespace Provision

namespace Entries

variable {α : Type}

theorem mem_of_find? {key : String} {x : α} {es : List (String × α)}
    (h : find? key es = some x) : (key, x) ∈ es := by
  induction es with
  | nil => simp [find?] at h
  | cons e rest ih =>
    obtain ⟨k, y⟩ := e
    simp only [find?] at h
    split at h
    · next eq =>
      cases h
      simp [eq]
    · exact List.mem_cons_of_mem _ (ih h)

theorem find?_isSome_iff {key : String} {es : List (String × α)} :
    (find? key es).isSome ↔ key ∈ es.map Prod.fst := by
  induction es with
  | nil => simp [find?]
  | cons e rest ih =>
    obtain ⟨k, y⟩ := e
    by_cases hk : key = k
    · simp [find?, hk]
    · simp [find?, hk, ih]

theorem find?_eq_some_of_mem {key : String} {x : α} {es : List (String × α)}
    (hn : (es.map Prod.fst).Nodup) (h : (key, x) ∈ es) : find? key es = some x := by
  induction es with
  | nil => simp at h
  | cons e rest ih =>
    obtain ⟨k, y⟩ := e
    obtain ⟨hk, hrest⟩ := List.nodup_cons.mp hn
    rcases List.mem_cons.mp h with heq | hr
    · cases heq
      simp [find?]
    · have hne : key ≠ k := by
        rintro rfl
        exact hk (List.mem_map.mpr ⟨_, hr, rfl⟩)
      simp [find?, hne, ih hrest hr]

theorem find?_append (key : String) (es fs : List (String × α)) :
    find? key (es ++ fs) = (find? key es).or (find? key fs) := by
  induction es with
  | nil => rfl
  | cons e rest ih =>
    obtain ⟨k, y⟩ := e
    by_cases hk : key = k <;> simp [find?, hk, ih]

theorem find?_put (key other : String) (value : α) (es : List (String × α)) :
    find? other (put key value es) = if other = key then some value else find? other es := by
  by_cases h : other = key
  · subst h
    simp [find?_put_self]
  · simp [find?_put_ne value es h, h]

theorem find?_foldl_put (key : String) (es acc : List (String × α)) :
    find? key (es.foldl (fun acc e => put e.1 e.2 acc) acc) =
      (find? key es.reverse).or (find? key acc) := by
  induction es generalizing acc with
  | nil => rfl
  | cons e rest ih =>
    rw [List.foldl_cons, ih, find?_put, List.reverse_cons, find?_append]
    by_cases hk : key = e.1 <;> simp [find?, hk]

/-- The last of repeated keys counts. -/
theorem find?_ofList (key : String) (es : List (String × α)) :
    find? key (ofList es) = find? key es.reverse := by
  rw [ofList, find?_foldl_put]
  simp [find?]

theorem mem_of_find?_ofList {key : String} {x : α} {es : List (String × α)}
    (h : find? key (ofList es) = some x) : (key, x) ∈ es := by
  rw [find?_ofList] at h
  exact List.mem_reverse.mp (mem_of_find? h)

theorem find?_ofList_isSome_iff {key : String} {es : List (String × α)} :
    (find? key (ofList es)).isSome ↔ key ∈ es.map Prod.fst := by
  rw [find?_ofList, find?_isSome_iff]
  simp

/-- Entries that follow a function are all found. -/
theorem find?_ofList_of_mem {f : String → Option α} {es : List (String × α)}
    (hf : ∀ e ∈ es, f e.1 = some e.2) {e : String × α} (he : e ∈ es) :
    find? e.1 (ofList es) = some e.2 := by
  have hsome := find?_ofList_isSome_iff.mpr (List.mem_map.mpr ⟨e, he, rfl⟩)
  obtain ⟨x, hx⟩ := Option.isSome_iff_exists.mp hsome
  have hmem := hf _ (mem_of_find?_ofList hx)
  rw [hx, ← hmem, hf e he]

theorem Ascending.nodup_keys {es : List (String × α)} (h : Ascending es) :
    (es.map Prod.fst).Nodup := by
  refine List.pairwise_map.mpr (List.Pairwise.imp ?_ h)
  intro a b hlt heq
  rw [heq] at hlt
  exact String.lt_irrefl _ hlt

theorem mem_of_mem_ofList {e : String × α} {es : List (String × α)} (h : e ∈ ofList es) :
    e ∈ es := by
  have hnodup : ((ofList es).map Prod.fst).Nodup := (ascending_ofList es).nodup_keys
  exact mem_of_find?_ofList (find?_eq_some_of_mem hnodup h)

theorem put_last (key : String) (value : α) {es : List (String × α)}
    (h : Ascending (es ++ [(key, value)])) : put key value es = es ++ [(key, value)] := by
  induction es with
  | nil => rfl
  | cons e rest ih =>
    obtain ⟨k, y⟩ := e
    obtain ⟨hk, hrest⟩ := List.pairwise_cons.mp h
    have hlt : k < key := hk (key, value) (by simp)
    have hnot : ¬ key < k := fun hgt => String.lt_irrefl _ (String.lt_trans hlt hgt)
    have hne : key ≠ k := fun heq => String.lt_irrefl _ (heq ▸ hlt)
    simp [put, hnot, hne, ih hrest]

/-- Ascending entries are their own table. -/
theorem ofList_of_ascending {es : List (String × α)} (h : Ascending es) : ofList es = es := by
  suffices hs : ∀ acc : List (String × α), Ascending (acc ++ es) →
      es.foldl (fun acc e => put e.1 e.2 acc) acc = acc ++ es from hs [] h
  clear h
  induction es with
  | nil => simp
  | cons e rest ih =>
    intro acc ha
    have hsplit : acc ++ e :: rest = (acc ++ [e]) ++ rest := by simp
    have hput : put e.1 e.2 acc = acc ++ [e] :=
      put_last e.1 e.2 (ha.sublist (by simp))
    rw [List.foldl_cons, hput, ih _ (hsplit ▸ ha), hsplit]

end Entries

namespace Table

variable {α : Type}

theorem nodup_keys (t : Table α) : t.keys.Nodup := t.ascending.nodup_keys

theorem find?_eq_some_iff {t : Table α} {key : String} {x : α} :
    t.find? key = some x ↔ (key, x) ∈ t.entries :=
  ⟨Entries.mem_of_find?, Entries.find?_eq_some_of_mem t.nodup_keys⟩

/-- Tables that answer alike are equal. -/
theorem ext_find? {s t : Table α} (h : ∀ key x, s.find? key = some x ↔ t.find? key = some x) :
    s = t := by
  have hmem : ∀ e, e ∈ s.entries ↔ e ∈ t.entries := by
    rintro ⟨key, x⟩
    rw [← find?_eq_some_iff, ← find?_eq_some_iff, h]
  have hperm : s.entries.Perm t.entries :=
    (List.perm_ext_iff_of_nodup s.nodup_keys.of_map t.nodup_keys.of_map).mpr hmem
  refine ext_entries (hperm.eq_of_pairwise ?_ s.ascending t.ascending)
  intro a b _ _ hab hba
  exact absurd (String.lt_trans hab hba) (String.lt_irrefl _)

theorem mem_keys_iff {t : Table α} {key : String} : key ∈ t.keys ↔ ∃ x, t.find? key = some x := by
  rw [← Option.isSome_iff_exists]
  exact Entries.find?_isSome_iff.symm

/-- Tables with the same keys list them alike. -/
theorem keys_ext {β : Type} {s : Table α} {t : Table β} (h : ∀ key, key ∈ s.keys ↔ key ∈ t.keys) :
    s.keys = t.keys := by
  have hperm : s.keys.Perm t.keys :=
    (List.perm_ext_iff_of_nodup s.nodup_keys t.nodup_keys).mpr h
  refine hperm.eq_of_pairwise ?_ (List.pairwise_map.mpr s.ascending)
    (List.pairwise_map.mpr t.ascending)
  intro a b _ _ hab hba
  exact absurd (String.lt_trans hab hba) (String.lt_irrefl _)

theorem find?_insert (t : Table α) (key other : String) (value : α) :
    (t.insert key value).find? other = if other = key then some value else t.find? other :=
  Entries.find?_put key other value t.entries

theorem mem_keys_insert {t : Table α} {key other : String} {value : α} :
    other ∈ (t.insert key value).keys ↔ other = key ∨ other ∈ t.keys := by
  rw [mem_keys_iff, mem_keys_iff]
  by_cases h : other = key <;> simp [find?_insert, h]

@[simp] theorem find?_empty (key : String) : (empty : Table α).find? key = none := rfl

theorem contains_eq_false_iff {t : Table α} {key : String} :
    t.contains key = false ↔ t.find? key = none := by
  simp [contains]

theorem isEmpty_iff {t : Table α} : t.isEmpty = true ↔ t = empty := by
  constructor
  · intro h
    exact ext_entries (List.isEmpty_iff.mp h)
  · rintro rfl
    rfl

end Table

end Provision
