import Provision.Proofs.Frames
import Provision.Proofs.Json.Record

/-!
# Documents that tell everything

A document is read as a tree, in which every part of the document has its place. If the parts
of a thing can be told from their trees, so can the thing: this holds of lists, of tables and
of records, where a field that is not given has no entry in the tree.
-/

set_option autoImplicit false

namespace Provision

open Outcome

theorem Entries.find?_ofList_of_nodup {α : Type} {es : List (String × α)}
    (hn : (es.map Prod.fst).Nodup) (key : String) : find? key (ofList es) = find? key es := by
  apply Option.ext
  intro x
  constructor
  · intro h
    exact find?_eq_some_of_mem hn (mem_of_find?_ofList h)
  · intro h
    rw [find?_ofList]
    apply find?_eq_some_of_mem
    · rw [List.map_reverse]
      exact List.nodup_reverse.mpr hn
    · exact List.mem_reverse.mpr (mem_of_find? h)

/-! ## Places in a tree -/

namespace Value

def child? : Value → Step → Option Value
  | .list items, .index i => items[i]?
  | .map entries, .key k => Entries.find? k entries
  | _, _ => none

def at? : List Step → Value → Option Value
  | [], v => some v
  | step :: rest, v => (v.child? step).bind (at? rest)

end Value

/-- The place of an optional field, and whether the field is given. -/
structure Slot where
  steps : List Step
  given : Bool
  deriving DecidableEq

namespace Slot

variable {α : Type} {inner : α → List Slot} {v : Value}

/-- Whether the tree has something in the place exactly if the field is given. -/
def Shown (s : Slot) (v : Value) : Prop := (v.at? s.steps).isSome = s.given

def leaf (_ : α) : List Slot := []

def under (step : Step) (slots : List Slot) : List Slot :=
  slots.map fun s => { s with steps := step :: s.steps }

def field (name : String) (inner : α → List Slot) (o : Option α) : List Slot :=
  ⟨[.key name], o.isSome⟩ :: under (.key name) (o.toList.flatMap inner)

def items (inner : α → List Slot) (xs : List α) : List Slot :=
  xs.zipIdx.flatMap fun p => under (.index p.2) (inner p.1)

def entries (inner : α → List Slot) (t : Table α) : List Slot :=
  t.entries.flatMap fun e => under (.key e.1) (inner e.2)

theorem shown_under {step : Step} {slots : List Slot} {u : Value} (hc : v.child? step = some u)
    (h : ∀ s ∈ slots, s.Shown u) : ∀ s ∈ under step slots, s.Shown v := by
  intro s hs
  obtain ⟨slot, hslot, rfl⟩ := List.mem_map.mp hs
  have hshown := h slot hslot
  simpa only [Shown, Value.at?, hc, Option.bind_some] using hshown

def ShownPart (inner : α → List Slot) : Option α → Option Value → Prop :=
  Option.Rel fun x u => ∀ s ∈ inner x, s.Shown u

theorem shown_part {step : Step} {x : α} (h : ShownPart inner (some x) (v.child? step)) :
    ∀ s ∈ under step (inner x), s.Shown v := by
  generalize hc : v.child? step = c at h
  cases h with
  | some hx => exact shown_under hc hx

theorem shown_field {name : String} {o : Option α}
    (h : ShownPart inner o (v.child? (.key name))) : ∀ s ∈ field name inner o, s.Shown v := by
  cases o with
  | none =>
    generalize hc : v.child? (.key name) = c at h
    cases h
    simp [field, under, Shown, Value.at?, hc]
  | some x =>
    refine List.forall_mem_cons.mpr ⟨?_, by simpa [List.flatMap] using shown_part h⟩
    generalize hc : v.child? (.key name) = c at h
    cases h
    simp [Shown, Value.at?, hc]

theorem shown_items {xs : List α} (h : ∀ i, ShownPart inner xs[i]? (v.child? (.index i))) :
    ∀ s ∈ items inner xs, s.Shown v := by
  intro s hs
  obtain ⟨⟨x, i⟩, hx, hs⟩ := List.mem_flatMap.mp hs
  have hpart := h i
  rw [List.mem_zipIdx_iff_getElem?.mp hx] at hpart
  exact shown_part hpart s hs

theorem shown_entries {t : Table α} (h : ∀ k, ShownPart inner (t.find? k) (v.child? (.key k))) :
    ∀ s ∈ entries inner t, s.Shown v := by
  intro s hs
  obtain ⟨⟨k, x⟩, hx, hs⟩ := List.mem_flatMap.mp hs
  have hpart := h k
  rw [Table.find?_eq_some_iff.mpr hx] at hpart
  exact shown_part hpart s hs

end Slot

namespace Json

/-! ## Trees of documents -/

/-- Whether the document is read as this value, wherever it stands. -/
def Denotes (j : Json) (v : Value) : Prop := ∃ path, j.sorted.normalize path = .ok v

theorem denotes_items {js : List Json} {vs : List Value} {path : String} {i : Nat}
    (h : normalizeItems path i (sortedItems js) = .ok vs) (n : Nat) :
    Option.Rel Denotes js[n]? vs[n]? := by
  induction js generalizing i n vs with
  | nil =>
    cases h
    exact .none
  | cons j rest ih =>
    obtain ⟨v, us, hv, hus, rfl⟩ := (normalizeItems_traverses path).cons_eq_ok.mp h
    cases n with
    | zero => exact .some ⟨_, hv⟩
    | succ n => exact ih hus n

theorem find?_normalizeMembers {ms : List (String × Json)} {es : List (String × Value)}
    {path : String} (h : normalizeMembers path ms = .ok es) (key : String) :
    Option.Rel (fun j v => j.normalize (keyPath path key) = .ok v) (Entries.find? key ms)
      (Entries.find? key es) := by
  induction ms generalizing es with
  | nil =>
    cases h
    exact .none
  | cons m rest ih =>
    obtain ⟨v, hv, h⟩ := bind_eq_ok.mp h
    obtain ⟨us, hus, h⟩ := bind_eq_ok.mp h
    cases pure_eq_ok.mp h
    by_cases hkey : key = m.1
    · subst hkey
      simpa [Entries.find?] using hv
    · simpa [Entries.find?, hkey] using ih hus

theorem find?_sortedMembers (key : String) (ms : List (String × Json)) :
    Entries.find? key (sortedMembers ms) = (Entries.find? key ms).map sorted := by
  induction ms with
  | nil => rfl
  | cons m rest ih => by_cases hkey : key = m.1 <;> simp [sortedMembers, Entries.find?, hkey, ih]

namespace Denotes

variable {v : Value}

theorem item {js : List Json} (h : Denotes (array js) v) (n : Nat) :
    Option.Rel Denotes js[n]? (v.child? (.index n)) := by
  obtain ⟨path, h⟩ := h
  obtain ⟨vs, hvs, h⟩ := bind_eq_ok.mp h
  cases pure_eq_ok.mp h
  exact denotes_items hvs n

theorem entry {ms : List (String × Json)} (h : Denotes (object ms) v)
    (hn : (ms.map Prod.fst).Nodup) (key : String) :
    Option.Rel Denotes (Entries.find? key ms) (v.child? (.key key)) := by
  obtain ⟨path, h⟩ := h
  obtain ⟨es, hes, h⟩ := bind_eq_ok.mp h
  cases pure_eq_ok.mp h
  have hrel := find?_normalizeMembers hes key
  rw [Entries.find?_ofList_of_nodup (keys_sortedMembers ms ▸ hn), find?_sortedMembers] at hrel
  rw [Value.child?]
  generalize Entries.find? key es = c at hrel
  cases hj : Entries.find? key ms with
  | none =>
    rw [hj] at hrel
    cases hrel
    exact .none
  | some j =>
    rw [hj] at hrel
    cases hrel with
    | some hv => exact .some ⟨_, hv⟩

end Denotes

def Spread (ps : List (String × Option Json)) (v : Value) : Prop :=
  ∀ ⦃key part⦄, Entries.find? key ps = some part → Option.Rel Denotes part (v.child? (.key key))

theorem Filed.spread {names : List String} {ps : List (String × Option Json)} {j : Json} {v : Value}
    (hf : Filed names ps j) (h : Denotes j v) : Spread ps v := by
  intro key part hkey
  have hn : ((given ps).map Prod.fst).Nodup := (keys_given ps).nodup (hf.keys ▸ hf.nodup)
  rw [hf.eq] at h
  rw [← hf.find? hkey]
  exact h.entry hn key

/-! ## Things and their documents -/

/-- Whether things can be told from the trees of their documents, and the trees show which
optional fields are given. -/
structure Faithful {α : Type} (R : α → Json → Prop) (slots : α → List Slot) : Prop where
  unique : ∀ ⦃x y i j v⦄, R x i → R y j → Denotes i v → Denotes j v → x = y
  shown : ∀ ⦃x j v⦄, R x j → Denotes j v → ∀ s ∈ slots x, s.Shown v

def Written {α : Type} (write : α → Json) (x : α) (j : Json) : Prop := write x = j

def Listed {α : Type} (R : α → Json → Prop) (xs : List α) (j : Json) : Prop :=
  ∃ js, j = array js ∧ List.Forall₂ R xs js

def Tabled {α : Type} (R : α → Json → Prop) (t : Table α) (j : Json) : Prop :=
  ∃ ms, j = object ms ∧ Paired R t.entries ms

section Parts

variable {α : Type} {R : α → Json → Prop}

theorem rel_getElem? {xs : List α} {js : List Json} (h : List.Forall₂ R xs js) (n : Nat) :
    Option.Rel R xs[n]? js[n]? := by
  induction h generalizing n with
  | nil => exact .none
  | cons hx _ ih =>
    cases n with
    | zero => exact .some hx
    | succ n => exact ih n

theorem Paired.denotes {t : Table α} {ms : List (String × Json)} {v : Value}
    (h : Paired R t.entries ms) (hv : Denotes (object ms) v) (key : String) :
    Option.Rel Denotes (Entries.find? key ms) (v.child? (.key key)) :=
  hv.entry (h.keys ▸ t.nodup_keys) key

theorem rel_written (write : α → Json) (o : Option α) :
    Option.Rel (Written write) o (o.map write) := by
  cases o with
  | none => exact .none
  | some x => exact .some rfl

end Parts

namespace Faithful

variable {α : Type} {R : α → Json → Prop} {slots : α → List Slot}

theorem mono (h : Faithful R slots) {S : α → Json → Prop} (hs : ∀ x j, S x j → R x j) :
    Faithful S slots where
  unique _ _ _ _ _ hx hy := h.unique (hs _ _ hx) (hs _ _ hy)
  shown _ _ _ hx := h.shown (hs _ _ hx)

theorem plain (h : Faithful R slots) : Faithful R Slot.leaf where
  unique := h.unique
  shown := nofun

theorem unique_part (h : Faithful R slots) {o o' : Option α} {part part' : Option Json}
    {c : Option Value} (ho : Option.Rel R o part) (ho' : Option.Rel R o' part')
    (hc : Option.Rel Denotes part c) (hc' : Option.Rel Denotes part' c) : o = o' := by
  cases hc with
  | none =>
    cases hc'
    cases ho
    cases ho'
    rfl
  | some hv =>
    cases hc' with
    | some hv' =>
      cases ho with
      | some hx =>
        cases ho' with
        | some hy => rw [h.unique hx hy hv hv']

theorem shown_part (h : Faithful R slots) {o : Option α} {part : Option Json} {c : Option Value}
    (ho : Option.Rel R o part) (hc : Option.Rel Denotes part c) : Slot.ShownPart slots o c := by
  cases hc with
  | none =>
    cases ho
    exact .none
  | some hv =>
    cases ho with
    | some hx => exact .some (h.shown hx hv)

/-- Lists can be told if their items can. -/
theorem listed (h : Faithful R slots) : Faithful (Listed R) (Slot.items slots) where
  unique := by
    rintro xs ys _ _ v ⟨is, rfl, hxs⟩ ⟨js, rfl, hys⟩ hi hj
    apply List.ext_getElem?
    intro n
    exact h.unique_part (rel_getElem? hxs n) (rel_getElem? hys n) (hi.item n) (hj.item n)
  shown := by
    rintro xs _ v ⟨js, rfl, hxs⟩ hj
    apply Slot.shown_items
    intro n
    exact h.shown_part (rel_getElem? hxs n) (hj.item n)

/-- Tables can be told if their entries can. -/
theorem tabled (h : Faithful R slots) : Faithful (Tabled R) (Slot.entries slots) where
  unique := by
    rintro s t _ _ v ⟨is, rfl, hs⟩ ⟨js, rfl, ht⟩ hi hj
    apply Table.ext_find?
    intro key x
    have heq : s.find? key = t.find? key :=
      h.unique_part (hs.rel_find? key) (ht.rel_find? key) (hs.denotes hi key) (ht.denotes hj key)
    rw [heq]
  shown := by
    rintro t _ v ⟨ms, rfl, ht⟩ hj
    apply Slot.shown_entries
    intro key
    exact h.shown_part (ht.rel_find? key) (ht.denotes hj key)

variable {write : α → Json}

theorem array (h : Faithful (Written write) slots) :
    Faithful (Written fun xs => Json.array (xs.map write)) (Slot.items slots) := by
  refine h.listed.mono ?_
  rintro xs _ rfl
  refine ⟨_, rfl, ?_⟩
  rw [List.forall₂_map_right_iff]
  exact List.forall₂_same.mpr fun _ _ => rfl

theorem ofTable (h : Faithful (Written write) slots) :
    Faithful (Written (Json.ofTable write)) (Slot.entries slots) := by
  refine h.tabled.mono ?_
  rintro t _ rfl
  refine ⟨_, rfl, ?_⟩
  rw [Paired, Entries.mapValues, List.forall₂_map_right_iff]
  exact List.forall₂_same.mpr fun _ _ => ⟨rfl, rfl⟩

/-! ### Fields of records -/

section Fields

variable {ps qs : List (String × Option Json)} {v : Value}

theorem required (h : Faithful (Written write) slots) (name : String) {x y : α}
    (hps : Spread ps v) (hqs : Spread qs v) (hx : Entries.find? name ps = some (some (write x)))
    (hy : Entries.find? name qs = some (some (write y))) : x = y :=
  Option.some.inj (h.unique_part (.some rfl) (.some rfl) (hps hx) (hqs hy))

theorem optional (h : Faithful (Written write) slots) (name : String) {o o' : Option α}
    (hps : Spread ps v) (hqs : Spread qs v) (ho : Entries.find? name ps = some (o.map write))
    (ho' : Entries.find? name qs = some (o'.map write)) : o = o' :=
  h.unique_part (rel_written write o) (rel_written write o') (hps ho) (hqs ho')

theorem shown_field (h : Faithful (Written write) slots) (name : String) {o : Option α}
    (hps : Spread ps v) (ho : Entries.find? name ps = some (o.map write)) :
    ∀ s ∈ Slot.field name slots o, s.Shown v :=
  Slot.shown_field (h.shown_part (rel_written write o) (hps ho))

end Fields

/-! ### Scalars -/

/-- Scalars are told from trees if they are read as different values. -/
theorem scalar {value : α → Value}
    (hread : ∀ x path, (write x).sorted.normalize path = .ok (value x))
    (hv : Function.Injective value) : Faithful (Written write) Slot.leaf where
  unique := by
    rintro x y _ _ v rfl rfl ⟨path, hx⟩ ⟨path', hy⟩
    rw [hread] at hx hy
    cases hx
    exact (hv (Except.ok.inj hy)).symm
  shown := nofun

end Faithful

theorem faithful_string : Faithful (Written string) Slot.leaf :=
  .scalar (fun _ _ => rfl) fun _ _ => Value.string.inj

theorem faithful_bool : Faithful (Written bool) Slot.leaf :=
  .scalar (fun _ _ => rfl) fun _ _ => Value.bool.inj

theorem faithful_ofInt64 : Faithful (Written ofInt64) Slot.leaf := by
  have hread : ∀ i path, (ofInt64 i).sorted.normalize path = .ok (.int i) := by
    intro i path
    simp [ofInt64, sorted, normalize, int64?_toInt]
  exact .scalar hread fun _ _ => Value.int.inj

theorem faithful_texts : Faithful (Written texts) Slot.leaf := faithful_string.array.plain

def Free (v : Value) (j : Json) : Prop := v.Ordered ∧ v.json = .ok j

/-- A free-form value is its own tree. -/
theorem faithful_free : Faithful Free Slot.leaf where
  unique := by
    have hread : ∀ {v u j}, Free v j → Denotes j u → v = u := by
      rintro v u j ⟨ho, hj⟩ ⟨path, hu⟩
      rw [Value.sorted_json ho hj, Value.normalize_json hj] at hu
      exact Except.ok.inj hu
    intro x y i j v hx hy hi hj
    rw [hread hx hi, hread hy hj]
  shown := nofun

end Json

end Provision
