/-!
# Tables with ascending keys

A table is a list of entries whose keys strictly ascend by code point. Each key
occurs once and the listing of a table is determined by its look-ups, so two
tables that answer alike are equal. The operations on bare entry lists come
first: free-form trees carry such lists directly.
-/

set_option autoImplicit false

namespace Provision

namespace Entries

variable {α β : Type}

def Ascending (es : List (String × α)) : Prop := es.Pairwise fun a b => a.1 < b.1

def find? (key : String) : List (String × α) → Option α
  | [] => none
  | (k, x) :: rest => if key = k then some x else find? key rest

/-- Keeps ascending lists ascending and replaces an entry of the same key. -/
def put (key : String) (value : α) : List (String × α) → List (String × α)
  | [] => [(key, value)]
  | (k, x) :: rest =>
    if key < k then (key, value) :: (k, x) :: rest
    else if key = k then (key, value) :: rest
    else (k, x) :: put key value rest

/-- Of repeated keys the last one counts. -/
def ofList (es : List (String × α)) : List (String × α) :=
  es.foldl (fun acc e => put e.1 e.2 acc) []

def mapValues (f : α → β) (es : List (String × α)) : List (String × β) :=
  es.map fun e => (e.1, f e.2)

theorem find?_put_self (key : String) (value : α) (es : List (String × α)) :
    find? key (put key value es) = some value := by
  induction es with
  | nil => simp [put, find?]
  | cons e rest ih =>
    obtain ⟨k, x⟩ := e
    simp only [put]
    split
    · simp [find?]
    · split
      · simp [find?]
      · simp [find?, *]

theorem find?_put_ne {key other : String} (value : α) (es : List (String × α))
    (h : other ≠ key) : find? other (put key value es) = find? other es := by
  induction es with
  | nil => simp [put, find?, h]
  | cons e rest ih =>
    obtain ⟨k, x⟩ := e
    simp only [put]
    split
    · simp [find?, h]
    · split
      · next eq => subst eq; simp [find?, h]
      · simp only [find?, ih]

theorem mem_put {key : String} {value : α} {es : List (String × α)} {e : String × α}
    (h : e ∈ put key value es) : e = (key, value) ∨ e ∈ es := by
  induction es with
  | nil => exact Or.inl (by simpa [put] using h)
  | cons e' rest ih =>
    obtain ⟨k, x⟩ := e'
    simp only [put] at h
    split at h
    · rcases List.mem_cons.mp h with h | h
      · exact Or.inl h
      · exact Or.inr h
    · split at h
      · rcases List.mem_cons.mp h with h | h
        · exact Or.inl h
        · exact Or.inr (List.mem_cons_of_mem _ h)
      · rcases List.mem_cons.mp h with h | h
        · exact Or.inr (h ▸ List.mem_cons_self)
        · exact (ih h).imp id (List.mem_cons_of_mem _)

theorem lt_of_not_lt_of_ne {a b : String} (h : ¬ a < b) (hne : a ≠ b) : b < a :=
  String.not_le.mp fun le => hne (String.le_antisymm le (String.not_lt.mp h))

theorem ascending_put (key : String) (value : α) {es : List (String × α)}
    (h : Ascending es) : Ascending (put key value es) := by
  induction es with
  | nil => exact List.pairwise_singleton _ _
  | cons e rest ih =>
    obtain ⟨k, x⟩ := e
    obtain ⟨hk, hrest⟩ := List.pairwise_cons.mp h
    simp only [put]
    split
    · next lt =>
      refine List.pairwise_cons.mpr ⟨fun e he => ?_, h⟩
      rcases List.mem_cons.mp he with rfl | he
      · exact lt
      · exact String.lt_trans lt (hk e he)
    · next nlt =>
      split
      · next eq =>
        subst eq
        exact List.pairwise_cons.mpr ⟨hk, hrest⟩
      · next ne =>
        refine List.pairwise_cons.mpr ⟨fun e he => ?_, ih hrest⟩
        rcases mem_put he with rfl | he
        · exact lt_of_not_lt_of_ne nlt ne
        · exact hk e he

theorem ascending_foldl_put (es acc : List (String × α)) (h : Ascending acc) :
    Ascending (es.foldl (fun acc e => put e.1 e.2 acc) acc) := by
  induction es generalizing acc with
  | nil => exact h
  | cons e rest ih => exact ih _ (ascending_put _ _ h)

theorem ascending_ofList (es : List (String × α)) : Ascending (ofList es) :=
  ascending_foldl_put es [] List.Pairwise.nil

theorem ascending_mapValues (f : α → β) {es : List (String × α)} (h : Ascending es) :
    Ascending (mapValues f es) :=
  List.pairwise_map.mpr h

end Entries

structure Table (α : Type) where
  entries : List (String × α)
  ascending : Entries.Ascending entries

namespace Table

variable {α β : Type}

theorem ext_entries {s t : Table α} (h : s.entries = t.entries) : s = t := by
  cases s; cases t; cases h; rfl

instance [DecidableEq α] : DecidableEq (Table α) := fun s t =>
  if h : s.entries = t.entries then isTrue (ext_entries h)
  else isFalse fun eq => h (congrArg entries eq)

def empty : Table α := ⟨[], List.Pairwise.nil⟩

instance : Inhabited (Table α) := ⟨empty⟩

def isEmpty (t : Table α) : Bool := t.entries.isEmpty

def size (t : Table α) : Nat := t.entries.length

def find? (t : Table α) (key : String) : Option α := Entries.find? key t.entries

def contains (t : Table α) (key : String) : Bool := (t.find? key).isSome

def keys (t : Table α) : List String := t.entries.map Prod.fst

def insert (t : Table α) (key : String) (value : α) : Table α :=
  ⟨Entries.put key value t.entries, Entries.ascending_put key value t.ascending⟩

/-- Of repeated keys the last one counts. -/
def ofList (es : List (String × α)) : Table α :=
  ⟨Entries.ofList es, Entries.ascending_ofList es⟩

def map (f : α → β) (t : Table α) : Table β :=
  ⟨Entries.mapValues f t.entries, Entries.ascending_mapValues f t.ascending⟩

theorem find?_insert_self (t : Table α) (key : String) (value : α) :
    (t.insert key value).find? key = some value :=
  Entries.find?_put_self key value t.entries

theorem find?_insert_ne (t : Table α) {key other : String} (value : α) (h : other ≠ key) :
    (t.insert key value).find? other = t.find? other :=
  Entries.find?_put_ne value t.entries h

end Table

end Provision
