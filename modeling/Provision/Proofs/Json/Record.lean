import Mathlib.Data.List.Forall2
import Mathlib.Data.Option.Basic
import Provision.Proofs.Json.Documents
import Provision.Proofs.Value
import Provision.Workload.Decode
import Provision.Workload.Encode

/-!
# Records in documents

A record is written as an object of those of its parts that are given. Such an object is
read as a record with the parts it was made of, whatever the parts are, so a record is read
back if each of its parts is.
-/

set_option autoImplicit false

namespace Provision

open Outcome

theorem Table.map_id {α : Type} (t : Table α) : t.map id = t := by
  apply Table.ext_entries
  simp [Table.map, Entries.mapValues]

namespace Json

@[simp] theorem writable_array (items : List Json) :
    (array items).Writable ↔ ∀ j ∈ items, j.Writable := by
  rw [Writable]
  induction items with
  | nil => simp [WritableItems]
  | cons j rest ih => simp [WritableItems, ih]

@[simp] theorem writable_object (members : List (String × Json)) :
    (object members).Writable ↔ ∀ m ∈ members, m.2.Writable := by
  rw [Writable]
  induction members with
  | nil => simp [WritableMembers]
  | cons m rest ih => simp [WritableMembers, ih]

@[simp] theorem writable_string (s : String) : (string s).Writable := trivial

@[simp] theorem writable_bool (b : Bool) : (bool b).Writable := trivial

@[simp] theorem writable_ofInt64 (i : Int64) : (ofInt64 i).Writable := by
  have hlo := i.le_toInt
  have hhi := i.toInt_lt
  constructor <;> omega

theorem writable_items {α : Type} {write : α → Json} (h : ∀ x, (write x).Writable)
    (xs : List α) : (array (xs.map write)).Writable := by
  simp [h]

theorem writable_encoded {α : Type} {R : α → Json → Prop} {xs : List α} {js : List Json}
    (h : List.Forall₂ R xs js) (hw : ∀ x j, R x j → j.Writable) : (array js).Writable := by
  rw [writable_array]
  induction h with
  | nil => simp
  | cons hx _ ih => exact List.forall_mem_cons.mpr ⟨hw _ _ hx, ih⟩

theorem writable_ofTable {α : Type} {write : α → Json} (h : ∀ x, (write x).Writable)
    (t : Table α) : (ofTable write t).Writable := by
  rw [ofTable, writable_object]
  intro m hm
  obtain ⟨e, -, rfl⟩ := List.mem_map.mp hm
  exact h e.2

def given : List (String × Option Json) → List (String × Json)
  | [] => []
  | (name, part) :: rest => member name id part ++ given rest

theorem member_map {α : Type} (name : String) (write : α → Json) (o : Option α) :
    member name id (o.map write) = member name write o := by
  cases o <;> rfl

theorem keys_given (ps : List (String × Option Json)) :
    ((given ps).map Prod.fst).Sublist (ps.map Prod.fst) := by
  induction ps with
  | nil => exact List.Sublist.refl _
  | cons p rest ih =>
    obtain ⟨name, part⟩ := p
    cases part with
    | none => exact ih.cons name
    | some j => exact ih.cons_cons name

def WritablePart (part : Option Json) : Prop := ∀ j, part = some j → j.Writable

@[simp] theorem writablePart_some (j : Json) : WritablePart (some j) ↔ j.Writable := by
  simp [WritablePart]

theorem writablePart_map {α : Type} {write : α → Json} (h : ∀ x, (write x).Writable)
    (o : Option α) : WritablePart (o.map write) := by
  intro j hj
  obtain ⟨x, -, rfl⟩ := Option.map_eq_some_iff.mp hj
  exact h x

theorem writablePart_of_rel {α : Type} {R : α → Json → Prop} {o : Option α} {part : Option Json}
    (h : Option.Rel R o part) (hw : ∀ x j, R x j → j.Writable) : WritablePart part := by
  cases h with
  | none => exact nofun
  | some hx => simpa using hw _ _ hx

theorem writable_given (ps : List (String × Option Json)) (h : ∀ p ∈ ps, WritablePart p.2) :
    ∀ m ∈ given ps, m.2.Writable := by
  induction ps with
  | nil => simp [given]
  | cons p rest ih =>
    obtain ⟨name, part⟩ := p
    obtain ⟨hpart, hrest⟩ := List.forall_mem_cons.mp h
    cases part with
    | none => exact ih hrest
    | some j => exact List.forall_mem_cons.mpr ⟨hpart j rfl, ih hrest⟩

/-- The document that holds the given ones of these parts, one part for each name. -/
structure Filed (names : List String) (ps : List (String × Option Json)) (j : Json) : Prop where
  eq : j = object (given ps)
  keys : ps.map Prod.fst = names
  nodup : names.Nodup

namespace Filed

variable {names : List String} {ps : List (String × Option Json)} {j : Json}

theorem ne_null (h : Filed names ps j) : j ≠ .null := by
  rw [h.eq]
  simp

theorem writable (h : Filed names ps j) (hw : ∀ p ∈ ps, WritablePart p.2) : j.Writable := by
  rw [h.eq, writable_object]
  exact writable_given ps hw

theorem record (h : Filed names ps j) : Source.record names j = some (given ps) := by
  have hsub := keys_given ps
  rw [h.keys] at hsub
  have hknown : (given ps).filter (fun m => names.contains m.1) = given ps := by
    apply List.filter_eq_self.mpr
    intro m hm
    have hmem : m.1 ∈ names := hsub.subset (List.mem_map.mpr ⟨m, hm, rfl⟩)
    rwa [List.contains_iff_mem]
  have hrecord : Source.record names j = record? names j := rfl
  rw [hrecord, h.eq, record?, fieldsOf?, hknown, if_pos (hsub.nodup h.nodup)]

theorem find? (h : Filed names ps j) {key : String} {part : Option Json}
    (hkey : Entries.find? key ps = some part) : Entries.find? key (given ps) = part := by
  have hn : (ps.map Prod.fst).Nodup := h.keys ▸ h.nodup
  clear h
  induction ps with
  | nil => cases hkey
  | cons p rest ih =>
    obtain ⟨name, first⟩ := p
    obtain ⟨hname, hrest⟩ := List.nodup_cons.mp hn
    have hgiven : given ((name, first) :: rest) = member name id first ++ given rest := rfl
    rw [hgiven, Entries.find?_append]
    by_cases heq : key = name
    · subst heq
      have hnone : Entries.find? key (given rest) = none := by
        rw [← Option.not_isSome_iff_eq_none, Entries.find?_isSome_iff]
        exact fun hmem => hname ((keys_given rest).subset hmem)
      have hpart : first = part := by simpa [Entries.find?] using hkey
      subst hpart
      cases first <;> simp [member, Entries.find?, hnone]
    · have hlater : Entries.find? key rest = some part := by simpa [Entries.find?, heq] using hkey
      rw [ih hlater hrest]
      cases first <;> simp [member, Entries.find?, heq]

end Filed

def Paired {α : Type} (R : α → Json → Prop) (es : List (String × α))
    (members : List (String × Json)) : Prop :=
  List.Forall₂ (fun e m => m.1 = e.1 ∧ R e.2 m.2) es members

namespace Paired

variable {α : Type} {R : α → Json → Prop} {es : List (String × α)} {ms : List (String × Json)}

theorem imp {P : α → Prop} {S : α → Json → Prop} (h : Paired R es ms) (hp : ∀ e ∈ es, P e.2)
    (hs : ∀ x j, P x → R x j → S x j) : Paired S es ms := by
  have hboth := (List.forall₂_and_left es ms).mpr ⟨hp, h⟩
  exact hboth.imp fun e m hem => ⟨hem.2.1, hs e.2 m.2 hem.1 hem.2.2⟩

theorem writable (h : Paired R es ms) (hw : ∀ x j, R x j → j.Writable) :
    (object ms).Writable := by
  rw [writable_object]
  induction h with
  | nil => simp
  | cons hx _ ih => exact List.forall_mem_cons.mpr ⟨hw _ _ hx.2, ih⟩

theorem keys (h : Paired R es ms) : ms.map Prod.fst = es.map Prod.fst := by
  induction h with
  | nil => rfl
  | cons hx _ ih => simp [hx.1, ih]

theorem rel_find? (h : Paired R es ms) (key : String) :
    Option.Rel R (Entries.find? key es) (Entries.find? key ms) := by
  induction h with
  | nil => exact .none
  | @cons e m _ _ hem _ ih =>
    obtain ⟨hkeys, hx⟩ := hem
    by_cases hkey : key = e.1
    · simpa [Entries.find?, hkeys, hkey] using hx
    · simpa [Entries.find?, hkeys, hkey] using ih

end Paired

theorem encodeMember_eq_ok {α : Type} {name : String} {write : α → Except ShapeFault Json}
    {o : Option α} {ms : List (String × Json)} (h : encodeMember name write o = .ok ms) :
    ∃ part, ms = member name id part ∧ Option.Rel (fun x j => write x = .ok j) o part := by
  cases o with
  | none =>
    cases h
    exact ⟨none, rfl, .none⟩
  | some x =>
    obtain ⟨j, hj, h⟩ := bind_eq_ok.mp h
    cases pure_eq_ok.mp h
    exact ⟨some j, rfl, .some hj⟩

theorem encodeEntries_eq_ok {α : Type} {write : α → Except ShapeFault Json}
    {es : List (String × α)} {ms : List (String × Json)} (h : encodeEntries write es = .ok ms) :
    Paired (fun x j => write x = .ok j) es ms := by
  induction es generalizing ms with
  | nil =>
    cases h
    exact .nil
  | cons e rest ih =>
    obtain ⟨j, hj, h⟩ := bind_eq_ok.mp h
    obtain ⟨js, hjs, h⟩ := bind_eq_ok.mp h
    cases pure_eq_ok.mp h
    exact .cons ⟨rfl, hj⟩ (ih hjs)

theorem encodeTable_eq_ok {α : Type} {write : α → Except ShapeFault Json} {t : Table α} {j : Json}
    (h : encodeTable write t = .ok j) :
    ∃ ms, j = object ms ∧ Paired (fun x j => write x = .ok j) t.entries ms := by
  obtain ⟨ms, hms, h⟩ := bind_eq_ok.mp h
  cases pure_eq_ok.mp h
  exact ⟨ms, rfl, encodeEntries_eq_ok hms⟩

end Json

namespace Source

variable {α : Type} {read : Json → Option α} {fields : List (String × Json)}

theorem required_eq (name : String) {j : Json} (h : Entries.find? name fields = some j) :
    required name read fields = read j := by
  rw [required, h]

theorem orElse_eq (name : String) {j : Json} {default : α}
    (h : Entries.find? name fields = some j) : orElse name default read fields = read j := by
  rw [orElse, h]

/-- A field that is left out where it is the default. -/
theorem orElse_unless (name : String) {left : Bool} {j : Json} {default x : α}
    (h : Entries.find? name fields = if left then none else some j)
    (hd : left = true → x = default) (hj : read j = some x) :
    orElse name default read fields = some x := by
  rw [orElse, h]
  cases left with
  | true =>
    rw [hd rfl]
    rfl
  | false => exact hj

theorem optional_none (name : String) (h : Entries.find? name fields = none) :
    optional name read fields = some none := by
  rw [optional, h]
  rfl

theorem optional_null (name : String) (h : Entries.find? name fields = some .null) :
    optional name read fields = some none := by
  rw [optional, h]
  rfl

theorem optional_some (name : String) {j : Json} (h : Entries.find? name fields = some j)
    (hj : j ≠ .null) : optional name read fields = (read j).map some := by
  have hpresent : Source.present j = some (some j) := by
    cases j <;> first | rfl | exact absurd rfl hj
  rw [optional, h]
  simp only [hpresent, Option.bind_eq_bind, Option.bind_some]
  cases read j <;> rfl

/-- An optional field that is read as what it was written for, or left out where it is absent. -/
theorem optional_read (name : String) {o : Option α} {part : Option Json}
    (h : Entries.find? name fields = part)
    (hw : Option.Rel (fun x j => j ≠ .null ∧ read j = some x) o part) :
    optional name read fields = some o := by
  cases hw with
  | none => exact optional_none name h
  | some hx => rw [optional_some name h hx.1, hx.2, Option.map_some]

theorem optional_written {write : α → Json} (name : String) (o : Option α)
    (h : Entries.find? name fields = o.map write)
    (hw : ∀ x, write x ≠ .null ∧ read (write x) = some x) :
    optional name read fields = some o := by
  apply optional_read name h
  cases o with
  | none => exact .none
  | some x => exact .some (hw x)

theorem mapM_read {f : α → α} {xs : List α} {js : List Json}
    (h : List.Forall₂ (fun x j => read j = some (f x)) xs js) :
    js.mapM read = some (xs.map f) := by
  induction h with
  | nil => rfl
  | cons hx _ ih =>
    rw [List.mapM_cons, hx, ih]
    rfl

theorem list_written {write : α → Json} (hw : ∀ x, write x ≠ .null ∧ read (write x) = some x)
    (xs : List α) :
    Json.array (xs.map write) ≠ .null ∧ list read (Json.array (xs.map write)) = some xs := by
  have hall : List.Forall₂ (fun x j => read j = some (id x)) xs (xs.map write) := by
    rw [List.forall₂_map_right_iff]
    exact List.forall₂_same.mpr fun x _ => (hw x).2
  have hmap := mapM_read hall
  rw [List.map_id] at hmap
  exact ⟨by simp, hmap⟩

theorem entries_read {f : α → α} {es : List (String × α)} {members : List (String × Json)}
    (h : Json.Paired (fun x j => read j = some (f x)) es members) :
    members.mapM (fun m : String × Json => do
      let x ← read m.2
      return (m.1, x)) = some (Entries.mapValues f es) := by
  induction h with
  | nil => rfl
  | cons hx _ ih =>
    rw [List.mapM_cons, hx.2, ih, hx.1]
    rfl

theorem table_object (read : Json → Option α) (members : List (String × Json)) :
    table read (Json.object members) =
      (members.mapM fun m : String × Json => do
        let x ← read m.2
        return (m.1, x)).bind fun es => some (Table.ofList es) := rfl

/-- A table is read from the members that its entries are written as. -/
theorem table_read {f : α → α} (t : Table α) (members : List (String × Json))
    (h : Json.Paired (fun x j => read j = some (f x)) t.entries members) :
    table read (Json.object members) = some (t.map f) := by
  have htable : Table.ofList (Entries.mapValues f t.entries) = t.map f :=
    Table.ext_entries (Entries.ofList_of_ascending (t.map f).ascending)
  rw [table_object, entries_read h, Option.bind_some, htable]

theorem table_written {write : α → Json} (hw : ∀ x, write x ≠ .null ∧ read (write x) = some x)
    (t : Table α) : Json.ofTable write t ≠ .null ∧ table read (Json.ofTable write t) = some t := by
  have hall : Json.Paired (fun x j => read j = some (id x)) t.entries
      (Entries.mapValues write t.entries) := by
    rw [Json.Paired, Entries.mapValues, List.forall₂_map_right_iff]
    exact List.forall₂_same.mpr fun e _ => ⟨rfl, (hw e.2).2⟩
  refine ⟨by simp [Json.ofTable], ?_⟩
  rw [Json.ofTable, table_read t _ hall, Table.map_id]

/-- A table is read from the document it is encoded as. -/
theorem table_encoded {f : α → α} {P : α → Prop} {write : α → Except ShapeFault Json}
    (hw : ∀ x j, P x → write x = .ok j → read j = some (f x)) {t : Table α} {j : Json}
    (hp : ∀ e ∈ t.entries, P e.2) (h : Json.encodeTable write t = .ok j) :
    j ≠ .null ∧ table read j = some (t.map f) := by
  obtain ⟨ms, rfl, hms⟩ := Json.encodeTable_eq_ok h
  exact ⟨by simp, table_read t ms (hms.imp hp hw)⟩

theorem text_written (s : String) :
    Json.string s ≠ .null ∧ Source.text (Json.string s) = some s :=
  ⟨by simp, rfl⟩

theorem flag_written (b : Bool) : Json.bool b ≠ .null ∧ Source.flag (Json.bool b) = some b :=
  ⟨by simp, rfl⟩

theorem integer_written (i : Int64) :
    Json.ofInt64 i ≠ .null ∧ Source.integer (Json.ofInt64 i) = some i :=
  ⟨by simp [Json.ofInt64], int64?_toInt i⟩

end Source

end Provision
