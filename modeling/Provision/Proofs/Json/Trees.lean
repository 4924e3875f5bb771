import Mathlib.Algebra.Group.Int.Defs
import Mathlib.Data.List.Lex
import Provision.Json.Writer
import Provision.Proofs.Frames
import Provision.Proofs.Value

/-!
# Two ways from a document to a value

A generic document is made into a value kind by kind, with a path that names the place of a
failure, or it is decoded as one. The two agree: what stands in their way is an integer that
takes all 64 bits, and the path leads to the first of these. Both go through the parts right
below a document in order, so what holds of the parts is put together once, for arrays and
objects alike.
-/

set_option autoImplicit false

namespace Provision

open Outcome

def Step.Before : Step → Step → Prop
  | .index i, .index j => i < j
  | .key k, .key l => k < l
  | _, _ => False

namespace Json

/-- The documents that generic values hold: integers take 64 bits with or without a sign,
doubles are finite, and the members of an object ascend by key. -/
inductive Generic : Json → Prop
  | null : Generic .null
  | bool (b : Bool) : Generic (.bool b)
  | int (n : Int) (hlo : -2 ^ 63 ≤ n) (hhi : n < 2 ^ 64) : Generic (.int n)
  | float (x : Double) (hx : x.isFinite = true) : Generic (.float x)
  | string (s : String) : Generic (.string s)
  | array (items : List Json) (h : ∀ j ∈ items, Generic j) : Generic (.array items)
  | object (members : List (String × Json)) (ha : Entries.Ascending members)
      (h : ∀ m ∈ members, Generic m.2) : Generic (.object members)

inductive Holds : Json → List Step → Int → Prop
  | here (n : Int) : Holds (.int n) [] n
  | item {items : List Json} {i : Nat} {j : Json} {steps : List Step} {n : Int}
      (hi : items[i]? = some j) (h : Holds j steps n) : Holds (.array items) (.index i :: steps) n
  | member {members : List (String × Json)} {k : String} {j : Json} {steps : List Step} {n : Int}
      (hm : (k, j) ∈ members) (h : Holds j steps n) : Holds (.object members) (.key k :: steps) n

def Wide (n : Int) : Prop := 2 ^ 63 ≤ n ∧ n < 2 ^ 64

def Narrow (j : Json) : Prop := ∀ steps n, j.Holds steps n → ¬ Wide n

structure FirstWide (j : Json) (steps : List Step) (n : Int) : Prop where
  holds : j.Holds steps n
  wide : Wide n
  first : ∀ others m, j.Holds others m → Wide m →
    others = steps ∨ List.Lex Step.Before steps others

/-! ## Generic documents -/

theorem sortedItems_eq_map (items : List Json) : sortedItems items = items.map sorted := by
  induction items with
  | nil => rfl
  | cons j rest ih => rw [sortedItems, ih, List.map_cons]

theorem sortedMembers_eq_map (members : List (String × Json)) :
    sortedMembers members = members.map fun m => (m.1, m.2.sorted) := by
  induction members with
  | nil => rfl
  | cons m rest ih => rw [sortedMembers, ih, List.map_cons]

theorem completeItems_iff {items : List Json} :
    completeItems items = true ↔ ∀ j ∈ items, j.isComplete = true := by
  induction items with
  | nil => simp [completeItems]
  | cons j rest ih => simp [completeItems, ih]

theorem completeMembers_iff {members : List (String × Json)} :
    completeMembers members = true ↔ ∀ m ∈ members, m.2.isComplete = true := by
  induction members with
  | nil => simp [completeMembers]
  | cons m rest ih => simp [completeMembers, ih]

theorem generic?_eq_some_iff {j g : Json} :
    j.generic? = some g ↔ j.isComplete = true ∧ j.sorted = g := by
  simp [generic?]

inductive Ranged : Json → Prop
  | null : Ranged .null
  | bool (b : Bool) : Ranged (.bool b)
  | int (n : Int) (hlo : -2 ^ 63 ≤ n) (hhi : n < 2 ^ 64) : Ranged (.int n)
  | float (x : Double) (hx : x.isFinite = true) : Ranged (.float x)
  | string (s : String) : Ranged (.string s)
  | array (items : List Json) (h : ∀ j ∈ items, Ranged j) : Ranged (.array items)
  | object (members : List (String × Json)) (h : ∀ m ∈ members, Ranged m.2) :
      Ranged (.object members)
  | beyond : Ranged .beyond

/-- What a document is as a generic value is a generic document, whatever keys are repeated. -/
theorem Ranged.generic {j g : Json} (hj : j.Ranged) (h : j.generic? = some g) : g.Generic := by
  obtain ⟨hcomplete, rfl⟩ := generic?_eq_some_iff.mp h
  clear h
  induction hj with
  | null => exact .null
  | bool b => exact .bool b
  | int n hlo hhi => exact .int n hlo hhi
  | float x hx => exact .float x hx
  | string s => exact .string s
  | beyond => cases hcomplete
  | array items _ ih =>
    rw [isComplete, completeItems_iff] at hcomplete
    rw [sorted, sortedItems_eq_map]
    refine .array _ (List.forall_mem_map.mpr fun j hj => ?_)
    exact ih j hj (hcomplete j hj)
  | object members _ ih =>
    rw [isComplete, completeMembers_iff] at hcomplete
    rw [sorted, sortedMembers_eq_map]
    refine .object _ (Entries.ascending_ofList _) fun m hm => ?_
    obtain ⟨n, hn, rfl⟩ := List.mem_map.mp (Entries.mem_of_mem_ofList hm)
    exact ih n hn (hcomplete n hn)

/-- A generic document is itself as a generic value. -/
theorem Generic.generic?_self {j : Json} (hj : j.Generic) : j.generic? = some j := by
  rw [generic?_eq_some_iff]
  induction hj with
  | null => exact ⟨rfl, rfl⟩
  | bool b => exact ⟨rfl, rfl⟩
  | int n hlo hhi => exact ⟨rfl, rfl⟩
  | float x hx => exact ⟨rfl, rfl⟩
  | string s => exact ⟨rfl, rfl⟩
  | array items _ ih =>
    refine ⟨completeItems_iff.mpr fun j hj => (ih j hj).1, ?_⟩
    have hsame : items.map sorted = items :=
      (List.map_congr_left fun j hj => (ih j hj).2).trans (List.map_id items)
    rw [sorted, sortedItems_eq_map, hsame]
  | object members ha _ ih =>
    refine ⟨completeMembers_iff.mpr fun m hm => (ih m hm).1, ?_⟩
    have hsame : (members.map fun m => (m.1, m.2.sorted)) = members := by
      refine (List.map_congr_left fun m hm => ?_).trans (List.map_id members)
      exact Prod.ext rfl (ih m hm).2
    rw [sorted, sortedMembers_eq_map, hsame, Entries.ofList_of_ascending ha]

/-! ## Parts right below a document -/

def children : Json → List (Step × Json)
  | array items => items.zipIdx.map fun p => (.index p.2, p.1)
  | object members => members.map fun m => (.key m.1, m.2)
  | _ => []

theorem holds_cons_iff {j : Json} {step : Step} {steps : List Step} {n : Int} :
    j.Holds (step :: steps) n ↔ ∃ child, (step, child) ∈ j.children ∧ child.Holds steps n := by
  constructor
  · intro h
    cases h with
    | item hi h => exact ⟨_, by simpa [children, List.mk_mem_zipIdx_iff_getElem?] using hi, h⟩
    | member hm h => exact ⟨_, by simpa [children] using hm, h⟩
  · rintro ⟨child, hc, h⟩
    cases j with
    | array items =>
      obtain ⟨⟨j, i⟩, hp, heq⟩ := List.mem_map.mp hc
      cases heq
      exact .item (List.mk_mem_zipIdx_iff_getElem?.mp hp) h
    | object members =>
      obtain ⟨⟨k, j⟩, hm, heq⟩ := List.mem_map.mp hc
      cases heq
      exact .member hm h
    | _ => cases hc

def normalizeChildren (path : String) : List (Step × Json) → Except Error (List Value)
  | [] => .ok []
  | (step, j) :: rest => do
    let v ← j.normalize (step.path path)
    let vs ← normalizeChildren path rest
    return v :: vs

def childValues? : List (Step × Json) → Option (List Value)
  | [] => some []
  | (_, j) :: rest => do
    let v ← j.value?
    let vs ← childValues? rest
    some (v :: vs)

/-- Whether a document is read by putting together what its parts are read as. -/
structure Composed (j : Json) (whole : List Value → Value) : Prop where
  ascending : j.children.Pairwise fun a b => a.1.Before b.1
  not_int : ∀ n, j ≠ .int n
  normalize : ∀ path, j.normalize path = (normalizeChildren path j.children).map whole
  value? : j.value? = (childValues? j.children).map whole

section Array

def numbered (i : Nat) (items : List Json) : List (Step × Json) :=
  (items.zipIdx i).map fun p => (.index p.2, p.1)

theorem numbered_cons (i : Nat) (j : Json) (items : List Json) :
    numbered i (j :: items) = (.index i, j) :: numbered (i + 1) items := rfl

theorem numbered_ascending (i : Nat) (items : List Json) :
    (numbered i items).Pairwise fun a b => a.1.Before b.1 := by
  induction items generalizing i with
  | nil => exact .nil
  | cons j rest ih =>
    rw [numbered_cons]
    refine List.pairwise_cons.mpr ⟨?_, ih (i + 1)⟩
    intro c hc
    obtain ⟨p, hp, rfl⟩ := List.mem_map.mp hc
    exact (List.mem_zipIdx_iff_le_and_getElem?_sub.mp hp).1

theorem normalizeItems_eq (path : String) (i : Nat) (items : List Json) :
    normalizeItems path i items = normalizeChildren path (numbered i items) := by
  induction items generalizing i with
  | nil => rfl
  | cons j rest ih => rw [normalizeItems, ih, numbered_cons, normalizeChildren]; rfl

theorem valueItems?_eq (i : Nat) (items : List Json) :
    valueItems? items = childValues? (numbered i items) := by
  induction items generalizing i with
  | nil => rfl
  | cons j rest ih => rw [valueItems?, ih (i + 1), numbered_cons, childValues?]

theorem composed_array (items : List Json) : Composed (array items) .list where
  ascending := numbered_ascending 0 items
  not_int := nofun
  normalize path := by
    rw [Json.normalize, normalizeItems_eq, children, ← numbered]
    cases normalizeChildren path (numbered 0 items) <;> rfl
  value? := by
    rw [Json.value?, valueItems?_eq 0]
    rfl

end Array

section Object

def labelled (members : List (String × Json)) : List (Step × Json) :=
  members.map fun m => (.key m.1, m.2)

theorem labelled_cons (k : String) (j : Json) (members : List (String × Json)) :
    labelled ((k, j) :: members) = (.key k, j) :: labelled members := rfl

theorem normalizeMembers_eq (path : String) (members : List (String × Json)) :
    normalizeMembers path members = (normalizeChildren path (labelled members)).map fun vs =>
      (members.map Prod.fst).zip vs := by
  induction members with
  | nil => rfl
  | cons m rest ih =>
    obtain ⟨k, j⟩ := m
    have hpath : (Step.key k).path path = keyPath path k := rfl
    rw [normalizeMembers, ih, labelled_cons, normalizeChildren, hpath]
    cases j.normalize (keyPath path k) with
    | error e => rfl
    | ok v => cases normalizeChildren path (labelled rest) <;> rfl

theorem valueMembers?_eq (members : List (String × Json)) :
    valueMembers? members = (childValues? (labelled members)).map fun vs =>
      (members.map Prod.fst).zip vs := by
  induction members with
  | nil => rfl
  | cons m rest ih =>
    obtain ⟨k, j⟩ := m
    rw [valueMembers?, ih, labelled_cons, childValues?]
    cases j.value? with
    | none => rfl
    | some v => cases childValues? (labelled rest) <;> rfl

theorem length_childValues? {cs : List (Step × Json)} {vs : List Value}
    (h : childValues? cs = some vs) : vs.length = cs.length := by
  induction cs generalizing vs with
  | nil =>
    cases h
    rfl
  | cons c cs ih =>
    obtain ⟨v, -, h⟩ := Option.bind_eq_some_iff.mp h
    obtain ⟨rest, hrest, h⟩ := Option.bind_eq_some_iff.mp h
    cases h
    simp [ih hrest]

theorem composed_object {members : List (String × Json)} (ha : Entries.Ascending members) :
    Composed (object members) fun vs => .map ((members.map Prod.fst).zip vs) where
  ascending := List.pairwise_map.mpr ha
  not_int := nofun
  normalize path := by
    rw [Json.normalize, normalizeMembers_eq, children, ← labelled]
    cases normalizeChildren path (labelled members) <;> rfl
  value? := by
    rw [Json.value?, valueMembers?_eq, children, ← labelled]
    cases hvs : childValues? (labelled members) with
    | none => rfl
    | some vs =>
      -- the keys still ascend, so that gathering the members in a table changes nothing
      have hlength : vs.length = members.length := by
        simpa [labelled] using length_childValues? hvs
      have hkeys : ((members.map Prod.fst).zip vs).map Prod.fst = members.map Prod.fst :=
        List.map_fst_zip (by simp [hlength])
      have hascending : Entries.Ascending ((members.map Prod.fst).zip vs) := by
        have hpairs : (members.map Prod.fst).Pairwise (· < ·) := List.pairwise_map.mpr ha
        rw [← hkeys] at hpairs
        exact List.pairwise_map.mp hpairs
      simp only [Option.map_some, Entries.ofList_of_ascending hascending]

end Object

/-! ## Agreement -/

/-- Whether the two ways from a document to a value lead to the same value, or fail because of
a wide integer, the first of which is named by its place. -/
def Agrees (j : Json) : Prop :=
  (j.Narrow ∧ ∃ v, j.value? = some v ∧ ∀ path, j.normalize path = .ok v) ∨
  ∃ steps n, j.FirstWide steps n ∧ j.value? = none ∧
    ∀ path, j.normalize path = .error (.shape (pathTo path steps) (.wideInteger n))

theorem agrees_children {cs : List (Step × Json)} (h : ∀ c ∈ cs, c.2.Agrees) :
    ((∀ c ∈ cs, c.2.Narrow) ∧ ∃ vs, childValues? cs = some vs ∧
      ∀ path, normalizeChildren path cs = .ok vs) ∨
    ∃ before step child after steps n, cs = before ++ (step, child) :: after ∧
      (∀ c ∈ before, c.2.Narrow) ∧ child.FirstWide steps n ∧ childValues? cs = none ∧
      ∀ path, normalizeChildren path cs =
        .error (.shape (pathTo path (step :: steps)) (.wideInteger n)) := by
  induction cs with
  | nil => exact .inl ⟨by simp, [], rfl, fun _ => rfl⟩
  | cons c cs ih =>
    obtain ⟨hc, hcs⟩ := List.forall_mem_cons.mp h
    rcases hc with ⟨hnarrow, v, hv, hn⟩ | ⟨steps, n, hfirst, hv, hn⟩
    · rcases ih hcs with ⟨hrest, vs, hvs, hns⟩ |
        ⟨before, step, child, after, steps, n, rfl, hb, hfirst, hvs, hns⟩
      · refine .inl ⟨List.forall_mem_cons.mpr ⟨hnarrow, hrest⟩, v :: vs, ?_, fun path => ?_⟩
        · rw [childValues?, hv, hvs]
          rfl
        · rw [normalizeChildren, hn, hns]
          rfl
      · refine .inr ⟨c :: before, step, child, after, steps, n, rfl,
          List.forall_mem_cons.mpr ⟨hnarrow, hb⟩, hfirst, ?_, fun path => ?_⟩
        · rw [childValues?, hv, hvs]
          rfl
        · rw [normalizeChildren, hn, hns]
          rfl
    · refine .inr ⟨[], c.1, c.2, cs, steps, n, rfl, by simp, hfirst, ?_, fun path => ?_⟩
      · rw [childValues?, hv]
        rfl
      · rw [normalizeChildren, hn]
        rfl

theorem Composed.narrow {j : Json} {whole : List Value → Value} (hj : Composed j whole)
    (h : ∀ c ∈ j.children, c.2.Narrow) : j.Narrow := by
  intro steps n hn
  cases steps with
  | nil =>
    cases hn
    exact absurd rfl (hj.not_int n)
  | cons step steps =>
    obtain ⟨child, hc, hn⟩ := holds_cons_iff.mp hn
    exact h _ hc steps n hn

/-- The first wide integer of a document is the first one of the first part that holds one. -/
theorem Composed.firstWide {j child : Json} {whole : List Value → Value}
    {before after : List (Step × Json)} {step : Step} {steps : List Step} {n : Int}
    (hj : Composed j whole) (hc : j.children = before ++ (step, child) :: after)
    (hb : ∀ c ∈ before, c.2.Narrow) (h : child.FirstWide steps n) :
    j.FirstWide (step :: steps) n := by
  have hmem : (step, child) ∈ j.children := by simp [hc]
  refine ⟨holds_cons_iff.mpr ⟨child, hmem, h.holds⟩, h.wide, fun others m hm hwide => ?_⟩
  cases others with
  | nil =>
    cases hm
    exact absurd rfl (hj.not_int m)
  | cons other others =>
    obtain ⟨sibling, hs, hm⟩ := holds_cons_iff.mp hm
    rw [hc, List.mem_append, List.mem_cons] at hs
    rcases hs with hs | heq | hs
    · exact absurd hwide (hb _ hs others m hm)
    · cases heq
      rcases h.first others m hm hwide with rfl | hlex
      · exact .inl rfl
      · exact .inr (.cons hlex)
    · have hsorted := hj.ascending
      rw [hc] at hsorted
      have hlater := (List.pairwise_append.mp hsorted).2.1
      exact .inr (.rel ((List.pairwise_cons.mp hlater).1 _ hs))

theorem Composed.agrees {j : Json} {whole : List Value → Value} (hj : Composed j whole)
    (h : ∀ c ∈ j.children, c.2.Agrees) : j.Agrees := by
  rcases agrees_children h with ⟨hnarrow, vs, hvs, hns⟩ |
    ⟨before, step, child, after, steps, n, hc, hb, hfirst, hvs, hns⟩
  · refine .inl ⟨hj.narrow hnarrow, whole vs, ?_, fun path => ?_⟩
    · rw [hj.value?, hvs, Option.map_some]
    · rw [hj.normalize, hns]
      rfl
  · refine .inr ⟨step :: steps, n, hj.firstWide hc hb hfirst, ?_, fun path => ?_⟩
    · rw [hj.value?, hvs, Option.map_none]
    · rw [hj.normalize, hns]
      rfl

theorem agrees_int {n : Int} (hlo : -2 ^ 63 ≤ n) (hhi : n < 2 ^ 64) : (int n).Agrees := by
  by_cases hn : n < 2 ^ 63
  · have hword : int64? n = some (Int64.ofInt n) := if_pos ⟨by omega, by omega⟩
    refine .inl ⟨fun steps m hm hwide => ?_, .int (Int64.ofInt n), ?_, fun path => ?_⟩
    · cases hm
      exact absurd hn (Int.not_lt.mpr hwide.1)
    · rw [Json.value?, hword, Option.map_some]
    · rw [Json.normalize, hword]
  · have hword : int64? n = none := if_neg (by omega)
    refine .inr ⟨[], n, ⟨.here n, ⟨by omega, hhi⟩, fun others m hm _ => ?_⟩, ?_, fun path => ?_⟩
    · cases hm
      exact .inl rfl
    · rw [Json.value?, hword, Option.map_none]
    · rw [Json.normalize, hword]
      rfl

theorem Generic.agrees {j : Json} (hj : j.Generic) : j.Agrees := by
  induction hj with
  | null => exact .inl ⟨nofun, .null, rfl, fun _ => rfl⟩
  | bool b => exact .inl ⟨nofun, .bool b, rfl, fun _ => rfl⟩
  | int n hlo hhi => exact agrees_int hlo hhi
  | float x hx => exact .inl ⟨nofun, .float x, rfl, fun _ => by rw [Json.normalize, if_pos hx]⟩
  | string s => exact .inl ⟨nofun, .string s, rfl, fun _ => rfl⟩
  | array items _ ih =>
    apply (composed_array items).agrees
    intro c hc
    obtain ⟨p, hp, rfl⟩ := List.mem_map.mp hc
    exact ih p.1 (List.fst_mem_of_mem_zipIdx hp)
  | object members ha _ ih =>
    apply (composed_object ha).agrees
    intro c hc
    obtain ⟨m, hm, rfl⟩ := List.mem_map.mp hc
    exact ih m hm

end Json

namespace Value

inductive Holds : Value → Double → Prop
  | here (x : Double) : Holds (.float x) x
  | item {items : List Value} {v : Value} {x : Double} (hv : v ∈ items) (h : Holds v x) :
      Holds (.list items) x
  | entry {entries : List (String × Value)} {e : String × Value} {x : Double}
      (he : e ∈ entries) (h : Holds e.2 x) : Holds (.map entries) x

def Finite (v : Value) : Prop := ∀ x, v.Holds x → x.isFinite = true

def Refused (v : Value) (x : Double) : Prop := v.Holds x ∧ x.isFinite = false

mutual

/-- A value has a document, or it holds a double that is not finite. -/
theorem json_outcome (v : Value) : (v.Finite ∧ ∃ j, v.json = .ok j) ∨
    ∃ x, v.Refused x ∧ v.json = .error (.nonFinite x) := by
  match v with
  | .null => exact .inl ⟨nofun, _, rfl⟩
  | .bool _ => exact .inl ⟨nofun, _, rfl⟩
  | .int _ => exact .inl ⟨nofun, _, rfl⟩
  | .string _ => exact .inl ⟨nofun, _, rfl⟩
  | .float x =>
    cases hx : x.isFinite with
    | true =>
      refine .inl ⟨fun y hy => ?_, .float x, by rw [json, if_pos hx]⟩
      cases hy
      exact hx
    | false => exact .inr ⟨x, ⟨.here x, hx⟩, by simp [json, hx]⟩
  | .list items =>
    rcases jsonItems_outcome items with ⟨hfinite, js, hjs⟩ | ⟨v, hv, x, hx, hjs⟩
    · refine .inl ⟨fun y hy => ?_, .array js, by rw [json, hjs]; rfl⟩
      cases hy with
      | item hv hy => exact hfinite _ hv y hy
    · exact .inr ⟨x, ⟨.item hv hx.1, hx.2⟩, by rw [json, hjs]; rfl⟩
  | .map entries =>
    rcases jsonEntries_outcome entries with ⟨hfinite, js, hjs⟩ | ⟨e, he, x, hx, hjs⟩
    · refine .inl ⟨fun y hy => ?_, .object js, by rw [json, hjs]; rfl⟩
      cases hy with
      | entry he hy => exact hfinite _ he y hy
    · exact .inr ⟨x, ⟨.entry he hx.1, hx.2⟩, by rw [json, hjs]; rfl⟩

theorem jsonItems_outcome (vs : List Value) :
    ((∀ v ∈ vs, v.Finite) ∧ ∃ js, jsonItems vs = .ok js) ∨
    ∃ v ∈ vs, ∃ x, v.Refused x ∧ jsonItems vs = .error (.nonFinite x) := by
  match vs with
  | [] => exact .inl ⟨nofun, [], rfl⟩
  | v :: rest =>
    rcases json_outcome v with ⟨hfinite, j, hj⟩ | ⟨x, hx, hj⟩
    · rcases jsonItems_outcome rest with ⟨hrest, js, hjs⟩ | ⟨u, hu, x, hx, hjs⟩
      · exact .inl ⟨List.forall_mem_cons.mpr ⟨hfinite, hrest⟩, j :: js,
          by rw [jsonItems, hj, hjs]; rfl⟩
      · exact .inr ⟨u, List.mem_cons_of_mem _ hu, x, hx, by rw [jsonItems, hj, hjs]; rfl⟩
    · exact .inr ⟨v, List.mem_cons_self, x, hx, by rw [jsonItems, hj]; rfl⟩

theorem jsonEntries_outcome (es : List (String × Value)) :
    ((∀ e ∈ es, e.2.Finite) ∧ ∃ js, jsonEntries es = .ok js) ∨
    ∃ e ∈ es, ∃ x, e.2.Refused x ∧ jsonEntries es = .error (.nonFinite x) := by
  match es with
  | [] => exact .inl ⟨nofun, [], rfl⟩
  | (k, v) :: rest =>
    rcases json_outcome v with ⟨hfinite, j, hj⟩ | ⟨x, hx, hj⟩
    · rcases jsonEntries_outcome rest with ⟨hrest, js, hjs⟩ | ⟨e, he, x, hx, hjs⟩
      · exact .inl ⟨List.forall_mem_cons.mpr ⟨hfinite, hrest⟩, (k, j) :: js,
          by rw [jsonEntries, hj, hjs]; rfl⟩
      · exact .inr ⟨e, List.mem_cons_of_mem _ he, x, hx, by rw [jsonEntries, hj, hjs]; rfl⟩
    · exact .inr ⟨(k, v), List.mem_cons_self, x, hx, by rw [jsonEntries, hj]; rfl⟩

end

end Value

/-- The ways to a value agree. A generic document is normalized to the value that it is decoded
as; both fail just where a wide integer stands in the document, and the error of the
normalization names the place of the first of these. A value is normalized to itself if its
doubles are finite and refused as a whole otherwise. -/
theorem values_agree (path : String) :
    (∀ j : Json, j.Generic →
      (∀ v, j.normalize path = .ok v ↔ j.value? = some v) ∧
      (j.value? = none ↔ ∃ steps n, j.Holds steps n ∧ 2 ^ 63 ≤ n ∧ n < 2 ^ 64) ∧
      ∀ e, j.normalize path = .error e → ∃ steps n, j.FirstWide steps n ∧
        e = .shape (pathTo path steps) (.wideInteger n)) ∧
    ∀ v : Value,
      ((∀ x, v.Holds x → x.isFinite = true) → v.normalize path = .ok v) ∧
      ((∃ x, v.Holds x ∧ x.isFinite = false) →
        ∃ x, v.Holds x ∧ x.isFinite = false ∧
          v.normalize path = .error (.shape path (.nonFinite x))) := by
  refine ⟨fun j hj => ?_, fun v => ?_⟩
  · rcases hj.agrees with ⟨hnarrow, v, hv, hn⟩ | ⟨steps, n, hfirst, hv, hn⟩
    · refine ⟨fun u => by rw [hn, hv]; simp, ?_, fun e he => ?_⟩
      · rw [hv]
        simp only [reduceCtorEq, false_iff]
        rintro ⟨steps, n, hholds, hwide⟩
        exact hnarrow steps n hholds hwide
      · rw [hn] at he
        cases he
    · refine ⟨fun u => by rw [hn, hv]; simp, ?_, fun e he => ?_⟩
      · simp only [hv, true_iff]
        exact ⟨steps, n, hfirst.holds, hfirst.wide⟩
      · rw [hn] at he
        cases he
        exact ⟨steps, n, hfirst, rfl⟩
  · rcases v.json_outcome with ⟨hfinite, j, hj⟩ | ⟨x, hx, hj⟩
    · refine ⟨fun _ => ?_, ?_⟩
      · rw [Value.normalize, hj]
        exact Value.normalize_json hj path
      · rintro ⟨x, hx, hnot⟩
        rw [hfinite x hx] at hnot
        cases hnot
    · refine ⟨fun hfinite => ?_, fun _ => ⟨x, hx.1, hx.2, ?_⟩⟩
      · have hnot := hx.2
        rw [hfinite x hx.1] at hnot
        cases hnot
      · rw [Value.normalize, hj]

/-- A document with two wide integers, the first of them below a list and a map. -/
def oversized : Json :=
  .object [("a", .array [.int 1, .object [("b", .int 0x8000000000000000)]]),
    ("c", .int 0xffffffffffffffff)]

theorem oversized_generic : oversized.Generic := by
  have hb : Entries.Ascending [("b", Json.int 0x8000000000000000)] := List.pairwise_singleton _ _
  refine .object _ ?_ (List.forall_mem_cons.mpr ⟨.array _ ?_, ?_⟩)
  · unfold Entries.Ascending
    decide
  · refine List.forall_mem_cons.mpr ⟨.int 1 (by decide) (by decide), ?_⟩
    refine List.forall_mem_singleton.mpr (.object _ hb ?_)
    exact List.forall_mem_singleton.mpr (.int _ (by decide) (by decide))
  · exact List.forall_mem_singleton.mpr (.int _ (by decide) (by decide))

theorem values_agree_oversized :
    oversized.Generic ∧ oversized.value? = none ∧
    (∃ steps, oversized.FirstWide steps 0x8000000000000000 ∧
      pathTo "params" steps = "params.a[1].b") ∧
    (Value.list [.int 1, .string "b"]).normalize "params" = .ok (.list [.int 1, .string "b"]) ∧
    ∃ x, (Value.list [.int 1, .float Double.notANumber]).normalize "params" =
      .error (.shape "params" (.nonFinite x)) := by
  obtain ⟨hdocuments, hvalues⟩ := values_agree "params"
  obtain ⟨-, hfail, herror⟩ := hdocuments oversized oversized_generic
  have hpath : oversized.normalize "params" =
      .error (.shape "params.a[1].b" (.wideInteger 0x8000000000000000)) := by cbv
  obtain ⟨steps, n, hfirst, heq⟩ := herror _ hpath
  obtain ⟨hsteps, rfl⟩ : "params.a[1].b" = pathTo "params" steps ∧ 0x8000000000000000 = n := by
    simpa using heq
  refine ⟨oversized_generic, hfail.mpr ⟨steps, _, hfirst.holds, hfirst.wide⟩,
    ⟨steps, hfirst, hsteps.symm⟩, (hvalues _).1 ?_, ?_⟩
  · intro x hx
    cases hx with
    | item hv hx =>
      simp only [List.mem_cons, List.not_mem_nil, or_false] at hv
      rcases hv with rfl | rfl <;> cases hx
  · obtain ⟨x, -, -, hx⟩ := (hvalues (.list [.int 1, .float Double.notANumber])).2
      ⟨Double.notANumber, .item (by simp) (.here _), by decide⟩
    exact ⟨x, hx⟩

end Provision
