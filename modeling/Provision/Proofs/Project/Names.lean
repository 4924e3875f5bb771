import Provision.Proofs.Project.Documents
import Provision.Proofs.Project.Upserts

/-!
# Names in saved projects

Whatever else is lost when a saved project is read back, its workloads keep their names: a name
is a text two levels below the workload, and texts are read as they were written.
-/

set_option autoImplicit false

namespace Provision

open Outcome Source

namespace Json

theorem reread_object (depth : Nat) (members : List (String × Json)) :
    reread (depth + 1) (object members) = object (rereadMembers depth members) := rfl

theorem find?_rereadMembers (depth : Nat) (key : String) (members : List (String × Json)) :
    Entries.find? key (rereadMembers depth members) =
      (Entries.find? key members).map (reread depth) := by
  induction members with
  | nil => rfl
  | cons m rest ih =>
    obtain ⟨k, j⟩ := m
    by_cases hk : key = k <;> simp [rereadMembers, Entries.find?, hk, ih]

theorem keys_rereadMembers (depth : Nat) (members : List (String × Json)) :
    (rereadMembers depth members).map Prod.fst = members.map Prod.fst := by
  induction members with
  | nil => rfl
  | cons m rest ih =>
    obtain ⟨k, j⟩ := m
    simp [rereadMembers, ih]

theorem rereadMembers_given (depth : Nat) (ps : List (String × Option Json)) :
    rereadMembers depth (given ps) = given (ps.map fun p => (p.1, p.2.map (reread depth))) := by
  induction ps with
  | nil => rfl
  | cons p rest ih =>
    obtain ⟨name, part⟩ := p
    cases part with
    | none => exact ih
    | some j => exact congrArg ((name, reread depth j) :: ·) ih

theorem Filed.reread {names : List String} {ps : List (String × Option Json)} {j : Json}
    (h : Filed names ps j) (depth : Nat) :
    Filed names (ps.map fun p => (p.1, p.2.map (reread depth))) (j.reread (depth + 1)) where
  eq := by rw [h.eq, reread_object, rereadMembers_given]
  keys := by
    rw [← h.keys, List.map_map]
    rfl
  nodup := h.nodup

theorem Paired.find? {α : Type} {R : α → Json → Prop} {es : List (String × α)}
    {ms : List (String × Json)} (h : Paired R es ms) {key : String} {x : α}
    (hx : Entries.find? key es = some x) : ∃ j, Entries.find? key ms = some j ∧ R x j := by
  have hrel := h.rel_find? key
  rw [hx] at hrel
  generalize Entries.find? key ms = part at hrel
  cases hrel with
  | some hj => exact ⟨_, rfl, hj⟩

/-- The members of a table are read as entries of the same keys. -/
theorem entries_of_mapM {α : Type} {read : Json → Option α} {ms : List (String × Json)}
    {es : List (String × α)}
    (h : ms.mapM (fun m : String × Json => do
      let x ← read m.2
      return (m.1, x)) = some es) :
    es.map Prod.fst = ms.map Prod.fst ∧
      ∀ key, Entries.find? key es = (Entries.find? key ms).bind read := by
  induction ms generalizing es with
  | nil =>
    cases h
    exact ⟨rfl, fun _ => rfl⟩
  | cons m rest ih =>
    obtain ⟨k, j⟩ := m
    rw [List.mapM_cons] at h
    obtain ⟨e, he, h⟩ := Option.bind_eq_some_iff.mp h
    obtain ⟨x, hx, he⟩ := Option.bind_eq_some_iff.mp he
    obtain ⟨es, hes, h⟩ := Option.bind_eq_some_iff.mp h
    cases he
    cases h
    obtain ⟨hkeys, hfind⟩ := ih hes
    refine ⟨by simp [hkeys], ?_⟩
    intro key
    by_cases hk : key = k
    · simpa [Entries.find?, hk] using hx.symm
    · simpa [Entries.find?, hk] using hfind key

/-- A text of a table is read as it is. -/
theorem find?_table_string {ms : List (String × Json)} {t : Table Value} {key s : String}
    (h : table Source.value (object ms) = some t) (ha : (ms.map Prod.fst).Pairwise (· < ·))
    (hkey : Entries.find? key ms = some (string s)) : t.find? key = some (.string s) := by
  rw [table_object] at h
  obtain ⟨es, hes, h⟩ := Option.bind_eq_some_iff.mp h
  cases h
  obtain ⟨hkeys, hfind⟩ := entries_of_mapM hes
  have hasc : Entries.Ascending es := by
    rw [← hkeys] at ha
    exact List.pairwise_map.mp ha
  have hentries : (Table.ofList es).entries = es := Entries.ofList_of_ascending hasc
  rw [Table.find?, hentries, hfind, hkey]
  rfl

end Json

namespace Workload

theorem name_eq_ok_iff {w : Workload} {name : String} :
    w.name = .ok name ↔ w.metadata.find? "name" = some (.string name) ∧ name ≠ "" := by
  unfold Workload.name
  split
  · next s hs =>
    by_cases hempty : s = ""
    · subst hempty
      simp [hs]
    · have hname : s = name → name ≠ "" := fun heq => heq ▸ hempty
      simpa [hs, hempty] using hname
  · next v hother hv =>
    have hnot : v ≠ .string name := hother name
    simp [hv, hnot]
  · next hv => simp [hv]

/-- A workload has the same name after its document is read again. -/
theorem name_reread {w v : Workload} {j : Json} {depth : Nat} {name : String}
    (h : w.json = .ok j) (hw : w.name = .ok name)
    (hv : decode (j.reread (depth + 2)) = some v) : v.name = .ok name := by
  obtain ⟨hfind, hne⟩ := name_eq_ok_iff.mp hw
  obtain ⟨metadata, containers, resources, hm, -, -, hf⟩ := filed h
  obtain ⟨ms, rfl, hms⟩ := Json.encodeTable_eq_ok hm
  have hr := hf.reread (depth + 1)
  obtain ⟨fields, hfields, hv⟩ := Option.bind_eq_some_iff.mp hv
  obtain rfl := Option.some.inj (hr.record.symm.trans hfields)
  obtain ⟨_, _, hv⟩ := Option.bind_eq_some_iff.mp hv
  obtain ⟨t, ht, hv⟩ := Option.bind_eq_some_iff.mp hv
  obtain ⟨_, _, hv⟩ := Option.bind_eq_some_iff.mp hv
  obtain ⟨_, _, hv⟩ := Option.bind_eq_some_iff.mp hv
  obtain ⟨_, _, hv⟩ := Option.bind_eq_some_iff.mp hv
  cases hv
  rw [orElse_eq "metadata" (hr.find? rfl), Json.reread_object] at ht
  rw [name_eq_ok_iff]
  refine ⟨Json.find?_table_string ht ?_ ?_, hne⟩
  · rw [Json.keys_rereadMembers, hms.keys]
    exact List.pairwise_map.mpr w.metadata.ascending
  · obtain ⟨j, hj, hname⟩ := hms.find? hfind
    cases hname
    rw [Json.find?_rereadMembers, hj]
    rfl

end Workload

namespace Project

theorem names_reread (depth : Nat) {ws vs : List Workload} {js : List Json} {names : List String}
    (hjs : List.Forall₂ (fun w j => Workload.json w = .ok j) ws js)
    (hnames : ws.map Workload.name = names.map .ok)
    (hvs : (Json.rereadItems (depth + 2) js).mapM Workload.decode = some vs) :
    vs.map Workload.name = names.map .ok := by
  induction hjs generalizing vs names with
  | nil =>
    cases hvs
    exact hnames
  | @cons w j ws js hj _ ih =>
    cases names with
    | nil => cases hnames
    | cons name names =>
      obtain ⟨hw, hws⟩ := List.cons.inj hnames
      rw [Json.rereadItems, List.mapM_cons] at hvs
      obtain ⟨v, hv, hvs⟩ := Option.bind_eq_some_iff.mp hvs
      obtain ⟨rest, hrest, hvs⟩ := Option.bind_eq_some_iff.mp hvs
      cases hvs
      rw [List.map_cons, Workload.name_reread hj hw hv, ih hws hrest, List.map_cons]

/-- What is read from a saved project has the names of the project. -/
theorem named_of_saved {p q : Project} {names : List String} {text : String} (hp : p.Named names)
    (htext : p.encode = .ok text) (hq : decode? (text ++ "\n") = some q) : q.Named names := by
  obtain ⟨j, hj, rfl⟩ := encode_eq_ok htext
  rw [decode?_pretty hj] at hq
  obtain ⟨js, hjs, rfl⟩ := exists_json hj
  have hmembers : fields? ((Json.object (p.members js)).reread Json.levels) =
      some (Json.rereadMembers 126 (p.members js)) := rfl
  rw [ofJson?, hmembers, Option.bind_eq_bind, Option.bind_some] at hq
  obtain ⟨vs, hvs, hq⟩ := Option.bind_eq_some_iff.mp hq
  obtain ⟨_, _, hq⟩ := Option.bind_eq_some_iff.mp hq
  obtain ⟨_, _, hq⟩ := Option.bind_eq_some_iff.mp hq
  cases hq
  exact ⟨names_reread 123 hjs hp.eq hvs, hp.nodup⟩

end Project

end Provision
