import Provision.Proofs.Workload.Documents

/-!
# Documents of projects

A project that was read, or made from one by adding workload files, is read back from the
text it is saved as, less the probes that are given as null.
-/

set_option autoImplicit false

namespace Provision

open Outcome Source

theorem Component.ofJson?_json (c : Component) : ofJson? c.json = some c := rfl

theorem Component.writable_json (c : Component) : c.json.Writable := by
  simp [json, members]

theorem LibraryEntry.ofJson?_json (e : LibraryEntry) : ofJson? e.json = some e := rfl

theorem LibraryEntry.writable_json (e : LibraryEntry) : e.json.Writable := by
  simp [json, Component.members]

namespace Project

/-- The project without the probes that are null. -/
def settled (p : Project) : Project := { p with workloads := p.workloads.map Workload.settled }

theorem settled_eq_iff (p : Project) : p.settled = p ↔ ∀ w ∈ p.workloads, w.settled = w := by
  have hworkloads : p.settled = p ↔ p.workloads.map Workload.settled = p.workloads.map id := by
    rw [List.map_id]
    constructor
    · intro h
      exact congrArg workloads h
    · intro h
      rw [settled, h]
  rw [hworkloads, List.map_inj_left]
  rfl

theorem settled_eq_iff_probes (p : Project) : p.settled = p ↔
    ∀ w ∈ p.workloads, ∀ e ∈ w.containers.entries,
      e.2.livenessProbe ≠ some .null ∧ e.2.readinessProbe ≠ some .null := by
  simp only [settled_eq_iff, Workload.settled_eq_iff, Container.settled_eq_iff]

/-- A project that is read from a document is settled. -/
theorem ofJson?_settled {j : Json} {p : Project} (h : ofJson? j = some p) : p.settled = p := by
  obtain ⟨fields, _, h⟩ := Option.bind_eq_some_iff.mp h
  obtain ⟨workloads, hw, h⟩ := Option.bind_eq_some_iff.mp h
  obtain ⟨_, _, h⟩ := Option.bind_eq_some_iff.mp h
  obtain ⟨_, _, h⟩ := Option.bind_eq_some_iff.mp h
  cases h
  rw [settled_eq_iff]
  refine Source.orElse_returns (m := Option)
    (P := fun ws : List Workload => ∀ w ∈ ws, w.settled = w) ?_ ?_ hw
  · intro part ws hws
    exact Source.list_returns (m := Option) Workload.decode_settled hws
  · simp

def members (p : Project) (workloads : List Json) : List (String × Json) :=
  [("workloads", .array workloads), ("default_workload_component", p.workloadComponent.json),
    ("resource_components", .array (p.library.map LibraryEntry.json))]

theorem exists_json {p : Project} {j : Json} (h : p.json = .ok j) :
    ∃ js, List.Forall₂ (fun w j => Workload.json w = .ok j) p.workloads js ∧
      j = .object (p.members js) := by
  obtain ⟨js, hjs, h⟩ := bind_eq_ok.mp h
  exact ⟨js, forall₂_of_mapM_eq_ok hjs, (pure_eq_ok.mp h).symm⟩

theorem writable_json {p : Project} {j : Json} (h : p.json = .ok j) : j.Writable := by
  obtain ⟨js, hjs, rfl⟩ := exists_json h
  have hworkloads := Json.writable_encoded hjs Workload.writable_json
  have hlibrary := Json.writable_items LibraryEntry.writable_json p.library
  rw [Json.writable_object]
  simp only [members, List.forall_mem_cons]
  exact ⟨hworkloads, p.workloadComponent.writable_json, hlibrary, nofun⟩

/-- The document of a project reads as the project, less its null probes. -/
theorem ofJson?_json {p : Project} {j : Json} (ho : p.Ordered) (h : p.json = .ok j) :
    ofJson? j = some p.settled := by
  obtain ⟨js, hjs, rfl⟩ := exists_json h
  have hall := (List.forall₂_and_left _ _).mpr ⟨ho, hjs⟩
  have hworkloads : orElse "workloads" [] (list Workload.decode) (p.members js) =
      some (p.workloads.map Workload.settled) :=
    mapM_read (hall.imp fun w j hw => Workload.decode_json hw.1 hw.2)
  have hlibrary : orElse "resource_components" [] (list LibraryEntry.ofJson?) (p.members js) =
      some p.library :=
    (list_written (fun e => ⟨by simp [LibraryEntry.json], e.ofJson?_json⟩) p.library).2
  have hfields : fields? (.object (p.members js)) = some (p.members js) := rfl
  have hcomponent : orElse "default_workload_component" empty.workloadComponent Component.ofJson?
      (p.members js) = some p.workloadComponent := p.workloadComponent.ofJson?_json
  simp only [ofJson?, hfields, Option.bind_eq_bind, Option.bind_some, hworkloads, hcomponent,
    hlibrary]
  rfl

theorem encode_eq_ok {p : Project} {text : String} (h : p.encode = .ok text) :
    ∃ j, p.json = .ok j ∧ text = j.pretty := by
  unfold encode at h
  split at h
  · next j hj => exact ⟨j, hj, (Except.ok.inj h).symm⟩
  · cases h

/-- What is read from a saved project. -/
theorem decode?_pretty {p : Project} {j : Json} (h : p.json = .ok j) :
    decode? (j.pretty ++ "\n") = ofJson? (j.reread Json.levels) := by
  have hblank : ∀ c ∈ "\n".toList, Json.isBlank c = true := by simp [Json.isBlank]
  rw [decode?, Json.read?_pretty j "\n" (writable_json h) hblank]
  rfl

/-- Projects that are read from a project file, and those that workload files are added to. -/
inductive Obtained : Project → Prop
  | read {text : String} {p : Project} (h : decode? text = some p) : Obtained p
  | add {text : String} {w : Workload} {p q : Project} (hp : Obtained p)
      (hw : Workload.parse text = .ok w) (h : p.upsert w = .ok q) : Obtained q

theorem Obtained.ordered {p : Project} (h : Obtained p) : p.Ordered := by
  induction h with
  | read h => exact decode?_ordered h
  | add _ hw h ih => exact upsert_ordered ih (Workload.parse_ordered hw) h

theorem decode?_saved {p : Project} {j : Json} (ho : p.Ordered) (h : p.json = .ok j)
    (hdepth : j.depth ≤ Json.levels) (hx : ∀ x ∈ j.doubles, x.readsBack = true) :
    decode? (j.pretty ++ "\n") = some p.settled := by
  rw [decode?_pretty h, Json.reread_eq j _ hdepth hx, ofJson?_json ho h]

/-- A project that has nothing but the component of its workloads is read back as it is. -/
theorem new_reads_back (component : Component) :
    ∃ text, encode ⟨[], component, []⟩ = .ok text ∧
      decode? (text ++ "\n") = some ⟨[], component, []⟩ := by
  have hj : json ⟨[], component, []⟩ = .ok (.object (members ⟨[], component, []⟩ [])) := rfl
  refine ⟨_, by rw [encode, hj], ?_⟩
  rw [decode?_pretty hj]
  rfl

/-- A project is read back from the text it is saved as, less the probes that are given as
null; so it is read back as it is when and only when none is. -/
theorem saved_reads_back (p : Project) (j : Json) (hp : Obtained p) (h : p.json = .ok j)
    (hdepth : j.depth ≤ 127) (hx : ∀ x ∈ j.doubles, x.readsBack = true) :
    ∃ text, p.encode = .ok text ∧ decode? (text ++ "\n") = some p.settled ∧
      (decode? (text ++ "\n") = some p ↔
        ∀ w ∈ p.workloads, ∀ e ∈ w.containers.entries,
          e.2.livenessProbe ≠ some .null ∧ e.2.readinessProbe ≠ some .null) := by
  have hencode : p.encode = .ok j.pretty := by rw [encode, h]
  have hread := decode?_saved hp.ordered h hdepth hx
  refine ⟨j.pretty, hencode, hread, ?_⟩
  rw [hread, Option.some_inj, settled_eq_iff_probes]

def ofFile? (file : String) : Option (Project × Json) := do
  let w ← (Workload.parse file).toOption
  let p ← (empty.upsert w).toOption
  let j ← p.json.toOption
  return (p, j)

theorem obtained_ofFile? {file : String} {p : Project} {j : Json}
    (h : ofFile? file = some (p, j)) : Obtained p ∧ p.json = .ok j := by
  obtain ⟨w, hw, h⟩ := Option.bind_eq_some_iff.mp h
  obtain ⟨q, hq, h⟩ := Option.bind_eq_some_iff.mp h
  obtain ⟨k, hk, h⟩ := Option.bind_eq_some_iff.mp h
  cases h
  have hempty : decode? "\x7b\x7d" = some empty := rfl
  rw [toOption_eq_some] at hw hq hk
  exact ⟨.add (.read hempty) hw hq, hk⟩

def nullProbes (p : Project) : Bool :=
  p.workloads.any fun w => w.containers.entries.any fun e =>
    e.2.livenessProbe.any Value.isNull || e.2.readinessProbe.any Value.isNull

theorem nullProbes_eq_false_iff (p : Project) : p.nullProbes = false ↔
    ∀ w ∈ p.workloads, ∀ e ∈ w.containers.entries,
      e.2.livenessProbe ≠ some .null ∧ e.2.readinessProbe ≠ some .null := by
  have hprobe : ∀ o : Option Value, o.any Value.isNull = false ↔ o ≠ some .null := by
    intro o
    cases o with
    | none => simp
    | some v => cases v <;> simp [Value.isNull]
  simp only [nullProbes, List.any_eq_false, Bool.not_eq_true, Bool.or_eq_false_iff, hprobe]

def tariffFile : String :=
  "metadata: \x7bname: shop, rate: 0.5\x7d\n" ++
  "containers: \x7bmain: \x7bimage: nginx, args: [], livenessProbe: \x7bevery: 10\x7d\x7d\x7d\n"

theorem saved_reads_back_tariff : ∃ p j, ofFile? tariffFile = some (p, j) ∧ j.doubles ≠ [] ∧
    ∃ text, p.encode = .ok text ∧ decode? (text ++ "\n") = some p := by
  have hfile : (ofFile? tariffFile).any (fun (p, j) => decide (j.depth ≤ 127) &&
      !j.doubles.isEmpty && j.doubles.all Double.readsBack && !p.nullProbes) = true := by
    decide +kernel
  obtain ⟨⟨p, j⟩, hp, hcheck⟩ := (Option.any_eq_true _ _).mp hfile
  obtain ⟨hobtained, hj⟩ := obtained_ofFile? hp
  simp only [Bool.and_eq_true, decide_eq_true_eq, Bool.not_eq_true', List.all_eq_true,
    List.isEmpty_eq_false_iff] at hcheck
  obtain ⟨⟨⟨hdepth, hne⟩, hx⟩, hprobes⟩ := hcheck
  obtain ⟨text, htext, -, hread⟩ := saved_reads_back p j hobtained hj hdepth hx
  exact ⟨p, j, hp, hne, text, htext, hread.mpr ((nullProbes_eq_false_iff p).mp hprobes)⟩

def nullProbeFile : String :=
  "metadata: \x7bname: shop\x7d\n" ++
  "containers: \x7bmain: \x7bimage: nginx, livenessProbe: !!null \"~\"\x7d\x7d\n"

theorem not_saved_reads_back : ∃ p j, ofFile? nullProbeFile = some (p, j) ∧ Obtained p ∧
    p.json = .ok j ∧ j.depth ≤ 127 ∧ j.doubles = [] ∧ decode? (j.pretty ++ "\n") ≠ some p := by
  have hfile : (ofFile? nullProbeFile).any (fun (p, j) => decide (j.depth ≤ 127) &&
      j.doubles.isEmpty && p.nullProbes) = true := by
    decide +kernel
  obtain ⟨⟨p, j⟩, hp, hcheck⟩ := (Option.any_eq_true _ _).mp hfile
  obtain ⟨hobtained, hj⟩ := obtained_ofFile? hp
  simp only [Bool.and_eq_true, decide_eq_true_eq, List.isEmpty_iff] at hcheck
  obtain ⟨⟨hdepth, hdoubles⟩, hnull⟩ := hcheck
  refine ⟨p, j, hp, hobtained, hj, hdepth, hdoubles, ?_⟩
  intro hread
  obtain ⟨k, -, hk⟩ := Option.bind_eq_some_iff.mp hread
  have hsettled := (settled_eq_iff_probes p).mp (ofJson?_settled hk)
  rw [(nullProbes_eq_false_iff p).mpr hsettled] at hnull
  cases hnull

end Project

end Provision
