import Provision.Proofs.Json.Faithful
import Provision.Proofs.Workload.Documents
import Provision.Workload.Params

/-!
# What the parameters of a workload tell

The parameters of a workload tell its metadata, its containers and its service: workloads that
differ in one of these have different parameters. An optional field that is not given has no
entry in the tree, while one that is given as empty has, and so they can be told apart. The
slots of a record are its optional fields and those of the records in it.
-/

set_option autoImplicit false

namespace Provision

open Outcome Json

/-! ## Records without free-form values -/

namespace Quantities

def slots (q : Quantities) : List Slot :=
  Slot.field "cpu" Slot.leaf q.cpu ++ Slot.field "memory" Slot.leaf q.memory

theorem faithful : Faithful (Written json) slots where
  unique := by
    rintro ⟨_, _⟩ ⟨_, _⟩ _ _ v rfl rfl hp hq
    have hp := (filed _).spread hp
    have hq := (filed _).spread hq
    rw [mk.injEq]
    exact ⟨faithful_string.optional "cpu" hp hq rfl rfl,
      faithful_string.optional "memory" hp hq rfl rfl⟩
  shown := by
    rintro q _ v rfl h
    have h := q.filed.spread h
    simp only [slots, List.forall_mem_append]
    exact ⟨faithful_string.shown_field "cpu" h rfl, faithful_string.shown_field "memory" h rfl⟩

end Quantities

namespace Allotment

def slots (a : Allotment) : List Slot :=
  Slot.field "limits" Quantities.slots a.limits ++ Slot.field "requests" Quantities.slots a.requests

theorem faithful : Faithful (Written json) slots where
  unique := by
    rintro ⟨_, _⟩ ⟨_, _⟩ _ _ v rfl rfl hp hq
    have hp := (filed _).spread hp
    have hq := (filed _).spread hq
    rw [mk.injEq]
    exact ⟨Quantities.faithful.optional "limits" hp hq rfl rfl,
      Quantities.faithful.optional "requests" hp hq rfl rfl⟩
  shown := by
    rintro a _ v rfl h
    have h := a.filed.spread h
    simp only [slots, List.forall_mem_append]
    exact ⟨Quantities.faithful.shown_field "limits" h rfl,
      Quantities.faithful.shown_field "requests" h rfl⟩

end Allotment

namespace MountedFile

def slots (f : MountedFile) : List Slot :=
  Slot.field "mode" Slot.leaf f.mode ++ (Slot.field "source" Slot.leaf f.source ++
    (Slot.field "content" Slot.leaf f.content ++ Slot.field "noExpand" Slot.leaf f.noExpand))

theorem faithful : Faithful (Written json) slots where
  unique := by
    rintro ⟨_, _, _, _, _⟩ ⟨_, _, _, _, _⟩ _ _ v rfl rfl hp hq
    have hp := (filed _).spread hp
    have hq := (filed _).spread hq
    rw [mk.injEq]
    exact ⟨faithful_string.required "target" hp hq rfl rfl,
      faithful_string.optional "mode" hp hq rfl rfl,
      faithful_string.optional "source" hp hq rfl rfl,
      faithful_string.optional "content" hp hq rfl rfl,
      faithful_bool.optional "noExpand" hp hq rfl rfl⟩
  shown := by
    rintro f _ v rfl h
    have h := f.filed.spread h
    simp only [slots, List.forall_mem_append]
    exact ⟨faithful_string.shown_field "mode" h rfl, faithful_string.shown_field "source" h rfl,
      faithful_string.shown_field "content" h rfl, faithful_bool.shown_field "noExpand" h rfl⟩

end MountedFile

namespace Volume

def slots (v : Volume) : List Slot :=
  Slot.field "path" Slot.leaf v.path ++ Slot.field "readOnly" Slot.leaf v.readOnly

theorem faithful : Faithful (Written json) slots where
  unique := by
    rintro ⟨_, _, _, _⟩ ⟨_, _, _, _⟩ _ _ v rfl rfl hp hq
    have hp := (filed _).spread hp
    have hq := (filed _).spread hq
    rw [mk.injEq]
    exact ⟨faithful_string.required "source" hp hq rfl rfl,
      faithful_string.optional "path" hp hq rfl rfl,
      faithful_string.required "target" hp hq rfl rfl,
      faithful_bool.optional "readOnly" hp hq rfl rfl⟩
  shown := by
    rintro volume _ v rfl h
    have h := volume.filed.spread h
    simp only [slots, List.forall_mem_append]
    exact ⟨faithful_string.shown_field "path" h rfl, faithful_bool.shown_field "readOnly" h rfl⟩

end Volume

namespace Port

def slots (p : Port) : List Slot :=
  Slot.field "protocol" Slot.leaf p.protocol ++ Slot.field "targetPort" Slot.leaf p.targetPort

theorem faithful : Faithful (Written json) slots where
  unique := by
    rintro ⟨_, _, _⟩ ⟨_, _, _⟩ _ _ v rfl rfl hp hq
    have hp := (filed _).spread hp
    have hq := (filed _).spread hq
    rw [mk.injEq]
    exact ⟨faithful_ofInt64.required "port" hp hq rfl rfl,
      faithful_string.optional "protocol" hp hq rfl rfl,
      faithful_ofInt64.optional "targetPort" hp hq rfl rfl⟩
  shown := by
    rintro p _ v rfl h
    have h := p.filed.spread h
    simp only [slots, List.forall_mem_append]
    exact ⟨faithful_string.shown_field "protocol" h rfl,
      faithful_ofInt64.shown_field "targetPort" h rfl⟩

end Port

namespace Service

def slots (s : Service) : List Slot := Slot.under (.key "ports") (Slot.entries Port.slots s.ports)

theorem faithful : Faithful (Written json) slots where
  unique := by
    rintro ⟨_⟩ ⟨_⟩ _ _ v rfl rfl hp hq
    have hp := (filed _).spread hp
    have hq := (filed _).spread hq
    rw [mk.injEq]
    exact Port.faithful.ofTable.required "ports" hp hq rfl rfl
  shown := by
    rintro s _ v rfl h
    have h := s.filed.spread h
    exact Slot.shown_part (Port.faithful.ofTable.shown_part (.some rfl) (h rfl))

end Service

/-! ## Records with free-form values -/

namespace Container

def slots (c : Container) : List Slot :=
  Slot.field "command" Slot.leaf c.command ++ (Slot.field "args" Slot.leaf c.args ++
    (Slot.field "variables" Slot.leaf c.environment ++
      (Slot.field "files" (Slot.items MountedFile.slots) c.files ++
        (Slot.field "volumes" (Slot.items Volume.slots) c.volumes ++
          (Slot.field "resources" Allotment.slots c.resources ++
            (Slot.field "livenessProbe" Slot.leaf c.livenessProbe ++
              Slot.field "readinessProbe" Slot.leaf c.readinessProbe))))))

structure Encoded (c : Container) (j : Json) : Prop where
  probes : ∀ v, c.livenessProbe = some v ∨ c.readinessProbe = some v → v.Ordered
  json : c.json = .ok j

theorem rel_free {o : Option Value} {part : Option Json}
    (h : Option.Rel (fun v j => Value.json v = .ok j) o part)
    (ho : ∀ v, o = some v → v.Ordered) : Option.Rel Free o part := by
  cases h with
  | none => exact .none
  | some hj => exact .some ⟨ho _ rfl, hj⟩

theorem Encoded.filed {c : Container} {j : Json} (h : c.Encoded j) :
    ∃ liveness readiness, Option.Rel Free c.livenessProbe liveness ∧
      Option.Rel Free c.readinessProbe readiness ∧
      Filed fieldNames (c.parts liveness readiness) j := by
  obtain ⟨liveness, readiness, hl, hr, hf⟩ := Container.filed h.json
  exact ⟨liveness, readiness, rel_free hl fun v hv => h.probes v (.inl hv),
    rel_free hr fun v hv => h.probes v (.inr hv), hf⟩

theorem faithful : Faithful Encoded slots where
  unique := by
    intro c d i j v hc hd hi hj
    obtain ⟨liveness, readiness, hl, hr, hf⟩ := hc.filed
    obtain ⟨liveness', readiness', hl', hr', hf'⟩ := hd.filed
    have hp := hf.spread hi
    have hq := hf'.spread hj
    -- a probe may look like a record or be null, so it is told as a whole
    have hlive := faithful_free.unique_part hl hl' (@hp "livenessProbe" _ rfl) (hq rfl)
    have hready := faithful_free.unique_part hr hr' (@hp "readinessProbe" _ rfl) (hq rfl)
    obtain ⟨_, _, _, _, _, _, _, _, _⟩ := c
    obtain ⟨_, _, _, _, _, _, _, _, _⟩ := d
    rw [mk.injEq]
    exact ⟨faithful_string.required "image" hp hq rfl rfl,
      faithful_texts.optional "command" hp hq rfl rfl,
      faithful_texts.optional "args" hp hq rfl rfl,
      faithful_string.ofTable.optional "variables" hp hq rfl rfl,
      MountedFile.faithful.array.optional "files" hp hq rfl rfl,
      Volume.faithful.array.optional "volumes" hp hq rfl rfl,
      Allotment.faithful.optional "resources" hp hq rfl rfl, hlive, hready⟩
  shown := by
    intro c j v hc hj
    obtain ⟨liveness, readiness, hl, hr, hf⟩ := hc.filed
    have h := hf.spread hj
    simp only [slots, List.forall_mem_append]
    exact ⟨faithful_texts.shown_field "command" h rfl, faithful_texts.shown_field "args" h rfl,
      faithful_string.ofTable.plain.shown_field "variables" h rfl,
      MountedFile.faithful.array.shown_field "files" h rfl,
      Volume.faithful.array.shown_field "volumes" h rfl,
      Allotment.faithful.shown_field "resources" h rfl,
      Slot.shown_field (faithful_free.shown_part hl (h rfl)),
      Slot.shown_field (faithful_free.shown_part hr (h rfl))⟩

end Container

namespace Workload

def slots (w : Workload) : List Slot :=
  Slot.under (.key "containers") (Slot.entries Container.slots w.containers) ++
    Slot.field "service" Service.slots w.service

variable {w : Workload} {ps : Table Value}

theorem treeOf_eq_ok {path : String} {doc : Except ShapeFault Json} {v : Value}
    (h : treeOf path doc = .ok v) : ∃ j, doc = .ok j ∧ Denotes j v := by
  cases doc with
  | ok j => exact ⟨j, rfl, path, h⟩
  | error cause => cases h

/-- The documents that the containers and the service are read from. -/
theorem params_denotes (h : w.params = .ok ps) :
    (∃ j v, encodeTable Container.json w.containers = .ok j ∧ Denotes j v ∧
      ps.find? "containers" = some v) ∧
    Option.Rel Denotes (w.service.map Service.json) (ps.find? "service") := by
  obtain ⟨metadata, -, h⟩ := bind_eq_ok.mp h
  obtain ⟨containers, hc, h⟩ := bind_eq_ok.mp h
  obtain ⟨j, hj, hv⟩ := treeOf_eq_ok hc
  have hbase : ∀ key, (Table.ofList [("metadata", metadata), ("containers", containers)]).find?
      key = Entries.find? key [("containers", containers), ("metadata", metadata)] :=
    fun key => Entries.find?_ofList key _
  cases hs : w.service with
  | none =>
    rw [hs] at h
    cases pure_eq_ok.mp h
    refine ⟨⟨j, containers, hj, hv, hbase _⟩, ?_⟩
    rw [hbase]
    exact .none
  | some s =>
    rw [hs] at h
    obtain ⟨service, htree, h⟩ := bind_eq_ok.mp h
    cases pure_eq_ok.mp h
    refine ⟨⟨j, containers, hj, hv, ?_⟩, ?_⟩
    · rw [Table.find?_insert_ne _ _ (by decide)]
      exact hbase _
    · rw [Table.find?_insert, if_pos rfl]
      exact .some ⟨"service", htree⟩

/-- The containers in the parameters of an ordered workload. -/
theorem params_containers (ho : w.Ordered) (h : w.params = .ok ps) :
    ∃ j v, Tabled Container.Encoded w.containers j ∧ Denotes j v ∧
      ps.find? "containers" = some v := by
  obtain ⟨⟨j, v, hj, hv, hfind⟩, -⟩ := params_denotes h
  obtain ⟨ms, rfl, hms⟩ := encodeTable_eq_ok hj
  exact ⟨_, v, ⟨ms, rfl, hms.imp ho.probes fun _ _ => .mk⟩, hv, hfind⟩

/-- What the parameters of workloads have in common, the workloads have. -/
theorem params_unique {w₁ w₂ : Workload} (h₁ : w₁.Ordered) (h₂ : w₂.Ordered)
    (hp₁ : w₁.params = .ok ps) (hp₂ : w₂.params = .ok ps) :
    w₂.metadata = w₁.metadata ∧ w₂.containers = w₁.containers ∧ w₂.service = w₁.service := by
  refine ⟨?_, ?_, ?_⟩
  · have hmeta := (find?_metadata_params h₂ hp₂).symm.trans (find?_metadata_params h₁ hp₁)
    exact Table.ext_entries (Value.map.inj (Option.some.inj hmeta))
  · obtain ⟨j, v, hj, hv, hfind⟩ := params_containers h₁ hp₁
    obtain ⟨j', v', hj', hv', hfind'⟩ := params_containers h₂ hp₂
    cases hfind.symm.trans hfind'
    exact Container.faithful.tabled.unique hj' hj hv' hv
  · exact Service.faithful.unique_part (rel_written _ _) (rel_written _ _)
      (params_denotes hp₂).2 (params_denotes hp₁).2

theorem params_shown (ho : w.Ordered) (h : w.params = .ok ps) :
    ∀ s ∈ w.slots, s.Shown (.map ps.entries) := by
  obtain ⟨j, v, hj, hv, hfind⟩ := params_containers ho h
  simp only [slots, List.forall_mem_append]
  exact ⟨Slot.shown_under hfind (Container.faithful.tabled.shown hj hv),
    Slot.shown_field (Service.faithful.shown_part (rel_written _ _) (params_denotes h).2)⟩

/-- Two workloads have the same parameters exactly if they have the same metadata, the same
containers and the same service, and an optional field has an entry in the parameters exactly
if it is given. -/
theorem params_lossless {w₁ w₂ : Workload} {ps : Table Value} (h₁ : w₁.Ordered) (h₂ : w₂.Ordered)
    (hp : w₁.params = .ok ps) :
    (w₂.params = .ok ps ↔ w₂.metadata = w₁.metadata ∧ w₂.containers = w₁.containers ∧
      w₂.service = w₁.service) ∧
    ∀ s ∈ w₁.slots, ((Value.map ps.entries).at? s.steps).isSome = s.given := by
  refine ⟨⟨params_unique h₁ h₂ hp, ?_⟩, params_shown h₁ hp⟩
  rintro ⟨hm, hc, hs⟩
  rw [← hp, params, params, hm, hc, hs]

/-- A workload with fields that are given as empty, or as null, beside fields that are not given. -/
def sparse (version : String) (command : Option (List String)) : Workload :=
  ⟨version, Table.ofList [("labels", .map []), ("name", .string "shop")],
    Table.ofList [("main", ⟨"nginx", command, none, some Table.empty,
      some [⟨"/etc/motd", none, none, some "", some false⟩], none, some ⟨some ⟨none, none⟩, none⟩,
      some .null, none⟩)],
    some ⟨Table.ofList [("http", ⟨80, none, some 8080⟩)]⟩, Table.empty⟩

theorem sparse_ordered (version : String) (command : Option (List String)) :
    (sparse version command).Ordered := by
  refine ⟨⟨⟨List.Pairwise.nil, trivial⟩, trivial, trivial⟩, ?_, ?_⟩
  · intro e he v hv
    cases List.mem_singleton.mp he
    rcases hv with hv | hv
    · cases hv
      trivial
    · cases hv
  · intro e he
    cases he

def sparseFields : List (List String × Bool) :=
  [(["command"], true), (["args"], false), (["livenessProbe"], true), (["readinessProbe"], false),
    (["resources", "limits"], true), (["resources", "limits", "cpu"], false),
    (["resources", "requests"], false)]

theorem params_lossless_sparse :
    ∃ ps, (sparse "" (some [])).params = .ok ps ∧ (sparse "v1" (some [])).params = .ok ps ∧
      (sparse "" none).params ≠ .ok ps ∧
      ∀ f ∈ sparseFields, ((Value.map ps.entries).at?
        (.key "containers" :: .key "main" :: f.1.map .key)).isSome = f.2 := by
  obtain ⟨ps, hp⟩ := @exists_eq_ok _ _ (sparse "" (some [])).params (by decide +kernel)
  have hversion := (params_lossless (sparse_ordered _ _) (sparse_ordered "v1" (some [])) hp).1
  obtain ⟨hnone, hslots⟩ := params_lossless (sparse_ordered _ _) (sparse_ordered "" none) hp
  refine ⟨ps, hp, hversion.mpr ⟨rfl, rfl, rfl⟩, ?_, ?_⟩
  · intro h
    have hmain := congrArg (Table.find? · "main") (hnone.mp h).2.1
    cases hmain
  · have hplaces : ∀ f ∈ sparseFields,
        ⟨.key "containers" :: .key "main" :: f.1.map .key, f.2⟩ ∈ (sparse "" (some [])).slots := by
      decide
    intro f hf
    exact hslots _ (hplaces f hf)

end Workload

end Provision
