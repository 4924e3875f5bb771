import Provision.Proofs.Json.Record
import Provision.Proofs.Reading

/-!
# Documents of workloads

The document of a workload reads as the workload. Fields that are left out are those that
the reader has a default for, so nothing is lost, with one exception: a probe that is given
as null is written as null, and null stands for a probe that is not given. A workload
without such probes is settled.
-/

set_option autoImplicit false

namespace Provision

open Outcome Source

/-! ## Records without free-form values -/

namespace Quantities

def parts (q : Quantities) : List (String × Option Json) :=
  [("cpu", q.cpu.map .string), ("memory", q.memory.map .string)]

theorem filed (q : Quantities) : Json.Filed ["cpu", "memory"] q.parts q.json where
  eq := by simp only [json, parts, Json.given, Json.member_map, List.append_nil]
  keys := rfl
  nodup := by decide

theorem decode_json (q : Quantities) : q.json ≠ .null ∧ decode q.json = some q := by
  have hf := q.filed
  refine ⟨hf.ne_null, ?_⟩
  simp only [decode, hf.record, Option.bind_eq_bind, Option.bind_some,
    optional_written "cpu" q.cpu (hf.find? rfl) text_written,
    optional_written "memory" q.memory (hf.find? rfl) text_written]
  rfl

@[simp] theorem writable_json (q : Quantities) : q.json.Writable := by
  apply q.filed.writable
  simp [parts, Json.writablePart_map]

end Quantities

namespace Allotment

def parts (a : Allotment) : List (String × Option Json) :=
  [("limits", a.limits.map Quantities.json), ("requests", a.requests.map Quantities.json)]

theorem filed (a : Allotment) : Json.Filed ["limits", "requests"] a.parts a.json where
  eq := by simp only [json, parts, Json.given, Json.member_map, List.append_nil]
  keys := rfl
  nodup := by decide

theorem decode_json (a : Allotment) : a.json ≠ .null ∧ decode a.json = some a := by
  have hf := a.filed
  refine ⟨hf.ne_null, ?_⟩
  simp only [decode, hf.record, Option.bind_eq_bind, Option.bind_some,
    optional_written "limits" a.limits (hf.find? rfl) Quantities.decode_json,
    optional_written "requests" a.requests (hf.find? rfl) Quantities.decode_json]
  rfl

@[simp] theorem writable_json (a : Allotment) : a.json.Writable := by
  apply a.filed.writable
  simp [parts, Json.writablePart_map]

end Allotment

namespace MountedFile

def parts (f : MountedFile) : List (String × Option Json) :=
  [("target", some (.string f.target)), ("mode", f.mode.map .string),
    ("source", f.source.map .string), ("content", f.content.map .string),
    ("noExpand", f.noExpand.map .bool)]

theorem filed (f : MountedFile) :
    Json.Filed ["target", "mode", "source", "content", "noExpand"] f.parts f.json where
  eq := by
    simp only [json, parts, Json.given, Json.member_map, List.append_nil, List.append_assoc]
    rfl
  keys := rfl
  nodup := by decide

theorem decode_json (f : MountedFile) : f.json ≠ .null ∧ decode f.json = some f := by
  have hf := f.filed
  refine ⟨hf.ne_null, ?_⟩
  simp only [decode, hf.record, Option.bind_eq_bind, Option.bind_some,
    required_eq "target" (hf.find? rfl), (text_written f.target).2,
    optional_written "mode" f.mode (hf.find? rfl) text_written,
    optional_written "source" f.source (hf.find? rfl) text_written,
    optional_written "content" f.content (hf.find? rfl) text_written,
    optional_written "noExpand" f.noExpand (hf.find? rfl) flag_written]
  rfl

@[simp] theorem writable_json (f : MountedFile) : f.json.Writable := by
  apply f.filed.writable
  simp [parts, Json.writablePart_map]

end MountedFile

namespace Volume

def parts (v : Volume) : List (String × Option Json) :=
  [("source", some (.string v.source)), ("path", v.path.map .string),
    ("target", some (.string v.target)), ("readOnly", v.readOnly.map .bool)]

theorem filed (v : Volume) :
    Json.Filed ["source", "path", "target", "readOnly"] v.parts v.json where
  eq := by
    simp only [json, parts, Json.given, Json.member_map, List.append_nil]
    rfl
  keys := rfl
  nodup := by decide

theorem decode_json (v : Volume) : v.json ≠ .null ∧ decode v.json = some v := by
  have hf := v.filed
  refine ⟨hf.ne_null, ?_⟩
  simp only [decode, hf.record, Option.bind_eq_bind, Option.bind_some,
    required_eq "source" (hf.find? rfl), (text_written v.source).2,
    optional_written "path" v.path (hf.find? rfl) text_written,
    required_eq "target" (hf.find? rfl), (text_written v.target).2,
    optional_written "readOnly" v.readOnly (hf.find? rfl) flag_written]
  rfl

@[simp] theorem writable_json (v : Volume) : v.json.Writable := by
  apply v.filed.writable
  simp [parts, Json.writablePart_map]

end Volume

namespace Port

def parts (p : Port) : List (String × Option Json) :=
  [("port", some (.ofInt64 p.port)), ("protocol", p.protocol.map .string),
    ("targetPort", p.targetPort.map .ofInt64)]

theorem filed (p : Port) : Json.Filed ["port", "protocol", "targetPort"] p.parts p.json where
  eq := by
    simp only [json, parts, Json.given, Json.member_map, List.append_nil]
    rfl
  keys := rfl
  nodup := by decide

theorem decode_json (p : Port) : p.json ≠ .null ∧ decode p.json = some p := by
  have hf := p.filed
  refine ⟨hf.ne_null, ?_⟩
  simp only [decode, hf.record, Option.bind_eq_bind, Option.bind_some,
    required_eq "port" (hf.find? rfl), (integer_written p.port).2,
    optional_written "protocol" p.protocol (hf.find? rfl) text_written,
    optional_written "targetPort" p.targetPort (hf.find? rfl) integer_written]
  rfl

@[simp] theorem writable_json (p : Port) : p.json.Writable := by
  apply p.filed.writable
  simp [parts, Json.writablePart_map]

end Port

namespace Service

theorem filed (s : Service) :
    Json.Filed ["ports"] [("ports", some (Json.ofTable Port.json s.ports))] s.json where
  eq := rfl
  keys := rfl
  nodup := by decide

theorem decode_json (s : Service) : s.json ≠ .null ∧ decode s.json = some s := by
  have hf := s.filed
  refine ⟨hf.ne_null, ?_⟩
  simp only [decode, hf.record, Option.bind_eq_bind, Option.bind_some,
    orElse_eq "ports" (hf.find? rfl), (table_written Port.decode_json s.ports).2]
  rfl

@[simp] theorem writable_json (s : Service) : s.json.Writable := by
  apply s.filed.writable
  simp [Json.writable_ofTable]

end Service

/-! ## Free-form values -/

namespace Value

mutual

/-- An ordered value is read from its document. -/
theorem value?_json (v : Value) (j : Json) (ho : v.Ordered) (h : v.json = .ok j) :
    j.value? = some v := by
  match v with
  | .null => cases h; rfl
  | .bool _ => cases h; rfl
  | .int i =>
    cases h
    simp [Json.value?, int64?_toInt]
  | .float x =>
    simp only [json] at h
    split at h
    · cases h; rfl
    · cases h
  | .string _ => cases h; rfl
  | .list items =>
    obtain ⟨js, hj, h⟩ := bind_eq_ok.mp h
    cases pure_eq_ok.mp h
    rw [Json.value?, valueItems?_json items js ho hj, Option.map_some]
  | .map entries =>
    obtain ⟨js, hj, h⟩ := bind_eq_ok.mp h
    cases pure_eq_ok.mp h
    rw [Json.value?, valueMembers?_json entries js ho.2 hj, Option.map_some,
      Entries.ofList_of_ascending ho.1]

theorem valueItems?_json (vs : List Value) (js : List Json) (ho : OrderedItems vs)
    (h : jsonItems vs = .ok js) : Json.valueItems? js = some vs := by
  match vs with
  | [] => cases h; rfl
  | v :: rest =>
    obtain ⟨j, hj, h⟩ := bind_eq_ok.mp h
    obtain ⟨js, hjs, h⟩ := bind_eq_ok.mp h
    cases pure_eq_ok.mp h
    rw [Json.valueItems?, value?_json v j ho.1 hj, valueItems?_json rest js ho.2 hjs]
    rfl

theorem valueMembers?_json (es : List (String × Value)) (js : List (String × Json))
    (ho : OrderedEntries es) (h : jsonEntries es = .ok js) : Json.valueMembers? js = some es := by
  match es with
  | [] => cases h; rfl
  | (k, v) :: rest =>
    obtain ⟨j, hj, h⟩ := bind_eq_ok.mp h
    obtain ⟨js, hjs, h⟩ := bind_eq_ok.mp h
    cases pure_eq_ok.mp h
    rw [Json.valueMembers?, value?_json v j ho.1 hj, valueMembers?_json rest js ho.2 hjs]
    rfl

end

mutual

theorem writable_json (v : Value) (j : Json) (h : v.json = .ok j) : j.Writable := by
  match v with
  | .null => cases h; trivial
  | .bool _ => cases h; trivial
  | .int i =>
    cases h
    exact Json.writable_ofInt64 i
  | .float x =>
    simp only [json] at h
    split at h
    · next hx => cases h; exact hx
    · cases h
  | .string _ => cases h; trivial
  | .list items =>
    obtain ⟨js, hj, h⟩ := bind_eq_ok.mp h
    cases pure_eq_ok.mp h
    exact writable_jsonItems items js hj
  | .map entries =>
    obtain ⟨js, hj, h⟩ := bind_eq_ok.mp h
    cases pure_eq_ok.mp h
    exact writable_jsonEntries entries js hj

theorem writable_jsonItems (vs : List Value) (js : List Json) (h : jsonItems vs = .ok js) :
    Json.WritableItems js := by
  match vs with
  | [] => cases h; trivial
  | v :: rest =>
    obtain ⟨j, hj, h⟩ := bind_eq_ok.mp h
    obtain ⟨js, hjs, h⟩ := bind_eq_ok.mp h
    cases pure_eq_ok.mp h
    exact ⟨writable_json v j hj, writable_jsonItems rest js hjs⟩

theorem writable_jsonEntries (es : List (String × Value)) (js : List (String × Json))
    (h : jsonEntries es = .ok js) : Json.WritableMembers js := by
  match es with
  | [] => cases h; trivial
  | (k, v) :: rest =>
    obtain ⟨j, hj, h⟩ := bind_eq_ok.mp h
    obtain ⟨js, hjs, h⟩ := bind_eq_ok.mp h
    cases pure_eq_ok.mp h
    exact ⟨writable_json v j hj, writable_jsonEntries rest js hjs⟩

end

theorem json_eq_null (v : Value) (j : Json) (h : v.json = .ok j) :
    j = .null ↔ v.isNull = true := by
  cases v with
  | list items =>
    obtain ⟨js, -, h⟩ := bind_eq_ok.mp h
    cases pure_eq_ok.mp h
    simp [isNull]
  | map entries =>
    obtain ⟨js, -, h⟩ := bind_eq_ok.mp h
    cases pure_eq_ok.mp h
    simp [isNull]
  | float x =>
    simp only [json] at h
    split at h
    · cases h; simp [isNull]
    · cases h
  | null => cases h; simp [isNull]
  | bool b => cases h; simp [isNull]
  | int i => cases h; simp [isNull]
  | string s => cases h; simp [isNull]

theorem table_json {t : Table Value} {j : Json} (ho : OrderedEntries t.entries)
    (h : Json.encodeTable json t = .ok j) : j ≠ .null ∧ Source.table Source.value j = some t := by
  have hread := table_encoded (f := id) value?_json (orderedEntries_iff.mp ho) h
  rwa [Table.map_id] at hread

theorem writable_table (t : Table Value) (j : Json) (h : Json.encodeTable json t = .ok j) :
    j.Writable := by
  obtain ⟨ms, rfl, hms⟩ := Json.encodeTable_eq_ok h
  exact hms.writable writable_json

/-- A probe is read from its document unless it is null. -/
theorem probe_json (name : String) {fields : List (String × Json)} {o : Option Value}
    {part : Option Json} (h : Entries.find? name fields = part)
    (hrel : Option.Rel (fun v j => json v = .ok j) o part) (ho : ∀ v, o = some v → v.Ordered) :
    optional name Source.value fields = some (o.filter fun v => !v.isNull) := by
  cases hrel with
  | none => exact optional_none name h
  | @some v j hj =>
    have hnull := json_eq_null v j hj
    by_cases hv : v.isNull = true
    · rw [hnull.mpr hv] at h
      rw [optional_null name h]
      simp [Option.filter, hv]
    · have hvalue : Source.value j = some v := value?_json v j (ho v rfl) hj
      rw [optional_some name h fun hj => hv (hnull.mp hj), hvalue]
      simp [Option.filter, hv]

end Value

/-! ## Records with free-form values -/

theorem Json.value?_eq_null {j : Json} {v : Value} (h : j.value? = some v) (hv : v.isNull = true) :
    j = .null := by
  cases j with
  | null => rfl
  | int n =>
    obtain ⟨i, -, rfl⟩ := Option.map_eq_some_iff.mp h
    cases hv
  | array items =>
    obtain ⟨vs, -, rfl⟩ := Option.map_eq_some_iff.mp h
    cases hv
  | object members =>
    obtain ⟨es, -, rfl⟩ := Option.map_eq_some_iff.mp h
    cases hv
  | bool b => cases h; cases hv
  | float x => cases h; cases hv
  | string s => cases h; cases hv
  | beyond => cases h

/-- A probe of a document is never null. -/
theorem Value.probe_not_null (name : String) {fields : List (String × Json)} {o : Option Value}
    (h : optional name Source.value fields = some o) : o.filter (fun v => !v.isNull) = o := by
  cases hfind : Entries.find? name fields with
  | none =>
    rw [optional_none name hfind] at h
    cases h
    rfl
  | some j =>
    by_cases hj : j = .null
    · subst hj
      rw [optional_null name hfind] at h
      cases h
      rfl
    · rw [optional_some name hfind hj] at h
      obtain ⟨v, hv, rfl⟩ := Option.map_eq_some_iff.mp h
      have hnull : v.isNull ≠ true := fun hn => hj (Json.value?_eq_null hv hn)
      simp [Option.filter, hnull]

namespace Container

def settled (c : Container) : Container :=
  { c with
    livenessProbe := c.livenessProbe.filter fun v => !v.isNull
    readinessProbe := c.readinessProbe.filter fun v => !v.isNull }

theorem probe_kept (o : Option Value) : (o.filter fun v => !v.isNull) = o ↔ o ≠ some .null := by
  cases o with
  | none => simp
  | some v => cases v <;> simp [Option.filter, Value.isNull]

theorem settled_eq_iff (c : Container) :
    c.settled = c ↔ c.livenessProbe ≠ some .null ∧ c.readinessProbe ≠ some .null := by
  rw [← probe_kept, ← probe_kept]
  constructor
  · intro h
    exact ⟨congrArg livenessProbe h, congrArg readinessProbe h⟩
  · rintro ⟨hl, hr⟩
    rw [settled, hl, hr]

/-- A container that is read from a document is settled. -/
theorem decode_settled (j : Json) (c : Container) (h : decode j = some c) : c.settled = c := by
  unfold decode at h
  iterate 8 obtain ⟨_, _, h⟩ := Option.bind_eq_some_iff.mp h
  obtain ⟨live, hl, h⟩ := Option.bind_eq_some_iff.mp h
  obtain ⟨ready, hr, h⟩ := Option.bind_eq_some_iff.mp h
  cases h
  rw [settled, Value.probe_not_null _ hl, Value.probe_not_null _ hr]

def parts (c : Container) (liveness readiness : Option Json) : List (String × Option Json) :=
  [("image", some (.string c.image)), ("command", c.command.map .texts),
    ("args", c.args.map .texts), ("variables", c.environment.map (.ofTable .string)),
    ("files", c.files.map fun fs => .array (fs.map MountedFile.json)),
    ("volumes", c.volumes.map fun vs => .array (vs.map Volume.json)),
    ("resources", c.resources.map Allotment.json), ("livenessProbe", liveness),
    ("readinessProbe", readiness)]

theorem filed {c : Container} {j : Json} (h : c.json = .ok j) :
    ∃ liveness readiness, Option.Rel (fun v j => Value.json v = .ok j) c.livenessProbe liveness ∧
      Option.Rel (fun v j => Value.json v = .ok j) c.readinessProbe readiness ∧
      Json.Filed fieldNames (c.parts liveness readiness) j := by
  obtain ⟨live, hl, h⟩ := bind_eq_ok.mp h
  obtain ⟨ready, hr, h⟩ := bind_eq_ok.mp h
  cases pure_eq_ok.mp h
  obtain ⟨liveness, rfl, hlive⟩ := Json.encodeMember_eq_ok hl
  obtain ⟨readiness, rfl, hready⟩ := Json.encodeMember_eq_ok hr
  refine ⟨liveness, readiness, hlive, hready, ⟨?_, rfl, by decide⟩⟩
  simp only [parts, Json.given, Json.member_map, List.append_nil, List.append_assoc]
  rfl

theorem decode_json {c : Container} {j : Json}
    (ho : ∀ v, c.livenessProbe = some v ∨ c.readinessProbe = some v → v.Ordered)
    (h : c.json = .ok j) : decode j = some c.settled := by
  obtain ⟨liveness, readiness, hl, hr, hf⟩ := filed h
  simp only [decode, hf.record, Option.bind_eq_bind, Option.bind_some,
    required_eq "image" (hf.find? rfl), (text_written c.image).2,
    optional_written "command" c.command (hf.find? rfl) (list_written text_written),
    optional_written "args" c.args (hf.find? rfl) (list_written text_written),
    optional_written "variables" c.environment (hf.find? rfl) (table_written text_written),
    optional_written "files" c.files (hf.find? rfl) (list_written MountedFile.decode_json),
    optional_written "volumes" c.volumes (hf.find? rfl) (list_written Volume.decode_json),
    optional_written "resources" c.resources (hf.find? rfl) Allotment.decode_json,
    Value.probe_json "livenessProbe" (hf.find? rfl) hl fun v hv => ho v (.inl hv),
    Value.probe_json "readinessProbe" (hf.find? rfl) hr fun v hv => ho v (.inr hv)]
  rfl

theorem writable_json (c : Container) (j : Json) (h : c.json = .ok j) : j.Writable := by
  obtain ⟨liveness, readiness, hl, hr, hf⟩ := filed h
  have hlive := Json.writablePart_of_rel hl Value.writable_json
  have hready := Json.writablePart_of_rel hr Value.writable_json
  have htexts : ∀ items, (Json.texts items).Writable :=
    Json.writable_items Json.writable_string
  apply hf.writable
  simp [parts, hlive, hready, htexts, Json.writablePart_map, Json.writable_ofTable]

end Container

namespace Resource

def parts (r : Resource) (metadata params : Option Json) : List (String × Option Json) :=
  [("type", some (.string r.type)), ("class", r.cls.map .string), ("id", r.id.map .string),
    ("metadata", metadata), ("params", params)]

theorem filed {r : Resource} {j : Json} (h : r.json = .ok j) :
    ∃ metadata params,
      Option.Rel (fun t j => Json.encodeTable Value.json t = .ok j) r.metadata metadata ∧
      Option.Rel (fun t j => Json.encodeTable Value.json t = .ok j) r.params params ∧
      Json.Filed ["type", "class", "id", "metadata", "params"] (r.parts metadata params) j := by
  obtain ⟨_, hm, h⟩ := bind_eq_ok.mp h
  obtain ⟨_, hp, h⟩ := bind_eq_ok.mp h
  cases pure_eq_ok.mp h
  obtain ⟨metadata, rfl, hmeta⟩ := Json.encodeMember_eq_ok hm
  obtain ⟨params, rfl, hparams⟩ := Json.encodeMember_eq_ok hp
  refine ⟨metadata, params, hmeta, hparams, ⟨?_, rfl, by decide⟩⟩
  simp only [parts, Json.given, Json.member_map, List.append_nil, List.append_assoc]
  rfl

theorem tables_json (name : String) {fields : List (String × Json)} {o : Option (Table Value)}
    {part : Option Json} (h : Entries.find? name fields = part)
    (hrel : Option.Rel (fun t j => Json.encodeTable Value.json t = .ok j) o part)
    (ho : ∀ t, o = some t → Value.OrderedEntries t.entries) :
    optional name (table Source.value) fields = some o := by
  apply optional_read name h
  cases hrel with
  | none => exact .none
  | some hj => exact .some (Value.table_json (ho _ rfl) hj)

theorem decode_json {r : Resource} {j : Json}
    (ho : ∀ t, r.metadata = some t ∨ r.params = some t → Value.OrderedEntries t.entries)
    (h : r.json = .ok j) : decode j = some r := by
  obtain ⟨metadata, params, hm, hp, hf⟩ := filed h
  simp only [decode, hf.record, Option.bind_eq_bind, Option.bind_some,
    required_eq "type" (hf.find? rfl), (text_written r.type).2,
    optional_written "class" r.cls (hf.find? rfl) text_written,
    optional_written "id" r.id (hf.find? rfl) text_written,
    tables_json "metadata" (hf.find? rfl) hm fun t ht => ho t (.inl ht),
    tables_json "params" (hf.find? rfl) hp fun t ht => ho t (.inr ht)]
  rfl

theorem writable_json (r : Resource) (j : Json) (h : r.json = .ok j) : j.Writable := by
  obtain ⟨metadata, params, hm, hp, hf⟩ := filed h
  have hmeta := Json.writablePart_of_rel hm Value.writable_table
  have hparams := Json.writablePart_of_rel hp Value.writable_table
  apply hf.writable
  simp [parts, hmeta, hparams, Json.writablePart_map]

end Resource

namespace Workload

def settled (w : Workload) : Workload :=
  { w with containers := w.containers.map Container.settled }

theorem settled_eq_iff (w : Workload) :
    w.settled = w ↔ ∀ e ∈ w.containers.entries, e.2.settled = e.2 := by
  have hentries : w.settled = w ↔
      Entries.mapValues Container.settled w.containers.entries = w.containers.entries := by
    constructor
    · intro h
      exact congrArg (fun w => w.containers.entries) h
    · intro h
      have htable : w.containers.map Container.settled = w.containers := Table.ext_entries h
      rw [settled, htable]
  rw [hentries, Entries.mapValues]
  constructor
  · intro h e he
    have heq := List.map_inj_left.mp (h.trans (List.map_id _).symm) e he
    exact congrArg Prod.snd heq
  · intro h
    have hid : ∀ e ∈ w.containers.entries, (e.1, e.2.settled) = id e :=
      fun e he => Prod.ext rfl (h e he)
    rw [List.map_congr_left hid, List.map_id]

/-- A workload that is read from a document is settled. -/
theorem decode_settled (j : Json) (w : Workload) (h : decode j = some w) : w.settled = w := by
  unfold decode at h
  iterate 3 obtain ⟨_, _, h⟩ := Option.bind_eq_some_iff.mp h
  obtain ⟨containers, hc, h⟩ := Option.bind_eq_some_iff.mp h
  iterate 2 obtain ⟨_, _, h⟩ := Option.bind_eq_some_iff.mp h
  cases h
  rw [settled_eq_iff]
  exact Source.tableOrEmpty_returns (m := Option) Container.decode_settled hc

def parts (w : Workload) (metadata containers resources : Json) : List (String × Option Json) :=
  [("apiVersion", if w.apiVersion.isEmpty then none else some (.string w.apiVersion)),
    ("metadata", some metadata), ("containers", some containers),
    ("service", w.service.map Service.json),
    ("resources", if w.resources.isEmpty then none else some resources)]

theorem filed {w : Workload} {j : Json} (h : w.json = .ok j) :
    ∃ metadata containers resources, Json.encodeTable Value.json w.metadata = .ok metadata ∧
      Json.encodeTable Container.json w.containers = .ok containers ∧
      Json.encodeTable Resource.json w.resources = .ok resources ∧
      Json.Filed ["apiVersion", "metadata", "containers", "service", "resources"]
        (w.parts metadata containers resources) j := by
  obtain ⟨metadata, hm, h⟩ := bind_eq_ok.mp h
  obtain ⟨containers, hc, h⟩ := bind_eq_ok.mp h
  obtain ⟨resources, hr, h⟩ := bind_eq_ok.mp h
  cases pure_eq_ok.mp h
  refine ⟨metadata, containers, resources, hm, hc, hr, ⟨?_, rfl, by decide⟩⟩
  simp only [parts, Json.given, Json.member_map, List.append_nil, List.append_assoc]
  split <;> split <;> rfl

/-- The document of a workload reads as the workload, less its null probes. -/
theorem decode_json {w : Workload} {j : Json} (ho : w.Ordered) (h : w.json = .ok j) :
    decode j = some w.settled := by
  obtain ⟨metadata, containers, resources, hm, hc, hr, hf⟩ := filed h
  have hversion : orElse "apiVersion" "" Source.text
      (Json.given (w.parts metadata containers resources)) = some w.apiVersion :=
    orElse_unless "apiVersion" (hf.find? rfl) String.isEmpty_iff.mp (text_written w.apiVersion).2
  have hmeta := (Value.table_json ho.metadata hm).2
  have hcontainers := (table_encoded (fun _ _ => Container.decode_json) ho.probes hc).2
  have hread := (table_encoded (f := id) (fun _ _ => Resource.decode_json) ho.resources hr).2
  rw [Table.map_id] at hread
  have hresources : orElse "resources" Table.empty (table Resource.decode)
      (Json.given (w.parts metadata containers resources)) = some w.resources :=
    orElse_unless "resources" (hf.find? rfl) Table.isEmpty_iff.mp hread
  simp only [decode, hf.record, Option.bind_eq_bind, Option.bind_some, hversion,
    orElse_eq "metadata" (hf.find? rfl), hmeta, orElse_eq "containers" (hf.find? rfl),
    hcontainers, optional_written "service" w.service (hf.find? rfl) Service.decode_json,
    hresources]
  rfl

theorem writable_json (w : Workload) (j : Json) (h : w.json = .ok j) : j.Writable := by
  obtain ⟨metadata, containers, resources, hm, hc, hr, hf⟩ := filed h
  have hmeta := Value.writable_table w.metadata metadata hm
  obtain ⟨cs, rfl, hcs⟩ := Json.encodeTable_eq_ok hc
  have hcontainers := hcs.writable Container.writable_json
  obtain ⟨rs, rfl, hrs⟩ := Json.encodeTable_eq_ok hr
  have hresources := hrs.writable Resource.writable_json
  have hpart : ∀ (left : Bool) (j : Json), j.Writable →
      Json.WritablePart (if left then none else some j) := by
    intro left j hj
    cases left <;> simp [Json.WritablePart, hj]
  apply hf.writable
  simp only [parts, List.forall_mem_cons, Json.writablePart_some]
  exact ⟨hpart _ _ (Json.writable_string _), hmeta, hcontainers,
    Json.writablePart_map Service.writable_json _, hpart _ _ hresources, nofun⟩

end Workload

end Provision
