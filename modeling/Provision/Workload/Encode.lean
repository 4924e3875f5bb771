import Provision.Json
import Provision.Workload

/-!
# Writing workloads

Records are written as objects, fields in the order of their declaration. An
absent optional field is left out, and so are an empty version and an empty table
of resources.
-/

set_option autoImplicit false

namespace Provision

namespace Json

def member {α : Type} (name : String) (write : α → Json) : Option α → List (String × Json)
  | none => []
  | some x => [(name, write x)]

def ofTable {α : Type} (write : α → Json) (t : Table α) : Json :=
  object (Entries.mapValues write t.entries)

def texts (items : List String) : Json := array (items.map string)

def ofInt64 (i : Int64) : Json := int i.toInt

def encodeEntries {α : Type} (write : α → Except ShapeFault Json) :
    List (String × α) → Except ShapeFault (List (String × Json))
  | [] => .ok []
  | (k, x) :: rest => do
    let j ← write x
    let js ← encodeEntries write rest
    return (k, j) :: js

def encodeTable {α : Type} (write : α → Except ShapeFault Json) (t : Table α) :
    Except ShapeFault Json := do
  let members ← encodeEntries write t.entries
  return object members

def encodeMember {α : Type} (name : String) (write : α → Except ShapeFault Json) :
    Option α → Except ShapeFault (List (String × Json))
  | none => .ok []
  | some x => do
    let j ← write x
    return [(name, j)]

end Json

open Json

def Quantities.json (q : Quantities) : Json :=
  .object (member "cpu" string q.cpu ++ member "memory" string q.memory)

def Allotment.json (a : Allotment) : Json :=
  .object (member "limits" Quantities.json a.limits ++ member "requests" Quantities.json a.requests)

def MountedFile.json (f : MountedFile) : Json :=
  .object (("target", string f.target) :: member "mode" string f.mode
    ++ member "source" string f.source ++ member "content" string f.content
    ++ member "noExpand" bool f.noExpand)

def Volume.json (v : Volume) : Json :=
  .object (("source", string v.source) :: member "path" string v.path
    ++ ("target", string v.target) :: member "readOnly" bool v.readOnly)

def Container.json (c : Container) : Except ShapeFault Json := do
  let liveness ← encodeMember "livenessProbe" Value.json c.livenessProbe
  let readiness ← encodeMember "readinessProbe" Value.json c.readinessProbe
  return .object (("image", string c.image) :: member "command" texts c.command
    ++ member "args" texts c.args
    ++ member "variables" (ofTable string) c.environment
    ++ member "files" (fun fs => array (fs.map MountedFile.json)) c.files
    ++ member "volumes" (fun vs => array (vs.map Volume.json)) c.volumes
    ++ member "resources" Allotment.json c.resources
    ++ liveness ++ readiness)

def Port.json (p : Port) : Json :=
  .object (("port", ofInt64 p.port) :: member "protocol" string p.protocol
    ++ member "targetPort" ofInt64 p.targetPort)

def Service.json (s : Service) : Json := .object [("ports", ofTable Port.json s.ports)]

def Resource.json (r : Resource) : Except ShapeFault Json := do
  let metadata ← encodeMember "metadata" (encodeTable Value.json) r.metadata
  let params ← encodeMember "params" (encodeTable Value.json) r.params
  return .object (("type", string r.type) :: member "class" string r.cls
    ++ member "id" string r.id ++ metadata ++ params)

def Workload.json (w : Workload) : Except ShapeFault Json := do
  let metadata ← encodeTable Value.json w.metadata
  let containers ← encodeTable Container.json w.containers
  let resources ← encodeTable Resource.json w.resources
  return .object ((if w.apiVersion.isEmpty then [] else [("apiVersion", string w.apiVersion)])
    ++ [("metadata", metadata), ("containers", containers)]
    ++ member "service" Service.json w.service
    ++ (if w.resources.isEmpty then [] else [("resources", resources)]))

end Provision
