import Provision.Json.Source
import Provision.Workload
import Provision.Yaml.Source

/-!
# Reading workloads

Each record is described once and can be read from any source.
-/

set_option autoImplicit false

namespace Provision

open Source

variable {ν : Type} {m : Type → Type} [Monad m] [Source ν m]

def Quantities.decode (part : ν) : m Quantities := do
  let fields ← record ["cpu", "memory"] part
  let cpu ← optional "cpu" text fields
  let memory ← optional "memory" text fields
  return { cpu, memory }

def Allotment.decode (part : ν) : m Allotment := do
  let fields ← record ["limits", "requests"] part
  let limits ← optional "limits" Quantities.decode fields
  let requests ← optional "requests" Quantities.decode fields
  return { limits, requests }

def MountedFile.decode (part : ν) : m MountedFile := do
  let fields ← record ["target", "mode", "source", "content", "noExpand"] part
  let target ← required "target" text fields
  let mode ← optional "mode" text fields
  let source ← optional "source" text fields
  let content ← optional "content" text fields
  let noExpand ← optional "noExpand" flag fields
  return { target, mode, source, content, noExpand }

def Volume.decode (part : ν) : m Volume := do
  let fields ← record ["source", "path", "target", "readOnly"] part
  let source ← required "source" text fields
  let path ← optional "path" text fields
  let target ← required "target" text fields
  let readOnly ← optional "readOnly" flag fields
  return { source, path, target, readOnly }

def Container.fieldNames : List String :=
  ["image", "command", "args", "variables", "files", "volumes", "resources", "livenessProbe",
    "readinessProbe"]

def Container.decode (part : ν) : m Container := do
  let fields ← record Container.fieldNames part
  let image ← required "image" text fields
  let command ← optional "command" (list text) fields
  let args ← optional "args" (list text) fields
  let environment ← optional "variables" (table text) fields
  let files ← optional "files" (list MountedFile.decode) fields
  let volumes ← optional "volumes" (list Volume.decode) fields
  let resources ← optional "resources" Allotment.decode fields
  let livenessProbe ← optional "livenessProbe" value fields
  let readinessProbe ← optional "readinessProbe" value fields
  return ⟨image, command, args, environment, files, volumes, resources, livenessProbe,
    readinessProbe⟩

def Port.decode (part : ν) : m Port := do
  let fields ← record ["port", "protocol", "targetPort"] part
  let port ← required "port" integer fields
  let protocol ← optional "protocol" text fields
  let targetPort ← optional "targetPort" integer fields
  return { port, protocol, targetPort }

def Service.decode (part : ν) : m Service := do
  let fields ← record ["ports"] part
  let ports ← orElse "ports" Table.empty (table Port.decode) fields
  return { ports }

def Resource.decode (part : ν) : m Resource := do
  let fields ← record ["type", "class", "id", "metadata", "params"] part
  let type ← required "type" text fields
  let cls ← optional "class" text fields
  let id ← optional "id" text fields
  let metadata ← optional "metadata" (table value) fields
  let params ← optional "params" (table value) fields
  return { type, cls, id, metadata, params }

def Workload.decode (part : ν) : m Workload := do
  let fields ← record ["apiVersion", "metadata", "containers", "service", "resources"] part
  let apiVersion ← orElse "apiVersion" "" text fields
  let metadata ← orElse "metadata" Table.empty (table value) fields
  let containers ← orElse "containers" Table.empty (table Container.decode) fields
  let service ← optional "service" Service.decode fields
  let resources ← orElse "resources" Table.empty (table Resource.decode) fields
  return { apiVersion, metadata, containers, service, resources }

def Workload.parse (text : String) : Except Error Workload := do
  match Yaml.read? Workload.decode text with
  | some w =>
    w.validate
    return w
  | none => .error .yaml

end Provision
