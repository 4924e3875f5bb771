import Provision.Json.Reader
import Provision.Json.Writer
import Provision.Project
import Provision.Workload.Decode
import Provision.Workload.Encode

/-!
# Project files

A project file is a JSON document. Unlike other records, a project takes no
unknown fields. A library entry lists the fields of its component beside its own
and is always an object whose members all denote something.
-/

set_option autoImplicit false

namespace Provision

open Source

def Component.fieldNames : List String := ["package", "constructor_func", "args_struct"]

def Component.ofFields? (fields : List (String × Json)) : Option Component := do
  let package ← required "package" Json.text? fields
  let constructor ← required "constructor_func" Json.text? fields
  let argsType ← required "args_struct" Json.text? fields
  some { package, constructor, argsType }

def Component.ofJson? (j : Json) : Option Component := do
  let fields ← j.record? Component.fieldNames
  Component.ofFields? fields

def Component.members (c : Component) : List (String × Json) :=
  [("package", .string c.package), ("constructor_func", .string c.constructor),
    ("args_struct", .string c.argsType)]

def Component.json (c : Component) : Json := .object c.members

namespace LibraryEntry

def fieldNames : List String := ["resource_type", "resource_class_regex", "resource_id_regex"]

def ofJson? (j : Json) : Option LibraryEntry := do
  let members ← j.members?
  let fields ← Json.fieldsOf? (Component.fieldNames ++ fieldNames) members
  let others := members.filter fun m => !fieldNames.contains m.1
  if !Json.completeMembers others then none
  let component ← Component.ofFields? fields
  let type ← required "resource_type" Json.text? fields
  let classPattern ← orElse "resource_class_regex" "" Json.text? fields
  let idPattern ← orElse "resource_id_regex" "" Json.text? fields
  some { component, type, classPattern, idPattern }

def json (e : LibraryEntry) : Json :=
  .object (e.component.members ++ [("resource_type", .string e.type),
    ("resource_class_regex", .string e.classPattern), ("resource_id_regex", .string e.idPattern)])

end LibraryEntry

namespace Project

def fieldNames : List String := ["workloads", "default_workload_component", "resource_components"]

def fields? : Json → Option (List (String × Json))
  | .object members =>
    if members.all fun m => fieldNames.contains m.1 then Json.fieldsOf? fieldNames members else none
  | j => j.record? fieldNames

def ofJson? (j : Json) : Option Project := do
  let fields ← fields? j
  let workloads ← orElse "workloads" [] (list Workload.decode) fields
  let workloadComponent ←
    orElse "default_workload_component" empty.workloadComponent Component.ofJson? fields
  let library ← orElse "resource_components" [] (list LibraryEntry.ofJson?) fields
  some { workloads, workloadComponent, library }

def decode? (text : String) : Option Project := do
  let j ← Json.read? text
  ofJson? j

def json (p : Project) : Except ShapeFault Json := do
  let workloads ← p.workloads.mapM Workload.json
  return .object [("workloads", .array workloads),
    ("default_workload_component", p.workloadComponent.json),
    ("resource_components", .array (p.library.map LibraryEntry.json))]

def encode (p : Project) : Except Error String :=
  match p.json with
  | .ok j => .ok j.pretty
  | .error cause => .error (.serialization cause)

end Project

end Provision
