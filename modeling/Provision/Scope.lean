import Provision.Placeholder.Template

/-!
# Scopes

What the references of a parameter string may see: the metadata of a workload,
and the resource aliases with the nodes that they name.
-/

set_option autoImplicit false

namespace Provision

open Placeholder

structure Scope where
  metadata : Option (List (String × Value))
  aliases : Table String

namespace Scope

def descend : Value → List String → Except ReferenceFault Value
  | v, [] => .ok v
  | .map es, key :: rest =>
    match Entries.find? key es with
    | some v => descend v rest
    | none => .error (.keyNotFound key)
  | _, key :: _ => .error (.notAMap key)

def findMetadata (scope : Scope) (keys : List String) : Except ReferenceFault Value :=
  match scope.metadata, keys with
  | none, _ => .error .noMetadata
  | some _, [] => .error .noKey
  | some es, keys => descend (.map es) keys

def findAlias (scope : Scope) (name : String) : Except ReferenceFault String :=
  match scope.aliases.find? name with
  | some node => .ok node
  | none => .error (.unknownAlias name)

def within {α : Type} (raw : String) : Except ReferenceFault α → Except Error α
  | .ok a => .ok a
  | .error cause => .error (.reference raw cause none)

def metadataValue (scope : Scope) (raw : String) (keys : List String) : Except Error Value :=
  within raw (scope.findMetadata keys)

def aliasNode (scope : Scope) (raw name : String) : Except Error String :=
  within raw (scope.findAlias name)

end Scope

end Provision
