import Provision.Value

/-!
# Sources of data

A source is a kind of document whose parts can be read as data: text, flags,
integers, free-form values, lists, tables and records. What is described by
records can then be read from every kind of document by one definition.
-/

set_option autoImplicit false

namespace Provision

class Source (ν : Type) (m : outParam (Type → Type)) where
  text : ν → m String
  flag : ν → m Bool
  integer : ν → m Int64
  value : ν → m Value
  /-- The part itself, unless it stands for an absent one. -/
  present : ν → m (Option ν)
  items : ν → m (List ν)
  /-- The entries of a table, as written; the last of repeated keys counts. -/
  entries : ν → m (List (String × ν))
  /-- The parts of a record by the names of its fields. Other names are passed
  over; a field that is given twice is refused. -/
  record : List String → ν → m (List (String × ν))
  fail : {α : Type} → m α

namespace Source

variable {ν α : Type} {m : Type → Type} [Monad m] [Source ν m]

def required (name : String) (read : ν → m α) (fields : List (String × ν)) : m α :=
  match Entries.find? name fields with
  | some part => read part
  | none => fail ν

/-- A field that may be left out, or be given as absent. -/
def optional (name : String) (read : ν → m α) (fields : List (String × ν)) : m (Option α) := do
  match Entries.find? name fields with
  | none => return none
  | some part =>
    match ← present part with
    | none => return none
    | some part => return some (← read part)

def orElse (name : String) (default : α) (read : ν → m α) (fields : List (String × ν)) : m α :=
  match Entries.find? name fields with
  | some part => read part
  | none => return default

def list (read : ν → m α) (part : ν) : m (List α) := do
  let parts ← items part
  parts.mapM read

def table (read : ν → m α) (part : ν) : m (Table α) := do
  let parts ← entries part
  let es ← parts.mapM fun e => do
    let x ← read e.2
    return (e.1, x)
  return Table.ofList es

end Source

end Provision
