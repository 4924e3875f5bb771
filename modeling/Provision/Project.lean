import Provision.Component
import Provision.Workload

/-!
# Projects

A project holds its workloads in the order in which they were first added, the
component that every workload is provisioned with, and an ordered library of
components for resources.
-/

set_option autoImplicit false

namespace Provision

/-- A library entry: the component for resources of a type whose class and
identity match two patterns. -/
structure LibraryEntry where
  component : Component
  type : String
  classPattern : String
  idPattern : String
  deriving DecidableEq, Inhabited

structure Project where
  workloads : List Workload
  workloadComponent : Component
  library : List LibraryEntry

namespace Project

def empty : Project := ⟨[], ⟨"", "", ""⟩, []⟩

instance : Inhabited Project := ⟨empty⟩

/-- Replaces the first workload of this name, or adds one at the end. Every name
up to that place has to be valid. -/
def replace (name : String) (w : Workload) : List Workload → Except Error (List Workload)
  | [] => .ok [w]
  | existing :: rest => do
    let other ← existing.name
    if other = name then return w :: rest
    let rest ← replace name w rest
    return existing :: rest

def upsert (p : Project) (w : Workload) : Except Error Project := do
  let name ← w.name
  let workloads ← replace name w p.workloads
  return { p with workloads }

def libraryFault? (index : Nat) : List LibraryEntry → Option ConfigFault
  | [] => none
  | e :: rest =>
    match e.component.fault? with
    | some cause => some (.libraryComponent index cause)
    | none => libraryFault? (index + 1) rest

def validate (p : Project) : Except Error Unit :=
  match (p.workloadComponent.fault?.map .defaultComponent).or (libraryFault? 0 p.library) with
  | some cause => .error (.config cause)
  | none => .ok ()

end Project

end Provision
