import Provision.Error
import Provision.Identifier

/-!
# Workloads

What a workload file declares: containers, an optional service, and the
resources that the workload needs, by alias. Metadata, parameters and probes are
free-form.
-/

set_option autoImplicit false

namespace Provision

structure Quantities where
  cpu : Option String
  memory : Option String
  deriving Inhabited

structure Allotment where
  limits : Option Quantities
  requests : Option Quantities
  deriving Inhabited

structure MountedFile where
  target : String
  mode : Option String
  source : Option String
  content : Option String
  noExpand : Option Bool
  deriving Inhabited

structure Volume where
  source : String
  path : Option String
  target : String
  readOnly : Option Bool
  deriving Inhabited

structure Container where
  image : String
  command : Option (List String)
  args : Option (List String)
  environment : Option (Table String)
  files : Option (List MountedFile)
  volumes : Option (List Volume)
  resources : Option Allotment
  livenessProbe : Option Value
  readinessProbe : Option Value
  deriving Inhabited

structure Port where
  port : Int64
  protocol : Option String
  targetPort : Option Int64
  deriving Inhabited

structure Service where
  ports : Table Port
  deriving Inhabited

structure Resource where
  type : String
  cls : Option String
  /-- Resources with the same identity are provisioned once. -/
  id : Option String
  metadata : Option (Table Value)
  params : Option (Table Value)
  deriving Inhabited

def Resource.effectiveClass (r : Resource) : String := r.cls.getD "default"

structure Workload where
  apiVersion : String
  metadata : Table Value
  containers : Table Container
  service : Option Service
  resources : Table Resource
  deriving Inhabited

namespace Workload

def name (w : Workload) : Except Error String :=
  match w.metadata.find? "name" with
  | some (.string name) => if name.isEmpty then .error (.config .nameEmpty) else .ok name
  | some v => .error (.config (.nameKind v.kind))
  | none => .error (.config .nameMissing)

def validate (w : Workload) : Except Error Unit := do
  let name ← w.name
  match w.resources.entries.find? fun e => e.2.type.isEmpty with
  | some (resource, _) => .error (.config (.untypedResource resource name))
  | none => return

end Workload

end Provision
