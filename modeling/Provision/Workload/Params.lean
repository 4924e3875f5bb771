import Provision.Workload.Encode

/-!
# Parameters of a workload

A workload is provisioned with a tree of its metadata, its containers and, if
there is one, its service.
-/

set_option autoImplicit false

namespace Provision.Workload

def treeOf (path : String) : Except ShapeFault Json → Except Error Value
  | .ok j => j.sorted.normalize path
  | .error cause => .error (.shape path cause)

def params (w : Workload) : Except Error (Table Value) := do
  let metadata ← treeOf "metadata" (Json.encodeTable Value.json w.metadata)
  let containers ← treeOf "containers" (Json.encodeTable Container.json w.containers)
  let base := Table.ofList [("metadata", metadata), ("containers", containers)]
  match w.service with
  | none => return base
  | some s =>
    let service ← treeOf "service" (.ok s.json)
    return base.insert "service" service

end Provision.Workload
