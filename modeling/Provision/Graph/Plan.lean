import Provision.Graph.Order

/-!
# Plans

A plan lists the components in the order in which they are provisioned.
-/

set_option autoImplicit false

namespace Provision.Graph

def edgeText (g : Graph) (e : String × String) : String :=
  "      " ++ e.1 ++ " -> " ++ g.nameOf e.2 ++ "\n"

/-- The lines of one component; ids that are not nodes have none. -/
def planEntry (g : Graph) (id : String) : String :=
  match g.nodes.find? id with
  | none => ""
  | some n =>
    "  + " ++ n.name ++ " (" ++ id ++ ")\n      component: " ++ n.component.written ++ "\n"
      ++ String.join ((g.edgesOf id).entries.map g.edgeText)

def planText (g : Graph) (order : List String) : String :=
  "Provisioning Plan\n\n" ++ String.join (order.map g.planEntry) ++ "\n  "
    ++ toString order.length ++ " component(s) will be provisioned.\n"

def plan (g : Graph) : Except Error String := do
  let order ← g.order
  return g.planText order

end Provision.Graph
