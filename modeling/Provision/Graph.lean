import Provision.Component
import Provision.Value

/-!
# Component graphs

A node is a component to provision; an edge leads from a node to one that it
depends on, under an alias. Edges may lead to and from ids that are not nodes.
-/

set_option autoImplicit false

namespace Provision

structure Node where
  component : Component
  /-- The logical path, by which the provisioned component is known. -/
  name : String
  params : Option (List (String × Value))
  /-- The workload that supplied the parameters. -/
  definedBy : Option String
  deriving Inhabited

structure Graph where
  nodes : Table Node
  edges : Table (Table String)
  deriving Inhabited

namespace Graph

def empty : Graph := ⟨Table.empty, Table.empty⟩

def edgesOf (g : Graph) (id : String) : Table String := (g.edges.find? id).getD Table.empty

def targets (g : Graph) (id : String) : List String := (g.edgesOf id).entries.map Prod.snd

/-- The name of a node, or the id where there is no node. -/
def nameOf (g : Graph) (id : String) : String :=
  match g.nodes.find? id with
  | some n => n.name
  | none => id

end Graph

end Provision
