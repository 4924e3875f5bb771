import Provision.Graph
import Provision.Library
import Provision.Scope.Collect
import Provision.Workload.Params

/-!
# Building graphs

Each workload of a project becomes a node, and so does each resource that it
declares. Resources with the same identity share a node, on whose parameters all
declarations have to agree once metadata is in place.
-/

set_option autoImplicit false

namespace Provision

namespace Workload

def pathOf (name : String) (e : String × Resource) : String :=
  Identifier.pathOfResource name e.1 e.2.id

def aliases (w : Workload) (name : String) : Table String :=
  Table.ofList (w.resources.entries.map fun e => (e.1, Identifier.component (pathOf name e)))

def scope (w : Workload) (name : String) : Scope :=
  ⟨some w.metadata.entries, w.aliases name⟩

end Workload

namespace Graph

structure Draft where
  graph : Graph
  /-- The names of the workloads so far. -/
  names : List String
  /-- The nodes of the workloads so far. -/
  workloads : List String

def Draft.empty : Draft := ⟨Graph.empty, [], []⟩

def conflict {α : Type} (subject : Subject) (identity : String) (about : Disagreement) :
    Except Error α :=
  .error (.conflict subject identity about)

/-- The node of a resource, which a library entry provides where there is none yet. -/
def resourceNode (library : Library) (g : Graph) (id identity : String) (r : Resource) :
    Except Error Node :=
  match g.nodes.find? id with
  | some n => if n.name = identity then .ok n else conflict .resource identity .identity
  | none => do
    let component ← library.lookup r.type r.effectiveClass identity
    return ⟨component, identity, none, none⟩

def supply (scope : Scope) (owner identity : String) (r : Resource) (n : Node) :
    Except Error Node :=
  match r.params with
  | none => .ok n
  | some params => do
    let (resolved, _) ← scope.collect params.entries
    match n.params with
    | some existing =>
      if Value.sameEntries existing resolved then return n
      else conflict .resource identity .parameters
    | none => return { n with params := some resolved, definedBy := some owner }

/-- Adds edges; an alias cannot change its target. -/
def joinEdges (identity : String) (existing : Table String) :
    List (String × String) → Except Error (Table String)
  | [] => .ok existing
  | (name, target) :: rest =>
    match existing.find? name with
    | some other =>
      if other = target then joinEdges identity existing rest
      else conflict .resource identity .dependencies
    | none => joinEdges identity (existing.insert name target) rest

def connect (scope : Scope) (id identity : String) (n : Node) (g : Graph) : Except Error Graph :=
  match n.params with
  | none => .ok g
  | some params => do
    let (_, deps) ← scope.collect params
    if deps.isEmpty then return g
    let edges ← joinEdges identity (g.edgesOf id) deps.entries
    return { g with edges := g.edges.insert id edges }

def addResource (library : Library) (workloads : List String) (scope : Scope)
    (name : String) (g : Graph) (e : String × Resource) : Except Error Graph := do
  let identity := Workload.pathOf name e
  let id := Identifier.component identity
  let owner := Identifier.component (Identifier.pathOfWorkload name)
  if workloads.contains id then conflict .resource identity .identity
  let n ← resourceNode library g id identity e.2
  let n ← supply scope owner identity e.2 n
  connect scope id identity n { g with nodes := g.nodes.insert id n }

def addResources (library : Library) (workloads : List String) (scope : Scope) (name : String)
    (g : Graph) : List (String × Resource) → Except Error Graph
  | [] => .ok g
  | e :: rest => do
    let g ← addResource library workloads scope name g e
    addResources library workloads scope name g rest

def addRoot (component : Component) (w : Workload) (name : String) (g : Graph) :
    Except Error Graph := do
  let path := Identifier.pathOfWorkload name
  let id := Identifier.component path
  let params ← w.params
  let _ ← (w.scope name).collect params.entries
  if g.nodes.contains id then conflict .workload path .identity
  let nodes := g.nodes.insert id ⟨component, path, some params.entries, some id⟩
  let aliases := w.aliases name
  return ⟨nodes, if aliases.isEmpty then g.edges else g.edges.insert id aliases⟩

def Draft.add (component : Component) (library : Library) (d : Draft) (w : Workload) :
    Except Error Draft := do
  let name ← w.name
  if d.names.contains name then conflict .workload name .declarations
  let g ← addResources library d.workloads (w.scope name) name d.graph w.resources.entries
  let g ← addRoot component w name g
  let id := Identifier.component (Identifier.pathOfWorkload name)
  return ⟨g, name :: d.names, id :: d.workloads⟩

def Draft.addAll (component : Component) (library : Library) (d : Draft) :
    List Workload → Except Error Draft
  | [] => .ok d
  | w :: rest => do
    let d ← Draft.add component library d w
    Draft.addAll component library d rest

def ofWorkloads (component : Component) (library : Library) (ws : List Workload) :
    Except Error Graph := do
  let d ← Draft.addAll component library Draft.empty ws
  return d.graph

end Graph

def Project.graph (p : Project) : Except Error Graph := do
  let library ← Library.ofEntries p.library
  Graph.ofWorkloads p.workloadComponent library p.workloads

end Provision
