import Provision.Program
import Provision.Proofs.Graph.Shape
import Provision.Proofs.Value

/-!
# Consistent graphs

In a graph that is built, ids come from the paths of their nodes, edges lead to
nodes, and the parameters of a node were collected in a scope that the node still
has: the metadata of the workload that supplied them, and edges for the aliases
that they name.
-/

set_option autoImplicit false

namespace Provision.Graph

open Workload Outcome

abbrev Owners := List (String × List (String × Value))

/-- Whether the parameters of a node were collected in the scope of their owner,
and the aliases found there are edges of the node. -/
def Grounded (owners : Owners) (edges : Table String) (n : Node) : Prop :=
  ∀ ps, n.params = some ps → ∃ owner metadata scope found, n.definedBy = some owner ∧
    (owner, metadata) ∈ owners ∧ scope.metadata = some metadata ∧
    Scope.Gathers scope (Value.stringsOfEntries ps) found ∧
    ∀ e ∈ found, edges.find? e.1 = some e.2

structure Consistent (owners : Owners) (g : Graph) : Prop where
  named : ∀ id n, g.nodes.find? id = some n → id = Identifier.component n.name
  targets : ∀ u v, g.DependsOn u v → v ∈ g.nodes.keys
  grounded : ∀ id n, g.nodes.find? id = some n → Grounded owners (g.edgesOf id) n

def Installed (owners : Owners) (g : Graph) : Prop :=
  ∀ o ∈ owners, ∃ n ps, g.nodes.find? o.1 = some n ∧ n.params = some ps ∧
    Entries.find? "metadata" ps = some (.map o.2)

def ownersOf (ws : List Workload) : Owners :=
  ws.filterMap fun w =>
    match w.name with
    | .ok name => some (nodeId name, w.metadata.entries)
    | .error _ => none

theorem mem_ownersOf {ws : List Workload} {o : String × List (String × Value)} :
    o ∈ ownersOf ws ↔
      ∃ w ∈ ws, ∃ name, w.name = .ok name ∧ o = (nodeId name, w.metadata.entries) := by
  unfold ownersOf
  rw [List.mem_filterMap]
  refine exists_congr fun w => and_congr_right fun _ => ?_
  cases w.name <;> simp [eq_comm]

theorem grounded_of_collect {owners : Owners} {scope : Scope} {edges deps : Table String}
    {n : Node} {owner : String} {metadata ps out : List (String × Value)}
    (hp : n.params = some ps) (hd : n.definedBy = some owner) (ho : (owner, metadata) ∈ owners)
    (hm : scope.metadata = some metadata) (hc : scope.collect ps = .ok (out, deps))
    (he : ∀ key id, deps.find? key = some id → edges.find? key = some id) :
    Grounded owners edges n := by
  intro qs hq
  cases hp.symm.trans hq
  obtain ⟨found, hg, rfl⟩ := Scope.collect_gathers hc
  refine ⟨owner, metadata, scope, found, hd, ho, hm, hg, ?_⟩
  intro e hmem
  exact he _ _ (Entries.find?_ofList_of_mem hg.found hmem)

namespace Accounted

variable {ws : List Workload} {g : Graph}

theorem grounded (h : Accounted ws (declarations ws) g) {id : String} {n : Node}
    (hn : g.nodes.find? id = some n) : Grounded (ownersOf ws) (g.edgesOf id) n := by
  by_cases hroot : IsRoot ws id
  · obtain ⟨w, hw, name, hname, rfl⟩ := hroot
    obtain ⟨m, hm, hroot⟩ := h.roots w hw name hname
    cases hn.symm.trans hm
    obtain ⟨ps, out, deps, -, hp, hc⟩ := hroot.params
    refine grounded_of_collect hp hroot.definedBy (mem_ownersOf.mpr ⟨w, hw, name, hname, rfl⟩)
      rfl hc ?_
    intro key node hkey
    rw [hroot.edges_eq]
    exact ((Scope.collect_find? hc key node).mp hkey).2
  · cases h.resourceNode hn hroot with
    | bare hp =>
      intro ps hps
      rw [hp] at hps
      cases hps
    | supplied hlog hp hd hc =>
      obtain ⟨hw, hname, -⟩ := mem_declarations.mp hlog
      exact grounded_of_collect hp hd (mem_ownersOf.mpr ⟨_, hw, _, hname, rfl⟩) rfl hc
        fun _ _ hkey => hkey

theorem consistent (h : Accounted ws (declarations ws) g) : Consistent (ownersOf ws) g := by
  exact ⟨fun id n hn => h.id_eq hn, fun u v hv => (h.wellFormed.targets u v hv).1,
    fun id n hn => h.grounded hn⟩

theorem installed (h : Accounted ws (declarations ws) g) (ho : ∀ w ∈ ws, w.Ordered) :
    Installed (ownersOf ws) g := by
  intro o hmem
  obtain ⟨w, hw, name, hname, rfl⟩ := mem_ownersOf.mp hmem
  obtain ⟨n, hn, hroot⟩ := h.roots w hw name hname
  obtain ⟨ps, -, -, hps, hp, -⟩ := hroot.params
  exact ⟨n, ps.entries, hn, hp, find?_metadata_params (ho w hw) hps⟩

end Accounted

/-- The graph of a project is consistent. -/
theorem exists_consistent {p : Project} {g : Graph} (h : p.graph = .ok g) :
    ∃ owners, Consistent owners g ∧ (p.Ordered → Installed owners g) := by
  obtain ⟨library, -, h⟩ := bind_eq_ok.mp h
  have hg := ofWorkloads_accounted h
  exact ⟨ownersOf p.workloads, hg.consistent, fun ho => hg.installed ho⟩

/-- In a consistent graph everything that a node leads to is a node. -/
theorem Consistent.mem_keys_of_reachable {owners : Owners} {g : Graph}
    (h : Consistent owners g) {id : String} (hr : g.Reachable id) : id ∈ g.nodes.keys := by
  obtain ⟨root, hroot, hpath⟩ := hr
  induction hpath with
  | refl => exact hroot
  | tail _ he _ => exact h.targets _ _ he

/-- The strings in the parameters of a node resolve in the scope that its program
code is made in. -/
theorem Consistent.resolves {owners : Owners} {g : Graph} (h : Consistent owners g)
    (hi : Installed owners g) {id : String} {n : Node} {ps : List (String × Value)}
    (hn : g.nodes.find? id = some n) (hp : n.params = some ps) :
    ∀ s ∈ Value.stringsOfEntries ps, (Program.scopeOf g id n).Resolves s := by
  obtain ⟨owner, metadata, scope, found, hby, ho, hm, hg, hf⟩ := h.grounded id n hn ps hp
  obtain ⟨k, qs, hk, hq, hmeta⟩ := hi _ ho
  have hscope : Program.metadataOf g n = some metadata := by
    simp [Program.metadataOf, hby, hk, hq, hmeta, Value.entries?]
  refine hg.resolves ⟨?_, hf⟩
  rw [hm]
  exact hscope

end Provision.Graph
