import Provision.Graph.Build
import Provision.Proofs.Scope.Resolution
import Provision.Proofs.Table

/-!
# Steps of a build

A build takes one declaration after another. What a declaration of a resource and
the node of a workload can do to a graph is said here once, as relations with one
constructor for each way; what holds of every graph that is built is then proved
by cases on these and by induction over the declarations.
-/

set_option autoImplicit false

namespace Provision

open Outcome

namespace Workload

def resourceId (name : String) (e : String × Resource) : String :=
  Identifier.component (pathOf name e)

def nodeId (name : String) : String := Identifier.component (Identifier.pathOfWorkload name)

/-- Whether an alias of a workload stands for a node: that of the resource which the
workload declares under the alias. -/
def Binds (w : Workload) (name key id : String) : Prop :=
  ∃ r, (key, r) ∈ w.resources.entries ∧
    id = Identifier.component (Identifier.pathOfResource name key r.id)

theorem aliases_find? {w : Workload} {name key id : String} :
    (w.aliases name).find? key = some id ↔ w.Binds name key id := by
  -- the aliases of a workload are as many as its resources, in the same order
  have hkeys : Entries.Ascending
      (w.resources.entries.map fun e => (e.1, Identifier.component (pathOf name e))) := by
    exact List.pairwise_map.mpr w.resources.ascending
  have hentries : (w.aliases name).entries =
      w.resources.entries.map fun e => (e.1, Identifier.component (pathOf name e)) :=
    Entries.ofList_of_ascending hkeys
  rw [Table.find?_eq_some_iff, hentries, List.mem_map]
  constructor
  · rintro ⟨e, he, heq⟩
    cases heq
    exact ⟨e.2, he, rfl⟩
  · rintro ⟨r, hr, rfl⟩
    exact ⟨(key, r), hr, rfl⟩

end Workload

namespace Graph

open Workload

theorem conflict_ne_ok {α : Type} {subject : Subject} {identity : String} {about : Disagreement}
    {a : α} : conflict subject identity about ≠ .ok a := by
  simp [conflict]

theorem conflict_bind_ne_ok {α β : Type} {subject : Subject} {identity : String}
    {about : Disagreement} {f : α → Except Error β} {b : β} :
    conflict subject identity about >>= f ≠ .ok b := by
  simp [conflict, bind, Except.bind]

/-- The node that a declaration starts from: one that is there under the same
path, or a new one from the library. -/
inductive Provided (library : Library) (identity : String) (r : Resource) :
    Option Node → Node → Prop
  | known {n : Node} (hn : n.name = identity) : Provided library identity r (some n) n
  | looked {c : Component} (hc : library.lookup r.type r.effectiveClass identity = .ok c) :
      Provided library identity r none ⟨c, identity, none, none⟩

/-- The node after its parameters: a declaration without any, one that agrees with
those there, or the first one that brings some. -/
inductive Supplied (scope : Scope) (owner : String) (r : Resource) : Node → Node → Prop
  | nothing {n : Node} (hr : r.params = none) : Supplied scope owner r n n
  | again {n : Node} {params : Table Value} {resolved existing : List (String × Value)}
      {deps : Table String} (hr : r.params = some params)
      (hc : scope.collect params.entries = .ok (resolved, deps))
      (hn : n.params = some existing) (hs : Value.sameEntries existing resolved = true) :
      Supplied scope owner r n n
  | first {n : Node} {params : Table Value} {resolved : List (String × Value)}
      {deps : Table String} (hr : r.params = some params)
      (hc : scope.collect params.entries = .ok (resolved, deps)) (hn : n.params = none) :
      Supplied scope owner r n { n with params := some resolved, definedBy := some owner }

inductive Connected (scope : Scope) (id identity : String) (n : Node) (g : Graph) : Graph → Prop
  | bare (hn : n.params = none) : Connected scope id identity n g g
  | independent {ps out : List (String × Value)} (hn : n.params = some ps)
      (hc : scope.collect ps = .ok (out, Table.empty)) : Connected scope id identity n g g
  | joined {ps out : List (String × Value)} {deps edges : Table String}
      (hn : n.params = some ps) (hc : scope.collect ps = .ok (out, deps))
      (hd : deps.isEmpty = false)
      (hj : joinEdges identity (g.edgesOf id) deps.entries = .ok edges) :
      Connected scope id identity n g { g with edges := g.edges.insert id edges }

/-- One declaration of a resource: `n` is the node that it starts from, `m` the
node that it leaves. -/
structure ResourceStep (library : Library) (workloads : List String) (scope : Scope)
    (name : String) (e : String × Resource) (n m : Node) (g g' : Graph) : Prop where
  free : resourceId name e ∉ workloads
  provided : Provided library (pathOf name e) e.2 (g.nodes.find? (resourceId name e)) n
  supplied : Supplied scope (nodeId name) e.2 n m
  connected : Connected scope (resourceId name e) (pathOf name e) m
    { g with nodes := g.nodes.insert (resourceId name e) m } g'

structure RootStep (component : Component) (w : Workload) (name : String)
    (params : Table Value) (g g' : Graph) : Prop where
  params_eq : w.params = .ok params
  collects : ∃ out deps, (w.scope name).collect params.entries = .ok (out, deps)
  free : g.nodes.find? (nodeId name) = none
  nodes : g'.nodes = g.nodes.insert (nodeId name)
    ⟨component, Identifier.pathOfWorkload name, some params.entries, some (nodeId name)⟩
  edges : g'.edges = if (w.aliases name).isEmpty then g.edges
    else g.edges.insert (nodeId name) (w.aliases name)

theorem resourceNode_cases {library : Library} {g : Graph} {id identity : String} {r : Resource}
    {n : Node} (h : resourceNode library g id identity r = .ok n) :
    Provided library identity r (g.nodes.find? id) n := by
  unfold resourceNode at h
  split at h
  · next m hm =>
    split at h
    · next hname =>
      cases h
      rw [hm]
      exact .known hname
    · exact absurd h conflict_ne_ok
  · next hm =>
    obtain ⟨c, hc, h⟩ := bind_eq_ok.mp h
    cases pure_eq_ok.mp h
    rw [hm]
    exact .looked hc

theorem supply_cases {scope : Scope} {owner identity : String} {r : Resource} {n m : Node}
    (h : supply scope owner identity r n = .ok m) : Supplied scope owner r n m := by
  unfold supply at h
  split at h
  · next hr =>
    cases h
    exact .nothing hr
  · next params hr =>
    obtain ⟨⟨resolved, deps⟩, hc, h⟩ := bind_eq_ok.mp h
    dsimp only at h
    split at h
    · next existing hn =>
      split at h
      · next hs =>
        cases pure_eq_ok.mp h
        exact .again hr hc hn hs
      · exact absurd h conflict_ne_ok
    · next hn =>
      cases pure_eq_ok.mp h
      exact .first hr hc hn

theorem connect_cases {scope : Scope} {id identity : String} {n : Node} {g g' : Graph}
    (h : connect scope id identity n g = .ok g') : Connected scope id identity n g g' := by
  unfold connect at h
  split at h
  · next hn =>
    cases h
    exact .bare hn
  · next ps hn =>
    obtain ⟨⟨out, deps⟩, hc, h⟩ := bind_eq_ok.mp h
    dsimp only at h
    split at h
    · next hd =>
      cases pure_eq_ok.mp h
      rw [Table.isEmpty_iff.mp hd] at hc
      exact .independent hn hc
    · next hd =>
      obtain ⟨edges, hj, h⟩ := bind_eq_ok.mp h
      cases pure_eq_ok.mp h
      exact .joined hn hc (by simpa using hd) hj

theorem addResource_cases {library : Library} {workloads : List String} {scope : Scope}
    {name : String} {g g' : Graph} {e : String × Resource}
    (h : addResource library workloads scope name g e = .ok g') :
    ∃ n m, ResourceStep library workloads scope name e n m g g' := by
  unfold addResource at h
  dsimp only at h
  split at h
  · exact absurd h conflict_bind_ne_ok
  · next hfree =>
    obtain ⟨n, hn, h⟩ := bind_eq_ok.mp h
    obtain ⟨m, hm, h⟩ := bind_eq_ok.mp h
    refine ⟨n, m, ?_, resourceNode_cases hn, supply_cases hm, connect_cases h⟩
    simpa [resourceId] using hfree

theorem addRoot_cases {component : Component} {w : Workload} {name : String} {g g' : Graph}
    (h : addRoot component w name g = .ok g') :
    ∃ params, RootStep component w name params g g' := by
  unfold addRoot at h
  obtain ⟨params, hp, h⟩ := bind_eq_ok.mp h
  obtain ⟨⟨out, deps⟩, hc, h⟩ := bind_eq_ok.mp h
  dsimp only at h
  split at h
  · exact absurd h conflict_bind_ne_ok
  · next hfree =>
    cases pure_eq_ok.mp h
    refine ⟨params, hp, ⟨out, deps, hc⟩, ?_, rfl, rfl⟩
    exact Table.contains_eq_false_iff.mp (by simpa [nodeId] using hfree)

theorem add_cases {component : Component} {library : Library} {d d' : Draft} {w : Workload}
    (h : Draft.add component library d w = .ok d') :
    ∃ name g g', w.name = .ok name ∧ name ∉ d.names ∧
      addResources library d.workloads (w.scope name) name d.graph w.resources.entries = .ok g ∧
      addRoot component w name g = .ok g' ∧
      d' = ⟨g', name :: d.names, nodeId name :: d.workloads⟩ := by
  unfold Draft.add at h
  obtain ⟨name, hname, h⟩ := bind_eq_ok.mp h
  dsimp only at h
  split at h
  · exact absurd h conflict_bind_ne_ok
  · next hnew =>
    obtain ⟨g, hg, h⟩ := bind_eq_ok.mp h
    obtain ⟨g', hg', h⟩ := bind_eq_ok.mp h
    exact ⟨name, g, g', hname, by simpa using hnew, hg, hg', (pure_eq_ok.mp h).symm⟩

theorem edgesOf_insert (nodes : Table Node) (edges : Table (Table String)) (id other : String)
    (es : Table String) : (⟨nodes, edges.insert id es⟩ : Graph).edgesOf other =
      if other = id then es else (⟨nodes, edges⟩ : Graph).edgesOf other := by
  unfold edgesOf
  rw [Table.find?_insert]
  split <;> rfl

/-- The joined edges are those that were there and those that were added. -/
theorem joinEdges_find? {identity : String} {existing edges : Table String}
    {es : List (String × String)} (h : joinEdges identity existing es = .ok edges)
    (key id : String) :
    edges.find? key = some id ↔ existing.find? key = some id ∨ (key, id) ∈ es := by
  induction es generalizing existing with
  | nil =>
    cases h
    simp
  | cons e rest ih =>
    obtain ⟨name, target⟩ := e
    simp only [joinEdges] at h
    split at h
    · next other hfound =>
      split at h
      · next heq =>
        subst heq
        rw [ih h, List.mem_cons]
        constructor
        · rintro (hold | hnew)
          · exact .inl hold
          · exact .inr (.inr hnew)
        · rintro (hold | heq | hnew)
          · exact .inl hold
          · cases heq
            exact .inl hfound
          · exact .inr hnew
      · exact absurd h conflict_ne_ok
    · next hfree =>
      rw [ih h, Table.find?_insert, List.mem_cons]
      by_cases hk : key = name
      · subst hk
        simp [hfree, eq_comm]
      · simp [hk]

namespace Connected

variable {scope : Scope} {id identity : String} {n : Node} {g g' : Graph}

theorem nodes_eq (h : Connected scope id identity n g g') : g'.nodes = g.nodes := by
  cases h <;> rfl

theorem eq_of_params (h : Connected scope id identity n g g') (hp : n.params = none) :
    g' = g := by
  cases h with
  | bare => rfl
  | independent => rfl
  | joined hn =>
    rw [hp] at hn
    cases hn

theorem edgesOf_ne (h : Connected scope id identity n g g') {other : String}
    (hne : other ≠ id) : g'.edgesOf other = g.edgesOf other := by
  cases h with
  | bare => rfl
  | independent => rfl
  | joined =>
    rw [edgesOf_insert, if_neg hne]

end Connected

theorem Provided.name_eq {library : Library} {identity : String} {r : Resource}
    {before : Option Node} {n : Node} (h : Provided library identity r before n) :
    n.name = identity := by
  cases h with
  | known hn => exact hn
  | looked => rfl

/-- Parameters that are there stay. -/
theorem Supplied.eq_of_params {scope : Scope} {owner : String} {r : Resource} {n m : Node}
    {ps : List (String × Value)} (h : Supplied scope owner r n m) (hp : n.params = some ps) :
    m = n := by
  cases h with
  | nothing => rfl
  | again => rfl
  | first _ _ hn =>
    rw [hp] at hn
    cases hn

theorem Supplied.name_eq {scope : Scope} {owner : String} {r : Resource} {n m : Node}
    (h : Supplied scope owner r n m) : m.name = n.name := by
  cases h <;> rfl

namespace ResourceStep

variable {library : Library} {workloads : List String} {scope : Scope} {name : String}
variable {e : String × Resource} {n m : Node} {g g' : Graph}

theorem name_eq (h : ResourceStep library workloads scope name e n m g g') :
    m.name = pathOf name e :=
  h.supplied.name_eq.trans h.provided.name_eq

/-- A declaration starts from the node that is there. -/
theorem start_eq (h : ResourceStep library workloads scope name e n m g g') {k : Node}
    (hk : g.nodes.find? (resourceId name e) = some k) : n = k := by
  have hstart := h.provided
  rw [hk] at hstart
  cases hstart
  rfl

theorem nodes_find? (h : ResourceStep library workloads scope name e n m g g') (id : String) :
    g'.nodes.find? id = if id = resourceId name e then some m else g.nodes.find? id := by
  rw [h.connected.nodes_eq]
  exact Table.find?_insert _ _ _ _

theorem mem_keys (h : ResourceStep library workloads scope name e n m g g') {id : String} :
    id ∈ g'.nodes.keys ↔ id = resourceId name e ∨ id ∈ g.nodes.keys := by
  rw [h.connected.nodes_eq]
  exact Table.mem_keys_insert

end ResourceStep

namespace RootStep

variable {component : Component} {w : Workload} {name : String} {params : Table Value}
variable {g g' : Graph}

theorem nodes_find? (h : RootStep component w name params g g') (id : String) :
    g'.nodes.find? id = if id = nodeId name then
      some ⟨component, Identifier.pathOfWorkload name, some params.entries, some (nodeId name)⟩
    else g.nodes.find? id := by
  rw [h.nodes]
  exact Table.find?_insert _ _ _ _

/-- The node of a workload is none of those that are there. -/
theorem ne_of_find? (h : RootStep component w name params g g') {id : String} {n : Node}
    (hn : g.nodes.find? id = some n) : id ≠ nodeId name := by
  rintro rfl
  rw [h.free] at hn
  cases hn

theorem edgesOf_ne (h : RootStep component w name params g g') {id : String}
    (hne : id ≠ nodeId name) : g'.edgesOf id = g.edgesOf id := by
  unfold edgesOf
  rw [h.edges]
  split
  · rfl
  · rw [Table.find?_insert_ne _ _ hne]

theorem edgesOf_self (h : RootStep component w name params g g') :
    ((w.aliases name).isEmpty = true ∧ g'.edgesOf (nodeId name) = g.edgesOf (nodeId name)) ∨
      g'.edgesOf (nodeId name) = w.aliases name := by
  unfold edgesOf
  rw [h.edges]
  split
  · next hempty => exact .inl ⟨hempty, rfl⟩
  · rw [Table.find?_insert_self]
    exact .inr rfl

end RootStep

end Graph

end Provision
