import Provision.Proofs.Graph.Declarations

/-!
# The edges of built graphs

A workload has an edge for each of its aliases, and a resource for each alias that
its parameters name, to the node that the alias stands for in the workload that
supplied them. Workloads that declare a shared resource later agree with the edges
that are there.
-/

set_option autoImplicit false

namespace Provision.Graph

open Workload Outcome

section Merging

variable {component : Component} {library : Library}

/-- Adding workloads can stop in between. -/
theorem addAll_append (d : Draft) (ws vs : List Workload) :
    Draft.addAll component library d (ws ++ vs) =
      Draft.addAll component library d ws >>= fun d => Draft.addAll component library d vs := by
  induction ws generalizing d with
  | nil => rfl
  | cons w rest ih => simp [Draft.addAll, ih]

structure Holds (id : String) (n : Node) (edges : Table String) (g : Graph) : Prop where
  node : g.nodes.find? id = some n
  edges_eq : g.edgesOf id = edges

variable {ws : List Workload} {log : List Declaration} {w : Workload} {name id : String}
variable {e : String × Resource} {k n m : Node} {ps : List (String × Value)}
variable {edges : Table String} {g g' : Graph}

/-- A declaration leaves nodes with parameters as they are, also the node that it
declares once more. -/
theorem ResourceStep.holds {workloads : List String}
    (h : ResourceStep library workloads (w.scope name) name e n m g g')
    (hg : Accounted ws log g) (hw : ∀ id, IsRoot ws id → id ∈ workloads)
    (hp : k.params = some ps) (hk : Holds id k edges g) : Holds id k edges g' := by
  by_cases hid : id = resourceId name e
  · subst hid
    cases h.start_eq hk.node
    cases h.supplied.eq_of_params hp
    refine ⟨by rw [h.nodes_find?, if_pos rfl], ?_⟩
    cases hg.resourceNode hk.node fun hroot => h.free (hw _ hroot) with
    | bare hn =>
      rw [hp] at hn
      cases hn
    | supplied _ hn _ he =>
      exact (h.connected.edgesOf_again hn he).trans hk.edges_eq
  · refine ⟨?_, ?_⟩
    · rw [h.nodes_find?, if_neg hid]
      exact hk.node
    · rw [h.connected.edgesOf_ne hid]
      exact hk.edges_eq

theorem RootStep.holds {params : Table Value} (h : RootStep component w name params g g')
    (hk : Holds id k edges g) : Holds id k edges g' := by
  have hid : id ≠ nodeId name := h.ne_of_find? hk.node
  refine ⟨?_, ?_⟩
  · rw [h.nodes_find?, if_neg hid]
    exact hk.node
  · rw [h.edgesOf_ne hid]
    exact hk.edges_eq

theorem addAll_holds {vs : List Workload} {d d' : Draft}
    (h : Draft.addAll component library d vs = .ok d') (hd : d.Accounted ws)
    (hp : k.params = some ps) (hk : Holds id k edges d.graph) : Holds id k edges d'.graph := by
  refine addAll_keeps (P := fun _ _ g => Holds id k edges g) h hd hk ?_ ?_
  · intro ws workloads log w name e n m g g' hw hg hk hs
    exact hs.holds hg hw hp hk
  · intro ws log w name params g g' _ _ hk hs
    exact hs.holds hk

end Merging

section Exactness

variable {ws : List Workload} {g : Graph}

theorem Accounted.root_edges (h : Accounted ws (declarations ws) g) {w : Workload}
    {name : String} (hw : w ∈ ws) (hname : w.name = .ok name) (key target : String) :
    (g.edgesOf (nodeId name)).find? key = some target ↔ w.Binds name key target := by
  obtain ⟨n, -, hroot⟩ := h.roots w hw name hname
  rw [hroot.edges_eq]
  exact aliases_find?

/-- The edges of a resource are those of the references in its parameters. -/
theorem Accounted.resource_edges (h : Accounted ws (declarations ws) g) {id : String} {n : Node}
    {ps : List (String × Value)} (hn : g.nodes.find? id = some n) (hid : ¬ IsRoot ws id)
    (hp : n.params = some ps) :
    ∃ owner, n.definedBy = some owner ∧ IsRoot ws owner ∧
      (∀ key, key ∈ (g.edgesOf id).keys ↔ Value.Names ps key) ∧
      ∀ key target, (g.edgesOf id).find? key = some target ↔
        Value.Names ps key ∧ (g.edgesOf owner).find? key = some target := by
  cases h.resourceNode hn hid with
  | bare hnone =>
    rw [hp] at hnone
    cases hnone
  | @supplied d qs out hlog hq hd he =>
    cases hp.symm.trans hq
    obtain ⟨hw, hname, -⟩ := mem_declarations.mp hlog
    obtain ⟨m, -, hroot⟩ := h.roots _ hw _ hname
    refine ⟨d.owner, hd, ⟨_, hw, _, hname, rfl⟩, Scope.collect_mem_keys he, ?_⟩
    intro key target
    rw [Scope.collect_find? he]
    have howner : g.edgesOf d.owner = d.scope.aliases := hroot.edges_eq
    rw [howner]

/-- The edges of a graph are those that its workloads and the parameters of its
resources call for, and no workload adds or removes one at a node with parameters
that is there before. -/
theorem ofWorkloads_edges {component : Component} {library : Library}
    (h : ofWorkloads component library ws = .ok g) :
    (∀ w ∈ ws, ∀ name, w.name = .ok name → nodeId name ∈ g.nodes.keys ∧
        ∀ key target, (g.edgesOf (nodeId name)).find? key = some target ↔
          w.Binds name key target) ∧
      (∀ id n, g.nodes.find? id = some n → ¬ IsRoot ws id →
        (n.params = none → g.edgesOf id = Table.empty) ∧
        ∀ ps, n.params = some ps →
          (∀ key, key ∈ (g.edgesOf id).keys ↔ Value.Names ps key) ∧
          ∃ owner, n.definedBy = some owner ∧ IsRoot ws owner ∧
            ∀ w ∈ ws, ∀ name, w.name = .ok name → nodeId name = owner →
              ∀ key target, (g.edgesOf id).find? key = some target ↔
                Value.Names ps key ∧ w.Binds name key target) ∧
      ∀ before after, ws = before ++ after → ∃ g₀,
        ofWorkloads component library before = .ok g₀ ∧
          ∀ id n ps, g₀.nodes.find? id = some n → n.params = some ps →
            g.nodes.find? id = some n ∧ g.edgesOf id = g₀.edgesOf id := by
  have hg := ofWorkloads_accounted h
  refine ⟨?_, ?_, ?_⟩
  · intro w hw name hname
    obtain ⟨n, hn, -⟩ := hg.roots w hw name hname
    exact ⟨Table.mem_keys_iff.mpr ⟨n, hn⟩, hg.root_edges hw hname⟩
  · intro id n hn hid
    refine ⟨?_, ?_⟩
    · intro hp
      cases hg.resourceNode hn hid with
      | bare _ _ he => exact he
      | supplied _ hq =>
        rw [hp] at hq
        cases hq
    · intro ps hp
      obtain ⟨owner, hd, hroot, hkeys, hedges⟩ := hg.resource_edges hn hid hp
      refine ⟨hkeys, owner, hd, hroot, ?_⟩
      rintro w hw name hname rfl key target
      rw [hedges, hg.root_edges hw hname]
  · rintro before after rfl
    obtain ⟨d, hd, hgraph⟩ := bind_eq_ok.mp h
    cases pure_eq_ok.mp hgraph
    rw [addAll_append] at hd
    obtain ⟨d₀, hbefore, hafter⟩ := bind_eq_ok.mp hd
    refine ⟨d₀.graph, bind_eq_ok.mpr ⟨d₀, hbefore, rfl⟩, ?_⟩
    intro id n ps hn hp
    have haccounted := addAll_accounted hbefore draft_accounted_empty
    have hkept := addAll_holds hafter haccounted hp ⟨hn, rfl⟩
    exact ⟨hkept.node, hkept.edges_eq⟩

def sharing (name : String) (params : Option (Table Value)) : Workload :=
  ⟨"", Table.ofList [("name", .string name)], Table.empty, none,
    Table.ofList
      [("db", ⟨"postgres", none, some "main", none, params⟩),
        ("net", ⟨"network", none, some "net", none, none⟩)]⟩

/-- Parameters with a reference, and with another one that is escaped. -/
def hosted : Table Value :=
  Table.ofList [("host", .string "$\x7bresources.net.host\x7d"),
    ("note", .list [.string "$$\x7bresources.db.host\x7d"])]

/-- The database is declared before its parameters are there, with them, and again. -/
def sharers : List Workload :=
  [sharing "first" none, sharing "second" (some hosted), sharing "third" (some hosted)]

def stores : Library :=
  [⟨⟨"sql", "New", "Args"⟩, "postgres", .empty, .empty⟩,
    ⟨⟨"net", "New", "Args"⟩, "network", .empty, .empty⟩]

theorem ofWorkloads_edges_sharers :
    ∃ g g₀ n ps, ofWorkloads ⟨"site", "New", "Args"⟩ stores sharers = .ok g ∧
      ofWorkloads ⟨"site", "New", "Args"⟩ stores (sharers.take 2) = .ok g₀ ∧
      g₀.nodes.find? (Identifier.component "shared.main") = some n ∧ n.params = some ps ∧
      g.nodes.find? (Identifier.component "shared.main") = some n ∧
      g.edgesOf (Identifier.component "shared.main") =
        g₀.edgesOf (Identifier.component "shared.main") ∧
      (∀ key, key ∈ (g.edgesOf (Identifier.component "shared.main")).keys ↔ Value.Names ps key) ∧
      Value.Names ps "net" ∧ ¬ Value.Names ps "db" ∧
      ∀ key target, (g.edgesOf (nodeId "third")).find? key = some target ↔
        (sharing "third" (some hosted)).Binds "third" key target := by
  have hnet : (ofWorkloads ⟨"site", "New", "Args"⟩ stores sharers).map
      (fun g => (g.edgesOf (Identifier.component "shared.main")).keys) = .ok ["net"] := by
    decide +kernel
  obtain ⟨g, hg, honly⟩ := map_eq_ok.mp hnet
  obtain ⟨hroots, hresources, hmerge⟩ := ofWorkloads_edges hg
  obtain ⟨g₀, hg₀, hkept⟩ := hmerge (sharers.take 2) (sharers.drop 2) rfl
  have hparams : (ofWorkloads ⟨"site", "New", "Args"⟩ stores (sharers.take 2)).map
      (fun g => ((g.nodes.find? (Identifier.component "shared.main")).bind Node.params).isSome) =
        .ok true := by
    decide +kernel
  rw [hg₀] at hparams
  obtain ⟨ps, hps⟩ := Option.isSome_iff_exists.mp (Except.ok.inj hparams)
  obtain ⟨n, hn, hp⟩ := Option.bind_eq_some_iff.mp hps
  obtain ⟨hnode, hedges⟩ := hkept _ n ps hn hp
  have hshared : ¬ IsRoot sharers (Identifier.component "shared.main") := by
    refine (ofWorkloads_accounted hg).apart
      ⟨sharing "first" none, "first", "db", ⟨"postgres", none, some "main", none, none⟩⟩ ?_
    exact mem_declarations.mpr ⟨List.mem_cons_self, rfl, .head _⟩
  have hkeys := ((hresources _ n hnode hshared).2 ps hp).1
  have hnamed : Value.Names ps "net" := by
    rw [← hkeys, honly]
    decide
  have hescaped : ¬ Value.Names ps "db" := by
    rw [← hkeys, honly]
    decide
  refine ⟨g, g₀, n, ps, hg, hg₀, hn, hp, hnode, hedges, hkeys, hnamed, hescaped, ?_⟩
  exact (hroots (sharing "third" (some hosted)) (by simp [sharers]) "third" rfl).2

end Exactness

end Provision.Graph
