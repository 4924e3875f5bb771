import Provision.Proofs.Graph.Steps
import Provision.Proofs.Scope.Substitution

/-!
# Graphs and their declarations

A build goes through the resources that workloads declare, one after another, and
keeps a log of them here. At every moment the graph is accounted for by the log and
the workloads that are done: there is a node for each, under its own path, and no
other, and the edges of a node are determined by what it is a node of.
-/

set_option autoImplicit false

namespace Provision

open Outcome

namespace Graph

open Workload

structure Declaration where
  workload : Workload
  name : String
  entry : String × Resource

namespace Declaration

def path (d : Declaration) : String := pathOf d.name d.entry

def id (d : Declaration) : String := resourceId d.name d.entry

def scope (d : Declaration) : Scope := d.workload.scope d.name

def owner (d : Declaration) : String := nodeId d.name

end Declaration

def declarationsOf (w : Workload) (name : String) : List Declaration :=
  w.resources.entries.map fun e => ⟨w, name, e⟩

def declarations (ws : List Workload) : List Declaration :=
  ws.flatMap fun w =>
    match w.name with
    | .ok name => declarationsOf w name
    | .error _ => []

def IsRoot (ws : List Workload) (id : String) : Prop :=
  ∃ w ∈ ws, ∃ name, w.name = .ok name ∧ id = nodeId name

theorem mem_declarationsOf {w : Workload} {name : String} {d : Declaration} :
    d ∈ declarationsOf w name ↔
      d.workload = w ∧ d.name = name ∧ d.entry ∈ w.resources.entries := by
  constructor
  · intro h
    obtain ⟨e, he, rfl⟩ := List.mem_map.mp h
    exact ⟨rfl, rfl, he⟩
  · obtain ⟨workload, name, entry⟩ := d
    rintro ⟨rfl, rfl, he⟩
    exact List.mem_map.mpr ⟨entry, he, rfl⟩

theorem mem_declarations {ws : List Workload} {d : Declaration} :
    d ∈ declarations ws ↔ d.workload ∈ ws ∧ d.workload.name = .ok d.name ∧
      d.entry ∈ d.workload.resources.entries := by
  constructor
  · intro h
    obtain ⟨w, hw, hd⟩ := List.mem_flatMap.mp h
    split at hd
    · next name hname =>
      obtain ⟨rfl, rfl, he⟩ := mem_declarationsOf.mp hd
      exact ⟨hw, hname, he⟩
    · cases hd
  · rintro ⟨hw, hname, he⟩
    refine List.mem_flatMap.mpr ⟨d.workload, hw, ?_⟩
    rw [hname]
    exact mem_declarationsOf.mpr ⟨rfl, rfl, he⟩

theorem declarations_append (ws vs : List Workload) :
    declarations (ws ++ vs) = declarations ws ++ declarations vs := by
  simp [declarations]

theorem declarations_singleton {w : Workload} {name : String} (h : w.name = .ok name) :
    declarations [w] = declarationsOf w name := by
  simp [declarations, h]

theorem isRoot_append {ws : List Workload} {w : Workload} {name id : String}
    (h : w.name = .ok name) : IsRoot (ws ++ [w]) id ↔ IsRoot ws id ∨ id = nodeId name := by
  constructor
  · rintro ⟨v, hv, other, hother, rfl⟩
    rcases List.mem_append.mp hv with hv | hv
    · exact .inl ⟨v, hv, other, hother, rfl⟩
    · cases List.mem_singleton.mp hv
      cases h.symm.trans hother
      exact .inr rfl
  · rintro (⟨v, hv, other, hother, rfl⟩ | rfl)
    · exact ⟨v, List.mem_append_left _ hv, other, hother, rfl⟩
    · exact ⟨w, by simp, name, h, rfl⟩

section Induction

variable {component : Component} {library : Library}

/-- The log grows by each declaration that a workload makes. -/
theorem addResources_log {P : List Declaration → Graph → Prop} {workloads : List String}
    {w : Workload} {name : String} {log : List Declaration} {g g' : Graph}
    {es : List (String × Resource)}
    (h : addResources library workloads (w.scope name) name g es = .ok g') (hg : P log g)
    (hstep : ∀ log e n m g g', P log g →
      ResourceStep library workloads (w.scope name) name e n m g g' →
      P (log ++ [⟨w, name, e⟩]) g') :
    P (log ++ es.map fun e => ⟨w, name, e⟩) g' := by
  induction es generalizing g log with
  | nil =>
    cases h
    simpa using hg
  | cons e rest ih =>
    obtain ⟨g₁, h₁, h⟩ := bind_eq_ok.mp h
    obtain ⟨n, m, hs⟩ := addResource_cases h₁
    have hrest := ih h (hstep log e n m g g₁ hg hs)
    simpa using hrest

/-- What every step of a build keeps, with the workloads that are done and the log of
declarations, holds after more workloads. -/
theorem addAll_log {P : List Workload → List Declaration → Graph → Prop}
    {vs done : List Workload} {d d' : Draft} (h : Draft.addAll component library d vs = .ok d')
    (hd : ∀ id, IsRoot done id → id ∈ d.workloads) (hg : P done (declarations done) d.graph)
    (hresource : ∀ ws workloads log w name e n m g g', (∀ id, IsRoot ws id → id ∈ workloads) →
      P ws log g → ResourceStep library workloads (w.scope name) name e n m g g' →
      P ws (log ++ [⟨w, name, e⟩]) g')
    (hroot : ∀ ws log w name params g g', w.name = .ok name → P ws log g →
      RootStep component w name params g g' → P (ws ++ [w]) log g') :
    (∀ id, IsRoot (done ++ vs) id → id ∈ d'.workloads) ∧
      P (done ++ vs) (declarations (done ++ vs)) d'.graph := by
  induction vs generalizing done d with
  | nil =>
    cases h
    simpa using ⟨hd, hg⟩
  | cons w rest ih =>
    obtain ⟨d₁, hadd, h⟩ := bind_eq_ok.mp h
    obtain ⟨name, g₁, g₂, hname, -, hres, hroot₁, rfl⟩ := add_cases hadd
    obtain ⟨params, hs⟩ := addRoot_cases hroot₁
    have hlog := addResources_log hres hg fun log e n m g g' =>
      hresource done d.workloads log w name e n m g g' hd
    have hnext : P (done ++ [w]) (declarations (done ++ [w])) g₂ := by
      rw [declarations_append, declarations_singleton hname]
      exact hroot done _ w name params g₁ g₂ hname hlog hs
    have hmore : ∀ id, IsRoot (done ++ [w]) id → id ∈ nodeId name :: d.workloads := by
      intro id hid
      rcases (isRoot_append hname).mp hid with hid | rfl
      · exact List.mem_cons_of_mem _ (hd id hid)
      · exact List.mem_cons_self
    simpa using ih h hmore hnext

theorem not_isRoot_nil (id : String) : ¬ IsRoot [] id := by
  rintro ⟨w, hw, -⟩
  cases hw

end Induction

/-- The node of a workload: its parameters were collected in its own scope, and its
edges are its aliases. -/
structure RootNode (w : Workload) (name : String) (edges : Table String) (n : Node) : Prop where
  name_eq : n.name = Identifier.pathOfWorkload name
  params : ∃ ps out deps, w.params = .ok ps ∧ n.params = some ps.entries ∧
    (w.scope name).collect ps.entries = .ok (out, deps)
  definedBy : n.definedBy = some (nodeId name)
  edges_eq : edges = w.aliases name

/-- The node of a resource: nobody supplied parameters, and there are no edges; or a
declaration did, and the edges are what these depend on in its scope. -/
inductive ResourceNode (log : List Declaration) (edges : Table String) (n : Node) : Prop
  | bare (hp : n.params = none) (hd : n.definedBy = none) (he : edges = Table.empty)
  | supplied {d : Declaration} {ps out : List (String × Value)} (hlog : d ∈ log)
      (hp : n.params = some ps) (hd : n.definedBy = some d.owner)
      (he : d.scope.collect ps = .ok (out, edges))

/-- Whether the nodes and edges of a graph are those of the workloads and of the
declarations in the log. -/
structure Accounted (ws : List Workload) (log : List Declaration) (g : Graph) : Prop where
  roots : ∀ w ∈ ws, ∀ name, w.name = .ok name →
    ∃ n, g.nodes.find? (nodeId name) = some n ∧ RootNode w name (g.edgesOf (nodeId name)) n
  resources : ∀ d ∈ log,
    ∃ n, g.nodes.find? d.id = some n ∧ n.name = d.path ∧ ResourceNode log (g.edgesOf d.id) n
  nodes : ∀ id ∈ g.nodes.keys, IsRoot ws id ∨ ∃ d ∈ log, id = d.id
  apart : ∀ d ∈ log, ¬ IsRoot ws d.id
  edges : ∀ id es, g.edges.find? id = some es → id ∈ g.nodes.keys ∧ es.isEmpty = false

theorem accounted_empty : Accounted [] [] empty := by
  refine ⟨?_, ?_, ?_, ?_, ?_⟩
  · intro w hw
    cases hw
  · intro d hd
    cases hd
  · intro id hid
    cases hid
  · intro d hd
    cases hd
  · intro id es h
    simp [empty] at h

theorem ResourceNode.mono {log : List Declaration} {edges : Table String} {n : Node}
    (h : ResourceNode log edges n) (d : Declaration) : ResourceNode (log ++ [d]) edges n := by
  cases h with
  | bare hp hd he => exact .bare hp hd he
  | supplied hlog hp hd he => exact .supplied (List.mem_append_left _ hlog) hp hd he

namespace Accounted

variable {ws : List Workload} {log : List Declaration} {g : Graph}

/-- An id without a node has no edges. -/
theorem edgesOf_eq_empty (h : Accounted ws log g) {id : String}
    (hid : g.nodes.find? id = none) : g.edgesOf id = Table.empty := by
  unfold edgesOf
  cases hfind : g.edges.find? id with
  | none => rfl
  | some es =>
    obtain ⟨n, hn⟩ := Table.mem_keys_iff.mp (h.edges id es hfind).1
    rw [hid] at hn
    cases hn

/-- The id of a node comes from its name. -/
theorem id_eq (h : Accounted ws log g) {id : String} {n : Node}
    (hn : g.nodes.find? id = some n) : id = Identifier.component n.name := by
  rcases h.nodes id (Table.mem_keys_iff.mpr ⟨n, hn⟩) with ⟨w, hw, name, hname, rfl⟩ | ⟨d, hd, rfl⟩
  · obtain ⟨m, hm, hroot⟩ := h.roots w hw name hname
    cases hn.symm.trans hm
    rw [hroot.name_eq]
    rfl
  · obtain ⟨m, hm, hname, -⟩ := h.resources d hd
    cases hn.symm.trans hm
    rw [hname]
    rfl

/-- A node that is not the node of a workload is one of a resource. -/
theorem resourceNode (h : Accounted ws log g) {id : String} {n : Node}
    (hn : g.nodes.find? id = some n) (hid : ¬ IsRoot ws id) :
    ResourceNode log (g.edgesOf id) n := by
  rcases h.nodes id (Table.mem_keys_iff.mpr ⟨n, hn⟩) with hroot | ⟨d, hd, rfl⟩
  · exact absurd hroot hid
  · obtain ⟨m, hm, -, hres⟩ := h.resources d hd
    cases hn.symm.trans hm
    exact hres

end Accounted

section Edges

variable {scope other : Scope} {id identity : String} {n : Node} {g g' : Graph}
variable {ps out : List (String × Value)}

/-- The first parameters of a node bring all of their dependencies. -/
theorem Connected.collect_edgesOf (h : Connected scope id identity n g g')
    (hp : n.params = some ps) (he : g.edgesOf id = Table.empty) :
    ∃ out, scope.collect ps = .ok (out, g'.edgesOf id) := by
  cases h with
  | bare hn =>
    rw [hn] at hp
    cases hp
  | independent hn hc =>
    cases hn.symm.trans hp
    rw [he]
    exact ⟨_, hc⟩
  | @joined _ _ deps edges hn hc _ hj =>
    cases hn.symm.trans hp
    rw [he] at hj
    have heq : edges = deps := by
      refine Table.ext_find? fun key node => ?_
      rw [joinEdges_find? hj, Table.find?_empty, Table.find?_eq_some_iff]
      simp
    rw [edgesOf_insert, if_pos rfl, heq]
    exact ⟨_, hc⟩

/-- Collecting the parameters of a node in another scope adds no edge to it: what
they depend on has the same aliases, and an alias cannot change its node. -/
theorem Connected.edgesOf_again (h : Connected scope id identity n g g')
    (hp : n.params = some ps) (he : other.collect ps = .ok (out, g.edgesOf id)) :
    g'.edgesOf id = g.edgesOf id := by
  cases h with
  | bare => rfl
  | independent => rfl
  | @joined _ _ deps edges hn hc _ hj =>
    cases hn.symm.trans hp
    rw [edgesOf_insert, if_pos rfl]
    refine Table.ext_find? fun key node => ?_
    constructor
    · intro hnew
      rcases (joinEdges_find? hj key node).mp hnew with hold | hmem
      · exact hold
      · have hnames := (Scope.collect_find? hc key node).mp (Table.find?_eq_some_iff.mpr hmem)
        obtain ⟨old, hold⟩ := Table.mem_keys_iff.mp
          ((Scope.collect_mem_keys he key).mpr hnames.1)
        have hkept := (joinEdges_find? hj key old).mpr (.inl hold)
        cases hkept.symm.trans hnew
        exact hold
    · intro hold
      exact (joinEdges_find? hj key node).mpr (.inl hold)

theorem Connected.edges_nonempty (h : Connected scope id identity n g g') {key : String}
    {es : Table String} (hes : g'.edges.find? key = some es) :
    g.edges.find? key = some es ∨ key = id ∧ es.isEmpty = false := by
  cases h with
  | bare => exact .inl hes
  | independent => exact .inl hes
  | @joined _ _ deps edges hn hc hd hj =>
    rw [Table.find?_insert] at hes
    split at hes
    · next heq =>
      cases hes
      refine .inr ⟨heq, ?_⟩
      -- some dependency is among the joined edges
      cases hentries : deps.entries with
      | nil => simp [Table.isEmpty, hentries] at hd
      | cons e rest =>
        have hfind := (joinEdges_find? hj e.1 e.2).mpr (.inr (by simp [hentries]))
        cases hempty : es.isEmpty with
        | false => rfl
        | true =>
          rw [Table.isEmpty_iff.mp hempty] at hfind
          cases hfind
    · exact .inl hes

end Edges

namespace ResourceStep

variable {library : Library} {workloads : List String} {w : Workload} {name : String}
variable {e : String × Resource} {n m : Node} {g g' : Graph}
variable {ws : List Workload} {log : List Declaration}

/-- A declaration starts from a node of a resource. -/
theorem provided_resourceNode
    (h : ResourceStep library workloads (w.scope name) name e n m g g')
    (hg : Accounted ws log g) (hfree : ¬ IsRoot ws (resourceId name e)) :
    ResourceNode log (g.edgesOf (resourceId name e)) n := by
  cases hbefore : g.nodes.find? (resourceId name e) with
  | none =>
    have hstart := h.provided
    rw [hbefore] at hstart
    cases hstart
    exact .bare rfl rfl (hg.edgesOf_eq_empty hbefore)
  | some k =>
    cases h.start_eq hbefore
    exact hg.resourceNode hbefore hfree

theorem resourceNode (h : ResourceStep library workloads (w.scope name) name e n m g g')
    (hg : Accounted ws log g) (hfree : ¬ IsRoot ws (resourceId name e)) :
    ResourceNode (log ++ [⟨w, name, e⟩]) (g'.edgesOf (resourceId name e)) m := by
  have hstart := h.provided_resourceNode hg hfree
  cases hstart with
  | bare hp hd he =>
    cases h.supplied with
    | nothing =>
      refine .bare hp hd ?_
      rw [h.connected.eq_of_params hp]
      exact he
    | again _ _ hn =>
      rw [hp] at hn
      cases hn
    | first =>
      obtain ⟨out, hout⟩ := h.connected.collect_edgesOf rfl he
      exact .supplied (d := ⟨w, name, e⟩) (by simp) rfl rfl hout
  | supplied hlog hp hd he =>
    cases h.supplied.eq_of_params hp
    rw [h.connected.edgesOf_again hp he]
    exact .supplied (List.mem_append_left _ hlog) hp hd he

/-- A declaration that is logged already under the same id has the same path. -/
theorem path_eq (h : ResourceStep library workloads (w.scope name) name e n m g g')
    (hg : Accounted ws log g) {d : Declaration} (hd : d ∈ log) (hid : d.id = resourceId name e) :
    d.path = pathOf name e := by
  obtain ⟨k, hk, hname, -⟩ := hg.resources d hd
  cases h.start_eq (hid ▸ hk)
  rw [← hname]
  exact h.provided.name_eq

theorem accounted (h : ResourceStep library workloads (w.scope name) name e n m g g')
    (hg : Accounted ws log g) (hw : ∀ id, IsRoot ws id → id ∈ workloads) :
    Accounted ws (log ++ [⟨w, name, e⟩]) g' := by
  have hfree : ¬ IsRoot ws (resourceId name e) := fun hroot => h.free (hw _ hroot)
  refine ⟨?_, ?_, ?_, ?_, ?_⟩
  · intro v hv other hother
    obtain ⟨k, hk, hroot⟩ := hg.roots v hv other hother
    have hne : nodeId other ≠ resourceId name e := by
      intro heq
      exact hfree (heq ▸ ⟨v, hv, other, hother, rfl⟩)
    refine ⟨k, ?_, ?_⟩
    · rw [h.nodes_find?, if_neg hne, hk]
    · rw [h.connected.edgesOf_ne hne]
      exact hroot
  · intro d hd
    by_cases hid : d.id = resourceId name e
    · have hpath : d.path = pathOf name e := by
        rcases List.mem_append.mp hd with hd | hd
        · exact h.path_eq hg hd hid
        · cases List.mem_singleton.mp hd
          rfl
      refine ⟨m, ?_, ?_, ?_⟩
      · rw [h.nodes_find?, if_pos hid]
      · rw [h.name_eq, hpath]
      · rw [hid]
        exact h.resourceNode hg hfree
    · have hlog : d ∈ log := by
        rcases List.mem_append.mp hd with hd | hd
        · exact hd
        · cases List.mem_singleton.mp hd
          exact absurd rfl hid
      obtain ⟨k, hk, hname, hres⟩ := hg.resources d hlog
      refine ⟨k, ?_, hname, ?_⟩
      · rw [h.nodes_find?, if_neg hid, hk]
      · rw [h.connected.edgesOf_ne hid]
        exact hres.mono _
  · intro id hid
    rcases h.mem_keys.mp hid with rfl | hid
    · exact .inr ⟨⟨w, name, e⟩, by simp, rfl⟩
    · rcases hg.nodes id hid with hroot | ⟨d, hd, rfl⟩
      · exact .inl hroot
      · exact .inr ⟨d, List.mem_append_left _ hd, rfl⟩
  · intro d hd
    rcases List.mem_append.mp hd with hd | hd
    · exact hg.apart d hd
    · cases List.mem_singleton.mp hd
      exact hfree
  · intro id es hes
    rcases h.connected.edges_nonempty hes with hold | ⟨rfl, hne⟩
    · obtain ⟨hid, hne⟩ := hg.edges id es hold
      exact ⟨h.mem_keys.mpr (.inr hid), hne⟩
    · exact ⟨h.mem_keys.mpr (.inl rfl), hne⟩

end ResourceStep

namespace RootStep

variable {component : Component} {w : Workload} {name : String} {params : Table Value}
variable {g g' : Graph} {ws : List Workload} {log : List Declaration}

theorem rootNode (h : RootStep component w name params g g') (hg : Accounted ws log g) :
    ∃ n, g'.nodes.find? (nodeId name) = some n ∧
      RootNode w name (g'.edgesOf (nodeId name)) n := by
  obtain ⟨out, deps, hc⟩ := h.collects
  have hedges : g'.edgesOf (nodeId name) = w.aliases name := by
    rcases h.edgesOf_self with ⟨hempty, heq⟩ | heq
    · rw [heq, hg.edgesOf_eq_empty h.free, Table.isEmpty_iff.mp hempty]
    · exact heq
  refine ⟨_, by rw [h.nodes_find?, if_pos rfl], rfl, ⟨params, out, deps, h.params_eq, rfl, hc⟩, rfl,
    hedges⟩

theorem accounted (h : RootStep component w name params g g') (hname : w.name = .ok name)
    (hg : Accounted ws log g) : Accounted (ws ++ [w]) log g' := by
  refine ⟨?_, ?_, ?_, ?_, ?_⟩
  · intro v hv other hother
    rcases List.mem_append.mp hv with hv | hv
    · obtain ⟨n, hn, hroot⟩ := hg.roots v hv other hother
      refine ⟨n, ?_, ?_⟩
      · rw [h.nodes_find?, if_neg (h.ne_of_find? hn), hn]
      · rw [h.edgesOf_ne (h.ne_of_find? hn)]
        exact hroot
    · cases List.mem_singleton.mp hv
      cases hname.symm.trans hother
      exact h.rootNode hg
  · intro d hd
    obtain ⟨n, hn, hpath, hres⟩ := hg.resources d hd
    refine ⟨n, ?_, hpath, ?_⟩
    · rw [h.nodes_find?, if_neg (h.ne_of_find? hn), hn]
    · rw [h.edgesOf_ne (h.ne_of_find? hn)]
      exact hres
  · intro id hid
    rw [h.nodes, Table.mem_keys_insert] at hid
    rcases hid with rfl | hid
    · exact .inl ((isRoot_append hname).mpr (.inr rfl))
    · exact (hg.nodes id hid).imp (fun hroot => (isRoot_append hname).mpr (.inl hroot)) fun hd => hd
  · intro d hd hroot
    obtain ⟨n, hn, -⟩ := hg.resources d hd
    rcases (isRoot_append hname).mp hroot with hroot | heq
    · exact hg.apart d hd hroot
    · exact h.ne_of_find? hn heq
  · intro id es hes
    rw [h.nodes, Table.mem_keys_insert]
    rw [h.edges] at hes
    split at hes
    · obtain ⟨hid, hempty⟩ := hg.edges id es hes
      exact ⟨.inr hid, hempty⟩
    · next hempty =>
      rw [Table.find?_insert] at hes
      split at hes
      · next heq =>
        cases hes
        exact ⟨.inl heq, by simpa using hempty⟩
      · obtain ⟨hid, hempty⟩ := hg.edges id es hes
        exact ⟨.inr hid, hempty⟩

end RootStep

structure Draft.Accounted (ws : List Workload) (d : Draft) : Prop where
  roots : ∀ id, IsRoot ws id → id ∈ d.workloads
  graph : Graph.Accounted ws (declarations ws) d.graph

theorem addAll_accounted {component : Component} {library : Library} {ws vs : List Workload}
    {d d' : Draft} (h : Draft.addAll component library d vs = .ok d') (hd : d.Accounted ws) :
    d'.Accounted (ws ++ vs) := by
  obtain ⟨hroots, hgraph⟩ := addAll_log h hd.roots hd.graph
    (fun _ _ _ _ _ _ _ _ _ _ hw hg hs => hs.accounted hg hw)
    fun _ _ _ _ _ _ _ hname hg hs => hs.accounted hname hg
  exact ⟨hroots, hgraph⟩

theorem draft_accounted_empty : Draft.empty.Accounted [] :=
  ⟨fun id hid => absurd hid (not_isRoot_nil id), accounted_empty⟩

section Keeping

variable {component : Component} {library : Library} {ws vs : List Workload} {g : Graph}
variable {P : List Workload → List Declaration → Graph → Prop}

/-- What every step keeps on graphs that are accounted for holds after more workloads. -/
theorem addAll_keeps {d d' : Draft} (h : Draft.addAll component library d vs = .ok d')
    (hd : d.Accounted ws) (hg : P ws (declarations ws) d.graph)
    (hresource : ∀ ws workloads log w name e n m g g', (∀ id, IsRoot ws id → id ∈ workloads) →
      Accounted ws log g → P ws log g →
      ResourceStep library workloads (w.scope name) name e n m g g' →
      P ws (log ++ [⟨w, name, e⟩]) g')
    (hroot : ∀ ws log w name params g g', w.name = .ok name → Accounted ws log g → P ws log g →
      RootStep component w name params g g' → P (ws ++ [w]) log g') :
    P (ws ++ vs) (declarations (ws ++ vs)) d'.graph := by
  have hrun := addAll_log (P := fun ws log g => Accounted ws log g ∧ P ws log g) h hd.roots
    ⟨hd.graph, hg⟩ ?_ ?_
  · exact hrun.2.2
  · intro ws workloads log w name e n m g g' hw hg hs
    exact ⟨hs.accounted hg.1 hw, hresource _ _ _ _ _ _ _ _ _ _ hw hg.1 hg.2 hs⟩
  · intro ws log w name params g g' hname hg hs
    exact ⟨hs.accounted hname hg.1, hroot _ _ _ _ _ _ _ hname hg.1 hg.2 hs⟩

/-- What holds of the empty graph and is kept by every step holds of what is built. -/
theorem ofWorkloads_keeps (h : ofWorkloads component library ws = .ok g) (hempty : P [] [] empty)
    (hresource : ∀ ws workloads log w name e n m g g', (∀ id, IsRoot ws id → id ∈ workloads) →
      Accounted ws log g → P ws log g →
      ResourceStep library workloads (w.scope name) name e n m g g' →
      P ws (log ++ [⟨w, name, e⟩]) g')
    (hroot : ∀ ws log w name params g g', w.name = .ok name → Accounted ws log g → P ws log g →
      RootStep component w name params g g' → P (ws ++ [w]) log g') :
    P ws (declarations ws) g := by
  obtain ⟨d, hd, h⟩ := bind_eq_ok.mp h
  cases pure_eq_ok.mp h
  simpa using addAll_keeps hd draft_accounted_empty hempty hresource hroot

end Keeping

/-- The graph of workloads is accounted for by what they declare. -/
theorem ofWorkloads_accounted {component : Component} {library : Library} {ws : List Workload}
    {g : Graph} (h : ofWorkloads component library ws = .ok g) :
    Accounted ws (declarations ws) g := by
  obtain ⟨d, hd, h⟩ := bind_eq_ok.mp h
  cases pure_eq_ok.mp h
  simpa using (addAll_accounted hd draft_accounted_empty).graph

end Graph

end Provision
