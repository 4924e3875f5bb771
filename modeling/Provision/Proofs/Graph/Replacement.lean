import Provision.Proofs.Graph.Edges
import Provision.Proofs.Workload.Mounts

/-!
# Other parameters for a workload

Nothing that is added to a graph looks at the parameters of the workloads that are there. So
one mounted file in place of another changes the node of its workload and no more, if it can be
collected; if it cannot, there is no graph.
-/

set_option autoImplicit false

namespace Provision

open Outcome

namespace Table

variable {α : Type}

theorem insert_insert (t : Table α) (key : String) (x y : α) :
    (t.insert key x).insert key y = t.insert key y := by
  refine ext_find? fun other z => ?_
  simp only [find?_insert]
  split <;> rfl

theorem insert_comm (t : Table α) {key other : String} (h : key ≠ other) (x y : α) :
    (t.insert key x).insert other y = (t.insert other y).insert key x := by
  refine ext_find? fun k z => ?_
  simp only [find?_insert]
  by_cases hk : k = key
  · subst hk
    simp [h]
  · simp [hk]

theorem contains_insert_of_mem {t : Table α} {key other : String} {x : α}
    (h : key ∈ t.keys) : (t.insert key x).contains other = t.contains other := by
  by_cases hk : other = key
  · subst hk
    obtain ⟨y, hy⟩ := mem_keys_iff.mp h
    simp [contains, find?_insert, hy]
  · simp [contains, find?_insert, hk]

end Table

namespace Graph

open Workload

def setNode (g : Graph) (id : String) (n : Node) : Graph :=
  { g with nodes := g.nodes.insert id n }

def Draft.setNode (d : Draft) (id : String) (n : Node) : Draft :=
  { d with graph := d.graph.setNode id n }

section Adding

variable {component : Component} {library : Library} {root : String} {n : Node}

/-- A change to what the steps after a common one do changes the whole in the same way. -/
theorem bind_map_congr {α β : Type} {x : Except Error α} {f g : α → Except Error β} {φ : β → β}
    (h : ∀ a, x = .ok a → g a = (f a).map φ) : x >>= g = (x >>= f).map φ := by
  cases x with
  | error => rfl
  | ok a => exact h a rfl

theorem connect_setNode (scope : Scope) (id identity : String) (m : Node) (g : Graph) :
    connect scope id identity m (g.setNode root n) =
      (connect scope id identity m g).map (·.setNode root n) := by
  unfold connect
  cases m.params with
  | none => rfl
  | some ps =>
    refine bind_map_congr fun r _ => ?_
    by_cases hd : r.2.isEmpty
    · simp only [hd, if_true]
      rfl
    · simp only [hd]
      exact bind_map_congr fun edges _ => rfl

/-- A resource never gets the node of a workload. -/
theorem addResource_setNode {workloads : List String} (hroot : root ∈ workloads) (scope : Scope)
    (name : String) (g : Graph) (e : String × Resource) :
    addResource library workloads scope name (g.setNode root n) e =
      (addResource library workloads scope name g e).map (·.setNode root n) := by
  unfold addResource
  dsimp only
  generalize Identifier.component (pathOf name e) = id
  by_cases hfree : workloads.contains id
  · rw [if_pos hfree, if_pos hfree]
    rfl
  -- The id of a workload is refused above, so the two nodes are put in under different ids.
  · have hne : id ≠ root := by
      rintro rfl
      exact hfree (by simpa using hroot)
    have hstart : resourceNode library (g.setNode root n) id (pathOf name e) e.2 =
        resourceNode library g id (pathOf name e) e.2 := by
      unfold resourceNode setNode
      rw [Table.find?_insert_ne _ _ hne]
    rw [if_neg hfree, if_neg hfree, hstart]
    refine bind_map_congr fun k _ => bind_map_congr fun m _ => ?_
    have hswap : (⟨(g.setNode root n).nodes.insert id m, (g.setNode root n).edges⟩ : Graph) =
        Graph.setNode ⟨g.nodes.insert id m, g.edges⟩ root n := by
      unfold setNode
      rw [Table.insert_comm _ hne.symm]
    rw [hswap]
    exact connect_setNode scope id (pathOf name e) m _

theorem addResources_setNode {workloads : List String} (hroot : root ∈ workloads) (scope : Scope)
    (name : String) (g : Graph) (es : List (String × Resource)) :
    addResources library workloads scope name (g.setNode root n) es =
      (addResources library workloads scope name g es).map (·.setNode root n) := by
  induction es generalizing g with
  | nil => rfl
  | cons e rest ih =>
    rw [addResources, addResources, addResource_setNode hroot]
    cases addResource library workloads scope name g e with
    | error => rfl
    | ok g' => exact ih g'

theorem addRoot_setNode {g : Graph} (hroot : root ∈ g.nodes.keys) (w : Workload) (name : String) :
    addRoot component w name (g.setNode root n) =
      (addRoot component w name g).map (·.setNode root n) := by
  unfold addRoot
  dsimp only
  generalize Identifier.component (Identifier.pathOfWorkload name) = id
  refine bind_map_congr fun ps _ => bind_map_congr fun _ _ => ?_
  have hcontains : (g.setNode root n).nodes.contains id = g.nodes.contains id :=
    Table.contains_insert_of_mem hroot
  rw [hcontains]
  by_cases hfree : g.nodes.contains id
  · rw [if_pos hfree, if_pos hfree]
    rfl
  · have hne : root ≠ id := by
      rintro rfl
      obtain ⟨m, hm⟩ := Table.mem_keys_iff.mp hroot
      exact hfree (by simp [Table.contains, hm])
    have hswap : ∀ m, (g.setNode root n).nodes.insert id m = (g.nodes.insert id m).insert root n :=
      fun m => Table.insert_comm _ hne n m
    rw [if_neg hfree, if_neg hfree, hswap]
    rfl

theorem mem_keys_addResources {workloads : List String} {scope : Scope} {name id : String}
    {g g' : Graph} {es : List (String × Resource)}
    (h : addResources library workloads scope name g es = .ok g') (hid : id ∈ g.nodes.keys) :
    id ∈ g'.nodes.keys := by
  induction es generalizing g with
  | nil =>
    cases h
    exact hid
  | cons e rest ih =>
    obtain ⟨g₁, h₁, h⟩ := bind_eq_ok.mp h
    obtain ⟨k, m, hs⟩ := addResource_cases h₁
    exact ih h (hs.mem_keys.mpr (.inr hid))

theorem add_setNode {d : Draft} (hw : root ∈ d.workloads) (hn : root ∈ d.graph.nodes.keys)
    (w : Workload) :
    Draft.add component library (d.setNode root n) w =
      (Draft.add component library d w).map (·.setNode root n) := by
  unfold Draft.add Draft.setNode
  refine bind_map_congr fun name _ => ?_
  dsimp only
  by_cases hnew : d.names.contains name
  · rw [if_pos hnew, if_pos hnew]
    rfl
  · rw [if_neg hnew, if_neg hnew, addResources_setNode hw]
    cases hg : addResources library d.workloads (w.scope name) name d.graph
        w.resources.entries with
    | error => rfl
    | ok g =>
      simp only [Except.map, Except.bind, bind]
      rw [addRoot_setNode (mem_keys_addResources hg hn)]
      cases addRoot component w name g <;> rfl

/-- Whatever is added, another node for a workload stays the only difference. -/
theorem addAll_setNode {d : Draft} (hw : root ∈ d.workloads) (hn : root ∈ d.graph.nodes.keys)
    (ws : List Workload) :
    Draft.addAll component library (d.setNode root n) ws =
      (Draft.addAll component library d ws).map (·.setNode root n) := by
  induction ws generalizing d with
  | nil => rfl
  | cons w rest ih =>
    rw [Draft.addAll, Draft.addAll, add_setNode hw hn]
    cases hadd : Draft.add component library d w with
    | error => rfl
    | ok d' =>
      obtain ⟨name, g, g', -, -, hres, hroot, rfl⟩ := add_cases hadd
      obtain ⟨ps, hs⟩ := addRoot_cases hroot
      refine ih (List.mem_cons_of_mem _ hw) ?_
      rw [hs.nodes]
      exact Table.mem_keys_insert.mpr (.inr (mem_keys_addResources hres hn))

end Adding

/-! ## Mounted files -/

def rootNode (component : Component) (name : String) (ps : List (String × Value)) : Node :=
  ⟨component, Identifier.pathOfWorkload name, some ps, some (nodeId name)⟩

section Mounting

variable {component : Component} {library : Library} {w : Workload} {name key : String}
variable {i : Nat} {g g' : Graph}

@[simp] theorem scope_mount (w : Workload) (name key : String) (i : Nat) (f : MountedFile) :
    (w.mount key i f).scope name = w.scope name := by
  simp only [scope, aliases, metadata_mount, resources_mount]

theorem addRoot_ok {v : Workload} {ps : Table Value} (hp : v.params = .ok ps)
    (hc : ∃ r, (v.scope name).collect ps.entries = .ok r)
    (hfree : g.nodes.find? (nodeId name) = none) :
    addRoot component v name g =
      .ok ⟨g.nodes.insert (nodeId name) (rootNode component name ps.entries),
        if (v.aliases name).isEmpty then g.edges
          else g.edges.insert (nodeId name) (v.aliases name)⟩ := by
  obtain ⟨r, hr⟩ := hc
  have hnew : ¬ g.nodes.contains (nodeId name) = true := by simp [Table.contains, hfree]
  unfold addRoot
  refine bind_eq_ok.mpr ⟨ps, hp, bind_eq_ok.mpr ⟨r, hr, ?_⟩⟩
  exact if_neg hnew

variable {outer : List (Frame Value)} {rest : List (String × Value)} {f₀ : MountedFile}

/-- With another file a workload has another node, if all strings can be collected. -/
theorem addRoot_mount (hw : w.Surrounds key i outer rest)
    (h : addRoot component (w.mount key i f₀) name g = .ok g') {f : MountedFile} {g'' : Graph} :
    addRoot component (w.mount key i f) name g = .ok g'' ↔
      (∀ s ∈ Value.stringsOfEntries (paramsAround outer rest f), (w.scope name).Collects s) ∧
      g'' = g'.setNode (nodeId name) (rootNode component name (paramsAround outer rest f)) := by
  obtain ⟨before, hs⟩ := addRoot_cases h
  obtain ⟨ps, hps, hentries⟩ := hw.params f
  have hg' : g'.setNode (nodeId name) (rootNode component name ps.entries) =
      ⟨g.nodes.insert (nodeId name) (rootNode component name ps.entries),
        if ((w.mount key i f).aliases name).isEmpty then g.edges
          else g.edges.insert (nodeId name) ((w.mount key i f).aliases name)⟩ := by
    have hedges := hs.edges
    simp only [aliases, resources_mount] at hedges ⊢
    rw [setNode, hs.nodes, Table.insert_insert, hedges]
  rw [← hentries, hg', ← Scope.exists_collect_iff, ← scope_mount w name key i f]
  constructor
  · intro hroot
    obtain ⟨qs, hs'⟩ := addRoot_cases hroot
    cases hps.symm.trans hs'.params_eq
    obtain ⟨out, deps, hc⟩ := hs'.collects
    exact ⟨⟨_, hc⟩, Except.ok.inj (hroot.symm.trans (addRoot_ok hps ⟨_, hc⟩ hs.free))⟩
  · rintro ⟨hc, rfl⟩
    exact addRoot_ok hps hc hs.free

theorem add_mount {d d' d'' : Draft} (hname : w.name = .ok name)
    (hw : w.Surrounds key i outer rest)
    (h : Draft.add component library d (w.mount key i f₀) = .ok d') {f : MountedFile} :
    Draft.add component library d (w.mount key i f) = .ok d'' ↔
      (∀ s ∈ Value.stringsOfEntries (paramsAround outer rest f), (w.scope name).Collects s) ∧
      d'' = d'.setNode (nodeId name) (rootNode component name (paramsAround outer rest f)) := by
  obtain ⟨other, g, g', hother, hnew, hres, hroot, rfl⟩ := add_cases h
  rw [name_mount, hname] at hother
  cases hother
  rw [scope_mount, resources_mount] at hres
  constructor
  · intro hadd
    obtain ⟨other, k, k', hother, -, hres', hroot', rfl⟩ := add_cases hadd
    rw [name_mount, hname] at hother
    cases hother
    rw [scope_mount, resources_mount] at hres'
    cases hres.symm.trans hres'
    obtain ⟨hc, rfl⟩ := (addRoot_mount hw hroot).mp hroot'
    exact ⟨hc, rfl⟩
  · rintro ⟨hc, rfl⟩
    have hroot' := (addRoot_mount hw hroot).mpr ⟨hc, rfl⟩
    unfold Draft.add
    refine bind_eq_ok.mpr ⟨name, by rw [name_mount, hname], ?_⟩
    rw [scope_mount, resources_mount]
    have hcontains : ¬ d.names.contains name = true := by simpa using hnew
    refine (if_neg hcontains).trans ?_
    exact bind_eq_ok.mpr ⟨g, hres, bind_eq_ok.mpr ⟨_, hroot', rfl⟩⟩

theorem exists_surrounds_of_ofWorkloads {before after : List Workload} {file : MountedFile}
    (hm : w.Mounts key i file)
    (h : ofWorkloads component library (before ++ w.mount key i f₀ :: after) = .ok g) :
    ∃ name outer rest, w.name = .ok name ∧ w.Surrounds key i outer rest := by
  obtain ⟨d, hd, -⟩ := bind_eq_ok.mp h
  rw [addAll_append] at hd
  obtain ⟨d₀, -, hd⟩ := bind_eq_ok.mp hd
  obtain ⟨d₁, hadd, -⟩ := bind_eq_ok.mp hd
  obtain ⟨name, k, k', hname, -, -, hroot, -⟩ := add_cases hadd
  obtain ⟨ps, hs⟩ := addRoot_cases hroot
  obtain ⟨outer, rest, hsurrounds⟩ := exists_surrounds hm hs.params_eq
  exact ⟨name, outer, rest, by rwa [name_mount] at hname, hsurrounds⟩

/-- Another file in place of one changes the node of its workload and nothing else, if all
strings can be collected; otherwise there is no graph. -/
theorem ofWorkloads_mount {before after : List Workload} (hname : w.name = .ok name)
    (hw : w.Surrounds key i outer rest)
    (h : ofWorkloads component library (before ++ w.mount key i f₀ :: after) = .ok g)
    {f : MountedFile} :
    ofWorkloads component library (before ++ w.mount key i f :: after) = .ok g' ↔
      (∀ s ∈ Value.stringsOfEntries (paramsAround outer rest f), (w.scope name).Collects s) ∧
      g' = g.setNode (nodeId name) (rootNode component name (paramsAround outer rest f)) := by
  obtain ⟨d, hd, h⟩ := bind_eq_ok.mp h
  cases pure_eq_ok.mp h
  rw [addAll_append] at hd
  obtain ⟨d₀, hbefore, hd⟩ := bind_eq_ok.mp hd
  obtain ⟨d₁, hadd, hafter⟩ := bind_eq_ok.mp hd
  -- The workloads that come after do not see the difference.
  have hkeep : ∀ n, Draft.addAll component library (d₁.setNode (nodeId name) n) after =
      .ok (d.setNode (nodeId name) n) := by
    intro n
    obtain ⟨other, k, k', hother, -, -, hroot, rfl⟩ := add_cases hadd
    rw [name_mount, hname] at hother
    cases hother
    obtain ⟨ps, hs⟩ := addRoot_cases hroot
    rw [addAll_setNode (by simp) (by rw [hs.nodes]; exact Table.mem_keys_insert.mpr (.inl rfl)),
      hafter]
    rfl
  constructor
  · intro hg'
    obtain ⟨d', hd', hg'⟩ := bind_eq_ok.mp hg'
    cases pure_eq_ok.mp hg'
    rw [addAll_append] at hd'
    obtain ⟨d₀', hbefore', hd'⟩ := bind_eq_ok.mp hd'
    cases hbefore.symm.trans hbefore'
    obtain ⟨d₁', hadd', hafter'⟩ := bind_eq_ok.mp hd'
    obtain ⟨hc, rfl⟩ := (add_mount hname hw hadd).mp hadd'
    cases (hkeep _).symm.trans hafter'
    exact ⟨hc, rfl⟩
  · rintro ⟨hc, rfl⟩
    refine bind_eq_ok.mpr ⟨d.setNode (nodeId name) _, ?_, rfl⟩
    rw [addAll_append]
    have hadd' := (add_mount hname hw hadd).mpr ⟨hc, rfl⟩
    exact bind_eq_ok.mpr ⟨d₀, hbefore, bind_eq_ok.mpr ⟨_, hadd', hkeep _⟩⟩

end Mounting

end Graph

end Provision
