import Provision.Proofs.Graph.Declarations
import Provision.Proofs.Graph.Exploration

/-!
# The shape of built graphs

The nodes of a graph are those of the paths that its workloads declare, one for each
path. Ids are digests, so that two paths can have the same one: a build that meets
such paths fails, and never gives them a node in common.
-/

set_option autoImplicit false

namespace Provision.Graph

open Workload Outcome

inductive Declared (ws : List Workload) : String → Prop
  | workload {w : Workload} {name : String} (hw : w ∈ ws) (hname : w.name = .ok name) :
      Declared ws (Identifier.pathOfWorkload name)
  | resource {w : Workload} {name key : String} {r : Resource} (hw : w ∈ ws)
      (hname : w.name = .ok name) (hr : (key, r) ∈ w.resources.entries) :
      Declared ws (Identifier.pathOfResource name key r.id)

theorem declared_iff {ws : List Workload} {path : String} :
    Declared ws path ↔
      (∃ w ∈ ws, ∃ name, w.name = .ok name ∧ path = Identifier.pathOfWorkload name) ∨
        ∃ d ∈ declarations ws, path = d.path := by
  constructor
  · intro h
    cases h with
    | workload hw hname => exact .inl ⟨_, hw, _, hname, rfl⟩
    | @resource w name key r hw hname hr =>
      exact .inr ⟨⟨w, name, key, r⟩, mem_declarations.mpr ⟨hw, hname, hr⟩, rfl⟩
  · rintro (⟨w, hw, name, hname, rfl⟩ | ⟨d, hd, rfl⟩)
    · exact .workload hw hname
    · obtain ⟨hw, hname, he⟩ := mem_declarations.mp hd
      exact .resource hw hname he

structure WellFormed (ws : List Workload) (g : Graph) : Prop where
  keys : ∀ id, id ∈ g.nodes.keys ↔ ∃ path, Declared ws path ∧ id = Identifier.component path
  names : ∀ path, Declared ws path →
    ∃ n, g.nodes.find? (Identifier.component path) = some n ∧ n.name = path
  sources : ∀ id es, g.edges.find? id = some es → id ∈ g.nodes.keys ∧ es.isEmpty = false
  targets : ∀ u v, g.DependsOn u v → v ∈ g.nodes.keys ∧ ¬ IsRoot ws v
  owners : ∀ id n, g.nodes.find? id = some n →
    (n.definedBy.isSome ↔ n.params.isSome) ∧
      ∀ owner, n.definedBy = some owner → owner ∈ g.nodes.keys ∧ IsRoot ws owner

namespace Accounted

variable {ws : List Workload} {g : Graph}

theorem names (h : Accounted ws (declarations ws) g) {path : String} (hp : Declared ws path) :
    ∃ n, g.nodes.find? (Identifier.component path) = some n ∧ n.name = path := by
  rcases declared_iff.mp hp with ⟨w, hw, name, hname, rfl⟩ | ⟨d, hd, rfl⟩
  · obtain ⟨n, hn, hroot⟩ := h.roots w hw name hname
    exact ⟨n, hn, hroot.name_eq⟩
  · obtain ⟨n, hn, hname, -⟩ := h.resources d hd
    exact ⟨n, hn, hname⟩

theorem mem_keys_iff (h : Accounted ws (declarations ws) g) (id : String) :
    id ∈ g.nodes.keys ↔ ∃ path, Declared ws path ∧ id = Identifier.component path := by
  constructor
  · intro hid
    rcases h.nodes id hid with ⟨w, hw, name, hname, rfl⟩ | ⟨d, hd, rfl⟩
    · exact ⟨_, .workload hw hname, rfl⟩
    · exact ⟨d.path, declared_iff.mpr (.inr ⟨d, hd, rfl⟩), rfl⟩
  · rintro ⟨path, hp, rfl⟩
    obtain ⟨n, hn, -⟩ := h.names hp
    exact Table.mem_keys_iff.mpr ⟨n, hn⟩

theorem mem_keys_of_isRoot (h : Accounted ws (declarations ws) g) {id : String}
    (hid : IsRoot ws id) : id ∈ g.nodes.keys := by
  obtain ⟨w, hw, name, hname, rfl⟩ := hid
  obtain ⟨n, hn, -⟩ := h.roots w hw name hname
  exact Table.mem_keys_iff.mpr ⟨n, hn⟩

/-- Edges lead to declared resources: they come from the aliases of a workload. -/
theorem target_declared (h : Accounted ws (declarations ws) g) {u v : String}
    (hv : g.DependsOn u v) : ∃ d ∈ declarations ws, v = d.id := by
  obtain ⟨key, hkey⟩ := hv
  have halias : ∃ w ∈ ws, ∃ name, w.name = .ok name ∧ (w.aliases name).find? key = some v := by
    cases hu : g.nodes.find? u with
    | none =>
      rw [h.edgesOf_eq_empty hu] at hkey
      cases hkey
    | some n =>
      by_cases hroot : IsRoot ws u
      · obtain ⟨w, hw, name, hname, rfl⟩ := hroot
        obtain ⟨n, -, hroot⟩ := h.roots w hw name hname
        rw [hroot.edges_eq] at hkey
        exact ⟨w, hw, name, hname, hkey⟩
      · cases h.resourceNode hu hroot with
        | bare _ _ he =>
          rw [he] at hkey
          cases hkey
        | supplied hd _ _ he =>
          obtain ⟨hw, hname, -⟩ := mem_declarations.mp hd
          exact ⟨_, hw, _, hname, ((Scope.collect_find? he key v).mp hkey).2⟩
  obtain ⟨w, hw, name, hname, hfind⟩ := halias
  obtain ⟨r, hr, rfl⟩ := aliases_find?.mp hfind
  exact ⟨⟨w, name, key, r⟩, mem_declarations.mpr ⟨hw, hname, hr⟩, rfl⟩

/-- Parameters come with the node of the workload that supplied them. -/
theorem definedBy (h : Accounted ws (declarations ws) g) {id : String} {n : Node}
    (hn : g.nodes.find? id = some n) :
    n.params = none ∧ n.definedBy = none ∨
      ∃ ps owner, n.params = some ps ∧ n.definedBy = some owner ∧ IsRoot ws owner := by
  by_cases hroot : IsRoot ws id
  · obtain ⟨w, hw, name, hname, rfl⟩ := hroot
    obtain ⟨m, hm, hroot⟩ := h.roots w hw name hname
    cases hn.symm.trans hm
    obtain ⟨ps, -, -, -, hp, -⟩ := hroot.params
    exact .inr ⟨_, _, hp, hroot.definedBy, w, hw, name, hname, rfl⟩
  · cases h.resourceNode hn hroot with
    | bare hp hd => exact .inl ⟨hp, hd⟩
    | supplied hlog hp hd =>
      obtain ⟨hw, hname, -⟩ := mem_declarations.mp hlog
      exact .inr ⟨_, _, hp, hd, _, hw, _, hname, rfl⟩

theorem wellFormed (h : Accounted ws (declarations ws) g) : WellFormed ws g := by
  refine ⟨h.mem_keys_iff, fun path hp => h.names hp, h.edges, ?_, ?_⟩
  · intro u v hv
    obtain ⟨d, hd, rfl⟩ := h.target_declared hv
    obtain ⟨n, hn, -⟩ := h.resources d hd
    exact ⟨Table.mem_keys_iff.mpr ⟨n, hn⟩, h.apart d hd⟩
  · intro id n hn
    rcases h.definedBy hn with ⟨hp, hd⟩ | ⟨ps, owner, hp, hd, hroot⟩
    · simp [hp, hd]
    · refine ⟨by simp [hp, hd], ?_⟩
      intro other hother
      cases hd.symm.trans hother
      exact ⟨h.mem_keys_of_isRoot hroot, hroot⟩

end Accounted

/-- A graph that is built is well formed, and none is built for different paths of
the same id. -/
theorem ofWorkloads_wellFormed (component : Component) (library : Library)
    (ws : List Workload) :
    (∀ g, ofWorkloads component library ws = .ok g → WellFormed ws g) ∧
      ∀ path other, Declared ws path → Declared ws other → path ≠ other →
        Identifier.component path = Identifier.component other →
        ∃ e, ofWorkloads component library ws = .error e := by
  refine ⟨fun g hg => (ofWorkloads_accounted hg).wellFormed, ?_⟩
  intro path other hp ho hne hid
  cases hg : ofWorkloads component library ws with
  | error e => exact ⟨e, rfl⟩
  | ok g =>
    obtain ⟨n, hn, rfl⟩ := (ofWorkloads_accounted hg).names hp
    obtain ⟨m, hm, rfl⟩ := (ofWorkloads_accounted hg).names ho
    rw [hid] at hn
    cases hn.symm.trans hm
    exact absurd rfl hne

def sessions (users : String) : Workload :=
  ⟨"", Table.ofList [("name", .string "shop")], Table.empty, none,
    Table.ofList
      [("cart", ⟨"cache", none, some "sessiONstoreprImary", none, none⟩),
        ("user", ⟨"cache", none, some users, none, some (Table.ofList
          [("peer", .string "$\x7bresources.cart.host\x7d")])⟩)]⟩

def caches : Library := [⟨⟨"mem", "New", "Args"⟩, "cache", .empty, .empty⟩]

theorem ofWorkloads_wellFormed_sessions :
    (∃ g, ofWorkloads ⟨"site", "New", "Args"⟩ caches [sessions "users"] = .ok g ∧
        WellFormed [sessions "users"] g) ∧
      -- the two identities differ in the case of letters only, and have the same digest
      ∃ e, ofWorkloads ⟨"site", "New", "Args"⟩ caches [sessions "sessioNSTorEPrimaRY"] =
        .error e := by
  constructor
  · obtain ⟨g, hg⟩ : ∃ g, ofWorkloads ⟨"site", "New", "Args"⟩ caches [sessions "users"] = .ok g :=
      exists_eq_ok (by decide +kernel)
    exact ⟨g, hg, (ofWorkloads_wellFormed _ _ _).1 g hg⟩
  · have hname : (sessions "sessioNSTorEPrimaRY").name = .ok "shop" := rfl
    refine (ofWorkloads_wellFormed _ _ _).2 "shared.sessiONstoreprImary"
      "shared.sessioNSTorEPrimaRY" ?_ ?_ (by decide) (by decide +kernel)
    · exact .resource (List.mem_singleton_self _) hname (.head _)
    · exact .resource (List.mem_singleton_self _) hname (.tail _ (.head _))

end Provision.Graph
