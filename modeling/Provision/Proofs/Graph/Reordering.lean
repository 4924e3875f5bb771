import Provision.Proofs.Graph.Shape
import Provision.Proofs.Graph.Supply

/-!
# Workloads in another order

Of the declarations of a resource the first one picks the component and the first
supplier picks the parameters, so a graph depends on the order of its workloads while it
is built. What is built does not: where the workloads have a graph in two orders, all
suppliers agree in both, and the graphs differ at most in who supplied the parameters.
-/

set_option autoImplicit false

namespace Provision

/-- Whether two nodes provision the same. Parameters are the same tree, or one and the
same where a not-a-number keeps a tree from being the same as itself. -/
structure Node.Matches (n m : Node) : Prop where
  component : m.component = n.component
  name : m.name = n.name
  absent : m.params = none ↔ n.params = none
  same : ∀ ps qs, n.params = some ps → m.params = some qs →
    Value.hasNaNEntries ps = false → Value.sameEntries ps qs = true
  identical : ∀ ps qs, n.params = some ps → m.params = some qs →
    Value.hasNaNEntries ps = true → qs = ps

namespace Graph

open Workload Outcome

section Components

/-- Whether nodes have the component of all workloads, or what the library has for a
declaration of theirs. -/
structure Stocked (component : Component) (library : Library) (ws : List Workload)
    (log : List Declaration) (g : Graph) : Prop where
  roots : ∀ id n, g.nodes.find? id = some n → IsRoot ws id → n.component = component
  resources : ∀ id n, g.nodes.find? id = some n → ¬ IsRoot ws id →
    ∃ d ∈ log, d.path = n.name ∧
      library.lookup d.entry.2.type d.entry.2.effectiveClass d.path = .ok n.component

variable {component : Component} {library : Library} {ws : List Workload}
variable {log : List Declaration} {w : Workload} {name : String} {g g' : Graph}

theorem ResourceStep.component_eq {workloads : List String} {scope : Scope}
    {e : String × Resource} {n m : Node}
    (h : ResourceStep library workloads scope name e n m g g') : m.component = n.component := by
  cases h.supplied <;> rfl

theorem ResourceStep.stocked {workloads : List String} {e : String × Resource} {n m : Node}
    (h : ResourceStep library workloads (w.scope name) name e n m g g')
    (hw : ∀ id, IsRoot ws id → id ∈ workloads) (hg : Stocked component library ws log g) :
    Stocked component library ws (log ++ [⟨w, name, e⟩]) g' := by
  refine ⟨?_, ?_⟩
  · intro id k hk hroot
    have hid : id ≠ resourceId name e := fun heq => h.free (heq ▸ hw id hroot)
    rw [h.nodes_find?, if_neg hid] at hk
    exact hg.roots id k hk hroot
  · intro id k hk hroot
    rw [h.nodes_find?] at hk
    split at hk
    · next hid =>
      cases hk
      cases hbefore : g.nodes.find? (resourceId name e) with
      | none =>
        have hstart := h.provided
        rw [hbefore] at hstart
        cases hstart with
        | looked hc =>
          refine ⟨⟨w, name, e⟩, by simp, h.name_eq.symm, ?_⟩
          rw [h.component_eq]
          exact hc
      | some k =>
        cases h.start_eq hbefore
        obtain ⟨d, hd, hpath, hlookup⟩ := hg.resources _ _ hbefore (hid ▸ hroot)
        refine ⟨d, List.mem_append_left _ hd, ?_, ?_⟩
        · rw [hpath, h.supplied.name_eq]
        · rw [h.component_eq]
          exact hlookup
    · obtain ⟨d, hd, hstocked⟩ := hg.resources id k hk hroot
      exact ⟨d, List.mem_append_left _ hd, hstocked⟩

theorem RootStep.stocked {params : Table Value} (h : RootStep component w name params g g')
    (hname : w.name = .ok name) (hg : Stocked component library ws log g) :
    Stocked component library (ws ++ [w]) log g' := by
  refine ⟨?_, ?_⟩
  · intro id n hn hroot
    rw [h.nodes_find?] at hn
    split at hn
    · cases hn
      rfl
    · next hid =>
      exact hg.roots id n hn (((isRoot_append hname).mp hroot).resolve_right hid)
  · intro id n hn hroot
    have hid : id ≠ nodeId name := fun heq => hroot ((isRoot_append hname).mpr (.inr heq))
    rw [h.nodes_find?, if_neg hid] at hn
    exact hg.resources id n hn fun hold => hroot ((isRoot_append hname).mpr (.inl hold))

theorem ofWorkloads_stocked (h : ofWorkloads component library ws = .ok g) :
    Stocked component library ws (declarations ws) g := by
  refine ofWorkloads_keeps h ?_ ?_ ?_
  · refine ⟨?_, ?_⟩ <;> intro id n hn <;> simp [empty] at hn
  · intro ws workloads log w name e n m g g' hw _ hg hstep
    exact hstep.stocked hw hg
  · intro ws log w name params g g' hname _ hg hstep
    exact hstep.stocked hname hg

end Components

section Agreement

variable {log log' : List Declaration} {path : String} {edges edges' : Table String}
variable {n m : Node}

/-- Trees that are the same have the same dependencies in a scope. -/
theorem collect_deps_of_same {scope : Scope} {ps qs out out' : List (String × Value)}
    (hsame : Value.sameEntries ps qs = true) (h : scope.collect ps = .ok (out, edges))
    (h' : scope.collect qs = .ok (out', edges')) : edges' = edges := by
  refine Table.ext_find? fun key node => ?_
  have hnames : Value.Names qs key ↔ Value.Names ps key := by
    unfold Value.Names
    rw [Value.stringsOfEntries_of_same hsame]
  rw [Scope.collect_find? h, Scope.collect_find? h', hnames]

/-- Agreement on the same declarations in any order is agreement on the same: the one
that decides in the second order is one that decides or agrees in the first. -/
theorem Agreed.reordered (hlog : ∀ d, d ∈ log ↔ d ∈ log') (hn : Agreed log path edges n)
    (hm : Agreed log' path edges' m) :
    edges' = edges ∧ (m.params = none ↔ n.params = none) ∧
      ∀ ps qs, n.params = some ps → m.params = some qs →
        qs = ps ∨ Value.sameEntries ps qs = true := by
  cases hn with
  | undecided hnone hp _ he =>
    cases hm with
    | undecided _ hq _ he' =>
      refine ⟨by rw [he, he'], by rw [hp, hq], ?_⟩
      intro ps qs hps
      rw [hp] at hps
      cases hps
    | @decided _ _ d _ hd =>
      have hmem : d ∈ log := (hlog d).mpr (by simp [hd.log_eq])
      exact absurd hd.supplies (hnone d hmem)
  | @decided before after c out hc =>
    cases hm with
    | undecided hnone =>
      have hmem : c ∈ log' := (hlog c).mp (by simp [hc.log_eq])
      exact absurd hc.supplies (hnone c hmem)
    | @decided before' after' d out' hd =>
      have hmem : d ∈ before ++ c :: after := by
        rw [← hc.log_eq, hlog, hd.log_eq]
        simp
      have hlate : d ∈ c :: after :=
        (List.mem_append.mp hmem).resolve_left fun hearly => hc.first d hearly hd.supplies
      have hout : out' = out ∨ Value.sameEntries out out' = true := by
        rcases List.mem_cons.mp hlate with rfl | hafter
        · exact .inl (hc.yields.unique hd.yields)
        · obtain ⟨other, hother, hsame⟩ := hc.agree d hafter hd.supplies
          cases hd.yields.unique hother
          exact .inr hsame
      obtain ⟨_, hcollect⟩ := hc.collects d hlate hd.supplies.1
      obtain ⟨_, hcollect'⟩ := hd.collects d List.mem_cons_self hd.supplies.1
      refine ⟨?_, by simp [hc.params_eq, hd.params_eq], ?_⟩
      · rcases hout with rfl | hsame
        · cases hcollect.symm.trans hcollect'
          rfl
        · exact collect_deps_of_same hsame hcollect hcollect'
      · intro ps qs hps hqs
        cases hc.params_eq.symm.trans hps
        cases hd.params_eq.symm.trans hqs
        exact hout

end Agreement

section Reordering

variable {component : Component} {library : Library} {ws vs : List Workload} {g h : Graph}

theorem mem_declarations_perm (hperm : ws.Perm vs) (d : Declaration) :
    d ∈ declarations ws ↔ d ∈ declarations vs := by
  rw [mem_declarations, mem_declarations, hperm.mem_iff]

theorem declared_perm (hperm : ws.Perm vs) {path : String} (hp : Declared ws path) :
    Declared vs path := by
  cases hp with
  | workload hw hname => exact .workload (hperm.mem_iff.mp hw) hname
  | resource hw hname hr => exact .resource (hperm.mem_iff.mp hw) hname hr

theorem Accounted.keys_perm (hg : Accounted ws (declarations ws) g)
    (hh : Accounted vs (declarations vs) h) (hperm : ws.Perm vs) : h.nodes.keys = g.nodes.keys := by
  refine Table.keys_ext fun id => ?_
  rw [hg.mem_keys_iff, hh.mem_keys_iff]
  refine exists_congr fun path => and_congr_left fun _ => ?_
  exact ⟨declared_perm hperm.symm, declared_perm hperm⟩

/-- The nodes of a resource in both orders. -/
theorem exists_agreed_perm (hperm : ws.Perm vs) (hg : ofWorkloads component library ws = .ok g)
    (hh : ofWorkloads component library vs = .ok h) {d : Declaration} (hd : d ∈ declarations ws) :
    ∃ n m, g.nodes.find? d.id = some n ∧ h.nodes.find? d.id = some m ∧ n.name = d.path ∧
      m.name = d.path ∧ Agreed (declarations ws) d.path (g.edgesOf d.id) n ∧
      Agreed (declarations vs) d.path (h.edgesOf d.id) m := by
  obtain ⟨n, hn, hname, hagreed⟩ := exists_agreed hg hd
  obtain ⟨m, hm, hname', hagreed'⟩ := exists_agreed hh ((mem_declarations_perm hperm d).mp hd)
  exact ⟨n, m, hn, hm, hname, hname', hagreed, hagreed'⟩

theorem edgesOf_perm (hperm : ws.Perm vs) (hg : ofWorkloads component library ws = .ok g)
    (hh : ofWorkloads component library vs = .ok h) (id : String) :
    h.edgesOf id = g.edgesOf id := by
  have hag := ofWorkloads_accounted hg
  have hah := ofWorkloads_accounted hh
  by_cases hid : id ∈ g.nodes.keys
  · rcases hag.nodes id hid with ⟨w, hw, name, hname, rfl⟩ | ⟨d, hd, rfl⟩
    · obtain ⟨_, -, hroot⟩ := hag.roots w hw name hname
      obtain ⟨_, -, hroot'⟩ := hah.roots w (hperm.mem_iff.mp hw) name hname
      rw [hroot.edges_eq, hroot'.edges_eq]
    · obtain ⟨n, m, -, -, -, -, hn, hm⟩ := exists_agreed_perm hperm hg hh hd
      exact (hn.reordered (mem_declarations_perm hperm) hm).1
  · have hid' : id ∉ h.nodes.keys := by rwa [hag.keys_perm hah hperm]
    rw [Table.mem_keys_iff, ← Option.isSome_iff_exists, Bool.not_eq_true,
      Option.isSome_eq_false_iff, Option.isNone_iff_eq_none] at hid hid'
    rw [hag.edgesOf_eq_empty hid, hah.edgesOf_eq_empty hid']

/-- Stored edges are those of a node that has any. -/
theorem Accounted.edges_find? {log : List Declaration} (hg : Accounted ws log g) {id : String}
    {es : Table String} :
    g.edges.find? id = some es ↔ g.edgesOf id = es ∧ es.isEmpty = false := by
  unfold edgesOf
  constructor
  · intro hes
    exact ⟨by rw [hes]; rfl, (hg.edges id es hes).2⟩
  · rintro ⟨hes, hne⟩
    cases hfind : g.edges.find? id with
    | none =>
      rw [hfind] at hes
      rw [← hes] at hne
      cases hne
    | some found =>
      rw [hfind] at hes
      exact congrArg some hes

theorem matches_of_params {n m : Node} (hc : m.component = n.component) (hname : m.name = n.name)
    (habsent : m.params = none ↔ n.params = none)
    (hsame : ∀ ps qs, n.params = some ps → m.params = some qs →
      qs = ps ∨ Value.sameEntries ps qs = true) : n.Matches m := by
  refine ⟨hc, hname, habsent, ?_, ?_⟩
  · intro ps qs hps hqs hnan
    rcases hsame ps qs hps hqs with rfl | hsame
    · rw [Value.sameEntries_self, hnan]
      rfl
    · exact hsame
  · intro ps qs hps hqs hnan
    refine (hsame ps qs hps hqs).resolve_right fun hsame => ?_
    have hself := Value.sameEntries_trans hsame (Value.sameEntries_symm hsame)
    rw [Value.sameEntries_self, hnan] at hself
    cases hself

def Uniform (log : List Declaration) : Prop :=
  ∀ c ∈ log, ∀ d ∈ log, c.path = d.path →
    c.entry.2.type = d.entry.2.type ∧ c.entry.2.effectiveClass = d.entry.2.effectiveClass

instance (log : List Declaration) : Decidable (Uniform log) :=
  inferInstanceAs (Decidable (∀ c ∈ log, ∀ d ∈ log, c.path = d.path →
    c.entry.2.type = d.entry.2.type ∧ c.entry.2.effectiveClass = d.entry.2.effectiveClass))

theorem root_matches (hperm : ws.Perm vs) (hg : ofWorkloads component library ws = .ok g)
    (hh : ofWorkloads component library vs = .ok h) {id : String} {n m : Node}
    (hn : g.nodes.find? id = some n) (hm : h.nodes.find? id = some m) (hid : IsRoot ws id) :
    n.Matches m := by
  obtain ⟨w, hw, name, hname, rfl⟩ := hid
  have hv : w ∈ vs := hperm.mem_iff.mp hw
  obtain ⟨n', hn', hroot⟩ := (ofWorkloads_accounted hg).roots w hw name hname
  obtain ⟨m', hm', hroot'⟩ := (ofWorkloads_accounted hh).roots w hv name hname
  cases hn.symm.trans hn'
  cases hm.symm.trans hm'
  have hcn := (ofWorkloads_stocked hg).roots _ n hn ⟨w, hw, name, hname, rfl⟩
  have hcm := (ofWorkloads_stocked hh).roots _ m hm ⟨w, hv, name, hname, rfl⟩
  obtain ⟨ps, _, _, hps, hpn, -⟩ := hroot.params
  obtain ⟨qs, _, _, hqs, hpm, -⟩ := hroot'.params
  cases hps.symm.trans hqs
  have heq : m.params = n.params := by rw [hpn, hpm]
  refine matches_of_params (by rw [hcn, hcm]) (by rw [hroot.name_eq, hroot'.name_eq])
    (by rw [heq]) ?_
  intro ps qs hps hqs
  rw [heq, hps] at hqs
  cases hqs
  exact .inl rfl

theorem resource_matches (hperm : ws.Perm vs) (hg : ofWorkloads component library ws = .ok g)
    (hh : ofWorkloads component library vs = .ok h) (hu : Uniform (declarations ws))
    {d : Declaration} {n m : Node} (hd : d ∈ declarations ws) (hn : g.nodes.find? d.id = some n)
    (hm : h.nodes.find? d.id = some m) : n.Matches m := by
  obtain ⟨n', m', hn', hm', hname, hname', hagreed, hagreed'⟩ :=
    exists_agreed_perm hperm hg hh hd
  cases hn.symm.trans hn'
  cases hm.symm.trans hm'
  -- both components were looked up for declarations that ask for the same
  obtain ⟨b, hb, hbpath, hblookup⟩ := (ofWorkloads_stocked hg).resources _ n hn
    ((ofWorkloads_accounted hg).apart d hd)
  obtain ⟨c, hc, hcpath, hclookup⟩ := (ofWorkloads_stocked hh).resources _ m hm
    ((ofWorkloads_accounted hh).apart d ((mem_declarations_perm hperm d).mp hd))
  have hpath : b.path = c.path := by rw [hbpath, hcpath, hname, hname']
  obtain ⟨htype, hclass⟩ := hu b hb c ((mem_declarations_perm hperm c).mpr hc) hpath
  rw [htype, hclass, hpath, hclookup] at hblookup
  obtain ⟨-, habsent, hsame⟩ := hagreed.reordered (mem_declarations_perm hperm) hagreed'
  exact matches_of_params (Except.ok.inj hblookup) (by rw [hname, hname']) habsent hsame

/-- Workloads that have a graph in two orders have the same one, up to who supplied the
parameters, if their declarations of a resource ask for the same component. -/
theorem ofWorkloads_perm (hperm : ws.Perm vs) (hg : ofWorkloads component library ws = .ok g)
    (hh : ofWorkloads component library vs = .ok h) (hu : Uniform (declarations ws)) :
    h.nodes.keys = g.nodes.keys ∧
      (∀ id n m, g.nodes.find? id = some n → h.nodes.find? id = some m → n.Matches m) ∧
      h.edges = g.edges := by
  have hag := ofWorkloads_accounted hg
  have hah := ofWorkloads_accounted hh
  refine ⟨hag.keys_perm hah hperm, ?_, ?_⟩
  · intro id n m hn hm
    rcases hag.nodes id (Table.mem_keys_iff.mpr ⟨n, hn⟩) with hroot | ⟨d, hd, rfl⟩
    · exact root_matches hperm hg hh hn hm hroot
    · exact resource_matches hperm hg hh hu hd hn hm
  · refine Table.ext_find? fun id es => ?_
    rw [hag.edges_find?, hah.edges_find?, edgesOf_perm hperm hg hh]

/-- The database has its parameters from the second tenant or from the third one. -/
theorem ofWorkloads_perm_tenants :
    ∃ g h, ofWorkloads ⟨"site", "New", "Args"⟩ databases tenants = .ok g ∧
      ofWorkloads ⟨"site", "New", "Args"⟩ databases tenants.reverse = .ok h ∧
      Uniform (declarations tenants) ∧ h.nodes.keys = g.nodes.keys ∧
      (∀ id n m, g.nodes.find? id = some n → h.nodes.find? id = some m → n.Matches m) ∧
      h.edges = g.edges := by
  obtain ⟨g, hg⟩ : ∃ g, ofWorkloads ⟨"site", "New", "Args"⟩ databases tenants = .ok g :=
    exists_eq_ok (by decide +kernel)
  obtain ⟨h, hh⟩ : ∃ h, ofWorkloads ⟨"site", "New", "Args"⟩ databases tenants.reverse = .ok h :=
    exists_eq_ok (by decide +kernel)
  have hu : Uniform (declarations tenants) := by decide +kernel
  exact ⟨g, h, hg, hh, hu, ofWorkloads_perm (List.reverse_perm _).symm hg hh hu⟩

def undetermined : List Workload :=
  [tenant "first" "core" (some (Table.ofList [("share", .float .notANumber)])),
    tenant "second" "edge" none]

/-- Parameters need not be the same in both orders: not-a-numbers never are. -/
theorem not_sameEntries_undetermined :
    ¬ ∀ (component : Component) (library : Library) (ws vs : List Workload) (g h : Graph),
      ws.Perm vs → ofWorkloads component library ws = .ok g →
      ofWorkloads component library vs = .ok h → Uniform (declarations ws) →
      ∀ id n m ps qs, g.nodes.find? id = some n → h.nodes.find? id = some m →
        n.params = some ps → m.params = some qs → Value.sameEntries ps qs = true := by
  intro hall
  have hrun : (do
      let g ← ofWorkloads ⟨"site", "New", "Args"⟩ databases undetermined
      let h ← ofWorkloads ⟨"site", "New", "Args"⟩ databases undetermined.reverse
      return do
        let n ← g.nodes.find? (Identifier.component "shared.main")
        let m ← h.nodes.find? (Identifier.component "shared.main")
        let ps ← n.params
        let qs ← m.params
        return Value.sameEntries ps qs) = (.ok (some false) : Except Error (Option Bool)) := by
    decide +kernel
  obtain ⟨g, hg, hrun⟩ := bind_eq_ok.mp hrun
  obtain ⟨h, hh, hrun⟩ := bind_eq_ok.mp hrun
  obtain ⟨n, hn, hrun⟩ := Option.bind_eq_some_iff.mp (pure_eq_ok.mp hrun)
  obtain ⟨m, hm, hrun⟩ := Option.bind_eq_some_iff.mp hrun
  obtain ⟨ps, hps, hrun⟩ := Option.bind_eq_some_iff.mp hrun
  obtain ⟨qs, hqs, hrun⟩ := Option.bind_eq_some_iff.mp hrun
  have hsame := hall _ _ _ _ g h (List.reverse_perm _).symm hg hh (by decide +kernel) _ n m ps qs
    hn hm hps hqs
  rw [hsame] at hrun
  cases hrun

end Reordering

end Graph

end Provision
