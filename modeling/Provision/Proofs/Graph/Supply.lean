import Provision.Proofs.Graph.Declarations
import Provision.Proofs.Sameness

/-!
# Who supplies parameters

Any number of declarations can share a path, and any of them can supply parameters.
The first one that does decides on those of the node. Each later one is taken only if
its own parameters, with the metadata of its own workload in place, come to the same
tree, and if its aliases lead to the nodes that the first one depends on.
-/

set_option autoImplicit false

namespace Provision.Graph

open Workload Outcome

namespace Declaration

def Supplies (d : Declaration) (path : String) : Prop :=
  d.path = path ∧ d.entry.2.params.isSome = true

def Yields (d : Declaration) (out : List (String × Value)) : Prop :=
  ∃ params deps, d.entry.2.params = some params ∧
    d.scope.collect params.entries = .ok (out, deps)

theorem Yields.supplies {d : Declaration} {out : List (String × Value)} (h : d.Yields out) :
    d.Supplies d.path := by
  obtain ⟨params, -, hparams, -⟩ := h
  exact ⟨rfl, by rw [hparams]; rfl⟩

theorem Yields.unique {d : Declaration} {out other : List (String × Value)} (h : d.Yields out)
    (ho : d.Yields other) : other = out := by
  obtain ⟨params, deps, hparams, hc⟩ := h
  obtain ⟨params', deps', hparams', hc'⟩ := ho
  cases hparams.symm.trans hparams'
  cases hc.symm.trans hc'
  rfl

end Declaration

/-- The first declaration of a path that supplies parameters, with those before and
after it. What it yields are the parameters of the node, all later ones agree, and the
edges of the node are what these parameters depend on in any of their scopes. -/
structure Decided (log : List Declaration) (path : String) (edges : Table String) (n : Node)
    (before : List Declaration) (d : Declaration) (after : List Declaration)
    (out : List (String × Value)) : Prop where
  log_eq : log = before ++ d :: after
  first : ∀ c ∈ before, ¬ c.Supplies path
  supplies : d.Supplies path
  yields : d.Yields out
  params_eq : n.params = some out
  definedBy : n.definedBy = some d.owner
  agree : ∀ c ∈ after, c.Supplies path →
    ∃ other, c.Yields other ∧ Value.sameEntries out other = true
  collects : ∀ c ∈ d :: after, c.path = path →
    ∃ other, c.scope.collect out = .ok (other, edges)

inductive Agreed (log : List Declaration) (path : String) (edges : Table String) (n : Node) : Prop
  | undecided (hlog : ∀ c ∈ log, ¬ c.Supplies path) (hp : n.params = none)
      (hd : n.definedBy = none) (he : edges = Table.empty)
  | decided {before after : List Declaration} {d : Declaration} {out : List (String × Value)}
      (h : Decided log path edges n before d after out)

section Logging

variable {log before after : List Declaration} {path : String} {edges : Table String} {n : Node}
variable {c d : Declaration} {out : List (String × Value)}

/-- A decision stands when one more declaration agrees with it. -/
theorem Decided.concat (h : Decided log path edges n before d after out)
    (hagree : c.Supplies path → ∃ other, c.Yields other ∧ Value.sameEntries out other = true)
    (hcollects : c.path = path → ∃ other, c.scope.collect out = .ok (other, edges)) :
    Decided (log ++ [c]) path edges n before d (after ++ [c]) out := by
  refine ⟨?_, h.first, h.supplies, h.yields, h.params_eq, h.definedBy, ?_, ?_⟩
  · rw [h.log_eq, List.append_assoc, List.cons_append]
  · exact List.forall_mem_append.mpr ⟨h.agree, List.forall_mem_singleton.mpr hagree⟩
  · rw [← List.cons_append]
    exact List.forall_mem_append.mpr ⟨h.collects, List.forall_mem_singleton.mpr hcollects⟩

theorem not_supplies_concat (h : ∀ b ∈ log, ¬ b.Supplies path) (hc : ¬ c.Supplies path) :
    ∀ b ∈ log ++ [c], ¬ b.Supplies path :=
  List.forall_mem_append.mpr ⟨h, List.forall_mem_singleton.mpr hc⟩

/-- Declarations of other paths do not matter. -/
theorem Agreed.skip (h : Agreed log path edges n) (hc : c.path ≠ path) :
    Agreed (log ++ [c]) path edges n := by
  cases h with
  | undecided hlog hp hd he =>
    exact .undecided (not_supplies_concat hlog fun hs => hc hs.1) hp hd he
  | decided h =>
    exact .decided (h.concat (fun hs => absurd hs.1 hc) fun hpath => absurd hpath hc)

end Logging

/-- Parameters for a node that has some come to the same tree. -/
theorem Supplied.agrees {scope : Scope} {owner : String} {r : Resource} {n m : Node}
    {out : List (String × Value)} (h : Supplied scope owner r n m) (hp : n.params = some out)
    (hr : r.params.isSome = true) :
    ∃ params deps other, r.params = some params ∧
      scope.collect params.entries = .ok (other, deps) ∧ Value.sameEntries out other = true := by
  cases h with
  | nothing hnone =>
    rw [hnone] at hr
    cases hr
  | again hsome hc hn hsame =>
    cases hn.symm.trans hp
    exact ⟨_, _, _, hsome, hc, hsame⟩
  | first _ _ hn =>
    rw [hp] at hn
    cases hn

section Collecting

variable {scope other : Scope} {ps out : List (String × Value)}

/-- A node that is declared again has in the scope of the declaration what it has as
edges already. -/
theorem Connected.collect_again {id identity : String} {n : Node} {g g' : Graph}
    (h : Connected scope id identity n g g') (hp : n.params = some ps)
    (he : other.collect ps = .ok (out, g.edgesOf id)) :
    ∃ out, scope.collect ps = .ok (out, g.edgesOf id) := by
  have hkept := h.edgesOf_again hp he
  cases h with
  | bare hn =>
    rw [hp] at hn
    cases hn
  | independent hn hc =>
    cases hn.symm.trans hp
    have hdeps := Scope.collect_deps_eq hc he (by simp)
    exact ⟨_, hdeps ▸ hc⟩
  | @joined _ _ deps edges hn hc _ hj =>
    cases hn.symm.trans hp
    rw [edgesOf_insert, if_pos rfl] at hkept
    have hdeps := Scope.collect_deps_eq hc he fun key node hfind => by
      have hjoined := (joinEdges_find? hj key node).mpr (.inr (Table.find?_eq_some_iff.mp hfind))
      rw [hkept] at hjoined
      exact hjoined
    exact ⟨_, hdeps ▸ hc⟩

end Collecting

def Settled (ws : List Workload) (log : List Declaration) (g : Graph) : Prop :=
  ∀ id n, g.nodes.find? id = some n → ¬ IsRoot ws id → Agreed log n.name (g.edgesOf id) n

namespace ResourceStep

variable {library : Library} {workloads : List String} {w : Workload} {name : String}
variable {e : String × Resource} {n m : Node} {g g' : Graph}
variable {ws : List Workload} {log : List Declaration}

/-- A declaration starts from a node that the declarations before agree on. -/
theorem provided_agreed (h : ResourceStep library workloads (w.scope name) name e n m g g')
    (hg : Accounted ws log g) (hs : Settled ws log g) (hfree : ¬ IsRoot ws (resourceId name e)) :
    Agreed log (pathOf name e) (g.edgesOf (resourceId name e)) n := by
  cases hbefore : g.nodes.find? (resourceId name e) with
  | none =>
    have hstart := h.provided
    rw [hbefore] at hstart
    cases hstart
    refine .undecided ?_ rfl rfl (hg.edgesOf_eq_empty hbefore)
    rintro c hc ⟨hpath, -⟩
    obtain ⟨k, hk, -⟩ := hg.resources c hc
    have hid : c.id = resourceId name e := congrArg Identifier.component hpath
    rw [hid, hbefore] at hk
    cases hk
  | some k =>
    cases h.start_eq hbefore
    rw [← h.provided.name_eq]
    exact hs _ _ hbefore hfree

theorem agreed (h : ResourceStep library workloads (w.scope name) name e n m g g')
    (hn : Agreed log (pathOf name e) (g.edgesOf (resourceId name e)) n) :
    Agreed (log ++ [⟨w, name, e⟩]) (pathOf name e) (g'.edgesOf (resourceId name e)) m := by
  cases hn with
  | undecided hlog hp hd he =>
    cases h.supplied with
    | nothing hr =>
      refine .undecided (not_supplies_concat hlog ?_) hp hd ?_
      · rintro ⟨-, hsome⟩
        simp [hr] at hsome
      · rw [h.connected.eq_of_params hp]
        exact he
    | again _ _ hn =>
      rw [hp] at hn
      cases hn
    | first hr hc =>
      -- nobody supplied parameters before, so this declaration decides
      have hedges := h.connected.collect_edgesOf rfl he
      refine .decided ⟨rfl, hlog, ⟨rfl, by simp [hr]⟩, ⟨_, _, hr, hc⟩, rfl, rfl, ?_, ?_⟩
      · exact List.forall_mem_nil _
      · exact List.forall_mem_singleton.mpr fun _ => hedges
  | @decided before after d out hdec =>
    obtain ⟨_, hfirst⟩ := hdec.collects d List.mem_cons_self hdec.supplies.1
    have hagrees := h.supplied.agrees hdec.params_eq
    cases h.supplied.eq_of_params hdec.params_eq
    rw [h.connected.edgesOf_again hdec.params_eq hfirst]
    refine .decided (hdec.concat ?_ ?_)
    · intro hs
      obtain ⟨params, deps, other, hr, hother, hsame⟩ := hagrees hs.2
      exact ⟨other, ⟨params, deps, hr, hother⟩, hsame⟩
    · intro _
      exact h.connected.collect_again hdec.params_eq hfirst

theorem settled (h : ResourceStep library workloads (w.scope name) name e n m g g')
    (hg : Accounted ws log g) (hw : ∀ id, IsRoot ws id → id ∈ workloads) (hs : Settled ws log g) :
    Settled ws (log ++ [⟨w, name, e⟩]) g' := by
  intro id k hk hroot
  rw [h.nodes_find?] at hk
  split at hk
  · next hid =>
    cases hk
    rw [hid, h.name_eq]
    exact h.agreed (h.provided_agreed hg hs fun hroot => h.free (hw _ hroot))
  · next hid =>
    rw [h.connected.edgesOf_ne hid]
    refine (hs id k hk hroot).skip fun hpath => hid ?_
    rw [hg.id_eq hk, ← hpath]
    rfl

end ResourceStep

theorem RootStep.settled {component : Component} {w : Workload} {name : String}
    {params : Table Value} {g g' : Graph} {ws : List Workload} {log : List Declaration}
    (h : RootStep component w name params g g') (hname : w.name = .ok name)
    (hs : Settled ws log g) : Settled (ws ++ [w]) log g' := by
  intro id n hn hroot
  have hne : id ≠ nodeId name := fun heq => hroot ((isRoot_append hname).mpr (.inr heq))
  rw [h.nodes_find?, if_neg hne] at hn
  rw [h.edgesOf_ne hne]
  exact hs id n hn fun hold => hroot ((isRoot_append hname).mpr (.inl hold))

/-- The nodes of resources are agreed on by what the workloads declare. -/
theorem ofWorkloads_settled {component : Component} {library : Library} {ws : List Workload}
    {g : Graph} (h : ofWorkloads component library ws = .ok g) :
    Settled ws (declarations ws) g := by
  refine ofWorkloads_keeps h ?_ ?_ ?_
  · intro id n hn
    simp [empty] at hn
  · intro ws workloads log w name e n m g g' hw hg hs hstep
    exact hstep.settled hg hw hs
  · intro ws log w name params g g' hname _ hs hstep
    exact hstep.settled hname hs

theorem exists_agreed {component : Component} {library : Library} {ws : List Workload} {g : Graph}
    {d : Declaration} (h : ofWorkloads component library ws = .ok g) (hd : d ∈ declarations ws) :
    ∃ n, g.nodes.find? d.id = some n ∧ n.name = d.path ∧
      Agreed (declarations ws) d.path (g.edgesOf d.id) n := by
  obtain ⟨n, hn, hname, -⟩ := (ofWorkloads_accounted h).resources d hd
  refine ⟨n, hn, hname, ?_⟩
  rw [← hname]
  exact ofWorkloads_settled h _ n hn ((ofWorkloads_accounted h).apart d hd)

/-- Two declarations that supply parameters to the same path supply the same tree: one
of them decides, or both agree with the one that does. -/
theorem Decided.sameEntries {log before after : List Declaration} {path : String}
    {edges : Table String} {n : Node} {b c d : Declaration} {out p q : List (String × Value)}
    (h : Decided log path edges n before d after out) (hsub : [b, c].Sublist log)
    (hb : b.Supplies path) (hc : c.Supplies path) (hp : b.Yields p) (hq : c.Yields q) :
    Value.sameEntries p q = true := by
  rw [h.log_eq] at hsub
  obtain ⟨early, late, hsplit, hearly, hlate⟩ := List.sublist_append_iff.mp hsub
  cases early with
  | cons a rest =>
    obtain ⟨rfl, -⟩ := List.cons.inj hsplit
    exact absurd hb (h.first b (hearly.subset List.mem_cons_self))
  | nil =>
    cases hsplit
    rcases List.sublist_cons_iff.mp hlate with hlate | ⟨rest, heq, hrest⟩
    · obtain ⟨p', hp', hsamep⟩ := h.agree b (hlate.subset (by simp)) hb
      obtain ⟨q', hq', hsameq⟩ := h.agree c (hlate.subset (by simp)) hc
      cases hp.unique hp'
      cases hq.unique hq'
      exact Value.sameEntries_trans (Value.sameEntries_symm hsamep) hsameq
    · cases heq
      obtain ⟨q', hq', hsameq⟩ := h.agree c (hrest.subset (by simp)) hc
      cases h.yields.unique hp
      cases hq.unique hq'
      exact hsameq

/-- The parameters of a resource are those of the first declaration that supplies some,
and there are none if none does; every later supplier agrees, and workloads with two
suppliers that do not agree have no graph. -/
theorem ofWorkloads_params (component : Component) (library : Library) (ws : List Workload) :
    (∀ g, ofWorkloads component library ws = .ok g →
        ∀ path, (∃ d ∈ declarations ws, d.path = path) →
          ∃ n, g.nodes.find? (Identifier.component path) = some n ∧ n.name = path ∧
            (n.params = none ↔ ∀ d ∈ declarations ws, ¬ d.Supplies path) ∧
            (n.params ≠ none → ∃ before d after out,
              declarations ws = before ++ d :: after ∧ (∀ c ∈ before, ¬ c.Supplies path) ∧
              d.Supplies path ∧ d.Yields out ∧ n.params = some out ∧
              n.definedBy = some d.owner ∧
              ∀ c ∈ after, c.Supplies path →
                ∃ other, c.Yields other ∧ Value.sameEntries out other = true)) ∧
      ∀ c d p q, [c, d].Sublist (declarations ws) → c.path = d.path → c.Yields p → d.Yields q →
        Value.sameEntries p q = false → ∃ e, ofWorkloads component library ws = .error e := by
  refine ⟨?_, ?_⟩
  · rintro g hg path ⟨d, hd, rfl⟩
    obtain ⟨n, hn, hname, hagreed⟩ := exists_agreed hg hd
    refine ⟨n, hn, hname, ?_⟩
    cases hagreed with
    | undecided hlog hp =>
      exact ⟨by simpa [hp] using hlog, fun hsome => absurd hp hsome⟩
    | decided h =>
      refine ⟨?_, fun _ => ⟨_, _, _, _, h.log_eq, h.first, h.supplies, h.yields, h.params_eq,
        h.definedBy, h.agree⟩⟩
      rw [h.params_eq, h.log_eq]
      simpa using ⟨_, .inr (.inl rfl), h.supplies⟩
  · intro c d p q hsub hpath hp hq hdiffer
    cases hg : ofWorkloads component library ws with
    | error e => exact ⟨e, rfl⟩
    | ok g =>
      have hd : d ∈ declarations ws := hsub.subset (by simp)
      obtain ⟨n, -, -, hagreed⟩ := exists_agreed hg hd
      cases hagreed with
      | undecided hlog => exact absurd hq.supplies (hlog d hd)
      | decided h =>
        rw [h.sameEntries hsub (hpath ▸ hp.supplies) hq.supplies hp hq] at hdiffer
        cases hdiffer

def database (params : Option (Table Value)) : Resource :=
  ⟨"postgres", none, some "main", none, params⟩

def tenant (name team : String) (params : Option (Table Value)) : Workload :=
  ⟨"", Table.ofList [("name", .string name), ("team", .string team)], Table.empty, none,
    Table.ofList [("db", database params)]⟩

def tenancy (name team : String) (params : Option (Table Value)) : Declaration :=
  ⟨tenant name team params, name, "db", database params⟩

def ownedBy (owner : String) : Option (Table Value) :=
  some (Table.ofList [("owner", .string owner)])

def ownTeam : String := "$\x7bmetadata.team\x7d"

def databases : Library := [⟨⟨"sql", "New", "Args"⟩, "postgres", .empty, .empty⟩]

/-- The second tenant refers to its team, and the third one has another team but names
that of the second. -/
def tenants : List Workload :=
  [tenant "first" "core" none, tenant "second" "core" (ownedBy ownTeam),
    tenant "third" "edge" (ownedBy "core")]

def rivals : List Workload :=
  [tenant "second" "core" (ownedBy ownTeam), tenant "third" "edge" (ownedBy ownTeam)]

theorem ofWorkloads_params_tenants :
    (∃ g n before d after out, ofWorkloads ⟨"site", "New", "Args"⟩ databases tenants = .ok g ∧
        g.nodes.find? (Identifier.component "shared.main") = some n ∧
        declarations tenants = before ++ d :: after ∧
        (∀ c ∈ before, ¬ c.Supplies "shared.main") ∧ d.Supplies "shared.main" ∧ d.Yields out ∧
        n.params = some out ∧ n.definedBy = some d.owner ∧
        ∀ c ∈ after, c.Supplies "shared.main" →
          ∃ other, c.Yields other ∧ Value.sameEntries out other = true) ∧
      ∃ e, ofWorkloads ⟨"site", "New", "Args"⟩ databases rivals = .error e := by
  constructor
  · obtain ⟨g, hg⟩ : ∃ g, ofWorkloads ⟨"site", "New", "Args"⟩ databases tenants = .ok g :=
      exists_eq_ok (by decide +kernel)
    have hsecond : tenancy "second" "core" (ownedBy ownTeam) ∈ declarations tenants :=
      mem_declarations.mpr ⟨.tail _ (.head _), rfl, .head _⟩
    obtain ⟨n, hn, -, hnone, hsome⟩ :=
      (ofWorkloads_params _ _ _).1 g hg "shared.main" ⟨_, hsecond, rfl⟩
    obtain ⟨before, d, after, out, hdecided⟩ :=
      hsome fun hp => hnone.mp hp _ hsecond ⟨rfl, rfl⟩
    exact ⟨g, n, before, d, after, out, hg, hn, hdecided⟩
  · have hdiffer : (do
        let p ← (tenancy "second" "core" none).scope.collect [("owner", .string ownTeam)]
        let q ← (tenancy "third" "edge" none).scope.collect [("owner", .string ownTeam)]
        return Value.sameEntries p.1 q.1) = (.ok false : Except Error Bool) := by
      decide +kernel
    obtain ⟨⟨p, pdeps⟩, hp, hrest⟩ := bind_eq_ok.mp hdiffer
    obtain ⟨⟨q, qdeps⟩, hq, hrest⟩ := bind_eq_ok.mp hrest
    exact (ofWorkloads_params _ _ _).2 (tenancy "second" "core" (ownedBy ownTeam))
      (tenancy "third" "edge" (ownedBy ownTeam)) p q (List.Sublist.refl _) rfl
      ⟨_, pdeps, rfl, hp⟩ ⟨_, qdeps, rfl, hq⟩ (pure_eq_ok.mp hrest)

end Provision.Graph
