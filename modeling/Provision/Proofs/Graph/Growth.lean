import Provision.Proofs.Graph.Edges

/-!
# Graphs grow

A build never takes back what it has done. Nodes keep their component and their name,
parameters that are there stay with their owner, and so do edges; all that can happen to
a node is that it gets parameters which it did not have.
-/

set_option autoImplicit false

namespace Provision

/-- Whether a node is another one that may have got parameters since. -/
structure Node.Completes (n m : Node) : Prop where
  component : m.component = n.component
  name : m.name = n.name
  params : ∀ ps, n.params = some ps → m.params = some ps
  definedBy : ∀ owner, n.definedBy = some owner → m.definedBy = some owner

theorem Node.Completes.refl (n : Node) : n.Completes n :=
  ⟨rfl, rfl, fun _ h => h, fun _ h => h⟩

theorem Node.Completes.trans {n m k : Node} (h : n.Completes m) (hk : m.Completes k) :
    n.Completes k :=
  ⟨hk.component.trans h.component, hk.name.trans h.name, fun ps hp => hk.params ps (h.params ps hp),
    fun owner hd => hk.definedBy owner (h.definedBy owner hd)⟩

namespace Graph

open Workload Outcome

/-- Whether all that a graph has is in another one as it was, missing parameters and
the edges that they bring apart. -/
structure Extends (g g' : Graph) : Prop where
  nodes : ∀ id n, g.nodes.find? id = some n →
    ∃ m, g'.nodes.find? id = some m ∧ n.Completes m
  edges : ∀ id key target, (g.edgesOf id).find? key = some target →
    (g'.edgesOf id).find? key = some target
  settled : ∀ id n, g.nodes.find? id = some n → n.params ≠ none →
    g'.edgesOf id = g.edgesOf id

theorem Extends.refl (g : Graph) : Extends g g :=
  ⟨fun _ n hn => ⟨n, hn, .refl n⟩, fun _ _ _ h => h, fun _ _ _ _ => rfl⟩

theorem Extends.trans {g g₁ g₂ : Graph} (h : Extends g g₁) (h₁ : Extends g₁ g₂) :
    Extends g g₂ := by
  refine ⟨?_, ?_, ?_⟩
  · intro id n hn
    obtain ⟨m, hm, hnm⟩ := h.nodes id n hn
    obtain ⟨k, hk, hmk⟩ := h₁.nodes id m hm
    exact ⟨k, hk, hnm.trans hmk⟩
  · intro id key target hedge
    exact h₁.edges id key target (h.edges id key target hedge)
  · intro id n hn hp
    obtain ⟨ps, hps⟩ := Option.ne_none_iff_exists'.mp hp
    obtain ⟨m, hm, hnm⟩ := h.nodes id n hn
    have hsome : m.params ≠ none := by simp [hnm.params ps hps]
    rw [h₁.settled id m hm hsome, h.settled id n hn hp]

theorem Supplied.completes {scope : Scope} {owner : String} {r : Resource} {n m : Node}
    (h : Supplied scope owner r n m) (hd : n.params = none → n.definedBy = none) :
    n.Completes m := by
  cases h with
  | nothing => exact .refl n
  | again => exact .refl n
  | first _ _ hn =>
    refine ⟨rfl, rfl, ?_, ?_⟩
    · intro ps hps
      rw [hn] at hps
      cases hps
    · intro other hother
      rw [hd hn] at hother
      cases hother

theorem Connected.edgesOf_find? {scope : Scope} {id identity key target : String} {n : Node}
    {g g' : Graph} (h : Connected scope id identity n g g')
    (he : (g.edgesOf id).find? key = some target) :
    (g'.edgesOf id).find? key = some target := by
  cases h with
  | bare => exact he
  | independent => exact he
  | joined _ _ _ hj =>
    rw [edgesOf_insert, if_pos rfl]
    exact (joinEdges_find? hj key target).mpr (.inl he)

section Steps

variable {component : Component} {library : Library} {ws : List Workload}
variable {log : List Declaration} {w : Workload} {name : String} {g g' : Graph}

theorem ResourceStep.grows {workloads : List String} {e : String × Resource} {n m : Node}
    (h : ResourceStep library workloads (w.scope name) name e n m g g')
    (hg : Accounted ws log g) (hw : ∀ id, IsRoot ws id → id ∈ workloads) : Extends g g' := by
  refine ⟨?_, ?_, ?_⟩
  · intro id k hk
    rw [h.nodes_find?]
    by_cases hid : id = resourceId name e
    · subst hid
      cases h.start_eq hk
      refine ⟨m, if_pos rfl, h.supplied.completes fun hnone => ?_⟩
      cases hg.resourceNode hk fun hroot => h.free (hw _ hroot) with
      | bare _ hd => exact hd
      | supplied _ hp =>
        rw [hnone] at hp
        cases hp
    · exact ⟨k, by rw [if_neg hid, hk], .refl k⟩
  · intro id key target hedge
    by_cases hid : id = resourceId name e
    · subst hid
      exact h.connected.edgesOf_find? hedge
    · rw [h.connected.edgesOf_ne hid]
      exact hedge
  · intro id k hk hp
    obtain ⟨ps, hps⟩ := Option.ne_none_iff_exists'.mp hp
    exact (h.holds hg hw hps ⟨hk, rfl⟩).edges_eq

theorem RootStep.grows {params : Table Value} (h : RootStep component w name params g g')
    (hg : Accounted ws log g) : Extends g g' := by
  refine ⟨?_, ?_, ?_⟩
  · intro id n hn
    exact ⟨n, by rw [h.nodes_find?, if_neg (h.ne_of_find? hn), hn], .refl n⟩
  · intro id key target hedge
    by_cases hid : id = nodeId name
    · rw [hid, hg.edgesOf_eq_empty h.free] at hedge
      cases hedge
    · rw [h.edgesOf_ne hid]
      exact hedge
  · intro id n hn _
    exact h.edgesOf_ne (h.ne_of_find? hn)

theorem addAll_grows {vs : List Workload} {d d' : Draft}
    (h : Draft.addAll component library d vs = .ok d') (hd : d.Accounted ws) :
    Extends d.graph d'.graph := by
  refine addAll_keeps (P := fun _ _ g => Extends d.graph g) h hd (.refl _) ?_ ?_
  · intro ws workloads log w name e n m g g' hw hg hext hs
    exact hext.trans (hs.grows hg hw)
  · intro ws log w name params g g' _ hg hext hs
    exact hext.trans (hs.grows hg)

/-- Workloads that have a graph together with others have one without them, and the
others only extend it. -/
theorem ofWorkloads_extends {vs : List Workload}
    (h : ofWorkloads component library (ws ++ vs) = .ok g') :
    ∃ g, ofWorkloads component library ws = .ok g ∧ Extends g g' := by
  obtain ⟨d, hd, hgraph⟩ := bind_eq_ok.mp h
  cases pure_eq_ok.mp hgraph
  rw [addAll_append] at hd
  obtain ⟨d₀, hbefore, hafter⟩ := bind_eq_ok.mp hd
  refine ⟨d₀.graph, bind_eq_ok.mpr ⟨d₀, hbefore, rfl⟩, ?_⟩
  exact addAll_grows hafter (addAll_accounted hbefore draft_accounted_empty)

end Steps

/-- The database of the first workload gets its parameters from the second one. -/
theorem ofWorkloads_extends_sharing :
    ∃ g g', ofWorkloads ⟨"site", "New", "Args"⟩ stores
        ([sharing "first" none] ++ [sharing "second" (some hosted)]) = .ok g' ∧
      ofWorkloads ⟨"site", "New", "Args"⟩ stores [sharing "first" none] = .ok g ∧
      Extends g g' := by
  obtain ⟨g', hg'⟩ : ∃ g', ofWorkloads ⟨"site", "New", "Args"⟩ stores
      ([sharing "first" none] ++ [sharing "second" (some hosted)]) = .ok g' :=
    exists_eq_ok (by decide +kernel)
  obtain ⟨g, hg, hextends⟩ := ofWorkloads_extends hg'
  exact ⟨g, g', hg', hg, hextends⟩

end Graph

end Provision
