import Provision.Proofs.Graph.Exploration

/-!
# The dependency order

What an exploration hands out has no repetitions, comes after all that it depends
on, and consists of what its ids lead to. An exploration that finishes hands out
everything, so nothing that it hands out can lie on a cycle; one that stops has
met an id of its own path. Both together give the order of a graph and the exact
condition under which there is none.
-/

set_option autoImplicit false

namespace Provision.Graph

open Relation

/-- Each of the ids comes after all that it depends on, or that was `done` before. -/
def DependenciesFirst (g : Graph) : List String → List String → Prop
  | _, [] => True
  | done, id :: rest => (∀ v, g.DependsOn id v → v ∈ done) ∧ DependenciesFirst g (id :: done) rest

theorem dependenciesFirst_append (g : Graph) (ids rest done : List String) :
    g.DependenciesFirst done (ids ++ rest) ↔
      g.DependenciesFirst done ids ∧ g.DependenciesFirst (ids.reverse ++ done) rest := by
  induction ids generalizing done with
  | nil => simp [DependenciesFirst]
  | cons id ids ih => simp [DependenciesFirst, ih, and_assoc]

theorem DependenciesFirst.before {g : Graph} {before after : List String} {u v : String}
    (h : g.DependenciesFirst [] (before ++ u :: after)) (he : g.DependsOn u v) : v ∈ before := by
  have hu := ((dependenciesFirst_append g before (u :: after) []).mp h).2.1 v he
  simpa using hu

theorem DependenciesFirst.idxOf_lt {g : Graph} {ids : List String} {u v : String}
    (h : g.DependenciesFirst [] ids) (hu : u ∈ ids) (he : g.DependsOn u v) :
    v ∈ ids ∧ ids.idxOf v < ids.idxOf u := by
  obtain ⟨before, after, rfl, hnot⟩ := List.eq_append_cons_of_mem hu
  have hv : v ∈ before := h.before he
  refine ⟨List.mem_append_left _ hv, ?_⟩
  rw [List.idxOf_append_of_mem hv, List.idxOf_append_of_notMem hnot]
  have hlt := List.idxOf_lt_length_iff.mpr hv
  omega

theorem DependenciesFirst.idxOf_lt_of_transGen {g : Graph} {ids : List String} {u v : String}
    (h : g.DependenciesFirst [] ids) (hu : u ∈ ids) (ht : TransGen g.DependsOn u v) :
    v ∈ ids ∧ ids.idxOf v < ids.idxOf u := by
  induction ht with
  | single he => exact h.idxOf_lt hu he
  | tail _ he ih =>
    obtain ⟨hmem, hlt⟩ := h.idxOf_lt ih.1 he
    exact ⟨hmem, Nat.lt_trans hlt ih.2⟩

theorem DependenciesFirst.not_onCycle {g : Graph} {ids : List String} {u : String}
    (h : g.DependenciesFirst [] ids) (hu : u ∈ ids) : ¬ g.OnCycle u := by
  intro hc
  exact Nat.lt_irrefl _ (h.idxOf_lt_of_transGen hu hc).2

namespace Explores

variable {g : Graph} {path ids done fresh : List String} {stop : Option String}

theorem not_mem_of_mem_fresh (h : g.Explores path ids done fresh stop) :
    ∀ x ∈ fresh, x ∉ done ∧ x ∉ path := by
  induction h with
  | finished => simp
  | known _ _ ih => exact ih
  | closed => simp
  | stuck _ _ _ ih =>
    intro x hx
    exact ⟨(ih x hx).1, fun hp => (ih x hx).2 (List.mem_cons_of_mem _ hp)⟩
  | left hd hp _ _ ihb ihr =>
    intro x hx
    rcases List.mem_append.mp hx with hi | hf
    · exact ⟨(ihb x hi).1, fun h => (ihb x hi).2 (List.mem_cons_of_mem _ h)⟩
    · rcases List.mem_cons.mp hf with rfl | hf
      · exact ⟨hd, hp⟩
      · have hx := ihr x hf
        simp only [List.mem_cons, List.mem_append, not_or] at hx
        exact ⟨hx.1.2.2, hx.2⟩

/-- No id is handed out twice. -/
theorem nodup (h : g.Explores path ids done fresh stop) : fresh.Nodup := by
  induction h with
  | finished => exact List.nodup_nil
  | known _ _ ih => exact ih
  | closed => exact List.nodup_nil
  | stuck _ _ _ ih => exact ih
  | @left _ _ _ inner fresh id _ _ _ below rest ihb ihr =>
    have hid : id ∉ inner := fun hi => (below.not_mem_of_mem_fresh id hi).2 (by simp)
    have hlater : ∀ x ∈ fresh, x ≠ id ∧ x ∉ inner := by
      intro x hx
      have hnew := (rest.not_mem_of_mem_fresh x hx).1
      simp only [List.mem_cons, List.mem_append, List.mem_reverse, not_or] at hnew
      exact ⟨hnew.1, hnew.2.1⟩
    refine List.nodup_append.mpr ⟨ihb, List.nodup_cons.mpr ⟨fun hf => (hlater id hf).1 rfl, ihr⟩, ?_⟩
    intro x hx y hy heq
    subst heq
    rcases List.mem_cons.mp hy with rfl | hy
    · exact hid hx
    · exact (hlater x hy).2 hx

/-- An exploration that finishes leaves none of its ids out. -/
theorem covers (h : g.Explores path ids done fresh stop) (hs : stop = none) :
    ∀ id ∈ ids, id ∈ done ∨ id ∈ fresh := by
  induction h with
  | finished => simp
  | known hd _ ih =>
    intro x hx
    rcases List.mem_cons.mp hx with rfl | hx
    · exact Or.inl hd
    · exact ih hs x hx
  | closed => cases hs
  | stuck => cases hs
  | @left _ _ _ inner fresh id _ _ _ _ _ _ ihr =>
    intro x hx
    rcases List.mem_cons.mp hx with rfl | hx
    · simp
    · have hcov := ihr hs x hx
      simp only [List.mem_cons, List.mem_append, List.mem_reverse] at hcov ⊢
      tauto

theorem dependenciesFirst (h : g.Explores path ids done fresh stop) :
    g.DependenciesFirst done fresh := by
  induction h with
  | finished => trivial
  | known _ _ ih => exact ih
  | closed => trivial
  | stuck _ _ _ ih => exact ih
  | left _ _ below _ ihb ihr =>
    refine (dependenciesFirst_append g _ _ _).mpr ⟨ihb, ?_, ihr⟩
    intro v he
    have hcov := below.covers rfl v (mem_targets.mpr he)
    simpa [or_comm] using hcov

theorem reached (h : g.Explores path ids done fresh stop) :
    ∀ x ∈ fresh, ∃ id ∈ ids, ReflTransGen g.DependsOn id x := by
  have hbelow : ∀ (id x : String) (rest : List String),
      (∃ t ∈ g.targets id, ReflTransGen g.DependsOn t x) →
        ∃ t ∈ id :: rest, ReflTransGen g.DependsOn t x := by
    rintro id x rest ⟨t, ht, hpath⟩
    exact ⟨id, by simp, hpath.head (mem_targets.mp ht)⟩
  induction h with
  | finished => simp
  | known _ _ ih =>
    intro x hx
    obtain ⟨t, ht, hpath⟩ := ih x hx
    exact ⟨t, List.mem_cons_of_mem _ ht, hpath⟩
  | closed => simp
  | stuck _ _ _ ih =>
    intro x hx
    exact hbelow _ x _ (ih x hx)
  | @left _ _ _ _ _ id _ _ _ _ _ ihb ihr =>
    intro x hx
    rcases List.mem_append.mp hx with hi | hf
    · exact hbelow _ x _ (ihb x hi)
    · rcases List.mem_cons.mp hf with rfl | hf
      · exact ⟨x, by simp, .refl⟩
      · obtain ⟨t, ht, hpath⟩ := ihr x hf
        exact ⟨t, List.mem_cons_of_mem _ ht, hpath⟩

/-- The ids in progress all lead to the ids that are taken, so an id that is met
while it is in progress leads to itself. -/
theorem onCycle_of_stop (h : g.Explores path ids done fresh stop) {node : String}
    (hs : stop = some node) (hp : ∀ p ∈ path, ∀ id ∈ ids, TransGen g.DependsOn p id) :
    g.OnCycle node ∧ ∃ id ∈ ids, ReflTransGen g.DependsOn id node := by
  induction h with
  | finished => cases hs
  | known _ _ ih =>
    obtain ⟨hc, t, ht, hpath⟩ := ih hs fun p hm x hx => hp p hm x (List.mem_cons_of_mem _ hx)
    exact ⟨hc, t, List.mem_cons_of_mem _ ht, hpath⟩
  | closed _ hin =>
    cases hs
    exact ⟨hp node hin node (by simp), node, by simp, .refl⟩
  | @stuck path _ _ _ id _ _ _ _ ih =>
    have hpath : ∀ p ∈ id :: path, ∀ t ∈ g.targets id, TransGen g.DependsOn p t := by
      intro p hm t ht
      rcases List.mem_cons.mp hm with rfl | hm
      · exact .single (mem_targets.mp ht)
      · exact (hp p hm id (by simp)).tail (mem_targets.mp ht)
    obtain ⟨hc, t, ht, hreach⟩ := ih hs hpath
    exact ⟨hc, id, by simp, hreach.head (mem_targets.mp ht)⟩
  | left _ _ _ _ _ ihr =>
    obtain ⟨hc, t, ht, hpath⟩ := ihr hs fun p hm x hx => hp p hm x (List.mem_cons_of_mem _ hx)
    exact ⟨hc, t, List.mem_cons_of_mem _ ht, hpath⟩

end Explores

theorem deliverAll_record (ids : List String) (w : Walk (List String)) :
    deliverAll record ids w = (.ok (), ⟨ids.reverse ++ w.done, w.state ++ ids⟩) := by
  induction ids generalizing w with
  | nil => simp [deliverAll]
  | cons id ids ih => simp [deliverAll, deliver, record, ih]

/-- The order lists what the exploration of the nodes hands out, unless it stops. -/
theorem Explores.order_eq {g : Graph} {fresh : List String} {stop : Option String}
    (h : g.Explores [] g.nodes.keys [] fresh stop) :
    g.order = (outcome stop).map fun _ => fresh := by
  unfold order
  rw [h.visitInOrder_eq record [], deliverAll_record]
  cases stop <;> rfl

theorem order_eq_ok_iff {g : Graph} {ids : List String} :
    g.order = .ok ids ↔ g.Explores [] g.nodes.keys [] ids none := by
  constructor
  · intro h
    obtain ⟨fresh, stop, hexp⟩ := exists_explores g [] g.nodes.keys []
    rw [hexp.order_eq] at h
    cases stop with
    | none =>
      cases h
      exact hexp
    | some node => cases h
  · intro h
    exact h.order_eq

theorem Explores.mem_iff_reachable {g : Graph} {ids : List String}
    (h : g.Explores [] g.nodes.keys [] ids none) {id : String} : id ∈ ids ↔ g.Reachable id := by
  constructor
  · intro hid
    obtain ⟨root, hroot, hpath⟩ := h.reached id hid
    exact ⟨root, hroot, hpath⟩
  · rintro ⟨root, hroot, hpath⟩
    have hr : root ∈ ids := (h.covers rfl root hroot).resolve_left (by simp)
    rcases reflTransGen_iff_eq_or_transGen.mp hpath with rfl | ht
    · exact hr
    · exact (h.dependenciesFirst.idxOf_lt_of_transGen hr ht).1

/-- The order lists the ids that the nodes lead to, each once and each after all
that it depends on. -/
theorem order_topological {g : Graph} {ids : List String} (h : g.order = .ok ids) :
    ids.Nodup ∧ (∀ id, id ∈ ids ↔ g.Reachable id) ∧
      ∀ u v, g.DependsOn u v → u ∈ ids →
        ∃ before after, ids = before ++ u :: after ∧ v ∈ before := by
  have hexp := order_eq_ok_iff.mp h
  refine ⟨hexp.nodup, fun id => hexp.mem_iff_reachable, ?_⟩
  intro u v he hu
  obtain ⟨before, after, rfl⟩ := List.append_of_mem hu
  exact ⟨before, after, rfl, hexp.dependenciesFirst.before he⟩

def shared : Graph :=
  ⟨Table.ofList [("a", default), ("b", default)],
    Table.ofList [("a", Table.ofList [("store", "disk")]),
      ("b", Table.ofList [("peer", "a"), ("store", "disk")]),
      ("disk", Table.ofList [("host", "rack")])]⟩

theorem order_topological_shared :
    shared.order = .ok ["rack", "disk", "a", "b"] ∧
      (["rack", "disk", "a", "b"].Nodup ∧
        (∀ id, id ∈ ["rack", "disk", "a", "b"] ↔ shared.Reachable id) ∧
          ∀ u v, shared.DependsOn u v → u ∈ ["rack", "disk", "a", "b"] →
            ∃ before after, ["rack", "disk", "a", "b"] = before ++ u :: after ∧ v ∈ before) := by
  have h : shared.order = .ok ["rack", "disk", "a", "b"] := by decide +kernel
  exact ⟨h, order_topological h⟩

/-- Every walk terminates: its exploration is finite, and the order is what it hands
out. There is no order exactly when a node leads to a cycle, and then the id that the
failure names lies on a cycle. -/
theorem order_fails_iff_cycle (g : Graph) :
    (∃ fresh stop, g.Explores [] g.nodes.keys [] fresh stop ∧
        g.order = (outcome stop).map fun _ => fresh) ∧
      ((∃ e, g.order = .error e) ↔ ∃ id, g.Reachable id ∧ g.OnCycle id) ∧
        ∀ e, g.order = .error e → ∃ node, e = .cycle node ∧ g.OnCycle node := by
  obtain ⟨fresh, stop, hexp⟩ := exists_explores g [] g.nodes.keys []
  refine ⟨⟨fresh, stop, hexp, hexp.order_eq⟩, ?_⟩
  rw [hexp.order_eq]
  cases stop with
  | none =>
    have hok : ∀ e, (outcome none).map (fun _ => fresh) ≠ .error e := by
      intro e he
      cases he
    refine ⟨⟨fun ⟨e, he⟩ => absurd he (hok e), ?_⟩, fun e he => absurd he (hok e)⟩
    rintro ⟨id, hreach, hcycle⟩
    exact absurd hcycle (hexp.dependenciesFirst.not_onCycle (hexp.mem_iff_reachable.mpr hreach))
  | some node =>
    obtain ⟨hcycle, root, hroot, hpath⟩ := hexp.onCycle_of_stop rfl (by simp)
    refine ⟨⟨fun _ => ⟨node, ⟨root, hroot, hpath⟩, hcycle⟩, fun _ => ⟨_, rfl⟩⟩, ?_⟩
    intro e he
    cases he
    exact ⟨node, rfl, hcycle⟩

end Provision.Graph
