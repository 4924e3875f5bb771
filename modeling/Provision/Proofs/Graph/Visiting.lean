import Provision.Proofs.Graph.DependencyOrder

/-!
# What a visitor is shown

Every visitor is fed from the same exploration, so two walks over a graph differ only in
where the visitor breaks them off. The ids that a visitor is shown are the ids of the
exploration up to the first at which it fails. A cycle that the walk meets on its own
comes after all of them, and what was shown by then leads to no cycle.
-/

set_option autoImplicit false

namespace Provision.Graph

open Relation

variable {σ : Type}

namespace Visitor

def logged (visitor : Visitor σ) : Visitor (List String × σ) := fun id s =>
  ((visitor id s.2).1, s.1 ++ [id], (visitor id s.2).2)

def stateAfter (visitor : Visitor σ) : σ → List String → σ
  | state, [] => state
  | state, id :: rest => visitor.stateAfter (visitor id state).2 rest

def answer (visitor : Visitor σ) (state : σ) (before : List String) (id : String) :
    Except Error Unit :=
  (visitor id (visitor.stateAfter state before)).1

def uptoFailure (visitor : Visitor σ) : σ → List String → List String
  | _, [] => []
  | state, id :: rest =>
    match (visitor id state).1 with
    | .error _ => [id]
    | .ok () => id :: visitor.uptoFailure (visitor id state).2 rest

theorem uptoFailure_prefix (visitor : Visitor σ) (state : σ) (ids : List String) :
    visitor.uptoFailure state ids <+: ids := by
  induction ids generalizing state with
  | nil => exact List.prefix_rfl
  | cons id rest ih =>
    rw [uptoFailure]
    split
    · exact (List.prefix_cons_inj id).mpr List.nil_prefix
    · exact (List.prefix_cons_inj id).mpr (ih _)

/-- A visitor that answers every id is shown them all. -/
theorem uptoFailure_eq_self {visitor : Visitor σ} {state : σ} {ids : List String}
    (h : ∀ before id after, visitor.uptoFailure state ids = before ++ id :: after →
      visitor.answer state before id = .ok ()) :
    visitor.uptoFailure state ids = ids := by
  induction ids generalizing state with
  | nil => rfl
  | cons id rest ih =>
    have hfirst : (visitor id state).1 = .ok () := by
      cases hanswer : (visitor id state).1 with
      | ok => rfl
      | error e =>
        have hlog : visitor.uptoFailure state (id :: rest) = [] ++ id :: [] := by
          rw [uptoFailure, hanswer]
          rfl
        exact hanswer.symm.trans (h [] id [] hlog)
    have hlog : visitor.uptoFailure state (id :: rest) =
        id :: visitor.uptoFailure (visitor id state).2 rest := by
      rw [uptoFailure, hfirst]
    rw [hlog, ih]
    intro before id' after hrest
    exact h (id :: before) id' after (by rw [hlog, hrest, List.cons_append])

end Visitor

open Visitor

theorem deliverAll_cons (visitor : Visitor σ) (id : String) (rest : List String) (w : Walk σ) :
    deliverAll visitor (id :: rest) w =
      match (visitor id w.state).1 with
      | .error e => (.error e, ⟨id :: w.done, (visitor id w.state).2⟩)
      | .ok () => deliverAll visitor rest ⟨id :: w.done, (visitor id w.state).2⟩ := by
  rw [deliverAll, deliver]
  cases visitor id w.state with
  | mk result state => cases result <;> rfl

/-- Logging takes no part in a walk; the log holds the ids up to the first failure. -/
theorem deliverAll_logged (visitor : Visitor σ) (ids done log : List String) (state : σ) :
    deliverAll visitor.logged ids ⟨done, log, state⟩ =
      ((deliverAll visitor ids ⟨done, state⟩).1,
        ⟨(deliverAll visitor ids ⟨done, state⟩).2.done, log ++ visitor.uptoFailure state ids,
          (deliverAll visitor ids ⟨done, state⟩).2.state⟩) := by
  induction ids generalizing done log state with
  | nil => simp [deliverAll, uptoFailure]
  | cons id rest ih =>
    rw [deliverAll_cons, deliverAll_cons, uptoFailure]
    cases hanswer : (visitor id state).1 with
    | error e => simp [logged, hanswer]
    | ok => simp [logged, hanswer, ih]

/-- A failure ends the calls, and the walk ends with it. -/
theorem deliverAll_failure {visitor : Visitor σ} {ids before after : List String} {id : String}
    {e : Error} (done : List String) (state : σ)
    (h : visitor.uptoFailure state ids = before ++ id :: after)
    (he : visitor.answer state before id = .error e) :
    after = [] ∧ ∃ done', deliverAll visitor ids ⟨done, state⟩ =
      (.error e, ⟨done', visitor.stateAfter state (before ++ [id])⟩) := by
  induction ids generalizing before done state with
  | nil => simp [uptoFailure] at h
  | cons first rest ih =>
    rw [uptoFailure] at h
    rw [deliverAll_cons]
    cases hanswer : (visitor first state).1 with
    | error cause =>
      rw [hanswer] at h
      obtain ⟨rfl, hlog⟩ | ⟨tail, rfl, hlog⟩ := List.cons_eq_append_iff.mp h
      · cases hlog
        cases hanswer.symm.trans he
        exact ⟨rfl, _, rfl⟩
      · simp at hlog
    | ok =>
      rw [hanswer] at h
      obtain ⟨rfl, hlog⟩ | ⟨tail, rfl, hlog⟩ := List.cons_eq_append_iff.mp h
      · cases hlog
        cases hanswer.symm.trans he
      · exact ih _ _ hlog he

/-- A walk in which every answer was good goes through all ids. -/
theorem deliverAll_ok {visitor : Visitor σ} {ids : List String} (done : List String) (state : σ)
    (h : ∀ before id after, ids = before ++ id :: after →
      visitor.answer state before id = .ok ()) :
    (deliverAll visitor ids ⟨done, state⟩).1 = .ok () := by
  induction ids generalizing done state with
  | nil => rfl
  | cons id rest ih =>
    have hfirst : (visitor id state).1 = .ok () := h [] id rest rfl
    rw [deliverAll_cons]
    simp only [hfirst]
    apply ih
    intro before id' after hrest
    exact h (id :: before) id' after (by rw [hrest, List.cons_append])

def shown (g : Graph) (visitor : Visitor σ) (state : σ) : List String :=
  (g.visitInOrder visitor.logged ([], state)).2.1

namespace Explores

variable {g : Graph} {fresh : List String} {stop : Option String}

theorem visitInOrder_logged (h : g.Explores [] g.nodes.keys [] fresh stop) (visitor : Visitor σ)
    (state : σ) : g.visitInOrder visitor.logged ([], state) =
      ((g.visitInOrder visitor state).1, visitor.uptoFailure state fresh,
        (g.visitInOrder visitor state).2) := by
  rw [h.visitInOrder_eq, h.visitInOrder_eq, deliverAll_logged]
  cases deliverAll visitor fresh ⟨[], state⟩ with
  | mk result w => cases result <;> simp

theorem shown_eq (h : g.Explores [] g.nodes.keys [] fresh stop) (visitor : Visitor σ)
    (state : σ) : g.shown visitor state = visitor.uptoFailure state fresh := by
  rw [shown, h.visitInOrder_logged]

/-- What is handed out leads to no cycle. -/
theorem not_onCycle_of_reached (h : g.Explores [] g.nodes.keys [] fresh stop) {id v : String}
    (hid : id ∈ fresh) (hv : ReflTransGen g.DependsOn id v) : ¬ g.OnCycle v := by
  have hfirst : g.DependenciesFirst [] fresh := h.dependenciesFirst
  rcases reflTransGen_iff_eq_or_transGen.mp hv with rfl | ht
  · exact hfirst.not_onCycle hid
  · exact hfirst.not_onCycle (hfirst.idxOf_lt_of_transGen hid ht).1

end Explores

/-- To log the calls changes nothing else. A visitor that fails sees the beginning of what a
visitor sees that never fails. Its failure is its last call and the result of the walk,
whatever the rest of the graph is like. A walk that fails though the visitor does not has
met a cycle, and all that it had shown by then came after its dependencies and leads to no
cycle. -/
theorem visitInOrder_breaks_off (g : Graph) (visitor : Visitor σ) (state : σ) :
    g.visitInOrder visitor.logged ([], state) =
      ((g.visitInOrder visitor state).1, g.shown visitor state,
        (g.visitInOrder visitor state).2) ∧
    (∀ (τ : Type) (total : Visitor τ) (start : τ), (∀ id s, (total id s).1 = .ok ()) →
      g.shown visitor state <+: g.shown total start) ∧
    (∀ before id after e, g.shown visitor state = before ++ id :: after →
      visitor.answer state before id = .error e →
        after = [] ∧
          g.visitInOrder visitor state = (.error e, visitor.stateAfter state (before ++ [id]))) ∧
    ∀ e, (g.visitInOrder visitor state).1 = .error e →
      (∀ before id after, g.shown visitor state = before ++ id :: after →
        visitor.answer state before id = .ok ()) →
      ∃ node, e = .cycle node ∧ g.OnCycle node ∧
        ∀ before id after, g.shown visitor state = before ++ id :: after →
          (∀ v, g.DependsOn id v → v ∈ before) ∧
            ∀ v, ReflTransGen g.DependsOn id v → ¬ g.OnCycle v := by
  obtain ⟨fresh, stop, hexp⟩ := exists_explores g [] g.nodes.keys []
  refine ⟨?_, ?_, ?_, ?_⟩
  · rw [hexp.shown_eq]
    exact hexp.visitInOrder_logged visitor state
  · intro τ total start htotal
    have hall : total.uptoFailure start fresh = fresh :=
      uptoFailure_eq_self fun before id after _ => htotal id _
    rw [hexp.shown_eq, hexp.shown_eq, hall]
    exact uptoFailure_prefix visitor state fresh
  · intro before id after e hshown he
    rw [hexp.shown_eq] at hshown
    obtain ⟨hlast, done, hdeliver⟩ := deliverAll_failure [] state hshown he
    refine ⟨hlast, ?_⟩
    rw [hexp.visitInOrder_eq, hdeliver]
  · intro e hresult hanswers
    rw [hexp.shown_eq] at hanswers ⊢
    have hall : visitor.uptoFailure state fresh = fresh := uptoFailure_eq_self hanswers
    rw [hall] at hanswers ⊢
    have hok := deliverAll_ok [] state hanswers
    have hstop : outcome stop = .error e := by
      rw [hexp.visitInOrder_eq] at hresult
      cases hdeliver : deliverAll visitor fresh ⟨[], state⟩ with
      | mk result w =>
        rw [hdeliver] at hok hresult
        cases hok
        exact hresult
    cases stop with
    | none => cases hstop
    | some node =>
      cases hstop
      refine ⟨node, rfl, (hexp.onCycle_of_stop rfl (by simp)).1, ?_⟩
      rintro before id after rfl
      exact ⟨fun v he => hexp.dependenciesFirst.before he,
        fun v hv => hexp.not_onCycle_of_reached (by simp) hv⟩

def ring : Graph :=
  ⟨Table.ofList [("a", default), ("b", default)],
    Table.ofList [("a", Table.ofList [("store", "disk")]), ("b", Table.ofList [("next", "c")]),
      ("c", Table.ofList [("next", "b")])]⟩

/-- Answers as many calls as its state says, and fails at the next. -/
def patient : Visitor Nat
  | id, 0 => (.error (.missingNode id), 0)
  | _, n + 1 => (.ok (), n)

theorem visitInOrder_breaks_off_ring :
    ring.shown patient 1 = ["disk", "a"] ∧ ring.shown patient 1 <+: ring.shown record [] ∧
      ring.visitInOrder patient 1 = (.error (.missingNode "a"), 0) ∧
      (ring.visitInOrder patient 5).1 = .error (.cycle "b") ∧
        ∃ node, Error.cycle "b" = .cycle node ∧ ring.OnCycle node ∧
          ∀ before id after, ring.shown patient 5 = before ++ id :: after →
            (∀ v, ring.DependsOn id v → v ∈ before) ∧
              ∀ v, ReflTransGen ring.DependsOn id v → ¬ ring.OnCycle v := by
  have hshort : ring.shown patient 1 = ["disk", "a"] := by decide +kernel
  have hlong : ring.shown patient 5 = ["disk", "a"] := by decide +kernel
  have hcycle : (ring.visitInOrder patient 5).1 = .error (.cycle "b") := by decide +kernel
  have hanswers : ∀ before id after, ring.shown patient 5 = before ++ id :: after →
      Visitor.answer patient 5 before id = .ok () := by
    intro before id after h
    rw [hlong] at h
    match before, h with
    | [], _ => rfl
    | [_], _ => rfl
    | _ :: _ :: _, h => simp at h
  exact ⟨hshort, (visitInOrder_breaks_off ring patient 1).2.1 _ record [] fun _ _ => rfl,
    ((visitInOrder_breaks_off ring patient 1).2.2.1 ["disk"] "a" [] _ hshort rfl).2, hcycle,
    (visitInOrder_breaks_off ring patient 5).2.2.2 _ hcycle hanswers⟩

end Provision.Graph
