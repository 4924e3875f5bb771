import Mathlib.Logic.Relation
import Provision.Graph.Order
import Provision.Proofs.Table

/-!
# Explorations of a graph

An exploration is the call tree of a depth-first walk without its visitor: which
ids are handed out, and at which id a cycle ends it. Every list of ids has one,
so the walk terminates, and a walk with a visitor is its exploration with the
visitor fed from it. Facts about walks are proved by induction on explorations.
-/

set_option autoImplicit false

namespace Provision.Graph

def DependsOn (g : Graph) (u v : String) : Prop := ∃ name, (g.edgesOf u).find? name = some v

/-- Whether a chain of edges leads from a node of the graph to an id. -/
def Reachable (g : Graph) (v : String) : Prop :=
  ∃ root ∈ g.nodes.keys, Relation.ReflTransGen g.DependsOn root v

def OnCycle (g : Graph) (v : String) : Prop := Relation.TransGen g.DependsOn v v

theorem mem_targets {g : Graph} {u v : String} : v ∈ g.targets u ↔ g.DependsOn u v := by
  simp only [targets, DependsOn, List.mem_map, Table.find?_eq_some_iff]
  constructor
  · rintro ⟨⟨name, w⟩, hmem, rfl⟩
    exact ⟨name, hmem⟩
  · rintro ⟨name, hmem⟩
    exact ⟨(name, v), hmem, rfl⟩

/-- `g.Explores path ids done fresh stop`: with `path` in progress, innermost
first, and `done` handed out before, the ids `ids` are taken one after another;
`fresh` is handed out on the way, and `stop` is the id at which a cycle closed. -/
inductive Explores (g : Graph) :
    List String → List String → List String → List String → Option String → Prop
  | finished {path done : List String} : Explores g path [] done [] none
  | known {path ids done fresh : List String} {id : String} {stop : Option String}
      (hd : id ∈ done) (rest : Explores g path ids done fresh stop) :
      Explores g path (id :: ids) done fresh stop
  | closed {path ids done : List String} {id : String} (hd : id ∉ done) (hp : id ∈ path) :
      Explores g path (id :: ids) done [] (some id)
  | stuck {path ids done inner : List String} {id node : String} (hd : id ∉ done)
      (hp : id ∉ path)
      (below : Explores g (id :: path) (g.targets id) done inner (some node)) :
      Explores g path (id :: ids) done inner (some node)
  | left {path ids done inner fresh : List String} {id : String} {stop : Option String}
      (hd : id ∉ done) (hp : id ∉ path)
      (below : Explores g (id :: path) (g.targets id) done inner none)
      (rest : Explores g path ids (id :: (inner.reverse ++ done)) fresh stop) :
      Explores g path (id :: ids) done (inner ++ id :: fresh) stop

/-- A walk terminates, whatever is in progress and whatever was handed out. -/
theorem exists_explores (g : Graph) (path ids done : List String) :
    ∃ fresh stop, g.Explores path ids done fresh stop := by
  match ids with
  | [] => exact ⟨[], none, .finished⟩
  | id :: rest =>
    by_cases hd : id ∈ done
    · obtain ⟨fresh, stop, hrest⟩ := exists_explores g path rest done
      exact ⟨fresh, stop, .known hd hrest⟩
    by_cases hp : id ∈ path
    · exact ⟨[], some id, .closed hd hp⟩
    have hbelow : ∃ inner stop, g.Explores (id :: path) (g.targets id) done inner stop := by
      -- an id without edges has nothing below it and need not count for the measure
      cases ht : g.targets id with
      | nil => exact ⟨[], none, .finished⟩
      | cons t ts => exact exists_explores g (id :: path) (t :: ts) done
    obtain ⟨inner, stop, hinner⟩ := hbelow
    cases stop with
    | some node => exact ⟨inner, some node, .stuck hd hp hinner⟩
    | none =>
      obtain ⟨fresh, stop, hrest⟩ := exists_explores g path rest (id :: (inner.reverse ++ done))
      exact ⟨inner ++ id :: fresh, stop, .left hd hp hinner hrest⟩
termination_by g.pending path * g.width + ids.length
decreasing_by
  · simp
  · have hlt := weight_lt ht hp
    simp only [List.length_cons] at hlt ⊢
    omega
  · simp

variable {σ : Type}

def deliverAll (visitor : Visitor σ) : List String → Walk σ → Except Error Unit × Walk σ
  | [], w => (.ok (), w)
  | id :: rest, w =>
    match deliver visitor id w with
    | (.error e, w) => (.error e, w)
    | (.ok (), w) => deliverAll visitor rest w

def outcome : Option String → Except Error Unit
  | none => .ok ()
  | some node => .error (.cycle node)

def andThen (r : Except Error Unit × Walk σ) (next : Walk σ → Except Error Unit × Walk σ) :
    Except Error Unit × Walk σ :=
  match r with
  | (.error e, w) => (.error e, w)
  | (.ok (), w) => next w

theorem andThen_assoc (r : Except Error Unit × Walk σ)
    (next last : Walk σ → Except Error Unit × Walk σ) :
    andThen (andThen r next) last = andThen r fun w => andThen (next w) last := by
  obtain ⟨result, w⟩ := r
  cases result <;> rfl

theorem deliverAll_append (visitor : Visitor σ) (ids rest : List String) (w : Walk σ) :
    deliverAll visitor (ids ++ rest) w =
      andThen (deliverAll visitor ids w) (deliverAll visitor rest) := by
  induction ids generalizing w with
  | nil => rfl
  | cons id ids ih =>
    simp only [List.cons_append, deliverAll]
    split
    · rfl
    · exact ih _

theorem deliver_done {visitor : Visitor σ} {id : String} {w w' : Walk σ}
    (h : deliver visitor id w = (.ok (), w')) : w'.done = id :: w.done := by
  have hw := congrArg (fun r => r.2.done) h
  exact hw.symm

theorem deliverAll_done {visitor : Visitor σ} {ids : List String} {w w' : Walk σ}
    (h : deliverAll visitor ids w = (.ok (), w')) : w'.done = ids.reverse ++ w.done := by
  induction ids generalizing w with
  | nil =>
    cases h
    rfl
  | cons id ids ih =>
    simp only [deliverAll] at h
    split at h
    · cases h
    · next w₁ hfirst =>
      rw [ih h, deliver_done hfirst]
      simp

theorem visit_fresh (g : Graph) (visitor : Visitor σ) {path : List String} {id : String}
    {w : Walk σ} (hd : id ∉ w.done) (hp : id ∉ path) :
    visit g visitor path id w =
      andThen (visitAll g visitor (id :: path) (g.targets id) w) (deliver visitor id) := by
  rw [visit.eq_def, if_neg hd, dif_neg hp]
  split
  · next ht => rw [ht, visitAll]; rfl
  · next t ts ht => rw [ht]; rfl

theorem visitAll_cons (g : Graph) (visitor : Visitor σ) (path rest : List String) (id : String)
    (w : Walk σ) : visitAll g visitor path (id :: rest) w =
      andThen (visit g visitor path id w) (visitAll g visitor path rest) := by
  rw [visitAll]
  rfl

/-- A walk with a visitor is its exploration, with the visitor fed from it. -/
theorem Explores.visitAll_eq {g : Graph} {path ids done fresh : List String}
    {stop : Option String} (h : g.Explores path ids done fresh stop) (visitor : Visitor σ)
    (w : Walk σ) (hw : w.done = done) :
    visitAll g visitor path ids w =
      andThen (deliverAll visitor fresh w) fun w => (outcome stop, w) := by
  induction h generalizing w with
  | finished =>
    rw [visitAll]
    rfl
  | known hd _ ih =>
    subst hw
    rw [visitAll_cons, visit.eq_def, if_pos hd]
    exact ih w rfl
  | closed hd hp =>
    subst hw
    rw [visitAll_cons, visit.eq_def, if_neg hd, dif_pos hp]
    rfl
  | stuck hd hp _ ih =>
    subst hw
    rw [visitAll_cons, visit_fresh g visitor hd hp, ih w rfl, andThen_assoc, andThen_assoc]
    rfl
  | @left _ _ _ inner _ id _ hd hp _ _ ihb ihr =>
    subst hw
    rw [visitAll_cons, visit_fresh g visitor hd hp, ihb w rfl, deliverAll_append, andThen_assoc,
      andThen_assoc, andThen_assoc]
    -- what remains differs only where the ids below were all handed out
    cases hin : deliverAll visitor inner w with
    | mk result w₁ =>
      cases result with
      | error e => rfl
      | ok u =>
        cases hid : deliver visitor id w₁ with
        | mk result w₂ =>
          cases result with
          | error e => simp [andThen, deliverAll, outcome, hid]
          | ok u =>
            have hdone : w₂.done = id :: (inner.reverse ++ w.done) := by
              rw [deliver_done hid, deliverAll_done hin]
            simpa [andThen, deliverAll, outcome, hid] using ihr w₂ hdone

theorem Explores.visitInOrder_eq {g : Graph} {fresh : List String} {stop : Option String}
    (h : g.Explores [] g.nodes.keys [] fresh stop) (visitor : Visitor σ) (state : σ) :
    g.visitInOrder visitor state =
      match deliverAll visitor fresh ⟨[], state⟩ with
      | (.error e, w) => (.error e, w.state)
      | (.ok (), w) => (outcome stop, w.state) := by
  unfold visitInOrder
  rw [h.visitAll_eq visitor ⟨[], state⟩ rfl]
  cases deliverAll visitor fresh ⟨[], state⟩ with
  | mk result w => cases result <;> rfl

end Provision.Graph
