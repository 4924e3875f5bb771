import Provision.Graph

/-!
# Dependency order

A graph is walked depth first from its nodes in ascending order, and the edges of
a node in the order of their aliases. A visitor sees each id once, after all that
it depends on. An id that is met again on the path to it lies on a cycle, which
ends the walk.
-/

set_option autoImplicit false

namespace Provision

theorem Entries.mem_keys_of_find? {α : Type} {key : String} {es : List (String × α)} {x : α}
    (h : find? key es = some x) : key ∈ es.map Prod.fst := by
  induction es with
  | nil => simp [find?] at h
  | cons e rest ih =>
    obtain ⟨k, y⟩ := e
    simp only [find?] at h
    split at h
    · next eq => simp [eq]
    · exact List.mem_cons_of_mem _ (ih h)

namespace Graph

theorem mem_keys_of_targets {g : Graph} {id t : String} {ts : List String}
    (h : g.targets id = t :: ts) : id ∈ g.edges.keys := by
  unfold targets edgesOf at h
  cases found : g.edges.find? id with
  | none => simp [found, Table.empty] at h
  | some es => exact Entries.mem_keys_of_find? found

def pending (g : Graph) (path : List String) : Nat :=
  g.edges.keys.countP fun k => !path.contains k

theorem countP_lt {keys path : List String} {id : String} (mem : id ∈ keys)
    (fresh : ¬ id ∈ path) :
    (keys.countP fun k => !(id :: path).contains k) < keys.countP fun k => !path.contains k := by
  induction keys with
  | nil => simp at mem
  | cons k rest ih =>
    have le : (rest.countP fun k => !(id :: path).contains k)
        ≤ rest.countP fun k => !path.contains k :=
      List.countP_mono_left fun x _ hx => by simp_all
    simp only [List.countP_cons]
    by_cases eq : k = id
    · subst eq
      have now : (k :: path).contains k = true := by simp
      have before : path.contains k = false := by simpa using fresh
      simp only [now, before, Bool.not_true, Bool.not_false, Bool.false_eq_true, ↓reduceIte]
      omega
    · have lt := ih ((List.mem_cons.mp mem).resolve_left fun h => eq h.symm)
      have same : (id :: path).contains k = path.contains k := by
        simp [eq]
      rw [same]
      omega

theorem pending_lt {g : Graph} {path : List String} {id : String} (mem : id ∈ g.edges.keys)
    (fresh : ¬ id ∈ path) : g.pending (id :: path) < g.pending path :=
  countP_lt mem fresh

def width (g : Graph) : Nat := g.edges.entries.foldr (fun e total => e.2.size + total) 0 + 1

theorem size_le_total {id : String} {es : Table String} {edges : List (String × Table String)}
    (h : Entries.find? id edges = some es) :
    es.size ≤ edges.foldr (fun e total => e.2.size + total) 0 := by
  induction edges with
  | nil => simp [Entries.find?] at h
  | cons e rest ih =>
    obtain ⟨k, x⟩ := e
    simp only [List.foldr_cons]
    simp only [Entries.find?] at h
    split at h
    · cases h
      omega
    · have := ih h
      omega

theorem length_targets_lt (g : Graph) (id : String) : (g.targets id).length < g.width := by
  unfold targets edgesOf width
  cases found : g.edges.find? id with
  | none => simp [Table.empty]
  | some es =>
    have le : es.size ≤ _ := size_le_total found
    simp only [Option.getD_some, List.length_map]
    exact Nat.lt_succ_of_le le

/-- Entering an id outweighs the edges that it brings. -/
theorem weight_lt {g : Graph} {path : List String} {id t : String} {ts : List String}
    (h : g.targets id = t :: ts) (fresh : ¬ id ∈ path) :
    g.pending (id :: path) * g.width + (t :: ts).length < g.pending path * g.width := by
  have lt := pending_lt (mem_keys_of_targets h) fresh
  have short := h ▸ length_targets_lt g id
  calc g.pending (id :: path) * g.width + (t :: ts).length
      < g.pending (id :: path) * g.width + g.width := Nat.add_lt_add_left short _
    _ = (g.pending (id :: path) + 1) * g.width := (Nat.succ_mul _ _).symm
    _ ≤ g.pending path * g.width := Nat.mul_le_mul_right _ lt

/-- The ids that were handed out, last first, and the state of the visitor. -/
structure Walk (σ : Type) where
  done : List String
  state : σ

/-- What a visitor makes of an id: it may fail, and its state changes either way. -/
abbrev Visitor (σ : Type) := String → σ → Except Error Unit × σ

variable {σ : Type}

def deliver (visitor : Visitor σ) (id : String) (w : Walk σ) : Except Error Unit × Walk σ :=
  let (result, state) := visitor id w.state
  (result, ⟨id :: w.done, state⟩)

mutual

/-- Visits an id that was reached by `path`, innermost first. -/
def visit (g : Graph) (visitor : Visitor σ) (path : List String) (id : String) (w : Walk σ) :
    Except Error Unit × Walk σ :=
  if id ∈ w.done then (.ok (), w)
  else if _fresh : id ∈ path then (.error (.cycle id), w)
  else
    match _edges : g.targets id with
    | [] => deliver visitor id w
    | t :: ts =>
      match visitAll g visitor (id :: path) (t :: ts) w with
      | (.error e, w) => (.error e, w)
      | (.ok (), w) => deliver visitor id w
termination_by g.pending path * g.width
decreasing_by
  exact weight_lt _edges _fresh

def visitAll (g : Graph) (visitor : Visitor σ) (path ids : List String) (w : Walk σ) :
    Except Error Unit × Walk σ :=
  match ids with
  | [] => (.ok (), w)
  | id :: rest =>
    match visit g visitor path id w with
    | (.error e, w) => (.error e, w)
    | (.ok (), w) => visitAll g visitor path rest w
termination_by g.pending path * g.width + ids.length
decreasing_by
  · simp
  · simp

end

def visitInOrder (g : Graph) (visitor : Visitor σ) (state : σ) : Except Error Unit × σ :=
  let (result, w) := visitAll g visitor [] g.nodes.keys ⟨[], state⟩
  (result, w.state)

def record : Visitor (List String) := fun id seen => (.ok (), seen ++ [id])

def order (g : Graph) : Except Error (List String) :=
  match g.visitInOrder record [] with
  | (.ok (), ids) => .ok ids
  | (.error e, _) => .error e

end Graph

end Provision
