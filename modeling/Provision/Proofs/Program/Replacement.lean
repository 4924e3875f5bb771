import Provision.Proofs.Graph.Replacement
import Provision.Proofs.Program.Keys

/-!
# Programs of graphs that differ in a node

Whether a graph without a cycle has a program is decided node by node, and in the scope of each
node nothing of another node counts but the metadata of its owner. So another node with the
same metadata leaves the statements of all others as they are.
-/

set_option autoImplicit false

namespace Provision

open Outcome Go

namespace Graph

theorem Explores.congr {g h : Graph} {path ids done fresh : List String} {stop : Option String}
    (ht : ∀ id, h.targets id = g.targets id) (hexp : g.Explores path ids done fresh stop) :
    h.Explores path ids done fresh stop := by
  induction hexp with
  | finished => exact .finished
  | known hd _ ih => exact .known hd ih
  | closed hd hp => exact .closed hd hp
  | stuck hd hp _ ih => exact .stuck hd hp (ht _ ▸ ih)
  | left hd hp _ _ ihb ihr => exact .left hd hp (ht _ ▸ ihb) ihr

/-- The order in which the nodes of a graph are handed out is the only one. -/
theorem Explores.unique {g : Graph} {ids fresh : List String} {stop : Option String}
    (h : g.Explores [] g.nodes.keys [] ids none)
    (hexp : g.Explores [] g.nodes.keys [] fresh stop) : fresh = ids ∧ stop = none := by
  have horder := h.order_eq.symm.trans hexp.order_eq
  cases stop with
  | some node => cases horder
  | none => exact ⟨(Except.ok.inj horder).symm, rfl⟩

end Graph

namespace Program

/-- A node has its statements when its parameters can be translated. -/
theorem exists_provision_iff {g : Graph} {id : String} {k : Node}
    (hk : g.nodes.find? id = some k) :
    (∃ stmts, provision g id = .ok stmts) ↔
      ∃ fields, argumentFields (scopeOf g id k) [] (k.params.getD []) = .ok fields := by
  rw [provision, hk]
  constructor
  · rintro ⟨stmts, h⟩
    obtain ⟨fields, hfields, -⟩ := bind_eq_ok.mp h
    exact ⟨fields, hfields⟩
  · rintro ⟨fields, hfields⟩
    exact ⟨_, bind_eq_ok.mpr ⟨fields, hfields, rfl⟩⟩

/-- A graph without a cycle has a program when each of its nodes has its statements. -/
theorem exists_ofGraph_iff {g : Graph} {ids : List String}
    (hexp : g.Explores [] g.nodes.keys [] ids none) :
    (∃ file, ofGraph g = .ok file) ↔ ∀ id ∈ ids, ∃ stmts, provision g id = .ok stmts := by
  constructor
  · rintro ⟨file, hf⟩ id hid
    obtain ⟨blocks, hexp', hall, -⟩ := ofGraph_ok hf
    rw [← (hexp.unique hexp').1] at hid
    obtain ⟨b, hb, rfl⟩ := List.mem_map.mp hid
    exact (exists_provision_iff (hall b hb).node).mpr ⟨b.fields, (hall b hb).fields⟩
  · intro hall
    obtain ⟨fresh, stop, w, hexp', ⟨e, hd, -⟩ | ⟨-, hb⟩⟩ := body_cases g
    · obtain ⟨rfl, -⟩ := hexp.unique hexp'
      obtain ⟨id, hid, hfail⟩ := deliverAll_emit_error hd
      obtain ⟨stmts, hok⟩ := hall id hid
      cases hok.symm.trans hfail
    · obtain ⟨-, rfl⟩ := hexp.unique hexp'
      exact ⟨_, bind_eq_ok.mpr ⟨_, hb, rfl⟩⟩

/-- The fields of the argument struct of the call that defines a node. -/
def argumentsIn? (id : String) : List Stmt → Option (List (Expr × Expr))
  | [] => none
  | .define names (.call _ [_, _, .unary _ (.keyed _ fields)]) :: rest =>
    if names = [id, "err"] then some fields else argumentsIn? id rest
  | _ :: rest => argumentsIn? id rest

def argumentsOf? (file : File) (id : String) : Option (List (Expr × Expr)) :=
  (runBody? file).bind (argumentsIn? id)

theorem argumentsIn?_blocks {blocks : List Block} {b : Block} (hb : b ∈ blocks)
    (hnodup : (blocks.map Block.id).Nodup) (after : List Stmt) :
    argumentsIn? b.id (blocks.flatMap Block.statements ++ after) = some b.fields := by
  induction blocks with
  | nil => cases hb
  | cons c rest ih =>
    rw [List.map_cons, List.nodup_cons] at hnodup
    rcases List.mem_cons.mp hb with rfl | hb
    · simp [Block.statements, argumentsIn?]
    · have hne : c.id ≠ b.id := fun heq => hnodup.1 (heq ▸ List.mem_map_of_mem hb)
      simpa [Block.statements, argumentsIn?, hne] using ih hb hnodup.2

/-- Each node of a graph that has a program has its argument struct there. -/
theorem argumentsOf?_eq_some {g : Graph} {file : File} {id : String} {n : Node}
    (hn : g.nodes.find? id = some n) (hf : ofGraph g = .ok file) :
    ∃ fields, argumentsOf? file id = some fields ∧
      argumentFields (scopeOf g id n) [] (n.params.getD []) = .ok fields := by
  obtain ⟨blocks, hexp, hall, rfl⟩ := ofGraph_ok hf
  have hid := (mem_blocks_iff hexp hall id).mpr (Table.mem_keys_iff.mpr ⟨n, hn⟩)
  obtain ⟨b, hb, rfl⟩ := List.mem_map.mp hid
  have hfields := (hall b hb).fields
  cases hn.symm.trans (hall b hb).node
  refine ⟨b.fields, ?_, hfields⟩
  rw [argumentsOf?, runBody?_wrap]
  exact argumentsIn?_blocks hb hexp.nodup _

section Replacing

variable {g : Graph} {root : String} {n m : Node}

def metadataParam? (n : Node) : Option Value := n.params.bind (Entries.find? "metadata")

theorem metadataOf_eq (g : Graph) (k : Node) :
    metadataOf g k = k.definedBy.bind fun owner =>
      (g.nodes.find? owner).bind fun w => (metadataParam? w).bind Value.entries? := by
  simp only [metadataOf, metadataParam?, Option.bind_eq_bind, Option.bind_assoc]

theorem scopeOf_setNode (hn : g.nodes.find? root = some n)
    (hm : metadataParam? m = metadataParam? n) (id : String) (k : Node) :
    scopeOf (g.setNode root m) id k = scopeOf g id k := by
  have hmeta : metadataOf (g.setNode root m) k = metadataOf g k := by
    rw [metadataOf_eq, metadataOf_eq]
    refine congrArg (k.definedBy.bind ·) (funext fun owner => ?_)
    by_cases ho : owner = root
    · subst ho
      simp [Graph.setNode, Table.find?_insert, hn, hm]
    · simp [Graph.setNode, Table.find?_insert, ho]
  rw [scopeOf, scopeOf, hmeta]
  rfl

theorem keys_setNode (hn : g.nodes.find? root = some n) :
    (g.setNode root m).nodes.keys = g.nodes.keys := by
  refine Table.keys_ext fun id => ?_
  rw [Graph.setNode, Table.mem_keys_insert]
  exact or_iff_right_of_imp fun heq => heq ▸ Table.mem_keys_iff.mpr ⟨n, hn⟩

theorem provision_setNode_ne (hn : g.nodes.find? root = some n)
    (hm : metadataParam? m = metadataParam? n) {id : String} (hid : id ≠ root) :
    provision (g.setNode root m) id = provision g id := by
  have hfind : (g.setNode root m).nodes.find? id = g.nodes.find? id :=
    Table.find?_insert_ne _ _ hid
  unfold provision
  rw [hfind]
  cases g.nodes.find? id with
  | none => rfl
  | some k =>
    dsimp only
    rw [scopeOf_setNode hn hm]

/-- With another node in a graph that has a program there is a program if the new node has an
argument struct. -/
theorem exists_ofGraph_setNode {file : File} (hn : g.nodes.find? root = some n)
    (hm : metadataParam? m = metadataParam? n) (hd : m.definedBy = n.definedBy)
    (hf : ofGraph g = .ok file) :
    (∃ other, ofGraph (g.setNode root m) = .ok other) ↔
      ∃ fields, argumentFields (scopeOf g root n) [] (m.params.getD []) = .ok fields := by
  obtain ⟨blocks, hexp, hall, -⟩ := ofGraph_ok hf
  -- The edges are the same, and so is the order of the nodes.
  have hexp' : (g.setNode root m).Explores [] (g.setNode root m).nodes.keys []
      (blocks.map Block.id) none := by
    rw [keys_setNode hn]
    exact Graph.Explores.congr (g := g) (fun _ => rfl) hexp
  have hscope : scopeOf (g.setNode root m) root m = scopeOf g root n := by
    rw [scopeOf_setNode hn hm, scopeOf, scopeOf, metadataOf_eq, metadataOf_eq, hd]
  have hroot : root ∈ blocks.map Block.id :=
    (mem_blocks_iff hexp hall root).mpr (Table.mem_keys_iff.mpr ⟨n, hn⟩)
  have hold := (exists_ofGraph_iff hexp).mp ⟨file, hf⟩
  rw [exists_ofGraph_iff hexp', ← hscope,
    ← exists_provision_iff (g := g.setNode root m) (Table.find?_insert_self _ _ _)]
  constructor
  · intro h
    exact h root hroot
  · intro h id hid
    by_cases heq : id = root
    · exact heq ▸ h
    · rw [provision_setNode_ne hn hm heq]
      exact hold id hid

end Replacing

/-- Another value for the first parameter of an argument struct has to be one that can be
translated. -/
theorem exists_argumentFields_cons {scope : Scope} {seen : List String} {k : String} {v : Value}
    {rest : List (String × Value)} {fields : List (Expr × Expr)}
    (h : argumentFields scope seen ((k, v) :: rest) = .ok fields) {u : Value} :
    (∃ others, argumentFields scope seen ((k, u) :: rest) = .ok others) ↔
      ∃ x, expression scope k u = .ok x := by
  constructor
  · rintro ⟨others, ho⟩
    obtain ⟨-, x, -, hx, -⟩ := argumentFields_cons_ok ho
    exact ⟨x, hx⟩
  · rintro ⟨x, hx⟩
    obtain ⟨field, hfield, h⟩ := bind_eq_ok.mp h
    dsimp only at h
    split at h
    · cases h
    · next hnew =>
      obtain ⟨_, -, h⟩ := bind_eq_ok.mp h
      obtain ⟨es, hes, -⟩ := bind_eq_ok.mp h
      refine ⟨(.ident field, x) :: es, bind_eq_ok.mpr ⟨field, hfield, ?_⟩⟩
      dsimp only
      rw [if_neg hnew]
      exact bind_eq_ok.mpr ⟨x, hx, bind_eq_ok.mpr ⟨es, hes, rfl⟩⟩

end Program

end Provision
