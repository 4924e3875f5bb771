import Provision.Proofs.Identifier
import Provision.Proofs.Program.Forms

/-!
# The blocks of a program

A program runs one block of statements for each node. The identifiers in the
arguments of a block are the targets of edges, and in dependency order the block of
the target comes first.
-/

set_option autoImplicit false

namespace Provision

open Outcome Go

namespace Program

theorem argumentFields_identifiers {scope : Scope} {seen : List String}
    {ps : List (String × Value)} {fields : List (Expr × Expr)}
    (h : argumentFields scope seen ps = .ok fields) :
    ∀ f ∈ fields, ∀ name ∈ f.2.identifiers, ∃ key, scope.aliases.find? key = some name :=
  fun f hf => (argumentFields_form h f hf).2.knows

structure Block where
  id : String
  node : Node
  fields : List (Expr × Expr)

namespace Block

def statements (b : Block) : List Stmt :=
  [.define [b.id, "err"] (.call (.qualified b.node.component.package b.node.component.constructor)
      [.ident "ctx", .string b.node.name,
        .unary "&" (.keyed (.qualified b.node.component.package b.node.component.argsType)
          b.fields)]),
    .branch (.binary (.ident "err") "!=" .nil) [.ret [.ident "err"]],
    .assign (.ident "_") (.call (.selector (.selector (.ident "ctx") "Log") "Debug")
      [.string "provisioned",
        .unary "&" (.keyed (.qualified pulumiPath "LogArgs")
          [(.ident "Resource", .ident b.id)])]),
    .blank]

/-- Whether the block is made from the node of its id, and its fields from the
parameters of that node. -/
structure Provisions (g : Graph) (b : Block) : Prop where
  node : g.nodes.find? b.id = some b.node
  fields : argumentFields (scopeOf g b.id b.node) [] (b.node.params.getD []) = .ok b.fields

end Block

theorem provision_ok {g : Graph} {id : String} {stmts : List Stmt}
    (h : provision g id = .ok stmts) :
    ∃ b : Block, b.id = id ∧ b.Provisions g ∧ stmts = b.statements := by
  unfold provision at h
  split at h
  · cases h
  · next n hn =>
    obtain ⟨fields, hf, h⟩ := bind_eq_ok.mp h
    cases pure_eq_ok.mp h
    exact ⟨⟨id, n, fields⟩, rfl, ⟨hn, hf⟩, rfl⟩

theorem deliverAll_emit_ok {g : Graph} {ids : List String} {w w' : Graph.Walk (List Stmt)}
    (h : Graph.deliverAll (emit g) ids w = (.ok (), w')) :
    ∃ blocks : List Block, blocks.map Block.id = ids ∧ (∀ b ∈ blocks, b.Provisions g) ∧
      w'.state = w.state ++ blocks.flatMap Block.statements := by
  induction ids generalizing w with
  | nil =>
    cases h
    exact ⟨[], rfl, by simp, by simp⟩
  | cons id ids ih =>
    cases hp : provision g id with
    | error e =>
      simp only [Graph.deliverAll, Graph.deliver, emit, hp] at h
      cases h
    | ok stmts =>
      simp only [Graph.deliverAll, Graph.deliver, emit, hp] at h
      obtain ⟨b, rfl, hb, rfl⟩ := provision_ok hp
      obtain ⟨blocks, hids, hall, hstate⟩ := ih h
      refine ⟨b :: blocks, by simp [hids], ?_, by simp [hstate]⟩
      intro c hc
      rcases List.mem_cons.mp hc with rfl | hc
      · exact hb
      · exact hall c hc

/-- A program has one block for each id, in dependency order. -/
theorem body_ok {g : Graph} {stmts : List Stmt} (h : body g = .ok stmts) :
    ∃ blocks : List Block,
      g.Explores [] g.nodes.keys [] (blocks.map Block.id) none ∧
      (∀ b ∈ blocks, b.Provisions g) ∧
      stmts = blocks.flatMap Block.statements ++ [.ret [.nil]] := by
  obtain ⟨fresh, stop, w, hexp, ⟨e, _, hb⟩ | ⟨hd, hb⟩⟩ := body_cases g
  · cases hb.symm.trans h
  · cases stop with
    | some node => cases hb.symm.trans h
    | none =>
      cases hb.symm.trans h
      obtain ⟨blocks, rfl, hall, hstate⟩ := deliverAll_emit_ok hd
      exact ⟨blocks, hexp, hall, by rw [hstate]; rfl⟩

theorem ofGraph_ok {g : Graph} {file : File} (h : ofGraph g = .ok file) :
    ∃ blocks : List Block,
      g.Explores [] g.nodes.keys [] (blocks.map Block.id) none ∧
      (∀ b ∈ blocks, b.Provisions g) ∧
      file = wrap (blocks.flatMap Block.statements ++ [.ret [.nil]]) := by
  obtain ⟨stmts, hs, h⟩ := bind_eq_ok.mp h
  cases pure_eq_ok.mp h
  obtain ⟨blocks, hexp, hall, rfl⟩ := body_ok hs
  exact ⟨blocks, hexp, hall, rfl⟩

/-- The blocks are those of the nodes: an id that is no node has none. -/
theorem mem_blocks_iff {g : Graph} {blocks : List Block}
    (hexp : g.Explores [] g.nodes.keys [] (blocks.map Block.id) none)
    (h : ∀ b ∈ blocks, b.Provisions g) (id : String) :
    id ∈ blocks.map Block.id ↔ id ∈ g.nodes.keys := by
  constructor
  · intro hid
    obtain ⟨b, hb, rfl⟩ := List.mem_map.mp hid
    exact Table.mem_keys_iff.mpr ⟨_, (h b hb).node⟩
  · intro hid
    exact hexp.mem_iff_reachable.mpr ⟨id, hid, .refl⟩

theorem mem_keys_of_dependsOn {g : Graph} {blocks : List Block}
    (hexp : g.Explores [] g.nodes.keys [] (blocks.map Block.id) none)
    (h : ∀ b ∈ blocks, b.Provisions g) {id target : String} (hid : id ∈ blocks.map Block.id)
    (he : g.DependsOn id target) : target ∈ g.nodes.keys :=
  (mem_blocks_iff hexp h target).mp (hexp.dependenciesFirst.idxOf_lt hid he).1

/-- The body of the function that the main function passes to `pulumi.Run`. -/
def runBody? (f : File) : Option (List Stmt) :=
  match f.funcs with
  | [⟨"main", [], none, [.expr (.call (.qualified path "Run") [.func _ _ stmts])]⟩] =>
    if path = pulumiPath then some stmts else none
  | _ => none

theorem runBody?_wrap (stmts : List Stmt) : runBody? (wrap stmts) = some stmts := by
  simp [runBody?, wrap, pulumi]

/-- The program of a project that was built has one block for each node. Blocks
define the id of their node, which is no word of the language and no name that
the program uses otherwise, and refer only to nodes of earlier blocks. -/
theorem program_blocks {p : Project} {g : Graph} {file : File} (hg : p.graph = .ok g)
    (hf : ofGraph g = .ok file) :
    ∃ blocks : List Block,
      runBody? file = some (blocks.flatMap Block.statements ++ [.ret [.nil]]) ∧
      (blocks.map Block.id).Nodup ∧
      (∀ id, id ∈ blocks.map Block.id ↔ id ∈ g.nodes.keys) ∧
      (∀ b ∈ blocks, b.Provisions g) ∧
      (∀ before b after, blocks = before ++ b :: after → ∀ f ∈ b.fields,
        ∀ name ∈ f.2.identifiers, name ∈ before.map Block.id) ∧
      ∀ b ∈ blocks, b.id ∉ ["ctx", "err", "error", "_"] ++ keywords := by
  obtain ⟨blocks, hexp, hall, rfl⟩ := ofGraph_ok hf
  obtain ⟨owners, hc, -⟩ := Graph.exists_consistent hg
  refine ⟨blocks, runBody?_wrap _, hexp.nodup, mem_blocks_iff hexp hall, hall, ?_, ?_⟩
  · rintro before b after rfl f hmem name hname
    have hb := hall b (by simp)
    have he : g.DependsOn b.id name := argumentFields_identifiers hb.fields f hmem name hname
    have hfirst := hexp.dependenciesFirst
    rw [List.map_append, List.map_cons] at hfirst
    exact hfirst.before he
  · intro b hb
    rw [hc.named _ _ (hall b hb).node]
    exact Identifier.component_notMem (by decide) _

theorem shop_program_blocks :
    ∃ g file, shop.graph = .ok g ∧ ofGraph g = .ok file ∧
      ∃ blocks : List Block,
        runBody? file = some (blocks.flatMap Block.statements ++ [.ret [.nil]]) ∧
        (blocks.map Block.id).Nodup ∧
        (∀ id, id ∈ blocks.map Block.id ↔ id ∈ g.nodes.keys) ∧
        (∀ b ∈ blocks, b.Provisions g) ∧
        (∀ before b after, blocks = before ++ b :: after → ∀ f ∈ b.fields,
          ∀ name ∈ f.2.identifiers, name ∈ before.map Block.id) ∧
        ∀ b ∈ blocks, b.id ∉ ["ctx", "err", "error", "_"] ++ keywords := by
  obtain ⟨g, file, hg, hf⟩ := exists_shop_file
  exact ⟨g, file, hg, hf, program_blocks hg hf⟩

end Program

end Provision
