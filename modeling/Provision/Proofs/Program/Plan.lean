import Mathlib.Data.List.Forall2
import Mathlib.Data.List.Perm.Basic
import Provision.Graph.Plan
import Provision.Proofs.Program.Blocks

/-!
# Plans and programs

A plan and a program come from two walks over the same graph. The plan skips ids that
are not nodes and counts all it has walked over; the program fails at such ids. Where
there is a program, every id is a node, so the plan leaves nothing out: it lists the
nodes in the order in which the program defines them, with their edges, and the number
that it gives is the number of the nodes.
-/

set_option autoImplicit false

namespace Provision

open Outcome Go

namespace Graph

/-- What a plan says of a node: the node itself, and the nodes at the ends of its edges. -/
structure PlanItem where
  id : String
  node : Node
  edges : List (String × Node)

namespace PlanItem

def edgeText (e : String × Node) : String := "      " ++ e.1 ++ " -> " ++ e.2.name ++ "\n"

def text (i : PlanItem) : String :=
  "  + " ++ i.node.name ++ " (" ++ i.id ++ ")\n      component: " ++ i.node.component.written
    ++ "\n" ++ String.join (i.edges.map edgeText)

structure Describes (g : Graph) (i : PlanItem) : Prop where
  node : g.nodes.find? i.id = some i.node
  edges : List.Forall₂ (fun e d => e.1 = d.1 ∧ g.nodes.find? e.2 = some d.2)
    (g.edgesOf i.id).entries i.edges

def planOf (items : List PlanItem) : String :=
  "Provisioning Plan\n\n" ++ String.join (items.map text) ++ "\n  " ++ toString items.length
    ++ " component(s) will be provisioned.\n"

end PlanItem

theorem exists_planEdges {g : Graph} {es : List (String × String)}
    (h : ∀ e ∈ es, e.2 ∈ g.nodes.keys) :
    ∃ ds : List (String × Node),
      List.Forall₂ (fun e d => e.1 = d.1 ∧ g.nodes.find? e.2 = some d.2) es ds ∧
        es.map g.edgeText = ds.map PlanItem.edgeText := by
  induction es with
  | nil => exact ⟨[], .nil, rfl⟩
  | cons e es ih =>
    obtain ⟨he, hes⟩ := List.forall_mem_cons.mp h
    obtain ⟨n, hn⟩ := Table.mem_keys_iff.mp he
    obtain ⟨ds, hds, htext⟩ := ih hes
    refine ⟨(e.1, n) :: ds, .cons ⟨rfl, hn⟩ hds, ?_⟩
    rw [List.map_cons, List.map_cons, htext]
    simp only [edgeText, PlanItem.edgeText, nameOf, hn]

theorem exists_planItem {g : Graph} {id : String} {n : Node} (hn : g.nodes.find? id = some n)
    (ht : ∀ v, g.DependsOn id v → v ∈ g.nodes.keys) :
    ∃ i : PlanItem, i.id = id ∧ i.Describes g ∧ g.planEntry id = i.text := by
  have hends : ∀ e ∈ (g.edgesOf id).entries, e.2 ∈ g.nodes.keys :=
    fun e he => ht e.2 ⟨e.1, Table.find?_eq_some_iff.mpr he⟩
  obtain ⟨ds, hds, htext⟩ := exists_planEdges hends
  refine ⟨⟨id, n, ds⟩, rfl, ⟨hn, hds⟩, ?_⟩
  simp only [planEntry, hn, htext, PlanItem.text]

/-- A plan over nodes whose edges lead to nodes has an item for each of them. -/
theorem exists_planItems {g : Graph} {ids : List String}
    (h : ∀ id ∈ ids, id ∈ g.nodes.keys ∧ ∀ v, g.DependsOn id v → v ∈ g.nodes.keys) :
    ∃ items : List PlanItem, items.map PlanItem.id = ids ∧ (∀ i ∈ items, i.Describes g) ∧
      ids.map g.planEntry = items.map PlanItem.text := by
  induction ids with
  | nil => exact ⟨[], rfl, by simp, rfl⟩
  | cons id ids ih =>
    obtain ⟨⟨hid, ht⟩, hids⟩ := List.forall_mem_cons.mp h
    obtain ⟨n, hn⟩ := Table.mem_keys_iff.mp hid
    obtain ⟨i, rfl, hi, htext⟩ := exists_planItem hn ht
    obtain ⟨items, rfl, hall, htexts⟩ := ih hids
    exact ⟨i :: items, rfl, List.forall_mem_cons.mpr ⟨hi, hall⟩, by simp [htext, htexts]⟩

theorem planText_eq {g : Graph} {items : List PlanItem}
    (h : (items.map PlanItem.id).map g.planEntry = items.map PlanItem.text) :
    g.planText (items.map PlanItem.id) = PlanItem.planOf items := by
  unfold planText PlanItem.planOf
  rw [h, List.length_map]

end Graph

namespace Program

/-- The only definition in a block is that of its node. -/
theorem Block.Provisions.definitions {g : Graph} {b : Block} (h : b.Provisions g) :
    (partsOfBlock b.statements).filterMap Go.Part.defined? = [[b.id, "err"]] := by
  have hfields : (partsOfEntries b.fields).filterMap Go.Part.defined? = [] := by
    rw [List.filterMap_eq_nil_iff]
    intro x hx
    obtain ⟨⟨e, rfl⟩, -⟩ := argumentFields_plain h.fields x hx
    rfl
  simp [Block.statements, partsOfBlock, Stmt.parts, Expr.parts, partsOfExprs, partsOfEntries,
    List.filterMap_cons, Go.Part.defined?, hfields]

theorem definitions_wrap {g : Graph} {blocks : List Block} (h : ∀ b ∈ blocks, b.Provisions g) :
    (wrap (blocks.flatMap Block.statements ++ [.ret [.nil]])).definitions =
      blocks.map fun b => [b.id, "err"] := by
  have hblocks : (partsOfBlock (blocks.flatMap Block.statements)).filterMap Go.Part.defined? =
      blocks.map fun b => [b.id, "err"] := by
    induction blocks with
    | nil => rfl
    | cons b blocks ih =>
      obtain ⟨hb, hrest⟩ := List.forall_mem_cons.mp h
      rw [List.flatMap_cons, partsOfBlock_append, List.filterMap_append, hb.definitions, ih hrest]
      rfl
  simp [File.definitions, File.parts, wrap, FuncDecl.parts, partsOfParams, partsOfResult,
    partsOfBlock, Stmt.parts, Expr.parts, partsOfExprs, pulumi, partsOfBlock_append, hblocks,
    List.filterMap_cons, Go.Part.defined?]

theorem exists_plan {g : Graph} {blocks : List Block}
    (hexp : g.Explores [] g.nodes.keys [] (blocks.map Block.id) none)
    (h : ∀ b ∈ blocks, b.Provisions g) :
    ∃ items : List Graph.PlanItem, g.plan = .ok (Graph.PlanItem.planOf items) ∧
      items.map Graph.PlanItem.id = blocks.map Block.id ∧ ∀ i ∈ items, i.Describes g := by
  -- the plan skips an id that is no node: there is none among the blocks and their edges
  have hnodes : ∀ id ∈ blocks.map Block.id,
      id ∈ g.nodes.keys ∧ ∀ v, g.DependsOn id v → v ∈ g.nodes.keys := by
    intro id hid
    exact ⟨(mem_blocks_iff hexp h id).mp hid, fun v he => mem_keys_of_dependsOn hexp h hid he⟩
  obtain ⟨items, hids, hall, htext⟩ := Graph.exists_planItems hnodes
  refine ⟨items, ?_, hids, hall⟩
  rw [Graph.plan, Graph.order_eq_ok_iff.mpr hexp, ← hids]
  exact congrArg Except.ok (Graph.planText_eq (hids ▸ htext))

/-- Whether the items of a plan are what a program defines: they come in the order of
its definitions, they are the nodes of the graph with their edges, and all are counted. -/
structure Lists (g : Graph) (file : File) (items : List Graph.PlanItem) : Prop where
  definitions : file.definitions = items.map fun i => [i.id, "err"]
  nodes : (items.map Graph.PlanItem.id).Perm g.nodes.keys
  described : ∀ i ∈ items, i.Describes g
  definitionCount : items.length = file.definitions.length
  nodeCount : items.length = g.nodes.size

theorem exists_lists {g : Graph} {file : File} (h : ofGraph g = .ok file) :
    ∃ items : List Graph.PlanItem, g.plan = .ok (Graph.PlanItem.planOf items) ∧
      Lists g file items := by
  obtain ⟨blocks, hexp, hall, rfl⟩ := ofGraph_ok h
  obtain ⟨items, hplan, hids, hdescribed⟩ := exists_plan hexp hall
  have hdefs : (wrap (blocks.flatMap Block.statements ++ [.ret [.nil]])).definitions =
      items.map fun i => [i.id, "err"] := by
    have hmap := congrArg (List.map fun id => [id, "err"]) hids
    rw [List.map_map, List.map_map] at hmap
    exact (definitions_wrap hall).trans hmap.symm
  have hperm : (items.map Graph.PlanItem.id).Perm g.nodes.keys := by
    rw [hids]
    exact (List.perm_ext_iff_of_nodup hexp.nodup g.nodes.nodup_keys).mpr
      (mem_blocks_iff hexp hall)
  refine ⟨items, hplan, hdefs, hperm, hdescribed, ?_, ?_⟩
  · rw [hdefs, List.length_map]
  · simpa [Table.keys, Table.size] using hperm.length_eq

/-- Where there is a program, there is a plan that lists what the program defines. So
there is no program where there is no plan. -/
theorem plan_of_program (g : Graph) :
    (∀ file, ofGraph g = .ok file → ∃ items : List Graph.PlanItem,
      g.plan = .ok (Graph.PlanItem.planOf items) ∧ Lists g file items) ∧
      ∀ e, g.plan = .error e → ∃ e', ofGraph g = .error e' := by
  refine ⟨fun file => exists_lists, ?_⟩
  intro e he
  cases hf : ofGraph g with
  | error e' => exact ⟨e', rfl⟩
  | ok file =>
    obtain ⟨items, hplan, -⟩ := exists_lists hf
    cases he.symm.trans hplan

def pair : Graph :=
  ⟨Table.ofList [("a", default), ("b", default)],
    Table.ofList [("a", Table.ofList [("next", "b")]), ("b", Table.ofList [("next", "a")])]⟩

theorem plan_of_program_shop :
    (∃ g file, shop.graph = .ok g ∧ ofGraph g = .ok file ∧ ∃ items : List Graph.PlanItem,
      g.plan = .ok (Graph.PlanItem.planOf items) ∧ Lists g file items) ∧
      pair.plan = .error (.cycle "a") ∧ ∃ e, ofGraph pair = .error e := by
  constructor
  · obtain ⟨g, file, hg, hf⟩ := exists_shop_file
    exact ⟨g, file, hg, hf, (plan_of_program g).1 file hf⟩
  · have hfails : pair.plan = .error (.cycle "a") := by decide +kernel
    exact ⟨hfails, (plan_of_program pair).2 _ hfails⟩

end Program

end Provision
