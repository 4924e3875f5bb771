import Provision.Proofs.Program.Positions
import Provision.Proofs.Program.Replacement

/-!
# Contents of mounted files

The content of a mounted file is a string like any other in the parameters of a workload, and
no step looks at the flag beside it that is to keep the content from being expanded. Whether
there is a graph and a program depends on the content, the edges do not, and the content stands
in the program as it is if nothing in it can be taken for an escape or a placeholder.
-/

set_option autoImplicit false

namespace Provision

open Outcome Placeholder Go

namespace Program

/-! ## The record of a file -/

def sideEntries (f : MountedFile) : List (String × Value) :=
  (f.mode.toList.map fun s => ("mode", Value.string s)) ++
    (f.source.toList.map fun s => ("source", Value.string s)) ++ [("target", .string f.target)]

theorem exists_expression_map {scope : Scope} {path : String} {es : List (String × Value)} :
    (∃ x, expression scope path (.map es) = .ok x) ↔
      ∀ e ∈ es, ∃ x, expression scope (Json.keyPath path e.1) e.2 = .ok x := by
  rw [← (expressionEntries_traverses scope path).exists_ok_iff]
  constructor
  · rintro ⟨x, hx⟩
    obtain ⟨bs, hbs, -⟩ := bind_eq_ok.mp hx
    exact ⟨bs, hbs⟩
  · rintro ⟨bs, hbs⟩
    exact ⟨_, bind_eq_ok.mpr ⟨bs, hbs, rfl⟩⟩

/-- The record of a file can be translated when its content and the entries beside it can,
whatever the flag is. -/
theorem exists_expression_holding {scope : Scope} {path : String} {f : MountedFile} {s : String}
    {flag : Option Bool} :
    (∃ x, expression scope path (f.holding s flag).value = .ok x) ↔
      (∃ e, expression scope (Json.keyPath path "content") (.string s) = .ok e) ∧
        ∀ e ∈ sideEntries f, ∃ x, expression scope (Json.keyPath path e.1) e.2 = .ok x := by
  have hflag : ∀ e ∈ flag.toList.map fun b => ("noExpand", Value.bool b),
      ∃ x, expression scope (Json.keyPath path e.1) e.2 = .ok x := by
    intro e he
    obtain ⟨b, -, rfl⟩ := List.mem_map.mp he
    exact ⟨_, rfl⟩
  rw [MountedFile.value, exists_expression_map]
  simp only [MountedFile.holding, sideEntries, Option.toList_some, List.map_cons, List.map_nil,
    List.forall_mem_append, List.cons_append, List.nil_append, List.forall_mem_cons] at hflag ⊢
  tauto

/-- The translated content stands under its key in the translated record. -/
theorem expression_holding {scope : Scope} {path : String} {f : MountedFile} {s : String}
    {flag : Option Bool} {x : Expr} (h : expression scope path (f.holding s flag).value = .ok x) :
    ∃ e, expression scope (Json.keyPath path "content") (.string s) = .ok e ∧
      x.at? [.key "content"] = some e := by
  obtain ⟨es, hes, h⟩ := bind_eq_ok.mp h
  cases pure_eq_ok.mp h
  obtain ⟨e, he, hes⟩ := bind_eq_ok.mp hes
  obtain ⟨rest, -, hes⟩ := bind_eq_ok.mp hes
  cases pure_eq_ok.mp hes
  exact ⟨e, he, by simp [Expr.at?, entryAt?]⟩

end Program

/-! ## Mounted files of a project -/

/-- A file with a content, mounted by a container of a workload of a project. -/
structure Mount where
  project : Project
  before : List Workload
  workload : Workload
  after : List Workload
  container : String
  index : Nat
  file : MountedFile
  content : String
  workloads_eq : project.workloads = before ++ workload :: after
  mounts : workload.Mounts container index file
  content_eq : file.content = some content

namespace Mount

open Provision.Graph Workload Program

variable (m : Mount)

def holding (content : String) (flag : Option Bool) : Project :=
  { m.project with workloads :=
      m.before ++ m.workload.mount m.container m.index (m.file.holding content flag) :: m.after }

theorem holding_self : m.holding m.content m.file.noExpand = m.project := by
  have hfile : m.file.holding m.content m.file.noExpand = m.file := by
    rw [MountedFile.holding, ← m.content_eq]
  rw [holding, hfile, mount_self m.mounts, ← m.workloads_eq]

def steps : List Step :=
  [.key m.container, .key "files", .index m.index, .key "content"]

def path : String := pathTo "containers" m.steps

def node (name : String) (outer : List (Frame Value)) (rest : List (String × Value))
    (content : String) (flag : Option Bool) : Node :=
  rootNode m.project.workloadComponent name
    (paramsAround outer rest (m.file.holding content flag))

/-- With another content there is a graph if the content can be collected, and the node of the
workload is all that is different in it. -/
theorem graph_holding {m : Mount} {g : Graph} (hg : m.project.graph = .ok g) :
    ∃ name outer rest, m.workload.name = .ok name ∧
      m.workload.Surrounds m.container m.index outer rest ∧
      g.nodes.find? (nodeId name) =
        some (m.node name outer rest m.content m.file.noExpand) ∧
      ∀ t flag h, (m.holding t flag).graph = .ok h ↔
        (m.workload.scope name).Collects t ∧
          h = g.setNode (nodeId name) (m.node name outer rest t flag) := by
  obtain ⟨library, hlibrary, -⟩ := bind_eq_ok.mp hg
  have hgraph : ∀ t flag, (m.holding t flag).graph =
      ofWorkloads m.project.workloadComponent library
        (m.before ++ m.workload.mount m.container m.index (m.file.holding t flag) :: m.after) := by
    intro t flag
    simp only [Project.graph, holding, hlibrary]
    rfl
  rw [← m.holding_self, hgraph] at hg
  obtain ⟨name, outer, rest, hname, hsurrounds⟩ := exists_surrounds_of_ofWorkloads m.mounts hg
  obtain ⟨before, after, hstrings⟩ := strings_paramsAround outer rest m.file
  -- The project itself is a case of the replacement: its own content can be collected with all
  -- other strings, and of these only the content changes.
  obtain ⟨hcollects, hself⟩ := (ofWorkloads_mount hname hsurrounds hg).mp hg
  rw [hstrings] at hcollects
  refine ⟨name, outer, rest, hname, hsurrounds, ?_, fun t flag h => ?_⟩
  · rw [hself]
    exact Table.find?_insert_self _ _ _
  · rw [hgraph, ofWorkloads_mount hname hsurrounds hg, hstrings]
    refine and_congr_left fun _ => ⟨fun hall => hall t (by simp), fun ht s hs => ?_⟩
    rcases List.mem_append.mp hs with hs | hs
    · exact hcollects s (by simp [hs])
    · rcases List.mem_cons.mp hs with rfl | hs
      · exact ht
      · exact hcollects s (by simp [hs])

/-- The scope in which the parameters of a workload are translated is that of the workload. -/
theorem scopeOf_workload {m : Mount} {g : Graph} {name : String} {n : Node}
    (ho : m.workload.Ordered) (hname : m.workload.name = .ok name)
    (hg : m.project.graph = .ok g) (hn : g.nodes.find? (nodeId name) = some n) :
    scopeOf g (nodeId name) n = m.workload.scope name := by
  obtain ⟨library, -, hg⟩ := bind_eq_ok.mp hg
  obtain ⟨k, hk, hroot⟩ :=
    (ofWorkloads_accounted hg).roots m.workload (by simp [m.workloads_eq]) name hname
  cases hn.symm.trans hk
  obtain ⟨ps, -, -, hps, hp, -⟩ := hroot.params
  have hmetadata : Entries.find? "metadata" ps.entries = some (.map m.workload.metadata.entries) :=
    find?_metadata_params ho hps
  rw [scopeOf, metadataOf_eq, hroot.edges_eq]
  simp [hroot.definedBy, hn, metadataParam?, hp, hmetadata, Value.entries?, scope]

section Program

variable {m} {g : Graph} {name : String} {outer : List (Frame Value)}
variable {rest : List (String × Value)}

theorem path_eq (hs : m.workload.Surrounds m.container m.index outer rest) :
    m.path = Json.keyPath (pathTo "containers" (outer.map Frame.step)) "content" := by
  rw [hs.steps]
  rfl

def shown? (m : Mount) (name : String) (program : File) : Option Expr :=
  match argumentsOf? program (nodeId name) with
  | some ((.ident "Containers", x) :: _) => x.at? m.steps
  | _ => none

/-- The parameters with another content can be translated if the content can be. -/
theorem exists_argumentFields_holding {scope : Scope} {fields : List (Expr × Expr)}
    {s : String} {flag : Option Bool}
    (hs : m.workload.Surrounds m.container m.index outer rest)
    (h : argumentFields scope [] (paramsAround outer rest (m.file.holding s flag)) = .ok fields)
    (t : String) (other : Option Bool) :
    (∃ others, argumentFields scope [] (paramsAround outer rest (m.file.holding t other)) =
        .ok others) ↔
      ∃ e, expression scope m.path (.string t) = .ok e := by
  obtain ⟨-, x, -, hx, -⟩ := argumentFields_cons_ok h
  obtain ⟨y, hy, -, hput⟩ := expression_framed hs.unique hx
  obtain ⟨-, hsides⟩ := exists_expression_holding.mp ⟨y, hy⟩
  rw [paramsAround, exists_argumentFields_cons h, path_eq hs]
  constructor
  · rintro ⟨x', hx'⟩
    obtain ⟨y', hy', -⟩ := expression_framed hs.unique hx'
    exact (exists_expression_holding.mp ⟨y', hy'⟩).1
  · intro ht
    obtain ⟨y', hy'⟩ := exists_expression_holding.mpr ⟨ht, hsides⟩
    exact hput _ y' hy'

/-- The content is translated in its place. -/
theorem shown?_content {scope : Scope} {t : String} {flag : Option Bool} {program : File}
    (hs : m.workload.Surrounds m.container m.index outer rest)
    (hn : g.nodes.find? (nodeId name) = some (m.node name outer rest t flag))
    (hscope : scopeOf g (nodeId name) (m.node name outer rest t flag) = scope)
    (hp : ofGraph g = .ok program) :
    ∃ e, expression scope m.path (.string t) = .ok e ∧ m.shown? name program = some e := by
  obtain ⟨fields, harguments, hfields⟩ := argumentsOf?_eq_some hn hp
  rw [hscope] at hfields
  obtain ⟨-, x, others, hx, -, hfields_eq⟩ := argumentFields_cons_ok hfields
  obtain ⟨y, hy, hat, -⟩ := expression_framed hs.unique hx
  obtain ⟨e, he, hcontent⟩ := expression_holding hy
  have hfield : Identifier.field "containers" = "Containers" := by decide +kernel
  have hsteps : m.steps = outer.map Frame.step ++ [.key "content"] := by
    rw [hs.steps]
    rfl
  refine ⟨e, path_eq hs ▸ he, ?_⟩
  rw [shown?, harguments, hfields_eq, hfield]
  exact (hsteps ▸ x.at?_append _ _).trans (hat ▸ hcontent)

theorem metadataParam?_node (t : String) (flag : Option Bool) :
    metadataParam? (m.node name outer rest t flag) = Entries.find? "metadata" rest := by
  simp [metadataParam?, node, rootNode, paramsAround, Entries.find?]

/-- With another content there is a program if the content can be translated. -/
theorem exists_ofGraph_holding {s : String} {flag : Option Bool} {scope : Scope} {program : File}
    (hs : m.workload.Surrounds m.container m.index outer rest)
    (hn : g.nodes.find? (nodeId name) = some (m.node name outer rest s flag))
    (hscope : scopeOf g (nodeId name) (m.node name outer rest s flag) = scope)
    (hp : ofGraph g = .ok program) (t : String) (other : Option Bool) :
    (∃ p, ofGraph (g.setNode (nodeId name) (m.node name outer rest t other)) = .ok p) ↔
      ∃ e, expression scope m.path (.string t) = .ok e := by
  obtain ⟨fields, -, hfields⟩ := argumentsOf?_eq_some hn hp
  have hmeta : metadataParam? (m.node name outer rest t other) =
      metadataParam? (m.node name outer rest s flag) := by
    rw [metadataParam?_node, metadataParam?_node]
  rw [exists_ofGraph_setNode hn hmeta rfl hp]
  rw [hscope] at hfields ⊢
  exact exists_argumentFields_holding hs hfields t other

/-- What stands for another content in a program is what the content is translated to. -/
theorem shown?_holding {t : String} {flag : Option Bool} {h : Graph} {program : File}
    (ho : m.workload.Ordered) (hname : m.workload.name = .ok name)
    (hg : m.project.graph = .ok g) (hh : (m.holding t flag).graph = .ok h)
    (hp : ofGraph h = .ok program) :
    ∃ e, expression (m.workload.scope name) m.path (.string t) = .ok e ∧
      m.shown? name program = some e := by
  obtain ⟨other, outer, rest, hother, hs, hn, hgraph⟩ := graph_holding hg
  cases hname.symm.trans hother
  obtain ⟨-, rfl⟩ := (hgraph t flag h).mp hh
  have hscope := scopeOf_workload ho hname hg hn
  refine shown?_content hs (Table.find?_insert_self _ _ _) ?_ hp
  rw [scopeOf_setNode hn (by rw [metadataParam?_node, metadataParam?_node])]
  exact hscope

end Program

/-- The content of a mounted file is expanded whatever its flag says. With another content and
another flag there is a graph if the content can be collected, with the same edges, and a
program if it can be translated, and what it is translated to stands in the program. It is a
literal of the content itself if nothing in the content is an escape or opens a placeholder,
and otherwise only if the content is a reference to metadata that is the same text. -/
theorem content_expanded {m : Mount} {g : Graph} (ho : m.workload.Ordered)
    (hg : m.project.graph = .ok g) :
    ∃ name, m.workload.name = .ok name ∧
      (∀ t flag, (∃ h, (m.holding t flag).graph = .ok h) ↔
        (m.workload.scope name).Collects t) ∧
      (∀ t flag h, (m.holding t flag).graph = .ok h → h.edges = g.edges ∧
        (∀ program, ofGraph g = .ok program →
          ((∃ other, ofGraph h = .ok other) ↔
            ∃ e, expression (m.workload.scope name) m.path (.string t) = .ok e)) ∧
        ∀ program, ofGraph h = .ok program →
          ∃ e, expression (m.workload.scope name) m.path (.string t) = .ok e ∧
            m.shown? name program = some e ∧
            (e = .call (pulumi "String") [.string t] ↔ Inert t ∨
              ∃ r keys, Template.parse t = .ok [.reference r] ∧ r.target = .metadata keys ∧
                (m.workload.scope name).metadataValue r.raw keys = .ok (.string t))) ∧
      ∀ t flag, Inert t → ∃ h, (m.holding t flag).graph = .ok h ∧ h.edges = g.edges ∧
        ∀ program, ofGraph g = .ok program → ∃ other, ofGraph h = .ok other ∧
          m.shown? name other = some (.call (pulumi "String") [.string t]) := by
  obtain ⟨name, outer, rest, hname, hs, hn, hgraph⟩ := graph_holding hg
  have hscope := scopeOf_workload ho hname hg hn
  refine ⟨name, hname, fun t flag => ?_, fun t flag h hh => ?_, fun t flag ht => ?_⟩
  · simp only [hgraph, exists_and_left, exists_eq, and_true]
  · obtain ⟨-, rfl⟩ := (hgraph t flag h).mp hh
    refine ⟨rfl, fun program hp => exists_ofGraph_holding hs hn hscope hp t flag,
      fun program hp => ?_⟩
    obtain ⟨e, he, hshown⟩ := shown?_holding ho hname hg hh hp
    refine ⟨e, he, hshown, ?_⟩
    rw [← @expression_eq_string _ m.path, he, Except.ok.injEq]
  · have hliteral := (@expression_eq_string (m.workload.scope name) m.path t).mpr (.inl ht)
    have hh := (hgraph t flag _).mpr ⟨ht.collects _, rfl⟩
    refine ⟨_, hh, rfl, fun program hp => ?_⟩
    obtain ⟨other, hother⟩ := (exists_ofGraph_holding hs hn hscope hp t flag).mpr ⟨_, hliteral⟩
    obtain ⟨e, he, hshown⟩ := shown?_holding ho hname hg hh hother
    cases hliteral.symm.trans he
    exact ⟨other, hother, hshown⟩

/-- A shop with a notice in a container, and a flag against expanding it. -/
def noticed : Workload :=
  ⟨"", Table.ofList [("name", .string "shop")], Table.ofList [("main",
    ⟨"nginx", none, none, none, some [⟨"/etc/motd", none, none, some "5$ off", some true⟩],
      none, none, none, none⟩)], none, Table.empty⟩

def notice : Mount where
  project := ⟨[noticed], ⟨"site", "New", "Args"⟩, []⟩
  before := []
  workload := noticed
  after := []
  container := "main"
  index := 0
  file := ⟨"/etc/motd", none, none, some "5$ off", some true⟩
  content := "5$ off"
  workloads_eq := rfl
  mounts := ⟨_, _, rfl, rfl, rfl⟩
  content_eq := rfl

theorem noticed_ordered : noticed.Ordered := by
  refine ⟨⟨trivial, trivial⟩, fun e he v hv => ?_, fun e he => ?_⟩
  · cases List.mem_singleton.mp he
    simp at hv
  · cases he

theorem content_expanded_notice :
    ∃ g, notice.workload.Ordered ∧ notice.project.graph = .ok g ∧
      ((∃ h, (notice.holding "$\x7bx\x7d" (some true)).graph = .ok h) ↔
        (noticed.scope "shop").Collects "$\x7bx\x7d") ∧
      ∃ h, (notice.holding "$x for 5$" (some true)).graph = .ok h ∧ h.edges = g.edges ∧
        ∃ other, ofGraph h = .ok other ∧
          notice.shown? "shop" other = some (.call (pulumi "String") [.string "$x for 5$"]) := by
  obtain ⟨g, hg⟩ := exists_eq_ok (x := notice.project.graph) (by decide +kernel)
  obtain ⟨program, hp⟩ := exists_eq_ok (x := notice.project.graph.bind ofGraph)
    (by decide +kernel)
  rw [hg] at hp
  obtain ⟨name, hname, hcollects, -, hinert⟩ := content_expanded noticed_ordered hg
  cases (show noticed.name = .ok "shop" from rfl).symm.trans hname
  obtain ⟨h, hh, hedges, hprogram⟩ := hinert "$x for 5$" (some true) (by constructor <;> decide)
  exact ⟨g, noticed_ordered, hg, hcollects _ _, h, hh, hedges, hprogram program hp⟩

/-- In spite of the flag a notice is not shown as it is, and one with a placeholder that leads
nowhere keeps the graph from being built. -/
theorem not_content_verbatim :
    (∃ g, notice.project.graph = .ok g) ∧
      (∃ e, (notice.holding "$\x7bx\x7d" (some true)).graph = .error e) ∧
      ∃ h program, (notice.holding "$\x7bmetadata.name\x7d" (some true)).graph = .ok h ∧
        ofGraph h = .ok program ∧
        notice.shown? "shop" program = some (.call (pulumi "String") [.string "shop"]) := by
  obtain ⟨g, hg⟩ := exists_eq_ok (x := notice.project.graph) (by decide +kernel)
  obtain ⟨h, hh⟩ := exists_eq_ok
    (x := (notice.holding "$\x7bmetadata.name\x7d" (some true)).graph) (by decide +kernel)
  obtain ⟨program, hp⟩ := exists_eq_ok
    (x := (notice.holding "$\x7bmetadata.name\x7d" (some true)).graph.bind ofGraph)
    (by decide +kernel)
  rw [hh] at hp
  obtain ⟨e, he, hshown⟩ := shown?_holding noticed_ordered rfl hg hh hp
  have hparse : Placeholder.Template.parse "$\x7bmetadata.name\x7d" =
      .ok [.reference ⟨"metadata.name", .metadata ["name"]⟩] :=
    toOption_eq_some.mp (by decide +kernel)
  have hshop : expression (noticed.scope "shop") notice.path (.string "$\x7bmetadata.name\x7d") =
      .ok (.call (pulumi "String") [.string "shop"]) := by
    rw [expression, Scope.interpolate, hparse]
    rfl
  cases hshop.symm.trans he
  refine ⟨⟨g, hg⟩, ?_, h, program, hh, hp, hshown⟩
  cases hx : (notice.holding "$\x7bx\x7d" (some true)).graph with
  | error e => exact ⟨e, rfl⟩
  | ok k =>
    have hnone : (notice.holding "$\x7bx\x7d" (some true)).graph.toOption.isNone = true := by
      decide +kernel
    rw [hx] at hnone
    cases hnone

end Mount

end Provision
