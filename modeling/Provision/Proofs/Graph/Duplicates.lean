import Provision.Proofs.Graph.Steps
import Provision.Proofs.Project.Upserts

/-!
# Workloads declared twice

A build reports two declarations of one workload only where two workloads have one name. All
other ways in which a build can fail are something else.
-/

set_option autoImplicit false

namespace Provision

open Outcome

def Error.IsRepeat (e : Error) : Prop := ∃ name, e = .conflict .workload name .declarations

def Unrepeated {α : Type} (x : Except Error α) : Prop := ∀ e, x = .error e → ¬ e.IsRepeat

namespace Unrepeated

variable {α β : Type} {x : Except Error α}

theorem ok (a : α) : Unrepeated (.ok a : Except Error α) := nofun

theorem error {e : Error} (h : ¬ e.IsRepeat) : Unrepeated (.error e : Except Error α) := by
  rintro _ ⟨⟩
  exact h

theorem bind {f : α → Except Error β} (hx : Unrepeated x) (hf : ∀ a, Unrepeated (f a)) :
    Unrepeated (x >>= f) := by
  intro e h
  rcases bind_eq_error.mp h with hfail | ⟨a, -, hfail⟩
  · exact hx e hfail
  · exact hf a e hfail

theorem map {f : α → β} (hx : Unrepeated x) : Unrepeated (x.map f) := by
  intro e h
  cases x with
  | ok a => cases h
  | error cause =>
    cases h
    exact hx e rfl

end Unrepeated

theorem Scope.unrepeated_within {α : Type} (raw : String) (r : Except ReferenceFault α) :
    Unrepeated (within raw r) := by
  cases r with
  | ok a => exact .ok a
  | error cause => exact .error nofun

namespace Json

mutual

theorem unrepeated_normalize (path : String) (j : Json) : Unrepeated (j.normalize path) := by
  match j with
  | null => exact .ok _
  | bool _ => exact .ok _
  | string _ => exact .ok _
  | beyond => exact .ok _
  | int n =>
    rw [normalize]
    split
    · exact .ok _
    · exact .error nofun
  | float x =>
    rw [normalize]
    split
    · exact .ok _
    · exact .error nofun
  | array items => exact (unrepeated_normalizeItems path 0 items).bind fun _ => .ok _
  | object members => exact (unrepeated_normalizeMembers path members).bind fun _ => .ok _

theorem unrepeated_normalizeItems (path : String) (i : Nat) (items : List Json) :
    Unrepeated (normalizeItems path i items) := by
  match items with
  | [] => exact .ok _
  | j :: rest =>
    exact (unrepeated_normalize _ j).bind fun _ =>
      (unrepeated_normalizeItems path (i + 1) rest).bind fun _ => .ok _

theorem unrepeated_normalizeMembers (path : String) (members : List (String × Json)) :
    Unrepeated (normalizeMembers path members) := by
  match members with
  | [] => exact .ok _
  | (k, j) :: rest =>
    exact (unrepeated_normalize _ j).bind fun _ =>
      (unrepeated_normalizeMembers path rest).bind fun _ => .ok _

end

end Json

theorem Value.unrepeated_text (path : String) (v : Value) : Unrepeated (v.text path) := by
  unfold text
  split
  · exact .ok _
  · unfold jsonText
    split
    · exact .ok _
    · exact .error nofun

namespace Placeholder

theorem unrepeated_reference (body : String) : Unrepeated (reference body) := by
  unfold reference
  split
  · exact .ok _
  · exact .error nofun

theorem unrepeated_ofLexemes (ls : List Lexeme) : Unrepeated (Template.ofLexemes ls) := by
  induction ls with
  | nil => exact .ok _
  | cons l rest ih =>
    cases l with
    | text s => exact ih.map
    | escape => exact ih.map
    | placeholder body => exact (unrepeated_reference body).bind fun _ => ih.bind fun _ => .ok _

theorem unrepeated_parse (s : String) : Unrepeated (Template.parse s) := by
  refine Unrepeated.bind ?_ unrepeated_ofLexemes
  unfold scan
  split
  · exact .ok _
  · exact .error nofun

end Placeholder

namespace Scope

open Placeholder

theorem unrepeated_collectSegment (scope : Scope) (s : Segment) :
    Unrepeated (scope.collectSegment s) := by
  cases s with
  | text s => exact .ok _
  | escape => exact .ok _
  | reference r =>
    unfold collectSegment
    dsimp only
    split
    · exact (unrepeated_within _ _).bind fun _ => (Value.unrepeated_text _ _).bind fun _ => .ok _
    · exact (unrepeated_within _ _).bind fun _ => .ok _

theorem unrepeated_collectSegments (scope : Scope) (t : Template) :
    Unrepeated (scope.collectSegments t) := by
  induction t with
  | nil => exact .ok _
  | cons s rest ih =>
    exact (unrepeated_collectSegment scope s).bind fun _ => ih.bind fun _ => .ok _

theorem unrepeated_collectText (scope : Scope) (s : String) : Unrepeated (scope.collectText s) := by
  unfold collectText
  split
  · exact .ok _
  · refine (unrepeated_parse s).bind fun t => ?_
    have hjoined : Unrepeated (do
        let joined ← collectSegments scope t
        return (Value.string joined.1, joined.2)) :=
      (unrepeated_collectSegments scope t).bind fun _ => .ok _
    unfold collectTemplate
    dsimp only
    split
    · split
      · exact (unrepeated_within _ _).bind fun _ => .ok _
      · exact hjoined
    · exact hjoined

theorem unrepeated_locate {α : Type} (path : String) {x : Except Error α} (h : Unrepeated x) :
    Unrepeated (locate path x) := by
  cases x with
  | ok a => exact .ok a
  | error e =>
    apply Unrepeated.error
    unfold Error.located
    split
    · nofun
    · exact h e rfl

mutual

theorem unrepeated_collectTree (scope : Scope) (path : String) (v : Value) :
    Unrepeated (scope.collectTree path v) := by
  match v with
  | .null => exact .ok _
  | .bool _ => exact .ok _
  | .int _ => exact .ok _
  | .float _ => exact .ok _
  | .string s => exact unrepeated_locate path (unrepeated_collectText scope s)
  | .list items => exact (unrepeated_collectItems scope path 0 items).bind fun _ => .ok _
  | .map entries => exact (unrepeated_collectEntries scope path entries).bind fun _ => .ok _

theorem unrepeated_collectItems (scope : Scope) (path : String) (i : Nat) (vs : List Value) :
    Unrepeated (scope.collectItems path i vs) := by
  match vs with
  | [] => exact .ok _
  | v :: rest =>
    exact (unrepeated_collectTree scope _ v).bind fun _ =>
      (unrepeated_collectItems scope path (i + 1) rest).bind fun _ => .ok _

theorem unrepeated_collectEntries (scope : Scope) (path : String) (es : List (String × Value)) :
    Unrepeated (scope.collectEntries path es) := by
  match es with
  | [] => exact .ok _
  | (k, v) :: rest =>
    exact (unrepeated_collectTree scope _ v).bind fun _ =>
      (unrepeated_collectEntries scope path rest).bind fun _ => .ok _

end

theorem unrepeated_collect (scope : Scope) (params : List (String × Value)) :
    Unrepeated (scope.collect params) := by
  refine Unrepeated.bind ?_ fun _ => .ok _
  induction params with
  | nil => exact .ok _
  | cons e rest ih =>
    exact (unrepeated_collectTree scope e.1 e.2).bind fun _ => ih.bind fun _ => .ok _

end Scope

namespace Workload

theorem unrepeated_name (w : Workload) : Unrepeated w.name := by
  unfold name
  split
  · split
    · exact .error nofun
    · exact .ok _
  · exact .error nofun
  · exact .error nofun

theorem unrepeated_treeOf (path : String) (r : Except ShapeFault Json) :
    Unrepeated (treeOf path r) := by
  cases r with
  | ok j => exact Json.unrepeated_normalize path _
  | error cause => exact .error nofun

theorem unrepeated_params (w : Workload) : Unrepeated w.params := by
  refine (unrepeated_treeOf _ _).bind fun _ => (unrepeated_treeOf _ _).bind fun _ => ?_
  dsimp only
  split
  · exact .ok _
  · exact (unrepeated_treeOf _ _).bind fun _ => .ok _

end Workload

namespace Graph

open Workload

theorem unrepeated_lookup (l : Library) (type cls identity : String) :
    Unrepeated (l.lookup type cls identity) := by
  unfold Library.lookup
  split
  · exact .ok _
  · exact .error nofun

theorem unrepeated_joinEdges (identity : String) (existing : Table String)
    (es : List (String × String)) : Unrepeated (joinEdges identity existing es) := by
  induction es generalizing existing with
  | nil => exact .ok _
  | cons e rest ih =>
    obtain ⟨name, target⟩ := e
    unfold joinEdges
    split
    · split
      · exact ih existing
      · exact .error nofun
    · exact ih _

theorem unrepeated_connect (scope : Scope) (id identity : String) (n : Node) (g : Graph) :
    Unrepeated (connect scope id identity n g) := by
  unfold connect
  split
  · exact .ok _
  · refine (scope.unrepeated_collect _).bind fun x => ?_
    obtain ⟨_, deps⟩ := x
    dsimp only
    split
    · exact .ok _
    · exact (unrepeated_joinEdges _ _ _).bind fun _ => .ok _

theorem unrepeated_resourceNode (library : Library) (g : Graph) (id identity : String)
    (r : Resource) : Unrepeated (resourceNode library g id identity r) := by
  unfold resourceNode
  split
  · split
    · exact .ok _
    · exact .error nofun
  · exact (unrepeated_lookup _ _ _ _).bind fun _ => .ok _

theorem unrepeated_supply (scope : Scope) (owner identity : String) (r : Resource) (n : Node) :
    Unrepeated (supply scope owner identity r n) := by
  unfold supply
  split
  · exact .ok _
  · refine (scope.unrepeated_collect _).bind fun x => ?_
    obtain ⟨resolved, _⟩ := x
    dsimp only
    split
    · split
      · exact .ok _
      · exact .error nofun
    · exact .ok _

theorem unrepeated_addResource (library : Library) (workloads : List String) (scope : Scope)
    (name : String) (g : Graph) (e : String × Resource) :
    Unrepeated (addResource library workloads scope name g e) := by
  unfold addResource
  dsimp only
  split
  · exact .error nofun
  · exact (unrepeated_resourceNode _ _ _ _ _).bind fun _ =>
      (unrepeated_supply _ _ _ _ _).bind fun _ => unrepeated_connect _ _ _ _ _

theorem unrepeated_addResources (library : Library) (workloads : List String) (scope : Scope)
    (name : String) (g : Graph) (es : List (String × Resource)) :
    Unrepeated (addResources library workloads scope name g es) := by
  induction es generalizing g with
  | nil => exact .ok _
  | cons e rest ih => exact (unrepeated_addResource _ _ _ _ _ _).bind fun g => ih g

theorem unrepeated_addRoot (component : Component) (w : Workload) (name : String) (g : Graph) :
    Unrepeated (addRoot component w name g) := by
  refine (w.unrepeated_params).bind fun params => ?_
  refine ((w.scope name).unrepeated_collect _).bind fun _ => ?_
  dsimp only
  split
  · exact .error nofun
  · exact .ok _

/-- A workload of a new name is not reported as declared twice. -/
theorem Draft.unrepeated_add (component : Component) (library : Library) (d : Draft)
    (w : Workload) (name : String) (hw : w.name = .ok name) (hn : name ∉ d.names) :
    Unrepeated (Draft.add component library d w) := by
  intro e h
  rcases bind_eq_error.mp h with hname | ⟨other, hother, hadd⟩
  · exact w.unrepeated_name e hname
  · rw [hw] at hother
    cases hother
    dsimp only at hadd
    split at hadd
    · next hrepeat => exact absurd (by simpa using hrepeat) hn
    · have hrest : Unrepeated (do
          let g ← addResources library d.workloads (w.scope name) name d.graph w.resources.entries
          let g ← addRoot component w name g
          return (⟨g, name :: d.names, nodeId name :: d.workloads⟩ : Draft)) :=
        (unrepeated_addResources _ _ _ _ _ _).bind fun _ =>
          (unrepeated_addRoot _ _ _ _).bind fun _ => .ok _
      exact hrest e hadd

/-- Workloads of distinct names are not reported as declared twice. -/
theorem Draft.unrepeated_addAll (component : Component) (library : Library) (d : Draft)
    (ws : List Workload) (names : List String) (hnames : ws.map Workload.name = names.map .ok)
    (hnodup : names.Nodup) (hnew : ∀ name ∈ names, name ∉ d.names) :
    Unrepeated (Draft.addAll component library d ws) := by
  induction ws generalizing d names with
  | nil => exact .ok _
  | cons w rest ih =>
    cases names with
    | nil => cases hnames
    | cons name names =>
      obtain ⟨hw, hrest⟩ := List.cons.inj hnames
      obtain ⟨hname, hnodup⟩ := List.nodup_cons.mp hnodup
      obtain ⟨hfirst, hlater⟩ := List.forall_mem_cons.mp hnew
      intro e h
      rcases bind_eq_error.mp h with hadd | ⟨d', hadd, hall⟩
      · exact Draft.unrepeated_add component library d w name hw hfirst e hadd
      · refine ih d' names hrest hnodup ?_ e hall
        obtain ⟨other, _, _, hother, -, -, -, rfl⟩ := add_cases hadd
        rw [hw] at hother
        cases hother
        intro other ho hmem
        rcases List.mem_cons.mp hmem with rfl | hmem
        · exact hname ho
        · exact hlater other ho hmem

end Graph

theorem Library.unrepeated_ofEntries (es : List LibraryEntry) : Unrepeated (ofEntries es) := by
  have hpattern : ∀ index role text, Unrepeated (patternOf index role text) := by
    intro index role text
    unfold patternOf
    split
    · exact .ok _
    · exact .error nofun
  have hshelve : ∀ index e, Unrepeated (shelve index e) := fun index e =>
    (hpattern _ _ _).bind fun _ => (hpattern _ _ _).bind fun _ => .ok _
  suffices hall : ∀ index, Unrepeated (ofEntriesFrom index es) from hall 0
  induction es with
  | nil => exact fun _ => .ok _
  | cons e rest ih =>
    exact fun index => (hshelve index e).bind fun _ => (ih (index + 1)).bind fun _ => .ok _

/-- The build of a project whose workloads have distinct names reports none of them as declared
twice. -/
theorem Project.unrepeated_graph {p : Project} {names : List String} (h : p.Named names) :
    Unrepeated p.graph := by
  refine (Library.unrepeated_ofEntries _).bind fun library => ?_
  refine Unrepeated.bind ?_ fun _ => .ok _
  exact Graph.Draft.unrepeated_addAll _ _ _ _ names h.eq h.nodup nofun

end Provision
