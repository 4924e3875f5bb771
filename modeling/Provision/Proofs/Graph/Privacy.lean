import Provision.Proofs.Graph.Declarations

/-!
# Resources of their own

A resource without an identity belongs to its workload, under a path that joins the
name of the workload and the alias by a dot. Names and aliases can hold dots themselves,
so two workloads can come to the same path and then share the node. They do so in no
other way: never with a resource that has an identity, and not unless both a name and an
alias hold a dot.
-/

set_option autoImplicit false

namespace Provision

namespace Identifier

theorem toList_pathOfResource (workload resource : String) :
    (pathOfResource workload resource none).toList =
      "workload.".toList ++ (workload.toList ++ '.' :: resource.toList) := by
  simp [pathOfResource]

theorem pathOfResource_ne_shared (workload other resource key id : String) :
    pathOfResource workload resource none ≠ pathOfResource other key (some id) := by
  intro h
  have hchars := congrArg String.toList h
  simp [pathOfResource] at hchars

/-- Where the last or the first dot of a text is known to join its parts, the text
determines the parts. -/
theorem parts_of_joined {a b k l : List Char} (h : a ++ '.' :: k = b ++ '.' :: l)
    (hdots : '.' ∉ a ∧ '.' ∉ b ∨ '.' ∉ k ∧ '.' ∉ l) : a = b ∧ k = l := by
  -- of two splits of a text one is to the left; the dot there is in the other's left part
  have hleft : ∀ {a b k l : List Char}, (∃ c, b = a ++ c ∧ '.' :: k = c ++ '.' :: l) →
      ('.' ∉ b ∨ '.' ∉ k) → a = b ∧ k = l := by
    rintro a b k l ⟨c, rfl, hc⟩ hdot
    cases c with
    | nil =>
      rw [List.append_nil]
      exact ⟨rfl, (List.cons.inj hc).2⟩
    | cons x rest =>
      obtain ⟨rfl, rfl⟩ := List.cons.inj hc
      simp at hdot
  rcases List.append_eq_append_iff.mp h with hsplit | hsplit
  · exact hleft hsplit (hdots.imp And.right And.left)
  · have hparts := hleft hsplit (hdots.imp And.left And.right)
    exact ⟨hparts.1.symm, hparts.2.symm⟩

end Identifier

namespace Graph

open Workload Outcome

namespace Declaration

def Private (d : Declaration) : Prop := d.entry.2.id = none

def dotted (d : Declaration) : String := d.name ++ "." ++ d.entry.1

theorem Private.path_eq {d : Declaration} (h : d.Private) :
    d.path = Identifier.pathOfResource d.name d.entry.1 none :=
  congrArg (Identifier.pathOfResource d.name d.entry.1) h

theorem Private.path_eq_iff {c d : Declaration} (hc : c.Private) :
    c.path = d.path ↔ d.Private ∧ c.dotted = d.dotted := by
  cases hid : d.entry.2.id with
  | some id =>
    have hpath : d.path = Identifier.pathOfResource d.name d.entry.1 (some id) :=
      congrArg (Identifier.pathOfResource d.name d.entry.1) hid
    have hshared : ¬ d.Private := by simp [Private, hid]
    rw [hc.path_eq, hpath]
    simp [hshared, Identifier.pathOfResource_ne_shared]
  | none =>
    have hd : d.Private := hid
    rw [hc.path_eq, hd.path_eq, ← String.toList_inj, Identifier.toList_pathOfResource,
      Identifier.toList_pathOfResource, List.append_cancel_left_eq, dotted, dotted,
      ← String.toList_inj]
    simp [hd]

theorem parts_of_dotted {c d : Declaration} (h : c.dotted = d.dotted)
    (hdots : '.' ∉ c.name.toList ∧ '.' ∉ d.name.toList ∨
      '.' ∉ c.entry.1.toList ∧ '.' ∉ d.entry.1.toList ∨ c.name = d.name) :
    c.name = d.name ∧ c.entry.1 = d.entry.1 := by
  have hchars : c.name.toList ++ '.' :: c.entry.1.toList =
      d.name.toList ++ '.' :: d.entry.1.toList := by
    simpa [dotted] using congrArg String.toList h
  have hparts : c.name.toList = d.name.toList ∧ c.entry.1.toList = d.entry.1.toList := by
    rcases hdots with hnames | haliases | hname
    · exact Identifier.parts_of_joined hchars (.inl hnames)
    · exact Identifier.parts_of_joined hchars (.inr haliases)
    · rw [hname] at hchars
      exact ⟨by rw [hname], (List.cons.inj (List.append_cancel_left hchars)).2⟩
  exact ⟨String.toList_inj.mp hparts.1, String.toList_inj.mp hparts.2⟩

end Declaration

/-- In a graph that is built, declarations have a node in common if they have a path in
common. -/
theorem Accounted.id_eq_iff {ws : List Workload} {log : List Declaration} {g : Graph}
    (h : Accounted ws log g) {c d : Declaration} (hc : c ∈ log) (hd : d ∈ log) :
    c.id = d.id ↔ c.path = d.path := by
  constructor
  · intro hid
    obtain ⟨n, hn, hname, -⟩ := h.resources c hc
    obtain ⟨m, hm, hname', -⟩ := h.resources d hd
    rw [hid, hm] at hn
    cases hn
    rw [← hname, hname']
  · exact congrArg Identifier.component

/-- A private resource shares its node with private resources of the same dotted name
only. So it is alone where workload names or aliases hold no dot, and always among the
resources of its workload. -/
theorem ofWorkloads_private {component : Component} {library : Library} {ws : List Workload}
    {g : Graph} (h : ofWorkloads component library ws = .ok g) :
    (∀ c ∈ declarations ws, c.Private → ∀ d ∈ declarations ws,
        ∃ n m, g.nodes.find? c.id = some n ∧ g.nodes.find? d.id = some m ∧
          (c.id = d.id ↔ d.Private ∧ c.dotted = d.dotted)) ∧
      ∀ c ∈ declarations ws, c.Private → ∀ d ∈ declarations ws,
        ('.' ∉ c.name.toList ∧ '.' ∉ d.name.toList ∨
          '.' ∉ c.entry.1.toList ∧ '.' ∉ d.entry.1.toList ∨ c.name = d.name) →
        c.id = d.id → c.name = d.name ∧ c.entry.1 = d.entry.1 := by
  have hg := ofWorkloads_accounted h
  refine ⟨?_, ?_⟩
  · intro c hc hprivate d hd
    obtain ⟨n, hn, -⟩ := hg.resources c hc
    obtain ⟨m, hm, -⟩ := hg.resources d hd
    refine ⟨n, m, hn, hm, ?_⟩
    rw [hg.id_eq_iff hc hd, hprivate.path_eq_iff]
  · intro c hc hprivate d hd hdots hid
    rw [hg.id_eq_iff hc hd, hprivate.path_eq_iff] at hid
    exact Declaration.parts_of_dotted hid.2 hdots

def keeping (name key : String) : Workload :=
  ⟨"", Table.ofList [("name", .string name)], Table.empty, none,
    Table.ofList [(key, ⟨"volume", none, none, none, none⟩)]⟩

def keepsake (name key : String) : Declaration :=
  ⟨keeping name key, name, key, ⟨"volume", none, none, none, none⟩⟩

def volumes : Library := [⟨⟨"disk", "New", "Args"⟩, "volume", .empty, .empty⟩]

theorem ofWorkloads_private_keeping :
    ∃ g, ofWorkloads ⟨"site", "New", "Args"⟩ volumes [keeping "foo" "a-b", keeping "foo-a" "b"] =
        .ok g ∧ (keepsake "foo" "a-b").id ≠ (keepsake "foo-a" "b").id := by
  obtain ⟨g, hg⟩ : ∃ g, ofWorkloads ⟨"site", "New", "Args"⟩ volumes
      [keeping "foo" "a-b", keeping "foo-a" "b"] = .ok g := exists_eq_ok (by decide +kernel)
  refine ⟨g, hg, fun hid => ?_⟩
  have hparts := (ofWorkloads_private hg).2 (keepsake "foo" "a-b")
    (mem_declarations.mpr ⟨.head _, rfl, .head _⟩) rfl (keepsake "foo-a" "b")
    (mem_declarations.mpr ⟨.tail _ (.head _), rfl, .head _⟩) (.inl (by decide)) hid
  exact absurd hparts.1 (by decide)

/-- Private resources of different workloads can share a node. -/
theorem not_private_of_dots :
    ¬ ∀ (component : Component) (library : Library) (ws : List Workload) (g : Graph),
      ofWorkloads component library ws = .ok g →
      ∀ c ∈ declarations ws, ∀ d ∈ declarations ws, c.Private → d.Private →
        c.name ≠ d.name ∨ c.entry.1 ≠ d.entry.1 → c.id ≠ d.id := by
  intro hall
  obtain ⟨g, hg⟩ : ∃ g, ofWorkloads ⟨"site", "New", "Args"⟩ volumes
      [keeping "foo" "a.b", keeping "foo.a" "b"] = .ok g := exists_eq_ok (by decide +kernel)
  refine hall _ _ _ g hg (keepsake "foo" "a.b") (mem_declarations.mpr ⟨.head _, rfl, .head _⟩)
    (keepsake "foo.a" "b") (mem_declarations.mpr ⟨.tail _ (.head _), rfl, .head _⟩) rfl rfl
    (.inl (by decide)) ?_
  -- both paths are the same text, whatever its digest
  exact congrArg Identifier.component
    (by decide : (keepsake "foo" "a.b").path = (keepsake "foo.a" "b").path)

end Graph

end Provision
