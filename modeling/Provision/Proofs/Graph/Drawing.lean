import Mathlib.Data.List.Nodup
import Provision.Graph.Dot
import Provision.Proofs.Table

/-!
# Drawings of graphs

A drawing in DOT is read line by line: a line is a node with its number, or an edge
between two numbers. Labels hold neither a bare quote nor a newline, so that no name can
end a line or add one. Ids get their numbers as they are met, the nodes first; an id that
has a number keeps it. What is read back from the drawing of a graph are its nodes, the
other ends of its edges, and its edges, each of them once.
-/

set_option autoImplicit false

namespace Provision.Graph

section Numbers

theorem mem_addId {ids : List String} {id other : String} :
    other ∈ addId ids id ↔ other ∈ ids ∨ other = id := by
  unfold addId
  split
  · next hmem =>
    constructor
    · exact .inl
    · rintro (h | rfl)
      · exact h
      · exact hmem
  · simp

theorem nodup_addId {ids : List String} (h : ids.Nodup) (id : String) : (addId ids id).Nodup := by
  unfold addId
  split
  · exact h
  · next hfree =>
    rw [List.nodup_append]
    refine ⟨h, List.nodup_singleton id, ?_⟩
    rintro a ha b hb rfl
    exact hfree (List.mem_singleton.mp hb ▸ ha)

/-- Ids keep their places when one more is met. -/
theorem addId_extends (ids : List String) (id : String) : ids <+: addId ids id := by
  unfold addId
  split
  · exact List.prefix_refl ids
  · exact List.prefix_append ids [id]

/-- The ids that have numbers after some edges: those at the start, and the ends of the
edges, each with one number. -/
structure Numbered (start : List String) (edges : List Edge) (ids : List String) : Prop where
  nodup : ids.Nodup
  starts : start <+: ids
  mem_iff : ∀ id, id ∈ ids ↔ id ∈ start ∨ ∃ e ∈ edges, id = e.source ∨ id = e.target

theorem Numbered.step {start ids : List String} {edges : List Edge}
    (h : Numbered start edges ids) (e : Edge) :
    Numbered start (edges ++ [e]) (addId (addId ids e.source) e.target) := by
  constructor
  · exact nodup_addId (nodup_addId h.nodup e.source) e.target
  · exact h.starts.trans ((addId_extends ids e.source).trans (addId_extends _ e.target))
  · intro id
    rw [mem_addId, mem_addId, h.mem_iff]
    simp only [List.mem_append, List.mem_singleton, or_and_right, exists_or, exists_eq_left,
      or_assoc]

theorem Numbered.run {start ids : List String} {before : List Edge}
    (h : Numbered start before ids) (edges : List Edge) :
    Numbered start (before ++ edges)
      (edges.foldl (fun ids e => addId (addId ids e.source) e.target) ids) := by
  induction edges generalizing before ids with
  | nil =>
    rw [List.append_nil]
    exact h
  | cons e edges ih =>
    rw [List.foldl_cons, List.append_cons]
    exact ih (h.step e)

theorem numbered_numbering (g : Graph) : Numbered g.nodes.keys g.edgeList g.numbering := by
  have hstart : Numbered g.nodes.keys [] g.nodes.keys :=
    ⟨g.nodes.nodup_keys, List.prefix_refl _, by simp⟩
  exact hstart.run g.edgeList

end Numbers

section Edges

def HasEdge (g : Graph) (e : Edge) : Prop := (g.edgesOf e.source).find? e.name = some e.target

theorem mem_edgeList {g : Graph} {e : Edge} : e ∈ g.edgeList ↔ g.HasEdge e := by
  obtain ⟨source, name, target⟩ := e
  simp only [edgeList, List.mem_flatMap, List.mem_map, Edge.mk.injEq, Prod.exists, HasEdge, edgesOf]
  constructor
  · rintro ⟨_, es, hes, _, _, he, rfl, rfl, rfl⟩
    rw [Table.find?_eq_some_iff.mpr hes]
    exact Table.find?_eq_some_iff.mpr he
  · intro h
    cases hes : g.edges.find? source with
    | none => simp [hes] at h
    | some es =>
      rw [hes] at h
      exact ⟨source, es, Table.find?_eq_some_iff.mp hes, name, target,
        Table.find?_eq_some_iff.mp h, rfl, rfl, rfl⟩

/-- Sources are listed once each, and so are the aliases of a source. -/
theorem nodup_edgeList (g : Graph) : g.edgeList.Nodup := by
  rw [edgeList, List.nodup_flatMap]
  constructor
  · rintro ⟨source, es⟩ -
    refine List.Nodup.map ?_ es.nodup_keys.of_map
    rintro ⟨a, v⟩ ⟨b, w⟩ heq
    simpa using heq
  · refine g.edges.ascending.imp ?_
    rintro ⟨u, es⟩ ⟨v, ds⟩ hlt
    refine List.disjoint_left.mpr ?_
    intro e hu hv
    obtain ⟨_, -, rfl⟩ := List.mem_map.mp hu
    obtain ⟨_, -, heq⟩ := List.mem_map.mp hv
    exact String.lt_irrefl u (Edge.mk.inj heq |>.1 ▸ hlt)

end Edges

section Rows

inductive Row where
  | node (number : Nat) (name : String)
  | edge (source target : Nat) (name : String)
  deriving DecidableEq

def margin : List Char := [' ', ' ', ' ', ' ']

def arrow : List Char := [' ', '-', '>', ' ']

def opening : List Char := [' ', '[', ' ', 'l', 'a', 'b', 'e', 'l', ' ', '=', ' ', '"']

def closing : List Char := [' ', ']']

def behind? : List Char → List Char → Option (List Char)
  | [], cs => some cs
  | m :: mark, c :: cs => if m = c then behind? mark cs else none
  | _ :: _, [] => none

def readNumber? (cs : List Char) : Option (Nat × List Char) :=
  let digits := cs.takeWhile Char.isDigit
  if digits.isEmpty then none
  else some (Nat.ofDigitChars 10 digits 0, cs.dropWhile Char.isDigit)

def readName? : List Char → Option (List Char × List Char)
  | [] => none
  | '"' :: rest => some ([], rest)
  | '\\' :: 'l' :: rest => (readName? rest).map fun (name, rest) => ('\n' :: name, rest)
  | '\\' :: c :: rest => (readName? rest).map fun (name, rest) => (c :: name, rest)
  | c :: rest => (readName? rest).map fun (name, rest) => (c :: name, rest)

def readLabel? (cs : List Char) : Option String := do
  let cs ← behind? opening cs
  let (name, rest) ← readName? cs
  if rest = closing then some (String.ofList name) else none

def Row.read? (cs : List Char) : Option Row := do
  let cs ← behind? margin cs
  let (source, cs) ← readNumber? cs
  match behind? arrow cs with
  | none => (readLabel? cs).map (.node source)
  | some cs =>
    let (target, cs) ← readNumber? cs
    (readLabel? cs).map (.edge source target)

def labelChars (name : String) : List Char :=
  opening ++ (name.toList.flatMap escapeLabel ++ '"' :: closing)

def Row.chars : Row → List Char
  | .node number name => margin ++ (Nat.toDigits 10 number ++ labelChars name)
  | .edge source target name =>
    margin ++ (Nat.toDigits 10 source ++ (arrow ++ (Nat.toDigits 10 target ++ labelChars name)))

theorem behind?_append (mark cs : List Char) : behind? mark (mark ++ cs) = some cs := by
  induction mark with
  | nil => rfl
  | cons m mark ih => simp [behind?, ih]

theorem readNumber?_toDigits (n : Nat) (cs : List Char) :
    readNumber? (Nat.toDigits 10 n ++ ' ' :: cs) = some (n, ' ' :: cs) := by
  have hdigits : ∀ c ∈ Nat.toDigits 10 n, c.isDigit = true := fun c hc =>
    Nat.isDigit_of_mem_toDigits (by decide) (by decide) hc
  have htake : (Nat.toDigits 10 n ++ ' ' :: cs).takeWhile Char.isDigit = Nat.toDigits 10 n := by
    rw [List.takeWhile_append_of_pos hdigits, List.takeWhile_cons_of_neg (by decide),
      List.append_nil]
  have hdrop : (Nat.toDigits 10 n ++ ' ' :: cs).dropWhile Char.isDigit = ' ' :: cs := by
    rw [List.dropWhile_append_of_pos hdigits, List.dropWhile_cons_of_neg (by decide)]
  rw [readNumber?, htake, hdrop, Nat.ofDigitChars_ten_toDigits]
  simp [Nat.toDigits_ne_nil]

theorem readName?_escapeLabel (c : Char) (cs : List Char) :
    readName? (escapeLabel c ++ cs) = (readName? cs).map fun (name, rest) => (c :: name, rest) := by
  unfold escapeLabel
  split
  · rfl
  · rfl
  · rfl
  · next hquote hslash _ =>
    rw [List.singleton_append, readName?]
    · exact hquote
    · exact fun _ hc _ => hslash hc
    · exact fun _ _ hc _ => hslash hc

/-- A name is read back from its label, whatever it holds. -/
theorem readName?_label (name rest : List Char) :
    readName? (name.flatMap escapeLabel ++ '"' :: rest) = some (name, rest) := by
  induction name with
  | nil => rfl
  | cons c name ih =>
    rw [List.flatMap_cons, List.append_assoc, readName?_escapeLabel, ih]
    rfl

theorem readLabel?_labelChars (name : String) : readLabel? (labelChars name) = some name := by
  rw [readLabel?, labelChars, behind?_append]
  simp only [Option.bind_eq_bind, Option.bind_some, readName?_label, if_true, String.ofList_toList]

theorem Row.read?_chars (row : Row) : Row.read? row.chars = some row := by
  have hlabel : ∀ name, ∃ cs, labelChars name = ' ' :: cs ∧ behind? arrow (' ' :: cs) = none :=
    fun name => ⟨_, rfl, rfl⟩
  cases row with
  | node number name =>
    obtain ⟨cs, hcs, hnone⟩ := hlabel name
    rw [Row.read?, Row.chars, behind?_append, hcs]
    simp only [Option.bind_eq_bind, Option.bind_some, readNumber?_toDigits, hnone]
    rw [← hcs, readLabel?_labelChars]
    rfl
  | edge source target name =>
    obtain ⟨cs, hcs, -⟩ := hlabel name
    have harrow : ∀ rest, arrow ++ rest = ' ' :: (['-', '>', ' '] ++ rest) := fun _ => rfl
    rw [Row.read?, Row.chars, behind?_append, harrow, hcs]
    simp only [Option.bind_eq_bind, Option.bind_some, readNumber?_toDigits]
    rw [← harrow, behind?_append]
    simp only [readNumber?_toDigits]
    rw [← hcs, Option.bind_some, readLabel?_labelChars]
    rfl

theorem newline_notMem_labelChars (name : String) : '\n' ∉ labelChars name := by
  have hescape : ∀ c, '\n' ∉ escapeLabel c := by
    intro c
    unfold escapeLabel
    split
    · decide
    · decide
    · decide
    · next hnewline => simpa using fun h => hnewline h.symm
  simp [labelChars, opening, closing, hescape]

theorem newline_notMem_toDigits (n : Nat) : '\n' ∉ Nat.toDigits 10 n := by
  intro h
  have hdigit := Nat.isDigit_of_mem_toDigits (by decide) (by decide) h
  revert hdigit
  decide

theorem Row.newline_notMem_chars (row : Row) : '\n' ∉ row.chars := by
  cases row <;>
    simp [Row.chars, margin, arrow, newline_notMem_toDigits, newline_notMem_labelChars]

end Rows

section Lines

def rows (g : Graph) : List Row :=
  g.numbering.mapIdx (fun number id => .node number (g.nameOf id)) ++
    g.edgeList.map fun e =>
      .edge (g.numbering.idxOf e.source) (g.numbering.idxOf e.target) e.name

theorem toList_margin : "    ".toList = margin := rfl

theorem toList_arrow : " -> ".toList = arrow := rfl

/-- What stands before a label, the label, and the end of its line. -/
theorem toList_labelled (before name : String) :
    (before ++ " [ label = \"" ++ label name ++ "\" ]\n").toList =
      before.toList ++ (labelChars name ++ ['\n']) := by
  have hopening : " [ label = \"".toList = opening := rfl
  have hclosing : "\" ]\n".toList = '"' :: (closing ++ ['\n']) := rfl
  have hlabel : (label name).toList = name.toList.flatMap escapeLabel := String.toList_ofList
  rw [String.toList_append, String.toList_append, String.toList_append, hopening, hclosing, hlabel]
  simp only [labelChars, List.append_assoc, List.cons_append]

theorem toList_nodeLine (g : Graph) (number : Nat) (id : String) :
    (g.nodeLine number id).toList = (Row.node number (g.nameOf id)).chars ++ ['\n'] := by
  unfold nodeLine
  rw [toList_labelled, String.toList_append, toList_margin, Nat.toString_eq_ofList_toDigits,
    String.toList_ofList]
  simp only [Row.chars, List.append_assoc]

theorem toList_edgeLine (ids : List String) (e : Edge) :
    (edgeLine ids e).toList =
      (Row.edge (ids.idxOf e.source) (ids.idxOf e.target) e.name).chars ++ ['\n'] := by
  unfold edgeLine
  rw [toList_labelled, String.toList_append, String.toList_append, String.toList_append,
    toList_margin, toList_arrow, Nat.toString_eq_ofList_toDigits, Nat.toString_eq_ofList_toDigits,
    String.toList_ofList, String.toList_ofList]
  simp only [Row.chars, List.append_assoc]

theorem flatMap_nodeLines (g : Graph) (ids : List String) (number : Nat) :
    (g.nodeLines number ids).flatMap String.toList =
      (ids.mapIdx fun i id => Row.node (number + i) (g.nameOf id)).flatMap
        fun row => row.chars ++ ['\n'] := by
  induction ids generalizing number with
  | nil => rfl
  | cons id ids ih =>
    rw [nodeLines, List.flatMap_cons, List.mapIdx_cons, List.flatMap_cons, toList_nodeLine, ih]
    simp only [Nat.add_zero, Nat.add_assoc, Nat.add_comm 1]

/-- A drawing is its rows, a line each, between its first line and its last. -/
theorem toList_dot (g : Graph) :
    g.dot.toList =
      ("digraph \x7b".toList :: g.rows.map Row.chars ++ ["\x7d".toList]).flatMap (· ++ ['\n']) := by
  have hfirst : "digraph \x7b\n".toList = "digraph \x7b".toList ++ ['\n'] := rfl
  have hlast : "\x7d\n".toList = "\x7d".toList ++ ['\n'] := rfl
  unfold dot
  rw [String.toList_join]
  simp only [List.cons_append, List.flatMap_cons, List.flatMap_append, hfirst, hlast, rows,
    flatMap_nodeLines, List.map_append, List.flatMap_map, toList_edgeLine, List.flatMap_nil,
    List.append_nil, Nat.zero_add]

/-- Lines that end in newlines are found again by splitting at the newlines. -/
theorem splitOn_lines (lines : List (List Char)) (h : ∀ line ∈ lines, '\n' ∉ line) :
    (lines.flatMap (· ++ ['\n'])).splitOn '\n' = lines ++ [[]] := by
  have hjoin : lines.flatMap (· ++ ['\n']) = ['\n'].intercalate (lines ++ [[]]) := by
    clear h
    induction lines with
    | nil => rfl
    | cons line lines ih =>
      rw [List.flatMap_cons, ih]
      cases lines <;> simp [List.intercalate_cons_cons]
  rw [hjoin, List.splitOn_intercalate]
  · intro line hline
    rcases List.mem_append.mp hline with hline | hline
    · exact h line hline
    · simp [List.mem_singleton.mp hline]
  · simp

theorem splitOn_dot (g : Graph) :
    g.dot.toList.splitOn '\n' =
      "digraph \x7b".toList :: g.rows.map Row.chars ++ ["\x7d".toList, []] := by
  rw [toList_dot, splitOn_lines]
  · simp
  · intro line hline
    simp only [List.cons_append, List.mem_cons, List.mem_append, List.mem_map, List.not_mem_nil,
      or_false] at hline
    rcases hline with rfl | ⟨row, -, rfl⟩ | rfl
    · decide
    · exact row.newline_notMem_chars
    · decide

/-- A drawing has a line for each node of the graph and each further end of an edge, numbered
from zero on and labelled with the name of the node, or with the id if there is no such node. It
has a line for each edge between the numbers of its ends, labelled with the alias, and no other
line. -/
theorem dot_faithful (g : Graph) :
    ∃ (ids : List String) (edges : List Edge) (lines : List (List Char)) (name : String → String),
      g.dot.toList.splitOn '\n' = "digraph \x7b".toList :: lines ++ ["\x7d".toList, []] ∧
        lines.map Row.read? = List.map some
          ((ids.mapIdx fun number id => .node number (name id)) ++
            edges.map fun e => .edge (ids.idxOf e.source) (ids.idxOf e.target) e.name) ∧
        (∀ id node, g.nodes.find? id = some node → name id = node.name) ∧
        (∀ id, g.nodes.find? id = none → name id = id) ∧
        ids.Nodup ∧ g.nodes.keys <+: ids ∧
        (∀ id, id ∈ ids ↔
          id ∈ g.nodes.keys ∨ ∃ e, g.HasEdge e ∧ (id = e.source ∨ id = e.target)) ∧
        edges.Nodup ∧ ∀ e, e ∈ edges ↔ g.HasEdge e := by
  have hnumbered := numbered_numbering g
  refine ⟨g.numbering, g.edgeList, g.rows.map Row.chars, g.nameOf, splitOn_dot g, ?_, ?_, ?_,
    hnumbered.nodup, hnumbered.starts, ?_, nodup_edgeList g, fun e => mem_edgeList⟩
  · rw [List.map_map]
    exact List.map_congr_left fun row _ => row.read?_chars
  · intro id node hnode
    rw [nameOf, hnode]
  · intro id hnone
    rw [nameOf, hnone]
  · intro id
    simp only [hnumbered.mem_iff, mem_edgeList]

/-- One node. It depends on an id that is none, and another such id depends on itself. -/
def stray : Graph :=
  ⟨Table.ofList [("a", ⟨⟨"p", "New", "Args"⟩, "shop", none, none⟩)],
    Table.ofList [("a", Table.ofList [("db", "b")]), ("c", Table.ofList [("own", "c")])]⟩

theorem dot_faithful_stray :
    stray.dot = "digraph \x7b\n    0 [ label = \"shop\" ]\n    1 [ label = \"b\" ]\n" ++
      "    2 [ label = \"c\" ]\n    0 -> 1 [ label = \"db\" ]\n" ++
      "    2 -> 2 [ label = \"own\" ]\n\x7d\n" ∧
    ∃ (ids : List String) (edges : List Edge) (name : String → String),
      name "a" = "shop" ∧ name "b" = "b" ∧ ids.Nodup ∧ "c" ∈ ids ∧ edges.Nodup ∧
        ⟨"c", "own", "c"⟩ ∈ edges := by
  obtain ⟨ids, edges, -, name, -, -, hnode, hother, hids, -, hmem, hedges, hedge⟩ :=
    dot_faithful stray
  have hown : stray.HasEdge ⟨"c", "own", "c"⟩ := by
    unfold HasEdge
    decide
  refine ⟨by decide +kernel, ids, edges, name, ?_, ?_, hids, ?_, hedges, (hedge _).mpr hown⟩
  · exact hnode "a" ⟨⟨"p", "New", "Args"⟩, "shop", none, none⟩ rfl
  · exact hother "b" (by decide)
  · exact (hmem "c").mpr (.inr ⟨_, hown, .inl rfl⟩)

end Lines

end Provision.Graph
