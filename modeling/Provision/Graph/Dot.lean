import Provision.Graph

/-!
# Graphs in DOT

Nodes are numbered in the order of their ids and labelled with their names. Ids
that occur only in edges follow in the order in which the edges name them.
-/

set_option autoImplicit false

namespace Provision.Graph

def escapeLabel (c : Char) : List Char :=
  match c with
  | '"' => ['\\', '"']
  | '\\' => ['\\', '\\']
  | '\n' => ['\\', 'l']
  | c => [c]

def label (s : String) : String := String.ofList (s.toList.flatMap escapeLabel)

structure Edge where
  source : String
  name : String
  target : String
  deriving DecidableEq, Inhabited

def edgeList (g : Graph) : List Edge :=
  g.edges.entries.flatMap fun (source, es) =>
    es.entries.map fun (name, target) => ⟨source, name, target⟩

def addId (ids : List String) (id : String) : List String :=
  if id ∈ ids then ids else ids ++ [id]

/-- All ids of a graph; the number of an id is its place in this list. -/
def numbering (g : Graph) : List String :=
  g.edgeList.foldl (fun ids e => addId (addId ids e.source) e.target) g.nodes.keys

def nodeLine (g : Graph) (number : Nat) (id : String) : String :=
  "    " ++ toString number ++ " [ label = \"" ++ label (g.nameOf id) ++ "\" ]\n"

def edgeLine (ids : List String) (e : Edge) : String :=
  "    " ++ toString (ids.idxOf e.source) ++ " -> " ++ toString (ids.idxOf e.target)
    ++ " [ label = \"" ++ label e.name ++ "\" ]\n"

def nodeLines (g : Graph) (number : Nat) : List String → List String
  | [] => []
  | id :: rest => g.nodeLine number id :: nodeLines g (number + 1) rest

def dot (g : Graph) : String :=
  let ids := g.numbering
  String.join ("digraph \x7b\n" :: g.nodeLines 0 ids ++ g.edgeList.map (edgeLine ids) ++ ["\x7d\n"])

end Provision.Graph
