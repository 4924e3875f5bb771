import Provision.Source
import Provision.Yaml.Node
import Provision.Yaml.Schema

/-!
# YAML as a source of data

Reading follows aliases, at most a hundred times as often as the document has
marks, and enters collections up to 128 levels deep, so also a node that contains
itself is dealt with. Scalars that are wanted as text are taken as written.
-/

set_option autoImplicit false

namespace Provision.Yaml

structure Place where
  anchors : List (Nat × Node)
  depth : Nat
  node : Node

/-- Counts down the aliases that may still be followed. -/
abbrev Read := StateT Nat Option

namespace Place

def fail {α : Type} : Read α := fun _ => none

def follow (anchors : List (Nat × Node)) : Node → Read Node
  | .aliasOf anchor => do
    match ← get with
    | 0 => fail
    | jumps + 1 =>
      set jumps
      match anchors.find? fun e => e.1 = anchor with
      | some (_, n) => return n
      | none => fail
  | n => return n

def target (p : Place) : Read Node := follow p.anchors p.node

def standard (name : String) : String := "tag:yaml.org,2002:" ++ name

def lift {α : Type} (x : Option α) : Read α := fun s => x.map fun a => (a, s)

def isLocal : Option String → Bool
  | some tag => tag.startsWith "!"
  | none => false

def scalarValue? (tag : Option String) (text : String) (style : Style) : Option Value :=
  match tag with
  | none => if style = .plain then plainValue? text else some (.string text)
  | some tag =>
    if tag = standard "bool" then (flag? text).map .bool
    else if tag = standard "int" then ((integer? text).bind int64?).map .int
    else if tag = standard "float" then (double? text).map .float
    else if tag = standard "null" then (if isNullWord text then some .null else none)
    else some (.string text)

def keyText (anchors : List (Nat × Node)) (n : Node) : Read String := do
  match ← follow anchors n with
  | .scalar _ text _ => return text
  | _ => fail

def scalarAt (tag : Option String) (text : String) (style : Style) : Read Value :=
  if isLocal tag then fail else lift (scalarValue? tag text style)

def valueAt (anchors : List (Nat × Node)) : Nat → Node → Read Value
  | 0, n => do
    match ← follow anchors n with
    | .scalar tag text style => scalarAt tag text style
    | _ => fail
  | depth + 1, n => do
    match ← follow anchors n with
    | .scalar tag text style => scalarAt tag text style
    | .sequence tag items =>
      if isLocal tag then fail
      else do
        let vs ← items.mapM (valueAt anchors depth)
        return .list vs
    | .mapping tag entries =>
      if isLocal tag then fail
      else do
        let es ← entries.mapM fun e => do
          let k ← keyText anchors e.1
          let v ← valueAt anchors depth e.2
          return (k, v)
        return .map (Entries.ofList es)
    | .aliasOf _ => fail

def text (p : Place) : Read String := keyText p.anchors p.node

def isOpen (name : String) (tag : Option String) (style : Style) : Bool :=
  style = .plain || (style = .literal && tag = some (standard name))

def flag (p : Place) : Read Bool := do
  match ← p.target with
  | .scalar tag text style => if isOpen "bool" tag style then lift (flag? text) else fail
  | _ => fail

def integer (p : Place) : Read Int64 := do
  match ← p.target with
  | .scalar tag text style =>
    if isOpen "int" tag style then lift ((integer? text).bind int64?) else fail
  | _ => fail

def present (p : Place) : Read (Option Place) := do
  match ← p.target with
  | .scalar tag text .plain =>
    match tag with
    | none =>
      return if text.isEmpty || isNullWord text then none
        else some { p with node := .scalar tag text .plain }
    | some t =>
      if t = standard "null" then (if isNullWord text then return none else fail)
      else return some { p with node := .scalar tag text .plain }
  | n => return some { p with node := n }

/-- Nothing written stands for an empty list, table or record. -/
def isNothing : Node → Bool
  | .scalar _ text style => text.isEmpty && style = .plain
  | _ => false

def items (p : Place) : Read (List Place) := do
  match p.depth, ← p.target with
  | depth + 1, .sequence _ items =>
    return items.map fun n => { p with depth, node := n }
  | _, n => if isNothing n then return [] else fail

def pairs (p : Place) : Read (List (String × Place)) := do
  match p.depth, ← p.target with
  | depth + 1, .mapping _ entries =>
    entries.mapM fun e => do
      let k ← keyText p.anchors e.1
      return (k, { p with depth, node := e.2 })
  | _, n => if isNothing n then return [] else fail

def record (names : List String) (p : Place) : Read (List (String × Place)) := do
  let all ← p.pairs
  let known := all.filter fun e => names.contains e.1
  if (known.map Prod.fst).Nodup then return known else fail

instance : Source Place Read where
  text := text
  flag := flag
  integer := integer
  value p := valueAt p.anchors p.depth p.node
  present := present
  items := items
  entries := pairs
  record := record
  fail := fail

end Place

def read? {α : Type} (read : Place → Read α) (text : String) : Option α := do
  let d ← document? text
  (read ⟨d.anchors, 128, d.root⟩).run' (100 * d.root.weight)

def value? (text : String) : Option Value := read? Source.value text

end Provision.Yaml
