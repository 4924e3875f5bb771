import Provision.Json.Writer
import Provision.Scope

/-!
# Collecting dependencies

The first pass over a parameter tree puts metadata in place of the references to
it, leaves references to resources as they are written, and collects the aliases
these name. Text that comes from metadata has its dollars escaped, so a second
run finds nothing new.
-/

set_option autoImplicit false

namespace Provision.Scope

open Placeholder

abbrev Found := List (String × String)

mutual

def escapeTree : Value → Value
  | .string s => .string (doubleDollars s)
  | .list items => .list (escapeItems items)
  | .map entries => .map (escapeEntries entries)
  | v => v

def escapeItems : List Value → List Value
  | [] => []
  | v :: rest => escapeTree v :: escapeItems rest

def escapeEntries : List (String × Value) → List (String × Value)
  | [] => []
  | (k, v) :: rest => (k, escapeTree v) :: escapeEntries rest

end

def collectSegment (scope : Scope) : Segment → Except Error (String × Found)
  | .text s => .ok (s, [])
  | .escape => .ok ("$$", [])
  | .reference r =>
    match r.target with
    | .metadata keys => do
      let v ← scope.metadataValue r.raw keys
      let s ← v.text r.raw
      return (doubleDollars s, [])
    | .resource name _ => do
      let node ← scope.aliasNode r.raw name
      return (r.written, [(name, node)])

def collectSegments (scope : Scope) : Template → Except Error (String × Found)
  | [] => .ok ("", [])
  | s :: rest => do
    let (text, found) ← collectSegment scope s
    let (texts, more) ← collectSegments scope rest
    return (text ++ texts, found ++ more)

def collectTemplate (scope : Scope) (t : Template) : Except Error (Value × Found) :=
  let joined := do
    let (s, found) ← collectSegments scope t
    return (Value.string s, found)
  match t.single? with
  | some r =>
    match r.target with
    | .metadata keys => do
      let v ← scope.metadataValue r.raw keys
      return (escapeTree v, [])
    | .resource _ _ => joined
  | none => joined

def collectText (scope : Scope) (s : String) : Except Error (Value × Found) :=
  if isUnmarked s then .ok (.string s, [])
  else do
    let t ← Template.parse s
    collectTemplate scope t

def locate {α : Type} (path : String) : Except Error α → Except Error α
  | .ok a => .ok a
  | .error e => .error (e.located path)

mutual

def collectTree (scope : Scope) (path : String) : Value → Except Error (Value × Found)
  | .string s => locate path (collectText scope s)
  | .list items => do
    let (vs, found) ← collectItems scope path 0 items
    return (.list vs, found)
  | .map entries => do
    let (es, found) ← collectEntries scope path entries
    return (.map es, found)
  | v => .ok (v, [])

def collectItems (scope : Scope) (path : String) (i : Nat) :
    List Value → Except Error (List Value × Found)
  | [] => .ok ([], [])
  | v :: rest => do
    let (v, found) ← collectTree scope (Json.indexPath path i) v
    let (vs, more) ← collectItems scope path (i + 1) rest
    return (v :: vs, found ++ more)

def collectEntries (scope : Scope) (path : String) :
    List (String × Value) → Except Error (List (String × Value) × Found)
  | [] => .ok ([], [])
  | (k, v) :: rest => do
    let (v, found) ← collectTree scope (Json.keyPath path k) v
    let (es, more) ← collectEntries scope path rest
    return ((k, v) :: es, found ++ more)

end

def collectParams (scope : Scope) :
    List (String × Value) → Except Error (List (String × Value) × Found)
  | [] => .ok ([], [])
  | (k, v) :: rest => do
    let (v, found) ← collectTree scope k v
    let (es, more) ← collectParams scope rest
    return ((k, v) :: es, found ++ more)

/-- The parameters with metadata in place, and the nodes that they depend on by alias. -/
def collect (scope : Scope) (params : List (String × Value)) :
    Except Error (List (String × Value) × Table String) := do
  let (params, found) ← scope.collectParams params
  return (params, Table.ofList found)

end Provision.Scope
