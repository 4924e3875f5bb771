import Provision.Yaml.Token

/-!
# Nodes of a YAML document

The tokens of a stream make one document: a tree of nodes whose aliases refer to
anchors by number. Numbers are given out by the count of distinct anchor names
met before, so naming an anchor anew can hand the next name a number that is in
use; the node that took a number last is the one its aliases mean.
-/

set_option autoImplicit false

namespace Provision.Yaml

inductive Node where
  | scalar (tag : Option String) (text : String) (style : Style)
  | sequence (tag : Option String) (items : List Node)
  | mapping (tag : Option String) (entries : List (Node × Node))
  | aliasOf (anchor : Nat)
  deriving Inhabited

namespace Node

def empty : Node := scalar none "" .plain

mutual

/-- How many marks it takes to write the node out: one for a leaf, two for a collection. -/
def weight : Node → Nat
  | scalar _ _ _ => 1
  | aliasOf _ => 1
  | sequence _ items => 2 + weightItems items
  | mapping _ entries => 2 + weightEntries entries

def weightItems : List Node → Nat
  | [] => 0
  | n :: rest => weight n + weightItems rest

def weightEntries : List (Node × Node) → Nat
  | [] => 0
  | (k, v) :: rest => weight k + weight v + weightEntries rest

end

end Node

structure Document where
  root : Node
  anchors : List (Nat × Node)

structure Composer where
  tokens : List Token
  handles : List (String × String) := []
  /-- The number each anchor name has now. -/
  names : List (String × Nat) := []
  /-- The numbers in the order they were taken, last first. -/
  taken : List Nat := []
  /-- Finished anchored nodes, with their place in that order. -/
  finished : List (Nat × Node) := []

abbrev Compose := StateT Composer Option

namespace Compose

def peek : Compose Token := do
  let s ← get
  return s.tokens.head?.getD .streamEnd

def next : Compose Unit := modify fun s => { s with tokens := s.tokens.tail }

def fail {α : Type} : Compose α := fun _ => none

def tagText (handle suffix : String) : Compose String := do
  if handle = "" then return suffix
  match (← get).handles.find? fun h => h.1 = handle with
  | some (_, base) => return base ++ suffix
  | none => fail

/-- Gives an anchor name a number; the result is its place in the order. -/
def takeAnchor (name : String) : Compose Nat := do
  let s ← get
  let number := s.names.length
  let names := if s.names.any (fun e => e.1 = name)
    then s.names.map fun e => if e.1 = name then (name, number) else e
    else (name, number) :: s.names
  set { s with names, taken := number :: s.taken }
  return s.taken.length

def finishAnchor (place : Option Nat) (n : Node) : Compose Node := do
  match place with
  | some p => modify fun s => { s with finished := (p, n) :: s.finished }
  | none => pure ()
  return n

/-- An anchor and a tag in either order, each at most once. -/
def properties : Compose (Option Nat × Option String) := do
  match ← peek with
  | .anchor name =>
    next
    let place ← takeAnchor name
    match ← peek with
    | .tag handle suffix =>
      next
      let tag ← tagText handle suffix
      return (some place, some tag)
    | _ => return (some place, none)
  | .tag handle suffix =>
    next
    match ← peek with
    | .anchor name =>
      next
      let tag ← tagText handle suffix
      let place ← takeAnchor name
      return (some place, some tag)
    | _ =>
      let tag ← tagText handle suffix
      return (none, some tag)
  | _ => return (none, none)

def endsBlockEntry : Token → Bool
  | .blockEntry | .blockEnd => true
  | _ => false

def endsBlockPart : Token → Bool
  | .key | .value | .blockEnd => true
  | _ => false

def endsIndentless : Token → Bool
  | .blockEntry | .key | .value | .blockEnd => true
  | _ => false

def endsFlowPart (close : Token) (t : Token) : Bool :=
  t = .flowEntry || t = close

mutual

/-- A node. `block` admits block collections, `indentless` a sequence whose
entries stand at the column of the key before them. -/
def node : Nat → Bool → Bool → Compose Node
  | 0, _, _ => fail
  | fuel + 1, block, indentless => do
    match ← peek with
    | .aliasOf name =>
      next
      match (← get).names.find? fun e => e.1 = name with
      | some (_, number) => return .aliasOf number
      | none => fail
    | _ =>
      let (place, tag) ← properties
      match ← peek with
      | .scalar text style =>
        next
        finishAnchor place (.scalar (if tag = some "!" then none else tag) text style)
      | .flowSequenceStart =>
        next
        let items ← flowSequence fuel true
        finishAnchor place (.sequence tag items)
      | .flowMappingStart =>
        next
        let entries ← flowMapping fuel true
        finishAnchor place (.mapping tag entries)
      | .blockEntry =>
        if indentless then
          let items ← indentlessSequence fuel
          finishAnchor place (.sequence tag items)
        else bare place tag
      | .blockSequenceStart =>
        if block then
          next
          let items ← blockSequence fuel
          finishAnchor place (.sequence tag items)
        else bare place tag
      | .blockMappingStart =>
        if block then
          next
          let entries ← blockMapping fuel
          finishAnchor place (.mapping tag entries)
        else bare place tag
      | _ => bare place tag

/-- A node with properties and no content is an empty scalar. -/
def bare (place : Option Nat) (tag : Option String) : Compose Node :=
  if place.isNone && tag.isNone then fail
  else finishAnchor place (.scalar tag "" .plain)

def blockSequence : Nat → Compose (List Node)
  | 0 => fail
  | fuel + 1 => do
    match ← peek with
    | .blockEntry =>
      next
      let n ← if endsBlockEntry (← peek) then pure Node.empty else node fuel true false
      let rest ← blockSequence fuel
      return n :: rest
    | .blockEnd =>
      next
      return []
    | _ => fail

def indentlessSequence : Nat → Compose (List Node)
  | 0 => fail
  | fuel + 1 => do
    match ← peek with
    | .blockEntry =>
      next
      let n ← if endsIndentless (← peek) then pure Node.empty else node fuel true false
      let rest ← indentlessSequence fuel
      return n :: rest
    | _ => return []

def blockMapping : Nat → Compose (List (Node × Node))
  | 0 => fail
  | fuel + 1 => do
    match ← peek with
    | .key =>
      next
      let k ← if endsBlockPart (← peek) then pure Node.empty else node fuel true true
      let v ← blockValue fuel
      let rest ← blockMapping fuel
      return (k, v) :: rest
    | .blockEnd =>
      next
      return []
    | _ => fail

def blockValue : Nat → Compose Node
  | 0 => fail
  | fuel + 1 => do
    match ← peek with
    | .value =>
      next
      if endsBlockPart (← peek) then return Node.empty else node fuel true true
    | _ => return Node.empty

def flowSequence : Nat → Bool → Compose (List Node)
  | 0, _ => fail
  | fuel + 1, first => do
    if (← peek) = .flowSequenceEnd then
      next
      return []
    separate first
    match ← peek with
    | .flowSequenceEnd =>
      next
      return []
    | .key =>
      next
      let pair ← flowPair fuel
      let rest ← flowSequence fuel false
      return .mapping none [pair] :: rest
    | _ =>
      let n ← node fuel false false
      let rest ← flowSequence fuel false
      return n :: rest

def separate (first : Bool) : Compose Unit := do
  if first then return
  if (← peek) = .flowEntry then next else fail

/-- A single pair inside a flow sequence. Where the key is empty, the token that
shows it is used up. -/
def flowPair : Nat → Compose (Node × Node)
  | 0 => fail
  | fuel + 1 => do
    let t ← peek
    let k ← if t = .value || endsFlowPart .flowSequenceEnd t
      then do
        next
        pure Node.empty
      else node fuel false false
    let v ← flowValue fuel .flowSequenceEnd
    return (k, v)

def flowValue : Nat → Token → Compose Node
  | 0, _ => fail
  | fuel + 1, close => do
    if (← peek) = .value then
      next
      if endsFlowPart close (← peek) then return Node.empty else node fuel false false
    else return Node.empty

def flowMapping : Nat → Bool → Compose (List (Node × Node))
  | 0, _ => fail
  | fuel + 1, first => do
    if (← peek) = .flowMappingEnd then
      next
      return []
    separate first
    match ← peek with
    | .flowMappingEnd =>
      next
      return []
    | .key =>
      next
      let t ← peek
      let k ← if t = .value || endsFlowPart .flowMappingEnd t then pure Node.empty
        else node fuel false false
      let v ← flowValue fuel .flowMappingEnd
      let rest ← flowMapping fuel false
      return (k, v) :: rest
    | _ =>
      let k ← node fuel false false
      let rest ← flowMapping fuel false
      return (k, Node.empty) :: rest

end

def directives : Nat → Bool → Compose Unit
  | 0, _ => fail
  | fuel + 1, versioned => do
    match ← peek with
    | .versionDirective major minor =>
      if versioned || major ≠ 1 || (minor ≠ 1 && minor ≠ 2) then fail
      next
      directives fuel true
    | .tagDirective handle base =>
      let s ← get
      if s.handles.any fun h => h.1 = handle then fail
      set { s with handles := (handle, base) :: s.handles }
      next
      directives fuel versioned
    | _ => return

/-- The handles that need no directive come after those that have one. -/
def defaultHandles : Compose Unit :=
  modify fun s =>
    { s with handles := s.handles ++ [("!", "!"), ("!!", "tag:yaml.org,2002:")] }

def endsDocument : Token → Bool
  | .versionDirective _ _ | .tagDirective _ _ | .documentStart | .documentEnd | .streamEnd => true
  | _ => false

def isDirective : Token → Bool
  | .versionDirective _ _ | .tagDirective _ _ => true
  | _ => false

/-- The content of a document; a stream without any has an empty node. -/
def content (fuel : Nat) : Compose Node := do
  let t ← peek
  if t = .streamEnd then return Node.empty
  if t = .documentStart || isDirective t then
    directives fuel false
    defaultHandles
    if (← peek) ≠ .documentStart then fail
    next
    if endsDocument (← peek) then return Node.empty
    node fuel true false
  else
    defaultHandles
    node fuel true false

def skipEnds : Nat → Compose Unit
  | 0 => return
  | fuel + 1 => do
    if (← peek) = .documentEnd then
      next
      skipEnds fuel

def document (fuel : Nat) : Compose Node := do
  let root ← content fuel
  skipEnds fuel
  if (← peek) ≠ .streamEnd then fail
  return root

end Compose

/-- The node behind each number: the finished node that took it last. -/
def Composer.anchors (s : Composer) : List (Nat × Node) :=
  let order := s.taken.reverse
  let places := (List.range order.length).reverse
  places.filterMap fun p =>
    match order[p]?, s.finished.find? fun e => e.1 = p with
    | some number, some (_, n) => some (number, n)
    | _, _ => none

def document? (text : String) : Option Document := do
  let tokens ← tokens? text
  let (root, s) ← Compose.document (2 * tokens.length + 2) { tokens }
  some ⟨root, s.anchors⟩

end Provision.Yaml
