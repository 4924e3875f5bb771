import Provision.Error

/-!
# Documents in JSON

A document keeps the members of an object in the order of its text, repetitions
included; what a repetition means is up to the reader of the document. `beyond`
stands for a part that is well formed as text and denotes nothing: a number too
large for a double, half of a surrogate pair, or nesting past the limit. Such a
part only matters to those who look at it.
-/

set_option autoImplicit false

namespace Provision

inductive Json where
  | null
  | bool (b : Bool)
  | int (n : Int)
  | float (x : Double)
  | string (s : String)
  | array (items : List Json)
  | object (members : List (String × Json))
  | beyond
  deriving Inhabited

namespace Json

mutual

def isComplete : Json → Bool
  | array items => completeItems items
  | object members => completeMembers members
  | beyond => false
  | _ => true

def completeItems : List Json → Bool
  | [] => true
  | j :: rest => isComplete j && completeItems rest

def completeMembers : List (String × Json) → Bool
  | [] => true
  | (_, j) :: rest => isComplete j && completeMembers rest

end

mutual

/-- The document with the members of each object by key, the last of repeated
keys only. -/
def sorted : Json → Json
  | array items => array (sortedItems items)
  | object members => object (Entries.ofList (sortedMembers members))
  | j => j

def sortedItems : List Json → List Json
  | [] => []
  | j :: rest => sorted j :: sortedItems rest

def sortedMembers : List (String × Json) → List (String × Json)
  | [] => []
  | (k, j) :: rest => (k, sorted j) :: sortedMembers rest

end

/-- The document as a generic value, in which nothing depends on the text. -/
def generic? (j : Json) : Option Json := if j.isComplete then some j.sorted else none

mutual

/-- The document as a free-form value. Every part must have one, repetitions
included; the last of repeated keys counts. -/
def value? : Json → Option Value
  | null => some .null
  | bool b => some (.bool b)
  | int n => (int64? n).map .int
  | float x => some (.float x)
  | string s => some (.string s)
  | array items => (valueItems? items).map .list
  | object members => (valueMembers? members).map fun ms => .map (Entries.ofList ms)
  | beyond => none

def valueItems? : List Json → Option (List Value)
  | [] => some []
  | j :: rest => do
    let v ← value? j
    let rest ← valueItems? rest
    some (v :: rest)

def valueMembers? : List (String × Json) → Option (List (String × Value))
  | [] => some []
  | (k, j) :: rest => do
    let v ← value? j
    let rest ← valueMembers? rest
    some ((k, v) :: rest)

end

def indexPath (path : String) (i : Nat) : String := path ++ "[" ++ toString i ++ "]"

def keyPath (path key : String) : String := path ++ "." ++ key

mutual

/-- The generic document at `path` as a free-form value. The one thing a generic
document can hold that a value cannot is an integer past 64 signed bits. -/
def normalize (path : String) : Json → Except Error Value
  | null => .ok .null
  | bool b => .ok (.bool b)
  | int n =>
    match int64? n with
    | some i => .ok (.int i)
    | none => .error (.shape path (.wideInteger n))
  | float x => if x.isFinite then .ok (.float x) else .error (.shape path (.nonFinite x))
  | string s => .ok (.string s)
  | array items => do
    let vs ← normalizeItems path 0 items
    return .list vs
  | object members => do
    let vs ← normalizeMembers path members
    return .map vs
  | beyond => .ok .null

def normalizeItems (path : String) (i : Nat) : List Json → Except Error (List Value)
  | [] => .ok []
  | j :: rest => do
    let v ← normalize (indexPath path i) j
    let vs ← normalizeItems path (i + 1) rest
    return v :: vs

def normalizeMembers (path : String) :
    List (String × Json) → Except Error (List (String × Value))
  | [] => .ok []
  | (k, j) :: rest => do
    let v ← normalize (keyPath path k) j
    let vs ← normalizeMembers path rest
    return (k, v) :: vs

end

mutual

def wideInteger? : Json → Option Int
  | int n => if (int64? n).isSome then none else some n
  | array items => wideInItems? items
  | object members => wideInMembers? members
  | _ => none

def wideInItems? : List Json → Option Int
  | [] => none
  | j :: rest => (wideInteger? j).or (wideInItems? rest)

def wideInMembers? : List (String × Json) → Option Int
  | [] => none
  | (_, j) :: rest => (wideInteger? j).or (wideInMembers? rest)

end

end Json

namespace Value

mutual

/-- The document of a value. Doubles that are not finite have none. -/
def json : Value → Except ShapeFault Json
  | null => .ok .null
  | bool b => .ok (.bool b)
  | int i => .ok (.int i.toInt)
  | float x => if x.isFinite then .ok (.float x) else .error (.nonFinite x)
  | string s => .ok (.string s)
  | list items => do
    let js ← jsonItems items
    return .array js
  | map entries => do
    let js ← jsonEntries entries
    return .object js

def jsonItems : List Value → Except ShapeFault (List Json)
  | [] => .ok []
  | v :: rest => do
    let j ← json v
    let js ← jsonItems rest
    return j :: js

def jsonEntries : List (String × Value) → Except ShapeFault (List (String × Json))
  | [] => .ok []
  | (k, v) :: rest => do
    let j ← json v
    let js ← jsonEntries rest
    return (k, j) :: js

end

end Value

end Provision
