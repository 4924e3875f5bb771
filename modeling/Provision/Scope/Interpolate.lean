import Provision.Scope

/-!
# Interpolation

The second pass gives a parameter string its meaning in a program: a literal, a
value, the output of a node, or a format with one argument for each `%v`.
-/

set_option autoImplicit false

namespace Provision

open Placeholder

structure Output where
  node : String
  fields : List String
  deriving DecidableEq, Inhabited

inductive Argument where
  | value (v : Value)
  | output (o : Output)
  deriving Inhabited

inductive Interpolation where
  | literal (s : String)
  | value (v : Value)
  | output (o : Output)
  | format (text : String) (args : List Argument)
  deriving Inhabited

namespace Scope

def resolve (scope : Scope) (r : Reference) : Except Error Argument :=
  match r.target with
  | .metadata keys => do
    let v ← scope.metadataValue r.raw keys
    return .value v
  | .resource name fields => do
    let node ← scope.aliasNode r.raw name
    return .output ⟨node, fields⟩

def literalText : Template → String
  | [] => ""
  | .text s :: rest => s ++ literalText rest
  | .escape :: rest => "$" ++ literalText rest
  | .reference _ :: rest => literalText rest

def doublePercents : List Char → List Char
  | [] => []
  | c :: rest => if c = '%' then '%' :: '%' :: doublePercents rest else c :: doublePercents rest

/-- The format of a template: `%v` for a reference, `%%` for a percent sign. -/
def formatText : Template → String
  | [] => ""
  | .text s :: rest => String.ofList (doublePercents s.toList) ++ formatText rest
  | .escape :: rest => "$" ++ formatText rest
  | .reference _ :: rest => "%v" ++ formatText rest

def interpolate (scope : Scope) (s : String) : Except Error Interpolation := do
  let t ← Template.parse s
  if t.references.isEmpty then return .literal (literalText t)
  match t.single? with
  | some r =>
    match ← scope.resolve r with
    | .value v => return .value v
    | .output o => return .output o
  | none =>
    let args ← t.references.mapM scope.resolve
    return .format (formatText t) args

end Scope

end Provision
