import Provision.Go.Syntax

/-!
# Identifiers in Go programs

The identifiers that stand in an expression or a statement without a package, and
the words that no identifier may be.
-/

set_option autoImplicit false

namespace Provision.Go

mutual

/-- The identifiers of an expression that belong to no package. Field names behind
a dot are none of them; the keys of composite literals are. -/
def Expr.identifiers : Expr → List String
  | .ident name => [name]
  | .selector base _ => base.identifiers
  | .call func args => func.identifiers ++ identifiersOfExprs args
  | .list type items => type.identifiers ++ identifiersOfExprs items
  | .keyed type entries => type.identifiers ++ identifiersOfEntries entries
  | .unary _ operand => operand.identifiers
  | .binary left _ right => left.identifiers ++ right.identifiers
  | .func params result body =>
    identifiersOfParams params ++ identifiersOfResult result ++ identifiersOfBlock body
  | .qualified _ _ => []
  | .nil => []
  | .bool _ => []
  | .int _ => []
  | .float _ => []
  | .string _ => []

def identifiersOfExprs : List Expr → List String
  | [] => []
  | e :: rest => e.identifiers ++ identifiersOfExprs rest

def identifiersOfEntries : List (Expr × Expr) → List String
  | [] => []
  | (k, v) :: rest => k.identifiers ++ v.identifiers ++ identifiersOfEntries rest

def identifiersOfParams : List (String × Expr) → List String
  | [] => []
  | (name, type) :: rest => name :: type.identifiers ++ identifiersOfParams rest

def identifiersOfResult : Option Expr → List String
  | none => []
  | some e => e.identifiers

def Stmt.identifiers : Stmt → List String
  | .define names value => names ++ value.identifiers
  | .assign target value => target.identifiers ++ value.identifiers
  | .branch condition body => condition.identifiers ++ identifiersOfBlock body
  | .ret values => identifiersOfExprs values
  | .expr e => e.identifiers
  | .blank => []

def identifiersOfBlock : List Stmt → List String
  | [] => []
  | s :: rest => s.identifiers ++ identifiersOfBlock rest

end

def FuncDecl.identifiers (f : FuncDecl) : List String :=
  f.name :: identifiersOfParams f.params ++ identifiersOfResult f.result
    ++ identifiersOfBlock f.body

def File.identifiers (f : File) : List String := f.funcs.flatMap FuncDecl.identifiers

theorem mem_identifiersOfExprs {es : List Expr} {name : String} :
    name ∈ identifiersOfExprs es ↔ ∃ e ∈ es, name ∈ e.identifiers := by
  induction es with
  | nil => simp [identifiersOfExprs]
  | cons e rest ih => simp [identifiersOfExprs, ih]

theorem mem_identifiersOfEntries {es : List (Expr × Expr)} {name : String} :
    name ∈ identifiersOfEntries es ↔
      ∃ e ∈ es, name ∈ e.1.identifiers ∨ name ∈ e.2.identifiers := by
  induction es with
  | nil => simp [identifiersOfEntries]
  | cons e rest ih => simp [identifiersOfEntries, ih, or_assoc]

theorem identifiersOfBlock_eq_flatMap (ss : List Stmt) :
    identifiersOfBlock ss = ss.flatMap Stmt.identifiers := by
  induction ss with
  | nil => rfl
  | cons s rest ih => simp [identifiersOfBlock, ih]

def keywords : List String :=
  ["break", "case", "chan", "const", "continue", "default", "defer", "else", "fallthrough",
    "for", "func", "go", "goto", "if", "import", "interface", "map", "package", "range",
    "return", "select", "struct", "switch", "type", "var"]

end Provision.Go
