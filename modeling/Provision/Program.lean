import Provision.Go.Printer
import Provision.Graph.Order
import Provision.Identifier
import Provision.Json.Writer
import Provision.Scope.Collect
import Provision.Scope.Interpolate

/-!
# Programs

The program of a graph provisions its components in dependency order. Each node
becomes a constructor call with an argument struct made from its parameters, a
check for an error, and a log entry.
-/

set_option autoImplicit false

namespace Provision.Program

open Go

def pulumiPath : String := "github.com/pulumi/pulumi/sdk/v3/go/pulumi"

def pulumi (name : String) : Expr := .qualified pulumiPath name

def publicName (path raw : String) : Except Error String :=
  let name := Identifier.field raw
  if Identifier.isExported name then .ok name else .error (.shape path (.notExported raw))

def float (path : String) (x : Double) : Except Error Expr :=
  if x.isFinite then .ok (.float x) else .error (.shape path (.noLiteral x))

/-- A value as an argument of a format; lists and maps become JSON text. -/
def argument (path : String) : Value → Except Error Expr
  | .null => .ok .nil
  | .bool b => .ok (.bool b)
  | .int i => .ok (.int i)
  | .float x => float path x
  | .string s => .ok (.string s)
  | v => do
    let text ← v.jsonText path
    return .string text

def accessFields (path : String) (base : Expr) : List String → Except Error Expr
  | [] => .ok base
  | field :: rest => do
    let name ← publicName path field
    accessFields path (.selector base name) rest

def access (path : String) (o : Output) : Except Error Expr :=
  accessFields path (.ident o.node) o.fields

mutual

/-- A value as it stands; its strings are not looked into. -/
def literal (path : String) : Value → Except Error Expr
  | .null => .ok .nil
  | .bool b => .ok (.call (pulumi "Bool") [.bool b])
  | .int i => .ok (.call (pulumi "Int") [.int i])
  | .float x => do
    let e ← float path x
    return .call (pulumi "Float64") [e]
  | .string s => .ok (.call (pulumi "String") [.string s])
  | .list items => do
    let es ← literalItems path 0 items
    return .list (pulumi "Array") es
  | .map entries => do
    let es ← literalEntries path entries
    return .keyed (pulumi "Map") es

def literalItems (path : String) (i : Nat) : List Value → Except Error (List Expr)
  | [] => .ok []
  | v :: rest => do
    let e ← literal (Json.indexPath path i) v
    let es ← literalItems path (i + 1) rest
    return e :: es

def literalEntries (path : String) : List (String × Value) → Except Error (List (Expr × Expr))
  | [] => .ok []
  | (k, v) :: rest => do
    let e ← literal (Json.keyPath path k) v
    let es ← literalEntries path rest
    return (.string k, e) :: es

end

def formatArgument (path : String) : Argument → Except Error Expr
  | .value v => argument path v
  | .output o => access path o

def interpolated (path : String) : Interpolation → Except Error Expr
  | .literal s => .ok (.call (pulumi "String") [.string s])
  | .value v => literal path v
  | .output o => access path o
  | .format text args => do
    let es ← args.mapM (formatArgument path)
    return .call (pulumi "Sprintf") (.string text :: es)

mutual

def expression (scope : Scope) (path : String) : Value → Except Error Expr
  | .string s => do
    let i ← Scope.locate path (scope.interpolate s)
    interpolated path i
  | .list items => do
    let es ← expressionItems scope path 0 items
    return .list (pulumi "Array") es
  | .map entries => do
    let es ← expressionEntries scope path entries
    return .keyed (pulumi "Map") es
  | v => literal path v

def expressionItems (scope : Scope) (path : String) (i : Nat) :
    List Value → Except Error (List Expr)
  | [] => .ok []
  | v :: rest => do
    let e ← expression scope (Json.indexPath path i) v
    let es ← expressionItems scope path (i + 1) rest
    return e :: es

def expressionEntries (scope : Scope) (path : String) :
    List (String × Value) → Except Error (List (Expr × Expr))
  | [] => .ok []
  | (k, v) :: rest => do
    let e ← expression scope (Json.keyPath path k) v
    let es ← expressionEntries scope path rest
    return (.string k, e) :: es

end

/-- The fields of an argument struct; no two parameters may take the same field. -/
def argumentFields (scope : Scope) (seen : List String) :
    List (String × Value) → Except Error (List (Expr × Expr))
  | [] => .ok []
  | (k, v) :: rest => do
    let field ← publicName k k
    if seen.contains field then .error (.shape k (.repeatedField field))
    let e ← expression scope k v
    let es ← argumentFields scope (field :: seen) rest
    return (.ident field, e) :: es

def metadataOf (g : Graph) (n : Node) : Option (List (String × Value)) := do
  let owner ← n.definedBy
  let workload ← g.nodes.find? owner
  let params ← workload.params
  let metadata ← Entries.find? "metadata" params
  metadata.entries?

def scopeOf (g : Graph) (id : String) (n : Node) : Scope := ⟨metadataOf g n, g.edgesOf id⟩

def nodeBlock (id : String) (n : Node) (fields : List (Expr × Expr)) : List Stmt :=
  let c := n.component
  let args := Expr.unary "&" (.keyed (.qualified c.package c.argsType) fields)
  let entry := Expr.unary "&" (.keyed (pulumi "LogArgs") [(.ident "Resource", .ident id)])
  [.define [id, "err"]
      (.call (.qualified c.package c.constructor) [.ident "ctx", .string n.name, args]),
    .branch (.binary (.ident "err") "!=" .nil) [.ret [.ident "err"]],
    .assign (.ident "_")
      (.call (.selector (.selector (.ident "ctx") "Log") "Debug") [.string "provisioned", entry]),
    .blank]

def provision (g : Graph) (id : String) : Except Error (List Stmt) :=
  match g.nodes.find? id with
  | none => .error (.missingNode id)
  | some n => do
    let fields ← argumentFields (scopeOf g id n) [] (n.params.getD [])
    return nodeBlock id n fields

def emit (g : Graph) : Graph.Visitor (List Stmt) := fun id body =>
  match provision g id with
  | .ok stmts => (.ok (), body ++ stmts)
  | .error e => (.error e, body)

def body (g : Graph) : Except Error (List Stmt) :=
  match g.visitInOrder (emit g) [] with
  | (.ok (), stmts) => .ok (stmts ++ [.ret [.nil]])
  | (.error e, _) => .error e

def wrap (stmts : List Stmt) : File :=
  let run := Expr.call (pulumi "Run")
    [.func [("ctx", .unary "*" (pulumi "Context"))] (some (.ident "error")) stmts]
  ⟨"main", [⟨"main", [], none, [.expr run]⟩]⟩

def ofGraph (g : Graph) : Except Error File := do
  let stmts ← body g
  return wrap stmts

end Provision.Program

def Provision.Graph.program (g : Graph) : Except Error String := do
  let file ← Program.ofGraph g
  return file.render
