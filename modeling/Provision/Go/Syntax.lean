import Provision.Double

/-!
# Go syntax

The part of Go that generated programs use. A qualified name carries the import
path of its package; the printer chooses the local name of the package.
-/

set_option autoImplicit false

namespace Provision.Go

mutual

inductive Expr where
  | ident (name : String)
  | qualified (package name : String)
  | nil
  | bool (b : Bool)
  | int (i : Int64)
  | float (x : Double)
  | string (s : String)
  | selector (base : Expr) (field : String)
  | call (func : Expr) (args : List Expr)
  | list (type : Expr) (items : List Expr)
  /-- A composite literal with keys, printed in the order of the printed keys. -/
  | keyed (type : Expr) (entries : List (Expr × Expr))
  | unary (op : String) (operand : Expr)
  | binary (left : Expr) (op : String) (right : Expr)
  | func (params : List (String × Expr)) (result : Option Expr) (body : List Stmt)

inductive Stmt where
  | define (names : List String) (value : Expr)
  | assign (target value : Expr)
  | branch (condition : Expr) (body : List Stmt)
  | ret (values : List Expr)
  | expr (e : Expr)
  | blank

end

instance : Inhabited Expr := ⟨.nil⟩

instance : Inhabited Stmt := ⟨.blank⟩

structure FuncDecl where
  name : String
  params : List (String × Expr)
  result : Option Expr
  body : List Stmt
  deriving Inhabited

structure File where
  package : String
  funcs : List FuncDecl
  deriving Inhabited

end Provision.Go
