import Provision.Go.Syntax
import Provision.Table

/-!
# Imports

A file imports the packages of its qualified names. Each package gets a local
name from the last element of its path that is not a version, with a number
behind it where that name is reserved or taken.
-/

set_option autoImplicit false

namespace Provision.Go

mutual

/-- The import paths in an expression, in the order in which they are met. -/
def Expr.paths : Expr → List String
  | .qualified package _ => [package]
  | .selector base _ => base.paths
  | .call func args => func.paths ++ pathsOfExprs args
  | .list type items => type.paths ++ pathsOfExprs items
  | .keyed type entries => type.paths ++ pathsOfEntries entries
  | .unary _ operand => operand.paths
  | .binary left _ right => left.paths ++ right.paths
  | .func params result body => pathsOfParams params ++ pathsOfResult result ++ pathsOfBlock body
  | .ident _ => []
  | .nil => []
  | .bool _ => []
  | .int _ => []
  | .float _ => []
  | .string _ => []

def pathsOfExprs : List Expr → List String
  | [] => []
  | e :: rest => e.paths ++ pathsOfExprs rest

def pathsOfEntries : List (Expr × Expr) → List String
  | [] => []
  | (k, v) :: rest => k.paths ++ v.paths ++ pathsOfEntries rest

def pathsOfParams : List (String × Expr) → List String
  | [] => []
  | (_, type) :: rest => type.paths ++ pathsOfParams rest

def pathsOfResult : Option Expr → List String
  | none => []
  | some e => e.paths

def Stmt.paths : Stmt → List String
  | .define _ value => value.paths
  | .assign target value => target.paths ++ value.paths
  | .branch condition body => condition.paths ++ pathsOfBlock body
  | .ret values => pathsOfExprs values
  | .expr e => e.paths
  | .blank => []

def pathsOfBlock : List Stmt → List String
  | [] => []
  | s :: rest => s.paths ++ pathsOfBlock rest

end

def FuncDecl.paths (f : FuncDecl) : List String :=
  pathsOfParams f.params ++ pathsOfResult f.result ++ pathsOfBlock f.body

def distinct (paths : List String) : List String := (Table.ofList (paths.map (·, ()))).keys

def File.packages (f : File) : List String := distinct (f.funcs.flatMap FuncDecl.paths)

/-- Names that no import may take: the keywords, and names that programs use. -/
def reserved : List String :=
  ["break", "case", "chan", "const", "continue", "default", "defer", "else", "fallthrough",
    "for", "func", "go", "goto", "if", "import", "interface", "map", "package", "range",
    "return", "select", "struct", "switch", "type", "var", "ctx", "err", "main", "nil", "true",
    "false"]

def isVersion : List Char → Bool
  | 'v' :: c :: rest => (c :: rest).all Char.isDigit
  | _ => false

def namingElement (path : String) : List Char :=
  match ((path.toList.splitOn '/').filter fun e => !e.isEmpty).reverse with
  | [] => []
  | [e] => e
  | last :: before :: _ => if isVersion last then before else last

def dropGoBefore : List Char → List Char
  | 'g' :: 'o' :: '-' :: rest => rest
  | cs => cs

def dropGoAfter (cs : List Char) : List Char :=
  match cs.reverse with
  | 'o' :: 'g' :: '-' :: rest => rest.reverse
  | _ => cs

/-- The name that suits a package: lower-case letters, digits and underscores,
not starting with a digit. -/
def guessName (path : String) : String :=
  let kept := ((dropGoAfter (dropGoBefore (namingElement path))).filter
    fun c => c.isAlphanum || c = '_').map Char.toLower
  match kept with
  | [] => "pkg"
  | c :: _ => if c.isAlpha || c = '_' then String.ofList kept else "pkg" ++ String.ofList kept

/-- The first of a name and the name with 1, 2, … behind it that is not taken. -/
def freeName (taken : List String) (base : String) : String :=
  let numbered := (List.range taken.length).map fun n => base ++ toString (n + 1)
  ((base :: numbered).find? fun name => !taken.contains name).getD base

def nameAll (taken : List String) : List String → List (String × String)
  | [] => []
  | path :: rest =>
    let name := freeName taken (guessName path)
    (path, name) :: nameAll (name :: taken) rest

def localNames (packages : List String) : List (String × String) := nameAll reserved packages

end Provision.Go
