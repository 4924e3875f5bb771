import Provision.Double.Notation
import Provision.Go.Imports
import Provision.Go.Quoted

/-!
# Printing Go

Keyed literals with two entries or more take a line for each entry, in the order
of their printed keys; all other expressions stay on one line.
-/

set_option autoImplicit false

namespace Provision.Go

def tabs (n : Nat) : List Char := List.replicate n '\t'

def commaJoin : List (List Char) → List Char
  | [] => []
  | [x] => x
  | x :: rest => x ++ [',', ' '] ++ commaJoin rest

/-- Orders printed entries by key; entries with the same key keep their order. -/
def sortEntries (es : List (List Char × List Char)) : List (List Char × List Char) :=
  es.mergeSort fun a b => decide (String.ofList a.1 ≤ String.ofList b.1)

def entryText (e : List Char × List Char) : List Char := e.1 ++ [':', ' '] ++ e.2

def entryLine (indent : Nat) (e : List Char × List Char) : List Char :=
  tabs indent ++ entryText e ++ [',', '\n']

abbrev Names := List (String × String)

def Names.of (names : Names) (package : String) : String :=
  (Entries.find? package names).getD package

mutual

def Expr.chars (names : Names) (indent : Nat) : Expr → List Char
  | .ident name => name.toList
  | .qualified package name => (names.of package).toList ++ '.' :: name.toList
  | .nil => "nil".toList
  | .bool b => (if b then "true" else "false").toList
  | .int i => (toString i.toInt).toList
  | .float x => (DoubleNotation.source.write x).toList
  | .string s => Quoted.chars s
  | .selector base field => base.chars names indent ++ '.' :: field.toList
  | .call func args =>
    func.chars names indent ++ '(' :: commaJoin (exprsChars names indent args) ++ [')']
  | .list type items =>
    type.chars names indent ++ '\x7b' :: commaJoin (exprsChars names indent items) ++ ['\x7d']
  | .keyed type entries =>
    type.chars names indent ++ '\x7b' ::
      (if entries.length < 2 then commaJoin ((entriesChars names indent entries).map entryText)
      else
        '\n' :: (sortEntries (entriesChars names (indent + 1) entries)).flatMap
          (entryLine (indent + 1)) ++ tabs indent) ++ ['\x7d']
  | .unary op operand => op.toList ++ operand.chars names indent
  | .binary left op right =>
    left.chars names indent ++ ' ' :: op.toList ++ ' ' :: right.chars names indent
  | .func params result body =>
    "func(".toList ++ commaJoin (paramsChars names params) ++ [')']
      ++ resultChars names indent result ++ [' ', '\x7b', '\n']
      ++ blockChars names (indent + 1) body ++ tabs indent ++ ['\x7d']

def exprsChars (names : Names) (indent : Nat) : List Expr → List (List Char)
  | [] => []
  | e :: rest => e.chars names indent :: exprsChars names indent rest

def entriesChars (names : Names) (indent : Nat) :
    List (Expr × Expr) → List (List Char × List Char)
  | [] => []
  | (k, v) :: rest =>
    (k.chars names indent, v.chars names indent) :: entriesChars names indent rest

def paramsChars (names : Names) : List (String × Expr) → List (List Char)
  | [] => []
  | (name, type) :: rest =>
    (name.toList ++ ' ' :: type.chars names 0) :: paramsChars names rest

def resultChars (names : Names) (indent : Nat) : Option Expr → List Char
  | none => []
  | some e => ' ' :: e.chars names indent

def Stmt.chars (names : Names) (indent : Nat) : Stmt → List Char
  | .blank => ['\n']
  | .define vars value =>
    tabs indent ++ commaJoin (vars.map String.toList) ++ " := ".toList
      ++ value.chars names indent ++ ['\n']
  | .assign target value =>
    tabs indent ++ target.chars names indent ++ " = ".toList ++ value.chars names indent ++ ['\n']
  | .branch condition body =>
    tabs indent ++ "if ".toList ++ condition.chars names indent ++ [' ', '\x7b', '\n']
      ++ blockChars names (indent + 1) body ++ tabs indent ++ ['\x7d', '\n']
  | .ret [] => tabs indent ++ "return".toList ++ ['\n']
  | .ret (e :: rest) =>
    tabs indent ++ "return ".toList
      ++ commaJoin (e.chars names indent :: exprsChars names indent rest) ++ ['\n']
  | .expr e => tabs indent ++ e.chars names indent ++ ['\n']

def blockChars (names : Names) (indent : Nat) : List Stmt → List Char
  | [] => []
  | s :: rest => s.chars names indent ++ blockChars names indent rest

end

def FuncDecl.chars (names : Names) (f : FuncDecl) : List Char :=
  "func ".toList ++ f.name.toList ++ '(' :: commaJoin (paramsChars names f.params) ++ [')']
    ++ resultChars names 0 f.result ++ [' ', '\x7b', '\n'] ++ blockChars names 1 f.body
    ++ ['\x7d', '\n']

def importSpec (e : String × String) : List Char := e.2.toList ++ ' ' :: Quoted.chars e.1

def importChars : Names → List Char
  | [] => []
  | [e] => "import ".toList ++ importSpec e ++ ['\n', '\n']
  | es =>
    "import (\n".toList ++ es.flatMap (fun e => '\t' :: importSpec e ++ ['\n']) ++ ")\n\n".toList

def funcsChars (names : Names) : List FuncDecl → List Char
  | [] => []
  | [f] => f.chars names
  | f :: rest => f.chars names ++ '\n' :: funcsChars names rest

def File.chars (f : File) : List Char :=
  let names := localNames f.packages
  "package ".toList ++ f.package.toList ++ ['\n', '\n'] ++ importChars names
    ++ funcsChars names f.funcs

def File.render (f : File) : String := String.ofList f.chars

end Provision.Go
