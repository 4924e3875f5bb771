import Provision.Go.Imports
import Provision.Proofs.Table

/-!
# The parts of a Go file

The parts of a file are all its expressions and statements, at every depth. What is
said about a whole file is said about its list of parts: which packages its qualified
names belong to, and which names its statements define.
-/

set_option autoImplicit false

namespace Provision.Go

inductive Part where
  | expr (e : Expr)
  | stmt (s : Stmt)

mutual

/-- An expression and all that stands in it, from left to right. -/
def Expr.parts : Expr → List Part
  | .selector base field => .expr (.selector base field) :: base.parts
  | .call func args => .expr (.call func args) :: (func.parts ++ partsOfExprs args)
  | .list type items => .expr (.list type items) :: (type.parts ++ partsOfExprs items)
  | .keyed type entries => .expr (.keyed type entries) :: (type.parts ++ partsOfEntries entries)
  | .unary op operand => .expr (.unary op operand) :: operand.parts
  | .binary left op right => .expr (.binary left op right) :: (left.parts ++ right.parts)
  | .func params result body =>
    .expr (.func params result body) ::
      (partsOfParams params ++ partsOfResult result ++ partsOfBlock body)
  | .qualified package name => [.expr (.qualified package name)]
  | .ident name => [.expr (.ident name)]
  | .nil => [.expr .nil]
  | .bool b => [.expr (.bool b)]
  | .int i => [.expr (.int i)]
  | .float x => [.expr (.float x)]
  | .string s => [.expr (.string s)]

def partsOfExprs : List Expr → List Part
  | [] => []
  | e :: rest => e.parts ++ partsOfExprs rest

def partsOfEntries : List (Expr × Expr) → List Part
  | [] => []
  | (k, v) :: rest => k.parts ++ v.parts ++ partsOfEntries rest

def partsOfParams : List (String × Expr) → List Part
  | [] => []
  | (_, type) :: rest => type.parts ++ partsOfParams rest

def partsOfResult : Option Expr → List Part
  | none => []
  | some e => e.parts

def Stmt.parts : Stmt → List Part
  | .define names value => .stmt (.define names value) :: value.parts
  | .assign target value => .stmt (.assign target value) :: (target.parts ++ value.parts)
  | .branch condition body =>
    .stmt (.branch condition body) :: (condition.parts ++ partsOfBlock body)
  | .ret values => .stmt (.ret values) :: partsOfExprs values
  | .expr e => .stmt (.expr e) :: e.parts
  | .blank => [.stmt .blank]

def partsOfBlock : List Stmt → List Part
  | [] => []
  | s :: rest => s.parts ++ partsOfBlock rest

end

def FuncDecl.parts (f : FuncDecl) : List Part :=
  partsOfParams f.params ++ partsOfResult f.result ++ partsOfBlock f.body

def File.parts (f : File) : List Part := f.funcs.flatMap FuncDecl.parts

def Part.path? : Part → Option String
  | .expr (.qualified package _) => some package
  | _ => none

def Part.defined? : Part → Option (List String)
  | .stmt (.define names _) => some names
  | _ => none

def File.definitions (f : File) : List (List String) := f.parts.filterMap Part.defined?

theorem mem_partsOfExprs {es : List Expr} {x : Part} :
    x ∈ partsOfExprs es ↔ ∃ e ∈ es, x ∈ e.parts := by
  induction es with
  | nil => simp [partsOfExprs]
  | cons e rest ih => simp [partsOfExprs, ih]

theorem mem_partsOfEntries {es : List (Expr × Expr)} {x : Part} :
    x ∈ partsOfEntries es ↔ ∃ e ∈ es, x ∈ e.1.parts ∨ x ∈ e.2.parts := by
  induction es with
  | nil => simp [partsOfEntries]
  | cons e rest ih => simp [partsOfEntries, ih, or_assoc]

theorem pathsOfBlock_eq_flatMap (ss : List Stmt) : pathsOfBlock ss = ss.flatMap Stmt.paths := by
  induction ss with
  | nil => rfl
  | cons s rest ih => simp [pathsOfBlock, ih]

theorem partsOfBlock_append (ss ts : List Stmt) :
    partsOfBlock (ss ++ ts) = partsOfBlock ss ++ partsOfBlock ts := by
  induction ss with
  | nil => rfl
  | cons s rest ih => simp [partsOfBlock, ih]

mutual

/-- The collected paths are those of the qualified names, wherever they stand. -/
theorem Expr.paths_eq (e : Expr) : e.paths = e.parts.filterMap Part.path? := by
  match e with
  | .selector base _ =>
    simp [Expr.paths, Expr.parts, List.filterMap_cons, Part.path?, base.paths_eq]
  | .call func args =>
    simp [Expr.paths, Expr.parts, List.filterMap_cons, Part.path?,
      func.paths_eq, pathsOfExprs_eq args]
  | .list type items =>
    simp [Expr.paths, Expr.parts, List.filterMap_cons, Part.path?,
      type.paths_eq, pathsOfExprs_eq items]
  | .keyed type entries =>
    simp [Expr.paths, Expr.parts, List.filterMap_cons, Part.path?,
      type.paths_eq, pathsOfEntries_eq entries]
  | .unary _ operand =>
    simp [Expr.paths, Expr.parts, List.filterMap_cons, Part.path?, operand.paths_eq]
  | .binary left _ right =>
    simp [Expr.paths, Expr.parts, List.filterMap_cons, Part.path?, left.paths_eq, right.paths_eq]
  | .func params result body =>
    simp [Expr.paths, Expr.parts, List.filterMap_cons, Part.path?, pathsOfParams_eq params,
      pathsOfResult_eq result, pathsOfBlock_eq body]
  | .qualified _ _ => rfl
  | .ident _ => rfl
  | .nil => rfl
  | .bool _ => rfl
  | .int _ => rfl
  | .float _ => rfl
  | .string _ => rfl

theorem pathsOfExprs_eq (es : List Expr) :
    pathsOfExprs es = (partsOfExprs es).filterMap Part.path? := by
  match es with
  | [] => rfl
  | e :: rest => simp [pathsOfExprs, partsOfExprs, e.paths_eq, pathsOfExprs_eq rest]

theorem pathsOfEntries_eq (es : List (Expr × Expr)) :
    pathsOfEntries es = (partsOfEntries es).filterMap Part.path? := by
  match es with
  | [] => rfl
  | (k, v) :: rest =>
    simp [pathsOfEntries, partsOfEntries, k.paths_eq, v.paths_eq, pathsOfEntries_eq rest]

theorem pathsOfParams_eq (ps : List (String × Expr)) :
    pathsOfParams ps = (partsOfParams ps).filterMap Part.path? := by
  match ps with
  | [] => rfl
  | (_, type) :: rest => simp [pathsOfParams, partsOfParams, type.paths_eq, pathsOfParams_eq rest]

theorem pathsOfResult_eq (r : Option Expr) :
    pathsOfResult r = (partsOfResult r).filterMap Part.path? := by
  match r with
  | none => rfl
  | some e => simp [pathsOfResult, partsOfResult, e.paths_eq]

theorem Stmt.paths_eq (s : Stmt) : s.paths = s.parts.filterMap Part.path? := by
  match s with
  | .define _ value =>
    simp [Stmt.paths, Stmt.parts, List.filterMap_cons, Part.path?, value.paths_eq]
  | .assign target value =>
    simp [Stmt.paths, Stmt.parts, List.filterMap_cons, Part.path?, target.paths_eq, value.paths_eq]
  | .branch condition body =>
    simp [Stmt.paths, Stmt.parts, List.filterMap_cons, Part.path?,
      condition.paths_eq, pathsOfBlock_eq body]
  | .ret values =>
    simp [Stmt.paths, Stmt.parts, List.filterMap_cons, Part.path?, pathsOfExprs_eq values]
  | .expr e => simp [Stmt.paths, Stmt.parts, List.filterMap_cons, Part.path?, e.paths_eq]
  | .blank => rfl

theorem pathsOfBlock_eq (ss : List Stmt) :
    pathsOfBlock ss = (partsOfBlock ss).filterMap Part.path? := by
  match ss with
  | [] => rfl
  | s :: rest => simp [pathsOfBlock, partsOfBlock, s.paths_eq, pathsOfBlock_eq rest]

end

theorem FuncDecl.paths_eq (f : FuncDecl) : f.paths = f.parts.filterMap Part.path? := by
  simp [FuncDecl.paths, FuncDecl.parts, pathsOfParams_eq, pathsOfResult_eq, pathsOfBlock_eq]

theorem Part.path?_eq_some {x : Part} {path : String} :
    x.path? = some path ↔ ∃ name, x = .expr (.qualified path name) := by
  unfold Part.path?
  split <;> simp_all

theorem File.mem_packages_iff_paths {f : File} {path : String} :
    path ∈ f.packages ↔ path ∈ f.funcs.flatMap FuncDecl.paths := by
  rw [File.packages, distinct, Table.mem_keys_iff, ← Option.isSome_iff_exists]
  refine Entries.find?_ofList_isSome_iff.trans ?_
  simp

/-- A file imports the packages of its qualified names. -/
theorem File.mem_packages {f : File} {path : String} :
    path ∈ f.packages ↔ ∃ name, Part.expr (.qualified path name) ∈ f.parts := by
  rw [File.mem_packages_iff_paths]
  simp only [File.parts, List.mem_flatMap, FuncDecl.paths_eq, List.mem_filterMap,
    Part.path?_eq_some]
  constructor
  · rintro ⟨d, hd, x, hx, name, rfl⟩
    exact ⟨name, d, hd, hx⟩
  · rintro ⟨name, d, hd, hx⟩
    exact ⟨d, hd, _, hx, name, rfl⟩

theorem File.nodup_packages (f : File) : f.packages.Nodup := Table.nodup_keys _

end Provision.Go
