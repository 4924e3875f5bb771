import Provision.Go.Printer
import Provision.Proofs.Go.Imports

/-!
# The order of entries does not matter

Two files differ in the order of keyed entries when one is made from the other by moving
entries of keyed literals, at any depth and in any number of places. Such files import the
same packages. They are printed alike if, in each literal whose entries are moved, the keys
are printed as distinct texts: a literal lists its entries by printed key, so that the place
of an entry in the syntax is lost.
-/

set_option autoImplicit false

namespace Provision.Go

def entryIndent (indent : Nat) (entries : List (Expr × Expr)) : Nat :=
  if entries.length < 2 then indent else indent + 1

mutual

/-- Whether two expressions, printed with this indentation, differ only in the order of the
entries of keyed literals. Only literals that are `movable` have their entries moved. -/
inductive Expr.Rearranged (movable : Nat → List (Expr × Expr) → Prop) : Nat → Expr → Expr → Prop
  | same (n : Nat) (e : Expr) : Expr.Rearranged movable n e e
  | selector {n : Nat} {base base' : Expr} (field : String)
      (h : Expr.Rearranged movable n base base') :
      Expr.Rearranged movable n (.selector base field) (.selector base' field)
  | call {n : Nat} {func func' : Expr} {args args' : List Expr}
      (hf : Expr.Rearranged movable n func func') (ha : ExprsRearranged movable n args args') :
      Expr.Rearranged movable n (.call func args) (.call func' args')
  | list {n : Nat} {type type' : Expr} {items items' : List Expr}
      (ht : Expr.Rearranged movable n type type') (hi : ExprsRearranged movable n items items') :
      Expr.Rearranged movable n (.list type items) (.list type' items')
  | kept {n : Nat} {type type' : Expr} {entries entries' : List (Expr × Expr)}
      (ht : Expr.Rearranged movable n type type')
      (he : EntriesRearranged movable (entryIndent n entries) entries entries') :
      Expr.Rearranged movable n (.keyed type entries) (.keyed type' entries')
  | moved {n : Nat} {type type' : Expr} {entries inPlace entries' : List (Expr × Expr)}
      (ht : Expr.Rearranged movable n type type')
      (he : EntriesRearranged movable (entryIndent n entries) entries inPlace)
      (hm : movable (entryIndent n entries) entries) (hp : inPlace.Perm entries') :
      Expr.Rearranged movable n (.keyed type entries) (.keyed type' entries')
  | unary {n : Nat} {operand operand' : Expr} (op : String)
      (h : Expr.Rearranged movable n operand operand') :
      Expr.Rearranged movable n (.unary op operand) (.unary op operand')
  | binary {n : Nat} {left left' right right' : Expr} (op : String)
      (hl : Expr.Rearranged movable n left left') (hr : Expr.Rearranged movable n right right') :
      Expr.Rearranged movable n (.binary left op right) (.binary left' op right')
  | func {n : Nat} {params params' : List (String × Expr)} {result result' : Option Expr}
      {body body' : List Stmt} (hp : ParamsRearranged movable params params')
      (hr : ResultRearranged movable n result result')
      (hb : BlockRearranged movable (n + 1) body body') :
      Expr.Rearranged movable n (.func params result body) (.func params' result' body')

inductive ExprsRearranged (movable : Nat → List (Expr × Expr) → Prop) :
    Nat → List Expr → List Expr → Prop
  | nil (n : Nat) : ExprsRearranged movable n [] []
  | cons {n : Nat} {e e' : Expr} {rest rest' : List Expr} (he : Expr.Rearranged movable n e e')
      (hr : ExprsRearranged movable n rest rest') :
      ExprsRearranged movable n (e :: rest) (e' :: rest')

inductive EntriesRearranged (movable : Nat → List (Expr × Expr) → Prop) :
    Nat → List (Expr × Expr) → List (Expr × Expr) → Prop
  | nil (n : Nat) : EntriesRearranged movable n [] []
  | cons {n : Nat} {k k' v v' : Expr} {rest rest' : List (Expr × Expr)}
      (hk : Expr.Rearranged movable n k k') (hv : Expr.Rearranged movable n v v')
      (hr : EntriesRearranged movable n rest rest') :
      EntriesRearranged movable n ((k, v) :: rest) ((k', v') :: rest')

inductive ParamsRearranged (movable : Nat → List (Expr × Expr) → Prop) :
    List (String × Expr) → List (String × Expr) → Prop
  | nil : ParamsRearranged movable [] []
  | cons {type type' : Expr} {rest rest' : List (String × Expr)} (name : String)
      (ht : Expr.Rearranged movable 0 type type') (hr : ParamsRearranged movable rest rest') :
      ParamsRearranged movable ((name, type) :: rest) ((name, type') :: rest')

inductive ResultRearranged (movable : Nat → List (Expr × Expr) → Prop) :
    Nat → Option Expr → Option Expr → Prop
  | none (n : Nat) : ResultRearranged movable n none none
  | some {n : Nat} {e e' : Expr} (h : Expr.Rearranged movable n e e') :
      ResultRearranged movable n (some e) (some e')

inductive Stmt.Rearranged (movable : Nat → List (Expr × Expr) → Prop) : Nat → Stmt → Stmt → Prop
  | define {n : Nat} {value value' : Expr} (names : List String)
      (h : Expr.Rearranged movable n value value') :
      Stmt.Rearranged movable n (.define names value) (.define names value')
  | assign {n : Nat} {target target' value value' : Expr}
      (ht : Expr.Rearranged movable n target target')
      (hv : Expr.Rearranged movable n value value') :
      Stmt.Rearranged movable n (.assign target value) (.assign target' value')
  | branch {n : Nat} {condition condition' : Expr} {body body' : List Stmt}
      (hc : Expr.Rearranged movable n condition condition')
      (hb : BlockRearranged movable (n + 1) body body') :
      Stmt.Rearranged movable n (.branch condition body) (.branch condition' body')
  | ret {n : Nat} {values values' : List Expr} (h : ExprsRearranged movable n values values') :
      Stmt.Rearranged movable n (.ret values) (.ret values')
  | expr {n : Nat} {e e' : Expr} (h : Expr.Rearranged movable n e e') :
      Stmt.Rearranged movable n (.expr e) (.expr e')
  | blank (n : Nat) : Stmt.Rearranged movable n .blank .blank

inductive BlockRearranged (movable : Nat → List (Expr × Expr) → Prop) :
    Nat → List Stmt → List Stmt → Prop
  | nil (n : Nat) : BlockRearranged movable n [] []
  | cons {n : Nat} {s s' : Stmt} {rest rest' : List Stmt} (hs : Stmt.Rearranged movable n s s')
      (hr : BlockRearranged movable n rest rest') :
      BlockRearranged movable n (s :: rest) (s' :: rest')

end

structure FuncDecl.Rearranged (movable : Nat → List (Expr × Expr) → Prop) (f g : FuncDecl) :
    Prop where
  name : g.name = f.name
  params : ParamsRearranged movable f.params g.params
  result : ResultRearranged movable 0 f.result g.result
  body : BlockRearranged movable 1 f.body g.body

structure File.Rearranged (movable : Nat → List (Expr × Expr) → Prop) (f g : File) : Prop where
  package : g.package = f.package
  funcs : List.Forall₂ (FuncDecl.Rearranged movable) f.funcs g.funcs

/-! ## Imports -/

variable {movable : Nat → List (Expr × Expr) → Prop}

theorem pathsOfEntries_eq_flatMap (es : List (Expr × Expr)) :
    pathsOfEntries es = es.flatMap fun e => e.1.paths ++ e.2.paths := by
  induction es with
  | nil => rfl
  | cons e rest ih => rw [pathsOfEntries, ih, List.flatMap_cons]

mutual

/-- Moving entries moves the import paths in them. -/
theorem Expr.Rearranged.paths {n : Nat} {e e' : Expr} (h : e.Rearranged movable n e') :
    e.paths.Perm e'.paths := by
  match h with
  | .same _ _ => exact .refl _
  | .selector _ h => exact h.paths
  | .call hf ha => exact hf.paths.append ha.paths
  | .list ht hi => exact ht.paths.append hi.paths
  | .kept ht he => exact ht.paths.append he.paths
  | .moved ht he _ hp =>
    refine ht.paths.append (he.paths.trans ?_)
    rw [pathsOfEntries_eq_flatMap, pathsOfEntries_eq_flatMap]
    exact hp.flatMap_right _
  | .unary _ h => exact h.paths
  | .binary _ hl hr => exact hl.paths.append hr.paths
  | .func hp hr hb => exact (hp.paths.append hr.paths).append hb.paths

theorem ExprsRearranged.paths {n : Nat} {es es' : List Expr} (h : ExprsRearranged movable n es es') :
    (pathsOfExprs es).Perm (pathsOfExprs es') := by
  match h with
  | .nil _ => exact .refl _
  | .cons he hr => exact he.paths.append hr.paths

theorem EntriesRearranged.paths {n : Nat} {es es' : List (Expr × Expr)}
    (h : EntriesRearranged movable n es es') : (pathsOfEntries es).Perm (pathsOfEntries es') := by
  match h with
  | .nil _ => exact .refl _
  | .cons hk hv hr => exact (hk.paths.append hv.paths).append hr.paths

theorem ParamsRearranged.paths {ps ps' : List (String × Expr)}
    (h : ParamsRearranged movable ps ps') : (pathsOfParams ps).Perm (pathsOfParams ps') := by
  match h with
  | .nil => exact .refl _
  | .cons _ ht hr => exact ht.paths.append hr.paths

theorem ResultRearranged.paths {n : Nat} {r r' : Option Expr} (h : ResultRearranged movable n r r') :
    (pathsOfResult r).Perm (pathsOfResult r') := by
  match h with
  | .none _ => exact .refl _
  | .some h => exact h.paths

theorem Stmt.Rearranged.paths {n : Nat} {s s' : Stmt} (h : s.Rearranged movable n s') :
    s.paths.Perm s'.paths := by
  match h with
  | .define _ h => exact h.paths
  | .assign ht hv => exact ht.paths.append hv.paths
  | .branch hc hb => exact hc.paths.append hb.paths
  | .ret h => exact h.paths
  | .expr h => exact h.paths
  | .blank _ => exact .refl _

theorem BlockRearranged.paths {n : Nat} {ss ss' : List Stmt} (h : BlockRearranged movable n ss ss') :
    (pathsOfBlock ss).Perm (pathsOfBlock ss') := by
  match h with
  | .nil _ => exact .refl _
  | .cons hs hr => exact hs.paths.append hr.paths

end

theorem EntriesRearranged.length_eq {n : Nat} {es es' : List (Expr × Expr)}
    (h : EntriesRearranged movable n es es') : es.length = es'.length := by
  induction es generalizing es' with
  | nil => cases h; rfl
  | cons e rest ih =>
    cases h with
    | cons _ _ hr => exact congrArg (· + 1) (ih hr)

theorem FuncDecl.Rearranged.paths {f g : FuncDecl} (h : f.Rearranged movable g) :
    f.paths.Perm g.paths :=
  (h.params.paths.append h.result.paths).append h.body.paths

theorem File.Rearranged.packages {f g : File} (h : f.Rearranged movable g) :
    g.packages = f.packages := by
  have hpaths : ∀ {fs gs : List FuncDecl}, List.Forall₂ (FuncDecl.Rearranged movable) fs gs →
      (fs.flatMap FuncDecl.paths).Perm (gs.flatMap FuncDecl.paths) := by
    intro fs gs hfuncs
    induction hfuncs with
    | nil => exact .refl _
    | cons hd _ ih => exact hd.paths.append ih
  refine Table.keys_ext fun path => ?_
  exact mem_packages_iff_paths.trans
    ((hpaths h.funcs).mem_iff.symm.trans mem_packages_iff_paths.symm)

/-! ## Texts -/

def DistinctKeys (names : Names) (indent : Nat) (entries : List (Expr × Expr)) : Prop :=
  (entries.map fun e => e.1.chars names indent).Nodup

theorem entriesChars_eq_map (names : Names) (n : Nat) (es : List (Expr × Expr)) :
    entriesChars names n es = es.map fun e => (e.1.chars names n, e.2.chars names n) := by
  induction es with
  | nil => rfl
  | cons e rest ih => rw [entriesChars, ih, List.map_cons]

theorem map_fst_entriesChars (names : Names) (n : Nat) (es : List (Expr × Expr)) :
    (entriesChars names n es).map Prod.fst = es.map fun e => e.1.chars names n := by
  rw [entriesChars_eq_map, List.map_map]
  rfl

def entriesText (indent : Nat) (texts : List (List Char × List Char)) : List Char :=
  if texts.length < 2 then commaJoin (texts.map entryText)
  else '\n' :: (sortEntries texts).flatMap (entryLine (indent + 1)) ++ tabs indent

theorem chars_keyed (names : Names) (n : Nat) (type : Expr) (entries : List (Expr × Expr)) :
    (Expr.keyed type entries).chars names n =
      type.chars names n ++ '\x7b' ::
        entriesText n (entriesChars names (entryIndent n entries) entries) ++ ['\x7d'] := by
  have hlen : ∀ m, (entriesChars names m entries).length = entries.length := by
    intro m
    rw [entriesChars_eq_map, List.length_map]
  have hbody : (if entries.length < 2 then
        commaJoin ((entriesChars names n entries).map entryText)
      else
        '\n' :: (sortEntries (entriesChars names (n + 1) entries)).flatMap (entryLine (n + 1)) ++
          tabs n) = entriesText n (entriesChars names (entryIndent n entries) entries) := by
    unfold entriesText entryIndent
    rw [hlen]
    split <;> rfl
  exact congrArg (fun body => type.chars names n ++ '\x7b' :: body ++ ['\x7d']) hbody

/-- Entries with distinct keys are sorted in one way only. -/
theorem sortEntries_perm {es fs : List (List Char × List Char)} (h : es.Perm fs)
    (hk : (es.map Prod.fst).Nodup) : sortEntries es = sortEntries fs := by
  have hsorted : ∀ gs : List (List Char × List Char), (sortEntries gs).Pairwise
      fun a b => String.ofList a.1 ≤ String.ofList b.1 := by
    intro gs
    refine (List.pairwise_mergeSort ?_ ?_ gs).imp (by simp)
    · intro a b c hab hbc
      exact decide_eq_true (String.le_trans (of_decide_eq_true hab) (of_decide_eq_true hbc))
    · intro a b
      simpa using String.le_total (String.ofList a.1) (String.ofList b.1)
  have hperm : (sortEntries es).Perm (sortEntries fs) :=
    (List.mergeSort_perm es _).trans (h.trans (List.mergeSort_perm fs _).symm)
  refine hperm.eq_of_pairwise ?_ (hsorted es) (hsorted fs)
  intro a b ha hb hab hba
  have hmem : a ∈ es ∧ b ∈ es :=
    ⟨(List.mergeSort_perm es _).mem_iff.mp ha,
      h.mem_iff.mpr ((List.mergeSort_perm fs _).mem_iff.mp hb)⟩
  have hkey : a.1 = b.1 := by
    have htext := congrArg String.toList (String.le_antisymm hab hba)
    rwa [String.toList_ofList, String.toList_ofList] at htext
  exact List.inj_on_of_nodup_map hk hmem.1 hmem.2 hkey

theorem entriesText_perm (n : Nat) {es fs : List (List Char × List Char)} (h : es.Perm fs)
    (hk : (es.map Prod.fst).Nodup) : entriesText n es = entriesText n fs := by
  unfold entriesText
  rw [sortEntries_perm h hk, h.length_eq]
  split
  · next hlen =>
    -- a permutation of at most one entry moves nothing
    match fs with
    | [] => rw [h.eq_nil]
    | [f] => rw [h.eq_singleton]
    | _ :: _ :: _ => exact absurd hlen (by simp)
  · rfl

section Printing

variable {names : Names}

mutual

/-- Where the keys of moved entries are distinct texts, moving them changes no text. -/
theorem Expr.Rearranged.chars {n : Nat} {e e' : Expr}
    (h : e.Rearranged (DistinctKeys names) n e') : e.chars names n = e'.chars names n := by
  match h with
  | .same _ _ => rfl
  | .selector field h => exact congrArg (· ++ '.' :: field.toList) h.chars
  | .call hf ha =>
    exact congrArg₂ (fun func args => func ++ '(' :: commaJoin args ++ [')']) hf.chars ha.chars
  | .list ht hi =>
    exact congrArg₂ (fun type items => type ++ '\x7b' :: commaJoin items ++ ['\x7d'])
      ht.chars hi.chars
  | .kept ht he =>
    rw [chars_keyed, chars_keyed, ht.chars, he.chars, entryIndent, he.length_eq, entryIndent]
  | @Expr.Rearranged.moved _ _ _ _ entries inPlace entries' ht he hm hp =>
    have hindent : entryIndent n entries' = entryIndent n entries := by
      rw [entryIndent, entryIndent, he.length_eq, hp.length_eq]
    have hperm : (entriesChars names (entryIndent n entries) inPlace).Perm
        (entriesChars names (entryIndent n entries) entries') := by
      rw [entriesChars_eq_map, entriesChars_eq_map]
      exact hp.map _
    have hkeys : ((entriesChars names (entryIndent n entries) inPlace).map Prod.fst).Nodup := by
      rw [← he.chars, map_fst_entriesChars]
      exact hm
    rw [chars_keyed, chars_keyed, ht.chars, hindent, he.chars, entriesText_perm n hperm hkeys]
  | .unary op h => exact congrArg (op.toList ++ ·) h.chars
  | .binary op hl hr =>
    exact congrArg₂ (fun left right => left ++ ' ' :: op.toList ++ ' ' :: right) hl.chars hr.chars
  | .func hp hr hb =>
    unfold Expr.chars
    rw [hp.chars, hr.chars, hb.chars]

theorem ExprsRearranged.chars {n : Nat} {es es' : List Expr}
    (h : ExprsRearranged (DistinctKeys names) n es es') :
    exprsChars names n es = exprsChars names n es' := by
  match h with
  | .nil _ => rfl
  | .cons he hr => exact congrArg₂ List.cons he.chars hr.chars

theorem EntriesRearranged.chars {n : Nat} {es es' : List (Expr × Expr)}
    (h : EntriesRearranged (DistinctKeys names) n es es') :
    entriesChars names n es = entriesChars names n es' := by
  match h with
  | .nil _ => rfl
  | .cons hk hv hr => exact congrArg₂ List.cons (Prod.ext hk.chars hv.chars) hr.chars

theorem ParamsRearranged.chars {ps ps' : List (String × Expr)}
    (h : ParamsRearranged (DistinctKeys names) ps ps') :
    paramsChars names ps = paramsChars names ps' := by
  match h with
  | .nil => rfl
  | .cons name ht hr =>
    exact congrArg₂ (fun type rest => (name.toList ++ ' ' :: type) :: rest) ht.chars hr.chars

theorem ResultRearranged.chars {n : Nat} {r r' : Option Expr}
    (h : ResultRearranged (DistinctKeys names) n r r') :
    resultChars names n r = resultChars names n r' := by
  match h with
  | .none _ => rfl
  | .some h => exact congrArg (' ' :: ·) h.chars

theorem Stmt.Rearranged.chars {n : Nat} {s s' : Stmt}
    (h : s.Rearranged (DistinctKeys names) n s') : s.chars names n = s'.chars names n := by
  match h with
  | .define vars h =>
    unfold Stmt.chars
    rw [h.chars]
  | .assign ht hv =>
    unfold Stmt.chars
    rw [ht.chars, hv.chars]
  | .branch hc hb =>
    unfold Stmt.chars
    rw [hc.chars, hb.chars]
  | .ret (.nil _) => rfl
  | .ret (.cons he hr) =>
    unfold Stmt.chars
    rw [he.chars, hr.chars]
  | .expr h =>
    unfold Stmt.chars
    rw [h.chars]
  | .blank _ => rfl

theorem BlockRearranged.chars {n : Nat} {ss ss' : List Stmt}
    (h : BlockRearranged (DistinctKeys names) n ss ss') :
    blockChars names n ss = blockChars names n ss' := by
  match h with
  | .nil _ => rfl
  | .cons hs hr => exact congrArg₂ (· ++ ·) hs.chars hr.chars

end

theorem FuncDecl.Rearranged.chars {f g : FuncDecl} (h : f.Rearranged (DistinctKeys names) g) :
    f.chars names = g.chars names := by
  unfold FuncDecl.chars
  rw [h.name, h.params.chars, h.result.chars, h.body.chars]

theorem funcsChars_rearranged {fs gs : List FuncDecl}
    (h : List.Forall₂ (FuncDecl.Rearranged (DistinctKeys names)) fs gs) :
    funcsChars names fs = funcsChars names gs := by
  induction h with
  | nil => rfl
  | cons hd hrest ih =>
    cases hrest with
    | nil => exact hd.chars
    | cons _ _ => exact congrArg₂ (fun first rest => first ++ '\n' :: rest) hd.chars ih

end Printing

/-- The order of keyed entries is not printed. Of two files that differ in nothing else, in
any number of literals and at any depth, both have the same imports under the same names and
the same text, provided that the keys of each literal whose entries are moved are printed as
distinct texts. -/
theorem render_rearranged {f g : File} (h : f.Rearranged (DistinctKeys f.imports) g) :
    g.imports = f.imports ∧ g.render = f.render := by
  have himports : g.imports = f.imports := congrArg localNames h.packages
  refine ⟨himports, congrArg String.ofList ?_⟩
  unfold File.chars
  change "package ".toList ++ g.package.toList ++ ['\n', '\n'] ++ importChars g.imports ++
      funcsChars g.imports g.funcs =
    "package ".toList ++ f.package.toList ++ ['\n', '\n'] ++ importChars f.imports ++
      funcsChars f.imports f.funcs
  rw [himports, h.package, funcsChars_rearranged h.funcs]

/-- A call inside a branch whose argument is a map with a struct in it; `order` lists the
entries of both. -/
def stock (order : List (Expr × Expr) → List (Expr × Expr)) : File :=
  let sizes := Expr.keyed (.qualified "b.com/box" "Sizes")
    (order [(.ident "Width", .int 2), (.ident "Height", .int 1)])
  let boxes := Expr.keyed (.qualified "a.com/box" "Map")
    (order [(.string "small", sizes), (.string "\"large\"", .nil)])
  ⟨"main", [⟨"main", [], none,
    [.branch (.bool true) [.expr (.call (.ident "use") [boxes])], .ret []]⟩]⟩

theorem render_rearranged_stock :
    (stock id).Rearranged (DistinctKeys (stock id).imports) (stock List.reverse) ∧
      (stock List.reverse).imports = (stock id).imports ∧
      (stock List.reverse).render = (stock id).render := by
  have hsizes : DistinctKeys (stock id).imports 4
      [(.ident "Width", .int 2), (.ident "Height", .int 1)] := by
    unfold DistinctKeys Expr.chars
    decide
  have h : (stock id).Rearranged (DistinctKeys (stock id).imports) (stock List.reverse) := by
    refine ⟨rfl, .cons ⟨rfl, .nil, .none _, .cons ?_ (.cons (.ret (.nil _)) (.nil _))⟩ .nil⟩
    refine .branch (.same _ _) (.cons (.expr (.call (.same _ _) (.cons ?_ (.nil _)))) (.nil _))
    refine .moved (.same _ _) (.cons (.same _ _) ?_ (.cons (.same _ _) (.same _ _) (.nil _))) ?_
      (List.reverse_perm _).symm
    · refine .moved (.same _ _) ?_ hsizes (List.reverse_perm _).symm
      exact .cons (.same _ _) (.same _ _) (.cons (.same _ _) (.same _ _) (.nil _))
    · unfold DistinctKeys Expr.chars
      decide
  exact ⟨h, render_rearranged h⟩

end Provision.Go
