import Provision.Proofs.Go.Identifiers
import Provision.Proofs.Go.Parts
import Provision.Proofs.Program.Emission

/-!
# The forms of parameters

A parameter is translated into one of a few forms of expression: plain values, reads
of outputs, calls of `pulumi`, arrays and maps. What the translation can bring into a
program is read off these forms: only the identifiers of nodes, no statement, and no
package but `pulumi`.
-/

set_option autoImplicit false

namespace Provision

open Outcome Placeholder Go

namespace Scope

def Knows (scope : Scope) (node : String) : Prop := ∃ key, scope.aliases.find? key = some node

theorem resolve_output {scope : Scope} {r : Reference} {o : Output}
    (h : scope.resolve r = .ok (.output o)) : scope.Knows o.node := by
  unfold resolve at h
  split at h
  · obtain ⟨v, _, h⟩ := bind_eq_ok.mp h
    cases pure_eq_ok.mp h
  · next name fields _ =>
    obtain ⟨node, hn, h⟩ := bind_eq_ok.mp h
    cases pure_eq_ok.mp h
    exact ⟨name, aliasNode_eq_ok.mp hn⟩

end Scope

namespace Program

inductive Form (scope : Scope) : Expr → Prop
  | nil : Form scope .nil
  | bool (b : Bool) : Form scope (.bool b)
  | int (i : Int64) : Form scope (.int i)
  | float (x : Double) : Form scope (.float x)
  | string (s : String) : Form scope (.string s)
  | output {node : String} (h : scope.Knows node) : Form scope (.ident node)
  | field {base : Expr} (name : String) (h : Form scope base) : Form scope (.selector base name)
  | call (name : String) {args : List Expr} (h : ∀ e ∈ args, Form scope e) :
      Form scope (.call (pulumi name) args)
  | array {items : List Expr} (h : ∀ e ∈ items, Form scope e) :
      Form scope (.list (pulumi "Array") items)
  | map {entries : List (Expr × Expr)} (hk : ∀ e ∈ entries, ∃ key, e.1 = .string key)
      (h : ∀ e ∈ entries, Form scope e.2) : Form scope (.keyed (pulumi "Map") entries)

variable {scope : Scope}

theorem float_form {path : String} {x : Double} {e : Expr} (h : float path x = .ok e) :
    Form scope e := by
  unfold float at h
  split at h
  · cases h
    exact .float x
  · cases h

theorem argument_form {path : String} {v : Value} {e : Expr} (h : argument path v = .ok e) :
    Form scope e := by
  have htext : ∀ {v : Value}, (do
      let text ← v.jsonText path
      return Expr.string text) = Except.ok e → Form scope e := by
    intro v h
    obtain ⟨text, _, h⟩ := bind_eq_ok.mp h
    cases pure_eq_ok.mp h
    exact .string text
  cases v with
  | null => cases h; exact .nil
  | bool b => cases h; exact .bool b
  | int i => cases h; exact .int i
  | float x => exact float_form h
  | string s => cases h; exact .string s
  | list items => exact htext h
  | map entries => exact htext h

theorem accessFields_form {path : String} {base e : Expr} {fields : List String}
    (hb : Form scope base) (h : accessFields path base fields = .ok e) : Form scope e := by
  induction fields generalizing base with
  | nil =>
    cases h
    exact hb
  | cons field rest ih =>
    obtain ⟨name, _, h⟩ := bind_eq_ok.mp h
    exact ih (hb.field name) h

theorem form_singleton (name : String) {e : Expr} (h : Form scope e) :
    Form scope (.call (pulumi name) [e]) :=
  .call name (by simpa using h)

mutual

theorem literal_form {path : String} {v : Value} {e : Expr} (h : literal path v = .ok e) :
    Form scope e := by
  match v with
  | .null => cases h; exact .nil
  | .bool b => cases h; exact form_singleton "Bool" (.bool b)
  | .int i => cases h; exact form_singleton "Int" (.int i)
  | .float x =>
    obtain ⟨f, hf, h⟩ := bind_eq_ok.mp h
    cases pure_eq_ok.mp h
    exact form_singleton "Float64" (float_form hf)
  | .string s => cases h; exact form_singleton "String" (.string s)
  | .list items =>
    obtain ⟨es, hes, h⟩ := bind_eq_ok.mp h
    cases pure_eq_ok.mp h
    exact .array (literalItems_form hes)
  | .map entries =>
    obtain ⟨es, hes, h⟩ := bind_eq_ok.mp h
    cases pure_eq_ok.mp h
    obtain ⟨hk, hv⟩ := literalEntries_form hes
    exact .map hk hv

theorem literalItems_form {path : String} {i : Nat} {vs : List Value} {es : List Expr}
    (h : literalItems path i vs = .ok es) : ∀ e ∈ es, Form scope e := by
  match vs with
  | [] =>
    cases h
    simp
  | v :: rest =>
    obtain ⟨e, he, h⟩ := bind_eq_ok.mp h
    obtain ⟨es, hes, h⟩ := bind_eq_ok.mp h
    cases pure_eq_ok.mp h
    exact List.forall_mem_cons.mpr ⟨literal_form he, literalItems_form hes⟩

theorem literalEntries_form {path : String} {vs : List (String × Value)}
    {es : List (Expr × Expr)} (h : literalEntries path vs = .ok es) :
    (∀ e ∈ es, ∃ key, e.1 = .string key) ∧ ∀ e ∈ es, Form scope e.2 := by
  match vs with
  | [] =>
    cases h
    simp
  | (k, v) :: rest =>
    obtain ⟨e, he, h⟩ := bind_eq_ok.mp h
    obtain ⟨es, hes, h⟩ := bind_eq_ok.mp h
    cases pure_eq_ok.mp h
    obtain ⟨hk, hv⟩ := literalEntries_form hes
    exact ⟨List.forall_mem_cons.mpr ⟨⟨k, rfl⟩, hk⟩,
      List.forall_mem_cons.mpr ⟨literal_form he, hv⟩⟩

end

theorem formatArgument_form {path : String} {r : Reference} {a : Argument} {e : Expr}
    (hr : scope.resolve r = .ok a) (h : formatArgument path a = .ok e) : Form scope e := by
  cases a with
  | value v => exact argument_form h
  | output o => exact accessFields_form (.output (Scope.resolve_output hr)) h

theorem interpolated_form {path s : String} {i : Interpolation} {e : Expr}
    (hi : scope.interpolate s = .ok i) (h : interpolated path i = .ok e) : Form scope e := by
  unfold Scope.interpolate at hi
  obtain ⟨t, _, hi⟩ := bind_eq_ok.mp hi
  split at hi
  · cases pure_eq_ok.mp hi
    cases h
    exact form_singleton "String" (.string _)
  · split at hi
    · obtain ⟨a, ha, hi⟩ := bind_eq_ok.mp hi
      cases a with
      | value v =>
        cases pure_eq_ok.mp hi
        exact literal_form h
      | output o =>
        cases pure_eq_ok.mp hi
        exact accessFields_form (.output (Scope.resolve_output ha)) h
    · obtain ⟨args, hargs, hi⟩ := bind_eq_ok.mp hi
      cases pure_eq_ok.mp hi
      obtain ⟨es, hes, h⟩ := bind_eq_ok.mp h
      cases pure_eq_ok.mp h
      refine .call "Sprintf" (List.forall_mem_cons.mpr ⟨.string _, ?_⟩)
      intro e he
      obtain ⟨a, ha, hform⟩ := mem_of_mapM_eq_ok hes e he
      obtain ⟨r, _, hr⟩ := mem_of_mapM_eq_ok hargs a ha
      exact formatArgument_form hr hform

mutual

/-- A parameter takes one of the forms. -/
theorem expression_form {path : String} {v : Value} {e : Expr}
    (h : expression scope path v = .ok e) : Form scope e := by
  match v with
  | .null => exact literal_form h
  | .bool _ => exact literal_form h
  | .int _ => exact literal_form h
  | .float _ => exact literal_form h
  | .string s =>
    obtain ⟨i, hi, h⟩ := bind_eq_ok.mp h
    exact interpolated_form (Scope.locate_eq_ok.mp hi) h
  | .list items =>
    obtain ⟨es, hes, h⟩ := bind_eq_ok.mp h
    cases pure_eq_ok.mp h
    exact .array (expressionItems_form hes)
  | .map entries =>
    obtain ⟨es, hes, h⟩ := bind_eq_ok.mp h
    cases pure_eq_ok.mp h
    obtain ⟨hk, hv⟩ := expressionEntries_form hes
    exact .map hk hv

theorem expressionItems_form {path : String} {i : Nat} {vs : List Value} {es : List Expr}
    (h : expressionItems scope path i vs = .ok es) : ∀ e ∈ es, Form scope e := by
  match vs with
  | [] =>
    cases h
    simp
  | v :: rest =>
    obtain ⟨e, he, h⟩ := bind_eq_ok.mp h
    obtain ⟨es, hes, h⟩ := bind_eq_ok.mp h
    cases pure_eq_ok.mp h
    exact List.forall_mem_cons.mpr ⟨expression_form he, expressionItems_form hes⟩

theorem expressionEntries_form {path : String} {vs : List (String × Value)}
    {es : List (Expr × Expr)} (h : expressionEntries scope path vs = .ok es) :
    (∀ e ∈ es, ∃ key, e.1 = .string key) ∧ ∀ e ∈ es, Form scope e.2 := by
  match vs with
  | [] =>
    cases h
    simp
  | (k, v) :: rest =>
    obtain ⟨e, he, h⟩ := bind_eq_ok.mp h
    obtain ⟨es, hes, h⟩ := bind_eq_ok.mp h
    cases pure_eq_ok.mp h
    obtain ⟨hk, hv⟩ := expressionEntries_form hes
    exact ⟨List.forall_mem_cons.mpr ⟨⟨k, rfl⟩, hk⟩,
      List.forall_mem_cons.mpr ⟨expression_form he, hv⟩⟩

end

/-- The fields of an argument struct have exported names, and values of the forms. -/
theorem argumentFields_form {seen : List String} {ps : List (String × Value)}
    {fields : List (Expr × Expr)} (h : argumentFields scope seen ps = .ok fields) :
    ∀ f ∈ fields, (∃ name, f.1 = .ident name ∧ Identifier.isExported name = true) ∧
      Form scope f.2 := by
  induction ps generalizing seen fields with
  | nil =>
    cases h
    simp
  | cons p rest ih =>
    obtain ⟨k, v⟩ := p
    obtain ⟨field, hfield, h⟩ := bind_eq_ok.mp h
    dsimp only at h
    split at h
    · cases h
    · obtain ⟨e, he, h⟩ := bind_eq_ok.mp h
      obtain ⟨es, hes, h⟩ := bind_eq_ok.mp h
      cases pure_eq_ok.mp h
      refine List.forall_mem_cons.mpr ⟨⟨⟨field, rfl, ?_⟩, expression_form he⟩, ih hes⟩
      unfold publicName at hfield
      dsimp only at hfield
      split at hfield
      · next hexported =>
        cases hfield
        exact hexported
      · cases hfield

/-- Whether a part is an expression, and of no package but `pulumi`. -/
def Plain (x : Go.Part) : Prop :=
  (∃ e, x = .expr e) ∧ ∀ path, x.path? = some path → path = pulumiPath

theorem plain_of_path?_eq_none {e : Expr} (h : (Go.Part.expr e).path? = none) :
    Plain (.expr e) := by
  refine ⟨⟨e, rfl⟩, ?_⟩
  intro path hpath
  cases h.symm.trans hpath

namespace Form

/-- The identifiers of a parameter are nodes that its scope has aliases for. -/
theorem knows {e : Expr} (h : Form scope e) : ∀ name ∈ e.identifiers, scope.Knows name := by
  have hexprs : ∀ {es : List Expr}, (∀ e ∈ es, ∀ name ∈ e.identifiers, scope.Knows name) →
      ∀ name ∈ identifiersOfExprs es, scope.Knows name := by
    intro es hes name hname
    obtain ⟨e, he, hname⟩ := mem_identifiersOfExprs.mp hname
    exact hes e he name hname
  induction h with
  | output h => simpa [Expr.identifiers] using h
  | field _ _ ih => exact ih
  | call _ _ ih => simpa [Expr.identifiers, pulumi] using hexprs ih
  | array _ ih => simpa [Expr.identifiers, pulumi] using hexprs ih
  | map hk _ ih =>
    intro name hname
    simp only [Expr.identifiers, pulumi, List.nil_append, mem_identifiersOfEntries] at hname
    obtain ⟨e, he, hkey | hvalue⟩ := hname
    · obtain ⟨key, hstring⟩ := hk e he
      simp [hstring, Expr.identifiers] at hkey
    · exact ih e he name hvalue
  | _ => simp [Expr.identifiers]

/-- Only expressions stand in a parameter, and `pulumi` is the only package there. -/
theorem plain {e : Expr} (h : Form scope e) : ∀ x ∈ e.parts, Plain x := by
  have hpulumi : ∀ name, ∀ x ∈ (pulumi name).parts, Plain x := by
    intro name x hx
    cases List.mem_singleton.mp hx
    exact ⟨⟨_, rfl⟩, fun path hpath => (Option.some.inj hpath).symm⟩
  have hexprs : ∀ {es : List Expr}, (∀ e ∈ es, ∀ x ∈ e.parts, Plain x) →
      ∀ x ∈ partsOfExprs es, Plain x := by
    intro es hes x hx
    obtain ⟨e, he, hx⟩ := mem_partsOfExprs.mp hx
    exact hes e he x hx
  induction h with
  | field _ _ ih =>
    rw [Expr.parts]
    exact List.forall_mem_cons.mpr ⟨plain_of_path?_eq_none rfl, ih⟩
  | call name _ ih =>
    rw [Expr.parts]
    exact List.forall_mem_cons.mpr
      ⟨plain_of_path?_eq_none rfl, List.forall_mem_append.mpr ⟨hpulumi name, hexprs ih⟩⟩
  | array _ ih =>
    rw [Expr.parts]
    exact List.forall_mem_cons.mpr
      ⟨plain_of_path?_eq_none rfl, List.forall_mem_append.mpr ⟨hpulumi "Array", hexprs ih⟩⟩
  | map hk _ ih =>
    rw [Expr.parts]
    refine List.forall_mem_cons.mpr
      ⟨plain_of_path?_eq_none rfl, List.forall_mem_append.mpr ⟨hpulumi "Map", fun x hx => ?_⟩⟩
    obtain ⟨e, he, hkey | hvalue⟩ := mem_partsOfEntries.mp hx
    · obtain ⟨key, hstring⟩ := hk e he
      rw [hstring, Expr.parts, List.mem_singleton] at hkey
      rw [hkey]
      exact plain_of_path?_eq_none rfl
    · exact ih e he x hvalue
  | _ =>
    intro x hx
    rw [Expr.parts, List.mem_singleton] at hx
    rw [hx]
    exact plain_of_path?_eq_none rfl

end Form

/-- The fields of an argument struct consist of plain parts. -/
theorem argumentFields_plain {seen : List String} {ps : List (String × Value)}
    {fields : List (Expr × Expr)} (h : argumentFields scope seen ps = .ok fields) :
    ∀ x ∈ partsOfEntries fields, Plain x := by
  intro x hx
  obtain ⟨f, hf, hkey | hvalue⟩ := mem_partsOfEntries.mp hx
  · obtain ⟨⟨name, hname, -⟩, -⟩ := argumentFields_form h f hf
    rw [hname, Expr.parts, List.mem_singleton] at hkey
    rw [hkey]
    exact plain_of_path?_eq_none rfl
  · exact (argumentFields_form h f hf).2.plain x hvalue

end Program

end Provision
