import Provision.Proofs.Program.Emission
import Provision.Proofs.Scope.Expansion

/-!
# The two passes agree

A string of a resource is collected first and interpolated later, a string of a
workload is interpolated only, and both ways lead to the same code. A string that is
one reference to metadata becomes the same literal either way, from which its value
can be read back; any other string stands for the same characters and outputs.
-/

set_option autoImplicit false

namespace Provision

open Outcome Placeholder Go

namespace Program

def scalarOf? (name : String) : Expr → Option Value
  | .bool b => if name = "Bool" then some (.bool b) else none
  | .int i => if name = "Int" then some (.int i) else none
  | .float x => if name = "Float64" then some (.float x) else none
  | .string s => if name = "String" then some (.string s) else none
  | _ => none

mutual

/-- The value that an expression writes out, if it writes one. -/
def valueOf? : Expr → Option Value
  | .nil => some .null
  | .call (.qualified package name) [e] =>
    if package = pulumiPath then scalarOf? name e else none
  | .list (.qualified package name) items =>
    if package = pulumiPath ∧ name = "Array" then (itemsOf? items).map .list else none
  | .keyed (.qualified package name) entries =>
    if package = pulumiPath ∧ name = "Map" then (entriesOf? entries).map .map else none
  | _ => none

def itemsOf? : List Expr → Option (List Value)
  | [] => some []
  | e :: rest => do
    let v ← valueOf? e
    let vs ← itemsOf? rest
    return v :: vs

def entriesOf? : List (Expr × Expr) → Option (List (String × Value))
  | [] => some []
  | (.string k, e) :: rest => do
    let v ← valueOf? e
    let es ← entriesOf? rest
    return (k, v) :: es
  | _ :: _ => none

end

mutual

/-- A literal writes out its value: numbers keep their kind and strings stay as
they are. -/
theorem valueOf?_literal {path : String} {v : Value} {e : Expr} (h : literal path v = .ok e) :
    valueOf? e = some v := by
  match v with
  | .null => cases h; rfl
  | .bool _ => cases h; rfl
  | .int _ => cases h; rfl
  | .float x =>
    obtain ⟨f, hf, h⟩ := bind_eq_ok.mp h
    cases pure_eq_ok.mp h
    unfold float at hf
    split at hf
    · cases hf; rfl
    · cases hf
  | .string _ => cases h; rfl
  | .list items =>
    obtain ⟨es, hes, h⟩ := bind_eq_ok.mp h
    cases pure_eq_ok.mp h
    rw [pulumi, valueOf?, itemsOf?_literalItems hes]
    rfl
  | .map entries =>
    obtain ⟨es, hes, h⟩ := bind_eq_ok.mp h
    cases pure_eq_ok.mp h
    rw [pulumi, valueOf?, entriesOf?_literalEntries hes]
    rfl

theorem itemsOf?_literalItems {path : String} {i : Nat} {vs : List Value} {es : List Expr}
    (h : literalItems path i vs = .ok es) : itemsOf? es = some vs := by
  match vs with
  | [] => cases h; rfl
  | v :: rest =>
    obtain ⟨e, he, h⟩ := bind_eq_ok.mp h
    obtain ⟨es, hes, h⟩ := bind_eq_ok.mp h
    cases pure_eq_ok.mp h
    rw [itemsOf?, valueOf?_literal he, itemsOf?_literalItems hes]
    rfl

theorem entriesOf?_literalEntries {path : String} {vs : List (String × Value)}
    {es : List (Expr × Expr)} (h : literalEntries path vs = .ok es) :
    entriesOf? es = some vs := by
  match vs with
  | [] => cases h; rfl
  | (k, v) :: rest =>
    obtain ⟨e, he, h⟩ := bind_eq_ok.mp h
    obtain ⟨es, hes, h⟩ := bind_eq_ok.mp h
    cases pure_eq_ok.mp h
    rw [entriesOf?, valueOf?_literal he, entriesOf?_literalEntries hes]
    rfl

end

mutual

/-- An escaped value is written as the value itself, in every scope. -/
theorem expression_escapeTree (scope : Scope) (path : String) (v : Value) :
    expression scope path (Scope.escapeTree v) = literal path v := by
  match v with
  | .null => rfl
  | .bool _ => rfl
  | .int _ => rfl
  | .float _ => rfl
  | .string s =>
    rw [Scope.escapeTree, expression, Scope.interpolate_doubleDollars]
    rfl
  | .list items =>
    rw [Scope.escapeTree, expression, literal, expressionItems_escapeItems]
  | .map entries =>
    rw [Scope.escapeTree, expression, literal, expressionEntries_escapeEntries]

theorem expressionItems_escapeItems (scope : Scope) (path : String) (i : Nat)
    (vs : List Value) :
    expressionItems scope path i (Scope.escapeItems vs) = literalItems path i vs := by
  match vs with
  | [] => rfl
  | v :: rest =>
    rw [Scope.escapeItems, expressionItems, literalItems, expression_escapeTree,
      expressionItems_escapeItems]

theorem expressionEntries_escapeEntries (scope : Scope) (path : String)
    (es : List (String × Value)) :
    expressionEntries scope path (Scope.escapeEntries es) = literalEntries path es := by
  match es with
  | [] => rfl
  | (k, v) :: rest =>
    rw [Scope.escapeEntries, expressionEntries, literalEntries, expression_escapeTree,
      expressionEntries_escapeEntries]

end

theorem literal_cases (path : String) (v : Value) :
    (∃ e, literal path v = .ok e ∧ valueOf? e = some v) ∨
      ∃ place cause, literal path v = .error (.shape place cause) := by
  cases h : literal path v with
  | ok e => exact .inl ⟨e, rfl, valueOf?_literal h⟩
  | error err =>
    obtain ⟨place, cause, rfl⟩ := literal_error h
    exact .inr ⟨place, cause, rfl⟩

/-- Collecting a string first makes no difference to what it stands for. One
reference to metadata is the same literal of its value, or fails over the same
shape; any other string is made of the same characters and outputs. -/
theorem emit_after_collect {scope other : Scope} {s : String} {v : Value} {found : Scope.Found}
    (h : scope.collectText s = .ok (v, found)) (ha : other.aliases = scope.aliases) :
    (∀ r keys, Template.parse s = .ok [.reference r] → r.target = .metadata keys →
      ∃ w, scope.metadataValue r.raw keys = .ok w ∧ ∀ path,
        expression other path v = expression scope path (.string s) ∧
        ((∃ e, expression scope path (.string s) = .ok e ∧ valueOf? e = some w) ∨
          ∃ place cause, expression scope path (.string s) = .error (.shape place cause))) ∧
    ((∀ r keys, Template.parse s = .ok [.reference r] → r.target ≠ .metadata keys) →
      ∃ text i j pieces, v = .string text ∧ scope.interpolate s = .ok i ∧
        other.interpolate text = .ok j ∧ i.pieces? = some pieces ∧ j.pieces? = some pieces) := by
  constructor
  · intro r keys hs hr
    obtain ⟨w, hw, rfl⟩ := Scope.collectText_metadata h hs hr
    have hemit : ∀ path, expression scope path (.string s) = literal path w := by
      intro path
      rw [expression, Scope.interpolate_metadata hs hr hw]
      rfl
    refine ⟨w, hw, fun path => ⟨?_, ?_⟩⟩
    · rw [hemit, expression_escapeTree]
    · rw [hemit]
      exact literal_cases path w
  · intro hs
    obtain ⟨text, t, u, pieces, rfl, ht, hsays, hu, hagain⟩ := Scope.collectText_says h ha hs
    have hresolves : scope.Resolves s :=
      Scope.collectText_resolves h ⟨rfl, Scope.collectText_found h⟩
    have hsecond := Scope.locate_eq_ok.mp (Scope.collectText_again h ha "")
    have hresolves' : other.Resolves text :=
      Scope.collectText_resolves hsecond ⟨rfl, Scope.collectText_found hsecond⟩
    obtain ⟨i, hi, hpi⟩ := Scope.interpolate_pieces? hresolves ht hsays
    obtain ⟨j, hj, hpj⟩ := Scope.interpolate_pieces? hresolves' hu hagain
    exact ⟨text, i, j, pieces, rfl, hi, hj, hpi, hpj⟩

def tariff : Scope :=
  ⟨some [("rate", .string "5%$"), ("steps", .list [.int 1, .string "$\x7bx\x7d"])],
    Table.ofList [("db", "node")]⟩

theorem emit_after_collect_tariff :
    (∃ v found, tariff.collectText "%$\x7bmetadata.rate\x7d$\x7bresources.db.host\x7d$$" =
        .ok (v, found) ∧
      ∃ text i j pieces, v = .string text ∧
        tariff.interpolate "%$\x7bmetadata.rate\x7d$\x7bresources.db.host\x7d$$" = .ok i ∧
        Scope.interpolate ⟨none, tariff.aliases⟩ text = .ok j ∧
        i.pieces? = some pieces ∧ j.pieces? = some pieces) ∧
    ∃ v found, tariff.collectText "$\x7bmetadata.steps\x7d" = .ok (v, found) ∧
      ∃ w, tariff.metadataValue "metadata.steps" ["steps"] = .ok w ∧ ∀ path,
        expression ⟨none, tariff.aliases⟩ path v =
          expression tariff path (.string "$\x7bmetadata.steps\x7d") ∧
        ((∃ e, expression tariff path (.string "$\x7bmetadata.steps\x7d") = .ok e ∧
            valueOf? e = some w) ∨
          ∃ place cause, expression tariff path (.string "$\x7bmetadata.steps\x7d") =
            .error (.shape place cause)) := by
  have hcollects : ∀ s, (tariff.collectText s).toOption.isSome = true →
      ∃ v found, tariff.collectText s = .ok (v, found) := by
    intro s hs
    obtain ⟨result, h⟩ := exists_eq_ok hs
    exact ⟨result.1, result.2, h⟩
  have ha : (⟨none, tariff.aliases⟩ : Scope).aliases = tariff.aliases := rfl
  constructor
  · obtain ⟨v, found, h⟩ := hcollects "%$\x7bmetadata.rate\x7d$\x7bresources.db.host\x7d$$"
      (by decide +kernel)
    have hlength : (Template.parse "%$\x7bmetadata.rate\x7d$\x7bresources.db.host\x7d$$").map
        List.length = .ok 4 := by
      decide +kernel
    refine ⟨v, found, h, (emit_after_collect h ha).2 ?_⟩
    intro r keys hs
    rw [hs] at hlength
    cases hlength
  · obtain ⟨v, found, h⟩ := hcollects "$\x7bmetadata.steps\x7d" (by decide +kernel)
    exact ⟨v, found, h, (emit_after_collect h ha).1 ⟨"metadata.steps", .metadata ["steps"]⟩
      ["steps"] (by decide +kernel) rfl⟩

end Program

end Provision
