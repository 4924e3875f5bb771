import Provision.Program
import Provision.Proofs.Scope.Formats

/-!
# Texts that a program prints

A reference to metadata inside a template is printed when the program runs, if the
template stands in the parameters of a workload, and written into the text before, if it
stands in those of a resource. Without doubles the two texts are the same, for booleans,
integers, strings, lists and maps at any depth. A null is the one value on which they
part: as an argument it is printed as `<nil>`, and collected it is written as `null`.
-/

set_option autoImplicit false

namespace Provision

open Outcome Placeholder Go

namespace Value

mutual

def floatFree : Value → Bool
  | .float _ => false
  | .list items => floatFreeItems items
  | .map entries => floatFreeEntries entries
  | _ => true

def floatFreeItems : List Value → Bool
  | [] => true
  | v :: rest => v.floatFree && floatFreeItems rest

def floatFreeEntries : List (String × Value) → Bool
  | [] => true
  | (_, v) :: rest => v.floatFree && floatFreeEntries rest

end

mutual

/-- A value without doubles has a document. -/
theorem exists_json {v : Value} (h : v.floatFree = true) : ∃ j, v.json = .ok j := by
  match v with
  | .null => exact ⟨_, rfl⟩
  | .bool _ => exact ⟨_, rfl⟩
  | .int _ => exact ⟨_, rfl⟩
  | .float _ => cases h
  | .string _ => exact ⟨_, rfl⟩
  | .list items =>
    obtain ⟨js, hjs⟩ : ∃ js, jsonItems items = .ok js := exists_jsonItems h
    exact ⟨.array js, by rw [json, hjs]; rfl⟩
  | .map entries =>
    obtain ⟨js, hjs⟩ : ∃ js, jsonEntries entries = .ok js := exists_jsonEntries h
    exact ⟨.object js, by rw [json, hjs]; rfl⟩

theorem exists_jsonItems {vs : List Value} (h : floatFreeItems vs = true) :
    ∃ js, jsonItems vs = .ok js := by
  match vs with
  | [] => exact ⟨[], rfl⟩
  | v :: rest =>
    obtain ⟨hv, hrest⟩ := Bool.and_eq_true_iff.mp h
    obtain ⟨j, hj⟩ := exists_json hv
    obtain ⟨js, hjs⟩ := exists_jsonItems hrest
    exact ⟨j :: js, by rw [jsonItems, hj, hjs]; rfl⟩

theorem exists_jsonEntries {es : List (String × Value)} (h : floatFreeEntries es = true) :
    ∃ js, jsonEntries es = .ok js := by
  match es with
  | [] => exact ⟨[], rfl⟩
  | (k, v) :: rest =>
    obtain ⟨hv, hrest⟩ := Bool.and_eq_true_iff.mp h
    obtain ⟨j, hj⟩ := exists_json hv
    obtain ⟨js, hjs⟩ := exists_jsonEntries hrest
    exact ⟨(k, j) :: js, by rw [jsonEntries, hj, hjs]; rfl⟩

end

end Value

namespace Go

/-- What a program prints: characters, and outputs whose text is known only when the
program runs. -/
inductive Printed where
  | char (c : Char)
  | output (e : Expr)

/-- What the verb `%v` prints for an argument. How a double is printed is left open. -/
def Expr.printed? : Expr → Option (List Printed)
  | .nil => some ("<nil>".toList.map .char)
  | .bool b => some ((if b then "true" else "false").toList.map .char)
  | .int i => some ((toString i.toInt).toList.map .char)
  | .string s => some (s.toList.map .char)
  | .ident name => some [.output (.ident name)]
  | .selector base field => some [.output (.selector base field)]
  | _ => none

def sprintf? (format : String) (args : List Expr) : Option (List Printed) :=
  (Directive.read? format.toList).bind fun ds => Directive.fill? .char Expr.printed? ds args

end Go

theorem Directive.fill?_ofChar {α β : Type} (char : Char → β) (argument : α → Option (List β))
    (cs : List Char) (ds : List Directive) (args : List α) :
    fill? char argument (cs.map ofChar ++ ds) args =
      (fill? char argument ds args).map (cs.map char ++ ·) := by
  induction cs with
  | nil => simp
  | cons c cs ih =>
    by_cases hc : c = '%'
    · subst hc
      simp [ofChar, fill?, ih, Function.comp_def]
    · simp [ofChar, hc, fill?, ih, Function.comp_def]

namespace Program

def printedText (v : Value) (text : String) : String := if v.isNull then "<nil>" else text

/-- Where a value without doubles is an argument, its text is printed, unless it is null. -/
theorem printed?_argument {v : Value} (h : v.floatFree = true) (path raw : String) :
    ∃ e text, argument path v = .ok e ∧ v.text raw = .ok text ∧
      e.printed? = some ((printedText v text).toList.map .char) := by
  obtain ⟨j, hj⟩ := Value.exists_json h
  have hjson : ∀ place, v.jsonText place = .ok j.compact := by
    intro place
    rw [Value.jsonText, hj]
  cases v with
  | null => exact ⟨_, _, rfl, rfl, rfl⟩
  | bool b => cases b <;> exact ⟨_, _, rfl, rfl, rfl⟩
  | int i =>
    refine ⟨_, _, rfl, rfl, ?_⟩
    simp [Expr.printed?, printedText, Value.isNull, Json.compact, Json.compactChars,
      Json.scalarChars]
  | float x => cases h
  | string s => exact ⟨_, _, rfl, rfl, rfl⟩
  | list items =>
    refine ⟨.string j.compact, j.compact, ?_, hjson raw, rfl⟩
    rw [argument, hjson]
    · rfl
    all_goals simp
  | map entries =>
    refine ⟨.string j.compact, j.compact, ?_, hjson raw, rfl⟩
    rw [argument, hjson]
    · rfl
    all_goals simp

/-- The expression that reads an output stands for its text. -/
theorem printed?_access {path : String} {o : Output} {e : Expr} (h : access path o = .ok e) :
    e.printed? = some [.output e] := by
  have hfields : ∀ (fields : List String) (base : Expr), base.printed? = some [.output base] →
      accessFields path base fields = .ok e → e.printed? = some [.output e] := by
    intro fields
    induction fields with
    | nil =>
      intro base hbase h
      cases h
      exact hbase
    | cons field rest ih =>
      intro base _ h
      obtain ⟨name, -, h⟩ := bind_eq_ok.mp h
      exact ih _ rfl h
  exact hfields o.fields (.ident o.node) rfl h

structure Column where
  printed : List Printed
  collected : String

/-- The segments of a template and what they become. Metadata is written with its dollars
escaped; outputs are read by the expressions for them. -/
inductive Splices (scope : Scope) (path : String) : Segment → Column → Prop
  | text (s : String) : Splices scope path (.text s) ⟨s.toList.map .char, s⟩
  | escape : Splices scope path .escape ⟨[.char '$'], "$$"⟩
  | metadata {r : Reference} {keys : List String} {v : Value} {text : String}
      (ht : r.target = .metadata keys) (hv : scope.metadataValue r.raw keys = .ok v)
      (hs : v.text r.raw = .ok text) :
      Splices scope path (.reference r)
        ⟨(printedText v text).toList.map .char, doubleDollars text⟩
  | resource {r : Reference} {name node : String} {fields : List String} {e : Expr}
      (ht : r.target = .resource name fields) (hn : scope.aliases.find? name = some node)
      (he : access path ⟨node, fields⟩ = .ok e) :
      Splices scope path (.reference r) ⟨[.output e], r.written⟩

theorem exists_column {scope : Scope} {path : String} {r : Reference} {a : Argument} {e : Expr}
    (hr : scope.resolve r = .ok a) (he : formatArgument path a = .ok e)
    (hf : ∀ v, a = .value v → v.floatFree = true) :
    ∃ column found, Splices scope path (.reference r) column ∧
      e.printed? = some column.printed ∧
      scope.collectSegment (.reference r) = .ok (column.collected, found) := by
  unfold Scope.resolve at hr
  split at hr
  · next keys ht =>
    obtain ⟨v, hv, hr⟩ := bind_eq_ok.mp hr
    cases pure_eq_ok.mp hr
    obtain ⟨e', text, he', htext, hprinted⟩ := printed?_argument (hf v rfl) path r.raw
    cases he.symm.trans he'
    refine ⟨_, [], .metadata ht hv htext, hprinted, ?_⟩
    simp only [Scope.collectSegment, ht, hv, htext, bind, Except.bind]
    rfl
  · next name fields ht =>
    obtain ⟨node, hn, hr⟩ := bind_eq_ok.mp hr
    cases pure_eq_ok.mp hr
    refine ⟨_, [(name, node)], .resource ht (Scope.aliasNode_eq_ok.mp hn) he,
      printed?_access he, ?_⟩
    simp only [Scope.collectSegment, ht, hn, bind, Except.bind]
    rfl

/-- Filled with the arguments, the directives of a template print its columns one after
another, and a collection writes them one after another. -/
theorem exists_columns {scope : Scope} {path : String} {t : Template} {args : List Argument}
    {es : List Expr} (hr : t.references.mapM scope.resolve = .ok args)
    (he : args.mapM (formatArgument path) = .ok es)
    (hf : ∀ v, Argument.value v ∈ args → v.floatFree = true) :
    ∃ columns found, List.Forall₂ (Splices scope path) t columns ∧
      Directive.fill? .char Expr.printed? t.directives es =
        some (columns.flatMap Column.printed) ∧
      scope.collectSegments t = .ok (String.join (columns.map Column.collected), found) := by
  induction t generalizing args es with
  | nil =>
    cases hr
    cases he
    exact ⟨[], [], .nil, rfl, rfl⟩
  | cons segment t ih =>
    cases segment with
    | text s =>
      obtain ⟨columns, found, hcolumns, hfill, hcollect⟩ := ih hr he hf
      refine ⟨_ :: columns, found, .cons (.text s) hcolumns, ?_, ?_⟩
      · have hsplit : Template.directives (.text s :: t) =
            s.toList.map Directive.ofChar ++ Template.directives t := rfl
        rw [hsplit, Directive.fill?_ofChar, hfill]
        rfl
      · rw [List.map_cons, String.join_cons]
        have hsegment : scope.collectSegment (.text s) = .ok (s, []) := rfl
        exact Scope.collectSegments_cons_of hsegment hcollect
    | escape =>
      obtain ⟨columns, found, hcolumns, hfill, hcollect⟩ := ih hr he hf
      refine ⟨_ :: columns, found, .cons .escape hcolumns, ?_, ?_⟩
      · have hsplit : Template.directives (.escape :: t) =
            .plain '$' :: Template.directives t := rfl
        rw [hsplit, Directive.fill?, hfill]
        rfl
      · rw [List.map_cons, String.join_cons]
        exact Scope.collectSegments_escape hcollect
    | reference r =>
      rw [Template.references_reference, List.mapM_cons] at hr
      obtain ⟨a, ha, hr⟩ := bind_eq_ok.mp hr
      obtain ⟨rest, hrest, hr⟩ := bind_eq_ok.mp hr
      cases pure_eq_ok.mp hr
      rw [List.mapM_cons] at he
      obtain ⟨e, hfirst, he⟩ := bind_eq_ok.mp he
      obtain ⟨more, hmore, he⟩ := bind_eq_ok.mp he
      cases pure_eq_ok.mp he
      obtain ⟨column, part, hcolumn, hprinted, hsegment⟩ :=
        exists_column ha hfirst fun v hv => hf v (by simp [hv])
      obtain ⟨columns, found, hcolumns, hfill, hcollect⟩ :=
        ih hrest hmore fun v hv => hf v (List.mem_cons_of_mem _ hv)
      refine ⟨column :: columns, part ++ found, .cons hcolumn hcolumns, ?_, ?_⟩
      · have hsplit : Template.directives (.reference r :: t) =
            .verb :: Template.directives t := rfl
        rw [hsplit, Directive.fill?, hprinted, hfill]
        rfl
      · rw [List.map_cons, String.join_cons]
        exact Scope.collectSegments_cons_of hsegment hcollect

theorem collectText_template {scope : Scope} {s text : String} {t : Template}
    {found : Scope.Found} (ht : Template.parse s = .ok t) (hr : t.references ≠ [])
    (hs : t.single? = none) (h : scope.collectSegments t = .ok (text, found)) :
    scope.collectText s = .ok (.string text, found) := by
  unfold Scope.collectText
  split
  · next hplain =>
    obtain ⟨u, hu, hnone⟩ := Template.exists_parse_of_isUnmarked hplain
    cases ht.symm.trans hu
    exact absurd hnone hr
  · refine bind_eq_ok.mpr ⟨t, ht, ?_⟩
    rw [Scope.collectTemplate, hs, h]
    rfl

/-- Without doubles, only the fields of an output can keep an argument from being
written. -/
theorem formatArgument_error {path : String} {args : List Argument} {err : Error}
    (h : args.mapM (formatArgument path) = .error err)
    (hf : ∀ v, Argument.value v ∈ args → v.floatFree = true) :
    ∃ o, Argument.output o ∈ args ∧ access path o = .error err := by
  obtain ⟨a, ha, hfail⟩ := mapM_eq_error h
  cases a with
  | output o => exact ⟨o, ha, hfail⟩
  | value v =>
    obtain ⟨e, -, he, -⟩ := printed?_argument (hf v ha) path ""
    cases hfail.symm.trans he

/-- A template is printed segment by segment as it is collected segment by segment. Where
its references to metadata lead to values without doubles, the text that the call prints
for such a reference is the text that a collection writes for it, less the escaping of
dollars, except that a null is printed as `<nil>`. The call is emitted unless a field of
an output has no exported name. -/
theorem template_printed {scope : Scope} {s text : String} {args : List Argument}
    (h : scope.interpolate s = .ok (.format text args))
    (hf : ∀ v, Argument.value v ∈ args → v.floatFree = true) (path : String) :
    (∃ err o, expression scope path (.string s) = .error err ∧ Argument.output o ∈ args ∧
      access path o = .error err) ∨
    ∃ t es columns found, Template.parse s = .ok t ∧
      expression scope path (.string s) =
        .ok (.call (pulumi "Sprintf") (.string text :: es)) ∧
      List.Forall₂ (Splices scope path) t columns ∧
      sprintf? text es = some (columns.flatMap Column.printed) ∧
      scope.collectText s =
        .ok (.string (String.join (columns.map Column.collected)), found) := by
  obtain ⟨t, ht, hrefs, hsingle, rfl, hargs⟩ := Scope.interpolate_eq_format h
  have hemit : expression scope path (.string s) =
      args.mapM (formatArgument path) >>= fun es =>
        pure (.call (pulumi "Sprintf") (.string (Scope.formatText t) :: es)) := by
    rw [expression, h]
    rfl
  cases hes : args.mapM (formatArgument path) with
  | error err =>
    obtain ⟨o, ho, hfail⟩ := formatArgument_error hes hf
    exact .inl ⟨err, o, by rw [hemit, hes]; rfl, ho, hfail⟩
  | ok es =>
    obtain ⟨columns, found, hcolumns, hfill, hcollect⟩ := exists_columns hargs hes hf
    refine .inr ⟨t, es, columns, found, ht, by rw [hemit, hes]; rfl, hcolumns, ?_, ?_⟩
    · rw [sprintf?, Template.read?_formatText]
      exact hfill
    · exact collectText_template ht hrefs hsingle hcollect

def ledger : Scope :=
  ⟨some [("name", .string "a$b"), ("note", .null), ("sizes", .list [.int 1, .null])],
    Table.ofList [("db", "node")]⟩

theorem template_printed_ledger :
    ∃ t es columns found,
      Template.parse "$\x7bmetadata.name\x7d $\x7bmetadata.sizes\x7d$\x7bresources.db.host\x7d" =
        .ok t ∧
      expression ledger "line"
        (.string "$\x7bmetadata.name\x7d $\x7bmetadata.sizes\x7d$\x7bresources.db.host\x7d") =
        .ok (.call (pulumi "Sprintf") (.string "%v %v%v" :: es)) ∧
      List.Forall₂ (Splices ledger "line") t columns ∧
      sprintf? "%v %v%v" es = some (columns.flatMap Column.printed) ∧
      ledger.collectText
        "$\x7bmetadata.name\x7d $\x7bmetadata.sizes\x7d$\x7bresources.db.host\x7d" =
        .ok (.string (String.join (columns.map Column.collected)), found) := by
  have ht : Template.parse
      "$\x7bmetadata.name\x7d $\x7bmetadata.sizes\x7d$\x7bresources.db.host\x7d" =
      .ok [.reference ⟨"metadata.name", .metadata ["name"]⟩, .text " ",
        .reference ⟨"metadata.sizes", .metadata ["sizes"]⟩,
        .reference ⟨"resources.db.host", .resource "db" ["host"]⟩] := by
    decide +kernel
  have h : ledger.interpolate
      "$\x7bmetadata.name\x7d $\x7bmetadata.sizes\x7d$\x7bresources.db.host\x7d" =
      .ok (.format "%v %v%v" [.value (.string "a$b"), .value (.list [.int 1, .null]),
        .output ⟨"node", ["host"]⟩]) := by
    rw [Scope.interpolate, ht]
    rfl
  have hf : ∀ v, Argument.value v ∈ [Argument.value (.string "a$b"),
      .value (.list [.int 1, .null]), .output ⟨"node", ["host"]⟩] → v.floatFree = true := by
    intro v hv
    simp only [List.mem_cons, Argument.value.injEq, List.not_mem_nil, reduceCtorEq,
      or_false] at hv
    rcases hv with rfl | rfl <;> rfl
  refine (template_printed h hf "line").resolve_left ?_
  rintro ⟨err, o, -, ho, hfail⟩
  have hhost : (access "line" ⟨"node", ["host"]⟩).toOption.isSome = true := by decide +kernel
  simp only [List.mem_cons, Argument.output.injEq, List.not_mem_nil, reduceCtorEq, or_false,
    false_or] at ho
  rw [ho] at hfail
  rw [hfail] at hhost
  cases hhost

/-- A note that is null reads `<nil>` where it is printed, and `null` where it was
collected. -/
theorem null_printed_otherwise :
    expression ledger "line" (.string "x=$\x7bmetadata.note\x7d") =
        .ok (.call (pulumi "Sprintf") [.string "x=%v", .nil]) ∧
      sprintf? "x=%v" [.nil] = some ("x=<nil>".toList.map .char) ∧
      ledger.collectText "x=$\x7bmetadata.note\x7d" = .ok (.string "x=null", []) ∧
      "x=<nil>" ≠ "x=null" := by
  have ht : Template.parse "x=$\x7bmetadata.note\x7d" =
      .ok [.text "x=", .reference ⟨"metadata.note", .metadata ["note"]⟩] := by
    decide +kernel
  refine ⟨?_, rfl, ?_, by decide⟩
  · rw [expression, Scope.interpolate, ht]
    rfl
  · exact collectText_template ht (by simp [Template.references]) rfl rfl

end Program

end Provision
