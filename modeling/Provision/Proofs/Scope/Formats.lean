import Provision.Proofs.Scope.Expansion

/-!
# Formats of templates

A format is read from left to right as a sequence of directives: characters other than
`%`, the directive `%%` for a percent sign, and the verb `%v` for the next argument. The
format of a template reads that way whatever its texts are, with one verb for each
reference, and with the arguments in place it is the template again.
-/

set_option autoImplicit false

namespace Provision

open Outcome Placeholder

inductive Directive where
  | plain (c : Char)
  | percent
  | verb
  deriving DecidableEq

namespace Directive

def chars : Directive → List Char
  | plain c => [c]
  | percent => ['%', '%']
  | verb => ['%', 'v']

/-- Reads a format from left to right. A percent sign starts `%%` or `%v`, or else the
format cannot be read. -/
def read? : List Char → Option (List Directive)
  | [] => some []
  | '%' :: '%' :: rest => (read? rest).map (percent :: ·)
  | '%' :: 'v' :: rest => (read? rest).map (verb :: ·)
  | '%' :: _ => none
  | c :: rest => (read? rest).map (plain c :: ·)

variable {α β : Type}

/-- Puts the arguments in place of the verbs, one after another, with none missing and
none left over. -/
def fill? (char : Char → β) (argument : α → Option (List β)) :
    List Directive → List α → Option (List β)
  | [], [] => some []
  | [], _ :: _ => none
  | plain c :: ds, args => (fill? char argument ds args).map (char c :: ·)
  | percent :: ds, args => (fill? char argument ds args).map (char '%' :: ·)
  | verb :: _, [] => none
  | verb :: ds, a :: args => do
    let first ← argument a
    let rest ← fill? char argument ds args
    return first ++ rest

theorem read?_plain {c : Char} (hc : c ≠ '%') (rest : List Char) :
    read? (c :: rest) = (read? rest).map (plain c :: ·) := by
  rw [read?]
  all_goals simp [hc]

/-- What is read of a format is the whole of it, and only directives begin with `%`. -/
theorem read?_eq_some {cs : List Char} {ds : List Directive} (h : read? cs = some ds) :
    ds.flatMap chars = cs ∧ plain '%' ∉ ds := by
  induction cs using read?.induct generalizing ds with
  | case1 =>
    cases h
    simp
  | case2 rest ih =>
    rw [read?] at h
    obtain ⟨es, hes, rfl⟩ := Option.map_eq_some_iff.mp h
    obtain ⟨hchars, hplain⟩ := ih hes
    simp [hchars, hplain, chars]
  | case3 rest ih =>
    rw [read?] at h
    obtain ⟨es, hes, rfl⟩ := Option.map_eq_some_iff.mp h
    obtain ⟨hchars, hplain⟩ := ih hes
    simp [hchars, hplain, chars]
  | case4 rest hpercent hverb =>
    rw [read?] at h
    · cases h
    · exact hpercent
    · exact hverb
  | case5 c rest _ _ hc ih =>
    have hne : c ≠ '%' := fun heq => hc heq
    rw [read?_plain hne] at h
    obtain ⟨es, hes, rfl⟩ := Option.map_eq_some_iff.mp h
    obtain ⟨hchars, hplain⟩ := ih hes
    simp [hchars, hplain, chars, hne.symm]

/-- There are as many verbs as arguments to fill them with. -/
theorem count_verb_of_fill? {char : Char → β} {argument : α → Option (List β)}
    {ds : List Directive} {args : List α} {bs : List β}
    (h : fill? char argument ds args = some bs) : ds.count verb = args.length := by
  induction ds generalizing args bs with
  | nil =>
    cases args with
    | nil => rfl
    | cons a args => cases h
  | cons d ds ih =>
    cases d with
    | plain c =>
      obtain ⟨rest, hrest, -⟩ := Option.map_eq_some_iff.mp h
      simpa using ih hrest
    | percent =>
      obtain ⟨rest, hrest, -⟩ := Option.map_eq_some_iff.mp h
      simpa using ih hrest
    | verb =>
      cases args with
      | nil => cases h
      | cons a args =>
        obtain ⟨first, -, h⟩ := Option.bind_eq_some_iff.mp h
        obtain ⟨rest, hrest, -⟩ := Option.bind_eq_some_iff.mp h
        simpa using ih hrest

def ofChar (c : Char) : Directive := if c = '%' then percent else plain c

theorem read?_doublePercents (cs rest : List Char) :
    read? (Scope.doublePercents cs ++ rest) = (read? rest).map (cs.map ofChar ++ ·) := by
  induction cs with
  | nil => simp [Scope.doublePercents]
  | cons c cs ih =>
    by_cases hc : c = '%'
    · subst hc
      rw [Scope.doublePercents, if_pos rfl, List.cons_append, List.cons_append, read?, ih]
      simp [Function.comp_def, ofChar]
    · rw [Scope.doublePercents, if_neg hc, List.cons_append, read?_plain hc, ih]
      simp [Function.comp_def, ofChar, hc]

/-- To expand a format is to read it and to fill it. -/
theorem expandFormat?_eq (cs : List Char) (args : List Argument) :
    expandFormat? cs args =
      (read? cs).bind fun ds => fill? Part.char (fun a => some [.argument a]) ds args := by
  induction cs using read?.induct generalizing args with
  | case1 => cases args <;> rfl
  | case2 rest ih =>
    rw [expandFormat?, read?, ih]
    cases read? rest <;> rfl
  | case3 rest ih =>
    cases args with
    | nil =>
      rw [expandFormat?, read?]
      · cases read? rest <;> rfl
      · simp
      · simp
    | cons a args =>
      rw [expandFormat?, read?, ih]
      cases read? rest with
      | none => rfl
      | some ds =>
        rw [Option.bind_some, Option.map_some, Option.bind_some, fill?]
        cases fill? Part.char (fun a => some [.argument a]) ds args <;> rfl
  | case4 rest hpercent hverb =>
    have hread : read? ('%' :: rest) = none := by
      rw [read?]
      · exact hpercent
      · exact hverb
    rw [hread, expandFormat?]
    · rfl
    · exact hpercent
    · intro more _ _ _ hrest
      exact hverb more hrest
  | case5 c rest _ _ hc ih =>
    have hne : c ≠ '%' := fun heq => hc heq
    rw [expandFormat?_char hne, read?_plain hne, ih]
    cases read? rest <;> rfl

end Directive

namespace Placeholder.Template

def directivesOf : Segment → List Directive
  | .text s => s.toList.map Directive.ofChar
  | .escape => [.plain '$']
  | .reference _ => [.verb]

def directives (t : Template) : List Directive := t.flatMap directivesOf

theorem read?_formatText (t : Template) :
    Directive.read? (Scope.formatText t).toList = some t.directives := by
  induction t with
  | nil => rfl
  | cons segment t ih =>
    cases segment with
    | text s =>
      rw [Scope.formatText, String.toList_append, String.toList_ofList,
        Directive.read?_doublePercents, ih]
      rfl
    | escape =>
      have hchars : (Scope.formatText (.escape :: t)).toList =
          '$' :: (Scope.formatText t).toList := by
        rw [Scope.formatText, String.toList_append]
        rfl
      rw [hchars, Directive.read?_plain (by decide), ih]
      rfl
    | reference r =>
      have hchars : (Scope.formatText (.reference r :: t)).toList =
          '%' :: 'v' :: (Scope.formatText t).toList := by
        rw [Scope.formatText, String.toList_append]
        rfl
      rw [hchars, Directive.read?, ih]
      rfl

end Placeholder.Template

namespace Scope

/-- A string becomes a format when it is a template with references that is not one
reference alone. -/
theorem interpolate_eq_format {scope : Scope} {s text : String} {args : List Argument}
    (h : scope.interpolate s = .ok (.format text args)) :
    ∃ t, Template.parse s = .ok t ∧ t.references ≠ [] ∧ t.single? = none ∧
      text = formatText t ∧ t.references.mapM scope.resolve = .ok args := by
  obtain ⟨t, ht, h⟩ := bind_eq_ok.mp h
  split at h
  · cases pure_eq_ok.mp h
  · next hsome =>
    have hrefs : t.references ≠ [] := fun heq => hsome (List.isEmpty_iff.mpr heq)
    split at h
    · next r hsingle =>
      obtain ⟨a, ha, h⟩ := bind_eq_ok.mp h
      cases a <;> cases pure_eq_ok.mp h
    · next hsingle =>
      obtain ⟨as, has, h⟩ := bind_eq_ok.mp h
      cases pure_eq_ok.mp h
      exact ⟨t, ht, hrefs, hsingle, rfl, has⟩

/-- The format of a template can be read: each `%` in it starts `%%` or `%v`. It has as
many verbs as arguments, which are the references of the template resolved one by one,
and with the arguments in place it is the template, segment by segment. -/
theorem format_reads_back {scope : Scope} {s text : String} {args : List Argument}
    (h : scope.interpolate s = .ok (.format text args)) :
    ∃ t ds parts, Template.parse s = .ok t ∧ Directive.read? text.toList = some ds ∧
      ds.flatMap Directive.chars = text.toList ∧ Directive.plain '%' ∉ ds ∧
      ds.count .verb = args.length ∧
      List.Forall₂ (fun r a => scope.resolve r = .ok a) t.references args ∧
      Directive.fill? Part.char (fun a => some [.argument a]) ds args = some parts ∧
      t.parts scope = .ok parts := by
  obtain ⟨t, ht, -, -, rfl, hargs⟩ := interpolate_eq_format h
  obtain ⟨parts, hparts, hexpand⟩ := Template.parts_of_mapM_resolve hargs
  have hread := Template.read?_formatText t
  rw [Directive.expandFormat?_eq, hread, Option.bind_some] at hexpand
  obtain ⟨hchars, hplain⟩ := Directive.read?_eq_some hread
  exact ⟨t, t.directives, parts, ht, hread, hchars, hplain,
    Directive.count_verb_of_fill? hexpand, forall₂_of_mapM_eq_ok hargs, hexpand, hparts⟩

/-- A discount in metadata that reads like a verb, and one alias. -/
def discount : Scope := ⟨some [("rate", .string "%v")], Table.ofList [("db", "node")]⟩

/-- Percent signs before a reference, before a `v` and inside a value make no verbs. -/
theorem format_reads_back_discount :
    ∃ text args, discount.interpolate "%$\x7bmetadata.rate\x7d%v$$$\x7bresources.db.host\x7d%%" =
        .ok (.format text args) ∧ text = "%%%v%%v$%v%%%%" ∧ args.length = 2 ∧
      ∃ t ds parts,
        Template.parse "%$\x7bmetadata.rate\x7d%v$$$\x7bresources.db.host\x7d%%" = .ok t ∧
        Directive.read? text.toList = some ds ∧ ds.flatMap Directive.chars = text.toList ∧
        Directive.plain '%' ∉ ds ∧ ds.count .verb = args.length ∧
        List.Forall₂ (fun r a => discount.resolve r = .ok a) t.references args ∧
        Directive.fill? Part.char (fun a => some [.argument a]) ds args = some parts ∧
        t.parts discount = .ok parts := by
  have ht : Template.parse "%$\x7bmetadata.rate\x7d%v$$$\x7bresources.db.host\x7d%%" =
      .ok [.text "%", .reference ⟨"metadata.rate", .metadata ["rate"]⟩, .text "%v", .escape,
        .reference ⟨"resources.db.host", .resource "db" ["host"]⟩, .text "%%"] := by
    decide +kernel
  have h : discount.interpolate "%$\x7bmetadata.rate\x7d%v$$$\x7bresources.db.host\x7d%%" =
      .ok (.format "%%%v%%v$%v%%%%" [.value (.string "%v"), .output ⟨"node", ["host"]⟩]) := by
    rw [interpolate, ht]
    rfl
  exact ⟨_, _, h, rfl, rfl, format_reads_back h⟩

end Scope

end Provision
