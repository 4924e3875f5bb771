import Provision.Proofs.Scope.Idempotence

/-!
# Expanded strings

What a string finally stands for is a sequence of characters and reads of outputs.
A format expands to what its template says, and a collected string says the same as
the string that it was collected from, in any scope with the same aliases.
-/

set_option autoImplicit false

namespace Provision

open Outcome Placeholder

inductive Part where
  | char (c : Char)
  | argument (a : Argument)

/-- What a string finally consists of: characters, and reads of outputs. -/
inductive Piece where
  | char (c : Char)
  | output (o : Output)
  deriving DecidableEq

def Argument.pieces? : Argument → Option (List Piece)
  | .value v => (v.text "").toOption.map fun s => s.toList.map .char
  | .output o => some [.output o]

def splice? : List Part → Option (List Piece)
  | [] => some []
  | .char c :: rest => (splice? rest).map (.char c :: ·)
  | .argument a :: rest => do
    let first ← a.pieces?
    let more ← splice? rest
    return first ++ more

/-- Reads a format: `%%` is a percent sign, `%v` takes the next argument. There is no
other verb, and no argument is left over. -/
def expandFormat? : List Char → List Argument → Option (List Part)
  | [], [] => some []
  | [], _ :: _ => none
  | '%' :: '%' :: rest, args => (expandFormat? rest args).map (.char '%' :: ·)
  | '%' :: 'v' :: rest, a :: args => (expandFormat? rest args).map (.argument a :: ·)
  | '%' :: _, _ => none
  | c :: rest, args => (expandFormat? rest args).map (.char c :: ·)

namespace Interpolation

def parts? : Interpolation → Option (List Part)
  | .literal s => some (s.toList.map .char)
  | .value v => some [.argument (.value v)]
  | .output o => some [.argument (.output o)]
  | .format text args => expandFormat? text.toList args

def pieces? (i : Interpolation) : Option (List Piece) := i.parts?.bind splice?

end Interpolation

theorem splice?_chars (cs : List Char) (ps : List Part) :
    splice? (cs.map .char ++ ps) = (splice? ps).map (cs.map .char ++ ·) := by
  induction cs with
  | nil => simp
  | cons c cs ih =>
    rw [List.map_cons, List.cons_append, splice?, ih]
    simp [Function.comp_def]

theorem expandFormat?_char {c : Char} (hc : c ≠ '%') (rest : List Char) (args : List Argument) :
    expandFormat? (c :: rest) args = (expandFormat? rest args).map (.char c :: ·) := by
  rw [expandFormat?]
  all_goals simp [hc]

theorem expandFormat?_doublePercents (cs rest : List Char) (args : List Argument) :
    expandFormat? (Scope.doublePercents cs ++ rest) args =
      (expandFormat? rest args).map (cs.map .char ++ ·) := by
  induction cs with
  | nil => simp [Scope.doublePercents]
  | cons c cs ih =>
    by_cases hc : c = '%'
    · subst hc
      rw [Scope.doublePercents, if_pos rfl, List.cons_append, List.cons_append, expandFormat?, ih]
      simp [Function.comp_def]
    · rw [Scope.doublePercents, if_neg hc, List.cons_append, expandFormat?_char hc, ih]
      simp [Function.comp_def]

namespace Placeholder.Template

def parts (scope : Scope) : Template → Except Error (List Part)
  | [] => .ok []
  | .text s :: rest => (parts scope rest).map (s.toList.map .char ++ ·)
  | .escape :: rest => (parts scope rest).map (.char '$' :: ·)
  | .reference r :: rest => do
    let a ← scope.resolve r
    let ps ← parts scope rest
    return .argument a :: ps

theorem parts_consText {scope : Scope} {t : Template} {ps : List Part}
    (h : t.parts scope = .ok ps) (s : String) :
    (consText s t).parts scope = .ok (s.toList.map .char ++ ps) := by
  have hcons : parts scope (.text s :: t) = .ok (s.toList.map .char ++ ps) := by
    rw [parts, h]
    rfl
  cases t with
  | nil => exact hcons
  | cons segment t =>
    cases segment with
    | text x =>
      obtain ⟨qs, hq, rfl⟩ := map_eq_ok.mp h
      rw [consText, parts, hq]
      simp [Except.map]
    | escape => exact hcons
    | reference r => exact hcons

theorem parts_consEscaped {scope : Scope} {t : Template} {ps : List Part}
    (h : t.parts scope = .ok ps) (cs : List Char) :
    (consEscaped cs t).parts scope = .ok (cs.map .char ++ ps) := by
  induction cs with
  | nil => exact h
  | cons c cs ih =>
    by_cases hc : c = '$'
    · rw [consEscaped, if_pos hc, parts, ih, hc]
      rfl
    · rw [consEscaped, if_neg hc, parts_consText ih]
      simp

/-- Without references a template is its literal text. -/
theorem parts_of_references_eq_nil {t : Template} (h : t.references = []) (scope : Scope) :
    t.parts scope = .ok ((Scope.literalText t).toList.map .char) := by
  induction t with
  | nil => rfl
  | cons segment t ih =>
    cases segment with
    | text s =>
      rw [parts, ih h, Scope.literalText]
      simp [Except.map]
    | escape =>
      rw [parts, ih h, Scope.literalText]
      simp [Except.map]
    | reference r => cases h

/-- A format expands to the parts of its template. -/
theorem parts_of_mapM_resolve {scope : Scope} {t : Template} {args : List Argument}
    (h : t.references.mapM scope.resolve = .ok args) :
    ∃ ps, t.parts scope = .ok ps ∧ expandFormat? (Scope.formatText t).toList args = some ps := by
  induction t generalizing args with
  | nil =>
    cases h
    exact ⟨[], rfl, rfl⟩
  | cons segment t ih =>
    cases segment with
    | text s =>
      obtain ⟨ps, hp, hf⟩ := ih h
      refine ⟨s.toList.map .char ++ ps, ?_, ?_⟩
      · rw [parts, hp]
        rfl
      · rw [Scope.formatText, String.toList_append, String.toList_ofList,
          expandFormat?_doublePercents, hf]
        rfl
    | escape =>
      obtain ⟨ps, hp, hf⟩ := ih h
      refine ⟨.char '$' :: ps, ?_, ?_⟩
      · rw [parts, hp]
        rfl
      · have hchars : (Scope.formatText (.escape :: t)).toList =
            '$' :: (Scope.formatText t).toList := by
          rw [Scope.formatText, String.toList_append]
          rfl
        rw [hchars, expandFormat?_char (by decide), hf]
        rfl
    | reference r =>
      rw [references_reference, List.mapM_cons] at h
      obtain ⟨a, ha, h⟩ := bind_eq_ok.mp h
      obtain ⟨more, hmore, h⟩ := bind_eq_ok.mp h
      cases pure_eq_ok.mp h
      obtain ⟨ps, hp, hf⟩ := ih hmore
      refine ⟨.argument a :: ps, ?_, ?_⟩
      · rw [parts, ha, hp]
        rfl
      · have hchars : (Scope.formatText (.reference r :: t)).toList =
            '%' :: 'v' :: (Scope.formatText t).toList := by
          rw [Scope.formatText, String.toList_append]
          rfl
        rw [hchars, expandFormat?, hf]
        rfl

def Says (scope : Scope) (t : Template) (pieces : List Piece) : Prop :=
  ∃ ps, t.parts scope = .ok ps ∧ splice? ps = some pieces

namespace Says

variable {scope : Scope} {t : Template} {pieces : List Piece}

theorem text (h : t.Says scope pieces) (s : String) :
    Says scope (.text s :: t) (s.toList.map .char ++ pieces) := by
  obtain ⟨ps, hp, hs⟩ := h
  refine ⟨s.toList.map .char ++ ps, ?_, ?_⟩
  · rw [parts, hp]
    rfl
  · rw [splice?_chars, hs]
    rfl

theorem consText (h : t.Says scope pieces) (s : String) :
    (consText s t).Says scope (s.toList.map .char ++ pieces) := by
  obtain ⟨ps, hp, hs⟩ := h
  refine ⟨_, parts_consText hp s, ?_⟩
  rw [splice?_chars, hs]
  rfl

theorem escape (h : t.Says scope pieces) : Says scope (.escape :: t) (.char '$' :: pieces) := by
  obtain ⟨ps, hp, hs⟩ := h
  refine ⟨.char '$' :: ps, ?_, ?_⟩
  · rw [parts, hp]
    rfl
  · rw [splice?, hs]
    rfl

theorem consEscaped (h : t.Says scope pieces) (cs : List Char) :
    (consEscaped cs t).Says scope (cs.map .char ++ pieces) := by
  obtain ⟨ps, hp, hs⟩ := h
  refine ⟨_, parts_consEscaped hp cs, ?_⟩
  rw [splice?_chars, hs]
  rfl

theorem reference (h : t.Says scope pieces) {r : Reference} {a : Argument} {first : List Piece}
    (hr : scope.resolve r = .ok a) (ha : a.pieces? = some first) :
    Says scope (.reference r :: t) (first ++ pieces) := by
  obtain ⟨ps, hp, hs⟩ := h
  refine ⟨.argument a :: ps, ?_, ?_⟩
  · rw [parts, hr, hp]
    rfl
  · rw [splice?, ha, hs]
    rfl

end Says

/-- Without references a template says the same in every scope. -/
theorem says_of_references_eq_nil {t : Template} (h : t.references = []) (scope : Scope) :
    t.Says scope ((Scope.literalText t).toList.map .char) := by
  refine ⟨_, parts_of_references_eq_nil h scope, ?_⟩
  have hchars := splice?_chars (Scope.literalText t).toList []
  rwa [splice?, List.append_nil, Option.map_some, List.append_nil] at hchars

end Placeholder.Template

namespace Scope

open Template

/-- An interpolated string stands for what its template says. -/
theorem interpolate_parts {scope : Scope} {s : String} {i : Interpolation}
    (h : scope.interpolate s = .ok i) :
    ∃ t ps, Template.parse s = .ok t ∧ t.parts scope = .ok ps ∧ i.parts? = some ps := by
  obtain ⟨t, ht, h⟩ := bind_eq_ok.mp h
  split at h
  · next hnone =>
    cases pure_eq_ok.mp h
    exact ⟨t, _, ht, parts_of_references_eq_nil (List.isEmpty_iff.mp hnone) scope, rfl⟩
  · split at h
    · next r hsingle =>
      obtain ⟨a, ha, h⟩ := bind_eq_ok.mp h
      have hparts : t.parts scope = .ok [.argument a] := by
        rw [eq_of_single? hsingle, Template.parts, ha]
        rfl
      refine ⟨t, [.argument a], ht, hparts, ?_⟩
      cases a with
      | value v =>
        cases pure_eq_ok.mp h
        rfl
      | output o =>
        cases pure_eq_ok.mp h
        rfl
    · obtain ⟨args, hargs, h⟩ := bind_eq_ok.mp h
      cases pure_eq_ok.mp h
      obtain ⟨ps, hp, hf⟩ := parts_of_mapM_resolve hargs
      exact ⟨t, ps, ht, hp, hf⟩

/-- Metadata is spliced as the text that a collection puts in. -/
theorem pieces?_value {v : Value} {raw s : String} (h : v.text raw = .ok s) :
    (Argument.value v).pieces? = some (s.toList.map .char) := by
  have htext : v.text "" = .ok s := by
    cases v with
    | string x => exact h
    | _ =>
      simp only [Value.text, Value.jsonText] at h ⊢
      split at h
      · exact h
      · cases h
  rw [Argument.pieces?, htext]
  rfl

/-- A settled template says the same as the template that it comes from. -/
theorem Settles.says {scope other : Scope} {t u : Template} {found : Found}
    (h : scope.Settles t u found) (ha : other.aliases = scope.aliases) :
    ∃ pieces, t.Says scope pieces ∧ u.Says other pieces := by
  induction h with
  | nil => exact ⟨[], ⟨[], rfl, rfl⟩, ⟨[], rfl, rfl⟩⟩
  | @text s t u found _ ih =>
    obtain ⟨pieces, ht, hu⟩ := ih
    exact ⟨_, ht.text s, hu.consText s⟩
  | escape _ ih =>
    obtain ⟨pieces, ht, hu⟩ := ih
    exact ⟨_, ht.escape, hu.escape⟩
  | @metadata r keys v s t u found htarget hv hs _ ih =>
    obtain ⟨pieces, ht, hu⟩ := ih
    exact ⟨_, ht.reference (resolve_metadata htarget hv) (pieces?_value hs),
      hu.consEscaped s.toList⟩
  | @resource r name node fields t u found htarget hn _ ih =>
    obtain ⟨pieces, ht, hu⟩ := ih
    have hother : other.aliases.find? name = some node := by rw [ha, hn]
    exact ⟨_, ht.reference (resolve_resource htarget hn) rfl,
      hu.reference (resolve_resource htarget hother) rfl⟩

theorem collectText_metadata {scope : Scope} {s : String} {v : Value} {found : Found}
    {r : Reference} {keys : List String} (h : scope.collectText s = .ok (v, found))
    (hs : Template.parse s = .ok [.reference r]) (hr : r.target = .metadata keys) :
    ∃ w, scope.metadataValue r.raw keys = .ok w ∧ v = escapeTree w := by
  rcases collectText_cases h with ⟨hu, -, -⟩ | ⟨t, ht, h⟩
  · obtain ⟨t, ht, hrefs⟩ := Template.exists_parse_of_isUnmarked hu
    cases hs.symm.trans ht
    cases hrefs
  · cases hs.symm.trans ht
    simp only [collectTemplate, Template.single?, hr] at h
    obtain ⟨w, hw, h⟩ := bind_eq_ok.mp h
    cases pure_eq_ok.mp h
    exact ⟨w, hw, rfl⟩

/-- A string that is not one reference to metadata is collected to a string that
says the same. -/
theorem collectText_says {scope other : Scope} {s : String} {v : Value} {found : Found}
    (h : scope.collectText s = .ok (v, found)) (ha : other.aliases = scope.aliases)
    (hs : ∀ r keys, Template.parse s = .ok [.reference r] → r.target ≠ .metadata keys) :
    ∃ text t u pieces, v = .string text ∧ Template.parse s = .ok t ∧ t.Says scope pieces ∧
      Template.parse text = .ok u ∧ u.Says other pieces := by
  rcases collectText_settles h with ⟨hu, rfl, -⟩ | ⟨r, keys, w, hp, hr, -⟩ |
    ⟨t, u, text, ht, hu, rfl, -, hp⟩
  · obtain ⟨t, ht, hrefs⟩ := Template.exists_parse_of_isUnmarked hu
    exact ⟨s, t, t, _, rfl, ht, says_of_references_eq_nil hrefs scope, ht,
      says_of_references_eq_nil hrefs other⟩
  · exact absurd hr (hs r keys hp)
  · obtain ⟨pieces, hsays, hagain⟩ := hu.says ha
    exact ⟨text, t, u, pieces, rfl, ht, hsays, hp, hagain⟩

/-- An interpolated string stands for what its template says. -/
theorem interpolate_pieces? {scope : Scope} {s : String} {t : Template} {pieces : List Piece}
    (hs : scope.Resolves s) (ht : Template.parse s = .ok t) (h : t.Says scope pieces) :
    ∃ i, scope.interpolate s = .ok i ∧ i.pieces? = some pieces := by
  obtain ⟨i, hi⟩ := hs.interpolate
  obtain ⟨t', ps, ht', hp, hparts⟩ := interpolate_parts hi
  cases ht.symm.trans ht'
  obtain ⟨qs, hq, hpieces⟩ := h
  cases hp.symm.trans hq
  refine ⟨i, hi, ?_⟩
  rw [Interpolation.pieces?, hparts]
  exact hpieces

theorem literalText_consEscaped (s : String) : literalText (consEscaped s.toList []) = s := by
  have hrefs : (consEscaped s.toList []).references = [] := references_consEscaped _ _
  have hliteral := parts_of_references_eq_nil hrefs ⟨none, Table.empty⟩
  have hnil : Template.parts ⟨none, Table.empty⟩ [] = .ok [] := rfl
  rw [parts_consEscaped hnil, List.append_nil] at hliteral
  have hchars := List.map_injective_iff.mpr (fun _ _ h => Part.char.inj h)
    (Except.ok.inj hliteral)
  exact (String.toList_inj.mp hchars).symm

theorem interpolate_doubleDollars (scope : Scope) (s : String) :
    scope.interpolate (doubleDollars s) = .ok (.literal s) := by
  have hrefs : (consEscaped s.toList []).references = [] := references_consEscaped _ _
  refine bind_eq_ok.mpr ⟨_, parse_doubleDollars s, ?_⟩
  rw [hrefs, List.isEmpty_nil, if_pos rfl, literalText_consEscaped]
  rfl

theorem interpolate_metadata {scope : Scope} {s : String} {r : Reference} {keys : List String}
    {v : Value} (hs : Template.parse s = .ok [.reference r]) (hr : r.target = .metadata keys)
    (hv : scope.metadataValue r.raw keys = .ok v) : scope.interpolate s = .ok (.value v) := by
  refine bind_eq_ok.mpr ⟨_, hs, ?_⟩
  have hresolve := resolve_metadata hr hv
  simp [Template.references, Template.single?, hresolve, bind, Except.bind, pure, Except.pure]

/-- A string becomes a literal when it is a template without references. -/
theorem interpolate_eq_literal {scope : Scope} {s text : String} :
    scope.interpolate s = .ok (.literal text) ↔
      ∃ t, Template.parse s = .ok t ∧ t.references = [] ∧ literalText t = text := by
  constructor
  · intro h
    obtain ⟨t, ht, h⟩ := bind_eq_ok.mp h
    split at h
    · next hnone =>
      cases pure_eq_ok.mp h
      exact ⟨t, ht, List.isEmpty_iff.mp hnone, rfl⟩
    · split at h
      · obtain ⟨a, -, h⟩ := bind_eq_ok.mp h
        cases a <;> cases pure_eq_ok.mp h
      · obtain ⟨args, -, h⟩ := bind_eq_ok.mp h
        cases pure_eq_ok.mp h
  · rintro ⟨t, ht, hrefs, rfl⟩
    refine bind_eq_ok.mpr ⟨t, ht, ?_⟩
    rw [hrefs]
    rfl

/-- A string becomes a value when it is one reference to metadata. -/
theorem interpolate_eq_value {scope : Scope} {s : String} {v : Value} :
    scope.interpolate s = .ok (.value v) ↔
      ∃ r keys, Template.parse s = .ok [.reference r] ∧ r.target = .metadata keys ∧
        scope.metadataValue r.raw keys = .ok v := by
  constructor
  · intro h
    obtain ⟨t, ht, h⟩ := bind_eq_ok.mp h
    split at h
    · cases pure_eq_ok.mp h
    · split at h
      · next r hsingle =>
        cases eq_of_single? hsingle
        obtain ⟨a, ha, h⟩ := bind_eq_ok.mp h
        cases a with
        | output o => cases pure_eq_ok.mp h
        | value w =>
          cases pure_eq_ok.mp h
          unfold resolve at ha
          split at ha
          · next keys hkeys =>
            obtain ⟨x, hx, ha⟩ := bind_eq_ok.mp ha
            cases pure_eq_ok.mp ha
            exact ⟨r, keys, ht, hkeys, hx⟩
          · obtain ⟨node, -, ha⟩ := bind_eq_ok.mp ha
            cases pure_eq_ok.mp ha
      · obtain ⟨args, -, h⟩ := bind_eq_ok.mp h
        cases pure_eq_ok.mp h
  · rintro ⟨r, keys, hs, hr, hv⟩
    exact interpolate_metadata hs hr hv

end Scope

end Provision
