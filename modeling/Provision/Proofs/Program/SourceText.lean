import Provision.Program
import Provision.Proofs.Double.Numerals
import Provision.Proofs.Go.Quoted
import Provision.Proofs.Value

/-!
# Texts of literals

The literal of a value is printed as a text that depends on the value, the indentation and
the name of the package alone. Its last character tells nulls, scalars and composites from
each other. A scalar is read on from there: a string back to the quote without a backslash
before it, any other scalar back to the parenthesis, which a numeral does not hold. So a
text that ends in the literal of a scalar ends in no other literal, whatever stands before
it and whatever the package is called.
-/

set_option autoImplicit false

namespace Provision

open Outcome Go

namespace Value

/-- Values that have a literal: doubles are finite, and maps ascend by key. -/
inductive Plain : Value → Prop
  | null : Plain .null
  | bool (b : Bool) : Plain (.bool b)
  | int (i : Int64) : Plain (.int i)
  | float (x : Double) (h : x.isFinite = true) : Plain (.float x)
  | string (s : String) : Plain (.string s)
  | list (items : List Value) (h : ∀ v ∈ items, Plain v) : Plain (.list items)
  | map (entries : List (String × Value)) (ha : Entries.Ascending entries)
      (h : ∀ e ∈ entries, Plain e.2) : Plain (.map entries)

end Value

namespace Program

def scalarText (package : List Char) (kind : String) (body : List Char) : List Char :=
  package ++ '.' :: kind.toList ++ '(' :: body ++ [')']

/-- The text between the brackets of a map, from the texts of its entries at the
indentation of the map and at that of a line of their own. -/
def keyedText (indent : Nat) (inline lines : List (List Char × List Char)) : List Char :=
  if inline.length < 2 then commaJoin (inline.map entryText)
  else '\n' :: (sortEntries lines).flatMap (entryLine (indent + 1)) ++ tabs indent

mutual

def sourceText (package : List Char) (indent : Nat) : Value → List Char
  | .null => "nil".toList
  | .bool b => scalarText package "Bool" (if b then "true" else "false").toList
  | .int i => scalarText package "Int" (toString i.toInt).toList
  | .float x => scalarText package "Float64" (DoubleNotation.source.write x).toList
  | .string s => scalarText package "String" (Quoted.chars s)
  | .list items =>
    package ++ '.' :: "Array".toList ++ '\x7b' :: commaJoin (sourceItems package indent items)
      ++ ['\x7d']
  | .map entries =>
    package ++ '.' :: "Map".toList ++ '\x7b' ::
      keyedText indent (sourceEntries package indent entries)
        (sourceEntries package (indent + 1) entries) ++ ['\x7d']

def sourceItems (package : List Char) (indent : Nat) : List Value → List (List Char)
  | [] => []
  | v :: rest => sourceText package indent v :: sourceItems package indent rest

def sourceEntries (package : List Char) (indent : Nat) :
    List (String × Value) → List (List Char × List Char)
  | [] => []
  | (k, v) :: rest =>
    (Quoted.chars k, sourceText package indent v) :: sourceEntries package indent rest

end

theorem sourceItems_eq (package : List Char) (indent : Nat) (items : List Value) :
    sourceItems package indent items = items.map (sourceText package indent) := by
  induction items with
  | nil => rfl
  | cons v rest ih => rw [sourceItems, ih, List.map_cons]

def entrySource (package : List Char) (indent : Nat) (e : String × Value) :
    List Char × List Char :=
  (Quoted.chars e.1, sourceText package indent e.2)

theorem sourceEntries_eq (package : List Char) (indent : Nat) (entries : List (String × Value)) :
    sourceEntries package indent entries = entries.map (entrySource package indent) := by
  induction entries with
  | nil => rfl
  | cons e rest ih =>
    obtain ⟨k, v⟩ := e
    rw [sourceEntries, ih, List.map_cons, entrySource]

mutual

/-- A value with a literal is plain, and the literal has the text of the value. -/
theorem literal_chars (names : Names) {path : String} {v : Value} {e : Expr}
    (h : literal path v = .ok e) (ho : v.Ordered) :
    v.Plain ∧ ∀ n, e.chars names n = sourceText (names.of pulumiPath).toList n v := by
  match v with
  | .null =>
    cases h
    exact ⟨.null, fun n => rfl⟩
  | .bool b =>
    cases h
    exact ⟨.bool b, fun n => rfl⟩
  | .int i =>
    cases h
    exact ⟨.int i, fun n => rfl⟩
  | .float x =>
    obtain ⟨f, hf, h⟩ := bind_eq_ok.mp h
    cases pure_eq_ok.mp h
    unfold float at hf
    split at hf
    · next hx =>
      cases hf
      exact ⟨.float x hx, fun n => rfl⟩
    · cases hf
  | .string s =>
    cases h
    exact ⟨.string s, fun n => rfl⟩
  | .list items =>
    obtain ⟨es, hes, h⟩ := bind_eq_ok.mp h
    cases pure_eq_ok.mp h
    obtain ⟨hplain, htexts⟩ := literalItems_chars names hes ho
    refine ⟨.list items hplain, fun n => ?_⟩
    unfold Expr.chars sourceText
    rw [htexts]
    rfl
  | .map entries =>
    obtain ⟨es, hes, h⟩ := bind_eq_ok.mp h
    cases pure_eq_ok.mp h
    obtain ⟨hplain, hlen, htexts⟩ := literalEntries_chars names hes ho.2
    refine ⟨.map entries ho.1 hplain, fun n => ?_⟩
    unfold Expr.chars sourceText keyedText
    rw [htexts, htexts, hlen, sourceEntries_eq, List.length_map]
    rfl

theorem literalItems_chars (names : Names) {path : String} {i : Nat} {vs : List Value}
    {es : List Expr} (h : literalItems path i vs = .ok es) (ho : Value.OrderedItems vs) :
    (∀ v ∈ vs, v.Plain) ∧
      ∀ n, exprsChars names n es = sourceItems (names.of pulumiPath).toList n vs := by
  match vs with
  | [] =>
    cases h
    exact ⟨by simp, fun n => rfl⟩
  | v :: rest =>
    obtain ⟨e, he, h⟩ := bind_eq_ok.mp h
    obtain ⟨es, hes, h⟩ := bind_eq_ok.mp h
    cases pure_eq_ok.mp h
    obtain ⟨hv, htext⟩ := literal_chars names he ho.1
    obtain ⟨hrest, htexts⟩ := literalItems_chars names hes ho.2
    refine ⟨List.forall_mem_cons.mpr ⟨hv, hrest⟩, fun n => ?_⟩
    rw [exprsChars, sourceItems, htext, htexts]

theorem literalEntries_chars (names : Names) {path : String} {vs : List (String × Value)}
    {es : List (Expr × Expr)} (h : literalEntries path vs = .ok es)
    (ho : Value.OrderedEntries vs) :
    (∀ e ∈ vs, e.2.Plain) ∧ es.length = vs.length ∧
      ∀ n, entriesChars names n es = sourceEntries (names.of pulumiPath).toList n vs := by
  match vs with
  | [] =>
    cases h
    exact ⟨by simp, rfl, fun n => rfl⟩
  | (k, v) :: rest =>
    obtain ⟨e, he, h⟩ := bind_eq_ok.mp h
    obtain ⟨es, hes, h⟩ := bind_eq_ok.mp h
    cases pure_eq_ok.mp h
    obtain ⟨hv, htext⟩ := literal_chars names he ho.1
    obtain ⟨hrest, hlen, htexts⟩ := literalEntries_chars names hes ho.2
    refine ⟨List.forall_mem_cons.mpr ⟨hv, hrest⟩, congrArg (· + 1) hlen, fun n => ?_⟩
    rw [entriesChars, sourceEntries, htext, htexts]
    rfl

end

/-! ## Last characters -/

def mark : Value → Char
  | .null => 'l'
  | .list _ => '\x7d'
  | .map _ => '\x7d'
  | _ => ')'

theorem getLast?_scalarText (package : List Char) (kind : String) (body : List Char) :
    (scalarText package kind body).getLast? = some ')' := by
  rw [scalarText, List.getLast?_append]
  rfl

theorem getLast?_sourceText (package : List Char) (n : Nat) (v : Value) :
    (sourceText package n v).getLast? = some (mark v) := by
  cases v with
  | null => rfl
  | list items =>
    unfold sourceText
    rw [List.getLast?_append]
    rfl
  | map entries =>
    unfold sourceText
    rw [List.getLast?_append]
    rfl
  | _ => exact getLast?_scalarText _ _ _

theorem last_eq {l l' xs ys : List Char} {c d : Char} (h : l ++ xs = l' ++ ys)
    (hx : xs.getLast? = some c) (hy : ys.getLast? = some d) : c = d := by
  have hlast := congrArg List.getLast? h
  rw [List.getLast?_append, List.getLast?_append, hx, hy] at hlast
  exact Option.some.inj hlast

theorem mark_eq {package l l' : List Char} {n : Nat} {v w : Value}
    (h : l ++ sourceText package n v = l' ++ sourceText package n w) : mark v = mark w :=
  last_eq h (getLast?_sourceText package n v) (getLast?_sourceText package n w)

/-- Where neither end holds a character, it stands before both in the same place. -/
theorem append_cons_inj {c : Char} {l l' xs ys : List Char} (hx : c ∉ xs) (hy : c ∉ ys)
    (h : l ++ c :: xs = l' ++ c :: ys) : l = l' ∧ xs = ys := by
  have hnil : ∀ {more us vs : List Char}, c ∉ us → c :: us = more ++ c :: vs → more = [] := by
    intro more us vs hu hmore
    cases more with
    | nil => rfl
    | cons d more =>
      obtain ⟨_, rfl⟩ := List.cons.inj hmore
      exact absurd (by simp) hu
  have hsame : l = l' := by
    rcases List.append_eq_append_iff.mp h with ⟨more, rfl, hmore⟩ | ⟨more, rfl, hmore⟩
    · rw [hnil hx hmore, List.append_nil]
    · rw [hnil hy hmore, List.append_nil]
  subst hsame
  exact ⟨rfl, (List.cons.inj (List.append_cancel_left h)).2⟩

/-- Whether a text that ends in the literal of a value ends in no other literal. -/
def Determined (package : List Char) (v : Value) : Prop :=
  ∀ (n : Nat) (w : Value) (l l' : List Char), w.Plain →
    l ++ sourceText package n v = l' ++ sourceText package n w → l = l' ∧ v = w

theorem determined_null (package : List Char) : Determined package .null := by
  intro n w l l' _ h
  have hmark := mark_eq h
  cases w with
  | null => exact ⟨List.append_cancel_right h, rfl⟩
  | _ => exact absurd hmark (by simp [mark])

/-! ## Scalars -/

theorem scalarText_closed {package l l' : List Char} {kind kind' : String}
    {body body' : List Char}
    (h : l ++ scalarText package kind body = l' ++ scalarText package kind' body') :
    l ++ (package ++ '.' :: kind.toList) ++ '(' :: body =
      l' ++ (package ++ '.' :: kind'.toList) ++ '(' :: body' := by
  have hclosed : l ++ (package ++ '.' :: kind.toList) ++ '(' :: body ++ [')'] =
      l' ++ (package ++ '.' :: kind'.toList) ++ '(' :: body' ++ [')'] := by
    simpa [scalarText] using h
  exact List.append_cancel_right hclosed

def bare? : Value → Option (String × List Char)
  | .bool b => some ("Bool", (if b then "true" else "false").toList)
  | .int i => some ("Int", (toString i.toInt).toList)
  | .float x => some ("Float64", (DoubleNotation.source.write x).toList)
  | _ => none

theorem sourceText_of_bare {package : List Char} {n : Nat} {v : Value} {kind : String}
    {body : List Char} (h : bare? v = some (kind, body)) :
    sourceText package n v = scalarText package kind body := by
  cases v with
  | bool b =>
    cases h
    rfl
  | int i =>
    cases h
    rfl
  | float x =>
    cases h
    rfl
  | _ => cases h

theorem bare_chars {v : Value} {kind : String} {body : List Char} (hv : v.Plain)
    (h : bare? v = some (kind, body)) : '(' ∉ body ∧ '"' ∉ body := by
  have hnumeral : ∀ {cs : List Char}, (∀ c ∈ cs, DoubleNotation.IsNumeral c) →
      '(' ∉ cs ∧ '"' ∉ cs :=
    fun hcs => ⟨fun hc => absurd (hcs _ hc) (by decide), fun hc => absurd (hcs _ hc) (by decide)⟩
  cases hv with
  | bool b =>
    cases h
    cases b <;> decide
  | int i =>
    cases h
    exact hnumeral (DoubleNotation.isNumeral_int _)
  | float x hx =>
    cases h
    exact hnumeral (DoubleNotation.isNumeral_write x hx)
  | _ => cases h

/-- The last letter of the name tells the kinds of scalars apart. -/
theorem bare_kind_eq {v w : Value} {kind kind' : String} {body body' : List Char}
    (h : bare? v = some (kind, body)) (h' : bare? w = some (kind', body'))
    (hlast : ('.' :: kind.toList).getLast? = ('.' :: kind'.toList).getLast?) : kind = kind' := by
  have hmem : ∀ {v : Value} {kind : String} {body : List Char}, bare? v = some (kind, body) →
      kind ∈ ["Bool", "Int", "Float64"] := by
    intro v kind body h
    cases v <;> cases h <;> decide
  have hall : ∀ k ∈ ["Bool", "Int", "Float64"], ∀ k' ∈ ["Bool", "Int", "Float64"],
      ('.' :: k.toList).getLast? = ('.' :: k'.toList).getLast? → k = k' := by decide
  exact hall kind (hmem h) kind' (hmem h') hlast

theorem eq_of_bare {v w : Value} {b : String × List Char} (hv : v.Plain) (hw : w.Plain)
    (h : bare? v = some b) (h' : bare? w = some b) : v = w := by
  cases hv with
  | bool x =>
    cases h
    cases hw with
    | bool y => cases x <;> cases y <;> first | rfl | exact absurd h' (by decide)
    | _ => simp [bare?] at h'
  | int i =>
    cases h
    cases hw with
    | int j =>
      have htext : (toString j.toInt).toList = (toString i.toInt).toList := by
        simpa [bare?] using h'
      rw [DoubleNotation.int_injective (String.toList_inj.mp htext)]
    | _ => simp [bare?] at h'
  | float x hx =>
    cases h
    cases hw with
    | float y hy =>
      have htext : (DoubleNotation.source.write y).toList =
          (DoubleNotation.source.write x).toList := by
        simpa [bare?] using h'
      rw [DoubleNotation.write_injective hy hx (String.toList_inj.mp htext)]
    | _ => simp [bare?] at h'
  | _ => cases h

/-- A string ends in a quote, which no other scalar holds. -/
theorem bare_ne_string {package l l' : List Char} {kind : String} {body : List Char} {s : String}
    (hq : '"' ∉ body) :
    l ++ scalarText package kind body ≠ l' ++ scalarText package "String" (Quoted.chars s) := by
  intro h
  have hclosing : ('(' :: Quoted.chars s).getLast? = some '"' := by
    rw [Quoted.chars, ← List.cons_append, List.getLast?_append]
    rfl
  obtain ⟨c, hc⟩ : ∃ c, ('(' :: body).getLast? = some c := ⟨_, List.getLast?_cons⟩
  obtain rfl := last_eq (scalarText_closed h) hc hclosing
  rcases List.mem_cons.mp (List.mem_of_getLast? hc) with hparen | hmem
  · exact absurd hparen (by decide)
  · exact hq hmem

theorem mark_of_bare {v : Value} {b : String × List Char} (h : bare? v = some b) :
    mark v = ')' := by
  cases v <;> first | rfl | cases h

theorem string_or_bare {v : Value} (h : mark v = ')') :
    (∃ s, v = .string s) ∨ ∃ kind body, bare? v = some (kind, body) := by
  cases v with
  | string s => exact .inl ⟨s, rfl⟩
  | null => exact absurd h (by decide)
  | list items => exact absurd h (by simp [mark])
  | map entries => exact absurd h (by simp [mark])
  | _ => exact .inr ⟨_, _, rfl⟩

theorem determined_bare {package : List Char} {v : Value} {kind : String} {body : List Char}
    (hv : v.Plain) (hb : bare? v = some (kind, body)) : Determined package v := by
  intro n w l l' hw h
  have hmark : mark w = ')' := by
    rw [← mark_eq h, mark_of_bare hb]
  obtain ⟨hparen, hquote⟩ := bare_chars hv hb
  rw [sourceText_of_bare hb] at h
  rcases string_or_bare hmark with ⟨s, rfl⟩ | ⟨kind', body', hbw⟩
  · exact absurd h (bare_ne_string hquote)
  · rw [sourceText_of_bare hbw] at h
    obtain ⟨hhead, rfl⟩ := append_cons_inj hparen (bare_chars hw hbw).1 (scalarText_closed h)
    have hkind : kind = kind' := by
      apply bare_kind_eq hb hbw
      have hlast := congrArg List.getLast? hhead
      rw [← List.append_assoc, ← List.append_assoc, List.getLast?_append_cons,
        List.getLast?_append_cons] at hlast
      exact hlast
    subst hkind
    exact ⟨List.append_cancel_right hhead, eq_of_bare hv hw hb hbw⟩

theorem determined_string (package : List Char) (s : String) :
    Determined package (.string s) := by
  intro n w l l' hw h
  rcases string_or_bare (mark_eq h).symm with ⟨t, rfl⟩ | ⟨kind, body, hbw⟩
  · have hparen : ∀ k : List Char,
        (k ++ (package ++ '.' :: "String".toList) ++ ['(']).getLast? ≠ some '\\' := by
      intro k
      rw [List.getLast?_append_cons]
      decide
    have hopen := scalarText_closed h
    rw [List.append_cons _ _ (Quoted.chars s), List.append_cons _ _ (Quoted.chars t)] at hopen
    obtain ⟨hhead, rfl⟩ := Quoted.append_chars_inj (hparen l) (hparen l') hopen
    exact ⟨List.append_cancel_right (List.append_cancel_right hhead), rfl⟩
  · rw [sourceText_of_bare hbw] at h
    exact absurd h.symm (bare_ne_string (bare_chars hw hbw).2)

end Program

end Provision
