import Provision.Proofs.Frames
import Provision.Proofs.Placeholder.Canonical
import Provision.Proofs.Program.Keys

/-!
# Where a parameter stands in a program

A part of a parameter is translated by itself, and what it becomes stands where the part stood.
Whether the whole can be translated depends on a part only by whether the part can be. A string
becomes a literal of itself if nothing in it can be taken for an escape or a placeholder, and
otherwise only if it is a reference to metadata that happens to be the same string.
-/

set_option autoImplicit false

namespace Provision

open Outcome Placeholder Go

namespace Go

def entryAt? (key : String) : List (Expr × Expr) → Option Expr
  | [] => none
  | (.string k, e) :: rest => if k = key then some e else entryAt? key rest
  | _ :: rest => entryAt? key rest

def Expr.at? : List Step → Expr → Option Expr
  | [], e => some e
  | .key k :: steps, .keyed _ entries => (entryAt? k entries).bind (at? steps)
  | .index i :: steps, .list _ items => items[i]?.bind (at? steps)
  | _, _ => none

theorem entryAt?_append {key : String} {first last : List (Expr × Expr)} {e : Expr}
    {keys : List String} (hfirst : first.map Prod.fst = keys.map .string) (hkey : key ∉ keys) :
    entryAt? key (first ++ (.string key, e) :: last) = some e := by
  induction first generalizing keys with
  | nil => simp [entryAt?]
  | cons f rest ih =>
    obtain ⟨k, v⟩ := f
    cases keys with
    | nil => cases hfirst
    | cons l keys =>
      obtain ⟨rfl, hrest⟩ := List.cons.inj hfirst
      rw [List.mem_cons, not_or] at hkey
      rw [List.cons_append, entryAt?, if_neg (Ne.symm hkey.1), ih hrest hkey.2]

theorem Expr.at?_append (steps more : List Step) (e : Expr) :
    e.at? (steps ++ more) = (e.at? steps).bind (at? more) := by
  induction steps generalizing e with
  | nil => rfl
  | cons step rest ih =>
    have hbind : ∀ x : Option Expr,
        x.bind (at? (rest ++ more)) = (x.bind (at? rest)).bind (at? more) := by
      intro x
      cases x with
      | none => rfl
      | some y => exact ih y
    cases step with
    | key k => cases e with
      | keyed type entries => exact hbind _
      | _ => rfl
    | index i => cases e with
      | list type items => exact hbind _
      | _ => rfl

end Go

namespace Program

theorem expressionItems_traverses (scope : Scope) (path : String) :
    Traverses (expressionItems scope path) fun i v => expression scope (Json.indexPath path i) v :=
  ⟨fun _ => rfl, fun _ _ _ => rfl⟩

theorem expressionEntries_traverses (scope : Scope) (path : String) :
    TraversesEntries (expressionEntries scope path)
      (fun k v => expression scope (Json.keyPath path k) v) .string :=
  ⟨rfl, fun _ _ _ => rfl⟩

/-- A part of a parameter is translated in its place, and another part can take its place if it
can be translated there. -/
theorem expression_framed {scope : Scope} {frames : List (Frame Value)} {path : String}
    {v : Value} {e : Expr} (hunique : ∀ f ∈ frames, f.Unique)
    (h : expression scope path (Value.framed frames v) = .ok e) :
    ∃ x, expression scope (pathTo path (frames.map Frame.step)) v = .ok x ∧
      e.at? (frames.map Frame.step) = some x ∧
      ∀ u y, expression scope (pathTo path (frames.map Frame.step)) u = .ok y →
        ∃ e', expression scope path (Value.framed frames u) = .ok e' := by
  induction frames generalizing path e with
  | nil => exact ⟨e, h, rfl, fun u y hy => ⟨y, hy⟩⟩
  | cons f rest ih =>
    obtain ⟨hf, hrest⟩ := List.forall_mem_cons.mp hunique
    cases f with
    | item before after =>
      have ht := expressionItems_traverses scope path
      obtain ⟨es, hes, h⟩ := bind_eq_ok.mp h
      cases pure_eq_ok.mp h
      obtain ⟨first, b, last, hfirst, hb, hlast, rfl⟩ := ht.append_eq_ok.mp hes
      rw [Nat.zero_add] at hb hlast
      obtain ⟨x, hx, hat, hother⟩ := ih hrest hb
      refine ⟨x, hx, ?_, fun u y hy => ?_⟩
      · simp [Frame.step, Expr.at?, ← ht.length_eq hfirst, hat]
      · obtain ⟨e', he'⟩ := hother u y hy
        have hall := ht.append_eq_ok.mpr
          ⟨first, e', last, hfirst, by rwa [Nat.zero_add], by rwa [Nat.zero_add], rfl⟩
        exact ⟨_, bind_eq_ok.mpr ⟨_, hall, rfl⟩⟩
    | entry key before after =>
      have ht := expressionEntries_traverses scope path
      obtain ⟨es, hes, h⟩ := bind_eq_ok.mp h
      cases pure_eq_ok.mp h
      obtain ⟨first, b, last, hfirst, hb, hlast, rfl⟩ := ht.append_eq_ok.mp hes
      obtain ⟨x, hx, hat, hother⟩ := ih hrest hb
      have hkeys : first.map Prod.fst = (before.map Prod.fst).map .string := by
        rw [ht.keys_eq hfirst, List.map_map]
        rfl
      refine ⟨x, hx, ?_, fun u y hy => ?_⟩
      · simp [Frame.step, Expr.at?, entryAt?_append hkeys hf.1, hat]
      · obtain ⟨e', he'⟩ := hother u y hy
        have hall := ht.append_eq_ok.mpr ⟨first, e', last, hfirst, he', hlast, rfl⟩
        exact ⟨_, bind_eq_ok.mpr ⟨_, hall, rfl⟩⟩

end Program

/-! ## Strings that stand for themselves -/

namespace Placeholder

/-- Whether nothing in a string is an escape or opens a placeholder. -/
def Inert (s : String) : Prop := ¬ ['$', '$'] <:+: s.toList ∧ ¬ ['$', '{'] <:+: s.toList

theorem Inert.parse {s : String} (h : Inert s) :
    ∃ t, Template.parse s = .ok t ∧ t.references = [] ∧ Scope.literalText t = s := by
  by_cases hs : s = ""
  · subst hs
    exact ⟨[], parse_eq_ok_iff.mpr .nil, rfl, rfl⟩
  · refine ⟨[.text s], parse_eq_ok_iff.mpr ?_, rfl, by simp [Scope.literalText]⟩
    have hcanonical : Template.Canonical [.text s] :=
      Template.canonical_cons.mpr ⟨⟨hs, h⟩, by simp, by simp, .nil⟩
    simpa [Template.chars] using hcanonical.reads

/-- Each escape of a template makes its text shorter than what is written. -/
theorem length_literalText {t : Template} (h : t.references = []) :
    (Scope.literalText t).toList.length + t.count .escape = t.chars.length := by
  induction t with
  | nil => rfl
  | cons segment t ih =>
    cases segment with
    | text s =>
      have hrest := ih h
      simp only [Scope.literalText, Template.chars, String.toList_append, List.length_append,
        List.count_cons_of_ne (by simp : (Segment.text s) ≠ .escape)]
      omega
    | escape =>
      have hrest := ih h
      simp only [Scope.literalText, Template.chars, String.toList_append, List.length_append,
        List.count_cons_self, List.length_cons]
      have hdollar : "$".toList.length = 1 := rfl
      omega
    | reference r => cases h

/-- A string reads as itself only if it is inert. -/
theorem Inert.of_parse {s : String} {t : Template} (h : Template.parse s = .ok t)
    (hrefs : t.references = []) (htext : Scope.literalText t = s) : Inert s := by
  have hreads := parse_eq_ok_iff.mp h
  have hescapes : .escape ∉ t := by
    have hlength := length_literalText hrefs
    rw [htext, hreads.chars_eq] at hlength
    exact List.count_eq_zero.mp (by omega)
  have hchars := hreads.chars_eq
  -- With neither escapes nor references nothing but a single text is left.
  cases t with
  | nil =>
    unfold Inert
    rw [← hchars]
    simp [Template.chars]
  | cons segment t =>
    obtain ⟨hsegment, hnext, -⟩ := Template.canonical_cons.mp hreads.canonical
    cases segment with
    | escape => simp at hescapes
    | reference r => cases hrefs
    | text u =>
      cases t with
      | nil =>
        have hu : u = s := by
          rw [← htext]
          simp [Scope.literalText]
        exact hu ▸ hsegment.2
      | cons next t =>
        cases next with
        | text => exact (hnext _ rfl).elim
        | escape => simp at hescapes
        | reference r => cases hrefs

theorem infix_of_opens {cs : List Char} (h : opens cs = true) :
    ['$', '{'] <:+: cs := by
  fun_induction opens cs with
  | case1 => cases h
  | case2 rest => exact ⟨[], rest, rfl⟩
  | case3 c rest _ ih => exact (ih h).trans (List.suffix_cons c rest).isInfix

theorem Inert.collects {s : String} (h : Inert s) (scope : Scope) :
    scope.Collects s := by
  have hu : isUnmarked s = true := by
    cases ho : opens s.toList with
    | true => exact absurd (infix_of_opens ho) h.2
    | false => simp [isUnmarked, ho]
  exact ⟨_, if_pos hu⟩

end Placeholder

theorem Scope.interpolate_eq_self {scope : Scope} {s : String} :
    scope.interpolate s = .ok (.literal s) ↔ Inert s := by
  rw [interpolate_eq_literal]
  constructor
  · rintro ⟨t, ht, hrefs, htext⟩
    exact .of_parse ht hrefs htext
  · exact Inert.parse

namespace Program

theorem accessFields_ne_call {path : String} {base func : Expr} {args : List Expr}
    {fields : List String} (hb : ∀ f as, base ≠ .call f as) :
    accessFields path base fields ≠ .ok (.call func args) := by
  induction fields generalizing base with
  | nil =>
    intro h
    exact hb _ _ (Except.ok.inj h)
  | cons field rest ih =>
    intro h
    obtain ⟨name, -, h⟩ := bind_eq_ok.mp h
    exact ih (by simp) h

theorem literal_eq_string {path s : String} {v : Value} :
    literal path v = .ok (.call (pulumi "String") [.string s]) ↔ v = .string s := by
  constructor
  · intro h
    cases v with
    | string t =>
      cases h
      rfl
    | null => cases h
    | bool b => simp [literal, pulumi] at h
    | int i => simp [literal, pulumi] at h
    | float x =>
      obtain ⟨e, -, h⟩ := bind_eq_ok.mp h
      simp [pulumi, pure_eq_ok] at h
    | list items =>
      obtain ⟨e, -, h⟩ := bind_eq_ok.mp h
      cases pure_eq_ok.mp h
    | map entries =>
      obtain ⟨e, -, h⟩ := bind_eq_ok.mp h
      cases pure_eq_ok.mp h
  · rintro rfl
    rfl

/-- Which strings become literals of themselves. -/
theorem expression_eq_string {scope : Scope} {path s : String} :
    expression scope path (.string s) = .ok (.call (pulumi "String") [.string s]) ↔
      Inert s ∨ ∃ r keys, Template.parse s = .ok [.reference r] ∧ r.target = .metadata keys ∧
        scope.metadataValue r.raw keys = .ok (.string s) := by
  rw [← @Scope.interpolate_eq_self scope, ← Scope.interpolate_eq_value]
  constructor
  · intro h
    obtain ⟨i, hi, h⟩ := bind_eq_ok.mp h
    rw [Scope.locate_eq_ok] at hi
    cases i with
    | literal x =>
      cases h
      exact .inl hi
    | value v =>
      cases literal_eq_string.mp h
      exact .inr hi
    | output o => exact absurd h (accessFields_ne_call (by simp))
    | format text args =>
      obtain ⟨es, -, h⟩ := bind_eq_ok.mp h
      simp [pulumi, pure_eq_ok] at h
  · rintro (hi | hi)
    · exact bind_eq_ok.mpr ⟨_, Scope.locate_eq_ok.mpr hi, rfl⟩
    · exact bind_eq_ok.mpr ⟨_, Scope.locate_eq_ok.mpr hi, rfl⟩

end Program

end Provision
