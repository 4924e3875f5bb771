import Provision.Proofs.Placeholder.Canonical
import Provision.Proofs.Scope.Expansion

/-!
# Strings without references

Collecting leaves a string in which no placeholder opens as it is, without a look at its
dollars. Reading the string and writing its segments one after another comes to the same:
a template without references is written as it was read. Such a string is a literal in
every scope, with one dollar for each two that escape each other.
-/

set_option autoImplicit false

namespace Provision

open Placeholder Outcome Template

namespace Placeholder

def unescapeChars : List Char → List Char
  | [] => []
  | '$' :: '$' :: rest => '$' :: unescapeChars rest
  | c :: rest => c :: unescapeChars rest

theorem unescapeChars_cons {c : Char} {cs : List Char} (h : c = '$' → cs.head? ≠ some '$') :
    unescapeChars (c :: cs) = c :: unescapeChars cs := by
  rw [unescapeChars]
  rintro rest rfl rfl
  exact h rfl rfl

theorem Template.literalText_consText (s : String) (t : Template) :
    Scope.literalText (consText s t) = s ++ Scope.literalText t := by
  cases t with
  | nil => rfl
  | cons segment t =>
    cases segment with
    | text x => exact String.append_assoc
    | escape => rfl
    | reference r => rfl

theorem Reads.toList_literalText {cs : List Char} {t : Template} (h : Reads cs t)
    (hrefs : t.references = []) : (Scope.literalText t).toList = unescapeChars cs := by
  induction h with
  | nil => rfl
  | escape _ ih => simp [Scope.literalText, unescapeChars, ih hrefs]
  | reference _ _ _ _ _ => cases hrefs
  | dollar hd _ ih =>
    rw [references_consText] at hrefs
    rw [literalText_consText, String.toList_append, ih hrefs, unescapeChars_cons]
    · rfl
    · intro _ hhead
      exact (hd '$' hhead).1 rfl
  | char hc _ ih =>
    rw [references_consText] at hrefs
    rw [literalText_consText, String.toList_append, ih hrefs, unescapeChars_cons]
    · simp
    · intro heq
      exact absurd heq hc

end Placeholder

namespace Scope

/-- A template without references is written as it stands, and names no alias. -/
theorem collectSegments_of_references_eq_nil {t : Template} (h : t.references = [])
    (scope : Scope) : scope.collectSegments t = .ok (String.ofList t.chars, []) := by
  induction t with
  | nil => rfl
  | cons segment t ih =>
    cases segment with
    | text s =>
      have hs : scope.collectSegment (.text s) = .ok (s, []) := rfl
      rw [collectSegments_cons_of hs (ih h), chars, String.ofList_append, String.ofList_toList]
      rfl
    | escape => rw [collectSegments_escape (ih h), chars, escape_append_ofList]
    | reference r => cases h

theorem collectTemplate_of_references_eq_nil {t : Template} (h : t.references = [])
    (scope : Scope) : scope.collectTemplate t = .ok (.string (String.ofList t.chars), []) := by
  have hsingle : t.single? = none := by
    rw [Option.eq_none_iff_forall_ne_some]
    intro r hr
    have hmem := mem_references_of_single? hr
    rw [h] at hmem
    cases hmem
  rw [collectTemplate, hsingle, collectSegments_of_references_eq_nil h]
  rfl

theorem parse_collect_of_references_eq_nil {s : String} {t : Template}
    (ht : Template.parse s = .ok t) (h : t.references = []) (scope : Scope) :
    (Template.parse s >>= scope.collectTemplate) = .ok (.string s, []) := by
  have hchars : t.chars = s.toList := (parse_eq_ok_iff.mp ht).chars_eq
  refine bind_eq_ok.mpr ⟨t, ht, ?_⟩
  rw [collectTemplate_of_references_eq_nil h, hchars, String.ofList_toList]

theorem interpolate_of_references_eq_nil {s : String} {t : Template}
    (ht : Template.parse s = .ok t) (h : t.references = []) (scope : Scope) :
    scope.interpolate s = .ok (.literal (String.ofList (unescapeChars s.toList))) := by
  refine interpolate_eq_literal.mpr ⟨t, ht, h, ?_⟩
  rw [← (parse_eq_ok_iff.mp ht).toList_literalText h, String.ofList_toList]

/-- A string in which no placeholder opens may be left as it is: reading it and writing
its segments gives it back in every scope, with no alias found. In a program it is a
literal. -/
theorem unmarked_left_alone {s : String} (h : isUnmarked s = true) (scope : Scope) :
    (Template.parse s >>= scope.collectTemplate) = .ok (.string s, []) ∧
      scope.collectText s = (Template.parse s >>= scope.collectTemplate) ∧
      scope.interpolate s = .ok (.literal (String.ofList (unescapeChars s.toList))) := by
  obtain ⟨t, ht, hrefs⟩ := exists_parse_of_isUnmarked h
  have hfull := parse_collect_of_references_eq_nil ht hrefs scope
  refine ⟨hfull, ?_, interpolate_of_references_eq_nil ht hrefs scope⟩
  rw [hfull, collectText, if_pos h]

theorem unmarked_left_alone_dollars :
    isUnmarked "$$a$ \x7bb\x7d$$$" = true ∧
      (Template.parse "$$a$ \x7bb\x7d$$$" >>= collectTemplate ⟨some [], Table.empty⟩) =
        .ok (.string "$$a$ \x7bb\x7d$$$", []) ∧
      interpolate ⟨some [], Table.empty⟩ "$$a$ \x7bb\x7d$$$" =
        .ok (.literal "$a$ \x7bb\x7d$$") := by
  have h : isUnmarked "$$a$ \x7bb\x7d$$$" = true := by decide
  have hliteral : String.ofList (unescapeChars "$$a$ \x7bb\x7d$$$".toList) =
      "$a$ \x7bb\x7d$$" := by decide
  obtain ⟨hfull, -, hmeaning⟩ := unmarked_left_alone h ⟨some [], Table.empty⟩
  exact ⟨h, hfull, hliteral ▸ hmeaning⟩

end Scope

end Provision
