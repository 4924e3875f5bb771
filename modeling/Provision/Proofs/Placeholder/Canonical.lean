import Mathlib.Data.List.Chain
import Provision.Proofs.Placeholder.Grammar

/-!
# Canonical templates

A canonical template is one that its own text cannot be cut into otherwise: texts
are whole, and no dollar at the end of one runs into what follows. The strings that
parse are the written forms of the canonical templates, and each of them parses as
the template that it was written from.
-/

set_option autoImplicit false

namespace Provision.Placeholder

open Template

/-- Whether a segment reads as itself when it stands alone. -/
def Segment.Canonical : Segment → Prop
  | .text s => s ≠ "" ∧ ¬ ['$', '$'] <:+: s.toList ∧ ¬ ['$', '{'] <:+: s.toList
  | .escape => True
  | .reference r => '}' ∉ r.raw.toList ∧ Refers (pathSegments r.raw) r.target

/-- Whether a segment may stand right before another. Texts do not meet, and a text
that ends in a dollar is the last segment. -/
def Segment.MayPrecede : Segment → Segment → Prop
  | .text _, .text _ => False
  | .text s, _ => s.toList.getLast? ≠ some '$'
  | _, _ => True

structure Template.Canonical (t : Template) : Prop where
  segments : ∀ segment ∈ t, segment.Canonical
  neighbours : t.IsChain Segment.MayPrecede

def Template.written (t : Template) : String := String.ofList t.chars

theorem Template.canonical_cons {segment : Segment} {t : Template} :
    Template.Canonical (segment :: t) ↔
      segment.Canonical ∧ (∀ next ∈ t.head?, segment.MayPrecede next) ∧ t.Canonical := by
  constructor
  · rintro ⟨hs, hn⟩
    obtain ⟨hfirst, hrest⟩ := List.forall_mem_cons.mp hs
    obtain ⟨hnext, htail⟩ := List.isChain_cons.mp hn
    exact ⟨hfirst, hnext, hrest, htail⟩
  · rintro ⟨hfirst, hnext, ht⟩
    exact ⟨List.forall_mem_cons.mpr ⟨hfirst, ht.segments⟩,
      List.isChain_cons.mpr ⟨hnext, ht.neighbours⟩⟩

theorem pair_infix_cons {a b c : Char} {cs : List Char} :
    [a, b] <:+: c :: cs ↔ a = c ∧ cs.head? = some b ∨ [a, b] <:+: cs := by
  rw [List.infix_cons_iff, List.cons_prefix_cons]
  cases cs with
  | nil => simp
  | cons d cs => simp [List.cons_prefix_cons, eq_comm]

theorem Reference.toList_written (r : Reference) :
    r.written.toList = '$' :: '{' :: (r.raw.toList ++ ['}']) := by
  simp [Reference.written]

/-- A template is written as it was read. -/
theorem Reads.chars_eq {cs : List Char} {t : Template} (h : Reads cs t) : t.chars = cs := by
  induction h with
  | nil => rfl
  | escape _ ih => simp [chars, ih]
  | reference _ hraw _ _ ih => simp [chars, Reference.toList_written, hraw, ih]
  | dollar _ _ ih => simp [chars_consText, ih]
  | char _ _ ih => simp [chars_consText, ih]

theorem Segment.canonical_singleton (c : Char) :
    (Segment.text (String.singleton c)).Canonical := by
  simp [Segment.Canonical, pair_infix_cons]

/-- A text grows at its front by a character that forms no pair with the next one. -/
theorem Segment.Canonical.cons {c : Char} {s : String} (h : (Segment.text s).Canonical)
    (hc : c = '$' → ∀ d ∈ s.toList.head?, d ≠ '$' ∧ d ≠ '{') :
    (Segment.text (String.singleton c ++ s)).Canonical := by
  obtain ⟨hne, hdollars, hopen⟩ := h
  have hpair : ∀ d, d = '$' ∨ d = '{' → ¬ ['$', d] <:+: s.toList →
      ¬ ['$', d] <:+: (String.singleton c ++ s).toList := by
    intro d hd hs
    rw [String.toList_append, String.toList_singleton, List.singleton_append, pair_infix_cons]
    rintro (⟨heq, hhead⟩ | hinfix)
    · obtain ⟨hne, hne'⟩ := hc heq.symm d hhead
      rcases hd with hd | hd
      · exact hne hd
      · exact hne' hd
    · exact hs hinfix
  refine ⟨?_, hpair '$' (.inl rfl) hdollars, hpair '{' (.inr rfl) hopen⟩
  simp

theorem Template.Canonical.consText {c : Char} {t : Template} (h : t.Canonical)
    (hc : c = '$' → ∀ d ∈ t.chars.head?, d ≠ '$' ∧ d ≠ '{') :
    (Template.consText (String.singleton c) t).Canonical := by
  cases t with
  | nil => exact canonical_cons.mpr ⟨Segment.canonical_singleton c, by simp, h⟩
  | cons segment rest =>
    obtain ⟨hsegment, hnext, hrest⟩ := canonical_cons.mp h
    cases segment with
    | text s =>
      obtain ⟨d, ds, hs⟩ : ∃ d ds, s.toList = d :: ds :=
        List.exists_cons_of_ne_nil fun hnil => hsegment.1 (String.toList_eq_nil_iff.mp hnil)
      refine canonical_cons.mpr ⟨hsegment.cons ?_, ?_, hrest⟩
      · simpa [chars, hs] using hc
      · intro next hmem
        have hbefore := hnext next hmem
        cases next with
        | text u => exact hbefore
        | escape => simpa [Segment.MayPrecede, hs] using hbefore
        | reference r => simpa [Segment.MayPrecede, hs] using hbefore
    | escape =>
      -- escapes and references open with a dollar, so the character is none
      have hne : c ≠ '$' := fun heq => (hc heq '$' (by simp [chars])).1 rfl
      exact canonical_cons.mpr
        ⟨Segment.canonical_singleton c, by simpa [Segment.MayPrecede] using hne, h⟩
    | reference r =>
      have hne : c ≠ '$' :=
        fun heq => (hc heq '$' (by simp [chars, Reference.toList_written])).1 rfl
      exact canonical_cons.mpr
        ⟨Segment.canonical_singleton c, by simpa [Segment.MayPrecede] using hne, h⟩

theorem Reads.canonical {cs : List Char} {t : Template} (h : Reads cs t) : t.Canonical := by
  induction h with
  | nil => exact ⟨by simp, .nil⟩
  | escape _ ih => exact canonical_cons.mpr ⟨trivial, fun _ _ => trivial, ih⟩
  | reference hb hraw hr _ ih =>
    refine canonical_cons.mpr ⟨⟨?_, hr⟩, fun _ _ => trivial, ih⟩
    simpa [hraw] using hb
  | dollar hd h ih => exact ih.consText (c := '$') fun _ => by rwa [h.chars_eq]
  | char hc _ ih => exact ih.consText fun heq => absurd heq hc

/-- A text without escapes and openings reads as itself. A dollar at its end reads as
itself if nothing follows. -/
theorem Reads.consText {cs : List Char} {t : Template} (h : Reads t.chars t) (hne : cs ≠ [])
    (hdollars : ¬ ['$', '$'] <:+: cs) (hopen : ¬ ['$', '{'] <:+: cs)
    (hend : t ≠ [] → cs.getLast? ≠ some '$') :
    Reads (cs ++ t.chars) (Template.consText (String.ofList cs) t) := by
  induction cs with
  | nil => exact absurd rfl hne
  | cons c cs ih =>
    rw [pair_infix_cons, not_or] at hdollars hopen
    cases cs with
    | nil =>
      by_cases hc : c = '$'
      · subst hc
        have hnil : t = [] := by
          by_contra hcons
          exact hend hcons rfl
        subst hnil
        exact .dollar (by simp [chars]) .nil
      · exact .char hc h
    | cons d cs =>
      have hrest := ih (by simp) hdollars.2 hopen.2 (by simpa using hend)
      rw [← singleton_append_ofList, ← consText_consText]
      by_cases hc : c = '$'
      · subst hc
        have hd : d ≠ '$' ∧ d ≠ '{' := by
          constructor
          · intro heq
            exact hdollars.1 ⟨rfl, by rw [heq]; rfl⟩
          · intro heq
            exact hopen.1 ⟨rfl, by rw [heq]; rfl⟩
        exact .dollar (by simpa using hd) hrest
      · exact .char hc hrest

theorem Template.Canonical.reads {t : Template} (h : t.Canonical) : Reads t.chars t := by
  induction t with
  | nil => exact .nil
  | cons segment t ih =>
    obtain ⟨hfirst, hnext, hrest⟩ := canonical_cons.mp h
    cases segment with
    | text s =>
      obtain ⟨hne, hdollars, hopen⟩ := hfirst
      have hapart : Template.consText s t = .text s :: t ∧
          (t ≠ [] → s.toList.getLast? ≠ some '$') := by
        cases t with
        | nil => simp [Template.consText]
        | cons next t =>
          have hbefore := hnext next rfl
          cases next with
          | text u => exact hbefore.elim
          | escape => exact ⟨rfl, fun _ => hbefore⟩
          | reference r => exact ⟨rfl, fun _ => hbefore⟩
      have hread := (ih hrest).consText (fun hnil => hne (String.toList_eq_nil_iff.mp hnil))
        hdollars hopen hapart.2
      rwa [String.ofList_toList, hapart.1] at hread
    | escape => exact .escape (ih hrest)
    | reference r =>
      obtain ⟨hb, hr⟩ := hfirst
      have hread := Reads.reference hb String.ofList_toList.symm hr (ih hrest)
      simpa [chars, Reference.toList_written] using hread

/-- Parsing accepts the texts of canonical templates and nothing else, and returns the
template that a text is written from. -/
theorem parse_eq_ok_iff_canonical {s : String} {t : Template} :
    Template.parse s = .ok t ↔ t.Canonical ∧ t.written = s := by
  rw [parse_eq_ok_iff]
  constructor
  · intro h
    refine ⟨h.canonical, ?_⟩
    rw [Template.written, h.chars_eq, String.ofList_toList]
  · rintro ⟨hc, rfl⟩
    rw [Template.written, String.toList_ofList]
    exact hc.reads

/-- Of a run of dollars the first ones escape each other in pairs. -/
example : Template.parse "$$$$$\x7bmetadata.a\x7d\x7d$" =
    .ok [.escape, .escape, .reference ⟨"metadata.a", .metadata ["a"]⟩, .text "\x7d$"] := by
  decide +kernel

end Provision.Placeholder
