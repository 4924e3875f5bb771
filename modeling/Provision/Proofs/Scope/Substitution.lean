import Provision.Proofs.Placeholder.Grammar
import Provision.Proofs.Scope.Resolution
import Provision.Proofs.Table

/-!
# What a collection writes

Collecting puts metadata in place of the references to it. The text that comes in
is escaped, so it reads as itself whatever stands around it: a dollar of the text
before it that could open a placeholder stands at the end of the string. What is
written reads as the template without its references to metadata, and collecting
it once more, with any metadata, changes nothing.
-/

set_option autoImplicit false

namespace Provision

open Placeholder Outcome

namespace Placeholder

def Reference.alias? (r : Reference) : Option String :=
  match r.target with
  | .metadata _ => none
  | .resource name _ => some name

def Reference.isResource (r : Reference) : Bool := r.alias?.isSome

namespace Template

theorem references_text (s : String) (t : Template) :
    references (.text s :: t) = references t := rfl

theorem references_escape (t : Template) : references (.escape :: t) = references t := rfl

theorem references_reference (r : Reference) (t : Template) :
    references (.reference r :: t) = r :: references t := rfl

def consEscaped : List Char → Template → Template
  | [], t => t
  | c :: cs, t =>
    if c = '$' then .escape :: consEscaped cs t
    else consText (String.singleton c) (consEscaped cs t)

theorem escape_append_ofList (cs : List Char) :
    "$$" ++ String.ofList cs = String.ofList ('$' :: '$' :: cs) := by
  simp [String.ext_iff]

theorem chars_consEscaped (cs : List Char) (t : Template) :
    (consEscaped cs t).chars = escapeChars cs ++ t.chars := by
  induction cs with
  | nil => rfl
  | cons c cs ih =>
    by_cases hc : c = '$'
    · simp [consEscaped, escapeChars, hc, chars, ih]
    · simp [consEscaped, escapeChars, hc, chars_consText, ih]

theorem references_consEscaped (cs : List Char) (t : Template) :
    (consEscaped cs t).references = t.references := by
  induction cs with
  | nil => rfl
  | cons c cs ih =>
    by_cases hc : c = '$'
    · simpa [consEscaped, hc, references] using ih
    · rw [consEscaped, if_neg hc, references_consText, ih]

end Template

open Template

/-- Escaped text reads as itself, whatever follows it. -/
theorem Reads.consEscaped {ds : List Char} {t : Template} (h : Reads ds t) (cs : List Char) :
    Reads (escapeChars cs ++ ds) (consEscaped cs t) := by
  induction cs with
  | nil => exact h
  | cons c cs ih =>
    by_cases hc : c = '$'
    · simpa [Template.consEscaped, escapeChars, hc] using ih.escape
    · simpa [Template.consEscaped, escapeChars, hc] using ih.char hc

theorem reads_escapeChars (cs : List Char) : Reads (escapeChars cs) (consEscaped cs []) := by
  simpa using Reads.nil.consEscaped cs

end Placeholder

namespace Scope

open Template

/-- What a collection makes of a template, and the aliases that it finds: metadata
comes in as escaped text, all else stays. -/
inductive Settles (scope : Scope) : Template → Template → Found → Prop
  | nil : Settles scope [] [] []
  | text {s : String} {t u : Template} {found : Found} (h : Settles scope t u found) :
      Settles scope (.text s :: t) (consText s u) found
  | escape {t u : Template} {found : Found} (h : Settles scope t u found) :
      Settles scope (.escape :: t) (.escape :: u) found
  | metadata {r : Reference} {keys : List String} {v : Value} {s : String} {t u : Template}
      {found : Found} (ht : r.target = .metadata keys)
      (hv : scope.metadataValue r.raw keys = .ok v) (hs : v.text r.raw = .ok s)
      (h : Settles scope t u found) :
      Settles scope (.reference r :: t) (consEscaped s.toList u) found
  | resource {r : Reference} {name node : String} {fields : List String} {t u : Template}
      {found : Found} (ht : r.target = .resource name fields)
      (hn : scope.aliases.find? name = some node) (h : Settles scope t u found) :
      Settles scope (.reference r :: t) (.reference r :: u) ((name, node) :: found)

theorem settles_of_collectSegments {scope : Scope} {t : Template} {text : String} {found : Found}
    (h : scope.collectSegments t = .ok (text, found)) :
    ∃ u, scope.Settles t u found ∧ text.toList = u.chars := by
  induction t generalizing text found with
  | nil =>
    cases h
    exact ⟨[], .nil, rfl⟩
  | cons segment t ih =>
    obtain ⟨⟨first, part⟩, hs, h⟩ := bind_eq_ok.mp h
    obtain ⟨⟨rest, more⟩, ht, h⟩ := bind_eq_ok.mp h
    cases pure_eq_ok.mp h
    obtain ⟨u, hu, hchars⟩ := ih ht
    rw [String.toList_append, hchars]
    cases segment with
    | text s =>
      cases hs
      exact ⟨consText _ u, .text hu, (chars_consText _ u).symm⟩
    | escape =>
      cases hs
      exact ⟨.escape :: u, .escape hu, rfl⟩
    | reference r =>
      simp only [collectSegment] at hs
      split at hs
      · next keys htarget =>
        obtain ⟨v, hv, hs⟩ := bind_eq_ok.mp hs
        obtain ⟨s, htext, hs⟩ := bind_eq_ok.mp hs
        cases pure_eq_ok.mp hs
        exact ⟨consEscaped s.toList u, .metadata htarget hv htext hu,
          by rw [chars_consEscaped, doubleDollars, String.toList_ofList]⟩
      · next name fields htarget =>
        obtain ⟨node, hn, hs⟩ := bind_eq_ok.mp hs
        cases pure_eq_ok.mp hs
        exact ⟨.reference r :: u, .resource htarget (aliasNode_eq_ok.mp hn) hu, rfl⟩

theorem Settles.of_consText {scope : Scope} {s : String} {t u : Template} {found : Found}
    (h : scope.Settles (consText s t) u found) :
    ∃ rest, scope.Settles t rest found ∧ u = consText s rest := by
  have hcons : ∀ {t u : Template}, scope.Settles (.text s :: t) u found →
      ∃ rest, scope.Settles t rest found ∧ u = consText s rest := by
    intro t u h
    cases h with
    | text h => exact ⟨_, h, rfl⟩
  cases t with
  | nil => exact hcons h
  | cons segment t =>
    cases segment with
    | text x =>
      cases h with
      | text h => exact ⟨consText x _, .text h, (consText_consText s x _).symm⟩
    | escape => exact hcons h
    | reference r => exact hcons h

/-- A text that does not start with a dollar keeps its first character. -/
theorem Settles.head?_chars {scope : Scope} {cs : List Char} {t u : Template} {found : Found}
    (hr : Reads cs t) (h : scope.Settles t u found) (hd : ∀ c ∈ cs.head?, c ≠ '$') :
    u.chars.head? = cs.head? := by
  cases hr with
  | nil =>
    cases h
    rfl
  | escape => exact absurd rfl (hd '$' rfl)
  | reference => exact absurd rfl (hd '$' rfl)
  | dollar => exact absurd rfl (hd '$' rfl)
  | char hc hr =>
    obtain ⟨rest, -, rfl⟩ := h.of_consText
    simp [chars_consText]

/-- What a collection writes reads as what it makes of the template. -/
theorem Settles.reads {scope : Scope} {cs : List Char} {t u : Template} {found : Found}
    (hr : Reads cs t) (h : scope.Settles t u found) : Reads u.chars u := by
  induction hr generalizing u found with
  | nil =>
    cases h
    exact .nil
  | escape _ ih =>
    cases h with
    | escape h => exact .escape (ih h)
  | @reference body cs r t hb hraw hr _ ih =>
    cases h with
    | metadata _ _ _ h =>
      rw [chars_consEscaped]
      exact (ih h).consEscaped _
    | resource _ _ h =>
      have hread := Reads.reference hb hraw hr (ih h)
      simpa [chars, Reference.written, hraw] using hread
  | dollar hd hr ih =>
    obtain ⟨rest, hrest, rfl⟩ := h.of_consText
    have hhead := Settles.head?_chars hr hrest fun c hc => (hd c hc).1
    have hnext : ∀ c ∈ rest.chars.head?, c ≠ '$' ∧ c ≠ '{' := by rwa [hhead]
    rw [chars_consText]
    exact Reads.dollar hnext (ih hrest)
  | @char c cs t hc _ ih =>
    obtain ⟨rest, hrest, rfl⟩ := h.of_consText
    rw [chars_consText, String.toList_singleton]
    exact .char hc (ih hrest)

theorem Settles.references {scope : Scope} {t u : Template} {found : Found}
    (h : scope.Settles t u found) :
    u.references = t.references.filter Reference.isResource := by
  induction h with
  | nil => rfl
  | text _ ih => rw [references_consText, ih, references_text]
  | escape _ ih => rw [references_escape, ih, references_escape]
  | metadata ht _ _ _ ih =>
    rw [references_consEscaped, ih, references_reference, List.filter_cons_of_neg]
    simp [Reference.isResource, Reference.alias?, ht]
  | resource ht _ _ ih =>
    rw [references_reference, ih, references_reference, List.filter_cons_of_pos]
    simp [Reference.isResource, Reference.alias?, ht]

/-- The aliases found are those that the references of the template name. -/
theorem Settles.found {scope : Scope} {t u : Template} {found : Found}
    (h : scope.Settles t u found) :
    found.map Prod.fst = t.references.filterMap Reference.alias? := by
  induction h with
  | nil => rfl
  | text _ ih => exact ih
  | escape _ ih => exact ih
  | metadata ht _ _ _ ih => simpa [references_reference, Reference.alias?, ht] using ih
  | resource ht _ _ ih => simpa [references_reference, Reference.alias?, ht] using ih

section Again

variable {scope : Scope} {t : Template} {text : String} {found : Found}

theorem collectSegments_cons_of {segment : Segment} {first : String} {part : Found}
    (hs : scope.collectSegment segment = .ok (first, part))
    (ht : scope.collectSegments t = .ok (text, found)) :
    scope.collectSegments (segment :: t) = .ok (first ++ text, part ++ found) := by
  rw [collectSegments, hs, ht]
  rfl

theorem collectSegments_escape (h : scope.collectSegments t = .ok (text, found)) :
    scope.collectSegments (.escape :: t) = .ok ("$$" ++ text, found) := by
  have hs : scope.collectSegment .escape = .ok ("$$", []) := rfl
  exact collectSegments_cons_of hs h

theorem collectSegments_consText (h : scope.collectSegments t = .ok (text, found)) (s : String) :
    scope.collectSegments (consText s t) = .ok (s ++ text, found) := by
  have hs : ∀ x, scope.collectSegment (.text x) = .ok (x, []) := fun x => rfl
  have hcons : scope.collectSegments (.text s :: t) = .ok (s ++ text, found) :=
    collectSegments_cons_of (hs s) h
  cases t with
  | nil => exact hcons
  | cons segment t =>
    cases segment with
    | text x =>
      obtain ⟨⟨first, part⟩, hx, h⟩ := bind_eq_ok.mp h
      obtain ⟨⟨rest, more⟩, ht, h⟩ := bind_eq_ok.mp h
      cases hx
      cases pure_eq_ok.mp h
      rw [← String.append_assoc]
      exact collectSegments_cons_of (hs _) ht
    | escape => exact hcons
    | reference r => exact hcons

theorem collectSegments_consEscaped (h : scope.collectSegments t = .ok (text, found))
    (cs : List Char) : scope.collectSegments (consEscaped cs t) =
      .ok (String.ofList (escapeChars cs) ++ text, found) := by
  induction cs with
  | nil => simpa [consEscaped, escapeChars] using h
  | cons c cs ih =>
    by_cases hc : c = '$'
    · rw [consEscaped, if_pos hc, collectSegments_escape ih, escapeChars, if_pos hc,
        ← String.append_assoc, escape_append_ofList]
    · rw [consEscaped, if_neg hc, collectSegments_consText ih, escapeChars, if_neg hc,
        ← String.append_assoc, singleton_append_ofList]

end Again

/-- Collecting once more writes the same text and finds the same aliases. -/
theorem Settles.collectSegments {scope other : Scope} {t u : Template} {found : Found}
    (h : scope.Settles t u found) (ha : other.aliases = scope.aliases) :
    other.collectSegments u = .ok (String.ofList u.chars, found) := by
  induction h with
  | nil => rfl
  | @text s t u found _ ih =>
    rw [collectSegments_consText ih, chars_consText, String.ofList_append, String.ofList_toList]
  | escape _ ih => rw [collectSegments_escape ih, chars, escape_append_ofList]
  | @metadata r keys v s t u found _ _ _ _ ih =>
    rw [collectSegments_consEscaped ih, chars_consEscaped, String.ofList_append]
  | @resource r name node fields t u found ht hn _ ih =>
    have hnode : other.aliasNode r.raw name = .ok node := aliasNode_eq_ok.mpr (by rw [ha, hn])
    have hs : other.collectSegment (.reference r) = .ok (r.written, [(name, node)]) := by
      simp only [collectSegment, ht, hnode]
      rfl
    rw [collectSegments_cons_of hs ih, chars, String.ofList_append, String.ofList_toList]
    rfl

/-- A string is left as it is, or it is one reference to metadata, or what is
written for it reads as its settled template. -/
theorem collectText_settles {scope : Scope} {s : String} {v : Value} {found : Found}
    (h : scope.collectText s = .ok (v, found)) :
    (isUnmarked s = true ∧ v = .string s ∧ found = []) ∨
      (∃ r keys w, Template.parse s = .ok [.reference r] ∧ r.target = .metadata keys ∧
        scope.metadataValue r.raw keys = .ok w ∧ v = escapeTree w ∧ found = []) ∨
      ∃ t u text, Template.parse s = .ok t ∧ scope.Settles t u found ∧
        v = .string text ∧ text = String.ofList u.chars ∧ Template.parse text = .ok u := by
  rcases collectText_cases h with hplain | ⟨t, ht, h⟩
  · exact .inl hplain
  · rcases collectTemplate_cases h with ⟨r, keys, w, rfl, hr, hw, rfl, rfl⟩ | ⟨text, hs, rfl⟩
    · exact .inr (.inl ⟨r, keys, w, ht, hr, hw, rfl, rfl⟩)
    · obtain ⟨u, hu, hchars⟩ := settles_of_collectSegments hs
      have hread := hu.reads (parse_eq_ok_iff.mp ht)
      refine .inr (.inr ⟨t, u, text, ht, hu, rfl, ?_, ?_⟩)
      · rw [← hchars, String.ofList_toList]
      · exact parse_eq_ok_iff.mpr (hchars ▸ hread)

/-- The aliases found in a string are those that its references name. -/
theorem collectText_aliases {scope : Scope} {s : String} {v : Value} {found : Found}
    (h : scope.collectText s = .ok (v, found)) :
    ∃ t, Template.parse s = .ok t ∧
      found.map Prod.fst = t.references.filterMap Reference.alias? := by
  rcases collectText_settles h with ⟨hu, -, rfl⟩ | ⟨r, keys, w, hs, hr, -, -, rfl⟩ |
    ⟨t, u, text, ht, hu, -⟩
  · obtain ⟨t, ht, hrefs⟩ := Template.exists_parse_of_isUnmarked hu
    exact ⟨t, ht, by simp [hrefs]⟩
  · exact ⟨_, hs, by simp [Template.references, Reference.alias?, hr]⟩
  · exact ⟨t, ht, hu.found⟩

end Scope

/-- Whether a reference in a string of a parameter tree, at any depth, names an alias. -/
def Value.Names (ps : List (String × Value)) (key : String) : Prop :=
  ∃ s ∈ Value.stringsOfEntries ps, ∃ t, Reads s.toList t ∧
    ∃ r ∈ t.references, ∃ fields, r.target = .resource key fields

namespace Scope

theorem alias?_eq_some_iff {r : Reference} {key : String} :
    r.alias? = some key ↔ ∃ fields, r.target = .resource key fields := by
  unfold Reference.alias?
  cases r.target <;> simp

theorem Gathers.mem_found_iff {scope : Scope} {ss : List String} {found : Found}
    (h : scope.Gathers ss found) (key : String) :
    key ∈ found.map Prod.fst ↔ ∃ s ∈ ss, ∃ t, Reads s.toList t ∧
      ∃ r ∈ t.references, ∃ fields, r.target = .resource key fields := by
  induction h with
  | nil => simp
  | @cons s v part found rest hs _ ih =>
    obtain ⟨t, ht, hpart⟩ := collectText_aliases hs
    have hfirst : key ∈ part.map Prod.fst ↔
        ∃ u, Reads s.toList u ∧
          ∃ r ∈ u.references, ∃ fields, r.target = .resource key fields := by
      rw [hpart, List.mem_filterMap]
      constructor
      · rintro ⟨r, hr, hkey⟩
        exact ⟨t, parse_eq_ok_iff.mp ht, r, hr, alias?_eq_some_iff.mp hkey⟩
      · rintro ⟨u, hu, r, hr, htarget⟩
        cases ht.symm.trans (parse_eq_ok_iff.mpr hu)
        exact ⟨r, hr, alias?_eq_some_iff.mpr htarget⟩
    rw [List.map_append, List.mem_append, hfirst, ih]
    simp

/-- The dependencies of a parameter tree are the aliases named in it, each with the
node that the scope has for it. -/
theorem collect_find? {scope : Scope} {ps out : List (String × Value)} {deps : Table String}
    (h : scope.collect ps = .ok (out, deps)) (key node : String) :
    deps.find? key = some node ↔ Value.Names ps key ∧ scope.aliases.find? key = some node := by
  obtain ⟨found, hg, rfl⟩ := collect_gathers h
  constructor
  · intro hfind
    have hmem := Entries.mem_of_find?_ofList hfind
    refine ⟨(hg.mem_found_iff key).mp (List.mem_map.mpr ⟨_, hmem, rfl⟩), ?_⟩
    exact hg.found _ hmem
  · rintro ⟨hnames, halias⟩
    obtain ⟨e, he, rfl⟩ := List.mem_map.mp ((hg.mem_found_iff key).mpr hnames)
    have hnode := hg.found e he
    rw [halias] at hnode
    cases hnode
    exact Entries.find?_ofList_of_mem hg.found he

theorem collect_mem_keys {scope : Scope} {ps out : List (String × Value)} {deps : Table String}
    (h : scope.collect ps = .ok (out, deps)) (key : String) :
    key ∈ deps.keys ↔ Value.Names ps key := by
  rw [Table.mem_keys_iff]
  constructor
  · rintro ⟨node, hnode⟩
    exact ((collect_find? h key node).mp hnode).1
  · intro hnames
    obtain ⟨found, hg, rfl⟩ := collect_gathers h
    exact Option.isSome_iff_exists.mp
      (Entries.find?_ofList_isSome_iff.mpr ((hg.mem_found_iff key).mpr hnames))

/-- Parameters name the same aliases in every scope, so the dependencies found in one
are those found in another as soon as they are among them. -/
theorem collect_deps_eq {scope other : Scope} {ps out out' : List (String × Value)}
    {deps edges : Table String} (h : scope.collect ps = .ok (out, deps))
    (ho : other.collect ps = .ok (out', edges))
    (hsub : ∀ key node, deps.find? key = some node → edges.find? key = some node) :
    deps = edges := by
  refine Table.ext_find? fun key node => ⟨hsub key node, ?_⟩
  intro hedge
  have hnames := ((collect_find? ho key node).mp hedge).1
  obtain ⟨found, hfound⟩ := Table.mem_keys_iff.mp ((collect_mem_keys h key).mpr hnames)
  cases hedge.symm.trans (hsub key found hfound)
  exact hfound

end Scope

end Provision
