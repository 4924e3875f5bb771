import Mathlib.Data.List.TakeWhile
import Provision.Proofs.Placeholder

/-!
# The grammar of parameter strings

A text reads as a template in one way only, and the relation that says so goes
through it character by character: lexemes and the joining of texts are gone. The
template of a string is the one that its characters read as.
-/

set_option autoImplicit false

namespace Provision.Placeholder

open Outcome Template

/-- What a path refers to: its first segment is one of two roots, and the keys of metadata or
the alias and fields of a resource are the segments behind it. -/
inductive Refers : List String → Target → Prop
  | metadata {keys : List String} (h : keys ≠ []) : Refers ("metadata" :: keys) (.metadata keys)
  | resource {name : String} {fields : List String} (h : name ≠ "") :
      Refers ("resources" :: name :: fields) (.resource name fields)

theorem refers_of_target {body : String} {t : Target} (h : target body = .ok t) :
    Refers (pathSegments body) t := by
  unfold target at h
  split at h
  · cases h
  · split at h
    · cases h
    · next root rest hsegments =>
      rw [hsegments]
      split at h
      · next hroot =>
        subst hroot
        split at h
        · cases h
        · next hkeys =>
          cases h
          exact .metadata (by simpa using hkeys)
      · split at h
        · next hroot =>
          subst hroot
          split at h
          · cases h
          · split at h
            · cases h
            · next hname =>
              cases h
              exact .resource hname
        · cases h

theorem Refers.root {segments : List String} {t : Target} (h : Refers segments t) :
    segments.head? = some "metadata" ∨ segments.head? = some "resources" := by
  cases h with
  | metadata => exact .inl rfl
  | resource => exact .inr rfl

theorem Refers.target_eq {body : String} {t : Target} (h : Refers (pathSegments body) t) :
    target body = .ok t := by
  have hbody : body ≠ "" := by
    rintro rfl
    exact absurd h.root (by decide)
  unfold target
  rw [if_neg hbody]
  generalize pathSegments body = segments at h
  cases h with
  | metadata hkeys => simp [hkeys]
  | resource hname => simp [hname]

/-- The reference of a body keeps the body, and refers to what its path does. -/
theorem reference_eq_ok_iff {body : String} {r : Reference} :
    reference body = .ok r ↔ r.raw = body ∧ Refers (pathSegments body) r.target := by
  unfold reference
  constructor
  · intro h
    split at h
    · next t ht =>
      cases h
      exact ⟨rfl, refers_of_target ht⟩
    · cases h
  · rintro ⟨rfl, hr⟩
    rw [hr.target_eq]

/-- Whether a text reads as a template. A dollar stands for itself where neither a
dollar nor a brace follows it. -/
inductive Reads : List Char → Template → Prop
  | nil : Reads [] []
  | escape {cs : List Char} {t : Template} (h : Reads cs t) :
      Reads ('$' :: '$' :: cs) (.escape :: t)
  | reference {body cs : List Char} {r : Reference} {t : Template} (hb : '}' ∉ body)
      (hraw : r.raw = String.ofList body) (hr : Refers (pathSegments r.raw) r.target)
      (h : Reads cs t) :
      Reads ('$' :: '{' :: (body ++ '}' :: cs)) (.reference r :: t)
  | dollar {cs : List Char} {t : Template} (hd : ∀ c ∈ cs.head?, c ≠ '$' ∧ c ≠ '{')
      (h : Reads cs t) : Reads ('$' :: cs) (consText "$" t)
  | char {c : Char} {cs : List Char} {t : Template} (hc : c ≠ '$') (h : Reads cs t) :
      Reads (c :: cs) (consText (String.singleton c) t)

def Template.chars : Template → List Char
  | [] => []
  | .text s :: rest => s.toList ++ chars rest
  | .escape :: rest => '$' :: '$' :: chars rest
  | .reference r :: rest => r.written.toList ++ chars rest

theorem Template.chars_consText (s : String) (t : Template) :
    (consText s t).chars = s.toList ++ t.chars := by
  cases t with
  | nil => rfl
  | cons segment rest => cases segment <;> simp [consText, chars]

theorem consText_consText (s u : String) (t : Template) :
    consText s (consText u t) = consText (s ++ u) t := by
  cases t with
  | nil => rfl
  | cons segment rest => cases segment <;> simp [consText, String.append_assoc]

theorem singleton_append_ofList (c : Char) (cs : List Char) :
    String.singleton c ++ String.ofList cs = String.ofList (c :: cs) := by
  simp

/-- A text without a dollar goes in front of what follows it. -/
theorem Reads.text {cs ds : List Char} {t : Template} (hcs : ∀ c ∈ cs, c ≠ '$') (hne : cs ≠ [])
    (h : Reads ds t) : Reads (cs ++ ds) (consText (String.ofList cs) t) := by
  induction cs with
  | nil => exact absurd rfl hne
  | cons c cs ih =>
    have hc : c ≠ '$' := hcs c (by simp)
    cases cs with
    | nil => exact .char hc h
    | cons d cs =>
      have hrest := ih (fun x hx => hcs x (List.mem_cons_of_mem _ hx)) (by simp)
      rw [← singleton_append_ofList, ← consText_consText]
      exact .char hc hrest

/-- Where the rest of a text reads as its lexemes say, so does the text with a lexeme in
front. -/
theorem Takes.reads {cs rest : List Char} {l : Lexeme} {ls : List Lexeme} {t : Template}
    (h : Takes cs l rest) (ht : ofLexemes (l :: ls) = .ok t)
    (hrest : ∀ u, ofLexemes ls = .ok u → Reads rest u) : Reads cs t := by
  cases h with
  | escape =>
    obtain ⟨u, hu, rfl⟩ := map_eq_ok.mp ht
    exact .escape (hrest u hu)
  | placeholder _ hb =>
    obtain ⟨r, hr, ht⟩ := bind_eq_ok.mp ht
    obtain ⟨u, hu, ht⟩ := bind_eq_ok.mp ht
    cases pure_eq_ok.mp ht
    obtain ⟨hraw, hr⟩ := reference_eq_ok_iff.mp hr
    exact .reference hb hraw (hraw ▸ hr) (hrest u hu)
  | dollar hd =>
    obtain ⟨u, hu, rfl⟩ := map_eq_ok.mp ht
    exact .dollar hd (hrest u hu)
  | text hne hcs _ =>
    obtain ⟨u, hu, rfl⟩ := map_eq_ok.mp ht
    exact .text hcs hne (hrest u hu)

theorem reads_of_scans {cs rest : List Char} {ls : List Lexeme} {t : Template}
    (hs : Scans cs ls rest) (hend : rest = []) (ht : ofLexemes ls = .ok t) : Reads cs t := by
  induction hs generalizing t with
  | start cs =>
    subst hend
    cases ht
    exact .nil
  | step h _ ih => exact h.reads ht fun u hu => ih hend hu

theorem Reads.exists_lexemes {cs : List Char} {t : Template} (h : Reads cs t) :
    ∃ ls, lexemes cs = .ok ls ∧ ofLexemes ls = .ok t := by
  induction h with
  | nil => exact ⟨[], by rw [lexemes], rfl⟩
  | escape _ ih =>
    obtain ⟨ls, hl, ht⟩ := ih
    refine ⟨.escape :: ls, ?_, ?_⟩
    · rw [lexemes_of_takes (.escape _), hl]
      rfl
    · rw [ofLexemes, ht]
      rfl
  | @reference body cs r t hb hraw hr _ ih =>
    obtain ⟨ls, hl, ht⟩ := ih
    have href : Placeholder.reference (String.ofList body) = .ok r :=
      reference_eq_ok_iff.mpr ⟨hraw, hraw ▸ hr⟩
    refine ⟨.placeholder (String.ofList body) :: ls, ?_, ?_⟩
    · rw [lexemes_of_takes (.placeholder cs hb), hl]
      rfl
    · rw [ofLexemes, href, ht]
      rfl
  | dollar hd _ ih =>
    obtain ⟨ls, hl, ht⟩ := ih
    refine ⟨.text "$" :: ls, ?_, ?_⟩
    · rw [lexemes_of_takes (.dollar hd), hl]
      rfl
    · rw [ofLexemes, ht]
      rfl
  | @char c cs t hc _ ih =>
    obtain ⟨ls, hl, ht⟩ := ih
    by_cases htext : ∃ d ds, cs = d :: ds ∧ d ≠ '$'
    · -- the lexeme of `c` runs on through the text that follows
      obtain ⟨d, ds, rfl, hd⟩ := htext
      have hrun : isText d = true := by simpa [isText] using hd
      rw [lexemes_of_takes (takes_char ds hd)] at hl
      obtain ⟨more, hmore, rfl⟩ := map_eq_ok.mp hl
      obtain ⟨u, hu, rfl⟩ := map_eq_ok.mp ht
      refine ⟨.text (String.ofList (c :: d :: ds.takeWhile isText)) :: more, ?_, ?_⟩
      · rw [lexemes_of_takes (takes_char _ hc), List.takeWhile_cons_of_pos hrun,
          List.dropWhile_cons_of_pos hrun, hmore]
        rfl
      · rw [ofLexemes, hu, consText_consText, singleton_append_ofList]
        rfl
    · have hstop : cs.takeWhile isText = [] ∧ cs.dropWhile isText = cs := by
        cases cs with
        | nil => simp
        | cons d ds =>
          have hd : d = '$' := by
            by_contra hne
            exact htext ⟨d, ds, rfl, hne⟩
          simp [isText, hd]
      refine ⟨.text (String.ofList [c]) :: ls, ?_, ?_⟩
      · rw [lexemes_of_takes (takes_char cs hc), hstop.1, hstop.2, hl]
        rfl
      · rw [ofLexemes, ht]
        rfl

/-- The template of a string is the one that its characters read as. -/
theorem parse_eq_ok_iff {s : String} {t : Template} :
    Template.parse s = .ok t ↔ Reads s.toList t := by
  constructor
  · intro h
    obtain ⟨ls, hs, ht⟩ := bind_eq_ok.mp h
    exact reads_of_scans (scan_eq_ok_iff.mp hs) rfl ht
  · intro h
    obtain ⟨ls, hl, ht⟩ := h.exists_lexemes
    exact bind_eq_ok.mpr ⟨ls, scan_eq_ok_iff.mpr (lexemes_eq_ok_iff.mp hl), ht⟩

end Provision.Placeholder
