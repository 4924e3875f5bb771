import Provision.Placeholder.Template
import Provision.Proofs.Outcome
import Provision.Proofs.Placeholder.Scanning

/-!
# Texts in which no placeholder opens

A text in which no placeholder opens is cut into texts and escapes only, so it
reads as a template without references.
-/

set_option autoImplicit false

namespace Provision.Placeholder

open Outcome

theorem opens_of_opens_tail {c : Char} {cs : List Char} (h : opens cs = true) :
    opens (c :: cs) = true := by
  unfold opens
  split
  · next heq => cases heq
  · rfl
  · next heq =>
    cases heq
    exact h

theorem opens_of_opens_suffix {cs ds : List Char} (hs : ds <:+ cs) (h : opens ds = true) :
    opens cs = true := by
  obtain ⟨before, rfl⟩ := hs
  induction before with
  | nil => exact h
  | cons c before ih => exact opens_of_opens_tail ih

def Lexeme.isPlaceholder : Lexeme → Bool
  | .placeholder _ => true
  | _ => false

theorem Unclosed.opens {cs : List Char} (h : Unclosed cs) : opens cs = true := by
  obtain ⟨⟨rest, rfl⟩, -⟩ := h
  rfl

/-- A placeholder is taken only off a text that it opens. -/
theorem Takes.isPlaceholder {cs rest : List Char} {l : Lexeme} (h : Takes cs l rest)
    (hcs : Placeholder.opens cs = false) : l.isPlaceholder = false := by
  cases h with
  | placeholder _ _ => simp [Placeholder.opens] at hcs
  | escape => rfl
  | dollar _ => rfl
  | text _ _ _ => rfl

theorem Scans.isPlaceholder {cs rest : List Char} {ls : List Lexeme} (h : Scans cs ls rest)
    (hcs : opens cs = false) : ∀ l ∈ ls, l.isPlaceholder = false := by
  induction h with
  | start cs => simp
  | @step cs next rest l ls ht _ ih =>
    have hnext : opens next = false := by
      by_contra hopens
      have hopens := opens_of_opens_suffix ht.suffix (by simpa using hopens)
      simp [hcs] at hopens
    exact List.forall_mem_cons.mpr ⟨ht.isPlaceholder hcs, ih hnext⟩

/-- A text in which no placeholder opens has lexemes, and none is a placeholder. -/
theorem exists_lexemes_of_not_opens (cs : List Char) (h : opens cs = false) :
    ∃ ls, lexemes cs = .ok ls ∧ ∀ l ∈ ls, l.isPlaceholder = false := by
  obtain ⟨ls, rest, hs, rfl | hopen⟩ := exists_scans cs
  · exact ⟨ls, lexemes_eq_ok_iff.mpr hs, hs.isPlaceholder h⟩
  · have hopens := opens_of_opens_suffix hs.suffix hopen.opens
    simp [h] at hopens

namespace Template

theorem references_consText (s : String) (t : Template) :
    references (consText s t) = references t := by
  unfold consText
  split <;> simp [references]

theorem eq_of_single? {t : Template} {r : Reference} (h : t.single? = some r) :
    t = [.reference r] := by
  unfold single? at h
  split at h
  · cases h
    rfl
  · cases h

theorem mem_references_of_single? {t : Template} {r : Reference} (h : t.single? = some r) :
    r ∈ t.references := by
  rw [eq_of_single? h]
  exact List.mem_singleton_self r

theorem exists_ofLexemes {ls : List Lexeme} (h : ∀ l ∈ ls, l.isPlaceholder = false) :
    ∃ t, ofLexemes ls = .ok t ∧ references t = [] := by
  induction ls with
  | nil => exact ⟨[], rfl, rfl⟩
  | cons l ls ih =>
    obtain ⟨t, ht, hrefs⟩ := ih fun l hl => h l (List.mem_cons_of_mem _ hl)
    cases l with
    | text s =>
      refine ⟨consText s t, ?_, ?_⟩
      · rw [ofLexemes, ht]
        rfl
      · rw [references_consText, hrefs]
    | escape =>
      refine ⟨.escape :: t, ?_, ?_⟩
      · rw [ofLexemes, ht]
        rfl
      · simpa [references] using hrefs
    | placeholder body =>
      have hl := h (.placeholder body) (by simp)
      simp [Lexeme.isPlaceholder] at hl

theorem exists_parse_of_isUnmarked {s : String} (h : isUnmarked s = true) :
    ∃ t, parse s = .ok t ∧ references t = [] := by
  obtain ⟨ls, hls, hnone⟩ := exists_lexemes_of_not_opens s.toList (by simpa [isUnmarked] using h)
  obtain ⟨t, ht, hrefs⟩ := exists_ofLexemes hnone
  refine ⟨t, ?_, hrefs⟩
  refine bind_eq_ok.mpr ⟨ls, ?_, ht⟩
  rw [scan, hls]

end Template

end Provision.Placeholder
