import Mathlib.Data.List.TakeWhile
import Provision.Placeholder.Lexeme

/-!
# Scanning a parameter string

A scan takes lexemes off the front of a text, one after another. The four kinds of
lexeme leave out one front only, that of a placeholder which is never closed, and each
takes a character at least. So a scan ends, and where it does not use up the text, it
stops at such a placeholder.
-/

set_option autoImplicit false

namespace Provision.Placeholder

/-- What may be taken off the front of a text. A dollar is taken alone where neither a
dollar nor a brace follows it, and other text is taken up to the next dollar. -/
inductive Takes : List Char → Lexeme → List Char → Prop
  | escape (rest : List Char) : Takes ('$' :: '$' :: rest) .escape rest
  | placeholder {body : List Char} (rest : List Char) (hb : '}' ∉ body) :
      Takes ('$' :: '{' :: (body ++ '}' :: rest)) (.placeholder (String.ofList body)) rest
  | dollar {rest : List Char} (hd : ∀ c ∈ rest.head?, c ≠ '$' ∧ c ≠ '{') :
      Takes ('$' :: rest) (.text "$") rest
  | text {cs rest : List Char} (hne : cs ≠ []) (hcs : ∀ c ∈ cs, c ≠ '$')
      (hend : ∀ c ∈ rest.head?, c = '$') : Takes (cs ++ rest) (.text (String.ofList cs)) rest

def Unclosed (cs : List Char) : Prop := ['$', '{'] <+: cs ∧ '}' ∉ cs

theorem closing?_eq_some_iff {cs body after : List Char} :
    closing? cs = some (body, after) ↔ '}' ∉ body ∧ cs = body ++ '}' :: after := by
  induction cs generalizing body with
  | nil => simp [closing?]
  | cons c rest ih =>
    simp only [closing?]
    split
    · next hc =>
      subst hc
      cases body with
      | nil => simp
      | cons b body => simp +contextual [eq_comm]
    · next hc =>
      rw [Option.map_eq_some_iff]
      constructor
      · rintro ⟨⟨b, a⟩, hba, heq⟩
        cases heq
        obtain ⟨hb, rfl⟩ := ih.mp hba
        refine ⟨?_, rfl⟩
        simpa [hb] using fun h => hc h.symm
      · rintro ⟨hb, heq⟩
        cases body with
        | nil =>
          cases heq
          exact absurd rfl hc
        | cons b body =>
          cases heq
          exact ⟨(body, after), ih.mpr ⟨fun h => hb (List.mem_cons_of_mem _ h), rfl⟩, rfl⟩

theorem closing?_eq_none_iff {cs : List Char} : closing? cs = none ↔ '}' ∉ cs := by
  rw [Option.eq_none_iff_forall_ne_some]
  constructor
  · intro h hmem
    obtain ⟨body, after, rfl, hb⟩ := List.eq_append_cons_of_mem hmem
    exact h _ (closing?_eq_some_iff.mpr ⟨hb, rfl⟩)
  · rintro h ⟨body, after⟩ hclosed
    obtain ⟨-, rfl⟩ := closing?_eq_some_iff.mp hclosed
    simp at h

/-! ## One lexeme -/

theorem escape?_dollar {rest : List Char} (h : rest.head? ≠ some '$') :
    escape? ('$' :: rest) = none := by
  unfold escape?
  split
  · next heq =>
    cases heq
    exact absurd rfl h
  · rfl

theorem lexeme?_dollar {rest : List Char} (hd : ∀ c ∈ rest.head?, c ≠ '$' ∧ c ≠ '{') :
    lexeme? ('$' :: rest) = some (.text "$", rest) := by
  have hdollar : rest.head? ≠ some '$' := fun h => (hd '$' h).1 rfl
  have hbrace : rest.head? ≠ some '{' := fun h => (hd '{' h).2 rfl
  have hp : placeholder? ('$' :: rest) = none := by
    unfold placeholder?
    split
    · next heq =>
      cases heq
      exact absurd rfl hbrace
    · rfl
  rw [lexeme?, escape?_dollar hdollar, hp]
  simp [dollar?, hdollar, hbrace]

theorem lexeme?_stretch {c : Char} {cs : List Char} (hc : c ≠ '$') :
    lexeme? (c :: cs) = stretch? (c :: cs) := by
  simp [lexeme?, escape?, placeholder?, dollar?, hc]

theorem stretch?_append {cs rest : List Char} (hne : cs ≠ []) (hcs : ∀ c ∈ cs, c ≠ '$')
    (hend : ∀ c ∈ rest.head?, c = '$') :
    stretch? (cs ++ rest) = some (.text (String.ofList cs), rest) := by
  have htext : ∀ c ∈ cs, isText c = true := by
    intro c hc
    simpa [isText] using hcs c hc
  have hstop : rest.takeWhile isText = [] ∧ rest.dropWhile isText = rest := by
    cases rest with
    | nil => exact ⟨rfl, rfl⟩
    | cons d rest =>
      have hd : d = '$' := hend d rfl
      simp [isText, hd]
  have htake : (cs ++ rest).takeWhile isText = cs := by
    rw [List.takeWhile_append_of_pos htext, hstop.1, List.append_nil]
  have hdrop : (cs ++ rest).dropWhile isText = rest := by
    rw [List.dropWhile_append_of_pos htext, hstop.2]
  rw [stretch?, htake, hdrop, if_neg]
  simpa using hne

theorem Takes.lexeme?_eq {cs rest : List Char} {l : Lexeme} (h : Takes cs l rest) :
    lexeme? cs = some (l, rest) := by
  cases h with
  | escape => rfl
  | @placeholder body _ hb =>
    have hclosed : closing? (body ++ '}' :: rest) = some (body, rest) :=
      closing?_eq_some_iff.mpr ⟨hb, rfl⟩
    simp [lexeme?, escape?, placeholder?, hclosed]
  | dollar hd => exact lexeme?_dollar hd
  | @text cs _ hne hcs hend =>
    cases cs with
    | nil => exact absurd rfl hne
    | cons c cs =>
      rw [List.cons_append, lexeme?_stretch (hcs c (by simp)), ← List.cons_append]
      exact stretch?_append hne hcs hend

theorem Unclosed.lexeme?_eq_none {cs : List Char} (h : Unclosed cs) : lexeme? cs = none := by
  obtain ⟨⟨rest, rfl⟩, hopen⟩ := h
  have hclosed : closing? rest = none := closing?_eq_none_iff.mpr (by simpa using hopen)
  simp [lexeme?, escape?, placeholder?, dollar?, stretch?, isText, hclosed]

/-- A character other than a dollar is taken together with all up to the next dollar. -/
theorem takes_char {c : Char} (cs : List Char) (hc : c ≠ '$') :
    Takes (c :: cs) (.text (String.ofList (c :: cs.takeWhile isText))) (cs.dropWhile isText) := by
  have hsplit : (c :: cs.takeWhile isText) ++ cs.dropWhile isText = c :: cs := by
    rw [List.cons_append, List.takeWhile_append_dropWhile]
  have htext : ∀ d ∈ c :: cs.takeWhile isText, d ≠ '$' := by
    intro d hd
    rcases List.mem_cons.mp hd with rfl | hd
    · exact hc
    · simpa [isText] using List.mem_takeWhile_imp hd
  have hend : ∀ d ∈ (cs.dropWhile isText).head?, d = '$' := by
    intro d hd
    have hstop := List.head?_dropWhile_not isText cs
    rw [hd] at hstop
    simpa [isText] using hstop
  rw [← hsplit]
  exact .text (by simp) htext hend

/-- At every front but that of an unclosed placeholder there is a lexeme to take. -/
theorem exists_takes {cs : List Char} (hne : cs ≠ []) (hclosed : ¬ Unclosed cs) :
    ∃ l rest, Takes cs l rest := by
  obtain ⟨c, cs, rfl⟩ := List.exists_cons_of_ne_nil hne
  by_cases hc : c = '$'
  · subst hc
    -- what follows the dollar tells the three kinds that start with one apart
    by_cases hdollar : cs.head? = some '$'
    · obtain ⟨rest, rfl⟩ := List.head?_eq_some_iff.mp hdollar
      exact ⟨_, _, .escape rest⟩
    · by_cases hbrace : cs.head? = some '{'
      · obtain ⟨after, rfl⟩ := List.head?_eq_some_iff.mp hbrace
        have hmem : '}' ∈ after := by
          by_contra hopen
          exact hclosed ⟨⟨after, rfl⟩, by simpa using hopen⟩
        obtain ⟨body, rest, rfl, hb⟩ := List.eq_append_cons_of_mem hmem
        exact ⟨_, _, .placeholder rest hb⟩
      · refine ⟨_, _, .dollar fun d hd => ⟨?_, ?_⟩⟩
        · rintro rfl
          exact hdollar hd
        · rintro rfl
          exact hbrace hd
  · exact ⟨_, _, takes_char cs hc⟩

theorem lexeme?_eq_none_iff {cs : List Char} : lexeme? cs = none ↔ cs = [] ∨ Unclosed cs := by
  constructor
  · intro h
    by_contra hother
    rw [not_or] at hother
    obtain ⟨l, rest, htakes⟩ := exists_takes hother.1 hother.2
    rw [htakes.lexeme?_eq] at h
    cases h
  · rintro (rfl | hopen)
    · rfl
    · exact hopen.lexeme?_eq_none

/-- The lexeme found at the front of a text is the one that may be taken off it. -/
theorem takes_iff {cs rest : List Char} {l : Lexeme} :
    Takes cs l rest ↔ lexeme? cs = some (l, rest) := by
  constructor
  · exact Takes.lexeme?_eq
  · intro h
    have hother : ¬ (cs = [] ∨ Unclosed cs) := by
      rw [← lexeme?_eq_none_iff, h]
      simp
    rw [not_or] at hother
    -- something can be taken off, and what is found first is just that
    obtain ⟨l', rest', htakes⟩ := exists_takes hother.1 hother.2
    cases h.symm.trans htakes.lexeme?_eq
    exact htakes

/-! ## Lexeme after lexeme -/

/-- What a scan has taken off a text, and the suffix that it has reached. -/
inductive Scans : List Char → List Lexeme → List Char → Prop
  | start (cs : List Char) : Scans cs [] cs
  | step {cs next rest : List Char} {l : Lexeme} {ls : List Lexeme} (ht : Takes cs l next)
      (hs : Scans next ls rest) : Scans cs (l :: ls) rest

theorem Takes.suffix {cs rest : List Char} {l : Lexeme} (h : Takes cs l rest) : rest <:+ cs := by
  cases h with
  | escape => exact ⟨['$', '$'], rfl⟩
  | @placeholder body _ _ => exact ⟨'$' :: '{' :: (body ++ ['}']), by simp⟩
  | dollar _ => exact List.suffix_cons _ _
  | text _ _ _ => exact List.suffix_append _ _

theorem Scans.suffix {cs rest : List Char} {ls : List Lexeme} (h : Scans cs ls rest) :
    rest <:+ cs := by
  induction h with
  | start cs => exact List.suffix_refl cs
  | step ht _ ih => exact ih.trans ht.suffix

/-- Each lexeme of a scan has taken a character. -/
theorem Scans.length_le {cs rest : List Char} {ls : List Lexeme} (h : Scans cs ls rest) :
    ls.length + rest.length ≤ cs.length := by
  induction h with
  | start cs => simp
  | step ht _ ih =>
    have hshorter := lexeme?_length (takes_iff.mp ht)
    simp only [List.length_cons]
    omega

theorem lexemes_of_takes {cs rest : List Char} {l : Lexeme} (h : Takes cs l rest) :
    lexemes cs = (lexemes rest).map (l :: ·) := by
  have hfound := takes_iff.mp h
  cases cs with
  | nil => cases hfound
  | cons c cs =>
    rw [lexemes]
    split
    · next heq =>
      rw [hfound] at heq
      cases heq
      rfl
    · next heq =>
      rw [hfound] at heq
      cases heq

theorem lexemes_of_unclosed {cs : List Char} (h : Unclosed cs) : lexemes cs = .error cs := by
  have hnone := h.lexeme?_eq_none
  cases cs with
  | nil => simp [Unclosed] at h
  | cons c cs =>
    rw [lexemes]
    split
    · next heq =>
      rw [hnone] at heq
      cases heq
    · rfl

/-- What is cut off the rest of a text goes behind what was taken before. -/
theorem Scans.lexemes_eq {cs rest : List Char} {ls : List Lexeme} (h : Scans cs ls rest) :
    lexemes cs = (lexemes rest).map (ls ++ ·) := by
  induction h with
  | start cs => cases lexemes cs <;> rfl
  | @step cs next rest l ls ht _ ih =>
    rw [lexemes_of_takes ht, ih]
    cases lexemes rest <;> rfl

/-- A scan goes on until the text is used up or an unclosed placeholder stands at the
front. -/
theorem exists_scans (cs : List Char) :
    ∃ ls rest, Scans cs ls rest ∧ (rest = [] ∨ Unclosed rest) := by
  induction cs using lexemes.induct with
  | case1 => exact ⟨[], [], .start [], .inl rfl⟩
  | case2 c cs l next hfound ih =>
    obtain ⟨ls, rest, hs, hend⟩ := ih
    exact ⟨l :: ls, rest, .step (takes_iff.mpr hfound) hs, hend⟩
  | case3 c cs hnone =>
    refine ⟨[], c :: cs, .start _, .inr ?_⟩
    exact (lexeme?_eq_none_iff.mp hnone).resolve_left (by simp)

theorem lexemes_eq_ok_iff {cs : List Char} {ls : List Lexeme} :
    lexemes cs = .ok ls ↔ Scans cs ls [] := by
  constructor
  · intro h
    obtain ⟨ls', rest, hs, rfl | hopen⟩ := exists_scans cs
    · have heq := hs.lexemes_eq
      rw [h, lexemes] at heq
      cases heq
      simpa using hs
    · have heq := hs.lexemes_eq
      rw [h, lexemes_of_unclosed hopen] at heq
      cases heq
  · intro h
    rw [h.lexemes_eq, lexemes]
    simp [Except.map]

theorem lexemes_eq_error_iff {cs rest : List Char} :
    lexemes cs = .error rest ↔ ∃ ls, Scans cs ls rest ∧ Unclosed rest := by
  constructor
  · intro h
    obtain ⟨ls, rest', hs, rfl | hopen⟩ := exists_scans cs
    · rw [lexemes_eq_ok_iff.mpr hs] at h
      cases h
    · have heq := hs.lexemes_eq
      rw [h, lexemes_of_unclosed hopen] at heq
      cases heq
      exact ⟨ls, hs, hopen⟩
  · rintro ⟨ls, hs, hopen⟩
    rw [hs.lexemes_eq, lexemes_of_unclosed hopen]
    rfl

theorem Unclosed.faultAt_eq {cs : List Char} (h : Unclosed cs) : faultAt cs = .unterminated :=
  if_pos (List.isPrefixOf_iff_prefix.mpr h.1)

theorem scan_eq_ok_iff {s : String} {ls : List Lexeme} :
    scan s = .ok ls ↔ Scans s.toList ls [] := by
  rw [← lexemes_eq_ok_iff]
  unfold scan
  cases lexemes s.toList <;> simp

theorem scan_eq_error_iff {s : String} {e : Error} :
    scan s = .error e ↔ ∃ ls rest, Scans s.toList ls rest ∧ Unclosed rest ∧
      e = .reference (String.ofList rest) .unterminated none := by
  constructor
  · intro h
    unfold scan at h
    split at h
    · cases h
    · next rest hfail =>
      obtain ⟨ls, hs, hopen⟩ := lexemes_eq_error_iff.mp hfail
      cases h
      exact ⟨ls, rest, hs, hopen, by rw [hopen.faultAt_eq]⟩
  · rintro ⟨ls, rest, hs, hopen, rfl⟩
    rw [scan, lexemes_eq_error_iff.mpr ⟨ls, hs, hopen⟩]
    simp only [hopen.faultAt_eq]

theorem message_unterminated (raw : String) :
    (Error.reference raw .unterminated none).message =
      "invalid ref '" ++ raw ++ "': unterminated placeholder" := by
  have hend : "': " ++ "unterminated placeholder" = "': unterminated placeholder" := by decide
  calc (Error.reference raw .unterminated none).message
      = "invalid ref '" ++ raw ++ "': " ++ "unterminated placeholder" ++ "" := rfl
    _ = "invalid ref '" ++ raw ++ "': unterminated placeholder" := by
      rw [String.append_empty, String.append_assoc, hend]

/-- A scan of a string takes at most as many lexemes as there are characters. It succeeds
where the string is used up. It fails where it reaches a suffix that opens a placeholder
and never closes it, and the error names this suffix. It fails for no other reason. -/
theorem scan_fails_at_unclosed (s : String) :
    (∀ ls rest, Scans s.toList ls rest → ls.length + rest.length ≤ s.length) ∧
      (∀ ls, scan s = .ok ls ↔ Scans s.toList ls []) ∧
      (∀ e, scan s = .error e ↔ ∃ ls rest, Scans s.toList ls rest ∧ Unclosed rest ∧
        e = .reference (String.ofList rest) .unterminated none ∧
        e.message = "invalid ref '" ++ String.ofList rest ++ "': unterminated placeholder") ∧
      ∀ raw place, scan s ≠ .error (.reference raw .noLexeme place) := by
  refine ⟨?_, fun ls => scan_eq_ok_iff, ?_, ?_⟩
  · intro ls rest hs
    rw [← String.length_toList]
    exact hs.length_le
  · intro e
    rw [scan_eq_error_iff]
    constructor
    · rintro ⟨ls, rest, hs, hopen, rfl⟩
      exact ⟨ls, rest, hs, hopen, rfl, message_unterminated _⟩
    · rintro ⟨ls, rest, hs, hopen, heq, -⟩
      exact ⟨ls, rest, hs, hopen, heq⟩
  · intro raw place h
    obtain ⟨ls, rest, -, -, heq⟩ := scan_eq_error_iff.mp h
    cases heq

/-- A third dollar opens what two dollars escape. -/
example : scan "a$$$\x7bb" = .error (.reference "$\x7bb" .unterminated none) ∧
    scan "a$$\x7bb" = .ok [.text "a", .escape, .text "\x7bb"] := by
  decide +kernel

end Provision.Placeholder
