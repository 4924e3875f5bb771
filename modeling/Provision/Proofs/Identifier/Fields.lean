import Mathlib.Data.List.Infix
import Provision.Program
import Provision.Proofs.Text.Capital

/-!
# Field names as identifiers

A field name is made from the upper-case, lower-case and numeric characters of a raw name
and then checked for alphanumeric characters. Identifiers of Go are made of letters and
decimal digits. The two differ: there are numeric characters that are no decimal digits,
upper-case and lower-case characters that are symbols, and one mark that counts as a
lower-case character. A field name is an identifier just when the raw name has none of these
in a place where it is kept.
-/

set_option autoImplicit false

namespace Provision

open CharSet Category

namespace Go

def isIdentifierChar (c : Char) : Bool := isLetter (of c) || of c = .nd || c = '_'

def isExportedIdentifier : List Char → Bool
  | [] => false
  | c :: rest => of c = .lu && rest.all isIdentifierChar

theorem isIdentifierChar_of_isLetter {c : Char} (h : isLetter (of c) = true) :
    isIdentifierChar c = true := by
  simp [isIdentifierChar, h]

theorem of_underscore : of '_' = .pc := by decide

theorem isIdentifierChar_iff {c : Char} (h : of c ≠ .pc) :
    isIdentifierChar c = true ↔ isLetter (of c) = true ∨ of c = .nd := by
  have hne : c ≠ '_' := fun heq => h (heq ▸ of_underscore)
  simp [isIdentifierChar, hne]

end Go

namespace Identifier

open Go

def isKept (c : Char) : Bool :=
  uppercase.contains c || numeric.contains c || lowercase.contains c

def figures : List Category := [.nl, .no, .so]

theorem isKept_iotaBelow : isKept iotaBelow = true := by simp [isKept, contains_iotaBelow]

/-- The categories of kept characters. -/
theorem of_kept {c : Char} (h : isKept c = true) :
    of c ∈ [.lu, .ll, .lm, .lo, .nd] ∨ of c ∈ figures ∨ c = iotaBelow := by
  simp only [isKept, Bool.or_eq_true] at h
  rcases h with (hupper | hnumeric) | hlower
  · have hof := of_uppercase hupper
    simp only [List.mem_cons, List.not_mem_nil, or_false] at hof
    rcases hof with hof | hof | hof <;> simp [hof, figures]
  · have hof := numeric_iff.mp hnumeric
    simp only [List.mem_cons, List.not_mem_nil, or_false] at hof
    rcases hof with hof | hof | hof <;> simp [hof, figures]
  · rcases of_lowercase hlower with hof | ⟨hof, -⟩ | heq
    · simp only [List.mem_cons, List.not_mem_nil, or_false] at hof
      rcases hof with hof | hof | hof | hof <;> simp [hof, figures]
    · simp [hof, figures]
    · exact .inr (.inr heq)

/-- A kept character that is taken over as it is. -/
theorem isIdentifierChar_kept {c : Char} (h : isKept c = true) :
    isIdentifierChar c = true ↔ of c ∉ figures ∧ c ≠ iotaBelow := by
  have hiota : of c ≠ .mn → c ≠ iotaBelow := fun hof heq => hof (heq ▸ contains_iotaBelow.1)
  rcases of_kept h with hof | hof | rfl
  · simp only [List.mem_cons, List.not_mem_nil, or_false] at hof
    rcases hof with hof | hof | hof | hof | hof <;>
      simp [isIdentifierChar, hof, isLetter, figures, hiota]
  · simp only [figures, List.mem_cons, List.not_mem_nil, or_false] at hof
    rcases hof with hof | hof | hof <;>
      simp [isIdentifierChar_iff, hof, isLetter, figures]
  · simp [isIdentifierChar_iff, contains_iotaBelow.1, isLetter]

/-- An upper-case character is a letter just when identifiers may hold it. -/
theorem of_eq_lu_iff {c : Char} (h : uppercase.contains c = true) :
    of c = .lu ↔ isIdentifierChar c = true := by
  have hof := of_uppercase h
  simp only [List.mem_cons, List.not_mem_nil, or_false] at hof
  rcases hof with hof | hof | hof
  · simp [hof, isIdentifierChar, isLetter]
  · simp [hof, isIdentifierChar_iff, isLetter]
  · simp [hof, isIdentifierChar_iff, isLetter]

/-- A lower-case character at the start of a word. -/
theorem isIdentifierChar_form {c : Char} (hlower : lowercase.contains c = true)
    (hnumeric : ¬ numeric.contains c = true)
    (hword : ∀ d ∈ Capital.form c, isWordChar d = true) :
    (∀ d ∈ Capital.form c, isIdentifierChar d = true) ↔ of c ∉ figures := by
  rcases of_lowercase hlower with hof | ⟨hof, hlo, hhi⟩ | rfl
  · have hnl : of c ≠ .nl := fun hof => hnumeric (numeric_iff.mpr (by simp [hof]))
    simp only [List.mem_cons, List.not_mem_nil, or_false, hnl] at hof
    have hletter : isLetter (of c) = true := by
      rcases hof with hof | hof | hof <;> simp [hof, isLetter]
    have hfigure : isFigure (of c) = false := by
      rcases hof with hof | hof | hof <;> simp [hof, isFigure]
    constructor
    · intro _
      rcases hof with hof | hof | hof <;> simp [hof, figures]
    · intro _ d hd
      rcases Capital.form_letter hd (hword d hd) with rfl | hd | hd
      · exact isIdentifierChar_of_isLetter hletter
      · exact isIdentifierChar_of_isLetter hd
      · rw [hfigure] at hd
        cases hd
  · obtain ⟨d, hform, hd⟩ := Capital.form_circled hof hlo hhi
    simp [hform, hof, figures, isIdentifierChar_iff, hd, isLetter]
  · obtain ⟨d, hform, hd⟩ := Capital.form_iotaBelow
    simp [hform, contains_iotaBelow.1, figures, isIdentifierChar_of_isLetter hd]

/-- Whether what is kept of the characters of a raw name belongs in identifiers. The iota
below does only where a word starts, since its capital is a letter. -/
structure Fits (start : Bool) (cs : List Char) : Prop where
  plain : ∀ c ∈ cs, isKept c = true → of c ∉ figures
  first : start = false → cs.head? ≠ some iotaBelow
  later : ∀ c, [c, iotaBelow] <:+: cs → isKept c = false

theorem infix_pair_cons {a b c : Char} {cs : List Char} :
    [a, b] <:+: c :: cs ↔ (a = c ∧ cs.head? = some b) ∨ [a, b] <:+: cs := by
  rw [List.infix_cons_iff, List.cons_prefix_cons]
  cases cs with
  | nil => simp
  | cons d cs => simp [List.cons_prefix_cons, eq_comm]

theorem fits_cons_kept {start : Bool} {c : Char} {cs : List Char} (h : isKept c = true) :
    Fits start (c :: cs) ↔
      (of c ∉ figures ∧ (start = false → c ≠ iotaBelow)) ∧ Fits false cs := by
  constructor
  · rintro ⟨hplain, hfirst, hlater⟩
    refine ⟨⟨hplain c (by simp) h, by simpa using hfirst⟩, ?_, ?_, ?_⟩
    · intro d hd
      exact hplain d (List.mem_cons_of_mem c hd)
    · intro _ hhead
      have hdropped := hlater c (infix_pair_cons.mpr (.inl ⟨rfl, hhead⟩))
      rw [h] at hdropped
      cases hdropped
    · intro d hd
      exact hlater d (infix_pair_cons.mpr (.inr hd))
  · rintro ⟨⟨hc, hstart⟩, hplain, hfirst, hlater⟩
    refine ⟨?_, by simpa using hstart, ?_⟩
    · exact List.forall_mem_cons.mpr ⟨fun _ => hc, hplain⟩
    · intro d hd
      rcases infix_pair_cons.mp hd with ⟨rfl, hhead⟩ | hd
      · exact absurd hhead (hfirst rfl)
      · exact hlater d hd

theorem fits_cons_dropped {start : Bool} {c : Char} {cs : List Char} (h : ¬ isKept c = true) :
    Fits start (c :: cs) ↔ Fits true cs := by
  have hne : c ≠ iotaBelow := fun heq => h (heq ▸ isKept_iotaBelow)
  constructor
  · rintro ⟨hplain, -, hlater⟩
    refine ⟨?_, by simp, ?_⟩
    · intro d hd
      exact hplain d (List.mem_cons_of_mem c hd)
    · intro d hd
      exact hlater d (infix_pair_cons.mpr (.inr hd))
  · rintro ⟨hplain, -, hlater⟩
    refine ⟨?_, by simp [hne], ?_⟩
    · exact List.forall_mem_cons.mpr ⟨fun hkept => absurd hkept h, hplain⟩
    · intro d hd
      rcases infix_pair_cons.mp hd with ⟨rfl, -⟩ | hd
      · simpa using h
      · exact hlater d hd

/-- Where a field name passes the check for alphanumeric characters, it is made of the
characters of identifiers just when the raw name fits. -/
theorem fieldChars_fits {start : Bool} {cs : List Char}
    (hword : ∀ d ∈ fieldChars start cs, isWordChar d = true) :
    (∀ d ∈ fieldChars start cs, isIdentifierChar d = true) ↔ Fits start cs := by
  induction cs generalizing start with
  | nil =>
    constructor
    · intro _
      exact ⟨by simp, by simp, by simp⟩
    · simp [fieldChars]
  | cons c cs ih =>
    rw [fieldChars] at hword ⊢
    by_cases hsame : (uppercase.contains c || numeric.contains c) = true
    · rw [if_pos hsame] at hword ⊢
      have hkept : isKept c = true := by rw [isKept, hsame, Bool.true_or]
      have hne : c ≠ iotaBelow := by
        rintro rfl
        simp [contains_iotaBelow] at hsame
      rw [List.forall_mem_cons] at hword ⊢
      rw [ih hword.2, fits_cons_kept hkept, isIdentifierChar_kept hkept]
      simp [hne]
    rw [if_neg hsame] at hword ⊢
    by_cases hlower : lowercase.contains c = true
    · rw [if_pos hlower, List.forall_mem_append] at hword ⊢
      have hkept : isKept c = true := by rw [isKept, hlower, Bool.or_true]
      rw [ih hword.2, fits_cons_kept hkept]
      cases start with
      | true =>
        have hnumeric : ¬ numeric.contains c = true := fun h => hsame (by rw [h, Bool.or_true])
        simp only [if_true] at hword ⊢
        rw [isIdentifierChar_form hlower hnumeric hword.1]
        simp
      | false =>
        have hchar := isIdentifierChar_kept hkept
        simp [hchar]
    · have hdropped : ¬ isKept c = true := by
        rw [isKept, Bool.or_eq_true, not_or]
        exact ⟨hsame, hlower⟩
      rw [if_neg hlower] at hword ⊢
      rw [ih hword, fits_cons_dropped hdropped]

end Identifier

namespace Program

open Go Identifier

theorem publicName_eq_ok {path raw name : String} (h : publicName path raw = .ok name) :
    name = field raw ∧ isExported name = true := by
  unfold publicName at h
  by_cases hexported : isExported (field raw) = true
  · rw [if_pos hexported] at h
    cases h
    exact ⟨rfl, hexported⟩
  · rw [if_neg hexported] at h
    cases h

/-- The name that a parameter or an output is known by is an exported identifier just when
the raw name has no kept character that is a numeral or a symbol, other than decimal digits,
and no iota below behind a kept character. -/
theorem publicName_legal_iff {path raw name : String} (h : publicName path raw = .ok name) :
    isExportedIdentifier name.toList = true ↔
      (∀ c ∈ raw.toList, isKept c = true → of c ∉ [.nl, .no, .so]) ∧
        ∀ c, [c, iotaBelow] <:+: raw.toList → isKept c = false := by
  obtain ⟨rfl, hexported⟩ := publicName_eq_ok h
  have hfits : Fits true raw.toList ↔
      (∀ c ∈ raw.toList, isKept c = true → of c ∉ [.nl, .no, .so]) ∧
        ∀ c, [c, iotaBelow] <:+: raw.toList → isKept c = false :=
    ⟨fun h => ⟨h.plain, h.later⟩, fun h => ⟨h.1, by simp, h.2⟩⟩
  rw [← hfits, field, String.toList_ofList]
  rw [field, isExported, String.toList_ofList] at hexported
  cases hchars : fieldChars true raw.toList with
  | nil => simp [hchars] at hexported
  | cons c rest =>
    simp only [hchars, Bool.and_eq_true, List.all_eq_true] at hexported
    have hword : ∀ d ∈ fieldChars true raw.toList, isWordChar d = true := by
      rw [hchars]
      exact List.forall_mem_cons.mpr ⟨hexported.1.2, hexported.2⟩
    rw [← fieldChars_fits hword, hchars, List.forall_mem_cons, isExportedIdentifier,
      Bool.and_eq_true, decide_eq_true_eq, List.all_eq_true, of_eq_lu_iff hexported.1.1]

/-- A sharp s and an apostrophe with a letter, which have capitals of two letters. -/
theorem publicName_legal_sharp :
    publicName "ßet_ŉ" "ßet_ŉ" = .ok "SSetʼN" ∧
      isExportedIdentifier "SSetʼN".toList = true := by
  have hname : publicName "ßet_ŉ" "ßet_ŉ" = .ok "SSetʼN" ∧
      "ßet_ŉ".toList.all (fun c => decide (of c ∉ [.nl, .no, .so])) = true ∧
      iotaBelow ∉ "ßet_ŉ".toList := by
    decide +kernel
  refine ⟨hname.1, (publicName_legal_iff hname.1).mpr ⟨fun c hc _ => ?_, fun c hc => ?_⟩⟩
  · exact of_decide_eq_true (List.all_eq_true.mp hname.2.1 c hc)
  · exact absurd (hc.subset (by simp)) hname.2.2

/-- A square behind a letter, and a Roman numeral, are accepted in names. -/
theorem publicName_not_legal :
    (publicName "m²" "m²" = .ok "M²" ∧ isExportedIdentifier "M²".toList = false) ∧
      publicName "Ⅷ" "Ⅷ" = .ok "Ⅷ" ∧ isExportedIdentifier "Ⅷ".toList = false := by
  decide +kernel

end Program

end Provision
