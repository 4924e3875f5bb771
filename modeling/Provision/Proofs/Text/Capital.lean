import Provision.Proofs.Text.Stretches
import Provision.Identifier

/-!
# Capital forms are letters

The capital form of a character is made of letters, and of marks that no name may hold.
Only a few characters differ: those without a capital form, and numerals and symbols with
letters in them, whose capitals are numerals and symbols again. The tables of capital
forms are checked run by run against the table of categories.
-/

set_option autoImplicit false

namespace Provision

open CharSet

theorem toNat_ofNat {n : Nat} (h : n.isValidChar) : (Char.ofNat n).toNat = n := by
  rw [Char.ofNat, dif_pos h]
  rfl

namespace Category

def isLetter : Category → Bool
  | .lu | .ll | .lt | .lm | .lo => true
  | _ => false

def isFigure : Category → Bool
  | .nl | .so => true
  | _ => false

/-- Starts a search for a point at a place before it, so that places are found once. -/
def near (n : Nat) (search : Nat → Bool) : Bool :=
  bif Nat.ble 0xa600 n then search 0xa600
  else bif Nat.ble 0x2c00 n then search 0x2c00
  else bif Nat.ble 0x1c00 n then search 0x1c00
  else search 0

theorem near_sound {n : Nat} {search : Nat → Bool} (h : near n search = true) :
    ∃ place ≤ n, search place = true := by
  rw [near] at h
  cases hthird : Nat.ble 0xa600 n with
  | true => exact ⟨0xa600, Nat.ble_eq.mp hthird, by simpa [hthird] using h⟩
  | false =>
    cases hsecond : Nat.ble 0x2c00 n with
    | true => exact ⟨0x2c00, Nat.ble_eq.mp hsecond, by simpa [hthird, hsecond] using h⟩
    | false =>
      cases hfirst : Nat.ble 0x1c00 n with
      | true => exact ⟨0x1c00, Nat.ble_eq.mp hfirst, by simpa [hthird, hsecond, hfirst] using h⟩
      | false => exact ⟨0, Nat.zero_le n, by simpa [hthird, hsecond, hfirst] using h⟩

def spans (member : Category → Bool) (lo hi : Nat) : Bool :=
  (Nat.blt hi 0xd800 || (Nat.ble 0xe000 lo && Nat.blt hi 0x110000)) &&
    near lo fun place =>
      holds (after place false (set member).bounds).1 (after place false (set member).bounds).2 lo hi

theorem spans_sound {member : Category → Bool} (hnone : member .cn = false) {lo hi n : Nat}
    (h : spans member lo hi = true) (hlo : lo ≤ n) (hhi : n ≤ hi) :
    (Char.ofNat n).toNat = n ∧ member (of (Char.ofNat n)) = true := by
  simp only [spans, Bool.and_eq_true, Bool.or_eq_true, Nat.blt_eq, Nat.ble_eq] at h
  have hvalid : n.isValidChar := by
    rcases h.1 with hlow | hhigh
    · exact .inl (by omega)
    · exact .inr ⟨by omega, by omega⟩
  have hcode := toNat_ofNat hvalid
  obtain ⟨place, hplace, hholds⟩ := near_sound h.2
  have hinside := holds_sound hholds hlo hhi
  rw [after_inside (by omega), Bool.false_xor, inside_set hnone] at hinside
  refine ⟨hcode, ?_⟩
  rw [of, hcode]
  exact hinside

end Category

namespace Capital

open Category

theorem mem_of_expand {es : List (Nat × List Nat)} {n : Nat} {image : List Nat}
    (h : expand es n = some image) : (n, image) ∈ es := by
  induction es with
  | nil => cases h
  | cons e es ih =>
    obtain ⟨code, chars⟩ := e
    rw [expand] at h
    by_cases hn : n = code
    · rw [if_pos hn] at h
      cases h
      simp [hn]
    · rw [if_neg hn] at h
      exact List.mem_cons_of_mem _ (ih h)

/-- A code point has its capital through the run that it is in, or stays as it is. -/
theorem shift_cases (rs : List (Nat × Nat × Nat × Nat)) (n : Nat) :
    shift rs n = n ∨ ∃ first last step image, (first, last, step, image) ∈ rs ∧
      first ≤ n ∧ n ≤ last ∧ (n - first) % step = 0 ∧ shift rs n = image + (n - first) := by
  induction rs with
  | nil => exact .inl rfl
  | cons r rs ih =>
    obtain ⟨first, last, step, image⟩ := r
    rw [shift]
    by_cases hbefore : n < first
    · exact .inl (if_pos hbefore)
    rw [if_neg hbefore]
    by_cases hin : n ≤ last ∧ (n - first) % step = 0
    · rw [if_pos (by simpa using hin)]
      exact .inr ⟨first, last, step, image, List.mem_cons_self, by omega, hin.1, hin.2, rfl⟩
    · rw [if_neg (by simpa using hin)]
      rcases ih with hsame | ⟨f, l, s, i, hmem, hrest⟩
      · exact .inl hsame
      · exact .inr ⟨f, l, s, i, List.mem_cons_of_mem _ hmem, hrest⟩

/-- Whether a run leads to letters. All code points between the capitals are tried first,
and the capitals one by one where that fails. -/
def leadsToLetters (first last step image : Nat) : Bool :=
  spans isLetter image (image + (last - first)) ||
    (List.range (last - first + 1)).all fun d =>
      !Nat.beq (d % step) 0 || spans isLetter (image + d) (image + d)

theorem leadsToLetters_sound {first last step image n : Nat}
    (h : leadsToLetters first last step image = true) (hfirst : first ≤ n) (hlast : n ≤ last)
    (hstep : (n - first) % step = 0) :
    isLetter (of (Char.ofNat (image + (n - first)))) = true := by
  rw [leadsToLetters, Bool.or_eq_true] at h
  rcases h with hspan | hpoints
  · exact (spans_sound rfl hspan (by omega) (by omega)).2
  · have hpoint := List.all_eq_true.mp hpoints (n - first) (List.mem_range.mpr (by omega))
    rw [hstep] at hpoint
    exact (spans_sound rfl (by simpa using hpoint) (Nat.le_refl _) (Nat.le_refl _)).2

/-- Each run leads to letters, unless it is one of numerals or symbols, and the letters in
circles stay in circles. -/
def runLeads : Nat × Nat × Nat × Nat → Bool
  | (first, last, step, image) =>
    (leadsToLetters first last step image || spans isFigure first last) &&
      (Nat.blt last 0x24d0 || Nat.blt 0x24e9 first ||
        spans (· = .so) image (image + (last - first)))

/-- Each character of an expansion is a letter or one of the marks below U+0345, and the
letters in circles have no expansion. -/
def expansionLeads : Nat × List Nat → Bool
  | (code, image) =>
    (image.all fun n => spans isLetter n n || (Nat.ble 0x300 n && Nat.ble n 0x342)) &&
      (Nat.blt code 0x24d0 || Nat.blt 0x24e9 code)

theorem tables_lead :
    runs.all runLeads = true ∧ expansions.all expansionLeads = true ∧
      holds true alphabetic.bounds 0x300 0x342 = true ∧
      holds true numeric.bounds 0x300 0x342 = true ∧
      form iotaBelow = ['Ι'] ∧ isLetter (of 'Ι') = true := by
  decide +kernel

theorem runLeads_of_mem {first last step image : Nat} (h : (first, last, step, image) ∈ runs) :
    (leadsToLetters first last step image = true ∨ spans isFigure first last = true) ∧
      (last < 0x24d0 ∨ 0x24e9 < first ∨ spans (· = .so) image (image + (last - first)) = true) := by
  have hlead := List.all_eq_true.mp tables_lead.1 _ h
  simpa [runLeads, Nat.blt_eq, or_assoc] using hlead

theorem expansionLeads_of_expand {code : Nat} {image : List Nat}
    (h : expand expansions code = some image) :
    (∀ n ∈ image, spans isLetter n n = true ∨ 0x300 ≤ n ∧ n ≤ 0x342) ∧
      (code < 0x24d0 ∨ 0x24e9 < code) := by
  have hlead := List.all_eq_true.mp tables_lead.2.1 _ (mem_of_expand h)
  simpa [expansionLeads, Nat.blt_eq] using hlead

theorem shift_letter (c : Char) :
    shift runs c.toNat = c.toNat ∨ isLetter (of (Char.ofNat (shift runs c.toNat))) = true ∨
      isFigure (of c) = true := by
  rcases shift_cases runs c.toNat with hsame | ⟨first, last, step, image, hmem, hlo, hhi, hstep, heq⟩
  · exact .inl hsame
  · rcases (runLeads_of_mem hmem).1 with hletters | hfigures
    · rw [heq]
      exact .inr (.inl (leadsToLetters_sound hletters hlo hhi hstep))
    · have hfigure := (spans_sound rfl hfigures hlo hhi).2
      rw [Char.ofNat_toNat] at hfigure
      exact .inr (.inr hfigure)

theorem isWordChar_mark {n : Nat} (hlo : 0x300 ≤ n) (hhi : n ≤ 0x342) :
    Identifier.isWordChar (Char.ofNat n) = false := by
  have hcode : (Char.ofNat n).toNat = n := toNat_ofNat (.inl (by omega))
  have halphabetic := holds_sound tables_lead.2.2.1 hlo hhi
  have hnumeric := holds_sound tables_lead.2.2.2.1 hlo hhi
  have hne : Char.ofNat n ≠ '_' := by
    intro heq
    rw [heq] at hcode
    rw [← hcode] at hlo
    exact absurd hlo (by decide)
  rw [Bool.true_xor, Bool.not_eq_true'] at halphabetic hnumeric
  simp only [Identifier.isWordChar, contains, hcode, halphabetic, hnumeric, hne, decide_false,
    Bool.or_false]

/-- What a name can hold of a capital form are letters, but for the forms of numerals and
symbols and of characters without a capital. -/
theorem form_letter {c d : Char} (hd : d ∈ form c) (hword : Identifier.isWordChar d = true) :
    d = c ∨ isLetter (of d) = true ∨ isFigure (of c) = true := by
  rw [form] at hd
  split at hd
  · next image hexpand =>
    obtain ⟨n, hn, rfl⟩ := List.mem_map.mp hd
    rcases (expansionLeads_of_expand hexpand).1 n hn with hletter | ⟨hlo, hhi⟩
    · exact .inr (.inl (spans_sound rfl hletter (Nat.le_refl n) (Nat.le_refl n)).2)
    · rw [isWordChar_mark hlo hhi] at hword
      cases hword
  · rw [List.mem_singleton.mp hd]
    rcases shift_letter c with hsame | hrest
    · rw [hsame, Char.ofNat_toNat]
      exact .inl rfl
    · exact .inr hrest

/-- The capital of a letter in a circle is in a circle too. -/
theorem form_circled {c : Char} (hof : of c = .so) (hlo : 0x24d0 ≤ c.toNat)
    (hhi : c.toNat ≤ 0x24e9) : ∃ d, form c = [d] ∧ of d = .so := by
  rw [form]
  cases hexpand : expand expansions c.toNat with
  | some image =>
    have hcode := (expansionLeads_of_expand hexpand).2
    omega
  | none =>
    refine ⟨_, rfl, ?_⟩
    rcases shift_cases runs c.toNat with hsame | ⟨first, last, step, image, hmem, hfirst, hlast, -, heq⟩
    · rw [hsame, Char.ofNat_toNat, hof]
    · rcases (runLeads_of_mem hmem).2 with hbefore | hbehind | hsymbols
      · omega
      · omega
      · have hsymbol := (spans_sound rfl hsymbols (Nat.le_add_right image (c.toNat - first))
          (by omega)).2
        rw [heq]
        simpa using hsymbol

/-- The capital of the iota below is a letter. -/
theorem form_iotaBelow : ∃ d, form iotaBelow = [d] ∧ isLetter (of d) = true :=
  ⟨'Ι', tables_lead.2.2.2.2⟩

end Capital

end Provision
