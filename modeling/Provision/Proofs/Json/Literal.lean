import Provision.Json.Number
import Provision.Json.Writer
import Provision.Proofs.Double

/-!
# Number texts

Every number that is written is a literal in the sense of the reader: a whole part without
needless zeros, a fraction and an exponent, of which the last two may be missing. The
reader takes all of it and stops at whatever follows a number in a document. Integers of
64 bits come back as they were. A double comes back as a double, though not always as the
same one, since the reader rounds more than once.
-/

set_option autoImplicit false

namespace Provision

namespace Json

def IsDigits (cs : List Char) : Prop := cs ≠ [] ∧ ∀ c ∈ cs, c.isDigit = true

def EndsDigits (cs : List Char) : Prop := ∀ c ∈ cs.head?, c.isDigit = false

/-- Whether a number that stands before the text is over there. -/
def EndsNumber (cs : List Char) : Prop :=
  ∀ c ∈ cs.head?, c.isDigit = false ∧ c ≠ '.' ∧ c ≠ 'e' ∧ c ≠ 'E'

theorem EndsNumber.endsDigits {cs : List Char} (h : EndsNumber cs) : EndsDigits cs :=
  fun c hc => (h c hc).1

theorem takeWhile_digits (ds rest : List Char) (hd : ∀ c ∈ ds, c.isDigit = true)
    (hr : EndsDigits rest) : (ds ++ rest).takeWhile Char.isDigit = ds := by
  rw [List.takeWhile_append_of_pos hd]
  cases rest with
  | nil => simp
  | cons c rest =>
    have hc := hr c (by simp)
    simp [List.takeWhile, hc]

theorem dropWhile_digits (ds rest : List Char) (hd : ∀ c ∈ ds, c.isDigit = true)
    (hr : EndsDigits rest) : (ds ++ rest).dropWhile Char.isDigit = rest := by
  rw [List.dropWhile_append_of_pos hd]
  cases rest with
  | nil => rfl
  | cons c rest =>
    have hc := hr c (by simp)
    simp [List.dropWhile, hc]

theorem isDigits_toDigits (n : Nat) : IsDigits (Nat.toDigits 10 n) :=
  ⟨Nat.toDigits_ne_nil, fun _ hc => Nat.isDigit_of_mem_toDigits (by decide) (by decide) hc⟩

theorem digitChar_ne_zero : ∀ n : Nat, 0 < n → n < 10 → n.digitChar ≠ '0' := by
  have h : ∀ n : Fin 10, 0 < n.val → n.val.digitChar ≠ '0' := by decide
  intro n hpos hlt
  exact h ⟨n, hlt⟩ hpos

theorem head_toDigits (n : Nat) (h : 0 < n) : (Nat.toDigits 10 n).head? ≠ some '0' := by
  induction n using Nat.strong_induction_on with
  | _ n ih =>
    by_cases hlt : n < 10
    · rw [Nat.toDigits_of_lt_base hlt]
      simpa using digitChar_ne_zero n h hlt
    · have hne : (Nat.toDigits 10 (n / 10)).head? ≠ some '0' := ih (n / 10) (by omega) (by omega)
      rw [Nat.toDigits_of_base_le (by decide) (by omega)]
      cases hd : Nat.toDigits 10 (n / 10) with
      | nil => exact absurd hd Nat.toDigits_ne_nil
      | cons c cs =>
        rw [hd] at hne
        simpa using hne

theorem readDigits_eq (cs : List Char) (acc : Nat) :
    Double.readDigits acc cs = Nat.ofDigitChars 10 cs acc := by
  rw [Nat.ofDigitChars_eq_foldl]
  rfl

theorem readDigits_toDigits (n : Nat) : Double.readDigits 0 (Nat.toDigits 10 n) = n := by
  rw [readDigits_eq, Nat.ofDigitChars_ten_toDigits]

theorem le_readDigits (cs : List Char) (acc : Nat) : acc ≤ Double.readDigits acc cs := by
  induction cs generalizing acc with
  | nil => exact Nat.le_refl acc
  | cons c cs ih =>
    have h := ih (10 * acc + Double.digitValue c)
    have hstep : Double.readDigits acc (c :: cs) =
        Double.readDigits (10 * acc + Double.digitValue c) cs := rfl
    omega

namespace Literal

/-- Digits that fit the significand are all taken. -/
theorem accumulate_eq (cs : List Char) (acc : Nat)
    (h : Double.readDigits acc cs < 0x10000000000000000) :
    accumulate acc cs = (Double.readDigits acc cs, []) := by
  induction cs generalizing acc with
  | nil => rfl
  | cons c cs ih =>
    have hstep : Double.readDigits acc (c :: cs) =
        Double.readDigits (10 * acc + Double.digitValue c) cs := rfl
    have hle := le_readDigits cs (10 * acc + Double.digitValue c)
    rw [hstep] at h ⊢
    rw [accumulate, if_pos (by omega), ih _ h]

def fractionChars : Option (List Char) → List Char
  | none => []
  | some digits => '.' :: digits

def exponentChars : Option (Bool × List Char) → List Char
  | none => []
  | some (down, digits) => 'e' :: (if down then '-' else '+') :: digits

def chars (l : Literal) : List Char :=
  (if l.negative then ['-'] else []) ++
    (l.whole ++ (fractionChars l.fraction ++ exponentChars l.exponent))

structure Proper (l : Literal) : Prop where
  whole : IsDigits l.whole
  lead : l.whole = ['0'] ∨ l.whole.head? ≠ some '0'
  fraction : ∀ digits, l.fraction = some digits → IsDigits digits
  exponent : ∀ down digits, l.exponent = some (down, digits) → IsDigits digits

theorem readExponent?_chars (e : Option (Bool × List Char)) (rest : List Char)
    (he : ∀ down digits, e = some (down, digits) → IsDigits digits) (hr : EndsNumber rest) :
    readExponent? (exponentChars e ++ rest) = some (e, rest) := by
  match e with
  | none =>
    cases rest with
    | nil => rfl
    | cons c rest =>
      have hc := hr c (by simp)
      simp [exponentChars, readExponent?, hc.2.2.1, hc.2.2.2]
  | some (down, digits) =>
    have hd := he down digits rfl
    have hne : digits.isEmpty = false := by simp [hd.1]
    have htake := takeWhile_digits digits rest hd.2 hr.endsDigits
    have hdrop := dropWhile_digits digits rest hd.2 hr.endsDigits
    cases down <;>
      simp [exponentChars, readExponent?, Double.readSign, htake, hdrop, hd.1]

theorem endsDigits_exponentChars (e : Option (Bool × List Char)) (rest : List Char)
    (hr : EndsNumber rest) : EndsDigits (exponentChars e ++ rest) := by
  match e with
  | none => exact hr.endsDigits
  | some (down, digits) =>
    intro c hc
    cases Option.mem_some.mp hc
    decide

theorem readFraction?_chars (f : Option (List Char)) (e : Option (Bool × List Char))
    (rest : List Char) (hf : ∀ digits, f = some digits → IsDigits digits)
    (hr : EndsNumber rest) :
    readFraction? (fractionChars f ++ (exponentChars e ++ rest)) =
      some (f, exponentChars e ++ rest) := by
  have hstop := endsDigits_exponentChars e rest hr
  match f with
  | some digits =>
    have hd := hf digits rfl
    have htake := takeWhile_digits digits _ hd.2 hstop
    have hdrop := dropWhile_digits digits _ hd.2 hstop
    simp [fractionChars, readFraction?, htake, hdrop, hd.1]
  | none =>
    match e with
    | some (down, digits) => rfl
    | none =>
      cases rest with
      | nil => rfl
      | cons c rest =>
        have hc := hr c (by simp)
        rw [fractionChars, exponentChars, List.nil_append, List.nil_append, readFraction?]
        intro more hmore
        exact hc.2.1 (List.cons.inj hmore).1

theorem readWhole?_digits (digits rest : List Char) (hd : IsDigits digits)
    (hlead : digits = ['0'] ∨ digits.head? ≠ some '0') (hr : EndsDigits rest) :
    readWhole? (digits ++ rest) = some (digits, rest) := by
  unfold readWhole?
  dsimp only
  rw [takeWhile_digits digits rest hd.2 hr, dropWhile_digits digits rest hd.2 hr]
  split
  · exact absurd rfl hd.1
  · simp at hlead
  · rfl

/-- The text of a literal reads as the literal, wherever a number may end. -/
theorem read?_chars (l : Literal) (rest : List Char) (h : l.Proper) (hr : EndsNumber rest) :
    read? (l.chars ++ rest) = some (l, rest) := by
  have hstop : EndsDigits (fractionChars l.fraction ++ (exponentChars l.exponent ++ rest)) := by
    cases l.fraction with
    | none => exact endsDigits_exponentChars l.exponent rest hr
    | some digits =>
      intro c hc
      cases Option.mem_some.mp hc
      decide
  have hmagnitude : ∀ negative, readMagnitude? negative
      (l.whole ++ (fractionChars l.fraction ++ (exponentChars l.exponent ++ rest))) =
      some (⟨negative, l.whole, l.fraction, l.exponent⟩, rest) := by
    intro negative
    rw [readMagnitude?, readWhole?_digits l.whole _ h.whole h.lead hstop]
    simp only [Option.bind_eq_bind, Option.bind_some]
    rw [readFraction?_chars l.fraction l.exponent rest h.fraction hr]
    simp only [Option.bind_some]
    rw [readExponent?_chars l.exponent rest h.exponent hr]
    rfl
  obtain ⟨negative, whole, fraction, exponent⟩ := l
  cases negative with
  | true =>
    have htext := hmagnitude true
    simpa [chars, read?] using htext
  | false =>
    have htext := hmagnitude false
    obtain ⟨c, cs, rfl⟩ : ∃ c cs, whole = c :: cs := List.exists_cons_of_ne_nil h.whole.1
    have hc : c ≠ '-' := by
      rintro rfl
      exact absurd (h.whole.2 '-' (by simp)) (by decide)
    have hread : read? (chars ⟨false, c :: cs, fraction, exponent⟩ ++ rest) =
        readMagnitude? false (chars ⟨false, c :: cs, fraction, exponent⟩ ++ rest) := by
      rw [chars]
      simp only [Bool.false_eq_true, if_false, List.nil_append, List.cons_append]
      rw [read?]
      intro more hmore
      exact hc (List.cons.inj hmore).1
    rw [hread]
    simpa [chars] using htext

/-- Integers of 64 bits, signed or not, are written as literals for themselves. -/
theorem exists_int (n : Int) (hlo : -0x8000000000000000 ≤ n) (hhi : n < 0x10000000000000000) :
    ∃ l : Literal, l.Proper ∧ (toString n).toList = l.chars ∧ l.json = .int n := by
  have hproper : ∀ (negative : Bool) (m : Nat),
      Proper ⟨negative, Nat.toDigits 10 m, none, none⟩ := by
    intro negative m
    refine ⟨isDigits_toDigits m, ?_, by simp, by simp⟩
    by_cases hm : m = 0
    · exact .inl (by rw [hm, Nat.toDigits_zero])
    · exact .inr (head_toDigits m (by omega))
  have hjson : ∀ (negative : Bool) (m : Nat), m < 0x10000000000000000 →
      json ⟨negative, Nat.toDigits 10 m, none, none⟩ = integer negative m := by
    intro negative m hm
    have hacc := accumulate_eq (Nat.toDigits 10 m) 0 (by rw [readDigits_toDigits]; exact hm)
    rw [readDigits_toDigits] at hacc
    simp [json, hacc]
  cases n with
  | ofNat m =>
    refine ⟨⟨false, Nat.toDigits 10 m, none, none⟩, hproper false m, ?_, ?_⟩
    · have htext : toString (Int.ofNat m) = toString m := rfl
      rw [htext, Nat.toString_eq_ofList_toDigits]
      simp [chars, fractionChars, exponentChars]
    · have hm : m < 0x10000000000000000 := Int.ofNat_lt.mp hhi
      rw [hjson false m hm]
      rfl
  | negSucc m =>
    refine ⟨⟨true, Nat.toDigits 10 (m + 1), none, none⟩, hproper true (m + 1), ?_, ?_⟩
    · have htext : toString (Int.negSucc m) = "-" ++ toString (m + 1) := rfl
      rw [htext, Nat.toString_eq_ofList_toDigits]
      simp [chars, fractionChars, exponentChars]
    · have hle : m + 1 ≤ 0x8000000000000000 := by omega
      rw [hjson true (m + 1) (by omega), integer]
      simp only [Bool.not_true, Bool.false_eq_true, if_false]
      rw [if_pos (by simp [hle])]
      rfl

end Literal

end Json

namespace DoubleNotation

open Json

theorem isDigits_append (ds es : List Char) (hd : IsDigits ds) (he : ∀ c ∈ es, c.isDigit = true) :
    IsDigits (ds ++ es) := by
  refine ⟨by simp [hd.1], ?_⟩
  intro c hc
  rcases List.mem_append.mp hc with hc | hc
  · exact hd.2 c hc
  · exact he c hc

theorem isDigit_of_mem_zeros (n : Nat) (c : Char) (h : c ∈ zeros n) : c.isDigit = true := by
  rw [List.eq_of_mem_replicate h]
  decide

/-- Positional notation has a whole part and a fraction. -/
theorem exists_positional (negative : Bool) (digits : List Char) (e : Int) (hd : IsDigits digits)
    (hlead : digits.head? ≠ some '0') :
    ∃ l : Literal, l.Proper ∧
      l.chars = (if negative then ['-'] else []) ++ positional digits e := by
  have hzero : IsDigits ['0'] := ⟨by simp, by simp⟩
  by_cases he : 0 ≤ e
  · refine ⟨⟨negative, digits ++ zeros e.toNat, some ['0'], none⟩,
      ⟨isDigits_append digits _ hd (isDigit_of_mem_zeros _), .inr ?_, ?_, by simp⟩, ?_⟩
    · obtain ⟨c, cs, rfl⟩ := List.exists_cons_of_ne_nil hd.1
      simpa using hlead
    · rintro ds ⟨⟩
      exact hzero
    · simp [Literal.chars, Literal.fractionChars, Literal.exponentChars, positional, he]
  · by_cases hp : (-e).toNat < digits.length
    · have htake : digits.take (digits.length - (-e).toNat) ≠ [] := by
        apply List.ne_nil_of_length_pos
        rw [List.length_take]
        omega
      have hdrop : digits.drop (digits.length - (-e).toNat) ≠ [] := by
        apply List.ne_nil_of_length_pos
        rw [List.length_drop]
        omega
      refine ⟨⟨negative, digits.take (digits.length - (-e).toNat),
          some (digits.drop (digits.length - (-e).toNat)), none⟩,
        ⟨⟨htake, fun c hc => hd.2 c (List.mem_of_mem_take hc)⟩, .inr ?_, ?_, by simp⟩, ?_⟩
      · rw [List.head?_take, if_neg (by omega)]
        exact hlead
      · rintro ds ⟨⟩
        exact ⟨hdrop, fun c hc => hd.2 c (List.mem_of_mem_drop hc)⟩
      · simp [Literal.chars, Literal.fractionChars, Literal.exponentChars, positional, he, hp]
    · refine ⟨⟨negative, ['0'], some (zeros ((-e).toNat - digits.length) ++ digits), none⟩,
        ⟨hzero, .inl rfl, ?_, by simp⟩, ?_⟩
      · rintro ds ⟨⟩
        refine ⟨by simp [hd.1], ?_⟩
        intro c hc
        rcases List.mem_append.mp hc with hc | hc
        · exact isDigit_of_mem_zeros _ c hc
        · exact hd.2 c hc
      · simp [Literal.chars, Literal.fractionChars, Literal.exponentChars, positional, he, hp]

/-- Scientific notation has one digit before the point and an exponent. -/
theorem exists_scientific (negative : Bool) (digits : List Char) (lead : Int)
    (hd : IsDigits digits) (hlead : digits.head? ≠ some '0') :
    ∃ l : Literal, l.Proper ∧
      l.chars = (if negative then ['-'] else []) ++ scientific "+" digits lead := by
  have hplus : "+".toList = ['+'] := rfl
  match digits with
  | [] => exact absurd rfl hd.1
  | d :: rest =>
    have hwhole : IsDigits [d] := ⟨by simp, fun c hc => hd.2 c (by simp_all)⟩
    have hexp := isDigits_toDigits lead.natAbs
    cases rest with
    | nil =>
      refine ⟨⟨negative, [d], none, some (decide (lead < 0), digitText lead.natAbs)⟩,
        ⟨hwhole, .inr (by simpa using hlead), by simp, ?_⟩, ?_⟩
      · rintro down ds ⟨⟩
        exact hexp
      · by_cases hneg : lead < 0 <;>
          simp [Literal.chars, Literal.fractionChars, Literal.exponentChars, scientific, hneg,
            hplus]
    | cons c cs =>
      refine ⟨⟨negative, [d], some (c :: cs), some (decide (lead < 0), digitText lead.natAbs)⟩,
        ⟨hwhole, .inr (by simpa using hlead), ?_, ?_⟩, ?_⟩
      · rintro ds ⟨⟩
        exact ⟨by simp, fun x hx => hd.2 x (List.mem_cons_of_mem d hx)⟩
      · rintro down ds ⟨⟩
        exact hexp
      · by_cases hneg : lead < 0 <;>
          simp [Literal.chars, Literal.fractionChars, Literal.exponentChars, scientific, hneg,
            hplus]

theorem exists_magnitude (negative : Bool) (d : Decimal) (hpos : 0 < d.digits) :
    ∃ l : Literal, l.Proper ∧
      l.chars = (if negative then ['-'] else []) ++ document.magnitude d := by
  have hd : IsDigits (digitText d.digits) := isDigits_toDigits d.digits
  have hlead := head_toDigits d.digits hpos
  have hnotation : document.magnitude d = positional (digitText d.digits) d.exponent ∨
      document.magnitude d = scientific "+" (digitText d.digits)
        (d.exponent + (digitText d.digits).length - 1) := by
    unfold magnitude
    dsimp only
    split
    · exact .inl rfl
    · exact .inr rfl
  rcases hnotation with h | h <;> rw [h]
  · exact exists_positional negative _ _ hd hlead
  · exact exists_scientific negative _ _ hd hlead

/-- The written form of a finite double is a literal. -/
theorem exists_document (x : Double) (hx : x.isFinite = true) :
    ∃ l : Literal, l.Proper ∧ (document.write x).toList = l.chars := by
  have hnan : x.isNaN = false := by
    have hfield : x.field < 2047 := by simpa [Double.isFinite] using hx
    simp [Double.isNaN, show x.field ≠ 2047 by omega]
  unfold write
  simp only [hnan, hx, Bool.false_eq_true, if_false, Bool.not_true]
  by_cases hz : x.isZero = true
  · have hzero : IsDigits ['0'] := ⟨by simp, by simp⟩
    refine ⟨⟨x.negative, ['0'], some ['0'], none⟩, ⟨hzero, .inl rfl, ?_, by simp⟩, ?_⟩
    · rintro ds ⟨⟩
      exact hzero
    · rw [if_pos hz, String.toList_ofList]
      cases x.negative <;> rfl
  · have hpos := Double.shortest_digits_pos x document.tie hx (by simpa using hz)
    obtain ⟨l, hl, hchars⟩ := exists_magnitude x.negative _ hpos
    rw [if_neg hz, String.toList_ofList]
    exact ⟨l, hl, hchars.symm⟩

end DoubleNotation

namespace Double

def reread (x : Double) : Json :=
  match Json.Literal.read? (DoubleNotation.document.write x).toList with
  | some (l, _) => l.json
  | none => .beyond

def readsBack (x : Double) : Bool :=
  match x.reread with
  | .float y => y = x
  | _ => false

theorem reread_of_readsBack {x : Double} (h : x.readsBack = true) : x.reread = .float x := by
  unfold readsBack at h
  split at h
  · next y hy =>
    rw [hy, of_decide_eq_true h]
  · cases h

end Double

namespace Json.Literal

/-- Finite doubles are written as literals for what they are read as. -/
theorem exists_double (x : Double) (hx : x.isFinite = true) :
    ∃ l : Literal, l.Proper ∧ (DoubleNotation.document.write x).toList = l.chars ∧
      l.json = x.reread := by
  obtain ⟨l, hl, htext⟩ := DoubleNotation.exists_document x hx
  have hread := read?_chars l [] hl (by simp [EndsNumber])
  rw [List.append_nil] at hread
  refine ⟨l, hl, htext, ?_⟩
  rw [Double.reread, htext, hread]

end Json.Literal

end Provision
