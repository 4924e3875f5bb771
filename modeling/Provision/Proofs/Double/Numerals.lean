import Provision.Proofs.Double.Intervals
import Provision.Proofs.Json.Literal

/-!
# Numerals

The source form of a finite double is a numeral for its shortest decimal, with a sign in
front: read without rounding, it gives that decimal back in either layout. So finite
doubles with the same numeral have the same word, the two zeros included. A numeral is
made of digits, `.`, `-` and `e` only, and so is the text of an integer.
-/

set_option autoImplicit false

namespace Provision

open Json (IsDigits EndsDigits takeWhile_digits dropWhile_digits isDigits_toDigits
  readDigits_toDigits)

namespace Double

theorem endsDigits_cons {c : Char} (h : c.isDigit = false) (cs : List Char) :
    EndsDigits (c :: cs) := by
  intro d hd
  cases Option.mem_some.mp hd
  exact h

theorem readDigits_append (acc : Nat) (cs ds : List Char) :
    readDigits acc (cs ++ ds) = readDigits (readDigits acc cs) ds :=
  List.foldl_append

/-- Zeros after a number shift it. -/
theorem readDigits_zeros (acc n : Nat) :
    readDigits acc (DoubleNotation.zeros n) = acc * 10 ^ n := by
  induction n generalizing acc with
  | zero => exact (Nat.mul_one acc).symm
  | succ n ih =>
    have hstep : readDigits acc (DoubleNotation.zeros (n + 1)) =
        readDigits (10 * acc + 0) (DoubleNotation.zeros n) := rfl
    rw [hstep, ih, pow_succ]
    ring

def readPlaces : List Char → List Char × List Char
  | '.' :: more => (more.takeWhile Char.isDigit, more.dropWhile Char.isDigit)
  | rest => ([], rest)

/-- The number that an unsigned numeral denotes, before any rounding. -/
def denoted? (cs : List Char) : Option ℚ :=
  let whole := cs.takeWhile Char.isDigit
  let (places, tail) := readPlaces (cs.dropWhile Char.isDigit)
  (readExponent? tail).map fun e =>
    readDigits 0 (whole ++ places) * (10 : ℚ) ^ (e - (places.length : Int))

theorem denoted?_point (whole places tail : List Char) (hw : ∀ c ∈ whole, c.isDigit = true)
    (hp : ∀ c ∈ places, c.isDigit = true) (ht : EndsDigits tail) :
    denoted? (whole ++ '.' :: (places ++ tail)) = (readExponent? tail).map fun e =>
      readDigits 0 (whole ++ places) * (10 : ℚ) ^ (e - (places.length : Int)) := by
  have hpoint : EndsDigits ('.' :: (places ++ tail)) := endsDigits_cons (by decide) _
  have hplaces : readPlaces ('.' :: (places ++ tail)) = (places, tail) := by
    rw [readPlaces, takeWhile_digits places _ hp ht, dropWhile_digits places _ hp ht]
  rw [denoted?, takeWhile_digits whole _ hw hpoint, dropWhile_digits whole _ hw hpoint, hplaces]

theorem denoted?_exponent (whole tail : List Char) (hw : ∀ c ∈ whole, c.isDigit = true) :
    denoted? (whole ++ 'e' :: tail) = (readExponent? ('e' :: tail)).map fun e =>
      readDigits 0 whole * (10 : ℚ) ^ e := by
  have hmark : EndsDigits ('e' :: tail) := endsDigits_cons (by decide) tail
  rw [denoted?, takeWhile_digits whole _ hw hmark, dropWhile_digits whole _ hw hmark]
  simp [readPlaces]

theorem denoted?_minus (cs : List Char) : denoted? ('-' :: cs) = none := by
  simp [denoted?, readPlaces, readExponent?]

end Double

namespace DoubleNotation

open Double

theorem readExponent?_of_sign {cs digits : List Char} {neg : Bool}
    (hs : readSign cs = (neg, digits)) (hd : IsDigits digits) :
    readExponent? ('e' :: cs) =
      some (if neg then -(readDigits 0 digits : Int) else readDigits 0 digits) := by
  have hempty : digits.isEmpty = false := List.isEmpty_eq_false_iff.mpr hd.1
  have hall : digits.all Char.isDigit = true := List.all_eq_true.mpr hd.2
  simp only [readExponent?, hs, hempty, hall, decide_true, Bool.true_or, Bool.not_true,
    Bool.false_or, Bool.false_eq_true, if_true, if_false]

/-- The exponent of a numeral is read back. -/
theorem readExponent?_lead (lead : Int) :
    readExponent? ('e' :: ((if lead < 0 then ['-'] else []) ++ digitText lead.natAbs)) =
      some lead := by
  have hd : IsDigits (digitText lead.natAbs) := isDigits_toDigits lead.natAbs
  have hread : readDigits 0 (digitText lead.natAbs) = lead.natAbs :=
    readDigits_toDigits lead.natAbs
  by_cases hneg : lead < 0
  · have hsign : readSign ('-' :: digitText lead.natAbs) = (true, digitText lead.natAbs) := rfl
    rw [if_pos hneg, List.singleton_append, readExponent?_of_sign hsign hd, hread, if_pos rfl]
    congr 1
    omega
  · have hsign : readSign (digitText lead.natAbs) = (false, digitText lead.natAbs) := by
      rw [readSign]
      · intro rest heq
        exact absurd (hd.2 '-' (by simp [heq])) (by decide)
      · intro rest heq
        exact absurd (hd.2 '+' (by simp [heq])) (by decide)
    rw [if_neg hneg, List.nil_append, readExponent?_of_sign hsign hd, hread,
      if_neg Bool.false_ne_true]
    congr 1
    omega

/-- Positional notation denotes the digits at their place. -/
theorem denoted?_positional (digits : List Char) (e : Int)
    (hd : ∀ c ∈ digits, c.isDigit = true) :
    denoted? (positional digits e) = some (readDigits 0 digits * (10 : ℚ) ^ e) := by
  have hnil : EndsDigits [] := by
    intro c hc
    cases hc
  have hzero : ∀ c ∈ ['0'], c.isDigit = true := by simp
  unfold positional
  by_cases he : 0 ≤ e
  · obtain ⟨n, rfl⟩ := Int.eq_ofNat_of_zero_le he
    have hdigits : ∀ c ∈ digits ++ zeros n, c.isDigit = true := by
      intro c hc
      rcases List.mem_append.mp hc with hc | hc
      · exact hd c hc
      · exact isDigit_of_mem_zeros n c hc
    have hread : readDigits 0 (digits ++ zeros n ++ ['0']) = readDigits 0 digits * 10 ^ n * 10 := by
      have hlast := readDigits_zeros (readDigits 0 digits * 10 ^ n) 1
      rw [pow_one] at hlast
      rw [readDigits_append, readDigits_append, readDigits_zeros]
      exact hlast
    rw [if_pos he, Int.toNat_natCast]
    refine (denoted?_point (digits ++ zeros n) ['0'] [] hdigits hzero hnil).trans ?_
    rw [hread, readExponent?, Option.map_some]
    congr 1
    push_cast
    simp
  · rw [if_neg he]
    dsimp only
    have hexp : (0 : Int) - ((-e).toNat : Int) = e := by omega
    split
    · next hlt =>
      have hlen : (digits.drop (digits.length - (-e).toNat)).length = (-e).toNat := by
        rw [List.length_drop]
        omega
      have htext := denoted?_point (digits.take (digits.length - (-e).toNat))
        (digits.drop (digits.length - (-e).toNat)) []
        (fun c hc => hd c (List.mem_of_mem_take hc)) (fun c hc => hd c (List.mem_of_mem_drop hc))
        hnil
      rw [List.append_nil, List.take_append_drop, hlen, readExponent?, Option.map_some, hexp]
        at htext
      exact htext
    · next hge =>
      have hlen : (zeros ((-e).toNat - digits.length) ++ digits).length = (-e).toNat := by
        simp only [zeros, List.length_append, List.length_replicate]
        omega
      have hplaces : ∀ c ∈ zeros ((-e).toNat - digits.length) ++ digits, c.isDigit = true := by
        intro c hc
        rcases List.mem_append.mp hc with hc | hc
        · exact isDigit_of_mem_zeros _ c hc
        · exact hd c hc
      have hread : readDigits 0 (['0'] ++ (zeros ((-e).toNat - digits.length) ++ digits)) =
          readDigits 0 digits := by
        rw [readDigits_append, readDigits_append, readDigits_zeros]
        have hlead : readDigits 0 ['0'] = 0 := rfl
        rw [hlead, Nat.zero_mul]
      have htext := denoted?_point ['0'] _ [] hzero hplaces hnil
      rw [List.append_nil, hread, hlen, readExponent?, Option.map_some, hexp] at htext
      exact htext

/-- Scientific notation denotes the digits at their place. -/
theorem denoted?_scientific (digits : List Char) (e : Int) (hd : IsDigits digits) :
    denoted? (scientific "" digits (e + digits.length - 1)) =
      some (readDigits 0 digits * (10 : ℚ) ^ e) := by
  match digits with
  | [] => exact absurd rfl hd.1
  | [d] =>
    have hlead : e + ([d].length : Int) - 1 = e := by simp
    rw [hlead]
    have htext := denoted?_exponent [d] ((if e < 0 then ['-'] else []) ++ digitText e.natAbs) hd.2
    rw [readExponent?_lead, Option.map_some] at htext
    exact htext
  | d :: c :: rest =>
    generalize hl : e + ((d :: c :: rest).length : Int) - 1 = lead
    have hexp : lead - ((c :: rest).length : Int) = e := by
      simp only [List.length_cons] at hl ⊢
      omega
    have hmark : EndsDigits
        ('e' :: ((if lead < 0 then ['-'] else []) ++ digitText lead.natAbs)) :=
      endsDigits_cons (by decide) _
    have htext := denoted?_point [d] (c :: rest) _
      (fun x hx => hd.2 x (by simp_all)) (fun x hx => hd.2 x (List.mem_cons_of_mem d hx)) hmark
    rw [readExponent?_lead, Option.map_some, hexp] at htext
    have hsame : scientific "" (d :: c :: rest) lead = [d] ++ '.' :: ((c :: rest) ++
        'e' :: ((if lead < 0 then ['-'] else []) ++ digitText lead.natAbs)) := by
      simp [scientific]
    rw [hsame]
    exact htext

theorem denoted?_magnitude (d : Decimal) : denoted? (source.magnitude d) = some d.value := by
  have hd : IsDigits (digitText d.digits) := isDigits_toDigits d.digits
  have hread : readDigits 0 (digitText d.digits) = d.digits := readDigits_toDigits d.digits
  unfold magnitude Decimal.value
  dsimp only
  split
  · rw [denoted?_positional _ _ hd.2, hread]
  · have htext := denoted?_scientific (digitText d.digits) d.exponent hd
    rw [hread] at htext
    exact htext

def IsNumeral (c : Char) : Prop := c.isDigit = true ∨ c = '.' ∨ c = '-' ∨ c = 'e'

instance : DecidablePred IsNumeral := fun c =>
  inferInstanceAs (Decidable (c.isDigit = true ∨ c = '.' ∨ c = '-' ∨ c = 'e'))

theorem isNumeral_digits {cs : List Char} (h : ∀ c ∈ cs, c.isDigit = true) :
    ∀ c ∈ cs, IsNumeral c :=
  fun c hc => .inl (h c hc)

theorem isNumeral_positional (digits : List Char) (e : Int)
    (hd : ∀ c ∈ digits, c.isDigit = true) : ∀ c ∈ positional digits e, IsNumeral c := by
  have hz := fun n => isNumeral_digits (isDigit_of_mem_zeros n)
  have hpoint : IsNumeral '.' := by decide
  unfold positional
  dsimp only
  split_ifs
  · rw [List.forall_mem_append, List.forall_mem_append]
    exact ⟨⟨isNumeral_digits hd, hz _⟩, by simp [IsNumeral]⟩
  · rw [List.forall_mem_append, List.forall_mem_cons]
    exact ⟨isNumeral_digits fun c hc => hd c (List.mem_of_mem_take hc), hpoint,
      isNumeral_digits fun c hc => hd c (List.mem_of_mem_drop hc)⟩
  · rw [List.forall_mem_append, List.forall_mem_cons, List.forall_mem_cons]
    exact ⟨⟨by decide, hpoint, hz _⟩, isNumeral_digits hd⟩

theorem isNumeral_scientific (digits : List Char) (lead : Int)
    (hd : ∀ c ∈ digits, c.isDigit = true) :
    ∀ c ∈ scientific "" digits lead, IsNumeral c := by
  have hexp : ∀ c ∈ digitText lead.natAbs, IsNumeral c :=
    isNumeral_digits (isDigits_toDigits lead.natAbs).2
  have hsign : ∀ c ∈ (if lead < 0 then ['-'] else "".toList), IsNumeral c := by
    split <;> simp [IsNumeral]
  unfold scientific
  dsimp only
  rw [List.forall_mem_append, List.forall_mem_append, List.forall_mem_cons]
  refine ⟨⟨?_, by decide, hsign⟩, hexp⟩
  match digits with
  | [] => simp
  | [d] => exact isNumeral_digits hd
  | d :: c :: rest =>
    have hds := isNumeral_digits hd
    rw [List.forall_mem_cons] at hds
    rw [List.forall_mem_cons, List.forall_mem_cons]
    exact ⟨hds.1, by decide, hds.2⟩

theorem isNumeral_magnitude (d : Decimal) : ∀ c ∈ source.magnitude d, IsNumeral c := by
  have hd := (isDigits_toDigits d.digits).2
  unfold magnitude
  dsimp only
  split
  · exact isNumeral_positional _ _ hd
  · exact isNumeral_scientific _ _ hd

def unsigned (x : Double) : List Char :=
  if x.isZero then ['0', '.', '0'] else source.magnitude (x.shortest source.tie)

theorem write_eq (x : Double) (hx : x.isFinite = true) :
    (source.write x).toList = (if x.negative then ['-'] else []) ++ unsigned x := by
  have hfield : x.field < 2047 := by simpa [isFinite] using hx
  have hnan : x.isNaN = false := by simp [isNaN, show x.field ≠ 2047 by omega]
  unfold write unsigned
  simp only [hnan, hx, Bool.false_eq_true, if_false, Bool.not_true]
  by_cases hz : x.isZero = true
  · rw [if_pos hz, if_pos hz, String.toList_ofList]
  · rw [if_neg hz, if_neg hz, String.toList_ofList]

/-- The source form of a finite double holds nothing but numeral characters. -/
theorem isNumeral_write (x : Double) (hx : x.isFinite = true) :
    ∀ c ∈ (source.write x).toList, IsNumeral c := by
  rw [write_eq x hx, List.forall_mem_append]
  constructor
  · split <;> simp [IsNumeral]
  · unfold unsigned
    split
    · simp [IsNumeral]
    · exact isNumeral_magnitude _

/-- Zero apart, the unsigned form denotes the shortest decimal. -/
theorem denoted?_unsigned (x : Double) :
    denoted? (unsigned x) = some (if x.isZero then 0 else (x.shortest source.tie).value) := by
  unfold unsigned
  split
  · have hzero : readDigits 0 ['0'] = 0 := rfl
    have htext := denoted?_positional ['0'] 0 (by simp)
    rw [hzero, Nat.cast_zero, zero_mul] at htext
    exact htext
  · exact denoted?_magnitude _

/-- Finite doubles with the same source form have the same word. -/
theorem write_injective {x y : Double} (hx : x.isFinite = true) (hy : y.isFinite = true)
    (h : source.write x = source.write y) : x = y := by
  have htext := congrArg String.toList h
  rw [write_eq x hx, write_eq y hy] at htext
  have hminus : ∀ (z : Double) (cs : List Char), unsigned z ≠ '-' :: cs := by
    intro z cs hz
    have hread := denoted?_unsigned z
    rw [hz, denoted?_minus] at hread
    cases hread
  have hsign : x.negative = y.negative := by
    match hxs : x.negative, hys : y.negative with
    | false, false => rfl
    | true, true => rfl
    | false, true =>
      rw [hxs, hys] at htext
      exact absurd htext (hminus x _)
    | true, false =>
      rw [hxs, hys] at htext
      exact absurd htext.symm (hminus y _)
  rw [hsign] at htext
  have hvalue := congrArg denoted? (List.append_cancel_left htext)
  rw [denoted?_unsigned, denoted?_unsigned, Option.some.injEq] at hvalue
  match hxz : x.isZero, hyz : y.isZero with
  | false, false =>
    rw [hxz, hyz] at hvalue
    exact eq_of_shortest_value hsign hx hy hxz hyz hvalue
  | false, true =>
    rw [hxz, hyz] at hvalue
    exact absurd hvalue (shortest_value_pos x _ hx hxz).ne'
  | true, false =>
    rw [hxz, hyz] at hvalue
    exact absurd hvalue (shortest_value_pos y _ hy hyz).ne
  | true, true =>
    simp only [isZero, Bool.and_eq_true_iff, decide_eq_true_eq] at hxz hyz
    apply eq_of_parts hsign
    · rw [exponent, exponent, hxz.1, hyz.1]
    · rw [significand, significand, hxz.1, hyz.1, hxz.2, hyz.2]

theorem isNumeral_int (n : Int) : ∀ c ∈ (toString n).toList, IsNumeral c := by
  cases n with
  | ofNat m =>
    have htext : toString (Int.ofNat m) = toString m := rfl
    rw [htext, Nat.toString_eq_ofList_toDigits, String.toList_ofList]
    exact isNumeral_digits (isDigits_toDigits m).2
  | negSucc m =>
    have htext : toString (Int.negSucc m) = "-" ++ toString (m + 1) := rfl
    rw [htext, Nat.toString_eq_ofList_toDigits, String.toList_append, List.forall_mem_append]
    refine ⟨by simp [IsNumeral], ?_⟩
    rw [String.toList_ofList]
    exact isNumeral_digits (isDigits_toDigits (m + 1)).2

/-- Integers of 64 bits with the same text are the same. -/
theorem int_injective {i j : Int64} (h : toString i.toInt = toString j.toInt) : i = j := by
  have hread : ∀ k : Int64, ∃ l : Json.Literal, l.json = .int k.toInt ∧
      Json.Literal.read? (toString k.toInt).toList = some (l, []) := by
    intro k
    have hlo := k.le_toInt
    have hhi := k.toInt_lt
    obtain ⟨l, hl, htext, hjson⟩ := Json.Literal.exists_int k.toInt (by omega) (by omega)
    have hchars := Json.Literal.read?_chars l [] hl (by simp [Json.EndsNumber])
    rw [List.append_nil, ← htext] at hchars
    exact ⟨l, hjson, hchars⟩
  obtain ⟨l, hl, hi⟩ := hread i
  obtain ⟨m, hm, hj⟩ := hread j
  rw [h, hj, Option.some.injEq, Prod.mk.injEq] at hi
  rw [← hi.1, hm, Json.int.injEq] at hl
  exact (Int64.toInt_inj.mp hl).symm

end DoubleNotation

end Provision
