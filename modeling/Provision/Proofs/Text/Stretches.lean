import Mathlib.Data.List.Basic
import Provision.Text.Numeric
import Provision.Text.Properties

/-!
# Stretches of characters

A set of characters and the table of categories are both constant on stretches of code
points. A property that relates the two is checked stretch by stretch, in one walk along
both tables, and then holds of every character. In this way the categories of upper-case,
lower-case and numeric characters are found.
-/

set_option autoImplicit false

namespace Provision

namespace CharSet

theorem inside_merge (xs ys : List Nat) (n : Nat) :
    inside (xs.merge ys) n = (inside xs n ^^ inside ys n) := by
  induction xs generalizing ys with
  | nil => simp [inside]
  | cons x xs ihx =>
    induction ys with
    | nil => simp [inside]
    | cons y ys ihy =>
      rw [List.cons_merge_cons]
      by_cases hle : x ≤ y
      · rw [if_pos (by simpa using hle), inside, ihx]
        by_cases hn : n < x
        · have hy : n < y := Nat.lt_of_lt_of_le hn hle
          simp [inside, hn, hy]
        · simp [inside, hn]
      · rw [if_neg (by simpa using hle), inside, ihy]
        by_cases hn : n < y
        · have hx : n < x := Nat.lt_trans hn (Nat.lt_of_not_le hle)
          simp [inside, hn, hx]
        · simp [inside, hn]

theorem contains_differing (s t : CharSet) (c : Char) :
    (s.differing t).contains c = (s.contains c ^^ t.contains c) :=
  inside_merge s.bounds t.bounds c.toNat

def stretch (check : Nat → Nat → Bool → Bool) (first stop : Nat) (member : Bool) : Bool :=
  Nat.ble stop first || check first stop member

/-- Checks the stretches of a set from `first` on and before `stop`, and goes on with what
remains of the boundaries. `member` is the side on which the first stretch lies. -/
def walkTo (check : Nat → Nat → Bool → Bool) (stop : Nat) (next : Bool → List Nat → Bool) :
    Nat → Bool → List Nat → Bool
  | first, member, [] => stretch check first stop member && next member []
  | first, member, b :: bounds =>
    bif Nat.blt b stop then stretch check first b member && walkTo check stop next b (!member) bounds
    else stretch check first stop member && next member (b :: bounds)

variable {check : Nat → Nat → Bool → Bool} {stop : Nat} {next : Bool → List Nat → Bool}

theorem stretch_sound {first : Nat} {member : Bool} (h : stretch check first stop member = true)
    {n : Nat} (hfirst : first ≤ n) (hstop : n < stop) :
    ∃ lo hi, lo ≤ n ∧ n < hi ∧ check lo hi member = true := by
  rw [stretch, Bool.or_eq_true, Nat.ble_eq] at h
  rcases h with hempty | hcheck
  · omega
  · exact ⟨first, stop, hfirst, hstop, hcheck⟩

/-- Every point before the end of the walk lies in a stretch that was checked, and what
remains of the boundaries says the same of the points behind it. -/
theorem walkTo_sound {first : Nat} {member : Bool} {bounds : List Nat}
    (h : walkTo check stop next first member bounds = true) :
    (∀ n, first ≤ n → n < stop →
        ∃ lo hi, lo ≤ n ∧ n < hi ∧ check lo hi (member ^^ inside bounds n) = true) ∧
      ∃ side rest, next side rest = true ∧
        ∀ n, stop ≤ n → (member ^^ inside bounds n) = (side ^^ inside rest n) := by
  induction bounds generalizing first member with
  | nil =>
    rw [walkTo, Bool.and_eq_true] at h
    constructor
    · intro n hfirst hstop
      simpa [inside] using stretch_sound h.1 hfirst hstop
    · exact ⟨member, [], h.2, fun n _ => rfl⟩
  | cons b bounds ih =>
    rw [walkTo] at h
    cases hb : Nat.blt b stop with
    | true =>
      have hlt : b < stop := Nat.blt_eq.mp hb
      rw [hb, cond_true, Bool.and_eq_true] at h
      obtain ⟨hbefore, side, rest, hnext, hafter⟩ := ih h.2
      have hpast : ∀ n, b ≤ n →
          (member ^^ inside (b :: bounds) n) = (!member ^^ inside bounds n) := by
        intro n hn
        rw [inside, if_neg (by omega)]
        cases member <;> simp
      constructor
      · intro n hfirst hstop
        by_cases hn : n < b
        · simpa [inside, hn] using stretch_sound h.1 hfirst hn
        · rw [hpast n (by omega)]
          exact hbefore n (by omega) hstop
      · refine ⟨side, rest, hnext, ?_⟩
        intro n hn
        rw [hpast n (by omega)]
        exact hafter n hn
    | false =>
      have hge : ¬ b < stop := fun hlt => by simp [Nat.blt_eq.mpr hlt] at hb
      rw [hb, cond_false, Bool.and_eq_true] at h
      constructor
      · intro n hfirst hstop
        have hn : n < b := by omega
        simpa [inside, hn] using stretch_sound h.1 hfirst hstop
      · exact ⟨member, b :: bounds, h.2, fun n _ => rfl⟩

def after (n : Nat) : Bool → List Nat → Bool × List Nat
  | member, [] => (member, [])
  | member, b :: bounds => bif Nat.ble b n then after n (!member) bounds else (member, b :: bounds)

theorem after_inside {n m : Nat} (hm : n ≤ m) (member : Bool) (bounds : List Nat) :
    ((after n member bounds).1 ^^ inside (after n member bounds).2 m) =
      (member ^^ inside bounds m) := by
  induction bounds generalizing member with
  | nil => rfl
  | cons b bounds ih =>
    rw [after]
    cases hb : Nat.ble b n with
    | true =>
      have hle : b ≤ n := Nat.ble_eq.mp hb
      rw [cond_true, ih, inside, if_neg (by omega)]
      cases member <;> simp
    | false => rw [cond_false]

def holds (member : Bool) (bounds : List Nat) (lo hi : Nat) : Bool :=
  match after lo member bounds with
  | (side, []) => side
  | (side, b :: _) => side && Nat.blt hi b

theorem holds_sound {member : Bool} {bounds : List Nat} {lo hi n : Nat}
    (h : holds member bounds lo hi = true) (hlo : lo ≤ n) (hhi : n ≤ hi) :
    (member ^^ inside bounds n) = true := by
  rw [← after_inside hlo]
  rw [holds] at h
  split at h
  · next side hafter =>
    rw [hafter, h]
    rfl
  · next side b rest hafter =>
    rw [Bool.and_eq_true, Nat.blt_eq] at h
    rw [hafter, h.1, inside, if_pos (by omega)]
    rfl

end CharSet

namespace Category

open CharSet

/-- Checks every stretch of characters on which a set and the category are constant. -/
def walk (check : Nat → Nat → Bool → Category → Bool) :
    Nat → Bool → List Nat → Category → List (Nat × Category) → Bool
  | first, member, bounds, current, [] =>
    walkTo (check · · · current) 0x110000 (fun _ _ => true) first member bounds
  | first, member, bounds, current, (start, next) :: rest =>
    walkTo (check · · · current) start
      (fun member bounds => walk check start member bounds next rest) first member bounds

variable {check : Nat → Nat → Bool → Category → Bool}

theorem walk_sound {first : Nat} {member : Bool} {bounds : List Nat} {current : Category}
    {rest : List (Nat × Category)} (h : walk check first member bounds current rest = true)
    {n : Nat} (hfirst : first ≤ n) (hn : n < 0x110000) :
    ∃ lo hi, lo ≤ n ∧ n < hi ∧
      check lo hi (member ^^ inside bounds n) (scan current rest n) = true := by
  induction rest generalizing first member bounds current with
  | nil =>
    rw [walk] at h
    exact (walkTo_sound h).1 n hfirst hn
  | cons run rest ih =>
    obtain ⟨start, next⟩ := run
    rw [walk] at h
    obtain ⟨hbefore, side, remaining, hnext, hafter⟩ := walkTo_sound h
    rw [scan]
    by_cases hstart : n < start
    · rw [if_pos hstart]
      exact hbefore n hfirst hstart
    · rw [if_neg hstart, hafter n (by omega)]
      exact ih hnext (by omega)

def checked (check : Nat → Nat → Bool → Category → Bool) (s : CharSet) : Bool :=
  walk check 0 false s.bounds .cn runs

theorem checked_sound {s : CharSet} (h : checked check s = true) (c : Char) :
    ∃ lo hi, lo ≤ c.toNat ∧ c.toNat < hi ∧ check lo hi (s.contains c) (of c) = true := by
  have hlt : c.toNat < 0x110000 := by
    rcases c.valid with h | h
    · exact Nat.lt_trans h (by decide)
    · exact h.2
  obtain ⟨lo, hi, hlo, hhi, hcheck⟩ := walk_sound h (Nat.zero_le _) hlt
  rw [Bool.false_xor] at hcheck
  exact ⟨lo, hi, hlo, hhi, hcheck⟩

/-- The iota below a Greek letter: a mark that counts as a lower-case character. -/
def iotaBelow : Char := '\u0345'

def isNumber : Category → Bool
  | .nd | .nl | .no => true
  | _ => false

def upperCheck (_ _ : Nat) (member : Bool) (k : Category) : Bool :=
  !member || k = .lu || k = .nl || k = .so

def lowerCheck (lo hi : Nat) (member : Bool) (k : Category) : Bool :=
  !member || k = .ll || k = .lm || k = .lo || k = .nl ||
    (k = .so && Nat.ble 0x24d0 lo && Nat.ble hi 0x24ea) || (Nat.ble 0x345 lo && Nat.ble hi 0x346)

def ascends : Nat → List (Nat × Category) → Bool
  | _, [] => true
  | last, (first, _) :: rest => bif Nat.ble last first then ascends first rest else false

/-- The tables are evaluated together, as the table of categories is long. -/
theorem tables_agree :
    ascends 0 runs = true ∧ (set isNumber).bounds = numeric.bounds ∧
      checked upperCheck uppercase = true ∧ checked lowerCheck lowercase = true := by
  decide +kernel

/-- The iota below is a lower-case character and no other. -/
theorem contains_iotaBelow :
    of iotaBelow = .mn ∧ lowercase.contains iotaBelow = true ∧
      uppercase.contains iotaBelow = false ∧ numeric.contains iotaBelow = false := by
  decide +kernel

theorem of_uppercase {c : Char} (h : uppercase.contains c = true) : of c ∈ [.lu, .nl, .so] := by
  obtain ⟨lo, hi, -, -, hcheck⟩ := checked_sound tables_agree.2.2.1 c
  simpa [upperCheck, h, or_assoc] using hcheck

theorem of_lowercase {c : Char} (h : lowercase.contains c = true) :
    of c ∈ [.ll, .lm, .lo, .nl] ∨ (of c = .so ∧ 0x24d0 ≤ c.toNat ∧ c.toNat ≤ 0x24e9) ∨
      c = iotaBelow := by
  obtain ⟨lo, hi, hlo, hhi, hcheck⟩ := checked_sound tables_agree.2.2.2 c
  simp only [lowerCheck, h, Bool.not_true, Bool.false_or, Bool.or_eq_true, Bool.and_eq_true,
    decide_eq_true_eq, Nat.ble_eq] at hcheck
  rcases hcheck with (hletter | ⟨⟨hso, hfirst⟩, hlast⟩) | ⟨hfirst, hlast⟩
  · exact .inl (by simpa [or_assoc] using hletter)
  · exact .inr (.inl ⟨hso, by omega, by omega⟩)
  · have hcode : c.toNat = iotaBelow.toNat := by
      rw [show iotaBelow.toNat = 0x345 from rfl]
      omega
    exact .inr (.inr (Char.toNat_inj.mp hcode))

section Sets

theorem ascends_cons {last first : Nat} {next : Category} {rest : List (Nat × Category)}
    (h : ascends last ((first, next) :: rest) = true) :
    last ≤ first ∧ ascends first rest = true := by
  rw [ascends] at h
  cases hle : Nat.ble last first with
  | true =>
    rw [hle, cond_true] at h
    exact ⟨Nat.ble_eq.mp hle, h⟩
  | false => simp [hle] at h

theorem scan_of_lt {current : Category} {rest : List (Nat × Category)} {last n : Nat}
    (h : ascends last rest = true) (hn : n < last) : scan current rest n = current := by
  cases rest with
  | nil => rfl
  | cons run rest =>
    have hfirst := (ascends_cons h).1
    rw [scan, if_pos (by omega)]

/-- The boundaries of the runs in some categories tell these categories apart from the
others, where the runs ascend. -/
theorem xor_inside_boundsWithin (member : Category → Bool) {rest : List (Nat × Category)}
    {last : Nat} (h : ascends last rest = true) (current : Category) (n : Nat) :
    (member current ^^ inside (boundsWithin member (member current) rest) n) =
      member (scan current rest n) := by
  induction rest generalizing last current with
  | nil => simp [boundsWithin, inside, scan]
  | cons run rest ih =>
    obtain ⟨first, next⟩ := run
    have hascends := (ascends_cons h).2
    have hrest := ih hascends next
    rw [boundsWithin, scan]
    by_cases hsame : member next = member current
    · rw [if_pos hsame, ← hsame, hrest]
      by_cases hn : n < first
      · rw [if_pos hn, scan_of_lt hascends hn, hsame]
      · rw [if_neg hn]
    · rw [if_neg hsame, inside]
      by_cases hn : n < first
      · rw [if_pos hn, if_pos hn, Bool.xor_false]
      · rw [if_neg hn, if_neg hn, ← hrest]
        revert hsame
        cases member next <;> cases member current <;> simp

/-- The set of some categories holds the characters of these categories. -/
theorem inside_set {member : Category → Bool} (hnone : member .cn = false) (n : Nat) :
    inside (set member).bounds n = member (scan .cn runs n) := by
  have hscan := xor_inside_boundsWithin member tables_agree.1 .cn n
  rwa [hnone, Bool.false_xor] at hscan

/-- Numeric characters are those of three categories. -/
theorem numeric_iff {c : Char} : numeric.contains c = true ↔ of c ∈ [.nd, .nl, .no] := by
  have hinside := @inside_set isNumber rfl c.toNat
  rw [tables_agree.2.1] at hinside
  rw [contains, hinside, ← of]
  cases of c <;> simp [isNumber]

end Sets

end Category

end Provision
