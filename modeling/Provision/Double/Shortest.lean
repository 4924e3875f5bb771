import Provision.Double

/-!
# The shortest decimal of a double

A finite nonzero double stands for every real that rounds to it, an interval
whose ends belong to it when the significand is even. Its shortest decimal is
the decimal of fewest digits in that interval, and of those the nearest to the
double. For each digit count only the two neighbours of the double on that
decimal grid can qualify; when both are equally near, the notation decides.
-/

set_option autoImplicit false

namespace Provision

structure Decimal where
  digits : Nat
  exponent : Int
  deriving DecidableEq, Inhabited

namespace Decimal

def dropZeros : Nat → Nat → Int → Decimal
  | 0, digits, exponent => ⟨digits, exponent⟩
  | fuel + 1, digits, exponent =>
    if digits % 10 = 0 then dropZeros fuel (digits / 10) (exponent + 1) else ⟨digits, exponent⟩

end Decimal

inductive Tie where
  | up
  | even
  deriving DecidableEq

def Tie.choose (t : Tie) (d : Nat) : Nat :=
  match t with
  | .up => d + 1
  | .even => d + d % 2

/-- A quantity `num / den` with the interval of reals around it that count as it. -/
structure Rounding where
  low : Nat
  value : Nat
  high : Nat
  den : Nat
  closed : Bool

namespace Rounding

/-- The interval of a finite double, over one denominator. The gap below a power
of two is half the gap above it. -/
def ofDouble (x : Double) : Rounding :=
  let m := x.significand
  let below := if x.fraction = 0 && 1 < x.field then 1 else 2
  let e := x.exponent - 2
  let (unit, den) := if 0 ≤ e then (Nat.pow 2 e.toNat, 1) else (1, Nat.pow 2 (-e).toNat)
  { low := (4 * m - below) * unit
    value := 4 * m * unit
    high := (4 * m + 2) * unit
    den
    closed := m % 2 = 0 }

def holds (r : Rounding) (d num unit : Nat) : Bool :=
  let p := d * num * r.den
  if r.closed then r.low * unit ≤ p && p ≤ r.high * unit
  else r.low * unit < p && p < r.high * unit

def tenPower (k : Int) : Nat × Nat :=
  if 0 ≤ k then (Nat.pow 10 k.toNat, 1) else (1, Nat.pow 10 (-k).toNat)

def onGrid (r : Rounding) (tie : Tie) (k : Int) : Option Nat :=
  let (num, unit) := tenPower k
  let step := num * r.den
  let d := r.value * unit / step
  let rest := r.value * unit % step
  match r.holds d num unit, r.holds (d + 1) num unit with
  | true, true =>
    some (if 2 * rest < step then d else if step < 2 * rest then d + 1 else tie.choose d)
  | true, false => some d
  | false, true => some (d + 1)
  | false, false => none

def search (r : Rounding) (tie : Tie) : Nat → Int → Decimal
  | 0, k => ⟨r.value * (tenPower k).2 / ((tenPower k).1 * r.den), k⟩
  | fuel + 1, k =>
    match r.onGrid tie k with
    | some d => if d = 0 then search r tie fuel (k - 1) else Decimal.dropZeros 20 d k
    | none => search r tie fuel (k - 1)

end Rounding

/-- The shortest decimal of a finite nonzero double. The search starts at a grid
coarser than the double itself, from an estimate of its decimal exponent. -/
def Double.shortest (tie : Tie) (x : Double) : Decimal :=
  let bitsExponent := (x.significand.log2 : Int) + x.exponent
  Rounding.search (Rounding.ofDouble x) tie 24 (bitsExponent * 30103 / 100000 + 1)

end Provision
