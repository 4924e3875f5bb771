import Provision.Json

/-!
# Numbers in JSON text

A literal without fraction and exponent that fits a 64-bit word, signed or not,
is an integer. Any other literal is a double, computed from a 64-bit significand
and a decimal exponent with one rounding per operation; digits that do not fit
the significand only count for the exponent.
-/

set_option autoImplicit false

namespace Provision.Json

structure Literal where
  negative : Bool
  whole : List Char
  fraction : Option (List Char)
  exponent : Option (Bool × List Char)

namespace Literal

/-- Takes digits while the significand fits 64 bits; the rest is left over. -/
def accumulate (significand : Nat) : List Char → Nat × List Char
  | [] => (significand, [])
  | c :: rest =>
    let next := 10 * significand + Double.digitValue c
    if next < 0x10000000000000000 then accumulate next rest else (significand, c :: rest)

def power (k : Nat) : Double := Double.ofRatio false (Nat.pow 10 k) 1

/-- `x · 10 ^ e` by table: one multiplication, or divisions by at most `10 ^ 308` each. -/
def scaleTen : Nat → Double → Int → Option Double
  | 0, x, _ => some x
  | fuel + 1, x, e =>
    if 308 < e then (if x.isZero then some x else none)
    else if 0 ≤ e then
      let y := x.mulMagnitude (power e.toNat)
      if y.isFinite then some y else none
    else if -308 ≤ e then some (x.divMagnitude (power (-e).toNat))
    else if x.isZero then some x
    else scaleTen fuel (x.divMagnitude (power 308)) (e + 308)

def signed (negative : Bool) (x : Double) : Double := if negative then x.negate else x

def ofParts (negative : Bool) (significand : Nat) (e : Int) : Json :=
  match scaleTen 8 (Double.ofNat significand) e with
  | some x => .float (signed negative x)
  | none => .beyond

/-- The greatest exponent that is computed with; larger ones overflow or vanish. -/
def greatestExponent : Nat := 0x7fffffff

def withExponent (negative : Bool) (significand : Nat) (start : Int) :
    Option (Bool × List Char) → Json
  | none => ofParts negative significand start
  | some (down, digits) =>
    let e := Double.readDigits 0 digits
    if greatestExponent < e then
      if significand = 0 || down then .float (Double.zero negative) else .beyond
    else ofParts negative significand (if down then start - e else start + e)

def integer (negative : Bool) (significand : Nat) : Json :=
  if !negative then .int significand
  else if 0 < significand && significand ≤ 0x8000000000000000 then .int (-(significand : Int))
  else .float (Double.ofNat significand).negate

def json (l : Literal) : Json :=
  let (significand, left) := accumulate 0 l.whole
  match l.fraction with
  | some digits =>
    let (significand, skipped) := accumulate significand digits
    let taken := digits.length - skipped.length
    withExponent l.negative significand ((left.length : Int) - taken) l.exponent
  | none =>
    if left.isEmpty && l.exponent.isNone then integer l.negative significand
    else withExponent l.negative significand left.length l.exponent

def readExponent? : List Char → Option (Option (Bool × List Char) × List Char)
  | [] => some (none, [])
  | c :: rest =>
    if c = 'e' || c = 'E' then
      let (down, more) := Double.readSign rest
      let digits := more.takeWhile Char.isDigit
      if digits.isEmpty then none else some (some (down, digits), more.dropWhile Char.isDigit)
    else some (none, c :: rest)

def readFraction? : List Char → Option (Option (List Char) × List Char)
  | '.' :: rest =>
    let digits := rest.takeWhile Char.isDigit
    if digits.isEmpty then none else some (some digits, rest.dropWhile Char.isDigit)
  | rest => some (none, rest)

/-- The whole part: a lone zero, or digits that do not start with zero. -/
def readWhole? (cs : List Char) : Option (List Char × List Char) :=
  let digits := cs.takeWhile Char.isDigit
  let rest := cs.dropWhile Char.isDigit
  match digits with
  | [] => none
  | '0' :: _ :: _ => none
  | digits => some (digits, rest)

def readMagnitude? (negative : Bool) (cs : List Char) : Option (Literal × List Char) := do
  let (whole, cs) ← readWhole? cs
  let (fraction, cs) ← readFraction? cs
  let (exponent, cs) ← readExponent? cs
  some (⟨negative, whole, fraction, exponent⟩, cs)

def read? : List Char → Option (Literal × List Char)
  | '-' :: rest => readMagnitude? true rest
  | cs => readMagnitude? false cs

end Literal

end Provision.Json
