import Provision.Double.Shortest

/-!
# Written forms of doubles

Both written forms use the shortest decimal; they differ in the range that is
written positionally and in the sign of the exponent. Source code takes
`DoubleNotation.source` and documents take `DoubleNotation.document`.
-/

set_option autoImplicit false

namespace Provision

/-- How the shortest decimal is laid out. A number whose first digit stands at
`10 ^ e` is positional when `least ≤ e < 16`. -/
structure DoubleNotation where
  least : Int
  plus : String
  tie : Tie

namespace DoubleNotation

/-- Positional from `0.0001`; `1e16`, `1e-5`. -/
def source : DoubleNotation := ⟨-4, "", .up⟩

/-- Positional from `0.00001`; `1e+16`, `1e-6`. -/
def document : DoubleNotation := ⟨-5, "+", .even⟩

def digitText (n : Nat) : List Char := Nat.toDigits 10 n

def zeros (n : Nat) : List Char := List.replicate n '0'

/-- `digits · 10 ^ exponent` without an exponent, always with a fraction. -/
def positional (digits : List Char) (exponent : Int) : List Char :=
  if 0 ≤ exponent then digits ++ zeros exponent.toNat ++ ['.', '0']
  else
    let places := (-exponent).toNat
    if places < digits.length then
      digits.take (digits.length - places) ++ '.' :: digits.drop (digits.length - places)
    else '0' :: '.' :: zeros (places - digits.length) ++ digits

/-- One digit before the point, and no point when there is no fraction. -/
def scientific (plus : String) (digits : List Char) (lead : Int) : List Char :=
  let mantissa := match digits with
    | [] => []
    | [d] => [d]
    | d :: rest => d :: '.' :: rest
  let sign := if lead < 0 then ['-'] else plus.toList
  mantissa ++ 'e' :: sign ++ digitText lead.natAbs

def magnitude (n : DoubleNotation) (d : Decimal) : List Char :=
  let digits := digitText d.digits
  let lead := d.exponent + digits.length - 1
  if n.least ≤ lead && lead < 16 then positional digits d.exponent
  else scientific n.plus digits lead

def write (n : DoubleNotation) (x : Double) : String :=
  if x.isNaN then "NaN"
  else
    let sign := if x.negative then ['-'] else []
    if !x.isFinite then String.ofList (sign ++ ['i', 'n', 'f'])
    else if x.isZero then String.ofList (sign ++ ['0', '.', '0'])
    else String.ofList (sign ++ n.magnitude (x.shortest n.tie))

end DoubleNotation

namespace Double

def digitValue (c : Char) : Nat := c.toNat - '0'.toNat

def readDigits (acc : Nat) (cs : List Char) : Nat :=
  cs.foldl (fun n c => 10 * n + digitValue c) acc

def readSign : List Char → Bool × List Char
  | '-' :: rest => (true, rest)
  | '+' :: rest => (false, rest)
  | rest => (false, rest)

def readExponent? : List Char → Option Int
  | [] => some 0
  | c :: rest =>
    if c = 'e' || c = 'E' then
      let (neg, digits) := readSign rest
      if digits.isEmpty || !digits.all Char.isDigit then none
      else
        let n : Nat := readDigits 0 digits
        some (if neg then -(n : Int) else n)
    else none

/-- A decimal number without sign: digits with an optional point among them or at
either end, and an optional exponent. -/
def readMagnitude? (neg : Bool) (cs : List Char) : Option Double :=
  let whole := cs.takeWhile Char.isDigit
  let rest := cs.dropWhile Char.isDigit
  let (places, tail) := match rest with
    | '.' :: more => (more.takeWhile Char.isDigit, more.dropWhile Char.isDigit)
    | _ => ([], rest)
  if whole.isEmpty && places.isEmpty then none
  else do
    let exponent ← readExponent? tail
    some (ofDecimal neg (readDigits (readDigits 0 whole) places) (exponent - places.length))

/-- Reads a decimal number, or a name of infinity or of not-a-number in any case. -/
def read? (text : String) : Option Double :=
  let (neg, cs) := readSign text.toList
  let name := String.ofList (cs.map Char.toLower)
  if name = "inf" || name = "infinity" then some (infinity neg)
  else if name = "nan" then some notANumber
  else readMagnitude? neg cs

end Double

end Provision
