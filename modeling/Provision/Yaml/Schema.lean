import Provision.Value
import Provision.Double.Notation

/-!
# What plain scalars mean

Without a tag, a plain scalar is null, a flag, an integer, a double or text, in
this order of preference.
-/

set_option autoImplicit false

namespace Provision.Yaml

def isNullWord (s : String) : Bool := ["~", "null", "Null", "NULL"].contains s

def flag? (s : String) : Option Bool :=
  if ["true", "True", "TRUE"].contains s then some true
  else if ["false", "False", "FALSE"].contains s then some false
  else none

def digitOf? (base : Nat) (c : Char) : Option Nat :=
  let n := c.toNat
  let digit := if c.isDigit then some (n - '0'.toNat)
    else if 'a' ≤ c ∧ c ≤ 'f' then some (n - 'a'.toNat + 10)
    else if 'A' ≤ c ∧ c ≤ 'F' then some (n - 'A'.toNat + 10)
    else none
  digit.filter (· < base)

def magnitude? (base : Nat) (cs : List Char) : Option Nat :=
  if cs.isEmpty then none
  else cs.foldlM (fun acc c => (digitOf? base c).map (base * acc + ·)) 0

def unsigned : List Char → List Char
  | '+' :: rest => rest
  | '-' :: rest => rest
  | cs => cs

/-- Several digits behind a zero are text, not a number. -/
def isPadded (cs : List Char) : Bool :=
  match unsigned cs with
  | '0' :: c :: rest => (c :: rest).all Char.isDigit
  | _ => false

def natural? : List Char → Option Nat
  | '0' :: 'x' :: rest => magnitude? 16 rest
  | '0' :: 'o' :: rest => magnitude? 8 rest
  | '0' :: 'b' :: rest => magnitude? 2 rest
  | cs => if isPadded cs then none else magnitude? 10 cs

def integer? (s : String) : Option Int :=
  match s.toList with
  | '-' :: rest => (natural? rest).map fun n => -(n : Int)
  | '+' :: rest => (natural? rest).map Int.ofNat
  | cs => (natural? cs).map Int.ofNat

/-- Past 128 bits, digits no longer make an integer. -/
def isInteger (n : Int) : Bool :=
  -0x80000000000000000000000000000000 ≤ n && n < 0x100000000000000000000000000000000

def infinityWords : List String := [".inf", ".Inf", ".INF"]

def double? (s : String) : Option Double :=
  let cs := s.toList
  let positive := match cs with
    | '+' :: rest => rest
    | _ => cs
  if cs.head? = some '+' && (positive.head? = some '+' || positive.head? = some '-') then none
  else if infinityWords.contains (String.ofList positive) then some (Double.infinity false)
  else if infinityWords.any (fun w => s = "-" ++ w) then some (Double.infinity true)
  else if [".nan", ".NaN", ".NAN"].contains s then some Double.notANumber
  else (Double.read? (String.ofList positive)).filter Double.isFinite

/-- The value of a plain scalar without a tag. None for an integer of more than
64 signed bits. -/
def plainValue? (s : String) : Option Value :=
  if s.isEmpty || isNullWord s then some .null
  else match flag? s with
    | some b => some (.bool b)
    | none =>
      match (integer? s).filter isInteger with
      | some n => (int64? n).map .int
      | none =>
        match if isPadded s.toList then none else double? s with
        | some x => some (.float x)
        | none => some (.string s)

end Provision.Yaml
