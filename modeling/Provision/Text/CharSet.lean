/-!
# Sets of characters

A set of characters is an ascending list of boundaries: a code point belongs to
the set when the number of boundaries not above it is odd.
-/

set_option autoImplicit false

namespace Provision

structure CharSet where
  bounds : List Nat

namespace CharSet

def inside : List Nat → Nat → Bool
  | [], _ => false
  | b :: rest, n => if n < b then false else !inside rest n

def contains (s : CharSet) (c : Char) : Bool := inside s.bounds c.toNat

end CharSet

end Provision
