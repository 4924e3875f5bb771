import Provision.Table
import Provision.Double

/-!
# Free-form values

Metadata, parameters and probes are trees of this type. Integers and doubles are
kept apart, so a number keeps its kind through every step. The entries of a map
ascend by key; `Value.table` makes a map from a table.
-/

set_option autoImplicit false

namespace Provision

def int64? (n : Int) : Option Int64 :=
  if -0x8000000000000000 ≤ n ∧ n < 0x8000000000000000 then some (Int64.ofInt n) else none

inductive Value where
  | null
  | bool (b : Bool)
  | int (i : Int64)
  | float (x : Double)
  | string (s : String)
  | list (items : List Value)
  | map (entries : List (String × Value))
  deriving Inhabited

namespace Value

def kind : Value → String
  | null => "null"
  | bool _ => "bool"
  | int _ => "int"
  | float _ => "float"
  | string _ => "string"
  | list _ => "list"
  | map _ => "map"

def isNull : Value → Bool
  | null => true
  | _ => false

def entries? : Value → Option (List (String × Value))
  | map es => some es
  | _ => none

def table (t : Table Value) : Value := map t.entries

mutual

/-- Sameness of trees: kinds agree, doubles are compared as numbers. -/
def same : Value → Value → Bool
  | null, null => true
  | bool a, bool b => a = b
  | int a, int b => a = b
  | float a, float b => a.alike b
  | string a, string b => a = b
  | list as, list bs => sameItems as bs
  | map as, map bs => sameEntries as bs
  | _, _ => false

def sameItems : List Value → List Value → Bool
  | [], [] => true
  | a :: as, b :: bs => same a b && sameItems as bs
  | _, _ => false

def sameEntries : List (String × Value) → List (String × Value) → Bool
  | [], [] => true
  | (k, a) :: as, (l, b) :: bs => k = l && same a b && sameEntries as bs
  | _, _ => false

end

end Value

end Provision
