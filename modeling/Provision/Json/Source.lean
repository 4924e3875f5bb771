import Provision.Json
import Provision.Source

/-!
# JSON as a source of data

A record is an object, or an array of its fields in order, where fields may be
missing at the end. Only what is read has to denote something.
-/

set_option autoImplicit false

namespace Provision.Json

def text? : Json → Option String
  | string s => some s
  | _ => none

def flag? : Json → Option Bool
  | bool b => some b
  | _ => none

def integer? : Json → Option Int64
  | int n => int64? n
  | _ => none

def present : Json → Option Json
  | null => none
  | j => some j

def items? : Json → Option (List Json)
  | array items => some items
  | _ => none

def members? : Json → Option (List (String × Json))
  | object members => some members
  | _ => none

/-- The members with one of these names, none of them twice. -/
def fieldsOf? (names : List String) (members : List (String × Json)) :
    Option (List (String × Json)) :=
  let known := members.filter fun m => names.contains m.1
  if (known.map Prod.fst).Nodup then some known else none

def record? (names : List String) : Json → Option (List (String × Json))
  | object members => fieldsOf? names members
  | array items => if items.length ≤ names.length then some (names.zip items) else none
  | _ => none

instance : Source Json Option where
  text := text?
  flag := flag?
  integer := integer?
  value := value?
  present j := some j.present
  items := items?
  entries := members?
  record := record?
  fail := none

end Provision.Json
