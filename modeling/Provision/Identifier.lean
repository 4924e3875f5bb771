import Provision.Text.Alphabetic
import Provision.Text.Capital
import Provision.Text.Lowercase
import Provision.Text.Numeric
import Provision.Text.Uppercase

/-!
# Identifiers

A logical path names a workload or a resource. Its component id is a variable
name: the path folded to camel case, followed by the eight hexadecimal digits of
its digest, so that paths with the same folding stay apart. Parameter and output
names become exported field names.
-/

set_option autoImplicit false

namespace Provision

/-- The 32-bit FNV-1a digest. -/
def digest (bytes : List UInt8) : UInt32 :=
  bytes.foldl (fun h b => (h ^^^ b.toUInt32) * 16777619) 2166136261

namespace Identifier

def utf8 (s : String) : List UInt8 := s.toUTF8.data.toList

def hexDigit (n : Nat) : Char := Nat.digitChar (n % 16)

def hexWord (w : UInt32) : List Char :=
  [7, 6, 5, 4, 3, 2, 1, 0].map fun i => hexDigit (w.toNat / Nat.pow 16 i)

/-- Camel case over ASCII: any other character makes the next letter a capital. -/
def camel : Bool → List Char → List Char
  | _, [] => []
  | capital, c :: rest =>
    if c.isDigit then c :: camel capital rest
    else if c.isAlpha then (if capital then c.toUpper else c.toLower) :: camel false rest
    else camel true rest

def stem (s : String) : List Char :=
  match camel false s.toList with
  | [] => ['c']
  | c :: rest => if c.isLower then c :: rest else 'c' :: c :: rest

def component (path : String) : String :=
  String.ofList (stem path ++ hexWord (digest (utf8 path)))

/-- Words start after every character that is neither a letter with case nor
numeric; the first letter of a word is capitalised. -/
def fieldChars : Bool → List Char → List Char
  | _, [] => []
  | start, c :: rest =>
    if CharSet.uppercase.contains c || CharSet.numeric.contains c then c :: fieldChars false rest
    else if CharSet.lowercase.contains c then
      (if start then Capital.form c else [c]) ++ fieldChars false rest
    else fieldChars true rest

def field (name : String) : String := String.ofList (fieldChars true name.toList)

def isWordChar (c : Char) : Bool :=
  CharSet.alphabetic.contains c || CharSet.numeric.contains c || c = '_'

def isExported (name : String) : Bool :=
  match name.toList with
  | [] => false
  | c :: rest => CharSet.uppercase.contains c && isWordChar c && rest.all isWordChar

def pathOfWorkload (workload : String) : String := "workload." ++ workload

/-- A resource with an identity of its own is shared; any other belongs to its workload. -/
def pathOfResource (workload resource : String) : Option String → String
  | some id => "shared." ++ id
  | none => "workload." ++ workload ++ "." ++ resource

end Identifier

end Provision
