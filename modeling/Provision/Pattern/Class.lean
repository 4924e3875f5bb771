import Provision.Text.CharSet
import Provision.Text.Folding

/-!
# Character classes

The classes of a pattern: ranges and named sets, joined by set operations.
-/

set_option autoImplicit false

namespace Provision

inductive SetOp where
  | intersection
  | difference
  | symmetricDifference
  deriving DecidableEq, Inhabited

def SetOp.apply : SetOp → Bool → Bool → Bool
  | intersection, a, b => a && b
  | difference, a, b => a && !b
  | symmetricDifference, a, b => a != b

inductive CharClass where
  | range (first last : Nat)
  | named (set : CharSet)
  | union (parts : List CharClass)
  | op (op : SetOp) (left right : CharClass)
  | complement (c : CharClass)
  /-- Closed under changes of case, of ASCII letters only or of all letters. -/
  | folded (ascii : Bool) (c : CharClass)
  | bracketed (c : CharClass)
  deriving Inhabited

namespace CharClass

def familyOf (ascii : Bool) (n : Nat) : List Nat :=
  if ascii then Folding.asciiFamily n else Folding.family n

mutual

def has : CharClass → Nat → Bool
  | range first last, n => first ≤ n && n ≤ last
  | named set, n => CharSet.inside set.bounds n
  | union parts, n => hasAny parts n
  | op o left right, n => o.apply (has left n) (has right n)
  | complement c, n => !has c n
  | folded ascii c, n => (familyOf ascii n).any (has c)
  | bracketed c, n => has c n

def hasAny : List CharClass → Nat → Bool
  | [], _ => false
  | c :: rest, n => has c n || hasAny rest n

end

mutual

def depth : CharClass → Nat
  | range _ _ => 0
  | named _ => 0
  | union parts => 1 + depthAll parts
  | op _ left right => 1 + max (depth left) (depth right)
  | complement c => depth c
  | folded _ c => depth c
  | bracketed c => 1 + depth c

def depthAll : List CharClass → Nat
  | [] => 0
  | c :: rest => max (depth c) (depthAll rest)

end

def char (c : Char) : CharClass := range c.toNat c.toNat

def ranges (rs : List (Char × Char)) : CharClass :=
  union (rs.map fun r => range r.1.toNat r.2.toNat)

def ofParts : List CharClass → CharClass
  | [c] => c
  | cs => union cs

def ascii? : String → Option CharClass
  | "alnum" => some (ranges [('0', '9'), ('A', 'Z'), ('a', 'z')])
  | "alpha" => some (ranges [('A', 'Z'), ('a', 'z')])
  | "ascii" => some (range 0 0x7f)
  | "blank" => some (ranges [('\t', '\t'), (' ', ' ')])
  | "cntrl" => some (union [range 0 0x1f, range 0x7f 0x7f])
  | "digit" => some (ranges [('0', '9')])
  | "graph" => some (ranges [('!', '~')])
  | "lower" => some (ranges [('a', 'z')])
  | "print" => some (ranges [(' ', '~')])
  | "punct" => some (union [range 0x21 0x2f, range 0x3a 0x40, range 0x5b 0x60, range 0x7b 0x7e])
  | "space" => some (union [range 0x09 0x0d, range 0x20 0x20])
  | "upper" => some (ranges [('A', 'Z')])
  | "word" => some (ranges [('0', '9'), ('A', 'Z'), ('_', '_'), ('a', 'z')])
  | "xdigit" => some (ranges [('0', '9'), ('A', 'F'), ('a', 'f')])
  | _ => none

end CharClass

end Provision
