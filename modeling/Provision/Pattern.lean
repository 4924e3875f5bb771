import Provision.Pattern.Class
import Provision.Text.Word

/-!
# Patterns

A pattern describes texts by single characters, places between characters,
sequences, choices and repetitions. It matches a text if some stretch of the text
fits. Places are counted in characters from the start of the text.
-/

set_option autoImplicit false

namespace Provision

inductive WordEdge where
  | edge
  | noEdge
  | start
  | stop
  | startHalf
  | stopHalf
  deriving DecidableEq, Inhabited

inductive Look where
  | textStart
  | textEnd
  /-- The start of a line; with `crlf` a carriage return ends lines as well. -/
  | lineStart (crlf : Bool)
  | lineEnd (crlf : Bool)
  | word (ascii : Bool) (kind : WordEdge)
  deriving DecidableEq, Inhabited

inductive Pattern where
  | empty
  | one (c : CharClass)
  | look (l : Look)
  | seq (parts : List Pattern)
  | alt (parts : List Pattern)
  | repeated (p : Pattern) (least : Nat) (most : Option Nat)
  | group (p : Pattern)
  deriving Inhabited

def isWord (ascii : Bool) : Option Char → Bool
  | none => false
  | some c =>
    if ascii then c.isAlphanum || c = '_' else CharSet.word.contains c

def WordEdge.holds : WordEdge → Bool → Bool → Bool
  | edge, before, after => before != after
  | noEdge, before, after => before == after
  | start, before, after => !before && after
  | stop, before, after => before && !after
  | startHalf, before, _ => !before
  | stopHalf, _, after => !after

def Look.holds (before after : Option Char) : Look → Bool
  | textStart => before.isNone
  | textEnd => after.isNone
  | lineStart false => before.isNone || before = some '\n'
  | lineStart true =>
    before.isNone || before = some '\n' || (before = some '\r' && after ≠ some '\n')
  | lineEnd false => after.isNone || after = some '\n'
  | lineEnd true =>
    after.isNone || after = some '\r' || (after = some '\n' && before ≠ some '\r')
  | word ascii kind => kind.holds (isWord ascii before) (isWord ascii after)

namespace Pattern

def before? (text : Array Char) : Nat → Option Char
  | 0 => none
  | i + 1 => text[i]?

def iterate (step : List Nat → List Nat) : Nat → List Nat → List Nat
  | 0, places => places
  | n + 1, places => iterate step n (step places)

/-- All places within `n` steps; a step that yields nothing new is the last. -/
def reach (step : List Nat → List Nat) : Nat → List Nat → List Nat
  | 0, places => places
  | n + 1, places =>
    let fresh := (step places).filter fun i => !places.contains i
    if fresh.isEmpty then places else reach step n (places ++ fresh)

mutual

/-- The places where a stretch that fits and starts in one of the given places
ends. A text has one place more than characters, so no repetition has to be
counted further than that. -/
def ends (text : Array Char) : Pattern → List Nat → List Nat
  | empty, places => places
  | one c, places =>
    places.filterMap fun i =>
      match text[i]? with
      | some x => if c.has x.toNat then some (i + 1) else none
      | none => none
  | look l, places => places.filter fun i => l.holds (before? text i) text[i]?
  | seq parts, places => endsAll text parts places
  | alt parts, places => (endsAny text parts places).eraseDups
  | repeated p least most, places =>
    let places := iterate (ends text p) (min least (text.size + 1)) places
    match most with
    | none => reach (ends text p) (text.size + 1) places
    | some m => reach (ends text p) (min (m - least) (text.size + 1)) places
  | group p, places => ends text p places

def endsAll (text : Array Char) : List Pattern → List Nat → List Nat
  | [], places => places
  | p :: rest, places => endsAll text rest (ends text p places)

def endsAny (text : Array Char) : List Pattern → List Nat → List Nat
  | [], _ => []
  | p :: rest, places => ends text p places ++ endsAny text rest places

end

def isMatch (p : Pattern) (text : String) : Bool :=
  let chars := text.toList.toArray
  !(p.ends chars (List.range (chars.size + 1))).isEmpty

mutual

def depth : Pattern → Nat
  | empty => 0
  | one c => c.depth
  | look _ => 0
  | seq parts => 1 + depthAll parts
  | alt parts => 1 + depthAll parts
  | repeated p _ _ => 1 + depth p
  | group p => 1 + depth p

def depthAll : List Pattern → Nat
  | [] => 0
  | p :: rest => max (depth p) (depthAll rest)

end

end Pattern

end Provision
