import Provision.Pattern
import Provision.Pattern.Property
import Provision.Text.Decimal
import Provision.Text.Numeric

/-!
# Reading patterns

Patterns have no look-around and no references back to groups. Flags hold from
where they are set to the end of the group around them.
-/

set_option autoImplicit false

namespace Provision.Pattern

structure Flags where
  fold : Bool := false
  multiline : Bool := false
  dotAll : Bool := false
  unicode : Bool := true
  crlf : Bool := false
  /-- White space and comments are passed over. -/
  spaced : Bool := false

structure Reader where
  rest : List Char
  flags : Flags := {}
  /-- The names of the groups so far. -/
  names : List String := []

abbrev Read := StateT Reader Option

namespace Read

def fail {α : Type} : Read α := fun _ => none

def lift {α : Type} (x : Option α) : Read α := fun s => x.map fun a => (a, s)

def rest : Read (List Char) := do return (← get).rest

def flags : Read Flags := do return (← get).flags

def peek : Read (Option Char) := do return (← get).rest.head?

def isSpace (c : Char) : Bool := CharSet.space.contains c

def dropSpace : Bool → List Char → List Char
  | _, [] => []
  | true, c :: rest => dropSpace (c ≠ '\n') rest
  | false, c :: rest =>
    if isSpace c then dropSpace false rest
    else if c = '#' then dropSpace true rest
    else c :: rest

def skipSpace : Read Unit :=
  modify fun s => if s.flags.spaced then { s with rest := dropSpace false s.rest } else s

def drop (n : Nat) : Read Unit := modify fun s => { s with rest := s.rest.drop n }

def next : Read Unit := do
  drop 1
  skipSpace

def nextChar : Read Char := do
  next
  lift (← peek)

def expect (c : Char) : Read Unit := do
  if (← peek) = some c then drop 1 else fail

inductive Atom where
  | literal (c : Char)
  | cls (c : CharClass)
  | look (l : Look)

def isMeta (c : Char) : Bool :=
  ['\\', '.', '+', '*', '?', '(', ')', '|', '[', ']', '{', '}', '^', '$', '#', '&', '-',
    '~'].contains c

def isEscapable (c : Char) : Bool :=
  isMeta c || (c.toNat < 128 && !c.isAlphanum && c ≠ '<' && c ≠ '>')

def hexDigit? (c : Char) : Option Nat :=
  if c.isDigit then some (c.toNat - '0'.toNat)
  else if 'a' ≤ c ∧ c ≤ 'f' then some (c.toNat - 'a'.toNat + 10)
  else if 'A' ≤ c ∧ c ≤ 'F' then some (c.toNat - 'A'.toNat + 10)
  else none

def charOf? (n : Nat) : Option Char := if n.isValidChar then some (Char.ofNat n) else none

def hexDigits : Nat → Nat → Read Nat
  | 0, acc => do
    next
    return acc
  | n + 1, acc => do
    let c ← nextChar
    let d ← lift (hexDigit? c)
    hexDigits n (16 * acc + d)

def hexBraced : Nat → Bool → Nat → Read Nat
  | 0, _, _ => fail
  | fuel + 1, begun, acc => do
    let c ← nextChar
    if c = '\x7d' then
      next
      if begun then return acc else fail
    else
      let d ← lift (hexDigit? c)
      hexBraced fuel true (16 * acc + d)

def hexChar (letter : Char) : Read Char := do
  let unicode := (← flags).unicode
  let c ← nextChar
  if c = '\x7b' then
    let n ← hexBraced ((← rest).length + 1) false 0
    lift (charOf? n)
  else
    let digits := if letter = 'x' then 2 else if letter = 'u' then 4 else 8
    let d ← lift (hexDigit? c)
    let n ← hexDigits (digits - 1) d
    if !unicode && letter = 'x' && 128 ≤ n then fail
    lift (charOf? n)

def folding (c : CharClass) : Read CharClass := do
  let f ← flags
  return if f.fold then .folded (!f.unicode) c else c

/-- The complement of a class, which has to be one of all characters. -/
def negating (negated : Bool) (c : CharClass) : Read CharClass := do
  if !negated then return c
  if (← flags).unicode then return .complement c else fail

def perlClass (letter : Char) : Read CharClass := do
  let unicode := (← flags).unicode
  let c : CharClass := match letter.toLower with
    | 'd' => if unicode then .named .decimal else .ranges [('0', '9')]
    | 's' => if unicode then .named .space else .union [.range 0x09 0x0d, .range 0x20 0x20]
    | _ => if unicode then .named .word
      else .ranges [('0', '9'), ('A', 'Z'), ('_', '_'), ('a', 'z')]
  negating letter.isUpper c

def cut? (mark : List Char) (before : List Char) : List Char → Option (List Char × List Char)
  | [] => none
  | c :: rest =>
    if mark.isPrefixOf (c :: rest) then some (before.reverse, (c :: rest).drop mark.length)
    else cut? mark (c :: before) rest

/-- The set that the text between the braces of a property names, and whether
its complement is meant. -/
def propertySet? (cs : List Char) : Option (CharSet × Bool) :=
  let valued (mark : List Char) (negated : Bool) : Option (Option (CharSet × Bool)) :=
    (cut? mark [] cs).map fun (name, value) =>
      (Property.valued? (String.ofList name) (String.ofList value)).map (·, negated)
  match valued ['!', '='] true with
  | some r => r
  | none =>
    match valued [':'] false with
    | some r => r
    | none =>
      match valued ['='] false with
      | some r => r
      | none => (Property.named? (String.ofList cs)).map (·, false)

def braced : Nat → List Char → Read (List Char)
  | 0, _ => fail
  | fuel + 1, acc => do
    let c ← nextChar
    if c = '\x7d' then
      drop 1
      return acc.reverse
    else braced fuel (c :: acc)

def unicodeClass (letter : Char) : Read CharClass := do
  if !(← flags).unicode then fail
  let c ← nextChar
  let (set, negated) ←
    if c = '\x7b' then do
      let cs ← braced ((← rest).length + 1) []
      lift (propertySet? cs)
    else do
      next
      lift ((Property.named? c.toString).map (·, false))
  let cls ← folding (.named set)
  negating ((letter = 'P') != negated) cls

def edgeName? : String → Option WordEdge
  | "start" => some .start
  | "end" => some .stop
  | "start-half" => some .startHalf
  | "end-half" => some .stopHalf
  | _ => none

def isEdgeChar (c : Char) : Bool := c.isAlpha || c = '-'

def edgeChars : Nat → List Char → Read (List Char)
  | 0, _ => fail
  | fuel + 1, acc => do
    match ← peek with
    | some c =>
      if isEdgeChar c then
        next
        edgeChars fuel (c :: acc)
      else return acc.reverse
    | none => fail

/-- The kind of word edge that may follow in braces; else braces are left alone. -/
def wordEdge : Read WordEdge := do
  if (← peek) ≠ some '\x7b' then return .edge
  let start ← get
  let c ← nextChar
  if !isEdgeChar c then
    set start
    return .edge
  let name ← edgeChars ((← rest).length + 1) []
  expect '\x7d'
  lift (edgeName? (String.ofList name))

def escape : Read Atom := do
  drop 1
  let c ← lift (← peek)
  let ascii := !(← flags).unicode
  match c with
  | 'x' | 'u' | 'U' => return .literal (← hexChar c)
  | 'p' | 'P' => return .cls (← unicodeClass c)
  | 'd' | 's' | 'w' | 'D' | 'S' | 'W' =>
    drop 1
    return .cls (← perlClass c)
  | _ =>
    drop 1
    if isEscapable c then return .literal c
    match c with
    | 'a' => return .literal '\x07'
    | 'f' => return .literal '\x0c'
    | 't' => return .literal '\t'
    | 'n' => return .literal '\n'
    | 'r' => return .literal '\r'
    | 'v' => return .literal '\x0b'
    | 'A' => return .look .textStart
    | 'z' => return .look .textEnd
    | 'b' => return .look (.word ascii (← wordEdge))
    | 'B' => return .look (.word ascii .noEdge)
    | '<' => return .look (.word ascii .start)
    | '>' => return .look (.word ascii .stop)
    | _ => fail

def namedAscii? : List Char → Option (Bool × CharClass × List Char)
  | '[' :: ':' :: rest =>
    let (negated, rest) := match rest with
      | '^' :: rest => (true, rest)
      | rest => (false, rest)
    match rest.dropWhile (· ≠ ':') with
    | ':' :: ']' :: after =>
      let name := String.ofList (rest.takeWhile (· ≠ ':'))
      (CharClass.ascii? name).map fun c => (negated, c, after)
    | _ => none
  | _ => none

def classAtom : Read Atom := do
  match ← peek with
  | some '\\' => escape
  | some c =>
    drop 1
    return .literal c
  | none => fail

def classChar (c : Char) : Read Nat := do
  if (← flags).unicode || c.toNat < 128 then return c.toNat else fail

/-- Whether a hyphen here makes a range: not before a bracket or another hyphen. -/
def startsRange (f : Flags) : List Char → Bool
  | '-' :: rest =>
    match (if f.spaced then dropSpace false rest else rest).head? with
    | some ']' => false
    | some '-' => false
    | _ => true
  | _ => false

def classItem : Read CharClass := do
  let first ← classAtom
  skipSpace
  let cs ← rest
  if cs.isEmpty then fail
  if startsRange (← flags) cs then
    let _ ← nextChar
    let last ← classAtom
    match first, last with
    | .literal a, .literal b =>
      let a ← classChar a
      let b ← classChar b
      if a ≤ b then return .range a b else fail
    | _, _ => fail
  else match first with
    | .literal c =>
      let n ← classChar c
      return .range n n
    | .cls c => return c
    | .look _ => fail

def setOp? : List Char → Option SetOp
  | '&' :: '&' :: _ => some .intersection
  | '-' :: '-' :: _ => some .difference
  | '~' :: '~' :: _ => some .symmetricDifference
  | _ => none

/-- The class of what was read since the last operator, behind that operator. -/
def joinClass (left : Option (SetOp × CharClass)) (parts : List CharClass) : Read CharClass := do
  let right := CharClass.ofParts parts.reverse
  match left with
  | none => return right
  | some (o, l) => return .op o (← folding l) (← folding right)

/-- Hyphens at the start of a class, and a bracket before anything else. -/
def classHead : Nat → List CharClass → Read (List CharClass)
  | 0, _ => fail
  | fuel + 1, parts => do
    match ← peek with
    | some '-' =>
      let _ ← nextChar
      classHead fuel (.char '-' :: parts)
    | some ']' =>
      if parts.isEmpty then
        let _ ← nextChar
        return [.char ']']
      else return parts
    | _ => return parts

mutual

def bracketed : Nat → Read CharClass
  | 0 => fail
  | fuel + 1 => do
    let c ← nextChar
    let negated := c = '^'
    if negated then
      let _ ← nextChar
    let parts ← classHead fuel []
    let c ← classParts fuel none parts
    let c ← folding c
    let c ← negating negated c
    return .bracketed c

def classParts : Nat → Option (SetOp × CharClass) → List CharClass → Read CharClass
  | 0, _, _ => fail
  | fuel + 1, left, parts => do
    skipSpace
    let cs ← rest
    match cs with
    | [] => fail
    | ']' :: _ =>
      drop 1
      joinClass left parts
    | '[' :: _ =>
      match namedAscii? cs with
      | some (negated, c, after) =>
        modify fun s => { s with rest := after }
        let c ← folding c
        let c ← negating negated c
        classParts fuel left (c :: parts)
      | none =>
        let c ← bracketed fuel
        classParts fuel left (c :: parts)
    | _ =>
      match setOp? cs with
      | some o =>
        drop 2
        let l ← joinClass left parts
        classParts fuel (some (o, l)) []
      | none =>
        let c ← classItem
        classParts fuel left (c :: parts)

end

def isNameStart (c : Char) : Bool := c = '_' || CharSet.alphabetic.contains c

def isNameChar (c : Char) : Bool :=
  ['_', '.', '[', ']'].contains c || CharSet.alphabetic.contains c || CharSet.numeric.contains c

def groupName : Read Unit := do
  let cs ← rest
  let name := cs.takeWhile (· ≠ '>')
  if cs.length = name.length then fail
  match name with
  | [] => fail
  | c :: more =>
    if !(isNameStart c && more.all isNameChar) then fail
    let text := String.ofList name
    let s ← get
    if s.names.contains text then fail
    set { s with rest := cs.drop (name.length + 1), names := text :: s.names }

/-- Sets a flag; `U` only changes which match is preferred. -/
def setFlag? (f : Flags) (on : Bool) : Char → Option Flags
  | 'i' => some { f with fold := on }
  | 'm' => some { f with multiline := on }
  | 's' => some { f with dotAll := on }
  | 'U' => some f
  | 'u' => some { f with unicode := on }
  | 'R' => some { f with crlf := on }
  | 'x' => some { f with spaced := on }
  | _ => none

/-- Flags up to a colon or a closing bracket, no letter and no minus sign twice. -/
def readFlags : Nat → List Char → Flags → Read (List Char × Flags)
  | 0, _, _ => fail
  | fuel + 1, seen, f => do
    let c ← lift (← peek)
    if c = ':' || c = ')' then
      if seen.head? = some '-' then fail
      return (seen, f)
    if seen.contains c then fail
    drop 1
    if c = '-' then readFlags fuel (c :: seen) f
    else
      let f ← lift (setFlag? f (!seen.contains '-') c)
      readFlags fuel (c :: seen) f

def dropBlanks : Read Unit := modify fun s => { s with rest := s.rest.dropWhile isSpace }

def digits : Nat → List Char → Read (List Char)
  | 0, _ => fail
  | fuel + 1, acc => do
    match ← peek with
    | some c =>
      if c.isDigit then
        next
        digits fuel (c :: acc)
      else return acc.reverse
    | none => return acc.reverse

/-- A count of at most 32 bits; none where there are no digits. -/
def count : Read (Option Nat) := do
  dropBlanks
  let ds ← digits ((← rest).length + 1) []
  dropBlanks
  if ds.isEmpty then return none
  let n := ds.foldl (fun acc c => 10 * acc + (c.toNat - '0'.toNat)) 0
  if n < 0x100000000 then return some n else fail

def bounds : Read (Nat × Option Nat) := do
  let _ ← nextChar
  let least ← count
  let result ←
    match ← peek with
    | some ',' =>
      let c ← nextChar
      let least ← lift least
      if c = '\x7d' then pure (least, none)
      else
        let most ← count
        let most ← lift most
        if least ≤ most then pure (least, some most) else fail
    | _ =>
      let least ← lift least
      pure (least, some least)
  if (← peek) ≠ some '\x7d' then fail
  next
  return result

/-- A question mark after a repetition only says which match is preferred. -/
def skipLazy : Read Unit := do
  if (← peek) = some '?' then drop 1

def ofAtom : Atom → Read Pattern
  | .literal c => do return .one (← folding (.char c))
  | .cls c => return .one c
  | .look l => return .look l

def primitive (c : Char) : Read Pattern := do
  let f ← flags
  match c with
  | '\\' => ofAtom (← escape)
  | '.' =>
    drop 1
    if !f.unicode then fail
    if f.dotAll then return .one (.range 0 0x10ffff)
    else if f.crlf then return .one (.complement (.union [.char '\n', .char '\r']))
    else return .one (.complement (.char '\n'))
  | '^' =>
    drop 1
    return .look (if f.multiline then .lineStart f.crlf else .textStart)
  | '$' =>
    drop 1
    return .look (if f.multiline then .lineEnd f.crlf else .textEnd)
  | c =>
    drop 1
    ofAtom (.literal c)

def isLookAround : List Char → Bool
  | '?' :: '=' :: _ => true
  | '?' :: '!' :: _ => true
  | '?' :: '<' :: '=' :: _ => true
  | '?' :: '<' :: '!' :: _ => true
  | _ => false

def seqOf (items : List (Option Pattern)) : Pattern :=
  match items.filterMap id with
  | [] => .empty
  | [p] => p
  | ps => .seq ps

def altOf : List Pattern → Pattern
  | [p] => p
  | ps => .alt ps

/-- Repeats the item before; flags and nothing cannot be repeated. -/
def repeatLast (least : Nat) (most : Option Nat) :
    List (Option Pattern) → Read (List (Option Pattern))
  | some p :: rest => return some (.repeated p least most) :: rest
  | _ => fail

mutual

/-- The items of a sequence, last first; flags count as an item without pattern. -/
def items : Nat → List (Option Pattern) → Read (List (Option Pattern))
  | 0, _ => fail
  | fuel + 1, acc => do
    skipSpace
    match ← peek with
    | none => return acc.reverse
    | some c =>
      match c with
      | '|' => return acc.reverse
      | ')' => return acc.reverse
      | '(' =>
        let item ← group fuel
        items fuel (item :: acc)
      | '[' =>
        let cls ← bracketed fuel
        items fuel (some (.one cls) :: acc)
      | '?' =>
        drop 1
        skipLazy
        items fuel (← repeatLast 0 (some 1) acc)
      | '*' =>
        drop 1
        skipLazy
        items fuel (← repeatLast 0 none acc)
      | '+' =>
        drop 1
        skipLazy
        items fuel (← repeatLast 1 none acc)
      | c =>
        if c = '\x7b' then
          let (least, most) ← bounds
          skipLazy
          items fuel (← repeatLast least most acc)
        else
          let p ← primitive c
          items fuel (some p :: acc)

def group : Nat → Read (Option Pattern)
  | 0 => fail
  | fuel + 1 => do
    next
    let cs ← rest
    let outer ← flags
    if isLookAround cs then fail
    match cs with
    | '?' :: 'P' :: '<' :: _ =>
      drop 3
      groupName
      return some (← groupBody fuel outer)
    | '?' :: '<' :: _ =>
      drop 2
      groupName
      return some (← groupBody fuel outer)
    | '?' :: _ =>
      drop 1
      let (seen, inner) ← readFlags fuel [] outer
      let last ← peek
      drop 1
      modify fun s => { s with flags := inner }
      if last = some ')' then
        if seen.isEmpty then fail else return none
      else return some (← groupBody fuel outer)
    | _ => return some (← groupBody fuel outer)

/-- What a group holds, up to its closing bracket, after which the flags of the
surroundings hold again. -/
def groupBody : Nat → Flags → Read Pattern
  | 0, _ => fail
  | fuel + 1, outer => do
    let p ← choice fuel []
    expect ')'
    modify fun s => { s with flags := outer }
    return .group p

def choice : Nat → List Pattern → Read Pattern
  | 0, _ => fail
  | fuel + 1, acc => do
    let p := seqOf (← items fuel [])
    match ← peek with
    | some '|' =>
      drop 1
      choice fuel (p :: acc)
    | _ => return altOf (p :: acc).reverse

end

end Read

def levels : Nat := 250

def read? (text : String) : Option Pattern := do
  let cs := text.toList
  let (p, s) ← (Read.choice (4 * cs.length + 4) []).run { rest := cs }
  if s.rest.isEmpty && p.depth ≤ levels then some p else none

end Provision.Pattern
