/-!
# Positions in YAML text

A cursor is the text that is left together with its place. Columns count
characters; a line ends at a line feed, a carriage return, both together, or one
of the three Unicode line ends.
-/

set_option autoImplicit false

namespace Provision.Yaml

def isBlank (c : Char) : Bool := c = ' ' || c = '\t'

def isBreak (c : Char) : Bool :=
  c = '\n' || c = '\r' || c = '\x85' || c = '\u2028' || c = '\u2029'

def spaced : List Char → Bool
  | [] => true
  | c :: _ => isBlank c || isBreak c

def lineEnds : List Char → Bool
  | [] => true
  | c :: _ => isBreak c

def isNameChar (c : Char) : Bool := c.isAlphanum || c = '_' || c = '-'

def isAllowed (c : Char) : Bool :=
  let n := c.toNat
  n = 0x09 || n = 0x0a || n = 0x0d || (0x20 ≤ n && n ≤ 0x7e) || n = 0x85
    || (0xa0 ≤ n && n ≤ 0xfffd) || 0x10000 ≤ n

structure Cursor where
  rest : List Char
  index : Nat
  line : Nat
  column : Nat
  deriving Inhabited

namespace Cursor

def start (text : List Char) : Cursor := ⟨text, 0, 0, 0⟩

def skip (c : Cursor) (n : Nat) : Cursor :=
  { c with rest := c.rest.drop n, index := c.index + n, column := c.column + n }

def skipWhile (c : Cursor) (p : Char → Bool) : Cursor := c.skip (c.rest.takeWhile p).length

def startsWith (c : Cursor) (p : Char → Bool) : Bool :=
  match c.rest with
  | [] => false
  | x :: _ => p x

def newLine (c : Cursor) (rest : List Char) (width : Nat) : Cursor :=
  { rest, index := c.index + width, line := c.line + 1, column := 0 }

def takeBreak (c : Cursor) : List Char × Cursor :=
  match c.rest with
  | '\r' :: '\n' :: rest => (['\n'], c.newLine rest 2)
  | x :: rest =>
    if x = '\n' || x = '\r' || x = '\x85' then (['\n'], c.newLine rest 1)
    else if isBreak x then ([x], c.newLine rest 1)
    else ([], c)
  | [] => ([], c)

def atMarker (c : Cursor) : Bool :=
  c.column = 0 && match c.rest with
    | '-' :: '-' :: '-' :: rest => spaced rest
    | '.' :: '.' :: '.' :: rest => spaced rest
    | _ => false

end Cursor

end Provision.Yaml
