import Provision.Yaml.Cursor

/-!
# Scalars in YAML text

Plain and quoted scalars are stretches of text with gaps between them. A gap
within a line is kept as it is; a gap over line ends is folded: one line end
becomes a blank, of several the first is dropped. Block scalars keep or fold
their lines and are delimited by their indentation.
-/

set_option autoImplicit false

namespace Provision.Yaml

inductive Style where
  | plain
  | quoted
  | literal
  | folded
  deriving DecidableEq, Inhabited

structure Gap where
  blanks : List Char
  broken : Bool
  first : List Char
  more : List Char

namespace Gap

def none : Gap := ⟨[], false, [], []⟩

/-- The gap that an escaped line end opens; that line end itself is dropped. -/
def continued : Gap := ⟨[], true, [], []⟩

def text (g : Gap) : List Char :=
  if !g.broken then g.blanks
  else if g.first = ['\n'] then (if g.more.isEmpty then [' '] else g.more)
  else g.first ++ g.more

/-- Reads on through blanks and line ends. With a limit, a tab that stands left
of it at the start of a line is refused. -/
def read (limit : Nat) : Nat → Gap → Cursor → Option (Gap × Cursor)
  | 0, g, c => some (g, c)
  | fuel + 1, g, c =>
    match c.rest with
    | [] => some (g, c)
    | x :: _ =>
      if isBlank x then
        if g.broken && x = '\t' && c.column < limit then Option.none
        else if g.broken then read limit fuel g (c.skip 1)
        else read limit fuel { g with blanks := g.blanks ++ [x] } (c.skip 1)
      else if isBreak x then
        let (b, c) := c.takeBreak
        if g.broken then read limit fuel { g with more := g.more ++ b } c
        else read limit fuel ⟨[], true, b, []⟩ c
      else some (g, c)

end Gap

def isFlowIndicator (c : Char) : Bool :=
  c = ',' || c = '[' || c = ']' || c = '{' || c = '}'

/-- A stretch of a plain scalar and what follows it. Inside a flow collection an
indicator ends it, and a colon right before one is refused. -/
def plainStretch? (flow : Bool) : List Char → Option (List Char × List Char)
  | [] => some ([], [])
  | x :: rest =>
    if isBlank x || isBreak x then some ([], x :: rest)
    else if x = ':' then
      if flow && (match rest with
          | y :: _ => isFlowIndicator y || y = '?'
          | [] => false) then none
      else if spaced rest then some ([], x :: rest)
      else (plainStretch? flow rest).map fun (s, r) => (x :: s, r)
    else if flow && isFlowIndicator x then some ([], x :: rest)
    else (plainStretch? flow rest).map fun (s, r) => (x :: s, r)

structure PlainScalar where
  text : List Char
  broken : Bool
  cursor : Cursor

/-- Reads a plain scalar; in block context it ends at a line indented less than
`indent`. -/
def readPlain (flow : Bool) (indent : Nat) :
    Nat → List Char → Gap → Cursor → Option PlainScalar
  | 0, _, _, _ => none
  | fuel + 1, acc, gap, c =>
    if c.atMarker || c.startsWith (· = '#') then some ⟨acc, gap.broken, c⟩
    else do
      let (stretch, _) ← plainStretch? flow c.rest
      let acc := if stretch.isEmpty then acc else acc ++ gap.text ++ stretch
      let gap := if stretch.isEmpty then gap else Gap.none
      let c := c.skip stretch.length
      if c.rest.isEmpty || !spaced c.rest then some ⟨acc, gap.broken, c⟩
      else do
        let (gap, c) ← Gap.read indent (c.rest.length + 1) gap c
        if !flow && c.column < indent then some ⟨acc, gap.broken, c⟩
        else readPlain flow indent fuel acc gap c

def hexDigit? (c : Char) : Option Nat :=
  if '0' ≤ c && c ≤ '9' then some (c.toNat - '0'.toNat)
  else if 'a' ≤ c && c ≤ 'f' then some (c.toNat - 'a'.toNat + 10)
  else if 'A' ≤ c && c ≤ 'F' then some (c.toNat - 'A'.toNat + 10)
  else none

def hexNumber? : Nat → Nat → List Char → Option (Nat × List Char)
  | 0, acc, cs => some (acc, cs)
  | n + 1, acc, c :: rest => do
    let d ← hexDigit? c
    hexNumber? n (16 * acc + d) rest
  | _ + 1, _, [] => none

def codePoint? (n : Nat) : Option Char :=
  if (0xd800 ≤ n && n ≤ 0xdfff) || 0x10ffff < n then none else some (Char.ofNat n)

def namedEscape? : Char → Option Char
  | '0' => some '\x00'
  | 'a' => some '\x07'
  | 'b' => some '\x08'
  | 't' => some '\t'
  | '\t' => some '\t'
  | 'n' => some '\n'
  | 'v' => some '\x0b'
  | 'f' => some '\x0c'
  | 'r' => some '\r'
  | 'e' => some '\x1b'
  | ' ' => some ' '
  | '"' => some '"'
  | '/' => some '/'
  | '\\' => some '\\'
  | 'N' => some '\x85'
  | '_' => some '\xa0'
  | 'L' => some '\u2028'
  | 'P' => some '\u2029'
  | _ => none

def escape? : List Char → Option (Char × List Char)
  | [] => none
  | c :: rest =>
    let digits := if c = 'x' then 2 else if c = 'u' then 4 else if c = 'U' then 8 else 0
    if digits = 0 then (namedEscape? c).map fun x => (x, rest)
    else do
      let (n, rest) ← hexNumber? digits 0 rest
      let x ← codePoint? n
      some (x, rest)

/-- A stretch of a single-quoted scalar: a doubled quote stands for one. -/
def singleStretch : List Char → List Char × List Char
  | [] => ([], [])
  | '\'' :: '\'' :: rest => let (s, r) := singleStretch rest; ('\'' :: s, r)
  | x :: rest =>
    if x = '\'' || isBlank x || isBreak x then ([], x :: rest)
    else let (s, r) := singleStretch rest; (x :: s, r)

/-- A stretch of a double-quoted scalar. It also ends before an escaped line end. -/
def doubleStretch? : Nat → List Char → Option (List Char × List Char)
  | 0, cs => some ([], cs)
  | _ + 1, [] => some ([], [])
  | fuel + 1, x :: rest =>
    if x = '"' || isBlank x || isBreak x then some ([], x :: rest)
    else if x = '\\' then
      if rest.isEmpty || !lineEnds rest then do
        let (c, rest) ← escape? rest
        let (s, r) ← doubleStretch? fuel rest
        some (c :: s, r)
      else some ([], x :: rest)
    else do
      let (s, r) ← doubleStretch? fuel rest
      some (x :: s, r)

def stretch? (single : Bool) (cs : List Char) : Option (List Char × List Char) :=
  if single then some (singleStretch cs) else doubleStretch? (cs.length + 1) cs

def readQuoted (single : Bool) : Nat → List Char → Cursor → Option (List Char × Cursor)
  | 0, _, _ => none
  | fuel + 1, acc, c =>
    if c.atMarker || c.rest.isEmpty then none
    else do
      let (s, rest) ← stretch? single c.rest
      let c := c.skip (c.rest.length - rest.length)
      let acc := acc ++ s
      let closing := if single then '\'' else '"'
      let (gap, c) := if c.startsWith (· = '\\') then (Gap.continued, (c.skip 1).takeBreak.2)
        else (Gap.none, c)
      if c.startsWith (· = closing) then some (acc, c.skip 1)
      else do
        let (gap, c) ← Gap.read 0 (c.rest.length + 1) gap c
        readQuoted single fuel (acc ++ gap.text) c

inductive Chomping where
  | strip
  | clip
  | keep
  deriving DecidableEq

structure BlockHeader where
  chomping : Chomping
  increment : Nat

def chomping? : List Char → Option (Chomping × List Char)
  | '+' :: rest => some (.keep, rest)
  | '-' :: rest => some (.strip, rest)
  | _ => none

/-- An indentation indicator. Zero is refused. -/
def increment? : List Char → Option (Nat × List Char)
  | [] => some (0, [])
  | c :: rest =>
    if c = '0' then none
    else if c.isDigit then some (c.toNat - '0'.toNat, rest)
    else some (0, c :: rest)

def blockHeader? (cs : List Char) : Option (BlockHeader × List Char) :=
  match chomping? cs with
  | some (ch, rest) => do
    let (n, rest) ← increment? rest
    some (⟨ch, n⟩, rest)
  | none => do
    let (n, rest) ← increment? cs
    if n = 0 then some (⟨.clip, 0⟩, rest)
    else match chomping? rest with
      | some (ch, rest) => some (⟨ch, n⟩, rest)
      | none => some (⟨.clip, n⟩, rest)

def restOfLine? (c : Cursor) : Option Cursor :=
  let c := c.skipWhile isBlank
  let c := if c.startsWith (· = '#') then c.skipWhile (fun x => !isBreak x) else c
  if lineEnds c.rest then some c.takeBreak.2 else none

/-- The empty lines before content: the indentation, still zero while it is to be
found, the line ends, and the place. -/
def blockBreaks (floor : Nat) (indent : Nat) :
    Nat → Nat → List Char → Cursor → Option (Nat × List Char × Cursor)
  | 0, _, _, _ => none
  | fuel + 1, widest, breaks, c =>
    let blanks := (c.rest.takeWhile (· = ' ')).length
    let c := c.skip (if indent = 0 then blanks else min blanks (indent - c.column))
    let widest := max widest c.column
    if (indent = 0 || c.column < indent) && c.startsWith (· = '\t') then none
    else if c.startsWith isBreak then
      let (b, c) := c.takeBreak
      blockBreaks floor indent fuel widest (breaks ++ b) c
    else some (if indent = 0 then max widest floor else indent, breaks, c)

structure BlockText where
  text : List Char
  lastBreak : List Char
  breaks : List Char
  cursor : Cursor

def readBlockLines (literal : Bool) (indent : Nat) :
    Nat → Bool → BlockText → Option BlockText
  | 0, _, b => some b
  | fuel + 1, afterBlank, b =>
    let c := b.cursor
    if c.column ≠ indent || c.rest.isEmpty then some b
    else
      let blank := c.startsWith isBlank
      let joint :=
        if !literal && b.lastBreak.head? = some '\n' && !afterBlank && !blank then
          (if b.breaks.isEmpty then [' '] else [])
        else b.lastBreak
      let line := c.rest.takeWhile fun x => !isBreak x
      let (last, c) := (c.skip line.length).takeBreak
      match blockBreaks 1 indent (c.rest.length + 1) 0 [] c with
      | none => none
      | some (_, breaks, c) =>
        readBlockLines literal indent fuel blank
          ⟨b.text ++ joint ++ b.breaks ++ line, last, breaks, c⟩

def chomp (ch : Chomping) (b : BlockText) : List Char :=
  match ch with
  | .strip => b.text
  | .clip => b.text ++ b.lastBreak
  | .keep => b.text ++ b.lastBreak ++ b.breaks

/-- Reads a block scalar after its indicator, inside a block indented by `parent`
columns; nothing is inside the top level. -/
def readBlock (literal : Bool) (parent : Option Nat) (c : Cursor) :
    Option (List Char × Cursor) := do
  let (header, rest) ← blockHeader? c.rest
  let c ← restOfLine? (c.skip (c.rest.length - rest.length))
  let floor := match parent with
    | some n => n + 1
    | none => 1
  let indent := if header.increment = 0 then 0 else parent.getD 0 + header.increment
  let (indent, breaks, c) ← blockBreaks floor indent (c.rest.length + 1) 0 [] c
  let b ← readBlockLines literal indent (c.rest.length + 1) false ⟨[], [], breaks, c⟩
  some (chomp header.chomping b, b.cursor)

end Provision.Yaml
