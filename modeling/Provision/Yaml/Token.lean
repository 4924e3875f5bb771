import Provision.Yaml.Scalar

/-!
# Tokens of a YAML stream

Block structure becomes explicit in the tokens: a block opens where its
indentation grows and is closed by `blockEnd`. A key is only recognised by the
colon after it, so the scanner leaves a mark wherever a key may start. When the
colon comes, the mark stands for a key, and for the mapping it opens; a mark
without a colon stands for nothing.
-/

set_option autoImplicit false

namespace Provision.Yaml

inductive Token where
  | versionDirective (major minor : Nat)
  | tagDirective (handle base : String)
  | documentStart
  | documentEnd
  | blockSequenceStart
  | blockMappingStart
  | blockEnd
  | flowSequenceStart
  | flowSequenceEnd
  | flowMappingStart
  | flowMappingEnd
  | blockEntry
  | flowEntry
  | key
  | value
  | aliasOf (name : String)
  | anchor (name : String)
  | tag (handle suffix : String)
  | scalar (text : String) (style : Style)
  | streamEnd
  deriving DecidableEq, Inhabited

/-- A place where a key may have started. A required key must find its colon. -/
structure Candidate where
  number : Nat
  required : Bool
  index : Nat
  line : Nat
  column : Nat

inductive Item where
  | token (t : Token)
  | mark (number : Nat)

structure Scanner where
  cursor : Cursor
  /-- What was scanned so far, last first. -/
  items : List Item := []
  marks : Nat := 0
  /-- The marks that became keys, and whether the key opens a mapping. -/
  keys : List (Nat × Bool) := []
  /-- One entry for the block context and one for each open flow collection. -/
  candidates : List (Option Candidate) := [none]
  keyAllowed : Bool := true
  /-- The columns of the open blocks, innermost first. -/
  blocks : List Nat := []

namespace Scanner

def flow (s : Scanner) : Bool := 1 < s.candidates.length

def emit (s : Scanner) (t : Token) : Scanner := { s with items := .token t :: s.items }

def deeper (s : Scanner) (column : Nat) : Bool :=
  match s.blocks with
  | [] => true
  | b :: _ => b < column

def openBlock (s : Scanner) (column : Nat) (t : Token) : Scanner :=
  if !s.flow && s.deeper column then { s.emit t with blocks := column :: s.blocks } else s

def closeBlocks (keep : Nat → Bool) : List Nat → List Nat × Nat
  | [] => ([], 0)
  | b :: rest => if keep b then (b :: rest, 0) else
      let (bs, n) := closeBlocks keep rest
      (bs, n + 1)

def close (s : Scanner) (keep : Nat → Bool) : Scanner :=
  if s.flow then s
  else
    let (blocks, n) := closeBlocks keep s.blocks
    { s with blocks, items := List.replicate n (.token .blockEnd) ++ s.items }

/-- Gives up the current candidate; a required one cannot be given up. -/
def dropKey? (s : Scanner) : Option Scanner :=
  match s.candidates with
  | some c :: rest => if c.required then none else some { s with candidates := none :: rest }
  | _ => some s

/-- A key fits in one line and in 1024 characters. -/
def stale (c : Cursor) (k : Candidate) : Bool := k.line < c.line || k.index + 1024 < c.index

def refresh? (c : Cursor) : List (Option Candidate) → Option (List (Option Candidate))
  | [] => some []
  | none :: rest => (refresh? c rest).map (none :: ·)
  | some k :: rest =>
    if stale c k then if k.required then none else (refresh? c rest).map (none :: ·)
    else (refresh? c rest).map (some k :: ·)

def markKey? (s : Scanner) : Option Scanner :=
  if s.keyAllowed then do
    let c := s.cursor
    let required := !s.flow && s.blocks.head? = some c.column
    let s ← s.dropKey?
    some { s with
      items := .mark s.marks :: s.items
      marks := s.marks + 1
      candidates := some ⟨s.marks, required, c.index, c.line, c.column⟩ :: s.candidates.drop 1 }
  else some s

/-- Moves over blanks, comments and line ends to the next token. A new line in
block context may start a key. -/
def toNextToken : Nat → Scanner → Scanner
  | 0, s => s
  | fuel + 1, s =>
    let c := if s.cursor.column = 0 && s.cursor.startsWith (· = '\ufeff') then s.cursor.skip 1
      else s.cursor
    let tabs := s.flow || !s.keyAllowed
    let c := c.skipWhile fun x => x = ' ' || (tabs && x = '\t')
    let c := if c.startsWith (· = '#') then c.skipWhile (fun x => !isBreak x) else c
    if c.startsWith isBreak then
      toNextToken fuel
        { s with cursor := c.takeBreak.2, keyAllowed := s.keyAllowed || !s.flow }
    else { s with cursor := c }

def indicator (s : Scanner) (t : Token) (width : Nat) (keyAllowed : Bool) : Scanner :=
  { s.emit t with cursor := s.cursor.skip width, keyAllowed }

def isUriChar (c : Char) : Bool :=
  isNameChar c || [';', '/', '?', ':', '@', '&', '=', '+', '$', '.', '!', '~', '*', '\'', '(',
    ')'].contains c

def percentByte? : List Char → Option (Nat × List Char)
  | '%' :: a :: b :: rest => do
    let a ← hexDigit? a
    let b ← hexDigit? b
    some (16 * a + b, rest)
  | _ => none

def percentTail? : Nat → Nat → List Char → Option (Nat × List Char)
  | 0, acc, cs => some (acc, cs)
  | n + 1, acc, cs => do
    let (b, cs) ← percentByte? cs
    if b / 64 = 2 then percentTail? n (64 * acc + b % 64) cs else none

def percentChar? (cs : List Char) : Option (Char × List Char) := do
  let (b, rest) ← percentByte? cs
  let (n, rest) ←
    if b < 0x80 then some (b, rest)
    else if b / 32 = 6 then percentTail? 1 (b % 32) rest
    else if b / 16 = 14 then percentTail? 2 (b % 16) rest
    else if b / 8 = 30 then percentTail? 3 (b % 8) rest
    else none
  some (Char.ofNat n, rest)

def uri? (verbatim : Bool) : Nat → List Char → Option (List Char × List Char)
  | 0, cs => some ([], cs)
  | _ + 1, [] => some ([], [])
  | fuel + 1, c :: rest =>
    if c = '%' then do
      let (x, rest) ← percentChar? (c :: rest)
      let (xs, rest) ← uri? verbatim fuel rest
      some (x :: xs, rest)
    else if isUriChar c || (verbatim && (c = ',' || c = '[' || c = ']')) then do
      let (xs, rest) ← uri? verbatim fuel rest
      some (c :: xs, rest)
    else some ([], c :: rest)

def nonempty? (r : List Char × List Char) : Option (List Char × List Char) :=
  if r.1.isEmpty then none else some r

/-- A tag after its exclamation mark: verbatim, with a named handle, or local. -/
def tagParts? (cs : List Char) : Option (String × String × List Char) :=
  match cs with
  | '<' :: rest => do
    let (suffix, rest) ← (uri? true (rest.length + 1) rest).bind nonempty?
    match rest with
    | '>' :: rest => some ("", String.ofList suffix, rest)
    | _ => none
  | cs =>
    let name := cs.takeWhile isNameChar
    match cs.dropWhile isNameChar with
    | '!' :: rest => do
      let (suffix, rest) ← (uri? false (rest.length + 1) rest).bind nonempty?
      some (String.ofList ('!' :: name ++ ['!']), String.ofList suffix, rest)
    | rest => do
      let (more, rest) ← uri? false (rest.length + 1) rest
      let suffix := name ++ more
      if suffix.isEmpty then some ("", "!", rest) else some ("!", String.ofList suffix, rest)

def advanceTo (s : Scanner) (rest : List Char) : Scanner :=
  { s with cursor := s.cursor.skip (s.cursor.rest.length - rest.length) }

def scanTag? (s : Scanner) : Option Scanner := do
  let s ← s.markKey?
  let (handle, suffix, rest) ← tagParts? s.cursor.rest.tail
  if (s.flow && rest.head? = some ',') || spaced rest then
    some { (s.advanceTo rest).emit (.tag handle suffix) with keyAllowed := false }
  else none

def endsName : List Char → Bool
  | [] => true
  | c :: rest => spaced (c :: rest) || ['?', ':', ',', ']', '}', '%', '@', '\x60'].contains c

def scanAnchor? (s : Scanner) (token : String → Token) : Option Scanner := do
  let s ← s.markKey?
  let name := s.cursor.rest.tail.takeWhile isNameChar
  let rest := s.cursor.rest.tail.dropWhile isNameChar
  if name.isEmpty || !endsName rest then none
  else some { (s.advanceTo rest).emit (token (String.ofList name)) with keyAllowed := false }

def versionNumber? (cs : List Char) : Option (Nat × List Char) :=
  let digits := cs.takeWhile Char.isDigit
  if digits.isEmpty || 9 < digits.length then none
  else some (digits.foldl (fun n c => 10 * n + (c.toNat - '0'.toNat)) 0, cs.dropWhile Char.isDigit)

def versionDirective? (cs : List Char) : Option (Token × List Char) := do
  let (major, rest) ← versionNumber? (cs.dropWhile isBlank)
  match rest with
  | '.' :: rest =>
    let (minor, rest) ← versionNumber? rest
    some (.versionDirective major minor, rest)
  | _ => none

def handle? : List Char → Option (List Char × List Char)
  | '!' :: rest =>
    let name := rest.takeWhile isNameChar
    match rest.dropWhile isNameChar with
    | '!' :: rest => some ('!' :: name ++ ['!'], rest)
    | rest => if name.isEmpty then some (['!'], rest) else none
  | _ => none

def tagDirective? (cs : List Char) : Option (Token × List Char) := do
  let (handle, rest) ← handle? (cs.dropWhile isBlank)
  match rest with
  | c :: _ =>
    if isBlank c then
      let rest := rest.dropWhile isBlank
      let (base, rest) ← (uri? true (rest.length + 1) rest).bind nonempty?
      if spaced rest then some (.tagDirective (String.ofList handle) (String.ofList base), rest)
      else none
    else none
  | [] => none

def scanDirective? (s : Scanner) : Option Scanner := do
  let s ← (s.close fun _ => false).dropKey?
  let cs := s.cursor.rest.tail
  let name := cs.takeWhile isNameChar
  let rest := cs.dropWhile isNameChar
  if !spaced rest then none
  let (token, rest) ←
    if name = ['Y', 'A', 'M', 'L'] then versionDirective? rest
    else if name = ['T', 'A', 'G'] then tagDirective? rest
    else none
  let s := s.advanceTo rest
  let cursor ← restOfLine? s.cursor
  some { s.emit token with cursor, keyAllowed := false }

def scanMarker? (s : Scanner) (t : Token) : Option Scanner := do
  let s ← (s.close fun _ => false).dropKey?
  some (s.indicator t 3 false)

def scanFlowStart? (s : Scanner) (t : Token) : Option Scanner := do
  let s ← s.markKey?
  some { s.indicator t 1 true with candidates := none :: s.candidates }

def leaveFlow : List (Option Candidate) → List (Option Candidate)
  | _ :: c :: rest => c :: rest
  | cs => cs

def scanFlowEnd? (s : Scanner) (t : Token) : Option Scanner := do
  let s ← s.dropKey?
  some { s.indicator t 1 false with candidates := leaveFlow s.candidates }

def scanFlowEntry? (s : Scanner) : Option Scanner := do
  let s ← s.dropKey?
  some (s.indicator .flowEntry 1 true)

/-- An entry or an explicit key needs a place where a key may start, in block context. -/
def scanBlockEntry? (s : Scanner) : Option Scanner := do
  if !s.flow && !s.keyAllowed then none
  let s ← (s.openBlock s.cursor.column .blockSequenceStart).dropKey?
  some (s.indicator .blockEntry 1 true)

def scanKey? (s : Scanner) : Option Scanner := do
  if !s.flow && !s.keyAllowed then none
  let s ← (s.openBlock s.cursor.column .blockMappingStart).dropKey?
  some (s.indicator .key 1 !s.flow)

/-- A colon turns the current candidate into a key; without one it follows an
explicit key. -/
def scanValue? (s : Scanner) : Option Scanner :=
  match s.candidates with
  | some k :: rest =>
    let opens := !s.flow && s.deeper k.column
    some { s.indicator .value 1 false with
      keys := (k.number, opens) :: s.keys
      blocks := if opens then k.column :: s.blocks else s.blocks
      candidates := none :: rest }
  | _ =>
    if s.flow then some (s.indicator .value 1 false)
    else if s.keyAllowed then
      some ((s.openBlock s.cursor.column .blockMappingStart).indicator .value 1 true)
    else none

def scanBlockScalar? (s : Scanner) (style : Style) : Option Scanner := do
  let s ← s.dropKey?
  let (text, cursor) ← readBlock (style = .literal) s.blocks.head? (s.cursor.skip 1)
  some { s.emit (.scalar (String.ofList text) style) with cursor, keyAllowed := true }

def scanQuoted? (s : Scanner) (single : Bool) : Option Scanner := do
  let s ← s.markKey?
  let c := s.cursor.skip 1
  let (text, cursor) ← readQuoted single (c.rest.length + 1) [] c
  some { s.emit (.scalar (String.ofList text) .quoted) with cursor, keyAllowed := false }

def scanPlain? (s : Scanner) : Option Scanner := do
  let s ← s.markKey?
  let c := s.cursor
  let indent := match s.blocks with
    | [] => 0
    | b :: _ => b + 1
  let p ← readPlain s.flow indent (c.rest.length + 1) [] Gap.none c
  some { s.emit (.scalar (String.ofList p.text) .plain) with
    cursor := p.cursor, keyAllowed := p.broken }

def isIndicator (c : Char) : Bool :=
  ['-', '?', ':', ',', '[', ']', '{', '}', '#', '&', '*', '!', '|', '>', '\'', '"', '%', '@',
    '\x60'].contains c

def startsPlain (flow : Bool) (c : Char) (rest : List Char) : Bool :=
  !(isBlank c || isBreak c || isIndicator c)
    || (c = '-' && !(match rest with
        | x :: _ => isBlank x
        | [] => false))
    || (!flow && (c = '?' || c = ':') && !spaced rest)

def scanToken? (s : Scanner) (c : Char) (rest : List Char) : Option Scanner :=
  let first := s.cursor.column = 0
  if first && c = '%' then s.scanDirective?
  else if s.cursor.atMarker then
    s.scanMarker? (if c = '-' then .documentStart else .documentEnd)
  else if c = '[' then s.scanFlowStart? .flowSequenceStart
  else if c = '{' then s.scanFlowStart? .flowMappingStart
  else if c = ']' then s.scanFlowEnd? .flowSequenceEnd
  else if c = '}' then s.scanFlowEnd? .flowMappingEnd
  else if c = ',' then s.scanFlowEntry?
  else if c = '-' && spaced rest then s.scanBlockEntry?
  else if c = '?' && (s.flow || spaced rest) then s.scanKey?
  else if c = ':' && (s.flow || spaced rest) then s.scanValue?
  else if c = '*' then s.scanAnchor? .aliasOf
  else if c = '&' then s.scanAnchor? .anchor
  else if c = '!' then s.scanTag?
  else if c = '|' && !s.flow then s.scanBlockScalar? .literal
  else if c = '>' && !s.flow then s.scanBlockScalar? .folded
  else if c = '\'' then s.scanQuoted? true
  else if c = '"' then s.scanQuoted? false
  else if startsPlain s.flow c rest then s.scanPlain?
  else none

/-- Ends the stream: all blocks close and no required key may be pending. -/
def finish? (s : Scanner) : Option Scanner := do
  let s ← (s.close fun _ => false).dropKey?
  some (s.emit .streamEnd)

def run : Nat → Scanner → Option Scanner
  | 0, _ => none
  | fuel + 1, s => do
    let s := toNextToken (s.cursor.rest.length + 1) s
    let candidates ← refresh? s.cursor s.candidates
    let s := { s with candidates }.close fun b => b ≤ s.cursor.column
    match s.cursor.rest with
    | [] => s.finish?
    | c :: rest => do
      let s ← s.scanToken? c rest
      run fuel s

def resolve (keys : List (Nat × Bool)) : Item → List Token
  | .token t => [t]
  | .mark n =>
    match keys.find? fun k => k.1 = n with
    | some (_, true) => [.blockMappingStart, .key]
    | some (_, false) => [.key]
    | none => []

def tokens (s : Scanner) : List Token := s.items.reverse.flatMap (resolve s.keys)

end Scanner

/-- The tokens of a stream, the mark of byte order at its start left out. -/
def tokens? (text : String) : Option (List Token) :=
  let cs := match text.toList with
    | '\ufeff' :: rest => rest
    | cs => cs
  if cs.all isAllowed then
    (Scanner.run (cs.length + 2) { cursor := Cursor.start cs }).map Scanner.tokens
  else none

end Provision.Yaml
