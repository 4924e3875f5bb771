import Provision.Json

/-!
# Writing JSON

Documents are written compactly, or over several lines with two blanks for each
level. Only quotes, backslashes and control characters are escaped.
-/

set_option autoImplicit false

namespace Provision.Json

def hexByte (n : Nat) : List Char := [Nat.digitChar (n / 16 % 16), Nat.digitChar (n % 16)]

def escapeChar (c : Char) : List Char :=
  match c with
  | '"' => ['\\', '"']
  | '\\' => ['\\', '\\']
  | '\x08' => ['\\', 'b']
  | '\x0c' => ['\\', 'f']
  | '\n' => ['\\', 'n']
  | '\r' => ['\\', 'r']
  | '\t' => ['\\', 't']
  | c => if c.toNat < 0x20 then ['\\', 'u', '0', '0'] ++ hexByte c.toNat else [c]

def stringChars (s : String) : List Char := '"' :: s.toList.flatMap escapeChar ++ ['"']

def scalarChars : Json → List Char
  | bool true => ['t', 'r', 'u', 'e']
  | bool false => ['f', 'a', 'l', 's', 'e']
  | int n => (toString n).toList
  | float x => (DoubleNotation.document.write x).toList
  | string s => stringChars s
  | _ => ['n', 'u', 'l', 'l']

mutual

def compactChars : Json → List Char
  | array [] => ['[', ']']
  | array (j :: rest) => '[' :: compactChars j ++ compactItems rest ++ [']']
  | object [] => ['{', '}']
  | object ((k, j) :: rest) =>
    '{' :: stringChars k ++ ':' :: compactChars j ++ compactMembers rest ++ ['}']
  | j => scalarChars j

def compactItems : List Json → List Char
  | [] => []
  | j :: rest => ',' :: compactChars j ++ compactItems rest

def compactMembers : List (String × Json) → List Char
  | [] => []
  | (k, j) :: rest => ',' :: stringChars k ++ ':' :: compactChars j ++ compactMembers rest

end

def newline (level : Nat) : List Char := '\n' :: List.replicate (2 * level) ' '

mutual

def prettyChars (level : Nat) : Json → List Char
  | array [] => ['[', ']']
  | array (j :: rest) =>
    '[' :: newline (level + 1) ++ prettyChars (level + 1) j ++ prettyItems (level + 1) rest
      ++ newline level ++ [']']
  | object [] => ['{', '}']
  | object ((k, j) :: rest) =>
    '{' :: newline (level + 1) ++ stringChars k ++ ':' :: ' ' :: prettyChars (level + 1) j
      ++ prettyMembers (level + 1) rest ++ newline level ++ ['}']
  | j => scalarChars j

def prettyItems (level : Nat) : List Json → List Char
  | [] => []
  | j :: rest => ',' :: newline level ++ prettyChars level j ++ prettyItems level rest

def prettyMembers (level : Nat) : List (String × Json) → List Char
  | [] => []
  | (k, j) :: rest =>
    ',' :: newline level ++ stringChars k ++ ':' :: ' ' :: prettyChars level j
      ++ prettyMembers level rest

end

def compact (j : Json) : String := String.ofList (compactChars j)

def pretty (j : Json) : String := String.ofList (prettyChars 0 j)

end Provision.Json

namespace Provision.Value

def jsonText (path : String) (v : Value) : Except Error String :=
  match v.json with
  | .ok j => .ok j.compact
  | .error cause => .error (.shape path cause)

/-- The value as it is spliced into text: strings as they are, all else as JSON. -/
def text (path : String) : Value → Except Error String
  | string s => .ok s
  | v => v.jsonText path

def normalize (path : String) (v : Value) : Except Error Value :=
  match v.json with
  | .ok j => j.normalize path
  | .error cause => .error (.shape path cause)

end Provision.Value
