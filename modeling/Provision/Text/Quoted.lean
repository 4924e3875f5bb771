import Provision.Text.Unprinted

/-!
# Quoted identities

Messages quote the identities they name. Quotes, backslashes and the common
control characters take a backslash; a character that is not printed is written
by its number.
-/

set_option autoImplicit false

namespace Provision.Quoted

def hex (n : Nat) : List Char := Nat.toDigits 16 n

def escape (c : Char) : List Char :=
  match c with
  | '"' => ['\\', '"']
  | '\\' => ['\\', '\\']
  | '\n' => ['\\', 'n']
  | '\r' => ['\\', 'r']
  | '\t' => ['\\', 't']
  | '\x00' => ['\\', '0']
  | c =>
    if CharSet.unprinted.contains c then ['\\', 'u', '{'] ++ hex c.toNat ++ ['}'] else [c]

def quote (s : String) : String :=
  String.ofList ('"' :: s.toList.flatMap escape ++ ['"'])

end Provision.Quoted
