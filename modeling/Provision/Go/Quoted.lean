/-!
# Go string literals

An interpreted string literal holds no control character, no bare quote and no
bare backslash between its quotes.
-/

set_option autoImplicit false

namespace Provision.Go.Quoted

def hexDigits (width n : Nat) : List Char :=
  (List.range width).reverse.map fun i => Nat.digitChar (n / Nat.pow 16 i % 16)

def escape (c : Char) : List Char :=
  match c with
  | '"' => ['\\', '"']
  | '\\' => ['\\', '\\']
  | '\n' => ['\\', 'n']
  | '\r' => ['\\', 'r']
  | '\t' => ['\\', 't']
  | '\x07' => ['\\', 'a']
  | '\x08' => ['\\', 'b']
  | '\x0c' => ['\\', 'f']
  | '\x0b' => ['\\', 'v']
  | c =>
    if c.toNat < 0x20 || c.toNat = 0x7f then ['\\', 'x'] ++ hexDigits 2 c.toNat
    else if 0x80 ≤ c.toNat && c.toNat < 0xa0 then ['\\', 'u'] ++ hexDigits 4 c.toNat
    else [c]

def chars (s : String) : List Char := '"' :: s.toList.flatMap escape ++ ['"']

def quote (s : String) : String := String.ofList (chars s)

end Provision.Go.Quoted
