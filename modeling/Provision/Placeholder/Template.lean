import Provision.Placeholder.Lexeme

/-!
# References and templates

The body of a placeholder is a path: segments divided by dots, where `\.` is a
dot inside a segment. Its first segment tells what it refers to. A template is a
parameter string with its references read.
-/

set_option autoImplicit false

namespace Provision.Placeholder

inductive Target where
  | metadata (keys : List String)
  | resource (name : String) (fields : List String)
  deriving DecidableEq, Inhabited

structure Reference where
  raw : String
  target : Target
  deriving DecidableEq, Inhabited

inductive Segment where
  | text (s : String)
  | escape
  | reference (r : Reference)
  deriving DecidableEq, Inhabited

abbrev Template := List Segment

def extendHead (c : Char) : List (List Char) → List (List Char)
  | [] => [[c]]
  | s :: rest => (c :: s) :: rest

def splitChars : List Char → List (List Char)
  | [] => [[]]
  | '\\' :: '.' :: rest => extendHead '.' (splitChars rest)
  | c :: rest => if c = '.' then [] :: splitChars rest else extendHead c (splitChars rest)

def pathSegments (body : String) : List String := (splitChars body.toList).map String.ofList

def target (body : String) : Except ReferenceFault Target :=
  if body = "" then .error .empty
  else match pathSegments body with
    | [] => .error (.unknownRoot "")
    | root :: rest =>
      if root = "metadata" then
        if rest.isEmpty then .error .noKey else .ok (.metadata rest)
      else if root = "resources" then
        match rest with
        | [] => .error .noAlias
        | name :: fields => if name = "" then .error .noAlias else .ok (.resource name fields)
      else .error (.unknownRoot root)

def reference (body : String) : Except Error Reference :=
  match target body with
  | .ok t => .ok ⟨body, t⟩
  | .error cause => .error (.reference body cause none)

namespace Reference

def written (r : Reference) : String := "$\x7b" ++ r.raw ++ "\x7d"

end Reference

namespace Template

def consText (s : String) : Template → Template
  | .text t :: rest => .text (s ++ t) :: rest
  | rest => .text s :: rest

def ofLexemes : List Lexeme → Except Error Template
  | [] => .ok []
  | .text s :: rest => (ofLexemes rest).map (consText s)
  | .escape :: rest => (ofLexemes rest).map (.escape :: ·)
  | .placeholder body :: rest => do
    let r ← reference body
    let t ← ofLexemes rest
    return .reference r :: t

def parse (s : String) : Except Error Template := do
  let ls ← scan s
  ofLexemes ls

def references (t : Template) : List Reference :=
  t.filterMap fun
    | .reference r => some r
    | _ => none

def single? : Template → Option Reference
  | [.reference r] => some r
  | _ => none

end Template

end Provision.Placeholder
