import Provision.Error

/-!
# Lexemes of a parameter string

A parameter string is cut, from left to right, into the escape `$$`,
placeholders that run to the next closing brace, single dollars, and stretches
without a dollar. Only a placeholder that is never closed cannot be cut.
-/

set_option autoImplicit false

namespace Provision.Placeholder

inductive Lexeme where
  | text (s : String)
  | escape
  | placeholder (body : String)
  deriving DecidableEq, Inhabited

def closing? : List Char → Option (List Char × List Char)
  | [] => none
  | c :: rest =>
    if c = '}' then some ([], rest) else (closing? rest).map fun (body, after) => (c :: body, after)

theorem closing?_length {cs body after : List Char} (h : closing? cs = some (body, after)) :
    after.length < cs.length := by
  induction cs generalizing body with
  | nil => cases h
  | cons c rest ih =>
    simp only [closing?] at h
    split at h
    · cases h; simp
    · obtain ⟨⟨b, a⟩, hb, eq⟩ := Option.map_eq_some_iff.mp h
      cases eq
      exact Nat.lt_succ_of_lt (ih hb)

/-! ## The lexeme at the front of a text, with the text behind it -/

def escape? : List Char → Option (Lexeme × List Char)
  | '$' :: '$' :: rest => some (.escape, rest)
  | _ => none

def placeholder? : List Char → Option (Lexeme × List Char)
  | '$' :: '{' :: rest =>
    (closing? rest).map fun (body, after) => (.placeholder (String.ofList body), after)
  | _ => none

def dollar? : List Char → Option (Lexeme × List Char)
  | '$' :: rest =>
    if rest.head? = some '$' ∨ rest.head? = some '{' then none else some (.text "$", rest)
  | _ => none

def isText (c : Char) : Bool := c ≠ '$'

def stretch? (cs : List Char) : Option (Lexeme × List Char) :=
  if (cs.takeWhile isText).isEmpty then none
  else some (.text (String.ofList (cs.takeWhile isText)), cs.dropWhile isText)

def lexeme? (cs : List Char) : Option (Lexeme × List Char) :=
  escape? cs <|> placeholder? cs <|> dollar? cs <|> stretch? cs

theorem lexeme?_eq_some_iff {cs : List Char} {found : Lexeme × List Char} :
    lexeme? cs = some found ↔ escape? cs = some found ∨ escape? cs = none ∧
      (placeholder? cs = some found ∨ placeholder? cs = none ∧
        (dollar? cs = some found ∨ dollar? cs = none ∧ stretch? cs = some found)) := by
  simp only [lexeme?, Option.orElse_eq_orElse, Option.orElse_eq_or, Option.or_eq_some_iff]

/-- A lexeme takes a character at least. -/
theorem lexeme?_length {cs rest : List Char} {l : Lexeme} (h : lexeme? cs = some (l, rest)) :
    rest.length < cs.length := by
  rcases lexeme?_eq_some_iff.mp h with h | ⟨-, h | ⟨-, h | ⟨-, h⟩⟩⟩
  · unfold escape? at h
    split at h
    · cases h
      simp only [List.length_cons]
      omega
    · cases h
  · unfold placeholder? at h
    split at h
    · obtain ⟨⟨body, after⟩, hclosed, heq⟩ := Option.map_eq_some_iff.mp h
      cases heq
      have hshorter := closing?_length hclosed
      simp only [List.length_cons]
      omega
    · cases h
  · unfold dollar? at h
    split at h
    · split at h
      · cases h
      · cases h
        exact Nat.lt_succ_self _
    · cases h
  · unfold stretch? at h
    split at h
    · cases h
    · next hne =>
      cases h
      have hsplit : (cs.takeWhile isText).length + (cs.dropWhile isText).length = cs.length := by
        rw [← List.length_append, List.takeWhile_append_dropWhile]
      have hpos : 0 < (cs.takeWhile isText).length := by
        simpa [List.length_pos_iff] using hne
      omega

/-- The lexemes of a text, or the suffix at which none is found. -/
def lexemes : List Char → Except (List Char) (List Lexeme)
  | [] => .ok []
  | c :: cs =>
    match _found : lexeme? (c :: cs) with
    | some (l, rest) => (lexemes rest).map (l :: ·)
    | none => .error (c :: cs)
termination_by cs => cs.length
decreasing_by exact lexeme?_length _found

def faultAt (rest : List Char) : ReferenceFault :=
  if ['$', '{'].isPrefixOf rest then .unterminated else .noLexeme

def scan (s : String) : Except Error (List Lexeme) :=
  match lexemes s.toList with
  | .ok ls => .ok ls
  | .error rest => .error (.reference (String.ofList rest) (faultAt rest) none)

def opens : List Char → Bool
  | [] => false
  | '$' :: '{' :: _ => true
  | _ :: rest => opens rest

def isUnmarked (s : String) : Bool := !opens s.toList

def escapeChars : List Char → List Char
  | [] => []
  | c :: rest => if c = '$' then '$' :: '$' :: escapeChars rest else c :: escapeChars rest

def doubleDollars (s : String) : String := String.ofList (escapeChars s.toList)

end Provision.Placeholder
