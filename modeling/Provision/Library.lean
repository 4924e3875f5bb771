import Provision.Pattern.Reader
import Provision.Project

/-!
# Libraries of components

A library keeps the entries of a project in order, with their patterns read. The
first entry that matches a resource gives its component.
-/

set_option autoImplicit false

namespace Provision

structure Shelf where
  component : Component
  type : String
  classPattern : Pattern
  idPattern : Pattern
  deriving Inhabited

abbrev Library := List Shelf

namespace Library

def patternOf (index : Nat) (role : PatternRole) (text : String) : Except Error Pattern :=
  match Pattern.read? text with
  | some p => .ok p
  | none => .error (.config (.pattern index role))

def shelve (index : Nat) (e : LibraryEntry) : Except Error Shelf := do
  let classPattern ← patternOf index .cls e.classPattern
  let idPattern ← patternOf index .id e.idPattern
  return { component := e.component, type := e.type, classPattern, idPattern }

def ofEntriesFrom (index : Nat) : List LibraryEntry → Except Error Library
  | [] => .ok []
  | e :: rest => do
    let shelf ← shelve index e
    let shelves ← ofEntriesFrom (index + 1) rest
    return shelf :: shelves

def ofEntries (es : List LibraryEntry) : Except Error Library := ofEntriesFrom 0 es

end Library

def Shelf.suits (s : Shelf) (type cls identity : String) : Bool :=
  s.type = type && s.classPattern.isMatch cls && s.idPattern.isMatch identity

def Library.lookup (l : Library) (type cls identity : String) : Except Error Component :=
  match l.find? fun s => s.suits type cls identity with
  | some s => .ok s.component
  | none => .error (.lookup identity type cls)

end Provision
