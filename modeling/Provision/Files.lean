import Provision.Error

/-!
# File systems

A file system maps the places below its root to files and directories. A place is
the list of names that leads to it. Paths are texts and are walked from a working
directory, or from the root if they start with a slash: every name but the last
has to be a directory, `.` stays, and `..` goes up, but not above the root.
-/

set_option autoImplicit false

namespace Provision

inductive Content where
  | text (s : String)
  /-- Bytes that are not the encoding of a text. -/
  | binary (bytes : List UInt8)
  deriving DecidableEq, Inhabited

def Content.ofBytes (bytes : List UInt8) : Content :=
  match String.fromUTF8? ⟨bytes.toArray⟩ with
  | some s => text s
  | none => binary bytes

inductive FileEntry where
  | file (content : Content)
  | directory
  deriving DecidableEq, Inhabited

structure FileSystem where
  entries : List (List String × FileEntry)
  deriving Inhabited

/-- What the last name of a path leads to, seen from the directory before it. -/
structure Location where
  place : List String
  /-- Whether the path ends in a name, not in a dot. -/
  named : Bool
  /-- Whether a slash follows the last name. -/
  slash : Bool

namespace FileSystem

def empty : FileSystem := ⟨[]⟩

def find? (fs : FileSystem) (place : List String) : Option FileEntry :=
  if place.isEmpty then some .directory
  else (fs.entries.find? fun e => e.1 = place).map Prod.snd

def erase (fs : FileSystem) (place : List String) : FileSystem :=
  ⟨fs.entries.filter fun e => e.1 ≠ place⟩

def put (fs : FileSystem) (place : List String) (entry : FileEntry) : FileSystem :=
  ⟨(place, entry) :: (fs.erase place).entries⟩

def eraseTree (fs : FileSystem) (place : List String) : FileSystem :=
  ⟨fs.entries.filter fun e => !place.isPrefixOf e.1⟩

def names (path : String) : List String :=
  ((path.toList.splitOn '/').map String.ofList).filter fun n => !n.isEmpty

def ensure (fs : FileSystem) (place : List String) : FileSystem :=
  if (fs.find? place).isSome then fs else fs.put place .directory

def putWithParents (fs : FileSystem) (place : List String) (entry : FileEntry) : FileSystem :=
  (((List.range place.length).map place.take).foldl ensure fs).put place entry

/-- The order of places name by name, a directory before what it holds. -/
def comesFirst : List String → List String → Bool
  | [], _ => true
  | _ :: _, [] => false
  | a :: rest, b :: others => if a = b then comesFirst rest others else decide (a < b)

/-- What a directory holds at any depth, by the names that lead there from it. -/
def listing (fs : FileSystem) (dir : List String) : List (List String × FileEntry) :=
  let held := fs.entries.filter fun e => dir.isPrefixOf e.1 && e.1 ≠ dir
  (held.map fun e => (e.1.drop dir.length, e.2)).mergeSort fun a b => comesFirst a.1 b.1

def walk (fs : FileSystem) : List String → List String → Except FileFault (List String)
  | here, [] => .ok here
  | here, name :: rest =>
    if name = "." then walk fs here rest
    else if name = ".." then walk fs here.dropLast rest
    else match fs.find? (here ++ [name]) with
      | some .directory => walk fs (here ++ [name]) rest
      | some (.file _) => .error .notADirectory
      | none => .error .notFound

def origin (here : List String) (path : String) : List String :=
  if path.toList.head? = some '/' then [] else here

def locate (fs : FileSystem) (here : List String) (path : String) : Except FileFault Location := do
  match (names path).reverse with
  | [] => if path.isEmpty then throw .notFound else return ⟨[], false, true⟩
  | last :: before =>
    let parent ← fs.walk (origin here path) before.reverse
    let slash := path.toList.getLast? = some '/'
    if last = "." then return ⟨parent, false, slash⟩
    else if last = ".." then return ⟨parent.dropLast, false, slash⟩
    else return ⟨parent ++ [last], true, slash⟩

def read (fs : FileSystem) (here : List String) (path : String) : Except FileFault String := do
  let l ← fs.locate here path
  match fs.find? l.place with
  | none => throw .notFound
  | some .directory => throw .isADirectory
  | some (.file c) =>
    if l.slash then throw .notADirectory
    match c with
    | .text s => return s
    | .binary _ => throw .notText

def writable (fs : FileSystem) (here : List String) (path : String) :
    Except FileFault (List String) := do
  let l ← fs.locate here path
  if l.slash || !l.named then throw .isADirectory
  match fs.find? l.place with
  | some .directory => throw .isADirectory
  | _ => return l.place

def write (fs : FileSystem) (here : List String) (path content : String) :
    Except FileFault FileSystem := do
  let place ← fs.writable here path
  return fs.put place (.file (.text content))

def rename (fs : FileSystem) (here : List String) (source target : String) :
    Except FileFault FileSystem := do
  let l ← fs.locate here source
  match fs.find? l.place with
  | none => throw .notFound
  | some entry =>
    let place ← fs.writable here target
    return (fs.erase l.place).put place entry

def remove (fs : FileSystem) (here : List String) (path : String) :
    Except FileFault FileSystem := do
  let l ← fs.locate here path
  match fs.find? l.place with
  | none => throw .notFound
  | some .directory => throw .isADirectory
  | some (.file _) =>
    if l.slash then throw .notADirectory
    return fs.erase l.place

def enter (fs : FileSystem) (here : List String) (path : String) :
    Except FileFault (List String) := do
  let l ← fs.locate here path
  match fs.find? l.place with
  | none => throw .notFound
  | some .directory => return l.place
  | some (.file _) => throw .notADirectory

end FileSystem

end Provision
