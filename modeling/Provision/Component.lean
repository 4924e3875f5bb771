import Provision.Error

/-!
# Components

A component is a Go constructor with its argument struct. A profile names one on
a single line, `package.Constructor(Args)`.
-/

set_option autoImplicit false

namespace Provision

structure Component where
  package : String
  constructor : String
  argsType : String
  deriving DecidableEq, Inhabited

namespace Component

def isPathChar (c : Char) : Bool := c.isAlphanum || ['-', '.', '_', '~', '+'].contains c

def isPathElement (cs : List Char) : Bool :=
  !cs.isEmpty && cs ≠ ['.'] && cs ≠ ['.', '.'] && cs.all isPathChar

def isPackagePath (path : String) : Bool := (path.toList.splitOn '/').all isPathElement

def isExportedName (name : String) : Bool :=
  match name.toList with
  | [] => false
  | c :: rest => c.isUpper && rest.all fun c => c.isAlphanum || c = '_'

def fault? (c : Component) : Option ConfigFault :=
  if !isPackagePath c.package then some (.packagePath c.package)
  else if !isExportedName c.constructor then some (.constructorName c.constructor)
  else if !isExportedName c.argsType then some (.argumentsName c.argsType)
  else none

def validate (c : Component) : Except Error Unit :=
  match c.fault? with
  | some cause => .error (.config cause)
  | none => .ok ()

/-- The arguments of a constructor, up to the bracket that ends the profile. -/
def argumentsOf? (cs : List Char) : Option (List Char) :=
  match cs.reverse with
  | ')' :: rest =>
    if rest.isEmpty || rest.contains ')' then none else some rest.reverse
  | _ => none

def ofParts? (package rest : List Char) : Option Component :=
  let constructor := rest.takeWhile (· ≠ '(')
  if package.isEmpty || package.contains '\n' then none
  else if constructor.isEmpty || constructor.contains '.' then none
  else match rest.dropWhile (· ≠ '(') with
    | [] => none
    | _ :: args => (argumentsOf? args).map fun args =>
      ⟨String.ofList package, String.ofList constructor, String.ofList args⟩

/-- Of the dots after which a constructor follows, the last one ends the package. -/
def ofChars? (before : List Char) : List Char → Option Component
  | [] => none
  | c :: rest =>
    (ofChars? (c :: before) rest).or (if c = '.' then ofParts? before.reverse rest else none)

def written (c : Component) : String :=
  c.package ++ "." ++ c.constructor ++ "(" ++ c.argsType ++ ")"

def knownProfiles : List (String × String) :=
  [("debug", "github.com/astromechza/scorpion/lib/debug.New(Args)")]

/-- The profile that a built-in name stands for; any other text is a profile itself. -/
def expandProfile (text : String) : String := (Entries.find? text knownProfiles).getD text

def ofProfile (text : String) : Except Error Component :=
  match ofChars? [] (expandProfile text).toList with
  | some c => .ok c
  | none => .error (.config (.profile (expandProfile text)))

end Component

end Provision
