import Provision.Value
import Provision.Double.Notation
import Provision.Text.Quoted

/-!
# Causes of failure

Each way to fail is a constructor that carries what the message names. The
wording stands in the `message` functions and nowhere else.
-/

set_option autoImplicit false

namespace Provision

inductive FileFault where
  | notFound
  | notADirectory
  | isADirectory
  | notText
  | other (text : String)
  deriving DecidableEq, Inhabited

def FileFault.message : FileFault → String
  | notFound => "No such file or directory (os error 2)"
  | notADirectory => "Not a directory (os error 20)"
  | isADirectory => "Is a directory (os error 21)"
  | notText => "stream did not contain valid UTF-8"
  | other text => text

inductive ReferenceFault where
  | unterminated
  | noLexeme
  | empty
  | noKey
  | noAlias
  | unknownRoot (root : String)
  | noMetadata
  | keyNotFound (key : String)
  | notAMap (key : String)
  | unknownAlias (name : String)
  deriving DecidableEq, Inhabited

def ReferenceFault.message : ReferenceFault → String
  | unterminated => "unterminated placeholder"
  | noLexeme => "lexer error"
  | empty => "empty placeholder"
  | noKey => "metadata reference has no key"
  | noAlias => "resource reference has no alias"
  | unknownRoot root => "unknown reference root '" ++ root ++ "'"
  | noMetadata => "no workload metadata in scope"
  | keyNotFound key => "key '" ++ key ++ "' not found"
  | notAMap key => "cannot lookup key '" ++ key ++ "', context is not a map"
  | unknownAlias name => "unknown resource alias '" ++ name ++ "'"

inductive ShapeFault where
  | nonFinite (x : Double)
  | noLiteral (x : Double)
  | wideInteger (n : Int)
  | notExported (raw : String)
  | repeatedField (field : String)
  deriving DecidableEq, Inhabited

def ShapeFault.message : ShapeFault → String
  | nonFinite x => "non-finite float " ++ DoubleNotation.source.write x ++ " cannot be serialized"
  | noLiteral x => "float " ++ DoubleNotation.source.write x ++ " has no Go literal"
  | wideInteger n => "integer " ++ toString n ++ " does not fit in a signed 64-bit value"
  | notExported raw => "'" ++ raw ++ "' does not convert to an exported Go identifier"
  | repeatedField field => "parameter name converts to the field " ++ field ++ " more than once"

inductive PatternRole where
  | cls
  | id
  deriving DecidableEq, Inhabited

def PatternRole.name : PatternRole → String
  | cls => "class"
  | id => "id"

inductive ConfigFault where
  | nameMissing
  | nameEmpty
  | nameKind (kind : String)
  | untypedResource (resource workload : String)
  | packagePath (path : String)
  | constructorName (name : String)
  | argumentsName (name : String)
  | defaultComponent (cause : ConfigFault)
  | libraryComponent (index : Nat) (cause : ConfigFault)
  | profile (text : String)
  | unreadable (path : String) (cause : FileFault)
  | undecodable
  | pattern (index : Nat) (role : PatternRole)
  deriving DecidableEq, Inhabited

def ConfigFault.detail : ConfigFault → String
  | nameMissing => "workload metadata.name is missing"
  | nameEmpty => "workload metadata.name is empty"
  | nameKind kind => "workload metadata.name must be a string, got " ++ kind
  | untypedResource resource workload =>
    "resource \"" ++ resource ++ "\" in workload \"" ++ workload ++ "\" has no type"
  | packagePath path => "component contains an invalid package path '" ++ path ++ "'"
  | constructorName name =>
    "component contains an invalid constructor func identifier '" ++ name ++ "'"
  | argumentsName name => "component contains an invalid args struct identifier '" ++ name ++ "'"
  | defaultComponent cause =>
    "config contains an invalid default workload component entry: invalid configuration: "
      ++ cause.detail
  | libraryComponent index cause =>
    "config contains an invalid resource component entry (" ++ toString index
      ++ "): invalid configuration: " ++ cause.detail
  | profile text => "failed to parse '" ++ text ++ "' as workload profile"
  | unreadable path cause => "failed to read config file " ++ path ++ ": " ++ cause.message
  | undecodable => "failed to decode config file"
  | pattern index role =>
    "resource component entry (" ++ toString index ++ ") has an invalid " ++ role.name ++ " pattern"

inductive Disagreement where
  | declarations
  | identity
  | parameters
  | dependencies
  deriving DecidableEq, Inhabited

def Disagreement.name : Disagreement → String
  | declarations => "declarations"
  | identity => "identity"
  | parameters => "parameters"
  | dependencies => "dependencies"

inductive Subject where
  | workload
  | resource
  deriving DecidableEq, Inhabited

def Subject.name : Subject → String
  | workload => "workload"
  | resource => "resource"

inductive Error where
  | file (path : String) (cause : FileFault)
  | config (cause : ConfigFault)
  | reference (raw : String) (cause : ReferenceFault) (place : Option String)
  | conflict (subject : Subject) (identity : String) (about : Disagreement)
  | lookup (identity type cls : String)
  | cycle (node : String)
  | missingNode (id : String)
  | shape (path : String) (cause : ShapeFault)
  | serialization (cause : ShapeFault)
  | yaml
  deriving DecidableEq, Inhabited

namespace Error

def placeText : Option String → String
  | none => ""
  | some path => " (at " ++ path ++ ")"

def message : Error → String
  | file path cause => "I/O error at " ++ path ++ ": " ++ cause.message
  | config cause => "invalid configuration: " ++ cause.detail
  | reference raw cause place =>
    "invalid ref '" ++ raw ++ "': " ++ cause.message ++ placeText place
  | conflict subject identity about =>
    "duplicate " ++ subject.name ++ " " ++ Quoted.quote identity ++ " with conflicting "
      ++ about.name
  | lookup identity type cls =>
    "no resource component matches resource " ++ Quoted.quote identity ++ " (type "
      ++ Quoted.quote type ++ ", class " ++ Quoted.quote cls ++ ")"
  | cycle node => "cycle detected at node " ++ node
  | missingNode id => "node " ++ id ++ " is referenced but not defined in the graph"
  | shape path cause => "unsupported value at " ++ path ++ ": " ++ cause.message
  | serialization cause => "serialization error: " ++ cause.message
  | yaml => "yaml error"

def located (path : String) : Error → Error
  | reference raw cause none => reference raw cause (some path)
  | e => e

end Error

end Provision
