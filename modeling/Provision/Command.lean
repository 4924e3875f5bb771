/-!
# Commands

What the command line can ask for, and how its arguments say it. An option is
given once at most, before or after the name of the command; `--` ends options.
-/

set_option autoImplicit false

namespace Provision

inductive Command where
  | init (profile : String)
  | generate (file output : Option String)
  | plan
  | graph
  deriving DecidableEq, Inhabited

structure Invocation where
  command : Command
  /-- The directory to change to before anything else. -/
  dir : Option String
  deriving DecidableEq, Inhabited

namespace Invocation

inductive Key where
  | dir
  | output
  deriving DecidableEq, Inhabited

structure Given where
  dir : Option String := none
  output : Option String := none
  values : List String := []

def after? (mark arg : String) : Option String :=
  if mark.toList.isPrefixOf arg.toList then
    some (String.ofList (arg.toList.drop mark.length))
  else none

def option? (arg : String) : Option (Key × Option String) :=
  if arg = "--dir" then some (.dir, none)
  else if arg = "--output" || arg = "-o" then some (.output, none)
  else match after? "--dir=" arg with
    | some v => some (.dir, some v)
    | none =>
      match (after? "--output=" arg).or ((after? "-o=" arg).or (after? "-o" arg)) with
      | some v => some (.output, some v)
      | none => none

def isFlag (arg : String) : Bool := arg.toList.head? = some '-' && arg ≠ "-"

/-- Takes an option; its value cannot be empty. -/
def Given.take? (g : Given) (key : Key) (value : String) : Option Given :=
  if value.isEmpty then none
  else match key with
    | .dir => if g.dir.isSome then none else some { g with dir := some value }
    | .output => if g.output.isSome then none else some { g with output := some value }

def arguments? (g : Given) : List String → Option Given
  | [] => some g
  | arg :: rest =>
    if arg = "--" then some { g with values := g.values ++ rest }
    else match option? arg with
      | some (key, some value) => do
        let g ← g.take? key value
        arguments? g rest
      | some (key, none) =>
        match rest with
        | [] => none
        | value :: rest =>
          if isFlag value then none
          else do
            let g ← g.take? key value
            arguments? g rest
      | none =>
        if isFlag arg then none else arguments? { g with values := g.values ++ [arg] } rest

def command? (name : String) (g : Given) : Option Command :=
  match name, g.values, g.output with
  | "init", [], none => some (.init "debug")
  | "init", [profile], none => some (.init profile)
  | "generate", [], output => some (.generate none output)
  | "generate", [file], output => if file.isEmpty then none else some (.generate (some file) output)
  | "plan", [], none => some .plan
  | "graph", [], none => some .graph
  | _, _, _ => none

/-- Reads arguments; a directory given after the command goes first. -/
def ofArguments? (dir : Option String) : List String → Option Invocation
  | [] => none
  | arg :: rest =>
    match option? arg with
    | some (.dir, some value) =>
      if value.isEmpty || dir.isSome then none else ofArguments? (some value) rest
    | some (.dir, none) =>
      match rest with
      | [] => none
      | value :: rest =>
        if isFlag value || value.isEmpty || dir.isSome then none else ofArguments? (some value) rest
    | some (.output, _) => none
    | none => do
      let g ← arguments? {} rest
      let command ← command? arg g
      some ⟨command, g.dir.or dir⟩

end Invocation

end Provision
