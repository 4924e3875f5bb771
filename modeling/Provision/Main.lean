import Provision.Command.Session
import Provision.Files

/-!
# The command line

Runs a command on the files of the machine. Paths are taken relative to the
directory that the command changed to.
-/

set_option autoImplicit false

abbrev Provision.Machine := StateT String IO

namespace Provision.Machine

def under (base path : String) : String :=
  if path.toList.head? = some '/' || base.isEmpty then path else base ++ "/" ++ path

def faultOf (e : IO.Error) : FileFault :=
  match e with
  | .noFileOrDirectory _ _ _ => .notFound
  | .inappropriateType _ 21 _ => .isADirectory
  | .inappropriateType _ 20 _ => .notADirectory
  | e => .other (toString e)

def attempt {α : Type} (act : String → IO α) (path : String) :
    Machine (Except FileFault α) := do
  let path := under (← get) path
  try
    let a ← act path
    return .ok a
  catch e => return .error (faultOf e)

/-- Fails for what is not a directory. -/
def listDirectory (path : String) : IO Unit := do
  let resolved ← IO.FS.realPath path
  let _ ← resolved.readDir

instance : Store Machine where
  read path := do
    match ← attempt (fun p => IO.FS.readBinFile p) path with
    | .error cause => return .error cause
    | .ok bytes =>
      match Content.ofBytes bytes.toList with
      | .text s => return .ok s
      | .binary _ => return .error .notText
  write path content := attempt (fun p => IO.FS.writeFile p content) path
  rename source target := do
    let target := under (← get) target
    attempt (fun p => IO.FS.rename p target) source
  remove path := attempt (fun p => IO.FS.removeFile p) path
  enter path := do
    match ← attempt listDirectory path with
    | .error cause => return .error cause
    | .ok _ =>
      modify fun base => under base path
      return .ok ()
  print text := do
    let out ← IO.getStdout
    try
      out.putStr text
      out.flush
      return .ok ()
    catch e => return .error (faultOf e)

end Provision.Machine

def main (args : List String) : IO UInt32 := do
  let session : Provision.Session Provision.Machine Unit :=
    Provision.Session.perform args
  let (result, _) ← session.run.run ""
  match result with
  | .ok () => return 0
  | .error .usage =>
    IO.eprintln ("usage: scorpion [--dir DIR] " ++
      "init [PROFILE] | generate [FILE] [-o OUTPUT] | plan | graph")
    return 2
  | .error (.abort cause) =>
    IO.eprintln (Provision.Failure.abort cause).message
    return 101
  | .error f =>
    IO.eprintln ("Error: " ++ f.message)
    return 1
