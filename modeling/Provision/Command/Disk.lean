import Provision.Command.Session
import Provision.Files

/-!
# Running commands on a file system

A disk is a file system with a working directory and what has been printed. A
command runs on a disk as a function of it.
-/

set_option autoImplicit false

namespace Provision

structure Disk where
  files : FileSystem
  here : List String
  printed : String := ""

namespace Disk

def attempt (f : FileSystem → List String → Except FileFault FileSystem) :
    StateM Disk (Except FileFault Unit) := fun d =>
  match f d.files d.here with
  | .ok files => (.ok (), { d with files })
  | .error cause => (.error cause, d)

instance : Store (StateM Disk) where
  read path := fun d => (d.files.read d.here path, d)
  write path content := attempt fun fs here => fs.write here path content
  rename source target := attempt fun fs here => fs.rename here source target
  remove path := attempt fun fs here => fs.remove here path
  enter path := fun d =>
    match d.files.enter d.here path with
    | .ok here => (.ok (), { d with here })
    | .error cause => (.error cause, d)
  print text := fun d => (.ok (), { d with printed := d.printed ++ text })

end Disk

structure Outcome where
  result : Except Failure Unit
  printed : String
  files : FileSystem

def FileSystem.run (fs : FileSystem) (here : List String) (args : List String) : Outcome :=
  let session : Session (StateM Disk) Unit := Session.perform args
  let (result, d) := session.run { files := fs, here }
  ⟨result, d.printed, d.files⟩

end Provision
