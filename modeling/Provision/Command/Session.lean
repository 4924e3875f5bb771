import Provision.Command
import Provision.Graph.Build
import Provision.Graph.Dot
import Provision.Graph.Plan
import Provision.Program
import Provision.Project.Codec

/-!
# Sessions

What the commands do with the files of a project. A session reads and writes
files through a store, so that the same commands run on a file system that is a
value and on that of the machine.
-/

set_option autoImplicit false

namespace Provision

/-- Access to files and to the standard output, relative to a working directory. -/
class Store (m : Type → Type) where
  read : String → m (Except FileFault String)
  write : String → String → m (Except FileFault Unit)
  rename : String → String → m (Except FileFault Unit)
  remove : String → m (Except FileFault Unit)
  enter : String → m (Except FileFault Unit)
  print : String → m (Except FileFault Unit)

inductive Failure where
  | error (e : Error)
  | noProject
  | directory (path : String) (cause : FileFault)
  | output (path : String) (cause : FileFault)
  /-- A program could not be printed. -/
  | unprinted (cause : FileFault)
  /-- A command broke off where it stood: it returned no error. -/
  | abort (cause : FileFault)
  /-- The arguments were not accepted. -/
  | usage
  deriving DecidableEq, Inhabited

def Failure.message : Failure → String
  | error e => e.message
  | noProject => "no project found in ., run `scorpion init` first"
  | directory path cause => "failed to change directory to " ++ path ++ ": " ++ cause.message
  | output path cause => "failed to write " ++ path ++ ": " ++ cause.message
  | unprinted cause => cause.message
  | abort cause => "failed printing to stdout: " ++ cause.message
  | usage => "usage"

abbrev Session (m : Type → Type) := ExceptT Failure m

namespace Session

def projectFile : String := "./score.config.json"

/-- The project is written here first and then moved into place. -/
def draftFile : String := projectFile ++ ".tmp"

/-- The project in a project file; none where there is no file. -/
def loaded : Except FileFault String → Except Error (Option Project)
  | .error .notFound => .ok none
  | .error cause => .error (.config (.unreadable projectFile cause))
  | .ok text =>
    match Project.decode? text with
    | some p => .ok (some p)
    | none => .error (.config .undecodable)

def workloadIn (path : String) : Except FileFault String → Except Error Workload
  | .error cause => .error (.file path cause)
  | .ok text => Workload.parse text

def graphOf (p : Project) : Except Error Graph := do
  p.validate
  p.graph

variable {m : Type → Type} [Monad m] [Store m]

instance : Store (Session m) where
  read path := ExceptT.lift (Store.read path)
  write path content := ExceptT.lift (Store.write path content)
  rename source target := ExceptT.lift (Store.rename source target)
  remove path := ExceptT.lift (Store.remove path)
  enter path := ExceptT.lift (Store.enter path)
  print text := ExceptT.lift (Store.print text)

def orFail {α : Type} : Except Error α → Session m α
  | .ok a => pure a
  | .error e => throw (.error e)

def load : Session m (Option Project) := do
  let r ← Store.read projectFile
  orFail (loaded r)

def replaceProjectFile (text : String) : Session m (Except FileFault Unit) := do
  match ← Store.write draftFile text with
  | .error cause => return .error cause
  | .ok () => Store.rename draftFile projectFile

def save (p : Project) : Session m Unit := do
  let text ← orFail p.encode
  match ← replaceProjectFile (text ++ "\n") with
  | .ok () => return
  | .error cause =>
    -- Whether the draft could be removed is not looked at.
    let _ ← Store.remove draftFile
    throw (.error (.file projectFile cause))

def announce (text : String) : Session m Unit := do
  match ← Store.print text with
  | .ok () => return
  | .error cause => throw (.abort cause)

def init (profile : String) : Session m Unit := do
  let component ← orFail (Component.ofProfile profile)
  match ← load with
  | none =>
    save { Project.empty with workloadComponent := component }
    announce ("Initialised project with profile " ++ profile ++ "\n")
  | some p =>
    if p.workloadComponent = component then return
    save { p with workloadComponent := component }
    announce ("Updated workload profile to " ++ profile ++ "\n")

def addFile (p : Project) : Option String → Session m Project
  | none => return p
  | some path => do
    let r ← Store.read path
    let w ← orFail (workloadIn path r)
    orFail (p.upsert w)

def deliver (source : String) : Option String → Session m Unit
  | none => do
    match ← Store.print source with
    | .ok () => return
    | .error cause => throw (.unprinted cause)
  | some path => do
    match ← Store.write path source with
    | .ok () => return
    | .error cause => throw (.output path cause)

/-- Generates the program; the project is saved once the program is written. -/
def generate (file output : Option String) : Session m Unit := do
  let p ← load
  let p ← addFile (p.getD Project.empty) file
  let g ← orFail (graphOf p)
  let source ← orFail g.program
  deliver source output
  save p

def projectGraph : Session m Graph := do
  match ← load with
  | none => throw .noProject
  | some p => orFail (graphOf p)

def plan : Session m Unit := do
  let g ← projectGraph
  let text ← orFail g.plan
  announce text

def graph : Session m Unit := do
  let g ← projectGraph
  announce g.dot

def execute : Command → Session m Unit
  | .init profile => init profile
  | .generate file output => generate file output
  | .plan => plan
  | .graph => graph

def changeTo : Option String → Session m Unit
  | none => return
  | some dir => do
    match ← Store.enter dir with
    | .ok () => return
    | .error cause => throw (.directory dir cause)

def perform (args : List String) : Session m Unit := do
  match Invocation.ofArguments? none args with
  | none => throw .usage
  | some i =>
    changeTo i.dir
    execute i.command

end Session

end Provision
