import Provision.Command.Disk
import Provision.Proofs.Files

/-!
# Runs of sessions

A course of actions runs to its end, or up to the first action that fails. Either way the
actions before have had their effect. The project file and its draft lie in the directory that
a command works in.
-/

set_option autoImplicit false

namespace Provision

open Outcome

namespace Session

section Runs

variable {σ α β : Type}

def runFrom (x : Session (StateM σ) α) (s : σ) : Except Failure α × σ := x.run s

variable {x : Session (StateM σ) α} {f : α → Session (StateM σ) β} {s t : σ}

theorem runFrom_bind (x : Session (StateM σ) α) (f : α → Session (StateM σ) β) (s : σ) :
    runFrom (x >>= f) s = match runFrom x s with
      | (.ok a, r) => runFrom (f a) r
      | (.error e, r) => (.error e, r) := by
  simp only [runFrom, ExceptT.run, bind, ExceptT.bind, ExceptT.mk, StateT.bind]
  cases x s with
  | mk r s => cases r <;> rfl

theorem bind_ok {b : β} : runFrom (x >>= f) s = (.ok b, t) ↔
    ∃ a r, runFrom x s = (.ok a, r) ∧ runFrom (f a) r = (.ok b, t) := by
  rw [runFrom_bind]
  cases runFrom x s with
  | mk r s => cases r <;> simp

theorem bind_error {e : Failure} : runFrom (x >>= f) s = (.error e, t) ↔
    runFrom x s = (.error e, t) ∨
      ∃ a r, runFrom x s = (.ok a, r) ∧ runFrom (f a) r = (.error e, t) := by
  rw [runFrom_bind]
  cases runFrom x s with
  | mk r s => cases r <;> simp

theorem bind_cases {r : Except Failure β} (h : runFrom (x >>= f) s = (r, t)) :
    (∃ e, runFrom x s = (.error e, t)) ∨
      ∃ a mid, runFrom x s = (.ok a, mid) ∧ runFrom (f a) mid = (r, t) := by
  cases r with
  | ok b => exact .inr (bind_ok.mp h)
  | error e => exact (bind_error.mp h).imp_left fun hx => ⟨e, hx⟩

theorem runFrom_pure (a : α) (s : σ) : runFrom (pure a) s = (.ok a, s) := rfl

theorem runFrom_throw (e : Failure) (s : σ) :
    runFrom (throw e : Session (StateM σ) α) s = (.error e, s) := rfl

theorem runFrom_lift (y : StateM σ α) (s : σ) :
    runFrom (ExceptT.lift y) s = (.ok (y s).1, (y s).2) := rfl

theorem orFail_ok {r : Except Error α} {a : α} :
    runFrom (orFail r) s = (.ok a, t) ↔ r = .ok a ∧ s = t := by
  cases r with
  | ok b => simp [orFail, runFrom_pure]
  | error e => simp [orFail, runFrom_throw]

end Runs

/-! ## The files of a project -/

def projectPlace (home : List String) : List String := home ++ ["score.config.json"]

def draftPlace (home : List String) : List String := home ++ ["score.config.json.tmp"]

theorem projectPlace_ne_nil (home : List String) : projectPlace home ≠ [] := by
  simp [projectPlace]

theorem draftPlace_ne_nil (home : List String) : draftPlace home ≠ [] := by
  simp [draftPlace]

theorem projectPlace_inj {home other : List String} :
    projectPlace home = projectPlace other ↔ home = other := by
  simp [projectPlace]

/-- No draft lies where a project file does. -/
theorem projectPlace_ne_draftPlace (home other : List String) :
    projectPlace home ≠ draftPlace other := by
  intro h
  have hlast := congrArg List.getLast? h
  simp [projectPlace, draftPlace] at hlast

theorem locate_projectFile (fs : FileSystem) (home : List String) :
    fs.locate home projectFile = .ok ⟨projectPlace home, true, false⟩ :=
  fs.locate_named home projectFile "score.config.json" (by decide) (by decide) (by decide)
    (by decide) (by decide)

theorem locate_draftFile (fs : FileSystem) (home : List String) :
    fs.locate home draftFile = .ok ⟨draftPlace home, true, false⟩ :=
  fs.locate_named home draftFile "score.config.json.tmp" (by decide) (by decide) (by decide)
    (by decide) (by decide)

end Session

/-! ## Where a command works -/

def Command.output : Command → Option String
  | .generate _ output => output
  | _ => none

namespace FileSystem

def enterAt (fs : FileSystem) (here : List String) : Option String → Except FileFault (List String)
  | none => .ok here
  | some dir => fs.enter here dir

def homeAt (fs : FileSystem) (here : List String) (dir : Option String) : List String :=
  (fs.enterAt here dir).toOption.getD here

def home (fs : FileSystem) (here : List String) (args : List String) : List String :=
  fs.homeAt here ((Invocation.ofArguments? none args).bind Invocation.dir)

def outputPlace? (fs : FileSystem) (here : List String) (args : List String) :
    Option (List String) := do
  let i ← Invocation.ofArguments? none args
  let path ← i.command.output
  (fs.writable (fs.home here args) path).toOption

theorem enterAt_eq_ok {fs other : FileSystem} {here home : List String} {dir : Option String}
    (hsame : SameDirectories fs other) (h : fs.enterAt here dir = .ok home) :
    other.enterAt here dir = .ok home := by
  cases dir with
  | none => exact h
  | some path => exact enter_eq_ok hsame h

end FileSystem

end Provision
