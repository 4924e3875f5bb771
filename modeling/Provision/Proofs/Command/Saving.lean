import Provision.Proofs.Command.Session

/-!
# What commands do to a disk

On a disk that refuses nothing, the success of a command is the success of each of its actions.
A project is saved unless a directory stands in the way of its file or of the draft.
-/

set_option autoImplicit false

namespace Provision

open Outcome Session

namespace FileSystem

theorem read_projectFile_iff {fs : FileSystem} {home : List String} {text : String} :
    fs.read home projectFile = .ok text ↔
      fs.find? (projectPlace home) = some (.file (.text text)) := by
  rw [read_eq_ok_iff, locate_projectFile]
  constructor
  · rintro ⟨l, hl, -, hfind⟩
    cases hl
    exact hfind
  · intro hfind
    exact ⟨_, rfl, rfl, hfind⟩

theorem read_projectFile_of_none {fs : FileSystem} {home : List String}
    (h : fs.find? (projectPlace home) = none) : fs.read home projectFile = .error .notFound := by
  rw [read, locate_projectFile]
  simp [bind, Except.bind, h, throw, throwThe, MonadExceptOf.throw]

def saved (fs : FileSystem) (home : List String) (text : String) : FileSystem :=
  ((fs.put (draftPlace home) (.file (.text text))).erase (draftPlace home)).put
    (projectPlace home) (.file (.text text))

theorem find?_saved (fs : FileSystem) (home place : List String) (text : String) :
    (fs.saved home text).find? place = if place = projectPlace home then some (.file (.text text))
      else if place = draftPlace home then none else fs.find? place := by
  rw [saved, find?_put _ _ _ _ (projectPlace_ne_nil home),
    find?_erase _ _ _ (draftPlace_ne_nil home), find?_put _ _ _ _ (draftPlace_ne_nil home)]
  split
  · rfl
  · split <;> rfl

theorem writable_draftFile_iff {fs : FileSystem} {home place : List String} :
    fs.writable home draftFile = .ok place ↔
      place = draftPlace home ∧ fs.find? (draftPlace home) ≠ some .directory := by
  rw [writable_eq_ok_iff, locate_draftFile]
  constructor
  · rintro ⟨hl, hdir⟩
    cases hl
    exact ⟨rfl, hdir⟩
  · rintro ⟨rfl, hdir⟩
    exact ⟨rfl, hdir⟩

/-- The draft is moved into place unless a directory is there. -/
theorem rename_draft_iff {fs after : FileSystem} {home : List String} {text : String} :
    (fs.put (draftPlace home) (.file (.text text))).rename home draftFile projectFile =
      .ok after ↔
    fs.find? (projectPlace home) ≠ some .directory ∧ after = fs.saved home text := by
  have hproject : ∀ entry, (fs.put (draftPlace home) entry).find? (projectPlace home) =
      fs.find? (projectPlace home) := by
    intro entry
    rw [find?_put _ _ _ _ (draftPlace_ne_nil home), if_neg (projectPlace_ne_draftPlace home home)]
  have hdraft : (fs.put (draftPlace home) (.file (.text text))).find? (draftPlace home) =
      some (.file (.text text)) := by
    rw [find?_put _ _ _ _ (draftPlace_ne_nil home), if_pos rfl]
  rw [rename_eq_ok_iff]
  constructor
  · rintro ⟨l, entry, place, hl, hentry, hplace, rfl⟩
    rw [locate_draftFile] at hl
    cases hl
    rw [hdraft] at hentry
    cases hentry
    obtain ⟨hl, hdir⟩ := writable_eq_ok_iff.mp hplace
    rw [locate_projectFile] at hl
    cases hl
    rw [hproject] at hdir
    exact ⟨hdir, rfl⟩
  · rintro ⟨hdir, rfl⟩
    refine ⟨_, _, projectPlace home, locate_draftFile _ _, hdraft, ?_, rfl⟩
    rw [writable_eq_ok_iff, hproject]
    exact ⟨locate_projectFile _ _, hdir⟩

end FileSystem

theorem Session.loaded_eq_some {r : Except FileFault String} {p : Project}
    (h : loaded r = .ok (some p)) : ∃ text, r = .ok text ∧ Project.decode? text = some p := by
  unfold loaded at h
  split at h
  · cases h
  · cases h
  · next text =>
    split at h
    · next q hq =>
      cases h
      exact ⟨text, rfl, hq⟩
    · cases h

namespace Disk

variable {d d' : Disk}

theorem attempt_ok {f : FileSystem → List String → Except FileFault FileSystem} :
    runFrom (ExceptT.lift (attempt f)) d = (.ok (.ok ()), d') ↔
      ∃ files, f d.files d.here = .ok files ∧ d' = { d with files } := by
  rw [runFrom_lift]
  unfold attempt
  cases f d.files d.here <;> simp [eq_comm]

theorem load_ok {o : Option Project} : runFrom load d = (.ok o, d') ↔
    loaded (d.files.read d.here projectFile) = .ok o ∧ d = d' :=
  orFail_ok

def added (d : Disk) (p : Project) : Option String → Except Error Project
  | none => .ok p
  | some path => do
    let w ← workloadIn path (d.files.read d.here path)
    p.upsert w

theorem addFile_ok {p q : Project} {file : Option String} :
    runFrom (addFile p file) d = (.ok q, d') ↔ d.added p file = .ok q ∧ d = d' := by
  cases file with
  | none => simp [addFile, added, runFrom_pure]
  | some path =>
    have hread : runFrom (addFile p (some path)) d = runFrom (do
        let w ← orFail (workloadIn path (d.files.read d.here path))
        orFail (p.upsert w)) d := by
      have hfile : runFrom (Store.read path : Session (StateM Disk) _) d =
        (.ok (d.files.read d.here path), d) := rfl
      rw [addFile, runFrom_bind, hfile]
    rw [hread, bind_ok, added]
    simp only [orFail_ok]
    constructor
    · rintro ⟨w, r, ⟨hw, rfl⟩, hq, rfl⟩
      exact ⟨bind_eq_ok.mpr ⟨w, hw, hq⟩, rfl⟩
    · rintro ⟨h, rfl⟩
      obtain ⟨w, hw, hq⟩ := bind_eq_ok.mp h
      exact ⟨w, d, ⟨hw, rfl⟩, hq, rfl⟩

theorem replaceProjectFile_ok {text : String} :
    runFrom (replaceProjectFile text) d = (.ok (.ok ()), d') ↔
      d.files.find? (draftPlace d.here) ≠ some .directory ∧
      d.files.find? (projectPlace d.here) ≠ some .directory ∧
      d' = { d with files := d.files.saved d.here text } := by
  have hwrite : ∀ r, runFrom (Store.write draftFile text) d = (.ok (.ok ()), r) ↔
      ∃ files, d.files.write d.here draftFile text = .ok files ∧ r = { d with files } :=
    fun _ => attempt_ok
  have hrename : ∀ r : Disk, runFrom (Store.rename draftFile projectFile) r = (.ok (.ok ()), d') ↔
      ∃ files, r.files.rename r.here draftFile projectFile = .ok files ∧ d' = { r with files } :=
    fun _ => attempt_ok
  constructor
  · intro h
    obtain ⟨r, mid, hw, h⟩ := bind_ok.mp h
    cases r with
    | error cause => cases h
    | ok _ =>
      obtain ⟨files, hfiles, rfl⟩ := (hwrite mid).mp hw
      obtain ⟨after, hafter, rfl⟩ := (hrename _).mp h
      obtain ⟨place, hplace, hput⟩ := bind_eq_ok.mp hfiles
      cases pure_eq_ok.mp hput
      obtain ⟨rfl, hdraft⟩ := FileSystem.writable_draftFile_iff.mp hplace
      obtain ⟨hproject, rfl⟩ := FileSystem.rename_draft_iff.mp hafter
      exact ⟨hdraft, hproject, rfl⟩
  · rintro ⟨hdraft, hproject, rfl⟩
    have hplace := FileSystem.writable_draftFile_iff.mpr ⟨rfl, hdraft⟩
    refine bind_ok.mpr ⟨.ok (), _, (hwrite _).mpr ⟨_, bind_eq_ok.mpr ⟨_, hplace, rfl⟩, rfl⟩, ?_⟩
    exact (hrename _).mpr ⟨_, FileSystem.rename_draft_iff.mpr ⟨hproject, rfl⟩, rfl⟩

theorem save_ok {p : Project} : runFrom (save p) d = (.ok (), d') ↔
    ∃ text, p.encode = .ok text ∧ d.files.find? (draftPlace d.here) ≠ some .directory ∧
      d.files.find? (projectPlace d.here) ≠ some .directory ∧
      d' = { d with files := d.files.saved d.here (text ++ "\n") } := by
  constructor
  · intro h
    obtain ⟨text, _, he, h⟩ := bind_ok.mp h
    obtain ⟨hencode, rfl⟩ := orFail_ok.mp he
    obtain ⟨r, last, hreplace, h⟩ := bind_ok.mp h
    cases r with
    | error cause => cases h
    | ok _ =>
      cases h
      exact ⟨text, hencode, replaceProjectFile_ok.mp hreplace⟩
  · rintro ⟨text, hencode, hsaved⟩
    refine bind_ok.mpr ⟨text, d, orFail_ok.mpr ⟨hencode, rfl⟩, ?_⟩
    exact bind_ok.mpr ⟨.ok (), d', replaceProjectFile_ok.mpr hsaved, rfl⟩

/-- Where there is no project file, a project without workloads is saved that has the component
of the profile. -/
theorem init_new {profile text : String} {component : Component}
    (hc : Component.ofProfile profile = .ok component)
    (htext : Project.encode ⟨[], component, []⟩ = .ok text)
    (hproject : d.files.find? (projectPlace d.here) = none)
    (hdraft : d.files.find? (draftPlace d.here) ≠ some .directory) :
    runFrom (init profile) d = (.ok (), { d with
      files := d.files.saved d.here (text ++ "\n")
      printed := d.printed ++ ("Initialised project with profile " ++ profile ++ "\n") }) := by
  have hload : runFrom load d = (.ok none, d) := by
    refine load_ok.mpr ⟨?_, rfl⟩
    rw [FileSystem.read_projectFile_of_none hproject]
    rfl
  have hsave := save_ok.mpr ⟨text, htext, hdraft, by rw [hproject]; nofun, rfl⟩
  refine bind_ok.mpr ⟨component, d, orFail_ok.mpr ⟨hc, rfl⟩, bind_ok.mpr ⟨none, d, hload, ?_⟩⟩
  exact bind_ok.mpr ⟨(), _, hsave, rfl⟩

theorem generate_ok {file output : Option String} :
    runFrom (generate file output) d = (.ok (), d') ↔
      ∃ o p g source mid, loaded (d.files.read d.here projectFile) = .ok o ∧
        d.added (o.getD Project.empty) file = .ok p ∧ graphOf p = .ok g ∧ g.program = .ok source ∧
        runFrom (deliver source output) d = (.ok (), mid) ∧
        runFrom (save p) mid = (.ok (), d') := by
  constructor
  · intro h
    obtain ⟨o, _, hl, h⟩ := bind_ok.mp h
    obtain ⟨hload, rfl⟩ := load_ok.mp hl
    obtain ⟨p, _, ha, h⟩ := bind_ok.mp h
    obtain ⟨hadd, rfl⟩ := addFile_ok.mp ha
    obtain ⟨g, _, hg, h⟩ := bind_ok.mp h
    obtain ⟨hgraph, rfl⟩ := orFail_ok.mp hg
    obtain ⟨source, _, hs, h⟩ := bind_ok.mp h
    obtain ⟨hprogram, rfl⟩ := orFail_ok.mp hs
    obtain ⟨_, mid, hdeliver, hsave⟩ := bind_ok.mp h
    exact ⟨o, p, g, source, mid, hload, hadd, hgraph, hprogram, hdeliver, hsave⟩
  · rintro ⟨o, p, g, source, mid, hload, hadd, hgraph, hprogram, hdeliver, hsave⟩
    refine bind_ok.mpr ⟨o, d, load_ok.mpr ⟨hload, rfl⟩, ?_⟩
    refine bind_ok.mpr ⟨p, d, addFile_ok.mpr ⟨hadd, rfl⟩, ?_⟩
    refine bind_ok.mpr ⟨g, d, orFail_ok.mpr ⟨hgraph, rfl⟩, ?_⟩
    refine bind_ok.mpr ⟨source, d, orFail_ok.mpr ⟨hprogram, rfl⟩, ?_⟩
    exact bind_ok.mpr ⟨(), mid, hdeliver, hsave⟩

theorem changeTo_ok {dir : Option String} : runFrom (changeTo dir) d = (.ok (), d') ↔
    ∃ home, d.files.enterAt d.here dir = .ok home ∧ { d with here := home } = d' := by
  cases dir with
  | none => simp [changeTo, runFrom_pure, FileSystem.enterAt]
  | some path =>
    rw [changeTo, runFrom_bind, FileSystem.enterAt]
    cases henter : d.files.enter d.here path with
    | ok home =>
      have hrun : runFrom (Store.enter path) d = (.ok (.ok ()), { d with here := home }) := by
        show (Except.ok (Store.enter (m := StateM Disk) path d).1, _) = _
        simp only [Store.enter, henter]
      simp [hrun, runFrom_pure]
    | error cause =>
      have hrun : runFrom (Store.enter path) d = (.ok (.error cause), d) := by
        show (Except.ok (Store.enter (m := StateM Disk) path d).1, _) = _
        simp only [Store.enter, henter]
      simp [hrun, runFrom_throw]

theorem perform_ok {args : List String} : runFrom (perform args) d = (.ok (), d') ↔
    ∃ i home, Invocation.ofArguments? none args = some i ∧
      d.files.enterAt d.here i.dir = .ok home ∧
      runFrom (execute i.command) { d with here := home } = (.ok (), d') := by
  unfold perform
  cases Invocation.ofArguments? none args with
  | none => simp [runFrom_throw]
  | some i =>
    dsimp only
    rw [bind_ok]
    constructor
    · rintro ⟨_, _, hchange, h⟩
      obtain ⟨home, hhome, rfl⟩ := changeTo_ok.mp hchange
      exact ⟨i, home, rfl, hhome, h⟩
    · rintro ⟨_, home, hi, hhome, h⟩
      cases hi
      exact ⟨(), _, changeTo_ok.mpr ⟨home, hhome, rfl⟩, h⟩

end Disk

theorem FileSystem.run_eq_iff {fs after : FileSystem} {here args : List String}
    {result : Except Failure Unit} {printed : String} :
    fs.run here args = ⟨result, printed, after⟩ ↔ ∃ place,
      runFrom (perform args) (⟨fs, here, ""⟩ : Disk) = (result, ⟨after, place, printed⟩) := by
  have hrun : fs.run here args = ⟨(runFrom (perform args) (⟨fs, here, ""⟩ : Disk)).1,
      (runFrom (perform args) (⟨fs, here, ""⟩ : Disk)).2.printed,
      (runFrom (perform args) (⟨fs, here, ""⟩ : Disk)).2.files⟩ := rfl
  rw [hrun]
  cases runFrom (perform args) (⟨fs, here, ""⟩ : Disk) with
  | mk r d =>
    obtain ⟨files, place, text⟩ := d
    constructor
    · intro h
      cases h
      exact ⟨place, rfl⟩
    · rintro ⟨_, h⟩
      cases h
      rfl

end Provision
