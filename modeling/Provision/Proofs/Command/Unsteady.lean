import Provision.Proofs.Command.Reloading

/-!
# Commands on an unsteady disk

Any access to an unsteady disk may be refused, for whatever cause. A write that is refused may
leave anything in the file, and only part of a text may have been printed. A refused move changes
nothing. Commands run on such a disk as they do on any other. One that fails leaves the project
as it was, and no draft unless the removal of the draft is refused as well.
-/

set_option autoImplicit false

namespace Provision

open Outcome Session

inductive Access where
  | read (path : String)
  | write (path : String)
  | rename (source target : String)
  | remove (path : String)
  | enter (path : String)
  | print
  deriving DecidableEq

structure Mishap where
  cause : FileFault
  /-- What has been written or printed, if anything was touched at all. -/
  left : Option Content

structure Unsteady where
  disk : Disk
  /-- What befalls the accesses to come. Those past its end are carried out. -/
  ahead : List (Option Mishap)
  refused : List Access

namespace Unsteady

def act {α : Type} (a : Access) (broken : Mishap → Disk → Disk)
    (x : StateM Disk (Except FileFault α)) : StateM Unsteady (Except FileFault α) := fun u =>
  match u.ahead with
  | some m :: ahead => (.error m.cause, ⟨broken m u.disk, ahead, u.refused ++ [a]⟩)
  | _ => ((x u.disk).1, ⟨(x u.disk).2, u.ahead.tail, u.refused⟩)

def breakWrite (path : String) (m : Mishap) (d : Disk) : Disk :=
  match m.left, d.files.writable d.here path with
  | some c, .ok place => { d with files := d.files.put place (.file c) }
  | _, _ => d

def breakPrint (m : Mishap) (d : Disk) : Disk :=
  match m.left with
  | some (.text s) => { d with printed := d.printed ++ s }
  | _ => d

instance : Store (StateM Unsteady) where
  read path := act (.read path) (fun _ d => d) (Store.read path)
  write path content := act (.write path) (breakWrite path) (Store.write path content)
  rename source target := act (.rename source target) (fun _ d => d) (Store.rename source target)
  remove path := act (.remove path) (fun _ d => d) (Store.remove path)
  enter path := act (.enter path) (fun _ d => d) (Store.enter path)
  print text := act .print breakPrint (Store.print text)

end Unsteady

structure Attempt where
  args : List String
  ahead : List (Option Mishap)

namespace FileSystem

def attempt (fs : FileSystem) (here : List String) (a : Attempt) : Outcome :=
  let (result, u) := runFrom (perform a.args) (⟨{ files := fs, here }, a.ahead, []⟩ : Unsteady)
  ⟨result, u.disk.printed, u.disk.files⟩

def refusals (fs : FileSystem) (here : List String) (a : Attempt) : List Access :=
  (runFrom (perform a.args) (⟨{ files := fs, here }, a.ahead, []⟩ : Unsteady)).2.refused

def afterAll (fs : FileSystem) (here : List String) : List Attempt → FileSystem
  | [] => fs
  | a :: rest => afterAll (fs.attempt here a).files here rest

end FileSystem

/-! ## What an action can do -/

namespace Disk

/-- Whether all files are as they were but the one that can be written under a path. -/
def Wrote (path : String) (d after : Disk) : Prop :=
  after.here = d.here ∧ (after.files = d.files ∨
    ∃ place c, d.files.writable d.here path = .ok place ∧
      after.files = d.files.put place (.file c))

theorem attempt_cases (f : FileSystem → List String → Except FileFault FileSystem) (d : Disk) :
    (∃ files, f d.files d.here = .ok files ∧ attempt f d = (.ok (), { d with files })) ∨
      ∃ cause, f d.files d.here = .error cause ∧ attempt f d = (.error cause, d) := by
  unfold attempt
  split
  · next files h => exact .inl ⟨files, h, rfl⟩
  · next cause h => exact .inr ⟨cause, h, rfl⟩

theorem wrote (path content : String) (d : Disk) :
    Wrote path d (Store.write (m := StateM Disk) path content d).2 := by
  rcases attempt_cases (fun fs here => fs.write here path content) d with
    ⟨files, hw, hd⟩ | ⟨cause, -, hd⟩
  · obtain ⟨place, hplace, hw⟩ := bind_eq_ok.mp hw
    cases pure_eq_ok.mp hw
    have hafter : (Store.write (m := StateM Disk) path content d).2 = _ := congrArg Prod.snd hd
    rw [hafter]
    exact ⟨rfl, .inr ⟨place, _, hplace, rfl⟩⟩
  · have hafter : (Store.write (m := StateM Disk) path content d).2 = d := congrArg Prod.snd hd
    rw [hafter]
    exact ⟨rfl, .inl rfl⟩

theorem rename_refused {source target : String} {cause : FileFault} {d : Disk}
    (h : (Store.rename (m := StateM Disk) source target d).1 = .error cause) :
    (Store.rename (m := StateM Disk) source target d).2 = d := by
  rcases attempt_cases (fun fs here => fs.rename here source target) d with
    ⟨files, -, hd⟩ | ⟨cause, -, hd⟩
  · have hok : (Store.rename (m := StateM Disk) source target d).1 = .ok () :=
      congrArg Prod.fst hd
    rw [hok] at h
    cases h
  · exact congrArg Prod.snd hd

theorem enter_cases (path : String) (d : Disk) :
    (∃ home, d.files.enter d.here path = .ok home ∧
      Store.enter (m := StateM Disk) path d = (.ok (), { d with here := home })) ∨
    ∃ cause, Store.enter (m := StateM Disk) path d = (.error cause, d) := by
  simp only [Store.enter]
  split
  · next home h => exact .inl ⟨home, h, rfl⟩
  · next cause _ => exact .inr ⟨cause, rfl⟩

end Disk

namespace Unsteady

variable {u v : Unsteady} {α : Type}

theorem act_cases (a : Access) (broken : Mishap → Disk → Disk)
    (x : StateM Disk (Except FileFault α)) (u : Unsteady) :
    (∃ m : Mishap, (act a broken x u).1 = .error m.cause ∧
      (act a broken x u).2.disk = broken m u.disk ∧ a ∈ (act a broken x u).2.refused) ∨
    ((act a broken x u).1 = (x u.disk).1 ∧ (act a broken x u).2.disk = (x u.disk).2) := by
  unfold act
  split
  · next m _ _ => exact .inl ⟨m, rfl, rfl, by simp⟩
  · exact .inr ⟨rfl, rfl⟩

theorem wrote_breakWrite (path : String) (m : Mishap) (d : Disk) :
    Disk.Wrote path d (breakWrite path m d) := by
  unfold breakWrite
  split
  · next c place _ hplace => exact ⟨rfl, .inr ⟨place, c, hplace, rfl⟩⟩
  · exact ⟨rfl, .inl rfl⟩

theorem write_disk {path content : String} {r : Except Failure (Except FileFault Unit)}
    (h : runFrom (Store.write path content) u = (r, v)) : Disk.Wrote path u.disk v.disk := by
  obtain rfl := congrArg Prod.snd h
  rcases act_cases (.write path) (breakWrite path) (Store.write path content) u with
    ⟨m, -, hd, -⟩ | ⟨-, hd⟩
  · have hw := wrote_breakWrite path m u.disk
    rwa [← hd] at hw
  · have hw := Disk.wrote path content u.disk
    rwa [← hd] at hw

/-- A move that fails changes nothing. -/
theorem rename_disk {source target : String} {cause : FileFault}
    (h : runFrom (Store.rename source target) u = (.ok (.error cause), v)) : v.disk = u.disk := by
  obtain ⟨hr, rfl⟩ := Prod.mk.inj h
  rcases act_cases (.rename source target) (fun _ d => d) (Store.rename source target) u with
    ⟨m, -, hd, -⟩ | ⟨hfst, hd⟩
  · exact hd
  · exact hd.trans (Disk.rename_refused (hfst.symm.trans (Except.ok.inj hr)))

theorem enter_ok {path : String} (h : runFrom (Store.enter path) u = (.ok (.ok ()), v)) :
    ∃ home, u.disk.files.enter u.disk.here path = .ok home ∧
      v.disk = { u.disk with here := home } := by
  obtain ⟨hr, rfl⟩ := Prod.mk.inj h
  have hok := Except.ok.inj hr
  rcases act_cases (.enter path) (fun _ d => d) (Store.enter path) u with
    ⟨m, hfst, -⟩ | ⟨hfst, hd⟩
  · cases hfst.symm.trans hok
  · rcases Disk.enter_cases path u.disk with ⟨home, henter, hdisk⟩ | ⟨cause, hdisk⟩
    · exact ⟨home, henter, hd.trans (congrArg Prod.snd hdisk)⟩
    · cases (hfst.symm.trans hok).symm.trans (congrArg Prod.fst hdisk)

theorem enter_refused {path : String} {cause : FileFault}
    (h : runFrom (Store.enter path) u = (.ok (.error cause), v)) : v.disk = u.disk := by
  obtain ⟨hr, rfl⟩ := Prod.mk.inj h
  have herror := Except.ok.inj hr
  rcases act_cases (.enter path) (fun _ d => d) (Store.enter path) u with
    ⟨m, -, hd, -⟩ | ⟨hfst, hd⟩
  · exact hd
  · rcases Disk.enter_cases path u.disk with ⟨home, henter, hdisk⟩ | ⟨cause, hdisk⟩
    · cases (hfst.symm.trans herror).symm.trans (congrArg Prod.fst hdisk)
    · exact hd.trans (congrArg Prod.snd hdisk)

theorem print_disk {text : String} {r : Except Failure (Except FileFault Unit)}
    (h : runFrom (Store.print text) u = (r, v)) :
    v.disk.here = u.disk.here ∧ v.disk.files = u.disk.files := by
  obtain rfl := congrArg Prod.snd h
  rcases act_cases .print breakPrint (Store.print text) u with ⟨m, -, hd, -⟩ | ⟨-, hd⟩
  · have hbroken : ∀ d, (breakPrint m d).here = d.here ∧ (breakPrint m d).files = d.files := by
      intro d
      unfold breakPrint
      split <;> exact ⟨rfl, rfl⟩
    have hkept := hbroken u.disk
    rwa [← hd] at hkept
  · have hkept : (Store.print (m := StateM Disk) text u.disk).2.here = u.disk.here ∧
        (Store.print (m := StateM Disk) text u.disk).2.files = u.disk.files := ⟨rfl, rfl⟩
    rwa [← hd] at hkept

/-- A removal takes away the file, or leaves all as it is because it is refused or because there
is no such file. -/
theorem remove_disk {path : String} {l : Location} {r : Except Failure (Except FileFault Unit)}
    (h : runFrom (Store.remove path) u = (r, v))
    (hl : u.disk.files.locate u.disk.here path = .ok l) (hslash : l.slash = false) :
    v.disk.files = u.disk.files.erase l.place ∨
      v.disk.files = u.disk.files ∧ (.remove path ∈ v.refused ∨
        ∀ c, u.disk.files.find? l.place ≠ some (.file c)) := by
  obtain rfl := congrArg Prod.snd h
  rcases act_cases (.remove path) (fun _ d => d) (Store.remove path) u with
    ⟨m, -, hd, hmem⟩ | ⟨-, hd⟩
  · exact .inr ⟨congrArg Disk.files hd, .inl hmem⟩
  · have hfiles := congrArg Disk.files hd
    rcases Disk.attempt_cases (fun fs here => fs.remove here path) u.disk with
      ⟨files, hf, hrun⟩ | ⟨cause, hf, hrun⟩
    · obtain ⟨l', c, hl', -, -, rfl⟩ := FileSystem.remove_eq_ok_iff.mp hf
      rw [hl] at hl'
      cases hl'
      exact .inl (hfiles.trans (congrArg (Disk.files ∘ Prod.snd) hrun))
    · refine .inr ⟨hfiles.trans (congrArg (Disk.files ∘ Prod.snd) hrun), .inr ?_⟩
      intro c hc
      have hok := FileSystem.remove_eq_ok_iff.mpr ⟨l, c, hl, hslash, hc, rfl⟩
      cases hf.symm.trans hok

/-! ## What a course of actions can do -/

def Still (x : Session (StateM Unsteady) α) : Prop := ∀ u, (runFrom x u).2.disk = u.disk

theorem Still.bind {β : Type} {x : Session (StateM Unsteady) α}
    {f : α → Session (StateM Unsteady) β} (hx : Still x) (hf : ∀ a, Still (f a)) :
    Still (x >>= f) := by
  intro u
  have hu := hx u
  rw [runFrom_bind]
  cases hrun : runFrom x u with
  | mk r v =>
    rw [hrun] at hu
    cases r with
    | ok a => exact (hf a v).trans hu
    | error e => exact hu

theorem still_orFail (r : Except Error α) : Still (orFail r) := by
  intro u
  cases r <;> rfl

theorem still_read (path : String) : Still (Store.read path) := by
  intro u
  rcases act_cases (.read path) (fun _ d => d) (Store.read path) u with ⟨m, -, hd, -⟩ | ⟨-, hd⟩
  · exact hd
  · exact hd

theorem still_load : Still load := (still_read projectFile).bind fun _ => still_orFail _

theorem still_addFile (p : Project) (file : Option String) : Still (addFile p file) := by
  cases file with
  | none => exact fun _ => rfl
  | some path =>
    exact (still_read path).bind fun _ => (still_orFail _).bind fun _ => still_orFail _

theorem Still.disk_eq {x : Session (StateM Unsteady) α} (hx : Still x) {r : Except Failure α}
    (h : runFrom x u = (r, v)) : v.disk = u.disk := by
  have hu := hx u
  rwa [h] at hu

end Unsteady

/-- Whether all files are as they were but one that was to be written and the draft of a
project. The draft may have been removed, and may be there if it was left behind. -/
structure FileSystem.Kept (home : List String) (written : Option (List String)) (left : Prop)
    (fs after : FileSystem) : Prop where
  elsewhere : ∀ place, place ≠ draftPlace home → written ≠ some place →
    after.find? place = fs.find? place
  draft : written ≠ some (draftPlace home) →
    after.find? (draftPlace home) = fs.find? (draftPlace home) ∨
      after.find? (draftPlace home) = none ∨ left

namespace FileSystem.Kept

variable {home : List String} {written : Option (List String)} {left : Prop}
variable {fs mid after : FileSystem}

theorem refl (home : List String) (written : Option (List String)) (left : Prop)
    (fs : FileSystem) : Kept home written left fs fs :=
  ⟨fun _ _ _ => rfl, fun _ => .inl rfl⟩

theorem trans (h : Kept home written False fs mid) (h' : Kept home written left mid after) :
    Kept home written left fs after where
  elsewhere place hd hw := (h'.elsewhere place hd hw).trans (h.elsewhere place hd hw)
  draft hw := by
    rcases h'.draft hw with hsame | hgone
    · rw [hsame]
      exact (h.draft hw).imp_right (.imp_right False.elim)
    · exact .inr hgone

theorem of_none (h : Kept home none left fs after) : Kept home written left fs after :=
  ⟨fun place hd _ => h.elsewhere place hd nofun, fun _ => h.draft nofun⟩

theorem mono {left' : Prop} (h : Kept home written left fs after) (himp : left → left') :
    Kept home written left' fs after :=
  ⟨h.elsewhere, fun hw => (h.draft hw).imp_right (.imp_right himp)⟩

end FileSystem.Kept

namespace Unsteady

variable {u v : Unsteady} {α : Type}

def writtenPlace (d : Disk) (output : Option String) : Option (List String) :=
  output.bind fun path => (d.files.writable d.here path).toOption

theorem kept_of_wrote {path : String} {d after : Disk} (h : Disk.Wrote path d after) :
    FileSystem.Kept d.here (writtenPlace d (some path)) False d.files after.files := by
  obtain ⟨-, hsame | ⟨place, c, hplace, hput⟩⟩ := h
  · rw [hsame]
    exact .refl _ _ _ _
  · have hwritten : writtenPlace d (some path) = some place := by
      simp [writtenPlace, hplace, Except.toOption]
    have hne := FileSystem.writable_ne_nil hplace
    rw [hput, hwritten]
    have hother : ∀ other, some place ≠ some other →
        (d.files.put place (.file c)).find? other = d.files.find? other := by
      intro other ho
      have hne' : other ≠ place := fun heq => ho (heq ▸ rfl)
      rw [FileSystem.find?_put _ _ _ _ hne, if_neg hne']
    exact ⟨fun other _ ho => hother other ho, fun hd => .inl (hother _ hd)⟩

/-- Delivering a text changes no file but the one that is to be written. -/
theorem deliver_kept {source : String} {output : Option String} {r : Except Failure Unit}
    (h : runFrom (deliver source output) u = (r, v)) : v.disk.here = u.disk.here ∧
      FileSystem.Kept u.disk.here (writtenPlace u.disk output) False u.disk.files v.disk.files := by
  cases output with
  | none =>
    have hprint : runFrom (Store.print source : Session (StateM Unsteady) _) u = (.ok _, _) := rfl
    obtain ⟨hhere, hfiles⟩ := print_disk hprint
    rw [deliver, runFrom_bind, hprint] at h
    dsimp only at h
    split at h
    · cases h
      exact ⟨hhere, hfiles ▸ .refl _ _ _ _⟩
    · cases h
      exact ⟨hhere, hfiles ▸ .refl _ _ _ _⟩
  | some path =>
    have hwrite : runFrom (Store.write path source : Session (StateM Unsteady) _) u = (.ok _, _) :=
      rfl
    have hwrote := write_disk hwrite
    rw [deliver, runFrom_bind, hwrite] at h
    dsimp only at h
    split at h
    · cases h
      exact ⟨hwrote.1, kept_of_wrote hwrote⟩
    · cases h
      exact ⟨hwrote.1, kept_of_wrote hwrote⟩

/-- A project file is not replaced without the draft in its place. -/
theorem replaceProjectFile_refused {text : String} {cause : FileFault}
    (h : runFrom (replaceProjectFile text) u = (.ok (.error cause), v)) :
    Disk.Wrote draftFile u.disk v.disk := by
  obtain ⟨r, w, hwrite, h⟩ := bind_ok.mp h
  have hwrote := write_disk hwrite
  cases r with
  | error cause =>
    cases h
    exact hwrote
  | ok _ =>
    rw [Disk.Wrote, rename_disk h]
    exact hwrote

theorem replaceProjectFile_ne_error {text : String} {e : Failure} :
    runFrom (replaceProjectFile text) u ≠ (.error e, v) := by
  intro h
  rcases bind_error.mp h with hwrite | ⟨r, w, hwrite, hrename⟩
  · cases hwrite
  · cases r <;> cases hrename

theorem wrote_draft {d after : Disk} (h : Disk.Wrote draftFile d after) :
    after.files = d.files ∨ ∃ c, after.files = d.files.put (draftPlace d.here) (.file c) := by
  obtain ⟨-, hsame | ⟨place, c, hplace, hput⟩⟩ := h
  · exact .inl hsame
  · have hloc := (FileSystem.writable_eq_ok_iff.mp hplace).1
    rw [locate_draftFile] at hloc
    cases hloc
    exact .inr ⟨c, hput⟩

/-- With its removal no draft is left that was not there, unless the removal is refused. -/
theorem kept_remove_draft {d : Disk} {r : Except Failure (Except FileFault Unit)}
    (hwrote : Disk.Wrote draftFile d u.disk) (h : runFrom (Store.remove draftFile) u = (r, v)) :
    FileSystem.Kept d.here none (.remove draftFile ∈ v.refused) d.files v.disk.files := by
  have hne := draftPlace_ne_nil d.here
  have hloc : u.disk.files.locate u.disk.here draftFile =
      .ok ⟨draftPlace d.here, true, false⟩ := by
    rw [hwrote.1]
    exact locate_draftFile _ _
  have hplaces : ∀ place, place ≠ draftPlace d.here →
      u.disk.files.find? place = d.files.find? place := by
    intro place hd
    rcases wrote_draft hwrote with hsame | ⟨c, hput⟩
    · rw [hsame]
    · rw [hput, FileSystem.find?_put _ _ _ _ hne, if_neg hd]
  rcases remove_disk h hloc rfl with herase | ⟨hsame, hleft⟩
  · rw [herase]
    constructor
    · intro place hd _
      rw [FileSystem.find?_erase _ _ _ hne, if_neg hd, hplaces place hd]
    · intro _
      exact .inr (.inl (by rw [FileSystem.find?_erase _ _ _ hne, if_pos rfl]))
  · rw [hsame]
    refine ⟨fun place hd _ => hplaces place hd, fun _ => ?_⟩
    rcases hleft with hrefused | hfile
    · exact .inr (.inr hrefused)
    · rcases wrote_draft hwrote with hfiles | ⟨c, hput⟩
      · exact .inl (by rw [hfiles])
      · refine absurd ?_ (hfile c)
        rw [hput, FileSystem.find?_put _ _ _ _ hne, if_pos rfl]

/-! ## Commands that fail -/

/-- Whether a course of actions leaves the project as it was when it returns an error. -/
def Keeps (output : Option String) (x : Session (StateM Unsteady) α) : Prop :=
  ∀ u v e, runFrom x u = (.error e, v) → (∀ cause, e ≠ .abort cause) →
    FileSystem.Kept u.disk.here (writtenPlace u.disk output) (.remove draftFile ∈ v.refused)
      u.disk.files v.disk.files

section Keeps

variable {β : Type} {output : Option String} {x : Session (StateM Unsteady) α}
variable {f : α → Session (StateM Unsteady) β}

theorem Still.keeps (hx : Still x) : Keeps output x := by
  intro u v e h _
  rw [hx.disk_eq h]
  exact .refl _ _ _ _

theorem Still.keeps_bind (hx : Still x) (hf : ∀ a, Keeps output (f a)) :
    Keeps output (x >>= f) := by
  intro u v e h he
  rcases bind_error.mp h with hfail | ⟨a, w, hrun, hfail⟩
  · exact hx.keeps u v e hfail he
  · have hkept := hf a w v e hfail he
    rwa [hx.disk_eq hrun] at hkept

theorem announce_error {text : String} {e : Failure}
    (h : runFrom (announce text) u = (.error e, v)) : ∃ cause, e = .abort cause := by
  rcases bind_error.mp h with hprint | ⟨r, w, -, hrest⟩
  · cases hprint
  · cases r with
    | ok _ => cases hrest
    | error cause =>
      cases hrest
      exact ⟨cause, rfl⟩

theorem Keeps.announce (hx : Keeps output x) (text : α → String) :
    Keeps output (x >>= fun a => announce (text a)) := by
  intro u v e h he
  rcases bind_error.mp h with hfail | ⟨_, _, _, hannounce⟩
  · exact hx u v e hfail he
  · obtain ⟨cause, hcause⟩ := announce_error hannounce
    exact absurd hcause (he cause)

end Keeps

/-- A save that fails leaves the project file alone, and removes its draft. -/
theorem save_kept {p : Project} {e : Failure} (h : runFrom (save p) u = (.error e, v)) :
    FileSystem.Kept u.disk.here none (.remove draftFile ∈ v.refused) u.disk.files
      v.disk.files := by
  rcases bind_error.mp h with hencode | ⟨text, w, hencode, h⟩
  · rw [(still_orFail _).disk_eq hencode]
    exact .refl _ _ _ _
  rw [← (still_orFail _).disk_eq hencode]
  rcases bind_error.mp h with hreplace | ⟨r, w', hreplace, hrest⟩
  · exact absurd hreplace replaceProjectFile_ne_error
  · cases r with
    | ok _ => cases hrest
    | error cause =>
      rcases bind_error.mp hrest with hremove | ⟨_, _, hremove, hthrow⟩
      · cases hremove
      · cases hthrow
        exact kept_remove_draft (replaceProjectFile_refused hreplace) hremove

theorem save_keeps (output : Option String) (p : Project) : Keeps output (save p) :=
  fun _ _ _ h _ => (save_kept h).of_none

/-- A draft stays if neither the move into place nor the removal is carried out. -/
theorem save_leaves_draft {d : Disk} {p : Project} {text : String} {m m' : Mishap}
    {refused : List Access} (htext : p.encode = .ok text)
    (hdraft : d.files.find? (draftPlace d.here) ≠ some .directory) :
    ∃ v, runFrom (save p) (⟨d, [none, some m, some m'], refused⟩ : Unsteady) =
      (.error (.error (.file projectFile m.cause)), v) ∧
        v.disk.files.find? (draftPlace d.here) = some (.file (.text (text ++ "\n"))) := by
  have hplace := FileSystem.writable_draftFile_iff.mpr ⟨rfl, hdraft⟩
  have hwrite : Store.write (m := StateM Disk) draftFile (text ++ "\n") d = (.ok (),
      { d with files := d.files.put (draftPlace d.here) (.file (.text (text ++ "\n"))) }) := by
    simp only [Store.write, Disk.attempt, FileSystem.write, hplace]
    rfl
  have hcarried : runFrom (Store.write draftFile (text ++ "\n"))
      (⟨d, [none, some m, some m'], refused⟩ : Unsteady) =
        (.ok (Store.write (m := StateM Disk) draftFile (text ++ "\n") d).1,
          ⟨(Store.write (m := StateM Disk) draftFile (text ++ "\n") d).2, [some m, some m'],
            refused⟩) := rfl
  rw [save, htext]
  show ∃ v, runFrom (replaceProjectFile (text ++ "\n") >>= _) _ = _ ∧ _
  rw [runFrom_bind, replaceProjectFile, runFrom_bind, hcarried, hwrite]
  refine ⟨_, rfl, ?_⟩
  show (d.files.put (draftPlace d.here) (.file (.text (text ++ "\n")))).find? _ = _
  rw [FileSystem.find?_put _ _ _ _ (draftPlace_ne_nil d.here), if_pos rfl]

theorem init_keeps (profile : String) : Keeps none (init profile) := by
  apply (still_orFail _).keeps_bind
  intro component
  apply still_load.keeps_bind
  intro loaded
  cases loaded with
  | none => exact (save_keeps _ _).announce _
  | some p =>
    dsimp only
    split
    · exact fun _ _ _ h _ => nomatch h
    · exact (save_keeps _ _).announce _

theorem generate_keeps (file output : Option String) : Keeps output (generate file output) := by
  apply still_load.keeps_bind
  intro loaded
  apply (still_addFile _ _).keeps_bind
  intro p
  apply (still_orFail _).keeps_bind
  intro g
  apply (still_orFail _).keeps_bind
  intro source u v e h he
  -- The text may have been delivered when the save fails.
  rcases bind_error.mp h with hdeliver | ⟨_, w, hdeliver, hsave⟩
  · exact (deliver_kept hdeliver).2.mono False.elim
  · obtain ⟨hhere, hkept⟩ := deliver_kept hdeliver
    have hsaved := save_kept hsave
    rw [hhere] at hsaved
    exact hkept.trans hsaved.of_none

/-- A program may be written and the save after it fail, for the cause that the draft is refused
for. -/
theorem generate_refused {d : Disk} {path source text : String} {p : Project} {g : Graph}
    {place : List String} {m : Mishap}
    (hload : loaded (d.files.read d.here projectFile) = .ok (some p))
    (hgraph : graphOf p = .ok g) (hsource : g.program = .ok source)
    (hplace : d.files.writable d.here path = .ok place) (htext : p.encode = .ok text) :
    ∃ v, runFrom (generate none (some path)) (⟨d, [none, none, some m], []⟩ : Unsteady) =
      (.error (.error (.file projectFile m.cause)), v) ∧ v.refused = [.write draftFile] := by
  have hstart : runFrom load (⟨d, [none, none, some m], []⟩ : Unsteady) =
      (.ok (some p), ⟨d, [none, some m], []⟩) := by
    rw [load, runFrom_bind]
    show runFrom (orFail (loaded (d.files.read d.here projectFile))) _ = _
    rw [hload]
    rfl
  have hwrite : Store.write (m := StateM Disk) path source d =
      (.ok (), { d with files := d.files.put place (.file (.text source)) }) := by
    simp only [Store.write, Disk.attempt, FileSystem.write, hplace]
    rfl
  have hdeliver : runFrom (deliver source (some path)) (⟨d, [none, some m], []⟩ : Unsteady) =
      (.ok (), ⟨{ d with files := d.files.put place (.file (.text source)) }, [some m], []⟩) := by
    have hcarried : runFrom (Store.write path source) (⟨d, [none, some m], []⟩ : Unsteady) =
        (.ok (Store.write (m := StateM Disk) path source d).1,
          ⟨(Store.write (m := StateM Disk) path source d).2, [some m], []⟩) := rfl
    rw [deliver, runFrom_bind, hcarried, hwrite]
    rfl
  have hsave : ∀ d' : Disk, ∃ v, runFrom (save p) (⟨d', [some m], []⟩ : Unsteady) =
      (.error (.error (.file projectFile m.cause)), v) ∧ v.refused = [.write draftFile] := by
    intro d'
    rw [save, htext]
    exact ⟨_, rfl, rfl⟩
  rw [generate, runFrom_bind, hstart]
  show ∃ v, runFrom (orFail (graphOf p) >>= _) _ = _ ∧ _
  rw [hgraph]
  show ∃ v, runFrom (orFail g.program >>= _) _ = _ ∧ _
  rw [hsource]
  show ∃ v, runFrom (deliver source (some path) >>= _) _ = _ ∧ _
  rw [runFrom_bind, hdeliver]
  exact hsave _

theorem still_projectGraph : Still projectGraph := by
  apply still_load.bind
  intro r
  cases r with
  | none => exact fun _ => rfl
  | some p => exact still_orFail _

theorem execute_keeps (c : Command) : Keeps c.output (execute c) := by
  cases c with
  | init profile => exact init_keeps profile
  | generate file output => exact generate_keeps file output
  | plan => exact still_projectGraph.keeps_bind fun g => (still_orFail g.plan).keeps.announce id
  | graph => exact still_projectGraph.keeps.announce Graph.dot

theorem changeTo_ok {dir : Option String} (h : runFrom (changeTo dir) u = (.ok (), v)) :
    v.disk = { u.disk with here := u.disk.files.homeAt u.disk.here dir } := by
  cases dir with
  | none =>
    cases h
    rfl
  | some path =>
    obtain ⟨r, w, henter, h⟩ := bind_ok.mp h
    cases r with
    | error cause => cases h
    | ok _ =>
      cases h
      obtain ⟨home, hhome, hdisk⟩ := enter_ok henter
      rw [hdisk, FileSystem.homeAt, FileSystem.enterAt, hhome]
      rfl

theorem changeTo_error {dir : Option String} {e : Failure}
    (h : runFrom (changeTo dir) u = (.error e, v)) : v.disk = u.disk := by
  cases dir with
  | none => cases h
  | some path =>
    rcases bind_error.mp h with henter | ⟨r, w, henter, h⟩
    · cases henter
    · cases r with
      | ok _ => cases h
      | error cause =>
        cases h
        exact enter_refused henter

theorem perform_kept {args : List String} {e : Failure}
    (h : runFrom (perform args) u = (.error e, v)) (he : ∀ cause, e ≠ .abort cause) :
    FileSystem.Kept (u.disk.files.home u.disk.here args)
      (u.disk.files.outputPlace? u.disk.here args) (.remove draftFile ∈ v.refused)
      u.disk.files v.disk.files := by
  unfold perform at h
  cases hargs : Invocation.ofArguments? none args with
  | none =>
    rw [hargs] at h
    cases h
    exact .refl _ _ _ _
  | some i =>
    have hhome : u.disk.files.home u.disk.here args =
        u.disk.files.homeAt u.disk.here i.dir := by
      rw [FileSystem.home, hargs]
      rfl
    rw [hargs] at h
    rcases bind_error.mp h with hchange | ⟨_, w, hchange, hexecute⟩
    · rw [changeTo_error hchange]
      exact .refl _ _ _ _
    · have hkept := execute_keeps i.command w v e hexecute he
      rw [changeTo_ok hchange, ← hhome] at hkept
      have hplace : u.disk.files.outputPlace? u.disk.here args =
          writtenPlace { u.disk with here := u.disk.files.home u.disk.here args }
            i.command.output := by
        rw [FileSystem.outputPlace?, hargs]
        rfl
      rw [hplace]
      exact hkept

/-! ## Without mishaps -/

/-- Whether a course of actions does the same on a disk and, without mishaps, on an unsteady one. -/
def Steady (x : Session (StateM Unsteady) α) (y : Session (StateM Disk) α) : Prop :=
  ∀ d, runFrom x ⟨d, [], []⟩ = ((runFrom y d).1, ⟨(runFrom y d).2, [], []⟩)

namespace Steady

variable {β : Type} {x : Session (StateM Unsteady) α} {y : Session (StateM Disk) α}
variable {f : α → Session (StateM Unsteady) β} {g : α → Session (StateM Disk) β}

theorem bind (h : Steady x y) (hf : ∀ a, Steady (f a) (g a)) : Steady (x >>= f) (y >>= g) := by
  intro d
  rw [runFrom_bind, runFrom_bind, h d]
  cases runFrom y d with
  | mk r d' =>
    cases r with
    | ok a => exact hf a d'
    | error e => rfl

/-- The same answer of an access is dealt with in the same way. -/
theorem bind_answer {x : Session (StateM Unsteady) (Except FileFault α)}
    {y : Session (StateM Disk) (Except FileFault α)}
    {f : Except FileFault α → Session (StateM Unsteady) β}
    {g : Except FileFault α → Session (StateM Disk) β} (h : Steady x y)
    (hok : ∀ a, Steady (f (.ok a)) (g (.ok a)))
    (herror : ∀ cause, Steady (f (.error cause)) (g (.error cause))) :
    Steady (x >>= f) (y >>= g) := by
  apply bind h
  intro r
  cases r with
  | ok a => exact hok a
  | error cause => exact herror cause

theorem of_pure (a : α) : Steady (pure a) (pure a) := fun _ => rfl

theorem of_throw (e : Failure) : Steady (α := α) (throw e) (throw e) := fun _ => rfl

theorem of_act (a : Access) (broken : Mishap → Disk → Disk)
    (x : StateM Disk (Except FileFault α)) :
    Steady (ExceptT.lift (act a broken x)) (ExceptT.lift x) := fun _ => rfl

theorem read (path : String) : Steady (Store.read path) (Store.read path) := of_act _ _ _

theorem write (path content : String) :
    Steady (Store.write path content) (Store.write path content) := of_act _ _ _

theorem rename (source target : String) :
    Steady (Store.rename source target) (Store.rename source target) := of_act _ _ _

theorem remove (path : String) : Steady (Store.remove path) (Store.remove path) := of_act _ _ _

theorem enter (path : String) : Steady (Store.enter path) (Store.enter path) := of_act _ _ _

theorem print (text : String) : Steady (Store.print text) (Store.print text) := of_act _ _ _

theorem orFail (r : Except Error α) : Steady (Session.orFail r) (Session.orFail r) := by
  cases r with
  | ok a => exact of_pure a
  | error e => exact of_throw (.error e)

theorem load : Steady Session.load Session.load :=
  bind (read _) fun _ => orFail _

theorem replaceProjectFile (text : String) :
    Steady (Session.replaceProjectFile text) (Session.replaceProjectFile text) :=
  bind_answer (write _ _) (fun _ => rename _ _) fun _ => of_pure _

theorem save (p : Project) : Steady (Session.save p) (Session.save p) :=
  bind (orFail _) fun _ =>
    bind_answer (replaceProjectFile _) (fun _ => of_pure ()) fun _ =>
      bind (remove _) fun _ => of_throw _

theorem announce (text : String) : Steady (Session.announce text) (Session.announce text) :=
  bind_answer (print _) (fun _ => of_pure ()) fun _ => of_throw _

theorem init (profile : String) : Steady (Session.init profile) (Session.init profile) := by
  apply bind (orFail _)
  intro component
  apply bind load
  intro loaded
  cases loaded with
  | none => exact bind (save _) fun _ => announce _
  | some p =>
    dsimp only
    split
    · exact of_pure ()
    · exact bind (save _) fun _ => announce _

theorem addFile (p : Project) (file : Option String) :
    Steady (Session.addFile p file) (Session.addFile p file) := by
  cases file with
  | none => exact of_pure p
  | some path => exact bind (read path) fun _ => bind (orFail _) fun _ => orFail _

theorem deliver (source : String) (output : Option String) :
    Steady (Session.deliver source output) (Session.deliver source output) := by
  cases output with
  | none => exact bind_answer (print source) (fun _ => of_pure ()) fun _ => of_throw _
  | some path => exact bind_answer (write path source) (fun _ => of_pure ()) fun _ => of_throw _

theorem generate (file output : Option String) :
    Steady (Session.generate file output) (Session.generate file output) :=
  bind load fun _ => bind (addFile _ _) fun _ => bind (orFail _) fun _ =>
    bind (orFail _) fun _ => bind (deliver _ _) fun _ => save _

theorem projectGraph : Steady Session.projectGraph Session.projectGraph := by
  apply bind load
  intro loaded
  cases loaded with
  | none => exact of_throw .noProject
  | some p => exact orFail _

theorem execute (c : Command) : Steady (Session.execute c) (Session.execute c) := by
  cases c with
  | init profile => exact init profile
  | generate file output => exact generate file output
  | plan => exact bind projectGraph fun _ => bind (orFail _) fun _ => announce _
  | graph => exact bind projectGraph fun _ => announce _

theorem perform (args : List String) : Steady (Session.perform args) (Session.perform args) := by
  unfold Session.perform
  cases Invocation.ofArguments? none args with
  | none => exact of_throw .usage
  | some i =>
    refine bind ?_ fun _ => execute i.command
    cases i.dir with
    | none => exact of_pure ()
    | some dir => exact bind_answer (enter dir) (fun _ => of_pure ()) fun _ => of_throw _

end Steady

end Unsteady

namespace FileSystem

theorem attempt_kept {fs : FileSystem} {here : List String} {a : Attempt} {e : Failure}
    (h : (fs.attempt here a).result = .error e) (he : ∀ cause, e ≠ .abort cause) :
    Kept (fs.home here a.args) (fs.outputPlace? here a.args)
      (.remove draftFile ∈ fs.refusals here a) fs (fs.attempt here a).files :=
  Unsteady.perform_kept (Prod.ext h rfl) he

/-- Without mishaps a command does what it does on any disk. -/
theorem attempt_steady (fs : FileSystem) (here args : List String) :
    fs.attempt here ⟨args, []⟩ = fs.run here args := by
  rw [attempt, Unsteady.Steady.perform args _]
  rfl

theorem Kept.project {home dir : List String} {written : Option (List String)} {left : Prop}
    {fs after : FileSystem} (h : Kept home written left fs after)
    (hproject : written ≠ some (projectPlace dir)) :
    after.find? (projectPlace dir) = fs.find? (projectPlace dir) :=
  h.elsewhere _ (projectPlace_ne_draftPlace dir home) hproject

theorem Kept.draft_at {home dir : List String} {written : Option (List String)} {left : Prop}
    {fs after : FileSystem} (h : Kept home written left fs after)
    (hdraft : written ≠ some (draftPlace dir)) :
    after.find? (draftPlace dir) = fs.find? (draftPlace dir) ∨
      after.find? (draftPlace dir) = none ∨ left := by
  by_cases hdir : draftPlace dir = draftPlace home
  · rw [hdir] at hdraft ⊢
    exact h.draft hdraft
  · exact .inl (h.elsewhere _ hdir hdraft)

theorem afterAll_append (fs : FileSystem) (here : List String) (before after : List Attempt) :
    fs.afterAll here (before ++ after) = (fs.afterAll here before).afterAll here after := by
  induction before generalizing fs with
  | nil => rfl
  | cons a rest ih => exact ih (fs.attempt here a).files

def fullDisk : Attempt :=
  ⟨["generate", "-o", "main.go"],
    [none, none, some ⟨.other "No space left on device (os error 28)", some (.text "\x7b")⟩]⟩

end FileSystem

end Provision
