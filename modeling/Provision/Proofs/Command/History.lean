import Provision.Proofs.Command.Reloading
import Provision.Proofs.Command.Unsteady
import Provision.Proofs.Graph.Duplicates
import Provision.Proofs.Project.Names

/-!
# Projects that commands have made

A project file that only commands have written holds workloads of valid and distinct names,
whatever commands these were and wherever they were run, even if one of them has written its
program over the project file. A build from such a project never finds a workload declared twice.
-/

set_option autoImplicit false

namespace Provision

open Outcome Session

/-! ## Programs are no projects -/

theorem Json.read?_package (cs : List Char) : read? (String.ofList ('p' :: cs)) = none := by
  have hliteral : Literal.read? ('p' :: cs) = none := by
    simp [Literal.read?, Literal.readMagnitude?, Literal.readWhole?, Char.isDigit]
  simp [read?, readValue?, skipBlanks, isBlank, hliteral]

theorem Go.File.chars_head (f : Go.File) : ∃ rest, f.chars = 'p' :: rest := by
  have hword : "package ".toList = 'p' :: "ackage ".toList := by decide
  unfold Go.File.chars
  rw [hword]
  exact ⟨_, rfl⟩

theorem Graph.program_not_project {g : Graph} {source : String} (h : g.program = .ok source) :
    Project.decode? source = none := by
  obtain ⟨file, -, h⟩ := bind_eq_ok.mp h
  cases pure_eq_ok.mp h
  obtain ⟨rest, hrest⟩ := file.chars_head
  rw [Project.decode?, Go.File.render, hrest, Json.read?_package]
  rfl

/-! ## What commands can do to the files -/

namespace Disk

variable {α β : Type} {d d' : Disk}

def Still (x : Session (StateM Disk) α) : Prop := ∀ d, (runFrom x d).2 = d

theorem still_of_steady {x : Session (StateM Unsteady) α} {y : Session (StateM Disk) α}
    (h : Unsteady.Steady x y) (hx : Unsteady.Still x) : Still y := by
  intro d
  have hd := hx ⟨d, [], []⟩
  rwa [h d] at hd

theorem still_orFail (r : Except Error α) : Still (orFail r) :=
  still_of_steady (.orFail r) (Unsteady.still_orFail r)

theorem still_load : Still load := still_of_steady .load Unsteady.still_load

theorem still_addFile (p : Project) (file : Option String) : Still (addFile p file) :=
  still_of_steady (.addFile p file) (Unsteady.still_addFile p file)

theorem still_projectGraph : Still projectGraph :=
  still_of_steady .projectGraph Unsteady.still_projectGraph

theorem Still.bind_cases {x : Session (StateM Disk) α} {f : α → Session (StateM Disk) β}
    (hx : Still x) {r : Except Failure β} (h : runFrom (x >>= f) d = (r, d')) :
    d' = d ∨ ∃ a, runFrom x d = (.ok a, d) ∧ runFrom (f a) d = (r, d') := by
  have hd := hx d
  rcases Session.bind_cases h with ⟨e, hfail⟩ | ⟨a, mid, hrun, hrest⟩
  · rw [hfail] at hd
    exact .inl hd
  · rw [hrun] at hd
    cases hd
    exact .inr ⟨a, hrun, hrest⟩

/-- A program is delivered by writing all of it to one place, or not at all. -/
theorem deliver_cases {source : String} {output : Option String} {r : Except Failure Unit}
    (h : runFrom (deliver source output) d = (r, d')) :
    d'.here = d.here ∧ (d'.files = d.files ∨
      ∃ place, place ≠ [] ∧ d'.files = d.files.put place (.file (.text source))) := by
  cases output with
  | none =>
    cases h
    exact ⟨rfl, .inl rfl⟩
  | some path =>
    have hwrite : runFrom (Store.write path source : Session (StateM Disk) _) d =
      (.ok (attempt (fun fs here => fs.write here path source) d).1,
        (attempt (fun fs here => fs.write here path source) d).2) := rfl
    rw [deliver, runFrom_bind, hwrite] at h
    rcases attempt_cases (fun fs here => fs.write here path source) d with
      ⟨files, hw, hd⟩ | ⟨cause, -, hd⟩
    · rw [hd] at h
      cases h
      obtain ⟨place, hplace, hput⟩ := bind_eq_ok.mp hw
      cases pure_eq_ok.mp hput
      exact ⟨rfl, .inr ⟨place, FileSystem.writable_ne_nil hplace, rfl⟩⟩
    · rw [hd] at h
      cases h
      exact ⟨rfl, .inl rfl⟩

/-- A project is generated from only when it is loaded and the workload of the file is added. -/
theorem generate_cases {file output : Option String} {r : Except Failure Unit}
    (h : runFrom (generate file output) d = (r, d')) :
    d' = d ∨ ∃ o p source s mid, loaded (d.files.read d.here projectFile) = .ok o ∧
      d.added (o.getD Project.empty) file = .ok p ∧ (∃ g : Graph, g.program = .ok source) ∧
      runFrom (deliver source output) d = (s, mid) ∧
      (d' = mid ∨ runFrom (save p) mid = (r, d')) := by
  rcases still_load.bind_cases h with rfl | ⟨o, hload, h⟩
  · exact .inl rfl
  rcases (still_addFile _ file).bind_cases h with rfl | ⟨p, hadd, h⟩
  · exact .inl rfl
  rcases (still_orFail _).bind_cases h with rfl | ⟨g, -, h⟩
  · exact .inl rfl
  rcases (still_orFail _).bind_cases h with rfl | ⟨source, hprogram, h⟩
  · exact .inl rfl
  have hload := (load_ok.mp hload).1
  have hadd := (addFile_ok.mp hadd).1
  have hprogram := (orFail_ok.mp hprogram).1
  rcases Session.bind_cases h with ⟨e, hdeliver⟩ | ⟨_, mid, hdeliver, hsave⟩
  · exact .inr ⟨o, p, source, _, d', hload, hadd, ⟨g, hprogram⟩, hdeliver, .inl rfl⟩
  · exact .inr ⟨o, p, source, _, mid, hload, hadd, ⟨g, hprogram⟩, hdeliver, .inr hsave⟩

theorem save_announce_cases {p : Project} {text : String} {r : Except Failure Unit}
    (h : runFrom (save p >>= fun _ => announce text) d = (r, d')) :
    ∃ s mid, runFrom (save p) d = (s, mid) ∧ d'.files = mid.files := by
  rcases Session.bind_cases h with ⟨e, hsave⟩ | ⟨_, mid, hsave, hprint⟩
  · exact ⟨_, d', hsave, rfl⟩
  · cases hprint
    exact ⟨_, mid, hsave, rfl⟩

theorem init_cases {profile : String} {r : Except Failure Unit}
    (h : runFrom (init profile) d = (r, d')) :
    d' = d ∨ ∃ o component s mid, loaded (d.files.read d.here projectFile) = .ok o ∧
      runFrom (save { o.getD Project.empty with workloadComponent := component }) d = (s, mid) ∧
      d'.files = mid.files := by
  rcases (still_orFail _).bind_cases h with rfl | ⟨component, -, h⟩
  · exact .inl rfl
  rcases still_load.bind_cases h with rfl | ⟨o, hl, h⟩
  · exact .inl rfl
  have hload := (load_ok.mp hl).1
  cases o with
  | none =>
    obtain ⟨s, mid, hsave, hfiles⟩ := save_announce_cases h
    exact .inr ⟨none, component, s, mid, hload, hsave, hfiles⟩
  | some p =>
    dsimp only at h
    split at h
    · cases h
      exact .inl rfl
    · obtain ⟨s, mid, hsave, hfiles⟩ := save_announce_cases h
      exact .inr ⟨some p, component, s, mid, hload, hsave, hfiles⟩

end Disk

/-! ## What is kept -/

namespace FileSystem

variable {dir : List String} {fs after : FileSystem}

/-- Whether the project file of a directory, if there is one, is that of a project whose
workloads have distinct names, or a program that was written in its place. -/
def Distinct (dir : List String) (fs : FileSystem) : Prop :=
  ∀ c, fs.find? (projectPlace dir) = some (.file c) →
    (∃ p names text, Project.Named p names ∧ p.encode = .ok text ∧ c = .text (text ++ "\n")) ∨
      ∃ g source, Graph.program g = .ok source ∧ c = .text source

theorem Distinct.of_same (h : Distinct dir fs)
    (hsame : after.find? (projectPlace dir) = fs.find? (projectPlace dir)) :
    Distinct dir after := by
  intro c hfind
  rw [hsame] at hfind
  exact h c hfind

theorem Distinct.loaded (h : Distinct dir fs) {o : Option Project}
    (hload : loaded (fs.read dir projectFile) = .ok o) :
    ∃ names, (o.getD Project.empty).Named names := by
  cases o with
  | none => exact ⟨[], rfl, List.nodup_nil⟩
  | some q =>
    obtain ⟨text, hread, hq⟩ := loaded_eq_some hload
    rcases h _ (read_projectFile_iff.mp hread) with
      ⟨p, names, saved, hp, hsaved, htext⟩ | ⟨g, source, hprogram, htext⟩
    · cases htext
      exact ⟨names, Project.named_of_saved hp hsaved hq⟩
    · cases htext
      rw [Graph.program_not_project hprogram] at hq
      cases hq

theorem Distinct.put_program (h : Distinct dir fs) {place : List String} {g : Graph}
    {source : String} (hplace : place ≠ []) (hprogram : g.program = .ok source) :
    Distinct dir (fs.put place (.file (.text source))) := by
  by_cases heq : projectPlace dir = place
  · intro c hfind
    rw [find?_put _ _ _ _ hplace, if_pos heq] at hfind
    cases hfind
    exact .inr ⟨g, source, hprogram, rfl⟩
  · apply h.of_same
    rw [find?_put _ _ _ _ hplace, if_neg heq]

theorem Distinct.saved (h : Distinct dir fs) {home : List String} {p : Project} {text : String}
    (hp : home = dir → ∃ names, p.Named names) (htext : p.encode = .ok text) :
    Distinct dir (fs.saved home (text ++ "\n")) := by
  by_cases heq : projectPlace dir = projectPlace home
  · intro c hfind
    rw [find?_saved, if_pos heq] at hfind
    cases hfind
    obtain ⟨names, hnamed⟩ := hp (projectPlace_inj.mp heq).symm
    exact .inl ⟨p, names, text, hnamed, htext, rfl⟩
  · apply h.of_same
    rw [find?_saved, if_neg heq, if_neg (projectPlace_ne_draftPlace dir home)]

end FileSystem

namespace Disk

open FileSystem (Distinct)

variable {dir : List String} {d d' : Disk}

theorem save_distinct {p : Project} {r : Except Failure Unit} (h : Distinct dir d.files)
    (hp : d.here = dir → ∃ names, p.Named names) (hsave : runFrom (save p) d = (r, d')) :
    Distinct dir d'.files := by
  cases r with
  | ok _ =>
    obtain ⟨text, htext, -, -, rfl⟩ := save_ok.mp hsave
    exact h.saved hp htext
  | error e =>
    have hsteady := Unsteady.Steady.save p d
    rw [hsave] at hsteady
    exact h.of_same ((Unsteady.save_kept hsteady).project nofun)

theorem added_named {p q : Project} {names : List String} {file : Option String}
    (hp : p.Named names) (h : d.added p file = .ok q) : ∃ names, q.Named names := by
  cases file with
  | none =>
    cases h
    exact ⟨names, hp⟩
  | some path =>
    obtain ⟨w, -, h⟩ := bind_eq_ok.mp h
    obtain ⟨name, hw, -⟩ := bind_eq_ok.mp h
    obtain ⟨q', hq', hnamed, -⟩ := Project.upsert_named hp hw
    rw [hq'] at h
    cases h
    exact ⟨_, hnamed⟩

theorem generate_distinct {file output : Option String} {r : Except Failure Unit}
    (h : Distinct dir d.files) (hrun : runFrom (generate file output) d = (r, d')) :
    Distinct dir d'.files := by
  rcases generate_cases hrun with
    rfl | ⟨o, p, source, s, mid, hload, hadd, ⟨g, hprogram⟩, hdeliver, hlast⟩
  · exact h
  -- The program may go over the project file itself, which is then no project until the save.
  have hmid : Distinct dir mid.files := by
    rcases (deliver_cases hdeliver).2 with hsame | ⟨place, hplace, hput⟩
    · rw [hsame]
      exact h
    · rw [hput]
      exact h.put_program hplace hprogram
  rcases hlast with rfl | hsave
  · exact hmid
  · apply save_distinct hmid _ hsave
    -- What is saved here was loaded before the program was written.
    intro hhere
    rw [(deliver_cases hdeliver).1] at hhere
    subst hhere
    obtain ⟨names, hnamed⟩ := h.loaded hload
    exact added_named hnamed hadd

theorem init_distinct {profile : String} {r : Except Failure Unit} (h : Distinct dir d.files)
    (hrun : runFrom (init profile) d = (r, d')) : Distinct dir d'.files := by
  rcases init_cases hrun with rfl | ⟨o, component, s, mid, hload, hsave, hfiles⟩
  · exact h
  rw [hfiles]
  apply save_distinct h _ hsave
  intro hhere
  subst hhere
  obtain ⟨names, hnamed⟩ := h.loaded hload
  exact ⟨names, hnamed.eq, hnamed.nodup⟩

theorem execute_distinct {c : Command} {r : Except Failure Unit} (h : Distinct dir d.files)
    (hrun : runFrom (execute c) d = (r, d')) : Distinct dir d'.files := by
  cases c with
  | init profile => exact init_distinct h hrun
  | generate file output => exact generate_distinct h hrun
  | plan =>
    rcases still_projectGraph.bind_cases hrun with rfl | ⟨g, -, hrun⟩
    · exact h
    rcases (still_orFail _).bind_cases hrun with rfl | ⟨text, -, hrun⟩
    · exact h
    cases hrun
    exact h
  | graph =>
    rcases still_projectGraph.bind_cases hrun with rfl | ⟨g, -, hrun⟩
    · exact h
    cases hrun
    exact h

theorem changeTo_files {path : Option String} {r : Except Failure Unit}
    (h : runFrom (changeTo path) d = (r, d')) : d'.files = d.files := by
  cases path with
  | none =>
    cases h
    rfl
  | some path =>
    have henter : runFrom (Store.enter path : Session (StateM Disk) _) d =
      (.ok (Store.enter (m := StateM Disk) path d).1, (Store.enter (m := StateM Disk) path d).2) :=
      rfl
    rw [changeTo, runFrom_bind, henter] at h
    rcases enter_cases path d with ⟨home, -, hd⟩ | ⟨cause, hd⟩
    · rw [hd] at h
      cases h
      rfl
    · rw [hd] at h
      cases h
      rfl

/-- No command gives a project two workloads of one name. -/
theorem perform_distinct {args : List String} {r : Except Failure Unit}
    (h : Distinct dir d.files) (hrun : runFrom (perform args) d = (r, d')) :
    Distinct dir d'.files := by
  unfold perform at hrun
  split at hrun
  · cases hrun
    exact h
  · rcases bind_cases hrun with ⟨e, hchange⟩ | ⟨_, mid, hchange, hexecute⟩
    · rw [changeTo_files hchange]
      exact h
    · rw [← changeTo_files hchange] at h
      exact execute_distinct h hexecute

end Disk

/-! ## What commands have made -/

/-- Whether commands alone have written the project file of a directory, which was without one
at first. All other files may have been changed in any way. -/
inductive FileSystem.Reached (dir : List String) : FileSystem → Prop
  | start {fs : FileSystem} (h : fs.find? (projectPlace dir) = none) : Reached dir fs
  | command {fs : FileSystem} (h : Reached dir fs) (here args : List String) :
      Reached dir (fs.run here args).files
  | edit {fs after : FileSystem} (h : Reached dir fs)
      (hsame : after.find? (projectPlace dir) = fs.find? (projectPlace dir)) : Reached dir after

theorem FileSystem.Reached.distinct {dir : List String} {fs : FileSystem} (h : fs.Reached dir) :
    Distinct dir fs := by
  induction h with
  | start h =>
    intro c hfind
    rw [h] at hfind
    cases hfind
  | @command fs _ here args ih =>
    have hfiles : fs.run here args = ⟨(fs.run here args).result, (fs.run here args).printed,
      (fs.run here args).files⟩ := rfl
    obtain ⟨place, hrun⟩ := run_eq_iff.mp hfiles
    have hdistinct := Disk.perform_distinct (d := ⟨fs, here, ""⟩) ih hrun
    exact hdistinct
  | edit _ hsame ih => exact ih.of_same hsame

namespace Project

theorem unrepeated_graphOf {p : Project} {names : List String} (h : p.Named names) :
    Unrepeated (graphOf p) := by
  have hvalidate : Unrepeated p.validate := by
    unfold validate
    split
    · exact .error nofun
    · exact .ok _
  exact hvalidate.bind fun _ => unrepeated_graph h

/-- Workloads are added to a project in the order of their names' first additions, each name
bound to the last workload added under it. So a project file that commands have made from
nothing holds workloads of distinct names, unless it holds a program, and no build from it
reports a workload as declared twice, whatever is added. -/
theorem names_stay_distinct :
    (∀ (p : Project) (names : List String) (ws : List Workload), p.Named names →
      (∀ w, (∃ e, w.name = .error e ∧ (p.upsertAll ws).upsert w = .error e ∧
          p.upsertAll (ws ++ [w]) = p.upsertAll ws) ∨
        ∃ name q, w.name = .ok name ∧ (p.upsertAll ws).upsert w = .ok q ∧
          p.upsertAll (ws ++ [w]) = q) ∧
      (p.upsertAll ws).Named (names ++ namesOf ws).eraseDups ∧
      (∀ name, Workload.called name (p.upsertAll ws).workloads =
        (Workload.called name ws.reverse).or (Workload.called name p.workloads)) ∧
      (p.upsertAll ws).workloadComponent = p.workloadComponent ∧
      (p.upsertAll ws).library = p.library) ∧
    ∀ (dir : List String) (fs : FileSystem), fs.Reached dir →
      (∀ c, fs.find? (projectPlace dir) = some (.file c) →
        (∃ p names text, Named p names ∧ p.encode = .ok text ∧ c = .text (text ++ "\n")) ∨
          ∃ g source, Graph.program g = .ok source ∧ c = .text source) ∧
      ∀ p, loaded (fs.read dir projectFile) = .ok (some p) →
        (∃ names, p.Named names) ∧ ∀ ws name,
          graphOf (p.upsertAll ws) ≠ .error (.conflict .workload name .declarations) := by
  constructor
  · intro p names ws hp
    obtain ⟨hnamed, hcomponent, hlibrary, hcalled⟩ := upsertAll_named hp ws
    refine ⟨?_, hnamed, hcalled, hcomponent, hlibrary⟩
    intro w
    rw [upsertAll_append]
    exact upsert_cases hnamed w
  · intro dir fs hreached
    refine ⟨hreached.distinct, ?_⟩
    intro p hload
    obtain ⟨names, hp⟩ := hreached.distinct.loaded hload
    refine ⟨⟨names, hp⟩, ?_⟩
    intro ws name herror
    exact unrepeated_graphOf (upsertAll_named hp ws).1 _ herror ⟨name, rfl⟩

def stall : FileSystem :=
  ⟨[(["score.yaml"], .file (.text "metadata: \x7bname: shop\x7d\n"))]⟩

theorem exists_stall_saved : ∃ text,
    (stall.run [] ["init", "p.New(Args)"]).files = stall.saved [] (text ++ "\n") ∧
      decode? (text ++ "\n") = some ⟨[], ⟨"p", "New", "Args"⟩, []⟩ := by
  have hprofile : Component.ofProfile "p.New(Args)" = .ok ⟨"p", "New", "Args"⟩ := by decide
  obtain ⟨text, hfiles, -, hread⟩ := @FileSystem.run_init stall [] ["init", "p.New(Args)"] [] none
    "p.New(Args)" _ (by decide) rfl hprofile rfl (by decide)
  exact ⟨text, hfiles, hread⟩

theorem names_stay_distinct_stall : ∃ p,
    loaded (((stall.run [] ["init", "p.New(Args)"]).files.run []
      ["generate", "score.yaml"]).files.read [] projectFile) = .ok (some p) ∧
    p.Named ["shop"] ∧ (p.upsertAll p.workloads).Named ["shop"] ∧
    ∀ ws name, graphOf (p.upsertAll ws) ≠ .error (.conflict .workload name .declarations) := by
  have hcheck : (FileSystem.built? ⟨[], ⟨"p", "New", "Args"⟩, []⟩
      "metadata: \x7bname: shop\x7d\n").any (fun x => (ofJson? (x.2.2.reread Json.levels)).any
        fun p => decide (p.workloads.map Workload.name = [.ok "shop"]) &&
          decide (namesOf p.workloads = ["shop"])) = true := by
    decide +kernel
  obtain ⟨⟨q, source, j⟩, hbuilt, hcheck⟩ := (Option.any_eq_true _ _).mp hcheck
  obtain ⟨p, hp, hcheck⟩ := (Option.any_eq_true _ _).mp hcheck
  simp only [Bool.and_eq_true, decide_eq_true_eq] at hcheck
  obtain ⟨hnames, hagain⟩ := hcheck
  obtain ⟨w, g, -, -, -, -, hj⟩ := FileSystem.built?_eq_some hbuilt
  have hargs : Invocation.ofArguments? none ["generate", "score.yaml"] =
      some ⟨.generate (some "score.yaml") none, none⟩ := by decide
  obtain ⟨text, hfiles, hread⟩ := exists_stall_saved
  have hload : loaded (((stall.run [] ["init", "p.New(Args)"]).files.run []
      ["generate", "score.yaml"]).files.read [] projectFile) = .ok (some p) := by
    have hfile : (stall.saved [] (text ++ "\n")).read [] "score.yaml" =
        .ok "metadata: \x7bname: shop\x7d\n" := rfl
    rw [hfiles, FileSystem.run_built hargs (loaded_saved _ _ hread) hfile
      (by simp [FileSystem.find?_saved, (projectPlace_ne_draftPlace [] []).symm])
      (by simp [FileSystem.find?_saved]) hbuilt]
    exact loaded_saved _ _ ((decode?_pretty hj).trans hp)
  have hstart : stall.Reached [] := .start rfl
  have hreached := (hstart.command [] ["init", "p.New(Args)"]).command [] ["generate", "score.yaml"]
  have hnamed : p.Named ["shop"] := ⟨hnames, by decide⟩
  have hadded := (names_stay_distinct.1 p _ p.workloads hnamed).2.1
  rw [hagain] at hadded
  exact ⟨p, hload, hnamed, hadded, ((names_stay_distinct.2 [] _ hreached).2 p hload).2⟩

end Project

end Provision
