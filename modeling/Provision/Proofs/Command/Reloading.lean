import Mathlib.Data.List.Basic
import Provision.Proofs.Command.Saving
import Provision.Proofs.Project.Documents
import Provision.Proofs.Yaml.Brackets

/-!
# Generating from a saved project

After a program is generated, the project that it was generated from is in the project file. It
is read from there as it was, less its null probes, unless its document is nested too deep to be
read at all. The command can then be run again and changes nothing.
-/

set_option autoImplicit false

namespace Provision

open Outcome Session

namespace Project

/-- A workload takes its own place in what is read back. -/
theorem replace_settled {name : String} {w : Workload} {ws vs : List Workload}
    (hw : w.name = .ok name) (hs : ∀ x ∈ ws, x.settled = x) (h : replace name w ws = .ok vs) :
    replace name w (vs.map Workload.settled) = .ok vs := by
  have hsettled : w.settled.name = .ok name := hw
  induction ws generalizing vs with
  | nil =>
    cases h
    rw [List.map_cons, replace, hsettled]
    simp [bind, Except.bind, pure, Except.pure]
  | cons x rest ih =>
    obtain ⟨hx, hrest⟩ := List.forall_mem_cons.mp hs
    obtain ⟨other, hother, h⟩ := bind_eq_ok.mp h
    split at h
    · cases pure_eq_ok.mp h
      have hkept : rest.map Workload.settled = rest := by
        rw [List.map_congr_left hrest, List.map_id']
      rw [List.map_cons, replace, hsettled, hkept]
      simp [bind, Except.bind, pure, Except.pure]
    · next hne =>
      obtain ⟨vs, hvs, h⟩ := bind_eq_ok.mp h
      cases pure_eq_ok.mp h
      rw [List.map_cons, replace, hx, hother, ih hrest hvs]
      simp [bind, Except.bind, pure, Except.pure, hne]

theorem upsert_settled {p q : Project} {w : Workload} (hp : p.settled = p)
    (h : p.upsert w = .ok q) : q.settled.upsert w = .ok q := by
  obtain ⟨name, hw, h⟩ := bind_eq_ok.mp h
  obtain ⟨ws, hws, h⟩ := bind_eq_ok.mp h
  cases pure_eq_ok.mp h
  have hreplace := replace_settled hw ((settled_eq_iff p).mp hp) hws
  exact bind_eq_ok.mpr ⟨name, hw, bind_eq_ok.mpr ⟨ws, hreplace, rfl⟩⟩

end Project

/-- What is loaded is ordered and settled. -/
theorem Session.loaded_ordered {r : Except FileFault String} {o : Option Project}
    (h : loaded r = .ok o) :
    (o.getD Project.empty).Ordered ∧ (o.getD Project.empty).settled = o.getD Project.empty := by
  cases o with
  | none => exact ⟨nofun, rfl⟩
  | some p =>
    obtain ⟨text, -, hp⟩ := loaded_eq_some h
    obtain ⟨j, -, hj⟩ := Option.bind_eq_some_iff.mp hp
    exact ⟨Project.decode?_ordered hp, Project.ofJson?_settled hj⟩

theorem Session.workloadIn_eq_ok {path : String} {r : Except FileFault String} {w : Workload}
    (h : workloadIn path r = .ok w) : ∃ text, r = .ok text ∧ Workload.parse text = .ok w := by
  cases r with
  | error cause => cases h
  | ok text => exact ⟨text, rfl, h⟩

theorem Session.loaded_saved (fs : FileSystem) (home : List String) {text : String} {p : Project}
    (h : Project.decode? text = some p) :
    loaded ((fs.saved home text).read home projectFile) = .ok (some p) := by
  have hread : (fs.saved home text).read home projectFile = .ok text := by
    rw [FileSystem.read_projectFile_iff, FileSystem.find?_saved, if_pos rfl]
  rw [hread, loaded, h]

theorem FileSystem.sameDirectories_saved {fs : FileSystem} {home : List String} (text : String)
    (hdraft : fs.find? (draftPlace home) ≠ some .directory)
    (hproject : fs.find? (projectPlace home) ≠ some .directory) :
    SameDirectories fs (fs.saved home text) := by
  intro place
  rw [find?_saved]
  split
  · next heq =>
    subst heq
    simp [hproject]
  · split
    · next heq =>
      subst heq
      simp [hdraft]
    · rfl

namespace FileSystem

theorem read_saved {fs : FileSystem} {home : List String} {path text content : String}
    {l : Location} (hdraft : fs.find? (draftPlace home) ≠ some .directory)
    (hproject : fs.find? (projectPlace home) ≠ some .directory)
    (hl : fs.locate home path = .ok l) (hp : l.place ≠ projectPlace home)
    (hd : l.place ≠ draftPlace home) (hread : fs.read home path = .ok text) :
    (fs.saved home content).read home path = .ok text := by
  obtain ⟨l', hl', hslash, hfile⟩ := read_eq_ok_iff.mp hread
  rw [hl] at hl'
  cases hl'
  rw [read_eq_ok_iff]
  refine ⟨l, locate_eq_ok (sameDirectories_saved content hdraft hproject) hl, hslash, ?_⟩
  rw [find?_saved, if_neg hp, if_neg hd]
  exact hfile

/-- A program is generated from the project with the workload of a file, and the project is
saved, when and only when each step of that succeeds. -/
theorem run_generate_iff {fs after : FileSystem} {here args : List String} {file source : String}
    {dir : Option String}
    (hargs : Invocation.ofArguments? none args = some ⟨.generate (some file) none, dir⟩) :
    fs.run here args = ⟨.ok (), source, after⟩ ↔
      ∃ home o w p g text, fs.enterAt here dir = .ok home ∧
        loaded (fs.read home projectFile) = .ok o ∧
        workloadIn file (fs.read home file) = .ok w ∧
        (o.getD Project.empty).upsert w = .ok p ∧ graphOf p = .ok g ∧ g.program = .ok source ∧
        p.encode = .ok text ∧ fs.find? (draftPlace home) ≠ some .directory ∧
        fs.find? (projectPlace home) ≠ some .directory ∧ after = fs.saved home (text ++ "\n") := by
  rw [run_eq_iff]
  constructor
  · rintro ⟨place, h⟩
    obtain ⟨i, home, hi, henter, h⟩ := Disk.perform_ok.mp h
    rw [hargs] at hi
    cases hi
    obtain ⟨o, p, g, _, mid, hload, hadd, hgraph, hprogram, hdeliver, hsave⟩ :=
      Disk.generate_ok.mp h
    obtain ⟨w, hw, hp⟩ := bind_eq_ok.mp hadd
    cases hdeliver
    obtain ⟨text, htext, hdraft, hproject, hafter⟩ := Disk.save_ok.mp hsave
    cases hafter
    refine ⟨home, o, w, p, g, text, henter, hload, hw, hp, hgraph, ?_, htext, hdraft, hproject, rfl⟩
    simpa using hprogram
  · rintro ⟨home, o, w, p, g, text, henter, hload, hw, hp, hgraph, hprogram, htext, hdraft,
      hproject, rfl⟩
    refine ⟨home, Disk.perform_ok.mpr ⟨_, home, hargs, henter, ?_⟩⟩
    refine Disk.generate_ok.mpr ⟨o, p, g, source, ⟨fs, home, "" ++ source⟩, hload,
      bind_eq_ok.mpr ⟨w, hw, hp⟩, hgraph, hprogram, rfl, ?_⟩
    refine Disk.save_ok.mpr ⟨text, htext, hdraft, hproject, ?_⟩
    simp

/-- What is saved where there was no project is read back as a project without workloads. -/
theorem run_init {fs : FileSystem} {here args home : List String} {dir : Option String}
    {profile : String} {component : Component}
    (hargs : Invocation.ofArguments? none args = some ⟨.init profile, dir⟩)
    (hhome : fs.enterAt here dir = .ok home)
    (hc : Component.ofProfile profile = .ok component)
    (hproject : fs.find? (projectPlace home) = none)
    (hdraft : fs.find? (draftPlace home) ≠ some .directory) :
    ∃ text, (fs.run here args).files = fs.saved home (text ++ "\n") ∧
      Project.encode ⟨[], component, []⟩ = .ok text ∧
      Project.decode? (text ++ "\n") = some ⟨[], component, []⟩ := by
  obtain ⟨text, htext, hread⟩ := Project.new_reads_back component
  have hinit := Disk.init_new (d := ⟨fs, home, ""⟩) hc htext hproject hdraft
  have hrun := run_eq_iff.mpr ⟨home, Disk.perform_ok.mpr ⟨_, home, hargs, hhome, hinit⟩⟩
  exact ⟨text, by rw [hrun], htext, hread⟩

theorem run_of_ok {fs : FileSystem} {here args : List String}
    (h : (fs.run here args).result = .ok ()) :
    fs.run here args = ⟨.ok (), (fs.run here args).printed, (fs.run here args).files⟩ := by
  rw [← h]

/-- A program that is generated with a workload file is that of the project which is saved. What
is loaded then is that project, less the probes that are null, if its document nests 127 levels
at most. While the workload file is as it was, the command can be run again, prints the same
program and leaves every file as it is; and it is as it was if it is neither the project file
nor the draft. -/
theorem generated_project_loads (fs : FileSystem) (here args : List String) (file : String)
    (dir : Option String)
    (hargs : Invocation.ofArguments? none args = some ⟨.generate (some file) none, dir⟩)
    (hok : (fs.run here args).result = .ok ()) :
    ∃ home p j, fs.enterAt here dir = .ok home ∧
      (do
        let o ← loaded (fs.read home projectFile)
        let w ← workloadIn file (fs.read home file)
        (o.getD Project.empty).upsert w) = .ok p ∧
      p.json = .ok j ∧ (graphOf p >>= Graph.program) = .ok (fs.run here args).printed ∧
      (j.depth ≤ 127 → (∀ x ∈ j.doubles, x.readsBack = true) →
        loaded ((fs.run here args).files.read home projectFile) = .ok (some p.settled) ∧
        (p.settled = p ↔ ∀ w ∈ p.workloads, ∀ e ∈ w.containers.entries,
          e.2.livenessProbe ≠ some .null ∧ e.2.readinessProbe ≠ some .null) ∧
        ((fs.run here args).files.read home file = fs.read home file →
          ((fs.run here args).files.run here args).result = .ok () ∧
          ((fs.run here args).files.run here args).printed = (fs.run here args).printed ∧
          ∀ place, ((fs.run here args).files.run here args).files.find? place =
            (fs.run here args).files.find? place)) ∧
      ∀ l, fs.locate home file = .ok l → l.place ≠ projectPlace home →
        l.place ≠ draftPlace home →
        (fs.run here args).files.read home file = fs.read home file := by
  obtain ⟨home, o, w, p, g, text, henter, hload, hw, hp, hgraph, hprogram, htext, hdraft, hproject,
    hafter⟩ := (run_generate_iff hargs).mp (run_of_ok hok)
  obtain ⟨j, hj, rfl⟩ := Project.encode_eq_ok htext
  obtain ⟨content, hcontent, hparse⟩ := workloadIn_eq_ok hw
  obtain ⟨ho, hs⟩ := loaded_ordered hload
  have hordered := Project.upsert_ordered ho (Workload.parse_ordered hparse) hp
  rw [hafter]
  refine ⟨home, p, j, henter, ?_, hj, bind_eq_ok.mpr ⟨g, hgraph, hprogram⟩, ?_, ?_⟩
  · exact bind_eq_ok.mpr ⟨o, hload, bind_eq_ok.mpr ⟨w, hw, hp⟩⟩
  · intro hdepth hx
    have hreload : loaded ((fs.saved home (j.pretty ++ "\n")).read home projectFile) =
        .ok (some p.settled) :=
      loaded_saved fs home (Project.decode?_saved hordered hj hdepth hx)
    refine ⟨hreload, p.settled_eq_iff_probes, ?_⟩
    intro hsame
    have hagain := (run_generate_iff hargs).mpr ⟨home, some p.settled, w, p, g, j.pretty,
      enterAt_eq_ok (sameDirectories_saved _ hdraft hproject) henter, hreload,
      hsame.symm ▸ hw, Project.upsert_settled hs hp, hgraph, hprogram, htext,
      by simp [find?_saved, Ne.symm (projectPlace_ne_draftPlace home home)],
      by simp [find?_saved], rfl⟩
    rw [hagain]
    refine ⟨rfl, rfl, ?_⟩
    intro place
    simp only [find?_saved]
    split
    · rfl
    · split <;> rfl
  · intro l hl hplace hnot
    rw [hcontent, read_saved hdraft hproject hl hplace hnot hcontent]

def built? (p : Project) (workload : String) : Option (Project × String × Json) := do
  let w ← (Workload.parse workload).toOption
  let p ← (p.upsert w).toOption
  let g ← (graphOf p).toOption
  let source ← g.program.toOption
  let j ← p.json.toOption
  return (p, source, j)

theorem built?_eq_some {p q : Project} {workload source : String} {j : Json}
    (h : built? p workload = some (q, source, j)) :
    ∃ w g, Workload.parse workload = .ok w ∧ p.upsert w = .ok q ∧ graphOf q = .ok g ∧
      g.program = .ok source ∧ q.json = .ok j := by
  obtain ⟨w, hw, h⟩ := Option.bind_eq_some_iff.mp h
  obtain ⟨q', hq, h⟩ := Option.bind_eq_some_iff.mp h
  obtain ⟨g, hg, h⟩ := Option.bind_eq_some_iff.mp h
  obtain ⟨source', hs, h⟩ := Option.bind_eq_some_iff.mp h
  obtain ⟨j', hj, h⟩ := Option.bind_eq_some_iff.mp h
  cases h
  exact ⟨w, g, toOption_eq_some.mp hw, toOption_eq_some.mp hq, toOption_eq_some.mp hg,
    toOption_eq_some.mp hs, toOption_eq_some.mp hj⟩

theorem run_built {fs : FileSystem} {args : List String} {file workload source : String}
    {o : Option Project} {p : Project} {j : Json}
    (hargs : Invocation.ofArguments? none args = some ⟨.generate (some file) none, none⟩)
    (hload : loaded (fs.read [] projectFile) = .ok o) (hfile : fs.read [] file = .ok workload)
    (hdraft : fs.find? (draftPlace []) ≠ some .directory)
    (hproject : fs.find? (projectPlace []) ≠ some .directory)
    (h : built? (o.getD Project.empty) workload = some (p, source, j)) :
    fs.run [] args = ⟨.ok (), source, fs.saved [] (j.pretty ++ "\n")⟩ := by
  obtain ⟨w, g, hw, hp, hg, hs, hj⟩ := built?_eq_some h
  have hworkload : workloadIn file (fs.read [] file) = .ok w := by
    rw [hfile]
    exact hw
  have htext : p.encode = .ok j.pretty := by
    rw [Project.encode, hj]
  exact (run_generate_iff hargs).mpr ⟨[], o, w, p, g, j.pretty, rfl, hload, hworkload, hp, hg, hs,
    htext, hdraft, hproject, rfl⟩

def shop (config workload : String) : FileSystem :=
  ⟨[(["score.config.json"], .file (.text config)), (["score.yaml"], .file (.text workload))]⟩

def shopBuilt? (config workload : String) : Option (Project × String × Json) :=
  (Project.decode? config).bind fun p => built? p workload

section Shop

variable {config workload source : String} {p : Project} {j : Json}
variable (h : shopBuilt? config workload = some (p, source, j))
include h

theorem loaded_shop : ∃ o, loaded ((shop config workload).read [] projectFile) = .ok o ∧
    built? (o.getD Project.empty) workload = some (p, source, j) := by
  obtain ⟨q, hq, hbuilt⟩ := Option.bind_eq_some_iff.mp h
  have hread : (shop config workload).read [] projectFile = .ok config :=
    read_projectFile_iff.mpr rfl
  refine ⟨some q, ?_, hbuilt⟩
  rw [hread, loaded, hq]

theorem run_shop : (shop config workload).run [] ["generate", "score.yaml"] =
    ⟨.ok (), source, (shop config workload).saved [] (j.pretty ++ "\n")⟩ := by
  have hargs : Invocation.ofArguments? none ["generate", "score.yaml"] =
      some ⟨.generate (some "score.yaml") none, none⟩ := by decide
  have hread : (shop config workload).read [] "score.yaml" = .ok workload :=
    read_eq_ok_iff.mpr ⟨⟨["score.yaml"], true, false⟩, rfl, rfl, rfl⟩
  obtain ⟨o, hload, hbuilt⟩ := loaded_shop h
  apply run_built hargs hload hread _ _ hbuilt
  · simp [shop, find?, draftPlace]
  · simp [shop, find?, projectPlace]

theorem added_shop : (do
    let o ← loaded ((shop config workload).read [] projectFile)
    let w ← workloadIn "score.yaml" ((shop config workload).read [] "score.yaml")
    (o.getD Project.empty).upsert w) = .ok p := by
  obtain ⟨o, hload, hbuilt⟩ := loaded_shop h
  obtain ⟨w, g, hw, hp, -⟩ := built?_eq_some hbuilt
  exact bind_eq_ok.mpr ⟨o, hload, bind_eq_ok.mpr ⟨w, hw, hp⟩⟩

theorem json_shop : p.json = .ok j := by
  obtain ⟨o, -, hbuilt⟩ := loaded_shop h
  obtain ⟨w, g, -, -, -, -, hj⟩ := built?_eq_some hbuilt
  exact hj

end Shop

def plainConfig : String := "\x7b\"default_workload_component\": [\"p\", \"New\", \"Args\"]\x7d"

theorem generated_project_loads_tariff : ∃ p source j,
    shopBuilt? plainConfig Project.tariffFile = some (p, source, j) ∧
    loaded (((shop plainConfig Project.tariffFile).run [] ["generate", "score.yaml"]).files.read []
      projectFile) = .ok (some p) ∧
    (((shop plainConfig Project.tariffFile).run [] ["generate", "score.yaml"]).files.run []
      ["generate", "score.yaml"]).result = .ok () ∧
    (((shop plainConfig Project.tariffFile).run [] ["generate", "score.yaml"]).files.run []
      ["generate", "score.yaml"]).printed = source := by
  have hcheck : (shopBuilt? plainConfig Project.tariffFile).any (fun x => !x.1.nullProbes &&
      decide (x.2.2.depth ≤ 127) && x.2.2.doubles.all Double.readsBack) = true := by
    decide +kernel
  obtain ⟨⟨p, source, j⟩, hbuilt, hcheck⟩ := (Option.any_eq_true _ _).mp hcheck
  simp only [Bool.and_eq_true, Bool.not_eq_true', decide_eq_true_eq, List.all_eq_true] at hcheck
  obtain ⟨⟨hprobes, hdepth⟩, hx⟩ := hcheck
  have hrun := run_shop hbuilt
  obtain ⟨home, q, k, hhome, hq, hk, -, hall, hsame⟩ := generated_project_loads
    (shop plainConfig Project.tariffFile) [] ["generate", "score.yaml"] "score.yaml" none
    (by decide) (by rw [hrun])
  cases hhome
  obtain rfl := Except.ok.inj ((added_shop hbuilt).symm.trans hq)
  obtain rfl := Except.ok.inj ((json_shop hbuilt).symm.trans hk)
  obtain ⟨hload, hsettled, hagain⟩ := hall hdepth hx
  obtain ⟨hresult, hprinted, -⟩ := hagain (hsame ⟨["score.yaml"], true, false⟩ rfl (by decide)
    (by decide))
  rw [hsettled.mpr ((Project.nullProbes_eq_false_iff p).mp hprobes)] at hload
  refine ⟨p, source, j, hbuilt, hload, hresult, hprinted.trans ?_⟩
  rw [hrun]

/-- A workload file of 126 levels. The document of a project with the workload has 128. -/
def deepFile : String :=
  "metadata: \x7bname: shop, deep: " ++
    String.ofList (List.replicate 124 '[' ++ List.replicate 124 ']') ++ "\x7d\n"

def deepRest : List Char :=
  List.replicate 123 '[' ++ (List.replicate 123 ']' ++ [']', '\x7d', '\n'])

def deepOpened (rest : List Char) : Yaml.Scanner :=
  { cursor := ⟨rest, 30, 0, 30⟩
    items := [.token .flowSequenceStart, .token .value, .token (.scalar "deep" .plain), .mark 2,
      .token .flowEntry, .token (.scalar "shop" .plain), .token .value,
      .token (.scalar "name" .plain), .mark 1, .token .flowMappingStart, .token .value,
      .token (.scalar "metadata" .plain), .mark 0]
    marks := 3
    keys := [(2, false), (1, false), (0, true)]
    candidates := [none, none, none]
    blocks := [0] }

def deepTokens : List Yaml.Token :=
  ([.blockMappingStart, .key, .scalar "metadata" .plain, .value, .flowMappingStart, .key,
    .scalar "name" .plain, .value, .scalar "shop" .plain, .flowEntry, .key, .scalar "deep" .plain,
    .value] : List Yaml.Token) ++ (List.replicate 124 .flowSequenceStart : List Yaml.Token) ++
    (List.replicate 124 .flowSequenceEnd : List Yaml.Token) ++
    ([.flowMappingEnd, .blockEnd, .streamEnd] : List Yaml.Token)

theorem toList_deepFile : deepFile.toList =
    "metadata: \x7bname: shop, deep: [".toList ++ deepRest := by
  have hparts (before after : String) (cs : List Char) :
      (before ++ String.ofList cs ++ after).toList = before.toList ++ cs ++ after.toList := by
    simp
  have hstart : "metadata: \x7bname: shop, deep: [".toList =
      "metadata: \x7bname: shop, deep: ".toList ++ ['['] := by
    decide +kernel
  refine (hparts _ _ _).trans ?_
  rw [hstart, List.replicate_succ (n := 123), List.replicate_succ' (n := 123)]
  simp only [deepRest, List.append_assoc, List.cons_append, List.nil_append]
  rfl

theorem run_deepStart (fuel : Nat) (rest : List Char) : Yaml.Scanner.run (fuel + 10)
    { cursor := .start ("metadata: \x7bname: shop, deep: [".toList ++ rest) } =
      Yaml.Scanner.run fuel (deepOpened rest) := by
  cbv

theorem tokens?_deepFile : Yaml.tokens? deepFile = some deepTokens := by
  -- At each bracket all candidates are looked at, so only what is around the brackets is evaluated.
  have hlength : ("metadata: \x7bname: shop, deep: [".toList ++ deepRest).length + 2 =
      25 + 2 * 123 + 10 := by decide +kernel
  rw [Yaml.tokens?_of_toList toList_deepFile (by decide +kernel) (by decide +kernel), hlength,
    run_deepStart, Yaml.Scanner.run_brackets 123 25 (List.cons_ne_nil _ _) rfl rfl (by decide) rfl
      (by decide) (by simp)]
  decide +kernel

theorem not_generated_project_loads :
    ((shop plainConfig deepFile).run [] ["generate", "score.yaml"]).result = .ok () ∧
    loaded (((shop plainConfig deepFile).run [] ["generate", "score.yaml"]).files.read []
      projectFile) = .error (.config .undecodable) ∧
    (((shop plainConfig deepFile).run [] ["generate", "score.yaml"]).files.run []
      ["generate", "score.yaml"]).result ≠ .ok () := by
  have hcheck : (shopBuilt? plainConfig deepFile).any
      (fun x => (Project.ofJson? (x.2.2.reread Json.levels)).isNone) = true := by
    unfold shopBuilt? built?
    rw [Workload.parse, Yaml.read?, Yaml.document?, tokens?_deepFile]
    decide +kernel
  obtain ⟨⟨p, source, j⟩, hbuilt, hcheck⟩ := (Option.any_eq_true _ _).mp hcheck
  have hnone : Project.ofJson? (j.reread Json.levels) = none := by simpa using hcheck
  rw [run_shop hbuilt]
  have hread : ((shop plainConfig deepFile).saved [] (j.pretty ++ "\n")).read [] projectFile =
      .ok (j.pretty ++ "\n") := by
    rw [read_projectFile_iff, find?_saved, if_pos rfl]
  have hload : loaded (((shop plainConfig deepFile).saved [] (j.pretty ++ "\n")).read []
      projectFile) = .error (.config .undecodable) := by
    rw [hread, loaded, Project.decode?_pretty (json_shop hbuilt), hnone]
  refine ⟨rfl, hload, ?_⟩
  intro hok
  have hargs : Invocation.ofArguments? none ["generate", "score.yaml"] =
      some ⟨.generate (some "score.yaml") none, none⟩ := by decide
  obtain ⟨_, o, _, _, _, _, hhome, ho, -⟩ := (run_generate_iff hargs).mp (run_of_ok hok)
  cases hhome
  cases hload.symm.trans ho

end FileSystem

end Provision
