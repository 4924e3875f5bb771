import Mathlib.Data.List.Basic
import Provision.Proofs.Frames
import Provision.Proofs.Scope.Resolution
import Provision.Workload.Params

/-!
# Mounted files in the parameters of a workload

A mounted file is one record among others in the parameters of a workload, and the flag that
is to keep its content from being expanded is one more entry of that record. With another file
in its place the parameters are the same around it.
-/

set_option autoImplicit false

namespace Provision

open Outcome

def MountedFile.value (f : MountedFile) : Value :=
  .map ((f.content.toList.map fun s => ("content", Value.string s)) ++
    (f.mode.toList.map fun s => ("mode", Value.string s)) ++
    (f.noExpand.toList.map fun b => ("noExpand", Value.bool b)) ++
    (f.source.toList.map fun s => ("source", Value.string s)) ++ [("target", .string f.target)])

theorem MountedFile.normalize_json (f : MountedFile) (path : String) :
    f.json.sorted.normalize path = .ok f.value := by
  obtain ⟨target, mode, source, content, noExpand⟩ := f
  cases mode <;> cases source <;> cases content <;> cases noExpand <;>
    simp only [json, value, Json.member, Json.sorted, Json.sortedMembers, Entries.ofList,
      Entries.put, Json.normalize, Json.normalizeMembers, bind, Except.bind, pure, Except.pure,
      Option.toList, List.map, List.foldl, List.append_nil, List.nil_append, List.cons_append,
      String.reduceLT, String.reduceEq, if_true, if_false]

def MountedFile.holding (f : MountedFile) (content : String) (flag : Option Bool) : MountedFile :=
  { f with content := some content, noExpand := flag }

/-- The flag is no string, so that it does not count where strings are gone through. -/
theorem MountedFile.strings_holding (f : MountedFile) (s : String) (flag : Option Bool) :
    (f.holding s flag).value.strings =
      s :: (f.mode.toList ++ f.source.toList ++ [f.target]) := by
  obtain ⟨target, mode, source, content, noExpand⟩ := f
  cases mode <;> cases source <;> cases flag <;> rfl

def Container.mount (c : Container) (i : Nat) (f : MountedFile) : Container :=
  { c with files := c.files.map fun fs => fs.set i f }

namespace Workload

def mount (w : Workload) (key : String) (i : Nat) (f : MountedFile) : Workload :=
  match w.containers.find? key with
  | none => w
  | some c => { w with containers := w.containers.insert key (c.mount i f) }

/-- Whether a container of the workload mounts a file in this place. -/
def Mounts (w : Workload) (key : String) (i : Nat) (f : MountedFile) : Prop :=
  ∃ c fs, w.containers.find? key = some c ∧ c.files = some fs ∧ fs[i]? = some f

section Frame

variable (w : Workload) (key : String) (i : Nat) (f : MountedFile)

@[simp] theorem metadata_mount : (w.mount key i f).metadata = w.metadata := by
  unfold mount
  split <;> rfl

@[simp] theorem resources_mount : (w.mount key i f).resources = w.resources := by
  unfold mount
  split <;> rfl

@[simp] theorem service_mount : (w.mount key i f).service = w.service := by
  unfold mount
  split <;> rfl

@[simp] theorem name_mount : (w.mount key i f).name = w.name := by
  simp only [name, metadata_mount]

end Frame

end Workload

theorem Workload.mount_self {w : Workload} {key : String} {i : Nat} {f : MountedFile}
    (h : w.Mounts key i f) : w.mount key i f = w := by
  obtain ⟨c, fs, hc, hfs, hi⟩ := h
  have hset : fs.set i f = fs := by
    obtain ⟨hlt, rfl⟩ := List.getElem?_eq_some_iff.mp hi
    exact List.set_getElem_self hlt
  have hmount : c.mount i f = c := by
    simp only [Container.mount, hfs, Option.map_some, hset]
    rw [← hfs]
  have hinsert : w.containers.insert key c = w.containers := by
    refine Table.ext_find? fun other x => ?_
    rw [Table.find?_insert]
    by_cases ho : other = key
    · subst ho
      rw [if_pos rfl, hc]
    · rw [if_neg ho]
  simp only [mount, hc, hmount, hinsert]

/-! ## Documents -/

namespace Json

theorem keys_member {α : Type} {name key : String} {write : α → Json} {x : Option α}
    (h : key ∈ (member name write x).map Prod.fst) : key = name := by
  cases x with
  | none => cases h
  | some x => simpa [member] using h

theorem keys_encodeMember {α : Type} {name key : String} {write : α → Except ShapeFault Json}
    {x : Option α} {ms : List (String × Json)} (hm : encodeMember name write x = .ok ms)
    (h : key ∈ ms.map Prod.fst) : key = name := by
  cases x with
  | none =>
    cases hm
    cases h
  | some x =>
    obtain ⟨j, -, hm⟩ := bind_eq_ok.mp hm
    cases pure_eq_ok.mp hm
    simpa using h

theorem encodeEntries_traverses {α : Type} (write : α → Except ShapeFault Json) :
    TraversesEntries (encodeEntries write) (fun _ => write) id :=
  ⟨rfl, fun _ _ _ => rfl⟩

end Json

open Json

/-- The document of a container does not depend on a file but for the record of the file. -/
theorem Container.json_mount {c : Container} {fs : List MountedFile} {i : Nat}
    {g : MountedFile} {j : Json} (hfs : c.files = some fs) (hi : i < fs.length)
    (h : (c.mount i g).json = .ok j) :
    ∃ frames : List (Frame Json), frames.map Frame.step = [.key "files", .index i] ∧
      (∀ f ∈ frames, f.Unique) ∧ ∀ f, (c.mount i f).json = .ok (framed frames f.json) := by
  obtain ⟨liveness, hl, h⟩ := bind_eq_ok.mp h
  obtain ⟨readiness, hr, -⟩ := bind_eq_ok.mp h
  let before := ("image", string c.image) :: member "command" texts c.command
    ++ member "args" texts c.args ++ member "variables" (ofTable string) c.environment
  let after := member "volumes" (fun vs => array (vs.map Volume.json)) c.volumes
    ++ member "resources" Allotment.json c.resources ++ liveness ++ readiness
  refine ⟨[.entry "files" before after,
    .item ((fs.take i).map MountedFile.json) ((fs.drop (i + 1)).map MountedFile.json)], ?_, ?_, ?_⟩
  · simp [Frame.step, Nat.min_eq_left (Nat.le_of_lt hi)]
  · refine List.forall_mem_cons.mpr ⟨⟨?_, ?_⟩, by simp [Frame.Unique]⟩
    · intro hmem
      simp only [before, List.map_append, List.map_cons, List.mem_append, List.mem_cons] at hmem
      rcases hmem with ((hkey | hkey) | hkey) | hkey
      · exact absurd hkey (by decide)
      · exact absurd (keys_member hkey) (by decide)
      · exact absurd (keys_member hkey) (by decide)
      · exact absurd (keys_member hkey) (by decide)
    · intro hmem
      simp only [after, List.map_append, List.mem_append] at hmem
      rcases hmem with ((hkey | hkey) | hkey) | hkey
      · exact absurd (keys_member hkey) (by decide)
      · exact absurd (keys_member hkey) (by decide)
      · exact absurd (keys_encodeMember hl hkey) (by decide)
      · exact absurd (keys_encodeMember hr hkey) (by decide)
  · intro f
    refine bind_eq_ok.mpr ⟨liveness, hl, bind_eq_ok.mpr ⟨readiness, hr, ?_⟩⟩
    simp [Container.mount, hfs, member, framed, before, after, List.set_eq_take_append_cons_drop,
      hi, pure, Except.pure]

namespace Workload

theorem containers_mount {w : Workload} {key : String} {i : Nat} {c : Container}
    (hc : w.containers.find? key = some c) :
    ∃ before after, ∀ f : MountedFile,
      (w.mount key i f).containers.entries = before ++ (key, c.mount i f) :: after := by
  obtain ⟨before, after, hput⟩ := Entries.put_eq_append key w.containers.entries
  refine ⟨before, after, fun f => ?_⟩
  simp only [mount, hc]
  exact hput (c.mount i f)

/-- The documents of the containers differ only in the record of the file. -/
theorem encodeTable_mount {w : Workload} {key : String} {i : Nat} {c : Container}
    {fs : List MountedFile} {g : MountedFile} {j : Json} (hc : w.containers.find? key = some c)
    (hfs : c.files = some fs) (hi : i < fs.length)
    (h : encodeTable Container.json (w.mount key i g).containers = .ok j) :
    ∃ frames : List (Frame Json), frames.map Frame.step = [.key key, .key "files", .index i] ∧
      (∀ f ∈ frames, f.Unique) ∧ ∀ f,
        encodeTable Container.json (w.mount key i f).containers = .ok (framed frames f.json) := by
  obtain ⟨before, after, hentries⟩ := containers_mount (i := i) hc
  have ht := encodeEntries_traverses Container.json
  obtain ⟨ms, hms, -⟩ := bind_eq_ok.mp h
  rw [hentries] at hms
  obtain ⟨first, x, last, hfirst, hx, hlast, -⟩ := ht.append_eq_ok.mp hms
  obtain ⟨frames, hsteps, hunique, hjson⟩ := Container.json_mount hfs hi hx
  have hkeys : (Frame.entry key before after).Unique := by
    have hascending := (w.mount key i g).containers.ascending
    rw [hentries] at hascending
    exact hascending.unique
  refine ⟨.entry key first last :: frames, by simp [Frame.step, hsteps],
    List.forall_mem_cons.mpr ⟨?_, hunique⟩, fun f => ?_⟩
  · exact ⟨ht.keys_eq hfirst ▸ hkeys.1, ht.keys_eq hlast ▸ hkeys.2⟩
  · refine bind_eq_ok.mpr ⟨first ++ (key, framed frames f.json) :: last, ?_, rfl⟩
    rw [hentries]
    exact ht.append_eq_ok.mpr ⟨first, _, last, hfirst, hjson f, hlast, rfl⟩

/-- The trees of the containers differ only in the record of the file. -/
theorem treeOf_mount {w : Workload} {key : String} {i : Nat} {g h : MountedFile} {v : Value}
    (hg : w.Mounts key i g)
    (hv : treeOf "containers" (encodeTable Container.json (w.mount key i h).containers) = .ok v) :
    ∃ outer : List (Frame Value), outer.map Frame.step = [.key key, .key "files", .index i] ∧
      (∀ f ∈ outer, f.Unique) ∧ ∀ f,
        treeOf "containers" (encodeTable Container.json (w.mount key i f).containers) =
          .ok (Value.framed outer f.value) := by
  obtain ⟨c, fs, hc, hfs, hfile⟩ := hg
  have hi : i < fs.length := (List.getElem?_eq_some_iff.mp hfile).1
  cases hj : encodeTable Container.json (w.mount key i h).containers with
  | error cause =>
    rw [hj] at hv
    cases hv
  | ok j =>
    -- Written, sorted and read: each time new frames that lead to the same place.
    obtain ⟨frames, hsteps, hunique, henc⟩ := encodeTable_mount hc hfs hi hj
    obtain ⟨inOrder, hsteps', hunique', hsorted⟩ := sorted_framed hunique
    have hread : (framed inOrder h.json.sorted).normalize "containers" = .ok v := by
      rw [henc, treeOf, hsorted] at hv
      exact hv
    obtain ⟨outer, hsteps'', hunique'', hvalue⟩ := normalize_framed hunique' hread
    refine ⟨outer, by rw [hsteps'', hsteps', hsteps], hunique'', fun f => ?_⟩
    rw [henc, treeOf, hsorted]
    exact hvalue _ _ (f.normalize_json _)

def paramsAround (outer : List (Frame Value)) (rest : List (String × Value)) (f : MountedFile) :
    List (String × Value) :=
  ("containers", Value.framed outer f.value) :: rest

/-- Whether these frames and entries are what stands around a file in this place, whatever the
file is. -/
structure Surrounds (w : Workload) (key : String) (i : Nat) (outer : List (Frame Value))
    (rest : List (String × Value)) : Prop where
  steps : outer.map Frame.step = [.key key, .key "files", .index i]
  unique : ∀ f ∈ outer, f.Unique
  params : ∀ f, ∃ ps : Table Value, (w.mount key i f).params = .ok ps ∧
    ps.entries = paramsAround outer rest f

/-- The parameters of a workload differ only in the record of the file. -/
theorem exists_surrounds {w : Workload} {key : String} {i : Nat} {g h : MountedFile}
    {ps : Table Value} (hg : w.Mounts key i g) (hps : (w.mount key i h).params = .ok ps) :
    ∃ outer rest, w.Surrounds key i outer rest := by
  obtain ⟨metadata, hm, hps⟩ := bind_eq_ok.mp hps
  obtain ⟨containers, htree, hps⟩ := bind_eq_ok.mp hps
  obtain ⟨outer, hsteps, hunique, hcontainers⟩ := treeOf_mount hg htree
  rw [metadata_mount] at hm
  cases hs : w.service with
  | none =>
    refine ⟨outer, [("metadata", metadata)], hsteps, hunique, fun f => ?_⟩
    rw [params, metadata_mount, service_mount, hm, hcontainers, hs]
    exact ⟨_, rfl, by simp only [paramsAround, Table.ofList, Entries.ofList, Entries.put, List.foldl,
      String.reduceLT, if_true]⟩
  | some s =>
    rw [service_mount, hs] at hps
    obtain ⟨service, hservice, -⟩ := bind_eq_ok.mp hps
    refine ⟨outer, [("metadata", metadata), ("service", service)], hsteps, hunique, fun f => ?_⟩
    rw [params, metadata_mount, service_mount, hm, hcontainers, hs]
    exact ⟨_, bind_eq_ok.mpr ⟨metadata, rfl, bind_eq_ok.mpr ⟨_, rfl,
      bind_eq_ok.mpr ⟨service, hservice, rfl⟩⟩⟩,
      by simp only [paramsAround, Table.insert, Table.ofList, Entries.ofList, Entries.put,
        List.foldl, String.reduceLT, String.reduceEq, if_true, if_false]⟩

end Workload

/-! ## Strings -/

namespace Value

theorem stringsOfItems_append (vs us : List Value) :
    stringsOfItems (vs ++ us) = stringsOfItems vs ++ stringsOfItems us := by
  induction vs with
  | nil => rfl
  | cons v rest ih => simp [stringsOfItems, ih]

theorem stringsOfEntries_append (es fs : List (String × Value)) :
    stringsOfEntries (es ++ fs) = stringsOfEntries es ++ stringsOfEntries fs := by
  induction es with
  | nil => rfl
  | cons e rest ih => simp [stringsOfEntries, ih]

/-- The strings around a part do not depend on it. -/
theorem strings_framed (frames : List (Frame Value)) :
    ∃ before after, ∀ v, (framed frames v).strings = before ++ v.strings ++ after := by
  induction frames with
  | nil => exact ⟨[], [], fun v => by simp [framed]⟩
  | cons f rest ih =>
    obtain ⟨first, last, h⟩ := ih
    cases f with
    | item before after =>
      refine ⟨stringsOfItems before ++ first, last ++ stringsOfItems after, fun v => ?_⟩
      simp [framed, strings, stringsOfItems_append, stringsOfItems, h]
    | entry key before after =>
      refine ⟨stringsOfEntries before ++ first, last ++ stringsOfEntries after, fun v => ?_⟩
      simp [framed, strings, stringsOfEntries_append, stringsOfEntries, h]

end Value

/-- Among the strings of the parameters the content of a file is one, and the others do not
depend on it. -/
theorem Workload.strings_paramsAround (outer : List (Frame Value)) (rest : List (String × Value))
    (f : MountedFile) :
    ∃ before after, ∀ content flag,
      Value.stringsOfEntries (paramsAround outer rest (f.holding content flag)) =
        before ++ content :: after := by
  obtain ⟨before, after, h⟩ := Value.strings_framed outer
  refine ⟨before, f.mode.toList ++ f.source.toList ++ [f.target] ++ after ++
    Value.stringsOfEntries rest, fun content flag => ?_⟩
  simp [paramsAround, Value.stringsOfEntries, h, MountedFile.strings_holding]

end Provision
