import Mathlib.Data.List.Basic
import Provision.Files
import Provision.Proofs.Outcome

/-!
# Changes to file systems

What a change leaves behind is stated through look-ups, place by place. A file that is named
from the working directory itself is found whatever else there is.
-/

set_option autoImplicit false

namespace Provision.FileSystem

open Outcome

theorem find?_erase (fs : FileSystem) (place other : List String) (h : place ≠ []) :
    (fs.erase place).find? other = if other = place then none else fs.find? other := by
  by_cases ho : other = place
  · subst ho
    simp [find?, erase, h, List.find?_filter]
  · have hsame : (fs.entries.filter fun e => e.1 ≠ place).find? (fun e => e.1 = other) =
        fs.entries.find? fun e => e.1 = other := by
      rw [List.find?_filter]
      congr 1
      funext e
      by_cases he : e.1 = other <;> simp [he, ho]
    rw [if_neg ho, find?, find?, erase, hsame]

theorem find?_put (fs : FileSystem) (place other : List String) (entry : FileEntry)
    (h : place ≠ []) :
    (fs.put place entry).find? other = if other = place then some entry else fs.find? other := by
  by_cases ho : other = place
  · subst ho
    simp [find?, put, h]
  · have hskip : (fs.put place entry).find? other = (fs.erase place).find? other := by
      simp [find?, put, Ne.symm ho]
    rw [hskip, find?_erase fs place other h, if_neg ho, if_neg ho]

/-! ## Trees -/

theorem find?_eraseTree (fs : FileSystem) (place other : List String) (h : place ≠ []) :
    (fs.eraseTree place).find? other = if place <+: other then none else fs.find? other := by
  by_cases hbelow : place <+: other
  · have hother : other ≠ [] := by
      rintro rfl
      exact h (List.prefix_nil.mp hbelow)
    have hgone : (fs.eraseTree place).entries.find? (fun e => e.1 = other) = none := by
      rw [List.find?_eq_none]
      intro e he heq
      have hoff := (List.mem_filter.mp he).2
      rw [of_decide_eq_true heq, List.isPrefixOf_iff_prefix.mpr hbelow] at hoff
      cases hoff
    rw [if_pos hbelow, find?, if_neg (by simpa using hother), hgone]
    rfl
  · have hkept : place.isPrefixOf other = false := by
      rwa [Bool.eq_false_iff, ne_eq, List.isPrefixOf_iff_prefix]
    have hsame : (fs.eraseTree place).entries.find? (fun e => e.1 = other) =
        fs.entries.find? fun e => e.1 = other := by
      rw [eraseTree, List.find?_filter]
      congr 1
      funext e
      by_cases he : e.1 = other <;> simp [he, hkept]
    rw [if_neg hbelow, find?, find?, hsame]

theorem find?_ensure (fs : FileSystem) (place other : List String) :
    (fs.ensure place).find? other =
      if other = place ∧ fs.find? other = none then some .directory else fs.find? other := by
  unfold ensure
  by_cases hnone : fs.find? place = none
  · have hplace : place ≠ [] := by
      rintro rfl
      cases hnone
    rw [hnone, if_neg (by simp), find?_put _ _ _ _ hplace]
    by_cases ho : other = place <;> simp [ho, hnone]
  · rw [if_pos (Option.isSome_iff_ne_none.mpr hnone), if_neg]
    rintro ⟨rfl, hother⟩
    exact hnone hother

theorem find?_foldl_ensure (fs : FileSystem) (places : List (List String)) (other : List String) :
    (places.foldl ensure fs).find? other =
      if other ∈ places ∧ fs.find? other = none then some .directory else fs.find? other := by
  induction places generalizing fs with
  | nil => simp
  | cons place rest ih =>
    rw [List.foldl_cons, ih, find?_ensure]
    by_cases ho : other = place
    · cases hfind : fs.find? other <;> simp [ho]
    · simp [ho]

theorem mem_map_take_iff {place other : List String} :
    other ∈ (List.range place.length).map place.take ↔ other <+: place ∧ other ≠ place := by
  rw [List.mem_map]
  constructor
  · rintro ⟨n, hn, rfl⟩
    refine ⟨List.take_prefix n place, fun heq => ?_⟩
    have hlen := congrArg List.length heq
    rw [List.length_take] at hlen
    have := List.mem_range.mp hn
    omega
  · rintro ⟨hle, hne⟩
    refine ⟨other.length, List.mem_range.mpr ?_, (List.prefix_iff_eq_take.mp hle).symm⟩
    exact Nat.lt_of_le_of_ne hle.length_le fun hlen => hne (hle.eq_of_length hlen)

/-- An entry is put at its place, with directories on the way where nothing was. -/
theorem find?_putWithParents (fs : FileSystem) (place other : List String) (entry : FileEntry)
    (h : place ≠ []) :
    (fs.putWithParents place entry).find? other =
      if other = place then some entry
      else if other <+: place ∧ fs.find? other = none then some .directory
      else fs.find? other := by
  rw [putWithParents, find?_put _ _ _ _ h, find?_foldl_ensure]
  by_cases ho : other = place
  · rw [if_pos ho, if_pos ho]
  · simp only [mem_map_take_iff, ho, if_false, ne_eq, not_false_eq_true, and_true]

/-- The names in a listing lead from the directory to the entries below it. -/
theorem mem_listing {fs : FileSystem} {dir names : List String} {entry : FileEntry} :
    (names, entry) ∈ fs.listing dir ↔ names ≠ [] ∧ (dir ++ names, entry) ∈ fs.entries := by
  unfold listing
  simp only [List.mem_mergeSort, List.mem_map, List.mem_filter, Bool.and_eq_true,
    List.isPrefixOf_iff_prefix, decide_eq_true_eq, Prod.mk.injEq]
  constructor
  · rintro ⟨⟨place, e⟩, ⟨hmem, ⟨more, rfl⟩, hne⟩, rfl, rfl⟩
    simp only [List.drop_left] at *
    exact ⟨by simpa using hne, hmem⟩
  · rintro ⟨hne, hmem⟩
    exact ⟨_, ⟨hmem, List.prefix_append dir names, by simpa using hne⟩, List.drop_left, rfl⟩

/-! ## Paths -/

theorem locate_named_ne_nil {fs : FileSystem} {here : List String} {path : String} {l : Location}
    (h : fs.locate here path = .ok l) (hn : l.named = true) : l.place ≠ [] := by
  unfold locate at h
  split at h
  · split at h
    · cases h
    · cases pure_eq_ok.mp h
      cases hn
  · next last before _ =>
    obtain ⟨parent, -, h⟩ := bind_eq_ok.mp h
    by_cases hdot : last = "."
    · simp only [hdot, if_true] at h
      cases pure_eq_ok.mp h
      cases hn
    · by_cases hdots : last = ".."
      · simp only [hdots, if_true] at h
        cases pure_eq_ok.mp h
        cases hn
      · simp only [hdot, hdots, if_false] at h
        cases pure_eq_ok.mp h
        simp

/-- A file can be written where a path ends in a name that is not that of a directory. -/
theorem writable_eq_ok_iff {fs : FileSystem} {here place : List String} {path : String} :
    fs.writable here path = .ok place ↔ fs.locate here path = .ok ⟨place, true, false⟩ ∧
      fs.find? place ≠ some .directory := by
  unfold writable
  cases hl : fs.locate here path with
  | error cause => simp [bind, Except.bind]
  | ok l =>
    obtain ⟨there, named, slash⟩ := l
    cases named with
    | false => cases slash <;> simp [bind, Except.bind, throw, throwThe, MonadExceptOf.throw]
    | true =>
      cases slash with
      | true => simp [bind, Except.bind, throw, throwThe, MonadExceptOf.throw]
      | false =>
        by_cases hdir : fs.find? there = some .directory
        · have hplace : there = place → fs.find? place = some .directory := fun heq => heq ▸ hdir
          simpa [bind, Except.bind, throw, throwThe, MonadExceptOf.throw, hdir] using hplace
        · have hplace : there = place → fs.find? place ≠ some .directory := fun heq => heq ▸ hdir
          simpa [bind, Except.bind, pure, Except.pure, hdir] using hplace

theorem writable_ne_nil {fs : FileSystem} {here place : List String} {path : String}
    (h : fs.writable here path = .ok place) : place ≠ [] :=
  locate_named_ne_nil (writable_eq_ok_iff.mp h).1 rfl

/-- A name in the working directory leads there from every file system. -/
theorem locate_named (fs : FileSystem) (here : List String) (path name : String)
    (hnames : names path = [".", name]) (hhead : path.toList.head? ≠ some '/')
    (hlast : path.toList.getLast? ≠ some '/') (hdot : name ≠ ".") (hdots : name ≠ "..") :
    fs.locate here path = .ok ⟨here ++ [name], true, false⟩ := by
  simp [locate, hnames, origin, hhead, hlast, walk, hdot, hdots, bind, Except.bind, pure,
    Except.pure]

theorem read_eq_ok_iff {fs : FileSystem} {here : List String} {path text : String} :
    fs.read here path = .ok text ↔ ∃ l, fs.locate here path = .ok l ∧ l.slash = false ∧
      fs.find? l.place = some (.file (.text text)) := by
  unfold read
  cases hl : fs.locate here path with
  | error cause => simp [bind, Except.bind]
  | ok l =>
    obtain ⟨place, named, slash⟩ := l
    cases hfind : fs.find? place with
    | none => simp [bind, Except.bind, throw, throwThe, MonadExceptOf.throw, hfind]
    | some entry =>
      cases entry with
      | directory => simp [bind, Except.bind, throw, throwThe, MonadExceptOf.throw, hfind]
      | file c =>
        cases slash <;> cases c <;>
          simp [bind, Except.bind, throw, throwThe, MonadExceptOf.throw, pure, Except.pure, hfind]

theorem rename_eq_ok_iff {fs after : FileSystem} {here : List String} {source target : String} :
    fs.rename here source target = .ok after ↔
      ∃ l entry place, fs.locate here source = .ok l ∧ fs.find? l.place = some entry ∧
        fs.writable here target = .ok place ∧ after = (fs.erase l.place).put place entry := by
  unfold rename
  cases hl : fs.locate here source with
  | error cause => simp [bind, Except.bind]
  | ok l =>
    cases hfind : fs.find? l.place with
    | none => simp [bind, Except.bind, throw, throwThe, MonadExceptOf.throw, hfind]
    | some entry =>
      cases hw : fs.writable here target with
      | error cause => simp [bind, Except.bind, hfind]
      | ok place => simp [bind, Except.bind, pure, Except.pure, hfind, eq_comm]

theorem remove_eq_ok_iff {fs after : FileSystem} {here : List String} {path : String} :
    fs.remove here path = .ok after ↔
      ∃ l c, fs.locate here path = .ok l ∧ l.slash = false ∧ fs.find? l.place = some (.file c) ∧
        after = fs.erase l.place := by
  unfold remove
  cases hl : fs.locate here path with
  | error cause => simp [bind, Except.bind]
  | ok l =>
    obtain ⟨place, named, slash⟩ := l
    cases hfind : fs.find? place with
    | none => simp [bind, Except.bind, throw, throwThe, MonadExceptOf.throw, hfind]
    | some entry =>
      cases entry with
      | directory => simp [bind, Except.bind, throw, throwThe, MonadExceptOf.throw, hfind]
      | file c =>
        cases slash <;>
          simp [bind, Except.bind, throw, throwThe, MonadExceptOf.throw, pure, Except.pure, hfind,
            @eq_comm _ after]

/-! ## Directories -/

def SameDirectories (fs other : FileSystem) : Prop :=
  ∀ place, fs.find? place = some .directory ↔ other.find? place = some .directory

section SameDirectories

variable {fs other : FileSystem} (hsame : SameDirectories fs other) {here : List String}
include hsame

theorem walk_eq_ok {names place : List String} (h : fs.walk here names = .ok place) :
    other.walk here names = .ok place := by
  induction names generalizing here with
  | nil => exact h
  | cons name rest ih =>
    rw [walk] at h ⊢
    by_cases hdot : name = "."
    · rw [if_pos hdot] at h ⊢
      exact ih h
    · rw [if_neg hdot] at h ⊢
      by_cases hdots : name = ".."
      · rw [if_pos hdots] at h ⊢
        exact ih h
      · rw [if_neg hdots] at h ⊢
        split at h
        · next hdir =>
          rw [(hsame _).mp hdir]
          exact ih h
        · cases h
        · cases h

theorem locate_eq_ok {path : String} {l : Location} (h : fs.locate here path = .ok l) :
    other.locate here path = .ok l := by
  unfold locate at h ⊢
  split at h
  · exact h
  · obtain ⟨parent, hparent, h⟩ := bind_eq_ok.mp h
    rw [walk_eq_ok hsame hparent]
    exact h

theorem enter_eq_ok {path : String} {place : List String} (h : fs.enter here path = .ok place) :
    other.enter here path = .ok place := by
  obtain ⟨l, hl, h⟩ := bind_eq_ok.mp h
  refine bind_eq_ok.mpr ⟨l, locate_eq_ok hsame hl, ?_⟩
  split at h
  · cases h
  · next hdir =>
    rw [(hsame _).mp hdir]
    exact h
  · cases h

end SameDirectories

end Provision.FileSystem
