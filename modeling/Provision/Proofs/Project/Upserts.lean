import Mathlib.Data.List.Nodup
import Provision.Project
import Provision.Proofs.Outcome

/-!
# Adding workloads

A project whose workloads have distinct names keeps them distinct when workloads are added.
A workload takes the place of the one with its name and leaves all others where they are, so
the names stand in the order in which they were first added, each bound to the last workload
that was added under it.
-/

set_option autoImplicit false

namespace Provision

open Outcome

def Workload.called (name : String) (ws : List Workload) : Option Workload :=
  ws.find? fun w => w.name.toOption = some name

namespace Project

/-- Whether the workloads of a project have these names, none of them twice. -/
structure Named (p : Project) (names : List String) : Prop where
  eq : p.workloads.map Workload.name = names.map .ok
  nodup : names.Nodup

/-- Adds workloads one after another, leaving out those that cannot be added. -/
def upsertAll (p : Project) : List Workload → Project
  | [] => p
  | w :: rest =>
    match p.upsert w with
    | .ok q => q.upsertAll rest
    | .error _ => p.upsertAll rest

theorem upsert_of_name_error {p : Project} {w : Workload} {e : Error} (h : w.name = .error e) :
    p.upsert w = .error e := by
  rw [upsert, h]
  rfl

section Replace

variable {name : String} {w : Workload} {ws : List Workload} {names : List String}

/-- A workload of a new name is added at the end. -/
theorem replace_new (h : ws.map Workload.name = names.map .ok) (hn : name ∉ names) :
    replace name w ws = .ok (ws ++ [w]) := by
  induction ws generalizing names with
  | nil => rfl
  | cons v rest ih =>
    cases names with
    | nil => cases h
    | cons n names =>
      obtain ⟨hv, hrest⟩ := List.cons.inj h
      obtain ⟨hne, hn⟩ := not_or.mp (mt List.mem_cons.mpr hn)
      rw [replace, hv, ih hrest hn]
      simp [bind, Except.bind, pure, Except.pure, Ne.symm hne]

/-- A workload of a known name takes the place of the one that has it. -/
theorem replace_known (h : ws.map Workload.name = names.map .ok) (hn : name ∈ names) :
    ∃ before v after, ws = before ++ v :: after ∧ v.name = .ok name ∧
      (∀ x ∈ before, x.name ≠ .ok name) ∧ replace name w ws = .ok (before ++ w :: after) := by
  induction ws generalizing names with
  | nil =>
    cases names with
    | nil => cases hn
    | cons n names => cases h
  | cons v rest ih =>
    cases names with
    | nil => cases h
    | cons n names =>
      obtain ⟨hv, hrest⟩ := List.cons.inj h
      by_cases heq : n = name
      · subst heq
        refine ⟨[], v, rest, rfl, hv, by simp, ?_⟩
        rw [replace, hv]
        simp [bind, Except.bind, pure, Except.pure]
      · have hmem : name ∈ names := (List.mem_cons.mp hn).resolve_left (Ne.symm heq)
        obtain ⟨before, u, after, rfl, hu, hbefore, hreplace⟩ := ih hrest hmem
        refine ⟨v :: before, u, after, rfl, hu, ?_, ?_⟩
        · rintro x (_ | ⟨_, hx⟩)
          · rw [hv]
            simpa using heq
          · exact hbefore x hx
        · rw [replace, hv, hreplace]
          simp [bind, Except.bind, pure, Except.pure, heq]

end Replace

theorem called_append (name : String) (ws vs : List Workload) :
    Workload.called name (ws ++ vs) = (Workload.called name ws).or (Workload.called name vs) :=
  List.find?_append

theorem called_cons (name other : String) (w : Workload) (ws : List Workload)
    (h : w.name = .ok other) : Workload.called name (w :: ws) =
      if name = other then some w else Workload.called name ws := by
  by_cases hname : name = other
  · simp [Workload.called, h, Except.toOption, hname]
  · have hne : other ≠ name := Ne.symm hname
    simp [Workload.called, h, Except.toOption, hname, hne]

theorem called_eq_none {name : String} {ws : List Workload} (h : ∀ w ∈ ws, w.name ≠ .ok name) :
    Workload.called name ws = none := by
  rw [Workload.called, List.find?_eq_none]
  intro w hw hcalled
  exact h w hw (toOption_eq_some.mp (of_decide_eq_true hcalled))

theorem called_replaced {name : String} {v w : Workload} {before : List Workload}
    (after : List Workload) (hv : v.name = .ok name) (hw : w.name = .ok name)
    (hbefore : ∀ x ∈ before, x.name ≠ .ok name) (other : String) :
    Workload.called other (before ++ w :: after) =
      if other = name then some w else Workload.called other (before ++ v :: after) := by
  rw [called_append, called_append, called_cons other name w after hw,
    called_cons other name v after hv]
  by_cases ho : other = name
  · subst ho
    simp [called_eq_none hbefore]
  · simp [ho]

theorem called_added {name : String} {w : Workload} {ws : List Workload}
    (hw : w.name = .ok name) (hws : ∀ x ∈ ws, x.name ≠ .ok name) (other : String) :
    Workload.called other (ws ++ [w]) =
      if other = name then some w else Workload.called other ws := by
  rw [called_append, called_cons other name w [] hw]
  by_cases ho : other = name
  · subst ho
    simp [called_eq_none hws]
  · simp [ho, Workload.called]

theorem Named.name_ne {p : Project} {names : List String} {name : String} (hp : p.Named names)
    (hn : name ∉ names) : ∀ w ∈ p.workloads, w.name ≠ .ok name := by
  intro w hw hname
  have hmem : Except.ok name ∈ p.workloads.map Workload.name := List.mem_map.mpr ⟨w, hw, hname⟩
  rw [hp.eq] at hmem
  obtain ⟨n, hmem, heq⟩ := List.mem_map.mp hmem
  cases heq
  exact hn hmem

/-- One step: the name comes last if it is new, and all other names stay as they are. -/
theorem upsert_named {p : Project} {names : List String} {w : Workload} {name : String}
    (hp : p.Named names) (hw : w.name = .ok name) :
    ∃ q, p.upsert w = .ok q ∧ q.Named (if name ∈ names then names else names ++ [name]) ∧
      q.workloadComponent = p.workloadComponent ∧ q.library = p.library ∧
      ∀ other, Workload.called other q.workloads =
        if other = name then some w else Workload.called other p.workloads := by
  have hupsert : ∀ ws, replace name w p.workloads = .ok ws →
      p.upsert w = .ok { p with workloads := ws } := by
    intro ws hws
    exact bind_eq_ok.mpr ⟨name, hw, bind_eq_ok.mpr ⟨ws, hws, rfl⟩⟩
  by_cases hn : name ∈ names
  · obtain ⟨before, v, after, hws, hv, hbefore, hreplace⟩ := replace_known (w := w) hp.eq hn
    have hkept : (before ++ w :: after).map Workload.name = p.workloads.map Workload.name := by
      rw [hws]
      simp [hv, hw]
    rw [if_pos hn, hws]
    exact ⟨_, hupsert _ hreplace, ⟨hkept.trans hp.eq, hp.nodup⟩, rfl, rfl,
      called_replaced after hv hw hbefore⟩
  · have hnew : (names ++ [name]).Nodup := by
      rw [List.nodup_append_comm, List.singleton_append]
      exact List.nodup_cons.mpr ⟨hn, hp.nodup⟩
    rw [if_neg hn]
    refine ⟨_, hupsert _ (replace_new hp.eq hn), ⟨?_, hnew⟩, rfl, rfl,
      called_added hw (hp.name_ne hn)⟩
    simp [hp.eq, hw]

theorem eraseDups_of_nodup {names : List String} (h : names.Nodup) : names.eraseDups = names := by
  induction names with
  | nil => rfl
  | cons n rest ih =>
    obtain ⟨hn, hrest⟩ := List.nodup_cons.mp h
    have hfilter : rest.filter (fun m => !m == n) = rest := by
      apply List.filter_eq_self.mpr
      intro m hm
      have hne : m ≠ n := fun heq => hn (heq ▸ hm)
      simpa using hne
    rw [List.eraseDups_cons, hfilter, ih hrest]

/-- A name that is there already changes nothing in the list of names. -/
theorem eraseDups_known {names : List String} {name : String} (h : name ∈ names)
    (rest : List String) : (names ++ name :: rest).eraseDups = (names ++ rest).eraseDups := by
  have hremove : (name :: rest).removeAll names = rest.removeAll names := by
    simp [List.removeAll, h]
  rw [List.eraseDups_append, List.eraseDups_append, hremove]

def namesOf (ws : List Workload) : List String := ws.filterMap fun w => w.name.toOption

/-- After any sequence of additions the names are those of the project and then the new ones,
in the order of their first addition, and each is bound to the last workload added under it. -/
theorem upsertAll_named {p : Project} {names : List String} (hp : p.Named names)
    (ws : List Workload) :
    (p.upsertAll ws).Named (names ++ namesOf ws).eraseDups ∧
      (p.upsertAll ws).workloadComponent = p.workloadComponent ∧
      (p.upsertAll ws).library = p.library ∧
      ∀ name, Workload.called name (p.upsertAll ws).workloads =
        (Workload.called name ws.reverse).or (Workload.called name p.workloads) := by
  induction ws generalizing p names with
  | nil =>
    rw [namesOf, List.filterMap_nil, List.append_nil, eraseDups_of_nodup hp.nodup]
    exact ⟨hp, rfl, rfl, fun _ => rfl⟩
  | cons w rest ih =>
    cases hw : w.name with
    | error e =>
      have hskip : p.upsertAll (w :: rest) = p.upsertAll rest := by
        rw [upsertAll, upsert_of_name_error hw]
      have hnames : namesOf (w :: rest) = namesOf rest := by
        simp [namesOf, hw, Except.toOption]
      have hcalled : ∀ name, Workload.called name (w :: rest).reverse =
          Workload.called name rest.reverse := by
        intro name
        simp [Workload.called, hw, Except.toOption]
      rw [hskip, hnames]
      simp only [hcalled]
      exact ih hp
    | ok name =>
      obtain ⟨q, hq, hnamed, hcomp, hlib, hcalled⟩ := upsert_named hp hw
      have hstep : p.upsertAll (w :: rest) = q.upsertAll rest := by
        rw [upsertAll, hq]
      have hnames : (names ++ namesOf (w :: rest)).eraseDups =
          ((if name ∈ names then names else names ++ [name]) ++ namesOf rest).eraseDups := by
        have hcons : namesOf (w :: rest) = name :: namesOf rest := by
          simp [namesOf, hw, Except.toOption]
        rw [hcons]
        split
        · next hmem => exact eraseDups_known hmem _
        · rw [List.append_assoc, List.singleton_append]
      obtain ⟨hn, hc, hl, hbound⟩ := ih hnamed
      rw [hstep, hnames]
      refine ⟨hn, hc.trans hcomp, hl.trans hlib, ?_⟩
      -- The first workload is the last of the reversed sequence, so it counts only for a name
      -- that no later one has.
      intro other
      rw [hbound, hcalled, List.reverse_cons, called_append, called_cons other name w [] hw]
      by_cases ho : other = name
      · simp [ho]
      · simp [ho, Workload.called]

theorem upsertAll_append (p : Project) (ws vs : List Workload) :
    p.upsertAll (ws ++ vs) = (p.upsertAll ws).upsertAll vs := by
  induction ws generalizing p with
  | nil => rfl
  | cons w rest ih =>
    rw [List.cons_append, upsertAll, upsertAll]
    split
    · exact ih _
    · exact ih _

/-- An addition fails and changes nothing, or succeeds. It fails only for want of a valid name. -/
theorem upsert_cases {p : Project} {names : List String} (hp : p.Named names) (w : Workload) :
    (∃ e, w.name = .error e ∧ p.upsert w = .error e ∧ p.upsertAll [w] = p) ∨
      ∃ name q, w.name = .ok name ∧ p.upsert w = .ok q ∧ p.upsertAll [w] = q := by
  cases hw : w.name with
  | error e =>
    have hupsert : p.upsert w = .error e := upsert_of_name_error hw
    refine .inl ⟨e, rfl, hupsert, ?_⟩
    rw [upsertAll, hupsert]
    rfl
  | ok name =>
    obtain ⟨q, hq, -⟩ := upsert_named hp hw
    refine .inr ⟨name, q, rfl, hq, ?_⟩
    rw [upsertAll, hq]
    rfl

end Project

end Provision
