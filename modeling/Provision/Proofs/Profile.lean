import Mathlib.Data.List.Basic
import Mathlib.Data.List.TakeWhile
import Provision.Component
import Provision.Proofs.Table

/-!
# Profiles

A profile is the written form of a component. One text can be the written form of several
components, because packages and arguments may hold the marks that divide the parts; it
is read as the one with the longest package. A component that is valid holds none of these
marks where they would count, so it is read from its written form as it is.
-/

set_option autoImplicit false

namespace Provision.Component

/-- Whether the parts of a component can be told apart in its written form. -/
structure Readable (c : Component) : Prop where
  package_ne : c.package ≠ ""
  package_newline : '\n' ∉ c.package.toList
  constructor_ne : c.constructor ≠ ""
  constructor_opening : '(' ∉ c.constructor.toList
  constructor_dot : '.' ∉ c.constructor.toList
  argsType_ne : c.argsType ≠ ""
  argsType_closing : ')' ∉ c.argsType.toList

def call (c : Component) : List Char :=
  c.constructor.toList ++ '(' :: (c.argsType.toList ++ [')'])

theorem toList_written (c : Component) :
    c.written.toList = c.package.toList ++ '.' :: c.call := by
  simp [written, call]

/-- Up to a mark and from the mark on: the first mark divides a text. -/
theorem span_iff {mark : Char} {cs first rest : List Char} :
    (cs.takeWhile (· ≠ mark) = first ∧ ∃ c, cs.dropWhile (· ≠ mark) = c :: rest) ↔
      mark ∉ first ∧ cs = first ++ mark :: rest := by
  constructor
  · rintro ⟨rfl, c, hc⟩
    have hmark : c = mark := by
      have hhead := List.head?_dropWhile_not (fun d => decide (d ≠ mark)) cs
      rw [hc] at hhead
      simpa using hhead
    refine ⟨fun hmem => ?_, ?_⟩
    · simpa using List.mem_takeWhile_imp hmem
    · subst hmark
      rw [← hc, List.takeWhile_append_dropWhile]
  · rintro ⟨hfirst, rfl⟩
    have hne : ∀ c ∈ first, decide (c ≠ mark) = true := by
      intro c hc
      exact decide_eq_true fun heq => hfirst (heq ▸ hc)
    rw [List.takeWhile_append_of_pos hne, List.dropWhile_append_of_pos hne]
    simp

theorem append_mark_inj {mark : Char} {xs ys us vs : List Char} (hx : mark ∉ xs)
    (hy : mark ∉ ys) (h : xs ++ mark :: us = ys ++ mark :: vs) : xs = ys ∧ us = vs := by
  obtain ⟨hfirst, c, hrest⟩ := span_iff.mpr ⟨hx, h.symm⟩
  obtain ⟨hfirst', d, hrest'⟩ := span_iff.mpr ⟨hy, (rfl : ys ++ mark :: vs = _)⟩
  rw [hfirst'] at hfirst
  rw [hrest'] at hrest
  exact ⟨hfirst.symm, (List.cons.inj hrest).2.symm⟩

theorem argumentsOf?_eq_some_iff {cs args : List Char} :
    argumentsOf? cs = some args ↔ args ≠ [] ∧ ')' ∉ args ∧ cs = args ++ [')'] := by
  constructor
  · intro h
    unfold argumentsOf? at h
    split at h
    · next rest heq =>
      split at h
      · cases h
      · next hrest =>
        cases h
        simp only [Bool.or_eq_true, List.isEmpty_iff, List.contains_iff_mem, not_or] at hrest
        have hcs : cs = (')' :: rest).reverse := by rw [← heq, List.reverse_reverse]
        exact ⟨by simpa using hrest.1, by simpa using hrest.2, by simpa using hcs⟩
    · cases h
  · rintro ⟨hne, hclosing, rfl⟩
    simp [argumentsOf?, hne, hclosing]

/-- What stands on the two sides of a dot makes up one component, if any. -/
theorem ofParts?_eq_some_iff {package rest : List Char} {c : Component} :
    ofParts? package rest = some c ↔
      c.Readable ∧ c.package.toList = package ∧ c.call = rest := by
  constructor
  · intro h
    unfold ofParts? at h
    simp only at h
    split at h
    · cases h
    next hp =>
    split at h
    · cases h
    next hc =>
    split at h
    · cases h
    next mark args hargs =>
    obtain ⟨args, hread, rfl⟩ := Option.map_eq_some_iff.mp h
    obtain ⟨hne, hclosing, rfl⟩ := argumentsOf?_eq_some_iff.mp hread
    obtain ⟨hopening, hrest⟩ := span_iff.mp ⟨rfl, mark, hargs⟩
    simp only [Bool.or_eq_true, List.isEmpty_iff, List.contains_iff_mem, not_or] at hp hc
    refine ⟨⟨?_, ?_, ?_, ?_, ?_, ?_, ?_⟩, ?_, ?_⟩
    · simpa using hp.1
    · simpa using hp.2
    · simpa using hc.1
    · simpa using hopening
    · simpa using hc.2
    · simpa using hne
    · simpa using hclosing
    · exact String.toList_ofList
    · simp only [call, String.toList_ofList]
      exact hrest.symm
  · rintro ⟨hc, rfl, rfl⟩
    obtain ⟨hfirst, mark, hrest⟩ :=
      span_iff.mpr ⟨hc.constructor_opening, (rfl : c.call = _)⟩
    have hargs : argumentsOf? (c.argsType.toList ++ [')']) = some c.argsType.toList :=
      argumentsOf?_eq_some_iff.mpr ⟨by simpa using hc.argsType_ne, hc.argsType_closing, rfl⟩
    unfold ofParts?
    simp only [hfirst, hrest, hargs]
    simp [hc.package_ne, hc.package_newline, hc.constructor_ne, hc.constructor_dot]

/-! ## The last dot -/

/-- What is read is written as the text, and its package goes on from where reading began. -/
theorem ofChars?_written {before cs : List Char} {c : Component}
    (h : ofChars? before cs = some c) :
    c.Readable ∧ c.written.toList = before.reverse ++ cs ∧ before.length ≤ c.package.length := by
  induction cs generalizing before with
  | nil => cases h
  | cons ch rest ih =>
    rcases Option.or_eq_some_iff.mp h with hlater | ⟨-, hhere⟩
    · obtain ⟨hc, hw, hlen⟩ := ih hlater
      exact ⟨hc, by simpa using hw, Nat.le_of_succ_le hlen⟩
    · split at hhere
      · next hdot =>
        obtain ⟨hc, hpackage, hcall⟩ := ofParts?_eq_some_iff.mp hhere
        refine ⟨hc, by rw [toList_written, hpackage, hcall, hdot], ?_⟩
        rw [← String.length_toList, hpackage, List.length_reverse]
      · cases hhere

/-- A text that a component is written as is read, and as one whose package is not shorter. -/
theorem exists_ofChars? {before cs : List Char} {d : Component} (hd : d.Readable)
    (hw : d.written.toList = before.reverse ++ cs) (hlen : before.length ≤ d.package.length) :
    ∃ c, ofChars? before cs = some c ∧ d.package.length ≤ c.package.length := by
  induction cs generalizing before with
  | nil =>
    have htotal := congrArg List.length hw
    simp only [toList_written, List.length_append, List.length_cons, List.length_reverse,
      List.length_nil, String.length_toList] at htotal
    omega
  | cons ch rest ih =>
    rcases Nat.lt_or_eq_of_le hlen with hlt | heq
    · obtain ⟨c, hc, hle⟩ := @ih (ch :: before) (by simpa using hw) hlt
      exact ⟨c, Option.or_eq_some_iff.mpr (.inl hc), hle⟩
    · -- the package of `d` ends at this dot, and it is the answer if no later dot serves
      rw [toList_written] at hw
      obtain ⟨hpackage, hcall⟩ := List.append_inj hw (by simp [String.length_toList, heq])
      obtain ⟨rfl, rfl⟩ := List.cons.inj hcall
      have hhere : ofParts? before.reverse d.call = some d :=
        ofParts?_eq_some_iff.mpr ⟨hd, hpackage, rfl⟩
      cases hlater : ofChars? ('.' :: before) d.call with
      | none => exact ⟨d, by simp [ofChars?, hlater, hhere], Nat.le_refl _⟩
      | some c =>
        obtain ⟨-, -, hc⟩ := ofChars?_written hlater
        rw [List.length_cons] at hc
        exact ⟨c, by simp [ofChars?, hlater], by omega⟩

/-! ## Valid components -/

theorem mem_splitOn {mark c : Char} {cs : List Char} (h : c ∈ cs) :
    c = mark ∨ ∃ part ∈ cs.splitOn mark, c ∈ part := by
  induction cs with
  | nil => cases h
  | cons d cs ih =>
    rw [List.splitOn_cons_eq_if_modifyHead]
    obtain ⟨part, parts, hparts⟩ := List.exists_cons_of_ne_nil (List.splitOn_ne_nil mark cs)
    rw [hparts] at ih ⊢
    by_cases hd : d = mark
    · rcases List.mem_cons.mp h with rfl | hc
      · exact .inl hd
      · exact (ih hc).imp id fun ⟨p, hp, hmem⟩ => ⟨p, by simp [hd, hp], hmem⟩
    · rw [if_neg (by simpa using hd), List.modifyHead_cons]
      rcases List.mem_cons.mp h with rfl | hc
      · exact .inr ⟨c :: part, by simp, by simp⟩
      · refine (ih hc).imp id fun ⟨p, hp, hmem⟩ => ?_
        rcases List.mem_cons.mp hp with rfl | hp
        · exact ⟨d :: p, by simp, by simp [hmem]⟩
        · exact ⟨p, by simp [hp], hmem⟩

theorem isPathChar_of_isPackagePath {path : String} (h : isPackagePath path = true) :
    path ≠ "" ∧ ∀ c ∈ path.toList, c = '/' ∨ isPathChar c = true := by
  have hall := List.all_eq_true.mp h
  constructor
  · rintro rfl
    cases h
  · intro c hc
    refine (mem_splitOn hc).imp id ?_
    rintro ⟨part, hpart, hmem⟩
    have helement := hall part hpart
    simp only [isPathElement, Bool.and_eq_true] at helement
    exact List.all_eq_true.mp helement.2 c hmem

theorem isAlphanum_of_isExportedName {name : String} (h : isExportedName name = true) :
    name ≠ "" ∧ ∀ c ∈ name.toList, c.isAlphanum = true ∨ c = '_' := by
  unfold isExportedName at h
  split at h
  · cases h
  · next first rest hname =>
    simp only [Bool.and_eq_true, List.all_eq_true, Bool.or_eq_true, decide_eq_true_eq] at h
    constructor
    · rintro rfl
      cases hname
    · rw [hname]
      refine List.forall_mem_cons.mpr ⟨.inl ?_, h.2⟩
      show (first.isUpper || first.isLower || first.isDigit) = true
      rw [h.1, Bool.true_or, Bool.true_or]

theorem of_validate {c : Component} (h : c.validate = .ok ()) :
    isPackagePath c.package = true ∧ isExportedName c.constructor = true ∧
      isExportedName c.argsType = true := by
  have hfault : c.fault? = none := by
    unfold validate at h
    split at h
    · cases h
    · assumption
  unfold fault? at hfault
  split at hfault
  · cases hfault
  next hpackage =>
  split at hfault
  · cases hfault
  next hconstructor =>
  split at hfault
  · cases hfault
  next hargs => exact ⟨by simpa using hpackage, by simpa using hconstructor, by simpa using hargs⟩

/-- The marks that divide a profile do not occur in a valid component, but for dots in the
package. -/
theorem readable_of_validate {c : Component} (h : c.validate = .ok ()) :
    c.Readable ∧ '(' ∉ c.package.toList ∧ '(' ∉ c.argsType.toList := by
  obtain ⟨hpackage, hconstructor, hargs⟩ := of_validate h
  obtain ⟨hpne, hpath⟩ := isPathChar_of_isPackagePath hpackage
  obtain ⟨hcne, hname⟩ := isAlphanum_of_isExportedName hconstructor
  obtain ⟨hane, hargs⟩ := isAlphanum_of_isExportedName hargs
  refine ⟨⟨hpne, ?_, hcne, ?_, ?_, hane, ?_⟩, ?_, ?_⟩
  · exact fun hmem => absurd (hpath _ hmem) (by decide)
  · exact fun hmem => absurd (hname _ hmem) (by decide)
  · exact fun hmem => absurd (hname _ hmem) (by decide)
  · exact fun hmem => absurd (hargs _ hmem) (by decide)
  · exact fun hmem => absurd (hpath _ hmem) (by decide)
  · exact fun hmem => absurd (hargs _ hmem) (by decide)

theorem ext_toList {c d : Component} (hp : c.package.toList = d.package.toList)
    (hc : c.constructor.toList = d.constructor.toList)
    (ha : c.argsType.toList = d.argsType.toList) : c = d := by
  cases c
  cases d
  simp_all [String.toList_inj]

/-- A component whose only opening bracket is the one before its arguments is determined by
its written form. -/
theorem eq_of_written {c d : Component} (hc : c.Readable) (hp : '(' ∉ c.package.toList)
    (ha : '(' ∉ c.argsType.toList) (hd : d.Readable) (h : d.written = c.written) : d = c := by
  have hform : ∀ e : Component, e.written.toList =
      (e.package.toList ++ '.' :: e.constructor.toList) ++ '(' :: (e.argsType.toList ++ [')']) := by
    intro e
    simp [toList_written, call]
  have hchars := congrArg String.toList h.symm
  rw [hform, hform, List.append_cons_inj_of_notMem
    (by simp [hp, hc.constructor_opening]) (by simp [ha])] at hchars
  obtain ⟨hhead, -, hargs⟩ := hchars
  have hback := congrArg List.reverse hhead
  simp only [List.reverse_append, List.reverse_cons, List.append_assoc, List.singleton_append]
    at hback
  -- from the end, the first dot is the one before the constructor
  obtain ⟨hconstructor, hpackage⟩ := append_mark_inj (by simpa using hc.constructor_dot)
    (by simpa using hd.constructor_dot) hback
  exact ext_toList (List.reverse_injective hpackage.symm)
    (List.reverse_injective hconstructor.symm) (List.append_cancel_right hargs.symm)

/-! ## Reading profiles -/

section Reading

variable {text : String} {c d : Component}

theorem ofProfile_eq_ok_iff (ht : text ∉ knownProfiles.map Prod.fst) :
    ofProfile text = .ok c ↔ ofChars? [] text.toList = some c := by
  have hfind : Entries.find? text knownProfiles = none := by
    rw [← Option.not_isSome_iff_eq_none, Entries.find?_isSome_iff]
    exact ht
  have hexpand : expandProfile text = text := by rw [expandProfile, hfind, Option.getD_none]
  rw [ofProfile, hexpand]
  cases ofChars? [] text.toList <;> simp

theorem written_of_ofProfile (ht : text ∉ knownProfiles.map Prod.fst)
    (h : ofProfile text = .ok c) : c.Readable ∧ c.written = text := by
  obtain ⟨hc, hw, -⟩ := ofChars?_written ((ofProfile_eq_ok_iff ht).mp h)
  exact ⟨hc, String.toList_inj.mp hw⟩

theorem exists_ofProfile (ht : text ∉ knownProfiles.map Prod.fst) (hd : d.Readable)
    (hw : d.written = text) :
    ∃ c, ofProfile text = .ok c ∧ d.package.length ≤ c.package.length := by
  obtain ⟨c, hc, hle⟩ := @exists_ofChars? [] text.toList d hd (congrArg String.toList hw)
    (Nat.zero_le _)
  exact ⟨c, (ofProfile_eq_ok_iff ht).mpr hc, hle⟩

/-- A built-in name has no brackets. -/
theorem written_not_known (c : Component) : c.written ∉ knownProfiles.map Prod.fst := by
  intro hmem
  have hname : c.written = "debug" := by simpa [knownProfiles] using hmem
  have hopening : '(' ∈ c.written.toList := by simp [written]
  rw [hname] at hopening
  exact absurd hopening (by decide)

end Reading

/-- A text other than a built-in name is a profile if and only if it is the written form of
some readable component, and of all such components it stands for the one with the longest
package. A valid component is the one that its written form stands for. -/
theorem ofProfile_exact :
    (∀ text : String, text ∉ knownProfiles.map Prod.fst →
      ((∃ c, ofProfile text = .ok c) ↔ ∃ c : Component, c.Readable ∧ c.written = text) ∧
      ∀ c, ofProfile text = .ok c → c.Readable ∧ c.written = text ∧
        ∀ d : Component, d.Readable → d.written = text → d.package.length ≤ c.package.length) ∧
    ∀ c : Component, c.validate = .ok () → ofProfile c.written = .ok c := by
  refine ⟨fun text ht => ⟨⟨?_, ?_⟩, ?_⟩, fun c hc => ?_⟩
  · rintro ⟨c, hc⟩
    exact ⟨c, written_of_ofProfile ht hc⟩
  · rintro ⟨d, hd, hw⟩
    obtain ⟨c, hc, -⟩ := exists_ofProfile ht hd hw
    exact ⟨c, hc⟩
  · intro c hc
    obtain ⟨hread, hw⟩ := written_of_ofProfile ht hc
    refine ⟨hread, hw, fun d hd hdw => ?_⟩
    obtain ⟨e, he, hle⟩ := exists_ofProfile ht hd hdw
    cases hc.symm.trans he
    exact hle
  · obtain ⟨hread, hp, ha⟩ := readable_of_validate hc
    have hknown := c.written_not_known
    obtain ⟨d, hd, -⟩ := exists_ofProfile hknown hread rfl
    obtain ⟨hdread, hdw⟩ := written_of_ofProfile hknown hd
    rw [hd, eq_of_written hread hp ha hdread hdw]

def bracketed : Component := ⟨"a.b", "c", "d.e(f"⟩

def dotted : Component := ⟨"gopkg.in/yaml.v3", "NewDoc", "Doc_Args"⟩

theorem bracketed_readable : bracketed.Readable :=
  ⟨by decide, by decide, by decide, by decide, by decide, by decide, by decide⟩

theorem ofProfile_exact_bracketed :
    bracketed.Readable ∧ (∃ c, ofProfile bracketed.written = .ok c ∧ c ≠ bracketed ∧
      c.written = bracketed.written ∧ bracketed.package.length ≤ c.package.length) ∧
    dotted.validate = .ok () ∧ ofProfile dotted.written = .ok dotted := by
  obtain ⟨hexact, hvalid⟩ := ofProfile_exact
  obtain ⟨hiff, hlongest⟩ := hexact bracketed.written (by decide)
  obtain ⟨c, hc⟩ := hiff.mpr ⟨bracketed, bracketed_readable, rfl⟩
  obtain ⟨-, hw, hle⟩ := hlongest c hc
  refine ⟨bracketed_readable, ⟨c, hc, ?_, hw, hle bracketed bracketed_readable rfl⟩, rfl,
    hvalid dotted rfl⟩
  have heval : ofProfile bracketed.written = .ok ⟨"a.b.c(d", "e", "f"⟩ := by decide
  cases heval.symm.trans hc
  decide

end Provision.Component
