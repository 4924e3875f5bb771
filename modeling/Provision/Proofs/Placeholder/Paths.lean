import Mathlib.Data.List.Basic
import Provision.Placeholder.Template

/-!
# Segments of a path

A path is cut at its dots, and a dot with a backslash before it belongs to a segment. So a
path is determined by its segments: it is these segments with their own dots escaped and a
dot between any two. What cannot be written this way is a segment that ends in a backslash
and is not the last one, because that backslash would escape the dot behind it.
-/

set_option autoImplicit false

namespace Provision.Placeholder

def escapeDots (s : List Char) : List Char :=
  s.flatMap fun c => if c = '.' then ['\\', '.'] else [c]

def joinChars (segments : List (List Char)) : List Char :=
  ['.'].intercalate (segments.map escapeDots)

def joinSegments (segments : List String) : String :=
  String.ofList (joinChars (segments.map String.toList))

def Separable (segments : List (List Char)) : Prop :=
  ∀ s ∈ segments.dropLast, s.getLast? ≠ some '\\'

/-! ## Cutting one character off -/

theorem splitChars_escape (rest : List Char) :
    splitChars ('\\' :: '.' :: rest) = extendHead '.' (splitChars rest) := rfl

theorem splitChars_dot (rest : List Char) : splitChars ('.' :: rest) = [] :: splitChars rest := rfl

theorem splitChars_char {c : Char} {rest : List Char} (hc : c ≠ '.')
    (h : c = '\\' → rest.head? ≠ some '.') :
    splitChars (c :: rest) = extendHead c (splitChars rest) := by
  rw [splitChars]
  · rw [if_neg hc]
  · rintro more rfl rfl
    exact h rfl rfl

/-- A text is cut into a first segment and others. -/
theorem exists_splitChars (cs : List Char) : ∃ s rest, splitChars cs = s :: rest := by
  fun_induction splitChars cs with
  | case1 => exact ⟨[], [], rfl⟩
  | case2 rest ih =>
    obtain ⟨s, more, h⟩ := ih
    exact ⟨'.' :: s, more, by rw [h, extendHead]⟩
  | case3 rest => exact ⟨[], splitChars rest, rfl⟩
  | case4 c rest _ _ ih =>
    obtain ⟨s, more, h⟩ := ih
    exact ⟨c :: s, more, by rw [h, extendHead]⟩

/-- If the first segment is empty and not the last, the text starts with a dot. -/
theorem head?_of_splitChars {cs s : List Char} {rest : List (List Char)}
    (h : splitChars cs = [] :: s :: rest) : cs.head? = some '.' := by
  fun_cases splitChars cs with
  | case1 => cases h
  | case2 rest =>
    obtain ⟨t, more, ht⟩ := exists_splitChars rest
    rw [splitChars_escape, ht] at h
    cases h
  | case3 rest => rfl
  | case4 c rest hc hdot =>
    obtain ⟨t, more, ht⟩ := exists_splitChars rest
    rw [splitChars, if_neg hdot, ht] at h
    · cases h
    · exact hc

/-! ## From a path to its segments and back -/

theorem joinChars_cons_cons (c : Char) (s : List Char) (rest : List (List Char)) :
    joinChars ((c :: s) :: rest) = escapeDots [c] ++ joinChars (s :: rest) := by
  cases rest <;> simp [joinChars, List.intercalate, escapeDots]

theorem joinChars_nil_cons (s : List Char) (rest : List (List Char)) :
    joinChars ([] :: s :: rest) = '.' :: joinChars (s :: rest) := by
  simp [joinChars, List.intercalate, escapeDots]

theorem joinChars_splitChars (cs : List Char) : joinChars (splitChars cs) = cs := by
  fun_induction splitChars cs with
  | case1 => rfl
  | case2 rest ih =>
    obtain ⟨s, more, h⟩ := exists_splitChars rest
    rw [h] at ih ⊢
    rw [extendHead, joinChars_cons_cons, ih]
    rfl
  | case3 rest _ ih =>
    obtain ⟨s, more, h⟩ := exists_splitChars rest
    rw [h] at ih ⊢
    rw [joinChars_nil_cons, ih]
  | case4 c rest _ hdot ih =>
    obtain ⟨s, more, h⟩ := exists_splitChars rest
    rw [h] at ih ⊢
    rw [extendHead, joinChars_cons_cons, ih]
    simp [escapeDots, hdot]

theorem Separable.cons_cons {c : Char} {s : List Char} {rest : List (List Char)}
    (h : Separable (s :: rest)) (hc : s = [] → rest ≠ [] → c ≠ '\\') :
    Separable ((c :: s) :: rest) := by
  cases rest with
  | nil => exact nofun
  | cons t rest =>
    obtain ⟨hs, hrest⟩ := List.forall_mem_cons.mp h
    refine List.forall_mem_cons.mpr ⟨?_, hrest⟩
    cases s with
    | nil => simpa using hc rfl (by simp)
    | cons d s => simpa using hs

theorem separable_splitChars (cs : List Char) : Separable (splitChars cs) := by
  fun_induction splitChars cs with
  | case1 => exact nofun
  | case2 rest ih =>
    obtain ⟨s, more, h⟩ := exists_splitChars rest
    rw [h] at ih ⊢
    exact ih.cons_cons fun _ _ => by decide
  | case3 rest _ ih =>
    obtain ⟨s, more, h⟩ := exists_splitChars rest
    rw [h] at ih ⊢
    exact List.forall_mem_cons.mpr ⟨by simp, ih⟩
  | case4 c rest hc hdot ih =>
    obtain ⟨s, more, h⟩ := exists_splitChars rest
    rw [h] at ih ⊢
    refine ih.cons_cons ?_
    -- a dot right behind this backslash would have been escaped by it
    rintro rfl hmore rfl
    obtain ⟨t, last, rfl⟩ := List.exists_cons_of_ne_nil hmore
    obtain ⟨tail, rfl⟩ := List.head?_eq_some_iff.mp (head?_of_splitChars h)
    exact hc tail rfl rfl

/-- The characters of a segment go to the segment, whatever follows them in the path. -/
theorem splitChars_append {s tail : List Char}
    (h : s.getLast? = some '\\' → tail.head? ≠ some '.') :
    splitChars (escapeDots s ++ tail) = s.foldr extendHead (splitChars tail) := by
  induction s with
  | nil => rfl
  | cons c s ih =>
    have hrest : s.getLast? = some '\\' → tail.head? ≠ some '.' := by
      intro hs
      apply h
      rw [List.getLast?_cons, hs]
      rfl
    by_cases hc : c = '.'
    · subst hc
      exact (splitChars_escape _).trans (congrArg _ (ih hrest))
    · have hcons : escapeDots (c :: s) = c :: escapeDots s := by simp [escapeDots, hc]
      rw [hcons, List.cons_append, splitChars_char hc, ih hrest, List.foldr_cons]
      rintro rfl
      cases s with
      | nil => exact h rfl
      | cons d s => by_cases hd : d = '.' <;> simp [escapeDots, hd]

theorem foldr_extendHead (s : List Char) (t : List Char) (rest : List (List Char)) :
    s.foldr extendHead (t :: rest) = (s ++ t) :: rest := by
  induction s with
  | nil => rfl
  | cons c s ih => rw [List.foldr_cons, ih, extendHead, List.cons_append]

theorem splitChars_joinChars {segments : List (List Char)} (hne : segments ≠ [])
    (h : Separable segments) : splitChars (joinChars segments) = segments := by
  induction segments with
  | nil => exact absurd rfl hne
  | cons s rest ih =>
    cases rest with
    | nil =>
      have hlast : s.getLast? = some '\\' → ([] : List Char).head? ≠ some '.' := by simp
      have hjoin : joinChars [s] = escapeDots s ++ [] := by
        simp [joinChars, List.intercalate]
      rw [hjoin, splitChars_append hlast, splitChars, foldr_extendHead, List.append_nil]
    | cons t rest =>
      obtain ⟨hs, hrest⟩ := List.forall_mem_cons.mp h
      have hjoin : joinChars (s :: t :: rest) = escapeDots s ++ '.' :: joinChars (t :: rest) := by
        simp [joinChars, List.intercalate]
      rw [hjoin, splitChars_append (fun hlast => absurd hlast hs), splitChars_dot,
        foldr_extendHead, List.append_nil, ih (by simp) hrest]

/-! ## Paths -/

theorem map_toList_pathSegments (body : String) :
    (pathSegments body).map String.toList = splitChars body.toList := by
  simp [pathSegments, Function.comp_def]

theorem separable_map {segments : List String} : Separable (segments.map String.toList) ↔
    ∀ s ∈ segments.dropLast, s.toList.getLast? ≠ some '\\' := by
  rw [Separable, ← List.map_dropLast, List.forall_mem_map]

/-- A path is cut into segments that make up the path and can be told apart in it, and all
segments that can be told apart are cut out of the path that they make up. -/
theorem pathSegments_bijective :
    (∀ body : String, joinSegments (pathSegments body) = body ∧ pathSegments body ≠ [] ∧
      ∀ s ∈ (pathSegments body).dropLast, s.toList.getLast? ≠ some '\\') ∧
    ∀ segments : List String, segments ≠ [] →
      (∀ s ∈ segments.dropLast, s.toList.getLast? ≠ some '\\') →
      pathSegments (joinSegments segments) = segments := by
  refine ⟨fun body => ⟨?_, ?_, ?_⟩, fun segments hne hinner => ?_⟩
  · rw [joinSegments, map_toList_pathSegments, joinChars_splitChars, String.ofList_toList]
  · obtain ⟨s, rest, h⟩ := exists_splitChars body.toList
    simp [pathSegments, h]
  · rw [← separable_map, map_toList_pathSegments]
    exact separable_splitChars body.toList
  · have hsplit := splitChars_joinChars (by simpa using hne) (separable_map.mpr hinner)
    rw [joinSegments, pathSegments, String.toList_ofList, hsplit]
    simp [Function.comp_def]

/-- Segments with backslashes and dots of their own, an empty one, and one that ends in a
backslash. -/
def awkward : List String := ["a\\.b", "", ".", "\\c", "d\\"]

theorem awkward_segments : joinSegments awkward = "a\\\\.b..\\..\\c.d\\" ∧
    (∀ s ∈ awkward.dropLast, s.toList.getLast? ≠ some '\\') ∧
    pathSegments "a\\\\.b..\\..\\c.d\\" = awkward := by
  have hjoin : joinSegments awkward = "a\\\\.b..\\..\\c.d\\" := by decide
  have hinner : ∀ s ∈ awkward.dropLast, s.toList.getLast? ≠ some '\\' := by decide
  refine ⟨hjoin, hinner, ?_⟩
  rw [← hjoin]
  exact pathSegments_bijective.2 awkward (by decide) hinner

end Provision.Placeholder
