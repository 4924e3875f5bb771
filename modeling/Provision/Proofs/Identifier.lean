import Mathlib.Data.List.Basic
import Provision.Go.Imports
import Provision.Identifier
import Provision.Proofs.Go.Quoted
import Provision.Proofs.Text.Letters

/-!
# Component ids as variables

The fold of a path has letters and digits only, and the stem starts with a lower-case
letter. A component id ends in the eight hexadecimal digits of a digest, with a letter
or more before them. No word of the target language has that shape. The digits have a
fixed number, so that an id determines both its stem and its digest.
-/

set_option autoImplicit false

namespace Provision.Identifier

section Fold

/-- The fold of a path keeps nothing but letters and digits, whether a capital is
called for or not. -/
theorem isAlphanum_of_mem_camel {capital : Bool} {cs : List Char} :
    ∀ c ∈ camel capital cs, c.isAlphanum = true := by
  induction cs generalizing capital with
  | nil => simp [camel]
  | cons c cs ih =>
    unfold camel
    split
    · next hdigit => exact List.forall_mem_cons.mpr ⟨isAlphanum_iff.mpr (.inr hdigit), ih⟩
    · split
      · next hletter =>
        refine List.forall_mem_cons.mpr ⟨?_, ih⟩
        cases capital with
        | true =>
          exact isAlphanum_iff.mpr (.inl (isAlpha_iff.mpr (.inl (isUpper_toUpper hletter))))
        | false => exact isAlphanum_of_isLower (isLower_toLower hletter)
      · exact ih

/-- The words of a path: what stands between characters other than letters and digits. -/
def words (cs : List Char) : List (List Char) := cs.splitOnP fun c => !c.isAlphanum

def capitalised (word : List Char) : List Char :=
  word.takeWhile Char.isDigit ++
    match word.dropWhile Char.isDigit with
    | [] => []
    | c :: rest => c.toUpper :: rest.map Char.toLower

def folded : List (List Char) → List Char
  | [] => []
  | first :: rest => first.map Char.toLower ++ rest.flatMap capitalised

theorem capitalised_of_isDigit {c : Char} (h : c.isDigit = true) (word : List Char) :
    capitalised (c :: word) = c :: capitalised word := by
  simp [capitalised, h]

theorem capitalised_of_not_isDigit {c : Char} (h : ¬ c.isDigit = true) (word : List Char) :
    capitalised (c :: word) = c.toUpper :: word.map Char.toLower := by
  simp [capitalised, h]

/-- Folding capitalises every word but the first, and the first one too where a capital
is called for from the start. -/
theorem camel_eq_words (cs : List Char) :
    camel true cs = (words cs).flatMap capitalised ∧ camel false cs = folded (words cs) := by
  induction cs with
  | nil => exact ⟨rfl, rfl⟩
  | cons c cs ih =>
    obtain ⟨word, rest, hwords⟩ := List.exists_cons_of_ne_nil
      (List.splitOnP_ne_nil (fun c : Char => !c.isAlphanum) cs)
    have hrest : words cs = word :: rest := hwords
    rw [hrest, List.flatMap_cons, folded] at ih
    have hcons : words (c :: cs) =
        if c.isAlphanum then (c :: word) :: rest else [] :: word :: rest := by
      rw [words, List.splitOnP_cons_eq_if_modifyHead, hwords]
      cases c.isAlphanum <;> rfl
    by_cases hdigit : c.isDigit = true
    · have hword : c.isAlphanum = true := by simp [Char.isAlphanum, hdigit]
      rw [hcons, if_pos hword, camel, if_pos hdigit, camel, if_pos hdigit, ih.1, ih.2]
      simp [folded, capitalised_of_isDigit hdigit, toLower_of_isDigit hdigit]
    by_cases hletter : c.isAlpha = true
    · have hword : c.isAlphanum = true := by simp [Char.isAlphanum, hletter]
      rw [hcons, if_pos hword, camel, if_neg hdigit, if_pos hletter, camel, if_neg hdigit,
        if_pos hletter, ih.2]
      simp [folded, capitalised_of_not_isDigit hdigit]
    · have hword : ¬ c.isAlphanum = true := by simp [Char.isAlphanum, hletter, hdigit]
      rw [hcons, if_neg hword, camel, if_neg hdigit, if_neg hletter, camel, if_neg hdigit,
        if_neg hletter, ih.1]
      simp [folded, capitalised]

/-- The stem is the fold, with a letter before it where the fold does not start with
a lower-case one. -/
theorem stem_eq_folded (path : String) :
    stem path = (if (folded (words path.toList)).head?.any Char.isLower then [] else ['c']) ++
      folded (words path.toList) := by
  rw [stem, (camel_eq_words path.toList).2]
  cases folded (words path.toList) with
  | nil => rfl
  | cons c rest => by_cases hlower : c.isLower = true <;> simp [hlower]

theorem stem_eq_cons (path : String) :
    ∃ c rest, stem path = c :: rest ∧ c.isLower = true ∧ ∀ d ∈ rest, d.isAlphanum = true := by
  have hfold : ∀ c ∈ camel false path.toList, c.isAlphanum = true := isAlphanum_of_mem_camel
  unfold stem
  split
  · exact ⟨'c', [], rfl, by decide, by simp⟩
  · next c rest hcons =>
    rw [hcons] at hfold
    by_cases hlower : c.isLower = true
    · rw [if_pos hlower]
      exact ⟨c, rest, rfl, hlower, (List.forall_mem_cons.mp hfold).2⟩
    · rw [if_neg hlower]
      exact ⟨'c', c :: rest, rfl, by decide, hfold⟩

end Fold

section Digits

def isHexDigit (c : Char) : Bool := c.isDigit || 'a' ≤ c && c ≤ 'f'

def endsInDigest (cs : List Char) : Bool :=
  8 < cs.length && (cs.drop (cs.length - 8)).all isHexDigit

theorem isHexDigit_hexDigit (n : Nat) : isHexDigit (hexDigit n) = true := by
  have hall : ∀ k : Fin 16, isHexDigit (Nat.digitChar k) = true := by decide
  exact hall ⟨n % 16, Nat.mod_lt _ (by decide)⟩

theorem all_isHexDigit_hexWord (w : UInt32) : (hexWord w).all isHexDigit = true := by
  simp [hexWord, isHexDigit_hexDigit]

theorem length_hexWord (w : UInt32) : (hexWord w).length = 8 := rfl

theorem hexWord_eq (w : UInt32) : hexWord w = Go.Quoted.hexDigits 8 w.toNat := rfl

/-- A word is read back from its digits. -/
theorem readHex?_hexWord (w : UInt32) : Go.Quoted.readHex? 0 (hexWord w) = some w.toNat := by
  have hlt : w.toNat < 16 ^ 8 := w.toNat_lt
  rw [hexWord_eq, Go.Quoted.readHex?_hexDigits, Nat.zero_mul, Nat.zero_add, Nat.mod_eq_of_lt hlt]

theorem hexWord_inj {v w : UInt32} : hexWord v = hexWord w ↔ v = w := by
  constructor
  · intro h
    have hread := congrArg (Go.Quoted.readHex? 0) h
    rw [readHex?_hexWord, readHex?_hexWord] at hread
    exact UInt32.toNat_inj.mp (Option.some.inj hread)
  · exact congrArg hexWord

theorem isAlphanum_of_isHexDigit {c : Char} (h : isHexDigit c = true) : c.isAlphanum = true := by
  simp only [isHexDigit, Bool.or_eq_true, Bool.and_eq_true, decide_eq_true_eq] at h
  rcases h with hdigit | ⟨hlow, hhigh⟩
  · exact isAlphanum_iff.mpr (.inr hdigit)
  · apply isAlphanum_of_isLower
    have hhigh : c.val ≤ 'z'.val := UInt32.le_trans hhigh (by decide)
    exact Bool.and_eq_true_iff.mpr ⟨decide_eq_true hlow, decide_eq_true hhigh⟩

end Digits

section Ids

theorem toList_component (path : String) :
    (component path).toList = stem path ++ hexWord (digest (utf8 path)) :=
  String.toList_ofList

theorem stem_ne_nil (path : String) : stem path ≠ [] := by
  obtain ⟨c, rest, hstem, -⟩ := stem_eq_cons path
  simp [hstem]

/-- A component id ends in a digest. -/
theorem endsInDigest_component (path : String) : endsInDigest (component path).toList = true := by
  have hpos : 0 < (stem path).length := List.length_pos_iff.mpr (stem_ne_nil path)
  have hdrop : (stem path ++ hexWord (digest (utf8 path))).drop
      ((stem path ++ hexWord (digest (utf8 path))).length - 8) = hexWord (digest (utf8 path)) := by
    rw [List.length_append, length_hexWord, Nat.add_sub_cancel, List.drop_left]
  simp only [endsInDigest, component, String.toList_ofList, Bool.and_eq_true, decide_eq_true_eq]
  refine ⟨?_, ?_⟩
  · rw [List.length_append, length_hexWord]
    omega
  · rw [hdrop]
    exact all_isHexDigit_hexWord _

theorem component_notMem {words : List String}
    (h : ∀ word ∈ words, endsInDigest word.toList = false) (path : String) :
    component path ∉ words := by
  intro hmem
  have hfalse := h _ hmem
  rw [endsInDigest_component] at hfalse
  cases hfalse

/-- The digits of an id have a fixed number, so that its stem ends in one place only. -/
theorem component_inj {a b : String} :
    component a = component b ↔ stem a = stem b ∧ digest (utf8 a) = digest (utf8 b) := by
  constructor
  · intro h
    have hchars := congrArg String.toList h
    rw [toList_component, toList_component] at hchars
    obtain ⟨hstem, hdigits⟩ := List.append_inj' hchars (by rw [length_hexWord, length_hexWord])
    exact ⟨hstem, hexWord_inj.mp hdigits⟩
  · rintro ⟨hstem, hdigest⟩
    rw [component, component, hstem, hdigest]

structure IsVariable (name : List Char) : Prop where
  ascii : ∀ c ∈ name, c.toNat < 128
  lower : ∃ c rest, name = c :: rest ∧ c.isLower = true
  alphanumeric : ∀ c ∈ name, c.isAlphanum = true

theorem isVariable_component (path : String) : IsVariable (component path).toList := by
  obtain ⟨c, rest, hstem, hlower, hrest⟩ := stem_eq_cons path
  have hall : ∀ d ∈ (component path).toList, d.isAlphanum = true := by
    intro d hd
    rw [toList_component, hstem, List.mem_append, List.mem_cons] at hd
    rcases hd with (rfl | hd) | hd
    · exact isAlphanum_of_isLower hlower
    · exact hrest d hd
    · exact isAlphanum_of_isHexDigit (List.all_eq_true.mp (all_isHexDigit_hexWord _) d hd)
  constructor
  · intro d hd
    exact toNat_lt_of_isAlphanum (hall d hd)
  · exact ⟨c, rest ++ hexWord (digest (utf8 path)), by rw [toList_component, hstem]; rfl, hlower⟩
  · exact hall

/-- A component id is a variable: the words of its path in camel case, with a letter
before them where that is needed, and the digits of the path's digest. It is none of the
words that programs use otherwise. Two paths have one id just when they have the same stem
and the same digest. -/
theorem component_names_variable :
    (∀ path : String, IsVariable (component path).toList ∧
        stem path = (if (folded (words path.toList)).head?.any Char.isLower then [] else ['c']) ++
          folded (words path.toList) ∧
        (∃ digits, (component path).toList = stem path ++ digits ∧ digits.length = 8 ∧
          (∀ d ∈ digits, isHexDigit d = true) ∧
          Go.Quoted.readHex? 0 digits = some (digest (utf8 path)).toNat) ∧
        component path ∉ Go.reserved ∧ component path ≠ "error" ∧ component path ≠ "_") ∧
      ∀ a b : String, component a = component b ↔
        stem a = stem b ∧ digest (utf8 a) = digest (utf8 b) := by
  refine ⟨?_, fun a b => component_inj⟩
  intro path
  have hwords : component path ∉ "error" :: "_" :: Go.reserved :=
    component_notMem (by decide) path
  simp only [List.mem_cons, not_or] at hwords
  refine ⟨isVariable_component path, stem_eq_folded path, ?_, hwords.2.2, hwords.1, hwords.2.1⟩
  exact ⟨hexWord (digest (utf8 path)), toList_component path, length_hexWord _,
    List.all_eq_true.mp (all_isHexDigit_hexWord _), readHex?_hexWord _⟩

example : component "workload.thing.x" = "workloadThingXfebb8a50" ∧
    component "a.1b" = "a1B8be372f5" := by
  decide +kernel

end Ids

end Provision.Identifier
