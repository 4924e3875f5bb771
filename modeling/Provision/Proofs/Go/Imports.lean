import Mathlib.Data.List.Lattice
import Mathlib.Data.Nat.Find
import Provision.Go.Printer
import Provision.Proofs.Go.Denotation
import Provision.Proofs.Go.Parts
import Provision.Proofs.Text.Letters

/-!
# Import tables

The search for a free name tries a name and the name with 1, 2, … behind it. These
candidates differ from each other, so it ends before it has tried more of them than
there are names taken. The names of the packages are therefore free when they are
given, and stay apart. A file's table has an entry for each package that its text
refers to: the printer looks up no path that was not collected. The table is read back from
the lines that declare the imports.
-/

set_option autoImplicit false

namespace Provision.Go

def candidate (base : String) : Nat → String
  | 0 => base
  | n + 1 => base ++ toString (n + 1)

theorem toList_toString (n : Nat) : (toString n).toList = Nat.toDigits 10 n := by
  rw [Nat.toString_eq_ofList_toDigits, String.toList_ofList]

theorem toString_injective {m n : Nat} (h : toString m = toString n) : m = n := by
  have hdigits : Nat.toDigits 10 m = Nat.toDigits 10 n := by
    rw [← toList_toString, ← toList_toString, h]
  calc m = Nat.ofDigitChars 10 (Nat.toDigits 10 m) 0 := Nat.ofDigitChars_ten_toDigits.symm
    _ = Nat.ofDigitChars 10 (Nat.toDigits 10 n) 0 := by rw [hdigits]
    _ = n := Nat.ofDigitChars_ten_toDigits

theorem candidate_succ_ne (base : String) (n : Nat) : candidate base (n + 1) ≠ base := by
  intro h
  have hnil : Nat.toDigits 10 (n + 1) = [] := by
    simpa [candidate, toList_toString] using congrArg String.toList h
  exact Nat.toDigits_ne_nil hnil

theorem candidate_injective (base : String) : Function.Injective (candidate base) := by
  intro m n h
  cases m with
  | zero =>
    cases n with
    | zero => rfl
    | succ n => exact absurd h.symm (candidate_succ_ne base n)
  | succ m =>
    cases n with
    | zero => exact absurd h (candidate_succ_ne base m)
    | succ n => exact toString_injective ((String.append_right_inj base).mp h)

/-- The candidates that are taken are no more than the names taken. -/
theorem le_of_candidates_taken {taken : List String} {base : String} {n : Nat}
    (h : ∀ m < n, candidate base m ∈ taken) : n ≤ taken.length := by
  have hnodup : ((List.range n).map (candidate base)).Nodup :=
    List.nodup_range.map (candidate_injective base)
  have hsub : (List.range n).map (candidate base) ⊆ taken := by
    intro name hname
    obtain ⟨m, hm, rfl⟩ := List.mem_map.mp hname
    exact h m (List.mem_range.mp hm)
  simpa using (List.subperm_of_subset hnodup hsub).length_le

theorem exists_first_free (taken : List String) (base : String) :
    ∃ n, candidate base n ∉ taken ∧ ∀ m < n, candidate base m ∈ taken := by
  have hfree : ∃ n, candidate base n ∉ taken := by
    by_contra hall
    have htaken : ∀ m < taken.length + 1, candidate base m ∈ taken := by
      intro m _
      by_contra hm
      exact hall ⟨m, hm⟩
    have hle := le_of_candidates_taken htaken
    omega
  exact ⟨Nat.find hfree, Nat.find_spec hfree, fun m hm => not_not.mp (Nat.find_min hfree hm)⟩

/-- The free name is the first candidate that is not taken. -/
theorem freeName_eq {taken : List String} {base : String} {n : Nat}
    (hfree : candidate base n ∉ taken) (htaken : ∀ m < n, candidate base m ∈ taken) :
    freeName taken base = candidate base n := by
  have hcandidates : base :: (List.range taken.length).map (fun n => base ++ toString (n + 1)) =
      (List.range (taken.length + 1)).map (candidate base) := by
    rw [List.range_succ_eq_map, List.map_cons, List.map_map]
    rfl
  have hfind : (List.range (taken.length + 1)).find?
      ((fun name => !taken.contains name) ∘ candidate base) = some n := by
    rw [List.find?_range_eq_some]
    refine ⟨by simpa using hfree, ?_, ?_⟩
    · exact List.mem_range.mpr (Nat.lt_succ_of_le (le_of_candidates_taken htaken))
    · intro m hm
      simpa using htaken m hm
  unfold freeName
  dsimp only
  rw [hcandidates, List.find?_map, hfind]
  rfl

theorem freeName_notMem (taken : List String) (base : String) : freeName taken base ∉ taken := by
  obtain ⟨n, hfree, htaken⟩ := exists_first_free taken base
  rwa [freeName_eq hfree htaken]

theorem freeName_of_notMem {taken : List String} {base : String} (h : base ∉ taken) :
    freeName taken base = base :=
  freeName_eq (n := 0) h fun _ hm => absurd hm (Nat.not_lt_zero _)

theorem map_fst_nameAll (taken packages : List String) :
    (nameAll taken packages).map Prod.fst = packages := by
  induction packages generalizing taken with
  | nil => rfl
  | cons path rest ih => simp [nameAll, ih]

/-- Each package is given a candidate that was not taken. -/
theorem nameAll_candidate {taken packages : List String} {e : String × String}
    (h : e ∈ nameAll taken packages) : e.2 ∉ taken ∧ ∃ n, e.2 = candidate (guessName e.1) n := by
  induction packages generalizing taken with
  | nil => cases h
  | cons path rest ih =>
    rcases List.mem_cons.mp h with rfl | h
    · obtain ⟨n, hfree, htaken⟩ := exists_first_free taken (guessName path)
      exact ⟨freeName_notMem _ _, n, freeName_eq hfree htaken⟩
    · obtain ⟨hfree, hname⟩ := ih h
      exact ⟨fun hmem => hfree (List.mem_cons_of_mem _ hmem), hname⟩

theorem nodup_nameAll (taken packages : List String) :
    ((nameAll taken packages).map Prod.snd).Nodup := by
  induction packages generalizing taken with
  | nil => exact List.nodup_nil
  | cons path rest ih =>
    refine List.nodup_cons.mpr ⟨?_, ih _⟩
    intro hmem
    obtain ⟨e, he, heq⟩ := List.mem_map.mp hmem
    exact (nameAll_candidate he).1 (heq ▸ List.mem_cons_self)

/-- The name that suits a package is given to it or to another one, unless it was taken. -/
theorem guessName_mem_nameAll {taken packages : List String} {path : String}
    (h : path ∈ packages) (hfree : guessName path ∉ taken) :
    guessName path ∈ (nameAll taken packages).map Prod.snd := by
  induction packages generalizing taken with
  | nil => cases h
  | cons first rest ih =>
    by_cases hfirst : guessName path = freeName taken (guessName first)
    · rw [hfirst]
      exact List.mem_cons_self
    · rcases List.mem_cons.mp h with rfl | h
      · exact absurd (freeName_of_notMem hfree).symm hfirst
      · refine List.mem_cons_of_mem _ (ih h ?_)
        rw [List.mem_cons, not_or]
        exact ⟨hfirst, hfree⟩

def isNameChar (c : Char) : Bool := c.isLower || c.isDigit || c = '_'

def isLocalName : List Char → Bool
  | [] => false
  | c :: rest => (c.isLower || c = '_') && rest.all isNameChar

theorem isNameChar_of_isLocalName {cs : List Char} (h : isLocalName cs = true) :
    ∀ c ∈ cs, isNameChar c = true := by
  cases cs with
  | nil => simp
  | cons c rest =>
    simp only [isLocalName, Bool.and_eq_true, Bool.or_eq_true, List.all_eq_true] at h
    refine List.forall_mem_cons.mpr ⟨?_, h.2⟩
    rcases h.1 with hlower | hunderscore
    · simp [isNameChar, hlower]
    · simp [isNameChar, hunderscore]

theorem isNameChar_toLower {c : Char} (h : (c.isAlphanum || c = '_') = true) :
    isNameChar c.toLower = true := by
  by_cases hupper : c.isUpper = true
  · have hlower : c.toLower.isLower = true := isLower_toLower (isAlpha_iff.mpr (.inl hupper))
    simp [isNameChar, hlower]
  · rw [toLower_of_not_isUpper hupper]
    simpa [isNameChar, isAlphanum_iff, isAlpha_iff, hupper] using h

theorem isNameChar_iff {c : Char} : isNameChar c = true ↔
    (97 ≤ c.toNat ∧ c.toNat ≤ 122) ∨ (48 ≤ c.toNat ∧ c.toNat ≤ 57) ∨ c.toNat = 95 := by
  have hunderscore : c = '_' ↔ c.toNat = 95 := Char.toNat_inj.symm
  simp only [isNameChar, Bool.or_eq_true, isLower_iff, isDigit_iff, decide_eq_true_eq,
    hunderscore, or_assoc]

theorem isUpper_eq_false_of_isNameChar {c : Char} (h : isNameChar c = true) :
    c.isUpper = false := by
  rw [Bool.eq_false_iff]
  intro hupper
  rw [isUpper_iff] at hupper
  rw [isNameChar_iff] at h
  omega

theorem isLocalName_append {cs ds : List Char} (h : isLocalName cs = true)
    (hd : ∀ c ∈ ds, isNameChar c = true) : isLocalName (cs ++ ds) = true := by
  cases cs with
  | nil => cases h
  | cons c rest =>
    simp only [List.cons_append, isLocalName, List.all_append, Bool.and_eq_true] at *
    exact ⟨h.1, h.2, List.all_eq_true.mpr hd⟩

theorem isLocalName_guessName (path : String) : isLocalName (guessName path).toList = true := by
  unfold guessName
  dsimp only
  generalize hkept : List.map Char.toLower _ = kept
  have hall : ∀ c ∈ kept, isNameChar c = true := by
    intro c hc
    rw [← hkept] at hc
    obtain ⟨d, hd, rfl⟩ := List.mem_map.mp hc
    exact isNameChar_toLower (List.mem_filter.mp hd).2
  split
  · decide
  · next c rest =>
    split
    · next ha =>
      have hfirst : (c.isLower || c = '_') = true := by
        simpa [isAlpha_iff, isUpper_eq_false_of_isNameChar (hall c List.mem_cons_self)] using ha
      rw [String.toList_ofList, isLocalName, hfirst]
      exact List.all_eq_true.mpr fun d hd => hall d (List.mem_cons_of_mem _ hd)
    · rw [String.toList_append]
      exact isLocalName_append (by decide) (by simpa using hall)

theorem isLocalName_candidate {base : String} (h : isLocalName base.toList = true) (n : Nat) :
    isLocalName (candidate base n).toList = true := by
  cases n with
  | zero => exact h
  | succ n =>
    rw [candidate, String.toList_append, toList_toString]
    refine isLocalName_append h fun c hc => ?_
    have hdigit : c.isDigit = true := Nat.isDigit_of_mem_toDigits (by decide) (by decide) hc
    simp [isNameChar, hdigit]

def Names.Agree (names others : Names) (paths : List String) : Prop :=
  ∀ path ∈ paths, names.of path = others.of path

theorem Names.agree_append {names others : Names} {ps qs : List String} :
    names.Agree others (ps ++ qs) ↔ names.Agree others ps ∧ names.Agree others qs :=
  List.forall_mem_append

mutual

/-- The text of an expression depends on the names of its paths only. -/
theorem Expr.chars_congr {names others : Names} (e : Expr) (indent : Nat)
    (h : names.Agree others e.paths) : e.chars names indent = e.chars others indent := by
  match e with
  | .qualified package _ =>
    have hname := h package (by simp [Expr.paths])
    unfold Expr.chars
    rw [hname]
  | .selector base _ =>
    simp only [Expr.paths] at h
    unfold Expr.chars
    rw [base.chars_congr indent h]
  | .call func args =>
    simp only [Expr.paths, Names.agree_append] at h
    unfold Expr.chars
    rw [func.chars_congr indent h.1, exprsChars_congr args indent h.2]
  | .list type items =>
    simp only [Expr.paths, Names.agree_append] at h
    unfold Expr.chars
    rw [type.chars_congr indent h.1, exprsChars_congr items indent h.2]
  | .keyed type entries =>
    simp only [Expr.paths, Names.agree_append] at h
    have hinline := entriesChars_congr entries indent h.2
    have hlines := entriesChars_congr entries (indent + 1) h.2
    unfold Expr.chars
    rw [type.chars_congr indent h.1, hinline, hlines]
  | .unary _ operand =>
    simp only [Expr.paths] at h
    unfold Expr.chars
    rw [operand.chars_congr indent h]
  | .binary left _ right =>
    simp only [Expr.paths, Names.agree_append] at h
    unfold Expr.chars
    rw [left.chars_congr indent h.1, right.chars_congr indent h.2]
  | .func params result body =>
    simp only [Expr.paths, Names.agree_append] at h
    unfold Expr.chars
    rw [paramsChars_congr params h.1.1, resultChars_congr result indent h.1.2,
      blockChars_congr body (indent + 1) h.2]
  | .ident _ => rfl
  | .nil => rfl
  | .bool _ => rfl
  | .int _ => rfl
  | .float _ => rfl
  | .string _ => rfl

theorem exprsChars_congr {names others : Names} (es : List Expr) (indent : Nat)
    (h : names.Agree others (pathsOfExprs es)) :
    exprsChars names indent es = exprsChars others indent es := by
  match es with
  | [] => rfl
  | e :: rest =>
    simp only [pathsOfExprs, Names.agree_append] at h
    simp only [exprsChars, e.chars_congr indent h.1, exprsChars_congr rest indent h.2]

theorem entriesChars_congr {names others : Names} (es : List (Expr × Expr)) (indent : Nat)
    (h : names.Agree others (pathsOfEntries es)) :
    entriesChars names indent es = entriesChars others indent es := by
  match es with
  | [] => rfl
  | (k, v) :: rest =>
    simp only [pathsOfEntries, Names.agree_append] at h
    simp only [entriesChars, k.chars_congr indent h.1.1, v.chars_congr indent h.1.2,
      entriesChars_congr rest indent h.2]

theorem paramsChars_congr {names others : Names} (ps : List (String × Expr))
    (h : names.Agree others (pathsOfParams ps)) : paramsChars names ps = paramsChars others ps := by
  match ps with
  | [] => rfl
  | (_, type) :: rest =>
    simp only [pathsOfParams, Names.agree_append] at h
    simp only [paramsChars, type.chars_congr 0 h.1, paramsChars_congr rest h.2]

theorem resultChars_congr {names others : Names} (r : Option Expr) (indent : Nat)
    (h : names.Agree others (pathsOfResult r)) :
    resultChars names indent r = resultChars others indent r := by
  match r with
  | none => rfl
  | some e =>
    simp only [pathsOfResult] at h
    simp only [resultChars, e.chars_congr indent h]

theorem Stmt.chars_congr {names others : Names} (s : Stmt) (indent : Nat)
    (h : names.Agree others s.paths) : s.chars names indent = s.chars others indent := by
  match s with
  | .blank => rfl
  | .define _ value =>
    simp only [Stmt.paths] at h
    unfold Stmt.chars
    rw [value.chars_congr indent h]
  | .assign target value =>
    simp only [Stmt.paths, Names.agree_append] at h
    unfold Stmt.chars
    rw [target.chars_congr indent h.1, value.chars_congr indent h.2]
  | .branch condition body =>
    simp only [Stmt.paths, Names.agree_append] at h
    unfold Stmt.chars
    rw [condition.chars_congr indent h.1,
      blockChars_congr body (indent + 1) h.2]
  | .ret values =>
    simp only [Stmt.paths] at h
    have hvalues := exprsChars_congr values indent h
    match values with
    | [] => rfl
    | e :: rest =>
      simp only [exprsChars, List.cons.injEq] at hvalues
      unfold Stmt.chars
      rw [hvalues.1, hvalues.2]
  | .expr e =>
    simp only [Stmt.paths] at h
    unfold Stmt.chars
    rw [e.chars_congr indent h]

theorem blockChars_congr {names others : Names} (ss : List Stmt) (indent : Nat)
    (h : names.Agree others (pathsOfBlock ss)) :
    blockChars names indent ss = blockChars others indent ss := by
  match ss with
  | [] => rfl
  | s :: rest =>
    simp only [pathsOfBlock, Names.agree_append] at h
    simp only [blockChars, s.chars_congr indent h.1, blockChars_congr rest indent h.2]

end

theorem FuncDecl.chars_congr {names others : Names} (f : FuncDecl)
    (h : names.Agree others f.paths) : f.chars names = f.chars others := by
  simp only [FuncDecl.paths, Names.agree_append] at h
  unfold FuncDecl.chars
  rw [paramsChars_congr f.params h.1.1,
    resultChars_congr f.result 0 h.1.2, blockChars_congr f.body 1 h.2]

theorem funcsChars_congr {names others : Names} (fs : List FuncDecl)
    (h : ∀ f ∈ fs, names.Agree others f.paths) : funcsChars names fs = funcsChars others fs := by
  induction fs with
  | nil => rfl
  | cons f rest ih =>
    obtain ⟨hf, hrest⟩ := List.forall_mem_cons.mp h
    cases rest with
    | nil => exact f.chars_congr hf
    | cons g rest => simpa [funcsChars, f.chars_congr hf] using ih hrest

def File.imports (f : File) : Names := localNames f.packages

theorem File.map_fst_imports (f : File) : f.imports.map Prod.fst = f.packages :=
  map_fst_nameAll _ _

theorem File.mem_packages_of_mem_paths {f : File} {d : FuncDecl} {path : String}
    (hd : d ∈ f.funcs) (h : path ∈ d.paths) : path ∈ f.packages := by
  rw [FuncDecl.paths_eq] at h
  obtain ⟨x, hx, hpath⟩ := List.mem_filterMap.mp h
  obtain ⟨name, rfl⟩ := Part.path?_eq_some.mp hpath
  exact File.mem_packages.mpr ⟨name, List.mem_flatMap.mpr ⟨d, hd, hx⟩⟩

theorem File.mem_packages_of_mem_imports {f : File} {e : String × String} (h : e ∈ f.imports) :
    e.1 ∈ f.packages := by
  rw [← f.map_fst_imports]
  exact List.mem_map.mpr ⟨e, h, rfl⟩

theorem File.isLocalName_imports {f : File} {e : String × String} (h : e ∈ f.imports) :
    isLocalName e.2.toList = true := by
  obtain ⟨-, n, hname⟩ := nameAll_candidate h
  rw [hname]
  exact isLocalName_candidate (isLocalName_guessName e.1) n

/-- No look-up that the printer makes misses the table, so further entries change nothing. -/
theorem File.imports_agree {f : File} {d : FuncDecl} (hd : d ∈ f.funcs) (more : Names) :
    f.imports.Agree (f.imports ++ more) d.paths := by
  intro path hpath
  have hmem := File.mem_packages_of_mem_paths hd hpath
  rw [← f.map_fst_imports] at hmem
  obtain ⟨name, hname⟩ := Option.isSome_iff_exists.mp (Entries.find?_isSome_iff.mpr hmem)
  rw [Names.of, Names.of, Entries.find?_append, hname]
  rfl

section Declaration

open Provision.Go.Quoted (IsControl denoted? denoted?_quote chars_printed)

def readSpec? (line : List Char) : Option (String × String) :=
  match line.dropWhile (· ≠ ' ') with
  | ' ' :: literal =>
    ((denoted? (String.ofList literal)).bind String.fromUTF8?).map fun path =>
      (path, String.ofList (line.takeWhile (· ≠ ' ')))
  | _ => none

def readGroup? : List (List Char) → Option (List (String × String))
  | [[')'], []] => some []
  | ('\t' :: spec) :: rest => (readSpec? spec).bind fun e => (readGroup? rest).map (e :: ·)
  | _ => none

/-- The packages that an import declaration names: none without a declaration, and else one
or a group in brackets. The line after a declaration is empty. -/
def readImports? : List (List Char) → Option (List (String × String))
  | [] => some []
  | [line, []] =>
    if line.take 7 = "import ".toList then (readSpec? (line.drop 7)).map fun e => [e] else none
  | first :: rest => if first = "import (".toList then readGroup? rest else none

def importLines : Names → List (List Char)
  | [] => []
  | [e] => ["import ".toList ++ importSpec e, []]
  | es => "import (".toList :: es.map ('\t' :: importSpec ·) ++ [[')'], []]

theorem importChars_eq_lines (names : Names) :
    importChars names = (importLines names).flatMap (· ++ ['\n']) := by
  match names with
  | [] => rfl
  | [e] =>
    unfold importChars importLines
    simp
  | e :: d :: rest =>
    unfold importChars importLines
    simp [List.flatMap_map]

theorem fromUTF8?_toUTF8 (s : String) : String.fromUTF8? s.toUTF8 = some s :=
  dif_pos s.isValidUTF8

theorem ne_blank_of_isNameChar {c : Char} (h : isNameChar c = true) : c ≠ ' ' := by
  rintro rfl
  exact absurd h (by decide)

theorem readSpec?_importSpec {e : String × String} (h : isLocalName e.2.toList = true) :
    readSpec? (importSpec e) = some e := by
  have hname : ∀ c ∈ e.2.toList, decide (c ≠ ' ') = true := fun c hc =>
    decide_eq_true (ne_blank_of_isNameChar (isNameChar_of_isLocalName h c hc))
  have hdrop : (importSpec e).dropWhile (· ≠ ' ') = ' ' :: Quoted.chars e.1 :=
    List.dropWhile_append_of_pos hname
  have htake : (importSpec e).takeWhile (· ≠ ' ') = e.2.toList ++ [] :=
    List.takeWhile_append_of_pos hname
  have hpath : denoted? (String.ofList (Quoted.chars e.1)) = some e.1.toUTF8 := denoted?_quote e.1
  unfold readSpec?
  rw [hdrop, htake]
  simp only [hpath, Option.bind_some, fromUTF8?_toUTF8, Option.map_some, List.append_nil,
    String.ofList_toList]

theorem readGroup?_map {names : Names} (h : ∀ e ∈ names, isLocalName e.2.toList = true) :
    readGroup? (names.map ('\t' :: importSpec ·) ++ [[')'], []]) = some names := by
  induction names with
  | nil => rfl
  | cons e rest ih =>
    obtain ⟨he, hrest⟩ := List.forall_mem_cons.mp h
    simp [readGroup?, readSpec?_importSpec he, ih hrest]

/-- The entries of a table are read back from the lines that import them. -/
theorem readImports?_importLines {names : Names}
    (h : ∀ e ∈ names, isLocalName e.2.toList = true) :
    readImports? (importLines names) = some names := by
  match names with
  | [] => rfl
  | [e] =>
    have htake : ("import ".toList ++ importSpec e).take 7 = "import ".toList := rfl
    have hdrop : ("import ".toList ++ importSpec e).drop 7 = importSpec e := rfl
    rw [importLines, readImports?, if_pos htake, hdrop, readSpec?_importSpec (h e (by simp))]
    rfl
  | e :: d :: rest => exact readGroup?_map h

theorem not_isControl_of_isNameChar {c : Char} (h : isNameChar c = true) : ¬ IsControl c := by
  rw [isNameChar_iff] at h
  rw [IsControl]
  omega

theorem lineEnd_notMem_importSpec {e : String × String} (h : isLocalName e.2.toList = true) :
    '\n' ∉ importSpec e := by
  have hend : IsControl '\n' := by decide
  rw [importSpec, List.mem_append, List.mem_cons]
  rintro (hname | hblank | hpath)
  · exact not_isControl_of_isNameChar (isNameChar_of_isLocalName h _ hname) hend
  · exact absurd hblank (by decide)
  · exact chars_printed e.1 _ hpath hend

theorem lineEnd_notMem_importLines {names : Names}
    (h : ∀ e ∈ names, isLocalName e.2.toList = true) :
    ∀ line ∈ importLines names, '\n' ∉ line := by
  have hspec : ∀ e ∈ names, '\n' ∉ importSpec e := fun e he => lineEnd_notMem_importSpec (h e he)
  match names with
  | [] => simp [importLines]
  | [e] => simpa [importLines] using hspec e (by simp)
  | e :: d :: rest =>
    intro line hline
    unfold importLines at hline
    rw [List.mem_append, List.mem_cons, List.mem_map] at hline
    rcases hline with (rfl | ⟨entry, hentry, rfl⟩) | hline
    · decide
    · simpa using hspec entry hentry
    · revert line
      decide

end Declaration

/-- Where a qualified name stands in a file, the table has its package. -/
theorem File.find?_imports {f : File} {path name : String}
    (h : Part.expr (.qualified path name) ∈ f.parts) :
    ∃ short, Entries.find? path f.imports = some short := by
  rw [← Option.isSome_iff_exists, Entries.find?_isSome_iff, f.map_fst_imports]
  exact File.mem_packages.mpr ⟨name, h⟩

/-- A file whose packages all ask for a name that is reserved or given already. -/
def crowded : File :=
  ⟨"main", [⟨"main", [("x", .qualified "a.com/x/echo" "T")], none,
    [.expr (.call (.ident "run")
      [.func [] (some (.qualified "c.com/echo1" "E"))
        [.branch (.keyed (.qualified "b.com/go-echo/v2" "M") [(.qualified "d.com/err" "K", .nil)])
          [.ret []]]])]⟩]⟩

end Provision.Go
