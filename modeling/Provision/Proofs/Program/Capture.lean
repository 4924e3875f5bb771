import Provision.Proofs.Go.Imports
import Provision.Proofs.Program.Blocks

/-!
# Captured identifiers

An import whose local name is an identifier of the program hides what the identifier
stands for. Local names avoid the reserved words, so that most identifiers of a program
are safe from them. But neither `error` nor the blank identifier is reserved, and nor
are the ids of nodes: an import captures them where the path of its package ends in
such a word. Local names have no capitals, and an id has one where its logical path
has a letter behind the first dot, so that only few ids are in danger.
-/

set_option autoImplicit false

namespace Provision

open Outcome Go

namespace Identifier

theorem isAlpha_eq_false_of_isDigit {c : Char} (h : c.isDigit = true) : c.isAlpha = false := by
  rw [Bool.eq_false_iff]
  intro halpha
  rw [isAlpha_iff, isUpper_iff, isLower_iff] at halpha
  rw [isDigit_iff] at h
  omega

/-- Once a capital is called for, the next letter becomes one. -/
theorem isAlpha_eq_false_of_camel_true {cs : List Char}
    (h : ∀ c ∈ camel true cs, c.isUpper = false) : ∀ c ∈ cs, c.isAlpha = false := by
  induction cs with
  | nil => simp
  | cons c cs ih =>
    unfold camel at h
    split at h
    · next hdigit =>
      exact List.forall_mem_cons.mpr
        ⟨isAlpha_eq_false_of_isDigit hdigit, ih (List.forall_mem_cons.mp h).2⟩
    · split at h
      · next hletter =>
        have hupper := h c.toUpper (by simp)
        rw [isUpper_toUpper hletter] at hupper
        cases hupper
      · next hother => exact List.forall_mem_cons.mpr ⟨by simpa using hother, ih h⟩

/-- A path whose fold has no capitals has no letter behind its first divider. -/
theorem isAlpha_eq_false_of_camel {capital : Bool} {cs : List Char}
    (h : ∀ c ∈ camel capital cs, c.isUpper = false) :
    ∀ c ∈ cs.dropWhile Char.isAlphanum, c.isAlpha = false := by
  induction cs generalizing capital with
  | nil => simp
  | cons c cs ih =>
    by_cases hword : c.isAlphanum = true
    · rw [List.dropWhile_cons_of_pos hword]
      unfold camel at h
      split at h
      · exact ih (List.forall_mem_cons.mp h).2
      · split at h
        · exact ih (List.forall_mem_cons.mp h).2
        · exact ih h
    · rw [List.dropWhile_cons_of_neg hword]
      simp only [Char.isAlphanum, Bool.or_eq_true, not_or] at hword
      rw [camel, if_neg hword.2, if_neg hword.1] at h
      exact List.forall_mem_cons.mpr ⟨by simpa using hword.1, isAlpha_eq_false_of_camel_true h⟩

theorem mem_stem {path : String} {c : Char} (h : c ∈ camel false path.toList) :
    c ∈ stem path := by
  unfold stem
  split
  · next hnil =>
    rw [hnil] at h
    cases h
  · next hcons =>
    rw [hcons] at h
    split
    · exact h
    · exact List.mem_cons_of_mem _ h

theorem isAlpha_eq_false_of_component {path : String}
    (h : isLocalName (component path).toList = true) :
    ∀ c ∈ path.toList.dropWhile Char.isAlphanum, c.isAlpha = false := by
  apply isAlpha_eq_false_of_camel
  intro c hc
  apply isUpper_eq_false_of_isNameChar
  apply isNameChar_of_isLocalName h
  rw [component, String.toList_ofList]
  exact List.mem_append_left _ (mem_stem hc)

theorem uppercase_contains_eq_false {c : Char} (h : c.isLower = true ∨ c = '_') :
    CharSet.uppercase.contains c = false := by
  have hbounds : 0x5b ≤ c.toNat ∧ c.toNat < 0xc0 := by
    rcases h with hlower | rfl
    · rw [isLower_iff] at hlower
      omega
    · decide
  unfold CharSet.contains CharSet.uppercase
  rw [CharSet.inside, if_neg (by omega), CharSet.inside, if_neg (by omega), CharSet.inside,
    if_pos (by omega)]
  rfl

/-- Exported names start with a capital, which local names have none of. -/
theorem isLocalName_eq_false_of_isExported {name : String} (h : isExported name = true) :
    isLocalName name.toList = false := by
  rw [Bool.eq_false_iff]
  intro hlocal
  unfold isExported at h
  split at h
  · cases h
  · next c rest hname =>
    rw [hname] at hlocal
    simp only [isLocalName, Bool.and_eq_true, Bool.or_eq_true, decide_eq_true_eq] at hlocal
    rw [uppercase_contains_eq_false hlocal.1] at h
    cases h

end Identifier

namespace Go

/-- A name with a number behind it ends in a digit. -/
theorem eq_of_candidate_eq {base word : String} {n : Nat} (h : candidate base n = word)
    (hword : word.toList.getLast?.any Char.isDigit = false) : base = word := by
  cases n with
  | zero => exact h
  | succ n =>
    rw [← h, candidate, String.toList_append, toList_toString,
      List.getLast?_append_of_ne_nil _ Nat.toDigits_ne_nil] at hword
    have hlast := List.getLast?_eq_some_getLast (Nat.toDigits_ne_nil (n := n + 1) (b := 10))
    have hdigit := Nat.isDigit_of_mem_toDigits (by decide) (by decide) (List.mem_of_getLast? hlast)
    rw [hlast, Option.any_some, hdigit] at hword
    cases hword

def File.Captures (f : File) (name : String) : Prop :=
  name ∈ f.identifiers ∧ name ∈ f.imports.map Prod.snd

theorem File.mem_imports_of_word {f : File} {word : String} (hfree : word ∉ reserved)
    (hword : word.toList.getLast?.any Char.isDigit = false) :
    word ∈ f.imports.map Prod.snd ↔ ∃ path ∈ f.packages, guessName path = word := by
  constructor
  · intro hmem
    obtain ⟨e, he, rfl⟩ := List.mem_map.mp hmem
    obtain ⟨-, n, hname⟩ := nameAll_candidate he
    exact ⟨e.1, File.mem_packages_of_mem_imports he, eq_of_candidate_eq hname.symm hword⟩
  · rintro ⟨path, hpath, rfl⟩
    exact guessName_mem_nameAll hpath hfree

end Go

namespace Program

variable {g : Graph}

/-- A block refers to the package of its component, and to `pulumi`. -/
theorem Block.Provisions.mem_paths {b : Block} (h : b.Provisions g) {path : String} :
    path ∈ pathsOfBlock b.statements ↔ path = pulumiPath ∨ path = b.node.component.package := by
  have hfields : ∀ path ∈ pathsOfEntries b.fields, path = pulumiPath := by
    intro path hpath
    rw [pathsOfEntries_eq] at hpath
    obtain ⟨x, hx, hpath⟩ := List.mem_filterMap.mp hpath
    exact (argumentFields_plain h.fields x hx).2 path hpath
  have hpaths : pathsOfBlock b.statements =
      [b.node.component.package, b.node.component.package] ++ pathsOfEntries b.fields
        ++ [pulumiPath] := by
    simp [Block.statements, pathsOfBlock, Stmt.paths, Expr.paths, pathsOfExprs, pathsOfEntries]
  rw [hpaths]
  constructor
  · intro hpath
    rcases List.mem_append.mp hpath with hpath | hpath
    · rcases List.mem_append.mp hpath with hpath | hpath
      · exact .inr (by simpa using hpath)
      · exact .inl (hfields path hpath)
    · exact .inl (List.mem_singleton.mp hpath)
  · rintro (rfl | rfl) <;> simp

theorem Block.Provisions.identifiers {b : Block} (h : b.Provisions g) :
    ∃ names, identifiersOfBlock b.statements =
        [b.id, "err", "ctx"] ++ names ++ ["err", "err", "_", "ctx", "Resource", b.id] ∧
      ∀ name ∈ names, Identifier.isExported name = true ∨ g.DependsOn b.id name := by
  refine ⟨identifiersOfEntries b.fields, ?_, ?_⟩
  · simp [Block.statements, identifiersOfBlock, Stmt.identifiers, Expr.identifiers,
      identifiersOfExprs, identifiersOfEntries]
  · intro name hname
    obtain ⟨f, hf, hkey | hvalue⟩ := mem_identifiersOfEntries.mp hname
    · obtain ⟨⟨field, hfield, hexported⟩, -⟩ := argumentFields_form h.fields f hf
      rw [hfield, Expr.identifiers, List.mem_singleton] at hkey
      exact .inl (hkey ▸ hexported)
    · exact .inr ((argumentFields_form h.fields f hf).2.knows name hvalue)

theorem paths_wrap (stmts : List Stmt) :
    (wrap stmts).funcs.flatMap FuncDecl.paths =
      [pulumiPath, pulumiPath] ++ stmts.flatMap Stmt.paths := by
  simp [wrap, pulumi, FuncDecl.paths, pathsOfParams, pathsOfResult, pathsOfBlock, Stmt.paths,
    Expr.paths, pathsOfExprs, ← pathsOfBlock_eq_flatMap]

theorem identifiers_wrap (stmts : List Stmt) :
    (wrap stmts).identifiers = ["main", "ctx", "error"] ++ stmts.flatMap Stmt.identifiers := by
  simp [wrap, pulumi, File.identifiers, FuncDecl.identifiers, identifiersOfParams,
    identifiersOfResult, identifiersOfBlock, Stmt.identifiers, Expr.identifiers,
    identifiersOfExprs, ← identifiersOfBlock_eq_flatMap]

theorem mem_packages_wrap {blocks : List Block} (h : ∀ b ∈ blocks, b.Provisions g)
    {path : String} :
    path ∈ (wrap (blocks.flatMap Block.statements ++ [.ret [.nil]])).packages ↔
      path = pulumiPath ∨ ∃ b ∈ blocks, path = b.node.component.package := by
  rw [File.mem_packages_iff_paths, paths_wrap, List.flatMap_append, List.flatMap_assoc]
  simp only [← pathsOfBlock_eq_flatMap, List.mem_append, List.mem_flatMap]
  constructor
  · rintro (hpath | ⟨b, hb, hpath⟩ | hpath)
    · exact .inl (by simpa using hpath)
    · rcases (h b hb).mem_paths.mp hpath with rfl | rfl
      · exact .inl rfl
      · exact .inr ⟨b, hb, rfl⟩
    · cases hpath
  · rintro (rfl | ⟨b, hb, rfl⟩)
    · exact .inl (by simp)
    · exact .inr (.inl ⟨b, hb, (h b hb).mem_paths.mpr (.inr rfl)⟩)

theorem mem_identifiers_wrap {blocks : List Block} {name : String} :
    name ∈ (wrap (blocks.flatMap Block.statements ++ [.ret [.nil]])).identifiers ↔
      name ∈ ["main", "ctx", "error"] ∨
        ∃ b ∈ blocks, name ∈ identifiersOfBlock b.statements := by
  rw [identifiers_wrap, List.flatMap_append, List.flatMap_assoc]
  simp only [← identifiersOfBlock_eq_flatMap, List.mem_append, List.mem_flatMap]
  simp [identifiersOfBlock, Stmt.identifiers, identifiersOfExprs, Expr.identifiers]

/-- What a program calls by name: names of its own, exported fields, and nodes. -/
theorem identifiers_of_program {file : File} (h : ofGraph g = .ok file) :
    (∀ name ∈ file.identifiers, name ∈ ["main", "ctx", "error"] ++ ["ctx", "err", "_", "Resource"] ∨
        Identifier.isExported name = true ∨ name ∈ g.nodes.keys) ∧
      "error" ∈ file.identifiers ∧
      ∀ id ∈ g.nodes.keys, id ∈ file.identifiers ∧ "_" ∈ file.identifiers := by
  obtain ⟨blocks, hexp, hall, rfl⟩ := ofGraph_ok h
  simp only [mem_identifiers_wrap]
  refine ⟨?_, .inl (by simp), ?_⟩
  · rintro name (hname | ⟨b, hb, hname⟩)
    · exact .inl (List.mem_append_left _ hname)
    · have hid : b.id ∈ blocks.map Block.id := List.mem_map.mpr ⟨b, hb, rfl⟩
      obtain ⟨names, heq, hnames⟩ := (hall b hb).identifiers
      have hcases : name ∈ names ∨ name = b.id ∨ name ∈ ["ctx", "err", "_", "Resource"] := by
        rw [heq] at hname
        simp only [List.mem_append, List.mem_cons, List.not_mem_nil, or_false] at hname ⊢
        tauto
      rcases hcases with hfield | rfl | hown
      · rcases hnames name hfield with hexported | he
        · exact .inr (.inl hexported)
        · exact .inr (.inr (mem_keys_of_dependsOn hexp hall hid he))
      · exact .inr (.inr ((mem_blocks_iff hexp hall b.id).mp hid))
      · exact .inl (List.mem_append_right _ hown)
  · intro id hid
    obtain ⟨b, hb, rfl⟩ := List.mem_map.mp ((mem_blocks_iff hexp hall id).mpr hid)
    obtain ⟨names, heq, -⟩ := (hall b hb).identifiers
    exact ⟨.inr ⟨b, hb, by simp [heq]⟩, .inr ⟨b, hb, by simp [heq]⟩⟩

theorem mem_packages_of_program {file : File} (h : ofGraph g = .ok file) {path : String} :
    path ∈ file.packages ↔ path = pulumiPath ∨
      ∃ id n, g.nodes.find? id = some n ∧ path = n.component.package := by
  obtain ⟨blocks, hexp, hall, rfl⟩ := ofGraph_ok h
  rw [mem_packages_wrap hall]
  refine or_congr_right ⟨?_, ?_⟩
  · rintro ⟨b, hb, rfl⟩
    exact ⟨b.id, b.node, (hall b hb).node, rfl⟩
  · rintro ⟨id, n, hn, rfl⟩
    obtain ⟨b, hb, rfl⟩ := List.mem_map.mp
      ((mem_blocks_iff hexp hall id).mpr (Table.mem_keys_iff.mpr ⟨n, hn⟩))
    cases hn.symm.trans (hall b hb).node
    exact ⟨b, hb, rfl⟩

/-- The words that a program uses are reserved, or have a capital, with two exceptions. -/
theorem own_words : ∀ word ∈ ["main", "ctx", "error"] ++ ["ctx", "err", "_", "Resource"],
    word ∈ reserved ∨ isLocalName word.toList = false ∨ word ∈ ["error", "_"] := by
  decide +kernel

theorem unreserved_words : ∀ word ∈ ["error", "_"],
    word ∉ reserved ∧ word.toList.getLast?.any Char.isDigit = false := by
  decide +kernel

theorem guessName_pulumiPath : guessName pulumiPath ∉ ["error", "_"] := by decide +kernel

section Captures

variable {file : File}

theorem captures_cases (hf : ofGraph g = .ok file) {name : String} (h : file.Captures name) :
    name ∈ ["error", "_"] ∨ name ∈ g.nodes.keys := by
  obtain ⟨hname, hmem⟩ := h
  obtain ⟨e, he, rfl⟩ := List.mem_map.mp hmem
  have hlocal := File.isLocalName_imports he
  rcases (identifiers_of_program hf).1 e.2 hname with hown | hexported | hid
  · rcases own_words e.2 hown with hreserved | hcapital | hword
    · exact absurd hreserved (nameAll_candidate he).1
    · cases hcapital.symm.trans hlocal
    · exact .inl hword
  · cases (Identifier.isLocalName_eq_false_of_isExported hexported).symm.trans hlocal
  · exact .inr hid

/-- The two words are captured by packages that ask for them. No number is put behind
another name to get there: neither ends in a digit. -/
theorem captures_word_iff (hf : ofGraph g = .ok file) {word : String}
    (hword : word ∈ ["error", "_"]) :
    file.Captures word ↔
      ∃ id n, g.nodes.find? id = some n ∧ guessName n.component.package = word := by
  obtain ⟨hfree, hlast⟩ := unreserved_words word hword
  obtain ⟨-, herror, hids⟩ := identifiers_of_program hf
  constructor
  · rintro ⟨-, hmem⟩
    obtain ⟨path, hpath, rfl⟩ := (File.mem_imports_of_word hfree hlast).mp hmem
    rcases (mem_packages_of_program hf).mp hpath with rfl | ⟨id, n, hn, rfl⟩
    · exact absurd hword guessName_pulumiPath
    · exact ⟨id, n, hn, rfl⟩
  · rintro ⟨id, n, hn, hguess⟩
    have hpath := (mem_packages_of_program hf).mpr (.inr ⟨id, n, hn, rfl⟩)
    refine ⟨?_, (File.mem_imports_of_word hfree hlast).mpr ⟨_, hpath, hguess⟩⟩
    rcases List.mem_pair.mp hword with rfl | rfl
    · exact herror
    · exact (hids id (Table.mem_keys_iff.mpr ⟨n, hn⟩)).2

theorem captures_id {path : String} (h : file.Captures (Identifier.component path)) :
    (∃ package ∈ file.packages, ∃ k,
        Identifier.component path = candidate (guessName package) k) ∧
      ∀ c ∈ path.toList.dropWhile Char.isAlphanum, c.isAlpha = false := by
  obtain ⟨e, he, hname⟩ := List.mem_map.mp h.2
  have hlocal := File.isLocalName_imports he
  rw [hname] at hlocal
  obtain ⟨-, k, hk⟩ := nameAll_candidate he
  exact ⟨⟨e.1, File.mem_packages_of_mem_imports he, k, hname ▸ hk⟩,
    Identifier.isAlpha_eq_false_of_component hlocal⟩

end Captures

/-- An import of a program captures no keyword and no name that the program gives to
something of its own. Of all its identifiers it can capture `error`, the blank identifier
and the ids of nodes, and it does capture those that a package asks for. An id with a
capital is safe: its logical path has a letter behind the first dot. -/
theorem captured_identifiers {p : Project} {file : File} (hg : p.graph = .ok g)
    (hf : ofGraph g = .ok file) :
    (∀ e ∈ file.imports, e.2 ∉ keywords ++ ["ctx", "err", "main", "nil", "true", "false"]) ∧
      (∀ name, file.Captures name → name ∈ ["error", "_"] ∨ name ∈ g.nodes.keys) ∧
      (∀ word ∈ ["error", "_"], file.Captures word ↔
        ∃ id n, g.nodes.find? id = some n ∧ guessName n.component.package = word) ∧
      (∀ id n, g.nodes.find? id = some n → file.Captures id →
        (∃ package ∈ file.packages, ∃ k, id = candidate (guessName package) k) ∧
          ∀ c ∈ n.name.toList.dropWhile Char.isAlphanum, c.isAlpha = false) ∧
      ∀ id n, g.nodes.find? id = some n → guessName n.component.package ∈ g.nodes.keys →
        file.Captures (guessName n.component.package) := by
  obtain ⟨owners, hc, -⟩ := Graph.exists_consistent hg
  refine ⟨?_, fun name => captures_cases hf, fun word => captures_word_iff hf, ?_, ?_⟩
  · intro e he
    exact (nameAll_candidate he).1
  · intro id n hn hcaptures
    obtain rfl := hc.named _ _ hn
    exact captures_id hcaptures
  · intro id n hn hid
    refine ⟨((identifiers_of_program hf).2.2 _ hid).1, guessName_mem_nameAll ?_ ?_⟩
    · exact (mem_packages_of_program hf).mpr (.inr ⟨id, n, hn, rfl⟩)
    · -- an id ends in a digest, which no reserved word does
      obtain ⟨m, hm⟩ := Table.mem_keys_iff.mp hid
      rw [hc.named _ _ hm]
      exact Identifier.component_notMem (by decide) _

theorem captured_identifiers_shop :
    ∃ g file, shop.graph = .ok g ∧ ofGraph g = .ok file ∧
      (∀ e ∈ file.imports, e.2 ∉ keywords ++ ["ctx", "err", "main", "nil", "true", "false"]) ∧
      ∀ name, file.Captures name → name ∈ ["error", "_"] ∨ name ∈ g.nodes.keys := by
  obtain ⟨g, file, hg, hf⟩ := exists_shop_file
  have hcaptured := captured_identifiers hg hf
  exact ⟨g, file, hg, hf, hcaptured.1, hcaptured.2.1⟩

def hidden : Project where
  workloads :=
    [⟨"", Table.ofList [("name", .string "1")], Table.empty, none,
      Table.ofList [("a", ⟨"blank", none, none, none, none⟩),
        ("b", ⟨"own", none, none, none, none⟩)]⟩]
  workloadComponent := ⟨"example.com/error", "New", "Args"⟩
  library :=
    [⟨⟨"example.com/_", "New", "Args"⟩, "blank", "", ""⟩,
      ⟨⟨"example.com/workload1d9c21205", "New", "Args"⟩, "own", "", ""⟩]

theorem hidden_identifiers :
    ∃ g file, hidden.validate = .ok () ∧ hidden.graph = .ok g ∧ ofGraph g = .ok file ∧
      file.Captures "error" ∧ file.Captures "_" ∧ file.Captures "workload1d9c21205" := by
  have hcheck : (hidden.graph.bind ofGraph).toOption.any (fun file =>
      ["error", "_", "workload1d9c21205"].all fun name =>
        file.identifiers.contains name && (file.imports.map Prod.snd).contains name) = true := by
    decide +kernel
  obtain ⟨file, hfile, hcheck⟩ := (Option.any_eq_true _ _).mp hcheck
  obtain ⟨g, hg, hf⟩ := bind_eq_ok.mp (toOption_eq_some.mp hfile)
  simp only [List.all_cons, List.all_nil, Bool.and_true, Bool.and_eq_true,
    List.contains_iff_mem] at hcheck
  exact ⟨g, file, by decide +kernel, hg, hf, hcheck⟩

end Program

end Provision
