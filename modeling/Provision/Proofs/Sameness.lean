import Provision.Proofs.Scope.Resolution

/-!
# Sameness of trees

Two declarations of a resource agree when their parameters are the same tree. Doubles
are compared as numbers, so sameness is weaker than equality on zeros, and a tree
with a not-a-number in it is not the same as itself. It is symmetric and transitive
nevertheless, and trees that are the same hold the same strings.
-/

set_option autoImplicit false

namespace Provision

namespace Double

theorem alike_symm {x y : Double} (h : x.alike y = true) : y.alike x = true := by
  simp only [alike, Bool.and_eq_true, Bool.or_eq_true, Bool.not_eq_true', decide_eq_true_eq] at h ⊢
  obtain ⟨⟨hx, hy⟩, hbits | ⟨hzx, hzy⟩⟩ := h
  · exact ⟨⟨hy, hx⟩, .inl hbits.symm⟩
  · exact ⟨⟨hy, hx⟩, .inr ⟨hzy, hzx⟩⟩

theorem eq_of_bits {x y : Double} (h : x.bits = y.bits) : x = y := by
  cases x
  cases y
  exact congrArg Double.mk h

theorem alike_trans {x y z : Double} (hxy : x.alike y = true) (hyz : y.alike z = true) :
    x.alike z = true := by
  simp only [alike, Bool.and_eq_true, Bool.or_eq_true, Bool.not_eq_true', decide_eq_true_eq]
    at hxy hyz ⊢
  obtain ⟨⟨hx, -⟩, hxy⟩ := hxy
  obtain ⟨⟨-, hz⟩, hyz⟩ := hyz
  refine ⟨⟨hx, hz⟩, ?_⟩
  rcases hxy with hbits | ⟨hzx, hzy⟩
  · cases eq_of_bits hbits
    exact hyz
  · rcases hyz with hbits | ⟨-, hzz⟩
    · cases eq_of_bits hbits
      exact .inr ⟨hzx, hzy⟩
    · exact .inr ⟨hzx, hzz⟩

theorem alike_self (x : Double) : x.alike x = !x.isNaN := by
  cases h : x.isNaN <;> simp [alike, h]

end Double

namespace Value

/-- What is the same as a value: a value of its kind, with the same parts. -/
theorem same_cases {a b : Value} (h : same a b = true) :
    match a with
    | .float x => ∃ y, b = .float y ∧ x.alike y = true
    | .list as => ∃ bs, b = .list bs ∧ sameItems as bs = true
    | .map as => ∃ bs, b = .map bs ∧ sameEntries as bs = true
    | a => b = a := by
  cases a <;> cases b <;> simp only [same, decide_eq_true_eq, Bool.false_eq_true] at h <;> simp [h]

theorem sameItems_nil {bs : List Value} (h : sameItems [] bs = true) : bs = [] := by
  cases bs with
  | nil => rfl
  | cons => cases h

theorem sameEntries_nil {bs : List (String × Value)} (h : sameEntries [] bs = true) : bs = [] := by
  cases bs with
  | nil => rfl
  | cons => cases h

theorem sameItems_cons {a : Value} {as bs : List Value} (h : sameItems (a :: as) bs = true) :
    ∃ b rest, bs = b :: rest ∧ same a b = true ∧ sameItems as rest = true := by
  cases bs with
  | nil => cases h
  | cons b rest => exact ⟨b, rest, rfl, by simpa [sameItems] using h⟩

theorem sameEntries_cons {k : String} {a : Value} {as bs : List (String × Value)}
    (h : sameEntries ((k, a) :: as) bs = true) :
    ∃ b rest, bs = (k, b) :: rest ∧ same a b = true ∧ sameEntries as rest = true := by
  cases bs with
  | nil => cases h
  | cons e rest =>
    obtain ⟨l, b⟩ := e
    simp only [sameEntries, Bool.and_eq_true, decide_eq_true_eq] at h
    obtain ⟨⟨rfl, hb⟩, hrest⟩ := h
    exact ⟨b, rest, rfl, hb, hrest⟩

mutual

theorem same_symm {a b : Value} (h : same a b = true) : same b a = true := by
  match a with
  | .null => cases same_cases h; rfl
  | .bool _ => cases same_cases h; exact h
  | .int _ => cases same_cases h; exact h
  | .string _ => cases same_cases h; exact h
  | .float _ =>
    obtain ⟨y, rfl, hy⟩ := same_cases h
    exact Double.alike_symm hy
  | .list _ =>
    obtain ⟨bs, rfl, hbs⟩ := same_cases h
    exact sameItems_symm hbs
  | .map _ =>
    obtain ⟨bs, rfl, hbs⟩ := same_cases h
    exact sameEntries_symm hbs

theorem sameItems_symm {as bs : List Value} (h : sameItems as bs = true) :
    sameItems bs as = true := by
  match as with
  | [] => cases sameItems_nil h; rfl
  | a :: as =>
    obtain ⟨b, rest, rfl, hb, hrest⟩ := sameItems_cons h
    rw [sameItems, same_symm hb, sameItems_symm hrest]
    rfl

theorem sameEntries_symm {as bs : List (String × Value)} (h : sameEntries as bs = true) :
    sameEntries bs as = true := by
  match as with
  | [] => cases sameEntries_nil h; rfl
  | (k, a) :: as =>
    obtain ⟨b, rest, rfl, hb, hrest⟩ := sameEntries_cons h
    rw [sameEntries, same_symm hb, sameEntries_symm hrest]
    simp

end

mutual

theorem same_trans {a b c : Value} (hab : same a b = true) (hbc : same b c = true) :
    same a c = true := by
  match a with
  | .null => cases same_cases hab; exact hbc
  | .bool _ => cases same_cases hab; exact hbc
  | .int _ => cases same_cases hab; exact hbc
  | .string _ => cases same_cases hab; exact hbc
  | .float _ =>
    obtain ⟨y, rfl, hy⟩ := same_cases hab
    obtain ⟨z, rfl, hz⟩ := same_cases hbc
    exact Double.alike_trans hy hz
  | .list _ =>
    obtain ⟨bs, rfl, hbs⟩ := same_cases hab
    obtain ⟨cs, rfl, hcs⟩ := same_cases hbc
    exact sameItems_trans hbs hcs
  | .map _ =>
    obtain ⟨bs, rfl, hbs⟩ := same_cases hab
    obtain ⟨cs, rfl, hcs⟩ := same_cases hbc
    exact sameEntries_trans hbs hcs

theorem sameItems_trans {as bs cs : List Value} (hab : sameItems as bs = true)
    (hbc : sameItems bs cs = true) : sameItems as cs = true := by
  match as with
  | [] => cases sameItems_nil hab; exact hbc
  | a :: as =>
    obtain ⟨b, bs, rfl, hb, hbs⟩ := sameItems_cons hab
    obtain ⟨c, cs, rfl, hc, hcs⟩ := sameItems_cons hbc
    rw [sameItems, same_trans hb hc, sameItems_trans hbs hcs]
    rfl

theorem sameEntries_trans {as bs cs : List (String × Value)} (hab : sameEntries as bs = true)
    (hbc : sameEntries bs cs = true) : sameEntries as cs = true := by
  match as with
  | [] => cases sameEntries_nil hab; exact hbc
  | (k, a) :: as =>
    obtain ⟨b, bs, rfl, hb, hbs⟩ := sameEntries_cons hab
    obtain ⟨c, cs, rfl, hc, hcs⟩ := sameEntries_cons hbc
    rw [sameEntries, same_trans hb hc, sameEntries_trans hbs hcs]
    simp

end

mutual

theorem strings_of_same {a b : Value} (h : same a b = true) : b.strings = a.strings := by
  match a with
  | .null => cases same_cases h; rfl
  | .bool _ => cases same_cases h; rfl
  | .int _ => cases same_cases h; rfl
  | .string _ => cases same_cases h; rfl
  | .float _ =>
    obtain ⟨y, rfl, -⟩ := same_cases h
    rfl
  | .list _ =>
    obtain ⟨bs, rfl, hbs⟩ := same_cases h
    exact stringsOfItems_of_same hbs
  | .map _ =>
    obtain ⟨bs, rfl, hbs⟩ := same_cases h
    exact stringsOfEntries_of_same hbs

theorem stringsOfItems_of_same {as bs : List Value} (h : sameItems as bs = true) :
    stringsOfItems bs = stringsOfItems as := by
  match as with
  | [] => cases sameItems_nil h; rfl
  | a :: as =>
    obtain ⟨b, rest, rfl, hb, hrest⟩ := sameItems_cons h
    rw [stringsOfItems, stringsOfItems, strings_of_same hb, stringsOfItems_of_same hrest]

/-- Trees that are the same hold the same strings, in the same order. -/
theorem stringsOfEntries_of_same {as bs : List (String × Value)} (h : sameEntries as bs = true) :
    stringsOfEntries bs = stringsOfEntries as := by
  match as with
  | [] => cases sameEntries_nil h; rfl
  | (k, a) :: as =>
    obtain ⟨b, rest, rfl, hb, hrest⟩ := sameEntries_cons h
    rw [stringsOfEntries, stringsOfEntries, strings_of_same hb, stringsOfEntries_of_same hrest]

end

mutual

def hasNaN : Value → Bool
  | .float x => x.isNaN
  | .list items => hasNaNItems items
  | .map entries => hasNaNEntries entries
  | _ => false

def hasNaNItems : List Value → Bool
  | [] => false
  | v :: rest => v.hasNaN || hasNaNItems rest

def hasNaNEntries : List (String × Value) → Bool
  | [] => false
  | (_, v) :: rest => v.hasNaN || hasNaNEntries rest

end

mutual

/-- Not-a-numbers are all that keeps a value from being the same as itself. -/
theorem same_self (v : Value) : same v v = !v.hasNaN := by
  match v with
  | .null => rfl
  | .bool _ => simp [same, hasNaN]
  | .int _ => simp [same, hasNaN]
  | .string _ => simp [same, hasNaN]
  | .float x => exact x.alike_self
  | .list items => exact sameItems_self items
  | .map entries => exact sameEntries_self entries

theorem sameItems_self (vs : List Value) : sameItems vs vs = !hasNaNItems vs := by
  match vs with
  | [] => rfl
  | v :: rest => rw [sameItems, hasNaNItems, same_self, sameItems_self, Bool.not_or]

theorem sameEntries_self (es : List (String × Value)) :
    sameEntries es es = !hasNaNEntries es := by
  match es with
  | [] => rfl
  | (k, v) :: rest =>
    rw [sameEntries, hasNaNEntries, same_self, sameEntries_self, Bool.not_or]
    simp

end

end Value

end Provision
