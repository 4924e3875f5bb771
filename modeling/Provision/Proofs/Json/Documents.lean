import Mathlib.Data.List.TakeWhile
import Provision.Json.Reader
import Provision.Proofs.Json.Literal

/-!
# Reading what was written

A document that is written over several lines is read back as the same document, but for
two things: a double may come back as another one, and parts that nest deeper than the
reader allows denote nothing. The text of every part is read as if nothing stood around it.
-/

set_option autoImplicit false

namespace Provision.Json

/-! ## Strings -/

theorem hexValue?_digitChar (n : Nat) (h : n < 16) : hexValue? n.digitChar = some n := by
  have hall : ∀ k : Fin 16, hexValue? k.val.digitChar = some k.val := by decide
  exact hall ⟨n, h⟩

theorem readPieces?_bind (piece : Piece) (rest : List Char) :
    ((readPieces? rest).bind fun p => some (piece :: p.1, p.2)) =
      (readPieces? rest).map fun p => (piece :: p.1, p.2) := by
  cases readPieces? rest <;> rfl

/-- A control character is written as a unit by its number. -/
theorem readPieces?_control (c : Char) (hlow : c.toNat < 0x20) (rest : List Char) :
    readPieces? (['\\', 'u', '0', '0'] ++ hexByte c.toNat ++ rest) =
      (readPieces? rest).map fun p => (.unit c.toNat :: p.1, p.2) := by
  have hhi := hexValue?_digitChar (c.toNat / 16 % 16) (by omega)
  have hlo := hexValue?_digitChar (c.toNat % 16) (by omega)
  have hzero : hexValue? '0' = some 0 := by decide
  have hvalue : ((0 * 16 + 0) * 16 + c.toNat / 16 % 16) * 16 + c.toNat % 16 = c.toNat := by
    omega
  simp only [hexByte, List.cons_append, List.nil_append]
  rw [readPieces?]
  simp only [hzero, hhi, hlo, Option.bind_eq_bind, Option.bind_some, hvalue]
  exact readPieces?_bind _ rest

theorem joinPieces?_control (c : Char) (hlow : c.toNat < 0x20) (pieces : List Piece) :
    joinPieces? (.unit c.toNat :: pieces) = (joinPieces? pieces).map (c :: ·) := by
  have hhigh : isHigh c.toNat = false := by
    rw [isHigh, Bool.and_eq_false_iff, decide_eq_false_iff_not]
    omega
  have hnotLow : isLow c.toNat = false := by
    rw [isLow, Bool.and_eq_false_iff, decide_eq_false_iff_not]
    omega
  rw [joinPieces?.eq_def]
  simp only [hhigh, hnotLow, Bool.false_eq_true, if_false, Char.ofNat_toNat]

theorem readPieces?_plain (c : Char) (hlow : ¬ c.toNat < 0x20) (hquote : c ≠ '"')
    (hslash : c ≠ '\\') (rest : List Char) :
    readPieces? (c :: rest) = (readPieces? rest).map fun p => (.char c :: p.1, p.2) := by
  have hplain : ¬ (decide (c.toNat < 0x20) || decide (c = '\\')) = true := by
    simp only [Bool.or_eq_true, decide_eq_true_eq, not_or]
    exact ⟨hlow, hslash⟩
  rw [readPieces?.eq_def]
  split
  · next heq => cases heq
  · next heq => exact absurd (List.cons.inj heq).1 hquote
  · next heq => exact absurd (List.cons.inj heq).1 hslash
  · next heq => exact absurd (List.cons.inj heq).1 hslash
  · next heq =>
    cases heq
    rw [if_neg hplain]
    exact readPieces?_bind _ rest

/-- The escaped form of a character is one piece, which stands for the character. -/
theorem exists_piece (c : Char) :
    ∃ piece : Piece,
      (∀ rest, readPieces? (escapeChar c ++ rest) =
        (readPieces? rest).map fun p => (piece :: p.1, p.2)) ∧
      ∀ pieces, joinPieces? (piece :: pieces) = (joinPieces? pieces).map (c :: ·) := by
  have hchar : ∀ pieces, joinPieces? (.char c :: pieces) = (joinPieces? pieces).map (c :: ·) := by
    intro pieces
    rw [joinPieces?]
  unfold escapeChar
  split
  -- The characters that have no escape of their own.
  case h_8 _ hquote hslash _ _ _ _ _ =>
    by_cases hlow : c.toNat < 0x20
    · rw [if_pos hlow]
      exact ⟨.unit c.toNat, readPieces?_control c hlow, joinPieces?_control c hlow⟩
    · rw [if_neg hlow]
      exact ⟨.char c, readPieces?_plain c hlow hquote hslash, hchar⟩
  all_goals
    refine ⟨.char _, ?_, hchar⟩
    intro rest
    exact readPieces?_bind _ rest

theorem readPieces?_string (cs rest : List Char) :
    ∃ pieces, readPieces? (cs.flatMap escapeChar ++ '"' :: rest) = some (pieces, rest) ∧
      joinPieces? pieces = some cs := by
  induction cs with
  | nil => exact ⟨[], rfl, rfl⟩
  | cons c cs ih =>
    obtain ⟨pieces, hread, hjoin⟩ := ih
    obtain ⟨piece, hpiece, hone⟩ := exists_piece c
    refine ⟨piece :: pieces, ?_, ?_⟩
    · rw [List.flatMap_cons, List.append_assoc, hpiece, hread]
      rfl
    · rw [hone, hjoin]
      rfl

theorem readString?_string (s : String) (rest : List Char) :
    readString? (s.toList.flatMap escapeChar ++ '"' :: rest) = some (some s, rest) := by
  obtain ⟨pieces, hread, hjoin⟩ := readPieces?_string s.toList rest
  rw [readString?, hread]
  simp [hjoin]

/-! ## Documents -/

mutual

/-- Whether every part of a document can be written: integers take 64 bits, doubles are
finite, and nothing is beyond. -/
def Writable : Json → Prop
  | int n => -0x8000000000000000 ≤ n ∧ n < 0x10000000000000000
  | float x => x.isFinite = true
  | array items => WritableItems items
  | object members => WritableMembers members
  | beyond => False
  | _ => True

def WritableItems : List Json → Prop
  | [] => True
  | j :: rest => j.Writable ∧ WritableItems rest

def WritableMembers : List (String × Json) → Prop
  | [] => True
  | (_, j) :: rest => j.Writable ∧ WritableMembers rest

end

mutual

/-- What the text of a document is read as, where `depth` more levels are allowed. -/
def reread (depth : Nat) : Json → Json
  | float x => x.reread
  | array items => within depth (array (rereadItems (depth - 1) items))
  | object members => within depth (object (rereadMembers (depth - 1) members))
  | j => j

def rereadItems (depth : Nat) : List Json → List Json
  | [] => []
  | j :: rest => reread depth j :: rereadItems depth rest

def rereadMembers (depth : Nat) : List (String × Json) → List (String × Json)
  | [] => []
  | (k, j) :: rest => (k, reread depth j) :: rereadMembers depth rest

end

def itemsChars (level : Nat) : List Json → List Char
  | [] => []
  | j :: rest => prettyChars level j ++ prettyItems level rest

def membersChars (level : Nat) : List (String × Json) → List Char
  | [] => []
  | (k, j) :: rest =>
    stringChars k ++ ':' :: ' ' :: prettyChars level j ++ prettyMembers level rest

theorem prettyItems_cons (level : Nat) (j : Json) (rest : List Json) :
    prettyItems level (j :: rest) = ',' :: newline level ++ itemsChars level (j :: rest) := by
  simp [prettyItems, itemsChars]

theorem prettyMembers_cons (level : Nat) (m : String × Json) (rest : List (String × Json)) :
    prettyMembers level (m :: rest) = ',' :: newline level ++ membersChars level (m :: rest) := by
  obtain ⟨k, j⟩ := m
  simp [prettyMembers, membersChars]

theorem prettyChars_array (level : Nat) (j : Json) (rest : List Json) :
    prettyChars level (array (j :: rest)) =
      '[' :: newline (level + 1) ++ itemsChars (level + 1) (j :: rest) ++ newline level ++
        [']'] := by
  simp [prettyChars, itemsChars]

theorem prettyChars_object (level : Nat) (m : String × Json) (rest : List (String × Json)) :
    prettyChars level (object (m :: rest)) =
      '{' :: newline (level + 1) ++ membersChars (level + 1) (m :: rest) ++ newline level
        ++ ['}'] := by
  obtain ⟨k, j⟩ := m
  simp [prettyChars, membersChars]

theorem skipBlanks_blank (c : Char) (cs : List Char) (h : isBlank c = true) :
    skipBlanks (c :: cs) = skipBlanks cs := by
  simp [skipBlanks, h]

theorem skipBlanks_of_not_blank (c : Char) (cs : List Char) (h : isBlank c = false) :
    skipBlanks (c :: cs) = c :: cs := by
  simp [skipBlanks, h]

theorem skipBlanks_newline (level : Nat) (cs : List Char) :
    skipBlanks (newline level ++ cs) = skipBlanks cs := by
  have hspaces : ∀ n, skipBlanks (List.replicate n ' ' ++ cs) = skipBlanks cs := by
    intro n
    induction n with
    | zero => rfl
    | succ n ih =>
      rw [List.replicate_succ, List.cons_append, skipBlanks_blank _ _ (by decide), ih]
  rw [newline, List.cons_append, skipBlanks_blank _ _ (by decide), hspaces]

def Opens (cs : List Char) : Prop := ∃ c rest, cs = c :: rest ∧ isBlank c = false ∧ c ≠ ']'

theorem Opens.append {cs : List Char} (h : Opens cs) (more : List Char) : Opens (cs ++ more) := by
  obtain ⟨c, rest, rfl, hb, hc⟩ := h
  exact ⟨c, rest ++ more, rfl, hb, hc⟩

theorem Opens.skipBlanks {cs : List Char} (h : Opens cs) : skipBlanks cs = cs := by
  obtain ⟨c, rest, rfl, hb, -⟩ := h
  exact skipBlanks_of_not_blank c rest hb

/-- A literal begins with a minus sign or a digit. -/
theorem Literal.exists_head (l : Literal) (h : l.Proper) :
    ∃ c cs, l.chars = c :: cs ∧ (c = '-' ∨ c.isDigit = true) := by
  obtain ⟨negative, whole, fraction, exponent⟩ := l
  obtain ⟨d, ds, rfl⟩ : ∃ d ds, whole = d :: ds := List.exists_cons_of_ne_nil h.whole.1
  cases negative with
  | true => exact ⟨'-', _, rfl, .inl rfl⟩
  | false => exact ⟨d, _, rfl, .inr (h.whole.2 d (by simp))⟩

theorem prettyChars_int (level : Nat) (n : Int) :
    prettyChars level (int n) = (toString n).toList := by
  simp [prettyChars, scalarChars]

theorem prettyChars_float (level : Nat) (x : Double) :
    prettyChars level (float x) = (DoubleNotation.document.write x).toList := by
  simp [prettyChars, scalarChars]

theorem opens_of_numeric (c : Char) (cs : List Char) (h : c = '-' ∨ c.isDigit = true) :
    Opens (c :: cs) := by
  refine ⟨c, cs, rfl, ?_, ?_⟩
  · rcases h with rfl | h
    · decide
    · cases hb : isBlank c with
      | false => rfl
      | true =>
        simp only [isBlank, Bool.or_eq_true, decide_eq_true_eq] at hb
        rcases hb with ((rfl | rfl) | rfl) | rfl <;> exact absurd h (by decide)
  · rintro rfl
    rcases h with h | h <;> exact absurd h (by decide)

theorem opens_pretty (level : Nat) (j : Json) (h : j.Writable) : Opens (prettyChars level j) := by
  match j with
  | null => exact ⟨'n', _, rfl, by decide, by decide⟩
  | bool true => exact ⟨'t', _, rfl, by decide, by decide⟩
  | bool false => exact ⟨'f', _, rfl, by decide, by decide⟩
  | int n =>
    obtain ⟨l, hl, htext, -⟩ := Literal.exists_int n h.1 h.2
    obtain ⟨c, cs, hc, hhead⟩ := l.exists_head hl
    rw [prettyChars_int, htext, hc]
    exact opens_of_numeric c cs hhead
  | float x =>
    obtain ⟨l, hl, htext, -⟩ := Literal.exists_double x h
    obtain ⟨c, cs, hc, hhead⟩ := l.exists_head hl
    rw [prettyChars_float, htext, hc]
    exact opens_of_numeric c cs hhead
  | string s => exact ⟨'"', _, rfl, by decide, by decide⟩
  | array [] => exact ⟨'[', _, rfl, by decide, by decide⟩
  | array (_ :: _) => exact ⟨'[', _, rfl, by decide, by decide⟩
  | object [] => exact ⟨'{', _, rfl, by decide, by decide⟩
  | object ((_, _) :: _) => exact ⟨'{', _, rfl, by decide, by decide⟩

theorem opens_items (level : Nat) (j : Json) (rest : List Json) (h : j.Writable)
    (more : List Char) : Opens (itemsChars level (j :: rest) ++ more) :=
  ((opens_pretty level j h).append _).append more

theorem opens_members (level : Nat) (m : String × Json) (rest : List (String × Json))
    (more : List Char) : Opens (membersChars level (m :: rest) ++ more) :=
  ⟨'"', _, rfl, by decide, by decide⟩

theorem readValue?_literal (l : Literal) (fuel depth : Nat) (cs rest : List Char) (hl : l.Proper)
    (hr : EndsNumber rest) (hcs : skipBlanks cs = l.chars ++ rest) :
    readValue? (fuel + 1) depth cs = some (l.json, rest) := by
  obtain ⟨c, more, hc, hhead⟩ := l.exists_head hl
  have hread := l.read?_chars rest hl hr
  have hnot : ∀ d : Char, d.isDigit = false → d ≠ '-' → c ≠ d := by
    rintro d hd hm rfl
    rcases hhead with h | h
    · exact hm h
    · rw [hd] at h
      cases h
  rw [readValue?, hcs]
  rw [hc] at hread ⊢
  split
  · next heq => exact absurd (List.cons.inj heq).1 (hnot 'n' (by decide) (by decide))
  · next heq => exact absurd (List.cons.inj heq).1 (hnot 't' (by decide) (by decide))
  · next heq => exact absurd (List.cons.inj heq).1 (hnot 'f' (by decide) (by decide))
  · next heq => exact absurd (List.cons.inj heq).1 (hnot '"' (by decide) (by decide))
  · next heq => exact absurd (List.cons.inj heq).1 (hnot '[' (by decide) (by decide))
  · next heq => exact absurd (List.cons.inj heq).1 (hnot '{' (by decide) (by decide))
  · rw [hread]
    rfl

/-- All keys of an object that is written have a text. -/
theorem objectOf_some (members : List (String × Json)) :
    objectOf (members.map fun m => (some m.1, m.2)) = object members := by
  have hmap : (members.map fun m => (some m.1, m.2)).mapM
      (fun m : Option String × Json => m.1.map fun k => (k, m.2)) = some members := by
    induction members with
    | nil => rfl
    | cons m rest ih =>
      rw [List.map_cons, List.mapM_cons, ih]
      rfl
  rw [objectOf, hmap]

theorem endsNumber_of_mark (c : Char) (rest : List Char)
    (h : c = ',' ∨ c = '\n' ∨ c = ']' ∨ c = '}') : EndsNumber (c :: rest) := by
  intro d hd
  cases Option.mem_some.mp hd
  rcases h with rfl | rfl | rfl | rfl <;> decide

mutual

/-- A part of a document is read from its text, whatever blanks stand before it. -/
theorem readValue?_pretty (j : Json) (level depth fuel : Nat) (cs rest : List Char)
    (h : j.Writable) (hcs : skipBlanks cs = prettyChars level j ++ rest) (hr : EndsNumber rest)
    (hf : 2 * (prettyChars level j).length ≤ fuel) :
    readValue? fuel depth cs = some (j.reread depth, rest) := by
  -- Two units of fuel for each character leave enough for every part, since a container and
  -- its list of parts take one each and a container has a bracket at both ends.
  obtain ⟨c, more, hopens, -, -⟩ := opens_pretty level j h
  obtain ⟨fuel, rfl⟩ : ∃ n, fuel = n + 1 := by
    rw [hopens, List.length_cons] at hf
    exact ⟨fuel - 1, by omega⟩
  match j with
  | null =>
    rw [readValue?, hcs]
    rfl
  | bool true =>
    rw [readValue?, hcs]
    rfl
  | bool false =>
    rw [readValue?, hcs]
    rfl
  | int n =>
    obtain ⟨l, hl, htext, hjson⟩ := Literal.exists_int n h.1 h.2
    rw [prettyChars_int, htext] at hcs
    rw [readValue?_literal l fuel depth cs rest hl hr hcs, hjson]
    rfl
  | float x =>
    obtain ⟨l, hl, htext, hjson⟩ := Literal.exists_double x h
    rw [prettyChars_float, htext] at hcs
    rw [readValue?_literal l fuel depth cs rest hl hr hcs, hjson]
    rfl
  | string s =>
    have htext : prettyChars level (string s) ++ rest =
        '"' :: (s.toList.flatMap escapeChar ++ '"' :: rest) := by
      simp [prettyChars, scalarChars, stringChars]
    rw [readValue?, hcs, htext]
    simp only [readString?_string]
    rfl
  | array [] =>
    rw [readValue?, hcs]
    rfl
  | array (j :: items) =>
    have htext : prettyChars level (array (j :: items)) ++ rest =
        '[' :: (newline (level + 1) ++ (itemsChars (level + 1) (j :: items) ++
          (newline level ++ ']' :: rest))) := by
      simp [prettyChars_array]
    have hx := opens_items (level + 1) j items h.1 (newline level ++ ']' :: rest)
    have hbody := readItems?_pretty (j :: items) (level + 1) level (depth - 1) fuel _ rest h
      (by simp) hx.skipBlanks (by simp [prettyChars_array] at hf; omega)
    rw [readValue?, hcs, htext]
    simp only [skipBlanks_newline, hx.skipBlanks]
    split
    · next heq =>
      obtain ⟨c, more, hc, -, hne⟩ := hx
      exact absurd (List.cons.inj (hc.symm.trans heq)).1 hne
    · rw [hbody]
      rfl
  | object [] =>
    rw [readValue?, hcs]
    rfl
  | object (m :: members) =>
    have htext : prettyChars level (object (m :: members)) ++ rest =
        '{' :: (newline (level + 1) ++ (membersChars (level + 1) (m :: members) ++
          (newline level ++ '}' :: rest))) := by
      simp [prettyChars_object]
    have hx := opens_members (level + 1) m members (newline level ++ '}' :: rest)
    have hbody := readMembers?_pretty (m :: members) (level + 1) level (depth - 1) fuel _ rest h
      (by simp) hx.skipBlanks (by simp [prettyChars_object] at hf; omega)
    rw [readValue?, hcs, htext]
    simp only [skipBlanks_newline, hx.skipBlanks]
    split
    · next heq =>
      obtain ⟨k, j⟩ := m
      exact absurd (List.cons.inj heq).1 (by decide)
    · rw [hbody]
      simp only [Option.bind_eq_bind, Option.bind_some, objectOf_some]
      rfl

theorem readItems?_pretty (items : List Json) (level outer depth fuel : Nat) (cs rest : List Char)
    (h : WritableItems items) (hne : items ≠ [])
    (hcs : skipBlanks cs = itemsChars level items ++ (newline outer ++ ']' :: rest))
    (hf : 2 * (itemsChars level items).length + 1 ≤ fuel) :
    readItems? fuel depth cs = some (rereadItems depth items, rest) := by
  obtain ⟨fuel, rfl⟩ : ∃ n, fuel = n + 1 := ⟨fuel - 1, by omega⟩
  match items with
  | [] => exact absurd rfl hne
  | [j] =>
    simp only [itemsChars, prettyItems, List.append_nil] at hcs hf
    have hj := readValue?_pretty j level depth fuel cs _ h.1 hcs
      (endsNumber_of_mark _ _ (by simp)) (by omega)
    rw [readItems?, hj]
    simp only [Option.bind_eq_bind, Option.bind_some, skipBlanks_newline]
    rfl
  | j :: k :: rest' =>
    have htext : itemsChars level (j :: k :: rest') ++ (newline outer ++ ']' :: rest) =
        prettyChars level j ++ (',' :: (newline level ++ (itemsChars level (k :: rest') ++
          (newline outer ++ ']' :: rest)))) := by
      simp [itemsChars, prettyItems_cons]
    simp only [itemsChars, prettyItems_cons, List.length_append, List.length_cons] at hf
    have hj := readValue?_pretty j level depth fuel cs _ h.1 (hcs.trans htext)
      (endsNumber_of_mark _ _ (by simp)) (by omega)
    have hx := opens_items level k rest' h.2.1 (newline outer ++ ']' :: rest)
    have hrest := readItems?_pretty (k :: rest') level outer depth fuel _ rest h.2 (by simp)
      ((skipBlanks_newline level _).trans hx.skipBlanks)
      (by simp only [itemsChars, List.length_append]; omega)
    rw [readItems?, hj]
    simp only [Option.bind_eq_bind, Option.bind_some]
    rw [skipBlanks_of_not_blank _ _ (by decide)]
    simp only [hrest]
    rfl

theorem readMembers?_pretty (members : List (String × Json)) (level outer depth fuel : Nat)
    (cs rest : List Char) (h : WritableMembers members) (hne : members ≠ [])
    (hcs : skipBlanks cs = membersChars level members ++ (newline outer ++ '}' :: rest))
    (hf : 2 * (membersChars level members).length + 1 ≤ fuel) :
    readMembers? fuel depth cs =
      some ((rereadMembers depth members).map fun m => (some m.1, m.2), rest) := by
  obtain ⟨fuel, rfl⟩ : ∃ n, fuel = n + 1 := ⟨fuel - 1, by omega⟩
  match members with
  | [] => exact absurd rfl hne
  | [(k, j)] =>
    have htext : membersChars level [(k, j)] ++ (newline outer ++ '}' :: rest) =
        '"' :: (k.toList.flatMap escapeChar ++ '"' :: (':' :: ' ' :: (prettyChars level j ++
          (newline outer ++ '}' :: rest)))) := by
      simp [membersChars, stringChars, prettyMembers]
    simp only [membersChars, prettyMembers, List.length_append, List.length_cons,
      List.length_nil] at hf
    have hx := (opens_pretty level j h.1).append (newline outer ++ '}' :: rest)
    have hj := readValue?_pretty j level depth fuel
      (' ' :: (prettyChars level j ++ (newline outer ++ '}' :: rest))) _ h.1
      ((skipBlanks_blank ' ' _ (by decide)).trans hx.skipBlanks)
      (endsNumber_of_mark _ _ (by simp)) (by omega)
    rw [readMembers?, hcs, htext]
    simp only [readString?_string, Option.bind_eq_bind, Option.bind_some]
    rw [skipBlanks_of_not_blank _ _ (by decide)]
    simp only [hj, Option.bind_some, skipBlanks_newline]
    rfl
  | (k, j) :: m :: rest' =>
    have htext : membersChars level ((k, j) :: m :: rest') ++ (newline outer ++ '}' :: rest) =
        '"' :: (k.toList.flatMap escapeChar ++ '"' :: (':' :: ' ' :: (prettyChars level j ++
          (',' :: (newline level ++ (membersChars level (m :: rest') ++
            (newline outer ++ '}' :: rest))))))) := by
      simp [membersChars, stringChars, prettyMembers_cons]
    simp only [membersChars, prettyMembers_cons, List.length_append, List.length_cons] at hf
    have hx := (opens_pretty level j h.1).append
      (',' :: (newline level ++ (membersChars level (m :: rest') ++
        (newline outer ++ '}' :: rest))))
    have hj := readValue?_pretty j level depth fuel
      (' ' :: (prettyChars level j ++ (',' :: (newline level ++
        (membersChars level (m :: rest') ++ (newline outer ++ '}' :: rest)))))) _ h.1
      ((skipBlanks_blank ' ' _ (by decide)).trans hx.skipBlanks)
      (endsNumber_of_mark _ _ (by simp)) (by omega)
    have hy := opens_members level m rest' (newline outer ++ '}' :: rest)
    have hrest := readMembers?_pretty (m :: rest') level outer depth fuel _ rest h.2 (by simp)
      ((skipBlanks_newline level _).trans hy.skipBlanks)
      (by simp only [membersChars, List.length_append, List.length_cons]; omega)
    rw [readMembers?, hcs, htext]
    simp only [readString?_string, Option.bind_eq_bind, Option.bind_some]
    rw [skipBlanks_of_not_blank _ _ (by decide)]
    simp only [hj, Option.bind_some]
    rw [skipBlanks_of_not_blank _ _ (by decide)]
    simp only [hrest]
    rfl

end

/-- The text of a document, and blanks after it, are read as the document within the levels
that the reader allows. -/
theorem read?_pretty (j : Json) (blanks : String) (h : j.Writable)
    (hb : ∀ c ∈ blanks.toList, isBlank c = true) :
    read? (j.pretty ++ blanks) = some (j.reread levels) := by
  have hskip : ∀ cs : List Char, (∀ c ∈ cs, isBlank c = true) → skipBlanks cs = [] := by
    intro cs hcs
    exact List.dropWhile_eq_nil_iff.mpr hcs
  have hends : EndsNumber blanks.toList := by
    intro c hc
    have hmem : c ∈ blanks.toList := List.mem_of_mem_head? hc
    have hblank := hb c hmem
    simp only [isBlank, Bool.or_eq_true, decide_eq_true_eq] at hblank
    rcases hblank with ((rfl | rfl) | rfl) | rfl <;> decide
  have hx := (opens_pretty 0 j h).append blanks.toList
  have htext : (j.pretty ++ blanks).toList = prettyChars 0 j ++ blanks.toList := by
    simp [pretty]
  rw [read?, htext]
  rw [readValue?_pretty j 0 levels _ _ blanks.toList h hx.skipBlanks hends
    (by rw [List.length_append]; omega)]
  simp only [hskip _ hb]
  rfl

/-! ## Documents that come back -/

mutual

def depth : Json → Nat
  | array items => depthOfItems items + 1
  | object members => depthOfMembers members + 1
  | _ => 0

def depthOfItems : List Json → Nat
  | [] => 0
  | j :: rest => max j.depth (depthOfItems rest)

def depthOfMembers : List (String × Json) → Nat
  | [] => 0
  | (_, j) :: rest => max j.depth (depthOfMembers rest)

end

mutual

def doubles : Json → List Double
  | float x => [x]
  | array items => doublesOfItems items
  | object members => doublesOfMembers members
  | _ => []

def doublesOfItems : List Json → List Double
  | [] => []
  | j :: rest => j.doubles ++ doublesOfItems rest

def doublesOfMembers : List (String × Json) → List Double
  | [] => []
  | (_, j) :: rest => j.doubles ++ doublesOfMembers rest

end

mutual

/-- A document that nests no deeper than is allowed, with doubles that read back, reads back
itself. -/
theorem reread_eq (j : Json) (d : Nat) (hd : j.depth ≤ d)
    (hx : ∀ x ∈ j.doubles, x.readsBack = true) : j.reread d = j := by
  match j with
  | null => rfl
  | bool _ => rfl
  | int _ => rfl
  | string _ => rfl
  | beyond => rfl
  | float x => exact Double.reread_of_readsBack (hx x (by simp [doubles]))
  | array items =>
    simp only [depth] at hd
    rw [reread, rereadItems_eq items (d - 1) (by omega) hx, within, if_neg (by omega)]
  | object members =>
    simp only [depth] at hd
    rw [reread, rereadMembers_eq members (d - 1) (by omega) hx, within, if_neg (by omega)]

theorem rereadItems_eq (items : List Json) (d : Nat) (hd : depthOfItems items ≤ d)
    (hx : ∀ x ∈ doublesOfItems items, x.readsBack = true) : rereadItems d items = items := by
  match items with
  | [] => rfl
  | j :: rest =>
    simp only [depthOfItems] at hd
    rw [rereadItems, reread_eq j d (by omega) fun x h => hx x (List.mem_append_left _ h),
      rereadItems_eq rest d (by omega) fun x h => hx x (List.mem_append_right _ h)]

theorem rereadMembers_eq (members : List (String × Json)) (d : Nat)
    (hd : depthOfMembers members ≤ d)
    (hx : ∀ x ∈ doublesOfMembers members, x.readsBack = true) :
    rereadMembers d members = members := by
  match members with
  | [] => rfl
  | (k, j) :: rest =>
    simp only [depthOfMembers] at hd
    rw [rereadMembers, reread_eq j d (by omega) fun x h => hx x (List.mem_append_left _ h),
      rereadMembers_eq rest d (by omega) fun x h => hx x (List.mem_append_right _ h)]

end

end Provision.Json
