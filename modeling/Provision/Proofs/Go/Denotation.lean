import Provision.Proofs.Go.Quoted

/-!
# What a string literal denotes

A string of Go is a sequence of bytes. Between its quotes a literal is a sequence of units:
an escape by number is a byte or a code point, an escape by letter and any other character
are code points, and a code point stands for its bytes in UTF-8. The literal of a string
denotes the bytes of the string. It ends at its own closing quote whatever follows it, and
holds no control character.
-/

set_option autoImplicit false

namespace Provision.Go.Quoted

theorem readDigits?_length {width n : Nat} {cs rest : List Char}
    (h : readDigits? width cs = some (n, rest)) : rest.length ≤ cs.length := by
  unfold readDigits? at h
  split at h
  · cases h
  · obtain ⟨m, -, hm⟩ := Option.map_eq_some_iff.mp h
    cases hm
    simp

theorem readUnit?_length {cs rest : List Char} {bytes : List UInt8}
    (h : readUnit? cs = some (bytes, rest)) : rest.length < cs.length := by
  unfold readUnit? at h
  split at h
  · cases h
  · cases h
  · obtain ⟨⟨n, after⟩, hn, hr⟩ := Option.map_eq_some_iff.mp h
    cases hr
    have := readDigits?_length hn
    simp only [List.length_cons]
    omega
  · obtain ⟨⟨n, after⟩, hn, hr⟩ := Option.bind_eq_some_iff.mp h
    have := readDigits?_length hn
    split at hr
    · cases hr
      simp only [List.length_cons]
      omega
    · cases hr
  · obtain ⟨d, -, hd⟩ := Option.map_eq_some_iff.mp h
    cases hd
    simp only [List.length_cons]
    omega
  · split at h
    · cases h
    · cases h
      simp

def readUnits? (cs : List Char) : Option (List UInt8 × List Char) :=
  if cs.head? = some '"' then some ([], cs.tail)
  else
    match _unit : readUnit? cs with
    | none => none
    | some (bytes, rest) => (readUnits? rest).map fun r => (bytes ++ r.1, r.2)
termination_by cs.length
decreasing_by exact readUnit?_length _unit

def readLiteral? : List Char → Option (List UInt8 × List Char)
  | '"' :: rest => readUnits? rest
  | _ => none

/-- The bytes that a text denotes, if it is a literal and nothing else. -/
def denoted? (text : String) : Option ByteArray :=
  match readLiteral? text.toList with
  | some (bytes, []) => some bytes.toByteArray
  | _ => none

theorem head?_escape_ne_quote (c : Char) (rest : List Char) :
    (escape c ++ rest).head? ≠ some '"' := by
  unfold escape
  split
  case h_10 hquote _ _ _ _ _ _ _ _ =>
    split
    · simp
    · split
      · simp
      · simpa using fun h => hquote h
  all_goals simp

/-- The characters of a string denote its bytes, up to the quote that closes the literal. -/
theorem readUnits?_flatMap_escape (s rest : List Char) :
    readUnits? (s.flatMap escape ++ '"' :: rest) = some (s.flatMap String.utf8EncodeChar, rest) := by
  induction s with
  | nil => rw [readUnits?]; rfl
  | cons c s ih =>
    rw [List.flatMap_cons, List.append_assoc, readUnits?,
      if_neg (head?_escape_ne_quote c _)]
    split
    · next h =>
      rw [readUnit?_escape] at h
      cases h
    · next bytes more h =>
      rw [readUnit?_escape] at h
      cases h
      rw [ih]
      rfl

/-- A control character: a code point below that of the blank, the one that deletes, or one
of the second set of controls that follows it. -/
def IsControl (c : Char) : Prop := c.toNat < 0x20 ∨ 0x7f ≤ c.toNat ∧ c.toNat < 0xa0

instance (c : Char) : Decidable (IsControl c) := inferInstanceAs (Decidable (_ ∨ _))

/-- Whether a quote stands in a text that no backslash escapes. -/
def bareQuote : List Char → Bool
  | [] => false
  | '\\' :: _ :: rest => bareQuote rest
  | c :: rest => c = '"' || bareQuote rest

theorem mem_hexDigits {width n : Nat} {c : Char} (h : c ∈ hexDigits width n) :
    ∃ d < 16, c = Nat.digitChar d := by
  obtain ⟨i, -, rfl⟩ := List.mem_map.mp h
  exact ⟨_, Nat.mod_lt _ (by decide), rfl⟩

theorem hexDigits_printed {width n : Nat} {c : Char} (h : c ∈ hexDigits width n) :
    ¬ IsControl c ∧ c ≠ '"' ∧ c ≠ '\\' := by
  have hall : ∀ d < 16, ¬ IsControl (Nat.digitChar d) ∧ Nat.digitChar d ≠ '"' ∧
      Nat.digitChar d ≠ '\\' := by decide
  obtain ⟨d, hd, rfl⟩ := mem_hexDigits h
  exact hall d hd

/-- No character is written with a control character. -/
theorem escape_printed (c : Char) : ∀ d ∈ escape c, ¬ IsControl d := by
  have hhex : ∀ {letter : Char} {width n : Nat}, ¬ IsControl letter →
      ∀ d ∈ ['\\', letter] ++ hexDigits width n, ¬ IsControl d := by
    intro letter width n hletter d hd
    simp only [List.cons_append, List.nil_append, List.mem_cons] at hd
    rcases hd with rfl | rfl | hd
    · decide
    · exact hletter
    · exact (hexDigits_printed hd).1
  unfold escape
  split
  case h_10 =>
    split
    · exact hhex (by decide)
    · next hlow =>
      split
      · exact hhex (by decide)
      · next hhigh =>
        simp only [Bool.or_eq_true_iff, Bool.and_eq_true_iff, decide_eq_true_eq] at hlow hhigh
        rw [List.forall_mem_singleton, IsControl]
        omega
  all_goals exact List.forall_mem_cons.mpr ⟨by decide, List.forall_mem_singleton.mpr (by decide)⟩

theorem bareQuote_cons {c : Char} (hslash : c ≠ '\\') (rest : List Char) :
    bareQuote (c :: rest) = (c = '"' || bareQuote rest) := by
  rw [bareQuote]
  rintro _ _ rfl
  exact absurd rfl hslash

theorem bareQuote_append {cs rest : List Char} (h : ∀ c ∈ cs, c ≠ '"' ∧ c ≠ '\\') :
    bareQuote (cs ++ rest) = bareQuote rest := by
  induction cs with
  | nil => rfl
  | cons c cs ih =>
    obtain ⟨⟨hquote, hslash⟩, hrest⟩ := List.forall_mem_cons.mp h
    rw [List.cons_append, bareQuote_cons hslash, ih hrest]
    simp [hquote]

/-- The quotes in a written character are escaped, and its last backslash escapes nothing
that follows it. -/
theorem bareQuote_escape (c : Char) (rest : List Char) :
    bareQuote (escape c ++ rest) = bareQuote rest := by
  have hhex : ∀ width n, bareQuote (hexDigits width n ++ rest) = bareQuote rest :=
    fun width n => bareQuote_append fun d hd => (hexDigits_printed hd).2
  unfold escape
  split
  case h_10 hquote hslash _ _ _ _ _ _ _ =>
    split
    · exact hhex 2 c.toNat
    · split
      · exact hhex 4 c.toNat
      · exact bareQuote_append (by simpa using ⟨fun h => hquote h, fun h => hslash h⟩)
  all_goals rfl

theorem bareQuote_flatMap_escape (s : List Char) : bareQuote (s.flatMap escape) = false := by
  induction s with
  | nil => rfl
  | cons c s ih => rw [List.flatMap_cons, bareQuote_escape, ih]

theorem denoted?_quote (s : String) : denoted? (quote s) = some s.toUTF8 := by
  have hbytes : (s.toList.flatMap String.utf8EncodeChar).toByteArray = s.toUTF8 := by
    rw [String.toUTF8_eq_toByteArray, ← String.utf8Encode_toList, List.utf8Encode]
  rw [denoted?, quote, String.toList_ofList, chars, List.cons_append, readLiteral?,
    readUnits?_flatMap_escape]
  exact congrArg some hbytes

theorem flatMap_escape_printed (s : List Char) : ∀ d ∈ s.flatMap escape, ¬ IsControl d := by
  intro d hd
  obtain ⟨c, -, hd⟩ := List.mem_flatMap.mp hd
  exact escape_printed c d hd

theorem chars_printed (s : String) : ∀ d ∈ chars s, ¬ IsControl d := by
  intro d hd
  rw [chars, List.mem_append, List.mem_cons, List.mem_singleton] at hd
  rcases hd with (rfl | hd) | rfl
  · decide
  · exact flatMap_escape_printed s.toList d hd
  · decide

/-- The literal of a string denotes the bytes of the string, and is read as such to its end.
Between its quotes there is no control character, a line end included, and no quote that is
not escaped. -/
theorem quote_denotes (s : String) :
    denoted? (quote s) = some s.toUTF8 ∧
      ∃ body, (quote s).toList = '"' :: body ++ ['"'] ∧
        (∀ c ∈ body, ¬ IsControl c) ∧ bareQuote body = false := by
  have htext : (quote s).toList = '"' :: s.toList.flatMap escape ++ ['"'] := by
    rw [quote, String.toList_ofList, chars]
  exact ⟨denoted?_quote s, s.toList.flatMap escape, htext, flatMap_escape_printed s.toList,
    bareQuote_flatMap_escape s.toList⟩

end Provision.Go.Quoted
