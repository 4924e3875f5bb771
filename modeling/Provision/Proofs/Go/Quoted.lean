import Mathlib.Data.List.Basic
import Mathlib.Tactic.Ring
import Provision.Go.Quoted
import Provision.Proofs.Json.Documents

/-!
# String literals are told apart

The characters between the quotes of a literal are read back one by one, whichever way
each of them was written. Between the quotes every quote follows a backslash. A literal
is therefore found from its end as well: where the text before it does not end in a
backslash, the text and the string are determined by the two together.
-/

set_option autoImplicit false

namespace Provision.Go.Quoted

open Json (hexValue? hexValue?_digitChar)

theorem hexDigits_succ (width n : Nat) :
    hexDigits (width + 1) n = Nat.digitChar (n / 16 ^ width % 16) :: hexDigits width n := by
  simp [hexDigits, List.range_succ]

def readHex? (acc : Nat) : List Char → Option Nat
  | [] => some acc
  | c :: rest => (hexValue? c).bind fun d => readHex? (acc * 16 + d) rest

theorem readHex?_hexDigits (width acc n : Nat) :
    readHex? acc (hexDigits width n) = some (acc * 16 ^ width + n % 16 ^ width) := by
  induction width generalizing acc with
  | zero => simp [hexDigits, readHex?, Nat.mod_one]
  | succ width ih =>
    have hdigit := hexValue?_digitChar (n / 16 ^ width % 16) (Nat.mod_lt _ (by decide))
    rw [hexDigits_succ, readHex?, hdigit, Option.bind_some, ih, Nat.mod_pow_succ]
    congr 1
    ring

theorem length_hexDigits (width n : Nat) : (hexDigits width n).length = width := by
  simp [hexDigits]

def escapedLetter? : Char → Option Char
  | '"' => some '"'
  | '\\' => some '\\'
  | 'n' => some '\n'
  | 'r' => some '\r'
  | 't' => some '\t'
  | 'a' => some '\x07'
  | 'b' => some '\x08'
  | 'f' => some '\x0c'
  | 'v' => some '\x0b'
  | _ => none

def readDigits? (width : Nat) (cs : List Char) : Option (Nat × List Char) :=
  if cs.length < width then none
  else (readHex? 0 (cs.take width)).map fun n => (n, cs.drop width)

/-- The bytes of the first unit between the quotes of a literal, and the text after it. A
line end, a bare quote and any other escape are no units. -/
def readUnit? : List Char → Option (List UInt8 × List Char)
  | [] => none
  | ['\\'] => none
  | '\\' :: 'x' :: rest => (readDigits? 2 rest).map fun r => ([UInt8.ofNat r.1], r.2)
  | '\\' :: 'u' :: rest =>
    (readDigits? 4 rest).bind fun r =>
      if r.1.isValidChar then some (String.utf8EncodeChar (Char.ofNat r.1), r.2) else none
  | '\\' :: c :: rest => (escapedLetter? c).map fun d => (String.utf8EncodeChar d, rest)
  | c :: rest => if c = '"' ∨ c = '\n' then none else some (String.utf8EncodeChar c, rest)

theorem readDigits?_hexDigits (width n : Nat) (rest : List Char) (h : n < 16 ^ width) :
    readDigits? width (hexDigits width n ++ rest) = some (n, rest) := by
  have hlen := length_hexDigits width n
  have hnumber : readHex? 0 (hexDigits width n) = some n := by
    rw [readHex?_hexDigits, Nat.zero_mul, Nat.zero_add, Nat.mod_eq_of_lt h]
  have hlong : ¬ (hexDigits width n ++ rest).length < width := by simp [hlen]
  rw [readDigits?, if_neg hlong, List.take_left' hlen, List.drop_left' hlen, hnumber,
    Option.map_some]

/-- The code point of an ASCII character is its only byte. -/
theorem utf8EncodeChar_ascii {c : Char} (h : c.toNat < 0x80) :
    String.utf8EncodeChar c = [UInt8.ofNat c.toNat] := by
  have hle : c.val.toNat ≤ 127 := Nat.le_of_lt_succ h
  rw [String.utf8EncodeChar, if_pos hle]
  rfl

/-- However a character is written, its unit denotes the bytes of the character. -/
theorem readUnit?_escape (c : Char) (rest : List Char) :
    readUnit? (escape c ++ rest) = some (String.utf8EncodeChar c, rest) := by
  unfold escape
  split
  case h_10 hquote hslash hline _ _ _ _ _ _ =>
    split
    · next h =>
      -- a byte by its number: the character is ASCII
      have hlow : c.toNat < 0x80 := by
        simp only [Bool.or_eq_true_iff, decide_eq_true_eq] at h
        omega
      have hdigits := readDigits?_hexDigits 2 c.toNat rest (Nat.lt_trans hlow (by decide))
      rw [utf8EncodeChar_ascii hlow]
      simp [readUnit?, hdigits]
    · split
      · next h =>
        have hlow : c.toNat < 16 ^ 4 := by
          simp only [Bool.and_eq_true_iff, decide_eq_true_eq] at h
          omega
        have hdigits := readDigits?_hexDigits 4 c.toNat rest hlow
        have hvalid : c.toNat.isValidChar := c.valid
        simp [readUnit?, hdigits, hvalid, Char.ofNat_toNat]
      · have hslash : c ≠ '\\' := fun h => hslash h
        have hplain : ¬ (c = '"' ∨ c = '\n') := by
          rintro (h | h)
          · exact hquote h
          · exact hline h
        rw [List.singleton_append, readUnit?, if_neg hplain]
        all_goals simp [hslash]
  all_goals rfl

theorem utf8EncodeChar_injective {c d : Char}
    (h : String.utf8EncodeChar c = String.utf8EncodeChar d) : c = d := by
  have hread : some c = some d := by
    rw [← List.utf8DecodeChar?_utf8Encode_singleton, List.utf8Encode_singleton, h,
      ← List.utf8Encode_singleton, List.utf8DecodeChar?_utf8Encode_singleton]
  exact Option.some.inj hread

/-- No character is written as the beginning of another. -/
theorem escape_append_inj {c d : Char} {s t : List Char} (h : escape c ++ s = escape d ++ t) :
    c = d ∧ s = t := by
  have hread := readUnit?_escape c s
  rw [h, readUnit?_escape, Option.some.injEq, Prod.mk.injEq] at hread
  exact ⟨utf8EncodeChar_injective hread.1.symm, hread.2.symm⟩

theorem escape_append_ne_nil (c : Char) (s : List Char) : escape c ++ s ≠ [] := by
  intro h
  have hread := readUnit?_escape c s
  rw [h] at hread
  cases hread

theorem flatMap_escape_injective {s t : List Char} (h : s.flatMap escape = t.flatMap escape) :
    s = t := by
  induction s generalizing t with
  | nil =>
    cases t with
    | nil => rfl
    | cons d t => exact absurd h.symm (escape_append_ne_nil d _)
  | cons c s ih =>
    cases t with
    | nil => exact absurd h (escape_append_ne_nil c _)
    | cons d t =>
      rw [List.flatMap_cons, List.flatMap_cons] at h
      obtain ⟨hc, hs⟩ := escape_append_inj h
      rw [hc, ih hs]

theorem quote_not_mem_hexDigits (width n : Nat) : '"' ∉ hexDigits width n := by
  intro h
  obtain ⟨i, _, hi⟩ := List.mem_map.mp h
  have hvalue := hexValue?_digitChar (n / Nat.pow 16 i % 16) (Nat.mod_lt _ (by decide))
  rw [hi] at hvalue
  cases hvalue

theorem quote_not_mem_escape {c : Char} (hc : c ≠ '"') : '"' ∉ escape c := by
  have hhex := quote_not_mem_hexDigits
  unfold escape
  split
  case h_1 => exact absurd rfl hc
  case h_10 =>
    split
    · simp [hhex]
    · split
      · simp [hhex]
      · simpa using hc.symm
  all_goals decide

/-- The only quote in a written character is the second of an escaped quote. -/
theorem escape_eq_append_quote {c : Char} {before after : List Char}
    (h : escape c = before ++ '"' :: after) : before = ['\\'] := by
  by_cases hc : c = '"'
  · subst hc
    match before with
    | [] => cases h
    | [b] =>
      cases h
      rfl
    | _ :: _ :: _ => simp [escape] at h
  · have hmem : '"' ∈ escape c := by simp [h]
    exact absurd hmem (quote_not_mem_escape hc)

/-- Between the quotes of a literal, a backslash stands before every quote. -/
theorem flatMap_escape_eq_append_quote {s before after : List Char}
    (h : s.flatMap escape = before ++ '"' :: after) : ∃ more, before = more ++ ['\\'] := by
  induction s generalizing before with
  | nil => simp at h
  | cons c s ih =>
    rw [List.flatMap_cons] at h
    rcases List.append_eq_append_iff.mp h with ⟨more, hbefore, hrest⟩ | ⟨more, hc, hrest⟩
    · obtain ⟨init, rfl⟩ := ih hrest
      exact ⟨escape c ++ init, by rw [hbefore, List.append_assoc]⟩
    · cases more with
      | nil =>
        have hfirst : s.flatMap escape = [] ++ '"' :: after := hrest.symm
        obtain ⟨init, hinit⟩ := ih hfirst
        simp at hinit
      | cons q more =>
        cases hrest
        exact ⟨[], escape_eq_append_quote hc⟩

/-- The quote that opens a literal is the last one without a backslash before it. -/
theorem eq_nil_of_opening {s : List Char} {l more after : List Char}
    (hl : (l ++ more).getLast? ≠ some '\\')
    (h : '"' :: s.flatMap escape = more ++ '"' :: after) : more = [] := by
  cases more with
  | nil => rfl
  | cons q more =>
    have hrest : s.flatMap escape = more ++ '"' :: after := (List.cons.inj h).2
    obtain ⟨init, rfl⟩ := flatMap_escape_eq_append_quote hrest
    have hlast : (l ++ q :: (init ++ ['\\'])).getLast? = some '\\' := by
      rw [← List.cons_append, ← List.append_assoc, List.getLast?_append]
      rfl
    exact absurd hlast hl

/-- A literal is found from its end, unless a backslash stands before it. -/
theorem append_chars_inj {l l' : List Char} {s t : String} (hl : l.getLast? ≠ some '\\')
    (hl' : l'.getLast? ≠ some '\\') (h : l ++ chars s = l' ++ chars t) : l = l' ∧ s = t := by
  unfold chars at h
  rw [← List.append_assoc, ← List.append_assoc] at h
  have hopen := List.append_cancel_right h
  have hsame : l = l' := by
    rcases List.append_eq_append_iff.mp hopen with ⟨more, rfl, hmore⟩ | ⟨more, rfl, hmore⟩
    · rw [eq_nil_of_opening hl' hmore, List.append_nil]
    · rw [eq_nil_of_opening hl hmore, List.append_nil]
  subst hsame
  have hbody := (List.cons.inj (List.append_cancel_left hopen)).2
  exact ⟨rfl, String.toList_inj.mp (flatMap_escape_injective hbody)⟩

end Provision.Go.Quoted
