import Provision.Yaml.Token

/-!
# Brackets that nest

Each bracket inside a flow collection is one step of the scanner. From what a step does follows
what is scanned where lists stand one in another: all of them are opened and closed, and the
scanner is then where it was, behind the last bracket.
-/

set_option autoImplicit false

namespace Provision.Yaml

theorem tokens?_of_toList {text : String} {cs : List Char} (h : text.toList = cs)
    (hmark : cs.head? ≠ some '\ufeff') (hallowed : cs.all isAllowed = true) :
    tokens? text =
      (Scanner.run (cs.length + 2) { cursor := Cursor.start cs }).map Scanner.tokens := by
  unfold tokens?
  split
  · next heq =>
    rw [← h, heq] at hmark
    exact absurd rfl hmark
  · simp only [h, hallowed, if_true]

namespace Scanner

theorem stale_eq_false_iff {c : Cursor} {k : Candidate} :
    stale c k = false ↔ c.line ≤ k.line ∧ c.index ≤ k.index + 1024 := by
  simp [stale]

theorem refresh?_of_fresh {c : Cursor} {cs : List (Option Candidate)}
    (h : ∀ k, some k ∈ cs → stale c k = false) : refresh? c cs = some cs := by
  induction cs with
  | nil => rfl
  | cons k rest ih =>
    have hrest := ih fun k hk => h k (List.mem_cons_of_mem _ hk)
    cases k with
    | none => simp [refresh?, hrest]
    | some k =>
      have hk : stale c k = false := h k List.mem_cons_self
      simp [refresh?, hrest, hk]

section Step

variable {s : Scanner} {ks : List (Option Candidate)} {rest : List Char} (fuel : Nat)
variable (hks : ks ≠ []) (hcolumn : s.cursor.column ≠ 0)
variable (hfresh : ∀ k, some k ∈ s.candidates → stale s.cursor k = false)
include hks hcolumn hfresh

/-- In a flow collection a bracket is the next token, and no block is closed before it. -/
theorem run_bracket {b : Char} {c : Option Candidate} (hb : b = '[' ∨ b = ']')
    (hcandidates : s.candidates = c :: ks) (hrest : s.cursor.rest = b :: rest) :
    run (fuel + 1) s = (if b = '[' then s.scanFlowStart? .flowSequenceStart
      else s.scanFlowEnd? .flowSequenceEnd).bind (run fuel) := by
  have hnext (fuel : Nat) : toNextToken (fuel + 1) s = s := by
    obtain ⟨⟨_, _, _, _⟩, _⟩ := s
    cases hrest
    rcases hb with rfl | rfl <;>
      simp [toNextToken, Cursor.startsWith, Cursor.skipWhile, Cursor.skip, isBreak, hcolumn]
  have hclose (keep : Nat → Bool) : s.close keep = s := by
    simp [close, flow, hcandidates, List.length_pos_iff, hks]
  rw [run, hnext, refresh?_of_fresh hfresh]
  simp only [bind, Option.bind_some, hclose, hrest]
  rcases hb with rfl | rfl <;> simp [scanToken?, hcolumn, Cursor.atMarker]

theorem run_open (hcandidates : s.candidates = none :: ks) (hkey : s.keyAllowed = true)
    (hrest : s.cursor.rest = '[' :: rest) :
    run (fuel + 1) s = run fuel { s with
      cursor := s.cursor.skip 1
      items := .token .flowSequenceStart :: .mark s.marks :: s.items
      marks := s.marks + 1
      candidates := none ::
        some ⟨s.marks, false, s.cursor.index, s.cursor.line, s.cursor.column⟩ :: ks } := by
  have hflow : s.flow = true := by simp [flow, hcandidates, List.length_pos_iff, hks]
  rw [run_bracket fuel hks hcolumn hfresh (.inl rfl) hcandidates hrest, if_pos rfl]
  simp [scanFlowStart?, markKey?, dropKey?, hkey, hcandidates, hflow, indicator, emit]

theorem run_close {c : Option Candidate} (hcandidates : s.candidates = c :: ks)
    (hc : ∀ k ∈ c, k.required = false) (hrest : s.cursor.rest = ']' :: rest) :
    run (fuel + 1) s = run fuel { s with
      cursor := s.cursor.skip 1
      items := .token .flowSequenceEnd :: s.items
      keyAllowed := false
      candidates := ks } := by
  obtain ⟨k, ks, rfl⟩ := List.exists_cons_of_ne_nil hks
  rw [run_bracket fuel hks hcolumn hfresh (.inr rfl) hcandidates hrest, if_neg (by decide)]
  cases c with
  | none => simp [scanFlowEnd?, dropKey?, hcandidates, indicator, emit, leaveFlow]
  | some c =>
    have hc : c.required = false := hc c rfl
    simp [scanFlowEnd?, dropKey?, hcandidates, hc, indicator, emit, leaveFlow]

end Step

def nested (marks : Nat) : Nat → List Item
  | 0 => []
  | n + 1 => .token .flowSequenceEnd :: (nested (marks + 1) n ++
      [.token .flowSequenceStart, .mark marks])

/-- The candidate that is left behind brackets: the place of the first, which may start a key. -/
def outermost (s : Scanner) (n : Nat) : Option Candidate :=
  if n = 0 then none else some ⟨s.marks, false, s.cursor.index, s.cursor.line, s.cursor.column⟩

theorem outermost_eq_some {s : Scanner} {n : Nat} {k : Candidate} (h : s.outermost n = some k) :
    k = ⟨s.marks, false, s.cursor.index, s.cursor.line, s.cursor.column⟩ := by
  simp only [outermost, Option.ite_none_left_eq_some] at h
  exact (Option.some.inj h.2).symm

/-- Brackets that nest are scanned to the last. They stay within the length of a key, so that
none of the places where a key may start is given up on the way. -/
theorem run_brackets {s : Scanner} {ks : List (Option Candidate)} {rest : List Char} (n fuel : Nat)
    (hks : ks ≠ []) (hcandidates : s.candidates = none :: ks) (hkey : s.keyAllowed = true)
    (hcolumn : s.cursor.column ≠ 0)
    (hrest : s.cursor.rest = List.replicate n '[' ++ (List.replicate n ']' ++ rest))
    (hn : 2 * n ≤ 1024) (hfresh : ∀ k, some k ∈ ks → stale (s.cursor.skip (2 * n)) k = false) :
    run (fuel + 2 * n) s = run fuel { s with
      cursor := ⟨rest, s.cursor.index + 2 * n, s.cursor.line, s.cursor.column + 2 * n⟩
      items := nested s.marks n ++ s.items
      marks := s.marks + n
      keyAllowed := n = 0
      candidates := s.outermost n :: ks } := by
  simp only [stale_eq_false_iff, Cursor.skip] at hfresh
  induction n generalizing s ks rest fuel with
  | zero =>
    obtain ⟨⟨_, _, _, _⟩, _⟩ := s
    cases hrest
    cases hcandidates
    cases hkey
    rfl
  | succ n ih =>
    obtain ⟨⟨_, i, l, j⟩, items, m, keys, _, _, blocks⟩ := s
    cases hcandidates
    cases hkey
    simp only at hrest hcolumn hfresh
    rw [List.replicate_succ, List.replicate_succ', List.append_assoc] at hrest
    subst hrest
    -- The first bracket is opened and the last closed; the induction scans what is between them.
    let k : Candidate := ⟨m, false, i, l, j⟩
    let inner : Scanner :=
      { cursor := ⟨List.replicate n '[' ++ (List.replicate n ']' ++ ']' :: rest), i + 1, l, j + 1⟩
        items := .token .flowSequenceStart :: .mark m :: items
        marks := m + 1
        candidates := none :: some k :: ks
        keys, blocks }
    have hinner : ∀ k', some k' ∈ some k :: ks →
        l ≤ k'.line ∧ i + 1 + 2 * n ≤ k'.index + 1024 := by
      intro k' hk'
      rcases List.mem_cons.mp hk' with heq | hk'
      · cases heq
        simp only [k]
        omega
      · have := hfresh k' hk'
        omega
    calc
      _ = run (fuel + 1 + 2 * n) inner := by
        rw [show fuel + 2 * (n + 1) = fuel + 1 + 2 * n + 1 by omega]
        refine run_open _ hks hcolumn ?_ rfl rfl rfl
        intro k' hk'
        obtain ⟨hl, hi⟩ := hfresh k' (by simpa using hk')
        exact stale_eq_false_iff.mpr ⟨hl, by simp only; omega⟩
      _ = run (fuel + 1) ⟨⟨']' :: rest, i + 1 + 2 * n, l, j + 1 + 2 * n⟩,
          nested (m + 1) n ++ inner.items, m + 1 + n, keys, inner.outermost n :: some k :: ks,
          n = 0, blocks⟩ :=
        ih _ (List.cons_ne_nil _ _) rfl rfl (by simp [inner]) rfl (by omega) hinner
      _ = run fuel ⟨⟨rest, i + 1 + 2 * n + 1, l, j + 1 + 2 * n + 1⟩,
          .token .flowSequenceEnd :: (nested (m + 1) n ++ inner.items), m + 1 + n, keys,
          some k :: ks, false, blocks⟩ := by
        refine run_close _ (List.cons_ne_nil _ _) (by simp) ?_ rfl ?_ rfl
        · intro k' hk'
          rcases List.mem_cons.mp hk' with heq | hk'
          · rw [outermost_eq_some heq.symm]
            exact stale_eq_false_iff.mpr ⟨Nat.le_refl _, by simp only [inner]; omega⟩
          · exact stale_eq_false_iff.mpr (hinner k' hk')
        · intro k' hk'
          rw [outermost_eq_some hk']
      _ = _ := by
        have hi : i + 1 + 2 * n + 1 = i + 2 * (n + 1) := by omega
        have hj : j + 1 + 2 * n + 1 = j + 2 * (n + 1) := by omega
        have hm : m + 1 + n = m + (n + 1) := by omega
        simp [nested, outermost, inner, k, hi, hj, hm]

end Scanner

end Provision.Yaml
