import Provision.Proofs.Program.SourceText

/-!
# Literals are told apart

A composite literal is read from its end. Before the closing bracket comes its last item,
by itself a literal, and what stands before that tells a comma between items from the
bracket that opens them and from the colon after a key. Entries on lines of their own are
sorted by printed key, but a map ascends by key as it is, so the order of the lines loses
nothing. A text that ends in the literal of a value therefore ends in no other literal.
-/

set_option autoImplicit false

namespace Provision

open Go

namespace Program

/-- An enclosed sequence is read from its end: if the last element is determined, along
with the text before it, then so is the sequence. -/
theorem sequence_inj {α : Type} (text : List α → List Char) {p q : α → Prop}
    (hempty : ∀ l l' ys y, l ++ text [] ≠ l' ++ text (ys ++ [y]))
    (hlast : ∀ l l' xs x ys y, p x → q y → l ++ text (xs ++ [x]) = l' ++ text (ys ++ [y]) →
      l ++ text xs = l' ++ text ys ∧ x = y)
    {l l' : List Char} {xs ys : List α} (hx : ∀ x ∈ xs, p x) (hy : ∀ y ∈ ys, q y)
    (h : l ++ text xs = l' ++ text ys) : l = l' ∧ xs = ys := by
  induction xs using List.reverseRecOn generalizing ys with
  | nil =>
    rcases List.eq_nil_or_concat ys with rfl | ⟨ys, y, rfl⟩
    · exact ⟨List.append_cancel_right h, rfl⟩
    · rw [List.concat_eq_append] at h
      exact absurd h (hempty l l' ys y)
  | append_singleton xs x ih =>
    rcases List.eq_nil_or_concat ys with rfl | ⟨ys, y, rfl⟩
    · exact absurd h.symm (hempty l' l xs x)
    · rw [List.concat_eq_append] at hy h ⊢
      obtain ⟨hrest, rfl⟩ := hlast l l' xs x ys y (hx x (by simp)) (hy y (by simp)) h
      obtain ⟨rfl, rfl⟩ := ih (fun u hu => hx u (by simp [hu])) (fun u hu => hy u (by simp [hu]))
        hrest
      exact ⟨rfl, rfl⟩

/-! ## Lists -/

theorem commaJoin_concat {texts : List (List Char)} (h : texts ≠ []) (last : List Char) :
    commaJoin (texts ++ [last]) = commaJoin texts ++ [',', ' '] ++ last := by
  induction texts with
  | nil => exact absurd rfl h
  | cons x rest ih =>
    cases rest with
    | nil => rfl
    | cons y rest =>
      have hnext := ih (List.cons_ne_nil y rest)
      change x ++ [',', ' '] ++ commaJoin (y :: rest ++ [last]) =
        x ++ [',', ' '] ++ commaJoin (y :: rest) ++ [',', ' '] ++ last
      rw [hnext]
      simp

/-- What stands before the last item: the opening bracket, or other items and a comma. -/
def lead (texts : List (List Char)) : List Char :=
  if texts = [] then ['\x7b'] else '\x7b' :: commaJoin texts ++ [',', ' ']

theorem opened_concat (texts : List (List Char)) (last : List Char) :
    '\x7b' :: commaJoin (texts ++ [last]) = lead texts ++ last := by
  unfold lead
  by_cases h : texts = []
  · rw [if_pos h, h]
    rfl
  · rw [if_neg h, commaJoin_concat h]
    simp

theorem getLast?_lead (texts : List (List Char)) :
    (lead texts).getLast? = some (if texts = [] then '\x7b' else ' ') := by
  unfold lead
  split
  · rfl
  · rw [List.getLast?_append]
    rfl

theorem lead_inj {l l' : List Char} {texts others : List (List Char)}
    (h : l ++ lead texts = l' ++ lead others) :
    l ++ '\x7b' :: commaJoin texts = l' ++ '\x7b' :: commaJoin others := by
  have hlast := last_eq h (getLast?_lead texts) (getLast?_lead others)
  by_cases ht : texts = []
  · by_cases ho : others = []
    · rw [lead, lead, if_pos ht, if_pos ho] at h
      rw [ht, ho]
      exact h
    · rw [if_pos ht, if_neg ho] at hlast
      exact absurd hlast (by decide)
  · by_cases ho : others = []
    · rw [if_neg ht, if_pos ho] at hlast
      exact absurd hlast (by decide)
    · rw [lead, lead, if_neg ht, if_neg ho, ← List.append_assoc, ← List.append_assoc] at h
      exact List.append_cancel_right h

theorem mark_ne_opening (v : Value) : mark v ≠ '\x7b' := by
  cases v <;> simp [mark]

theorem items_inj {package l l' : List Char} {n : Nat} {xs ys : List Value}
    (hx : ∀ v ∈ xs, Determined package v) (hy : ∀ w ∈ ys, w.Plain)
    (h : l ++ '\x7b' :: commaJoin (xs.map (sourceText package n)) =
      l' ++ '\x7b' :: commaJoin (ys.map (sourceText package n))) : l = l' ∧ xs = ys := by
  refine sequence_inj (fun vs => '\x7b' :: commaJoin (vs.map (sourceText package n))) ?_ ?_ hx hy h
  · intro l l' ys w heq
    rw [List.map_append, List.map_singleton, opened_concat, ← List.append_assoc] at heq
    exact absurd (last_eq heq rfl (getLast?_sourceText package n w)).symm (mark_ne_opening w)
  · intro l l' xs v ys w hv hw heq
    rw [List.map_append, List.map_singleton, opened_concat, ← List.append_assoc,
      List.map_append, List.map_singleton, opened_concat, ← List.append_assoc] at heq
    obtain ⟨hlead, hvalue⟩ := hv n w _ _ hw heq
    exact ⟨lead_inj hlead, hvalue⟩

/-! ## Maps -/

theorem entryText_inj {package l l' : List Char} {n : Nat} {e f : String × Value}
    (he : Determined package e.2) (hf : f.2.Plain) (hl : l.getLast? ≠ some '\\')
    (hl' : l'.getLast? ≠ some '\\')
    (h : l ++ entryText (entrySource package n e) = l' ++ entryText (entrySource package n f)) :
    l = l' ∧ e = f := by
  obtain ⟨k, v⟩ := e
  obtain ⟨k', w⟩ := f
  unfold entryText at h
  rw [← List.append_assoc, ← List.append_assoc, ← List.append_assoc, ← List.append_assoc] at h
  obtain ⟨hkey, hvalue⟩ := he n w _ _ hf h
  obtain ⟨rfl, rfl⟩ := Quoted.append_chars_inj hl hl' (List.append_cancel_right hkey)
  exact ⟨rfl, Prod.ext rfl hvalue⟩

def line (package : List Char) (n : Nat) (e : String × Value) : List Char :=
  entryLine (n + 1) (entrySource package (n + 1) e)

theorem getLast?_tabs (n : Nat) : (tabs (n + 1)).getLast? = some '\t' := by
  simp [tabs, List.getLast?_replicate]

theorem line_inj {package l l' : List Char} {n : Nat} {e f : String × Value}
    (he : Determined package e.2) (hf : f.2.Plain)
    (h : l ++ line package n e = l' ++ line package n f) : l = l' ∧ e = f := by
  have htab : ∀ k : List Char, (k ++ tabs (n + 1)).getLast? ≠ some '\\' := by
    intro k
    rw [List.getLast?_append, getLast?_tabs]
    simp
  unfold line entryLine at h
  rw [← List.append_assoc, ← List.append_assoc, ← List.append_assoc, ← List.append_assoc] at h
  obtain ⟨hstart, rfl⟩ := entryText_inj he hf (htab l) (htab l') (List.append_cancel_right h)
  exact ⟨List.append_cancel_right hstart, rfl⟩

theorem opening_ne_line {package l l' : List Char} {n : Nat} {e : String × Value} :
    l ++ ['\x7b', '\n'] ≠ l' ++ line package n e := by
  intro h
  have hend : l ++ ['\x7b'] ++ ['\n'] =
      l' ++ (tabs (n + 1) ++ entryText (entrySource package (n + 1) e)) ++ [','] ++ ['\n'] := by
    simpa [line, entryLine] using h
  exact absurd (last_eq (List.append_cancel_right hend) rfl rfl) (by decide)

theorem lines_inj {package l l' : List Char} {n : Nat} {es fs : List (String × Value)}
    (he : ∀ e ∈ es, Determined package e.2) (hf : ∀ f ∈ fs, f.2.Plain)
    (h : l ++ '\x7b' :: '\n' :: es.flatMap (line package n) =
      l' ++ '\x7b' :: '\n' :: fs.flatMap (line package n)) : l = l' ∧ es = fs := by
  have hconcat : ∀ (l : List Char) (es : List (String × Value)) (e : String × Value),
      l ++ '\x7b' :: '\n' :: (es ++ [e]).flatMap (line package n) =
        l ++ '\x7b' :: '\n' :: es.flatMap (line package n) ++ line package n e := by
    intro l es e
    simp
  refine sequence_inj (fun es => '\x7b' :: '\n' :: es.flatMap (line package n)) ?_ ?_ he hf h
  · intro l l' fs f heq
    rw [hconcat] at heq
    exact opening_ne_line heq
  · intro l l' es e fs f he hf heq
    rw [hconcat, hconcat] at heq
    exact line_inj he hf heq

def keyOrder (e f : String × Value) : Bool :=
  decide (String.ofList (Quoted.chars e.1) ≤ String.ofList (Quoted.chars f.1))

theorem sortEntries_map (package : List Char) (n : Nat) (es : List (String × Value)) :
    sortEntries (es.map (entrySource package n)) =
      (es.mergeSort keyOrder).map (entrySource package n) := by
  refine (List.map_mergeSort ?_).symm
  intro e _ f _
  rfl

/-- Sorting by printed key loses nothing: the entries ascend by key as they are. -/
theorem eq_of_mergeSort_eq {es fs : List (String × Value)} (he : Entries.Ascending es)
    (hf : Entries.Ascending fs) (h : es.mergeSort keyOrder = fs.mergeSort keyOrder) : es = fs := by
  have hperm : es.Perm fs := by
    have hes := List.mergeSort_perm es keyOrder
    rw [h] at hes
    exact hes.symm.trans (List.mergeSort_perm fs keyOrder)
  refine List.Perm.eq_of_pairwise ?_ he hf hperm
  intro e f _ _ hlt hgt
  exact absurd hgt (String.lt_asymm hlt)

def mapBody (package : List Char) (n : Nat) (es : List (String × Value)) : List Char :=
  keyedText n (es.map (entrySource package n)) (es.map (entrySource package (n + 1)))

theorem mapBody_one (package : List Char) (n : Nat) (e : String × Value) :
    mapBody package n [e] = entryText (entrySource package n e) := rfl

theorem mapBody_lines (package : List Char) (n : Nat) (e f : String × Value)
    (rest : List (String × Value)) :
    mapBody package n (e :: f :: rest) =
      '\n' :: ((e :: f :: rest).mergeSort keyOrder).flatMap (line package n) ++ tabs n := by
  have hlen : ¬ ((e :: f :: rest).map (entrySource package n)).length < 2 := by simp
  rw [mapBody, keyedText, if_neg hlen, sortEntries_map, List.flatMap_map]
  rfl

theorem getLast?_lines (package : List Char) (n : Nat) (es : List (String × Value)) :
    ('\n' :: es.flatMap (line package n)).getLast? = some '\n' := by
  rcases List.eq_nil_or_concat es with rfl | ⟨init, e, rfl⟩
  · rfl
  · rw [List.concat_eq_append, List.flatMap_append, List.flatMap_singleton, line, entryLine,
      ← List.append_assoc, ← List.cons_append, List.getLast?_append]
    rfl

def mapLast (n : Nat) : List (String × Value) → Char
  | [] => '\x7b'
  | [e] => mark e.2
  | _ => if n = 0 then '\n' else '\t'

theorem getLast?_mapBody (package : List Char) (n : Nat) (es : List (String × Value)) :
    ('\x7b' :: mapBody package n es).getLast? = some (mapLast n es) := by
  match es with
  | [] => rfl
  | [e] =>
    rw [mapBody_one, entryText, entrySource, ← List.cons_append, List.getLast?_append,
      getLast?_sourceText]
    rfl
  | e :: f :: rest =>
    rw [mapBody_lines]
    cases n with
    | zero =>
      change ('\x7b' :: ('\n' :: List.flatMap (line package 0) _ ++ [])).getLast? = _
      rw [List.append_nil, List.getLast?_cons_cons, getLast?_lines]
      rfl
    | succ n =>
      rw [← List.cons_append, List.getLast?_append, getLast?_tabs]
      rfl

theorem mark_ne_mapLast (v : Value) (n : Nat) (e f : String × Value)
    (rest : List (String × Value)) : mark v ≠ mapLast n (e :: f :: rest) := by
  unfold mapLast
  cases v <;> by_cases hn : n = 0 <;> simp [mark, hn]

theorem opening_ne_mapLast (n : Nat) (e f : String × Value) (rest : List (String × Value)) :
    '\x7b' ≠ mapLast n (e :: f :: rest) := by
  unfold mapLast
  by_cases hn : n = 0 <;> simp [hn]

/-- The entries of a map are determined by the text that they end. -/
theorem entries_inj {package l l' : List Char} {n : Nat} {es fs : List (String × Value)}
    (he : ∀ e ∈ es, Determined package e.2) (hf : ∀ f ∈ fs, f.2.Plain)
    (hes : Entries.Ascending es) (hfs : Entries.Ascending fs)
    (h : l ++ '\x7b' :: mapBody package n es = l' ++ '\x7b' :: mapBody package n fs) :
    l = l' ∧ es = fs := by
  have hlast := last_eq h (getLast?_mapBody package n es) (getLast?_mapBody package n fs)
  -- No entry, one and several are laid out with different characters before the bracket.
  match es, fs with
  | [], [] => exact ⟨List.append_cancel_right h, rfl⟩
  | [e], [f] =>
    have hbrace : ∀ k : List Char, (k ++ ['\x7b']).getLast? ≠ some '\\' := by
      intro k
      rw [List.getLast?_append_cons]
      decide
    rw [mapBody_one, mapBody_one, List.append_cons, List.append_cons l'] at h
    obtain ⟨hopen, rfl⟩ := entryText_inj (he e (by simp)) (hf f (by simp)) (hbrace l) (hbrace l') h
    exact ⟨List.append_cancel_right hopen, rfl⟩
  | e :: e' :: es, f :: f' :: fs =>
    have hsorted : ∀ {e : String × Value} {es : List (String × Value)},
        e ∈ es.mergeSort keyOrder → e ∈ es :=
      fun hmem => (List.mergeSort_perm _ _).mem_iff.mp hmem
    rw [mapBody_lines, mapBody_lines, ← List.cons_append, ← List.append_assoc,
      ← List.cons_append, ← List.append_assoc] at h
    obtain ⟨rfl, hsame⟩ := lines_inj (fun e hmem => he e (hsorted hmem))
      (fun f hmem => hf f (hsorted hmem)) (List.append_cancel_right h)
    exact ⟨rfl, eq_of_mergeSort_eq hes hfs hsame⟩
  | [], [f] => exact absurd hlast.symm (mark_ne_opening f.2)
  | [e], [] => exact absurd hlast (mark_ne_opening e.2)
  | [], f :: f' :: fs => exact absurd hlast (opening_ne_mapLast n f f' fs)
  | e :: e' :: es, [] => exact absurd hlast.symm (opening_ne_mapLast n e e' es)
  | [e], f :: f' :: fs => exact absurd hlast (mark_ne_mapLast e.2 n f f' fs)
  | e :: e' :: es, [f] => exact absurd hlast.symm (mark_ne_mapLast f.2 n e e' es)

/-! ## Composites -/

theorem list_closed (package l : List Char) (n : Nat) (items : List Value) :
    l ++ sourceText package n (.list items) =
      l ++ (package ++ '.' :: "Array".toList) ++
        '\x7b' :: commaJoin (items.map (sourceText package n)) ++ ['\x7d'] := by
  unfold sourceText
  rw [sourceItems_eq]
  simp

theorem map_closed (package l : List Char) (n : Nat) (entries : List (String × Value)) :
    l ++ sourceText package n (.map entries) =
      l ++ (package ++ '.' :: "Map".toList) ++ '\x7b' :: mapBody package n entries ++ ['\x7d'] := by
  unfold sourceText mapBody
  rw [sourceEntries_eq, sourceEntries_eq]
  simp

/-- A value after a comma or a bracket is an item, and one after a colon belongs to a key. -/
theorem lead_ne_key {l l' : List Char} {texts : List (List Char)} {key : List Char} :
    l ++ lead texts ≠ l' ++ '\x7b' :: (key ++ [':', ' ']) := by
  intro h
  unfold lead at h
  split at h
  · rw [← List.cons_append] at h
    exact absurd (last_eq h rfl (List.getLast?_append_cons ..)) (by decide)
  · have hcomma : l ++ '\x7b' :: commaJoin texts ++ [','] ++ [' '] =
        l' ++ '\x7b' :: key ++ [':'] ++ [' '] := by
      simpa using h
    exact absurd (last_eq (List.append_cancel_right hcomma) rfl rfl) (by decide)

/-- The literal of a list is not that of a map, if their last values are told apart. -/
theorem list_ne_map {package l l' : List Char} {n : Nat} {items : List Value}
    {entries : List (String × Value)}
    (hsplit : ∀ v ∈ items, ∀ e ∈ entries, ∀ k k',
      k ++ sourceText package n v = k' ++ sourceText package n e.2 → k = k') :
    l ++ sourceText package n (.list items) ≠ l' ++ sourceText package n (.map entries) := by
  intro h
  rw [list_closed, map_closed] at h
  have hopen := List.append_cancel_right h
  have hend := getLast?_mapBody package n entries
  -- The last character settles all but two cases: both are empty, or both end in a value.
  rcases List.eq_nil_or_concat items with rfl | ⟨init, v, rfl⟩
  · have hlast := last_eq hopen rfl hend
    match entries with
    | [] =>
      have hname := List.append_cancel_right hopen
      rw [← List.append_assoc, ← List.append_assoc] at hname
      exact absurd (last_eq hname rfl rfl) (by decide)
    | [e] => exact absurd hlast.symm (mark_ne_opening e.2)
    | e :: f :: rest => exact absurd hlast (opening_ne_mapLast n e f rest)
  · rw [List.concat_eq_append] at hopen hsplit
    rw [List.map_append, List.map_singleton, opened_concat, ← List.append_assoc] at hopen
    have hlast := last_eq hopen (getLast?_sourceText package n v) hend
    match entries with
    | [] => exact absurd hlast (mark_ne_opening v)
    | [e] =>
      have hbody : '\x7b' :: mapBody package n [e] =
          '\x7b' :: (Quoted.chars e.1 ++ [':', ' ']) ++ sourceText package n e.2 := rfl
      rw [hbody, ← List.append_assoc (l' ++ (package ++ '.' :: "Map".toList))] at hopen
      exact lead_ne_key (hsplit v (by simp) e (by simp) _ _ hopen)
    | e :: f :: rest => exact absurd hlast (mark_ne_mapLast v n e f rest)

theorem determined_list {package : List Char} {items : List Value}
    (h : ∀ v ∈ items, Determined package v) : Determined package (.list items) := by
  intro n w l l' hw heq
  have hmark := mark_eq heq
  cases hw with
  | list others ho =>
    rw [list_closed, list_closed] at heq
    obtain ⟨hname, rfl⟩ := items_inj h ho (List.append_cancel_right heq)
    exact ⟨List.append_cancel_right hname, rfl⟩
  | map entries _ he =>
    refine absurd heq (list_ne_map ?_)
    intro v hv e hmem k k' htext
    exact (h v hv n e.2 k k' (he e hmem) htext).1
  | _ => exact absurd hmark (by simp [mark])

theorem determined_map {package : List Char} {entries : List (String × Value)}
    (ha : Entries.Ascending entries) (h : ∀ e ∈ entries, Determined package e.2) :
    Determined package (.map entries) := by
  intro n w l l' hw heq
  have hmark := mark_eq heq
  cases hw with
  | list items hi =>
    refine absurd heq.symm (list_ne_map ?_)
    intro v hv e hmem k k' htext
    exact (h e hmem n v k' k (hi v hv) htext.symm).1.symm
  | map others ho hplain =>
    rw [map_closed, map_closed] at heq
    obtain ⟨hname, rfl⟩ := entries_inj h hplain ha ho (List.append_cancel_right heq)
    exact ⟨List.append_cancel_right hname, rfl⟩
  | _ => exact absurd hmark (by simp [mark])

theorem determined (package : List Char) {v : Value} (h : v.Plain) : Determined package v := by
  induction h with
  | null => exact determined_null package
  | bool b => exact determined_bare (.bool b) rfl
  | int i => exact determined_bare (.int i) rfl
  | float x hx => exact determined_bare (.float x hx) rfl
  | string s => exact determined_string package s
  | list items _ ih => exact determined_list ih
  | map entries ha _ ih => exact determined_map ha ih

/-- No value breaks out of its literal. Whatever the packages are called and however deep
the literals stand, two texts that end in literals are the same only if the values are, and
the texts before them. -/
theorem literal_told_apart (names : Names) (indent : Nat) {path path' : String} {v w : Value}
    {e f : Expr} (hv : v.Ordered) (hw : w.Ordered) (he : literal path v = .ok e)
    (hf : literal path' w = .ok f) (before before' : List Char) :
    before ++ e.chars names indent = before' ++ f.chars names indent ↔
      before = before' ∧ v = w := by
  obtain ⟨hplain, htext⟩ := literal_chars names he hv
  obtain ⟨hplain', htext'⟩ := literal_chars names hf hw
  rw [htext, htext']
  constructor
  · exact determined _ hplain indent w before before' hplain'
  · rintro ⟨rfl, rfl⟩
    rfl

/-- A map whose strings and keys hold what a literal is made of: quotes, calls, commas, a
line end and a backslash. -/
def hostile : Value :=
  .map [("a", .list [.string "\"), pulumi.String(\"", .null]),
    ("b\": pulumi.Int(1),\n\t\"c", .map [("\\", .float ⟨0x8000000000000000⟩)])]

/-- What `hostile` would be taken for if its strings were printed as they are. -/
def lookalike : Value :=
  .map [("a", .list [.string "", .string "", .null]), ("b", .int 1),
    ("c", .map [("\\", .float ⟨0x8000000000000000⟩)])]

theorem literal_told_apart_hostile :
    hostile.Ordered ∧ lookalike.Ordered ∧ hostile ≠ lookalike ∧
      ∃ e f, literal "params" hostile = .ok e ∧ literal "params" lookalike = .ok f ∧
        e.chars [(pulumiPath, "pulumi")] 0 ≠ f.chars [(pulumiPath, "pulumi")] 0 := by
  have hv : hostile.Ordered := by
    refine ⟨?_, ⟨trivial, trivial, trivial⟩, ⟨List.pairwise_singleton _ _, trivial, trivial⟩,
      trivial⟩
    unfold Entries.Ascending
    decide
  have hw : lookalike.Ordered := by
    refine ⟨?_, ⟨trivial, trivial, trivial, trivial⟩, trivial,
      ⟨List.pairwise_singleton _ _, trivial, trivial⟩, trivial⟩
    unfold Entries.Ascending
    decide
  have hne : hostile ≠ lookalike := by
    intro h
    simp [hostile, lookalike] at h
  obtain ⟨e, he⟩ : ∃ e, literal "params" hostile = .ok e := ⟨_, rfl⟩
  obtain ⟨f, hf⟩ : ∃ f, literal "params" lookalike = .ok f := ⟨_, rfl⟩
  refine ⟨hv, hw, hne, e, f, he, hf, ?_⟩
  intro htext
  exact hne ((literal_told_apart _ 0 hv hw he hf [] []).mp htext).2

end Program

end Provision
