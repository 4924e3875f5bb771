import Provision.Proofs.Go.Quoted
import Provision.Proofs.Go.Rearrangement
import Provision.Proofs.Program.Blocks
import Provision.Proofs.Reading
import Provision.Proofs.Scope.Expansion

/-!
# Keys in a program

A composite literal with two equal keys is no Go. The keys of a map are the quoted keys of a
value, which are distinct and told apart by their quotes, and those of an argument struct are
checked one after another as they are made. So the keys of every keyed literal of a program
are distinct texts, those of values that come from metadata included. Parameters whose names
become the same field have no argument struct.
-/

set_option autoImplicit false

namespace Provision

open Outcome Placeholder Go

def Graph.Ordered (g : Graph) : Prop :=
  ∀ id n ps, g.nodes.find? id = some n → n.params = some ps → (Value.map ps).Ordered

theorem Value.Ordered.of_find? {es : List (String × Value)} {key : String} {v : Value}
    (h : (Value.map es).Ordered) (hv : Entries.find? key es = some v) : v.Ordered :=
  orderedEntries_iff.mp h.2 _ (Entries.mem_of_find? hv)

namespace Scope

def Ordered (scope : Scope) : Prop := ∀ es, scope.metadata = some es → (Value.map es).Ordered

theorem descend_ordered {v w : Value} {keys : List String} (hv : v.Ordered)
    (h : descend v keys = .ok w) : w.Ordered := by
  induction keys generalizing v with
  | nil =>
    cases h
    exact hv
  | cons key rest ih =>
    cases v with
    | map es =>
      rw [descend] at h
      split at h
      · next x hx => exact ih (hv.of_find? hx) h
      · cases h
    | _ => cases h

theorem Ordered.metadataValue {scope : Scope} {raw : String} {keys : List String} {v : Value}
    (hs : scope.Ordered) (h : scope.metadataValue raw keys = .ok v) : v.Ordered := by
  unfold Scope.metadataValue within findMetadata at h
  split at h
  · next x hx =>
    cases h
    split at hx
    · cases hx
    · cases hx
    · next es hes _ => exact descend_ordered (hs es hes) hx
  · cases h

end Scope

namespace Program

theorem scopeOf_ordered {g : Graph} (hg : g.Ordered) (id : String) (n : Node) :
    (scopeOf g id n).Ordered := by
  intro es hes
  obtain ⟨owner, -, hes⟩ := Option.bind_eq_some_iff.mp hes
  obtain ⟨w, hw, hes⟩ := Option.bind_eq_some_iff.mp hes
  obtain ⟨ps, hps, hes⟩ := Option.bind_eq_some_iff.mp hes
  obtain ⟨v, hv, hes⟩ := Option.bind_eq_some_iff.mp hes
  have hordered := (hg owner w ps hw hps).of_find? hv
  cases v with
  | map => cases hes; exact hordered
  | _ => cases hes

/-- Whether the keys of every keyed literal among these parts are distinct texts, whatever
the packages are called and however far the literal is indented. -/
def Apart (xs : List Go.Part) : Prop :=
  ∀ type entries, Go.Part.expr (.keyed type entries) ∈ xs →
    ∀ names indent, DistinctKeys names indent entries

@[simp] theorem apart_nil : Apart [] := by
  intro type entries h
  cases h

@[simp] theorem apart_append {xs ys : List Go.Part} :
    Apart (xs ++ ys) ↔ Apart xs ∧ Apart ys := by
  simp only [Apart, List.mem_append, or_imp, forall_and]

@[simp] theorem apart_cons {x : Go.Part} {xs : List Go.Part}
    (hx : ∀ type entries, x ≠ .expr (.keyed type entries)) : Apart (x :: xs) ↔ Apart xs := by
  refine forall₂_congr fun type entries => ?_
  rw [List.mem_cons, or_iff_right (hx type entries).symm]

theorem apart_keyed {type : Expr} {entries : List (Expr × Expr)} {xs : List Go.Part} :
    Apart (.expr (.keyed type entries) :: xs) ↔
      (∀ names indent, DistinctKeys names indent entries) ∧ Apart xs := by
  constructor
  · intro h
    exact ⟨h type entries (by simp), fun t es hm => h t es (List.mem_cons_of_mem _ hm)⟩
  · rintro ⟨hkeys, hxs⟩ t es hm
    rcases List.mem_cons.mp hm with heq | hm
    · cases heq
      exact hkeys
    · exact hxs t es hm

theorem apart_partsOfExprs {es : List Expr} :
    Apart (partsOfExprs es) ↔ ∀ e ∈ es, Apart e.parts := by
  induction es with
  | nil => simp [partsOfExprs]
  | cons e rest ih => simp [partsOfExprs, ih]

theorem apart_partsOfEntries {es : List (Expr × Expr)} :
    Apart (partsOfEntries es) ↔ ∀ e ∈ es, Apart e.1.parts ∧ Apart e.2.parts := by
  induction es with
  | nil => simp [partsOfEntries]
  | cons e rest ih => simp [partsOfEntries, ih, and_assoc]

/-! ## Expressions -/

/-- Strings that become keys in a way that tells them apart, such as quoting. -/
structure KeyForm (key : String → Expr) : Prop where
  inj : ∀ names indent s t, (key s).chars names indent = (key t).chars names indent → s = t
  apart : ∀ s, Apart (key s).parts

theorem keyForm_string : KeyForm .string where
  inj := by
    intro names indent s t h
    have hchars : [] ++ Quoted.chars s = [] ++ Quoted.chars t := h
    exact (Quoted.append_chars_inj (by simp) (by simp) hchars).2
  apart := by simp [Expr.parts]

theorem keyForm_ident : KeyForm .ident where
  inj := fun _ _ _ _ h => String.toList_inj.mp h
  apart := by simp [Expr.parts]

theorem KeyForm.distinctKeys {key : String → Expr} (hk : KeyForm key) {names : List String}
    {entries : List (Expr × Expr)} (hkeys : entries.map Prod.fst = names.map key)
    (hnodup : names.Nodup) (packages : Names) (indent : Nat) :
    DistinctKeys packages indent entries := by
  have hmap : (entries.map fun e => e.1.chars packages indent) =
      names.map fun s => (key s).chars packages indent := by
    have h := congrArg (List.map fun e : Expr => e.chars packages indent) hkeys
    rwa [List.map_map, List.map_map] at h
  unfold DistinctKeys
  rw [hmap]
  exact hnodup.map fun s t h => hk.inj packages indent s t h

/-- A keyed literal with distinct keys, and with literals of that kind as its values. -/
theorem KeyForm.apart_keyed {key : String → Expr} (hk : KeyForm key) {names : List String}
    {package type : String} {entries : List (Expr × Expr)}
    (hkeys : entries.map Prod.fst = names.map key) (hnodup : names.Nodup)
    (hvalues : ∀ e ∈ entries, Apart e.2.parts) :
    Apart (Expr.keyed (.qualified package type) entries).parts := by
  refine Program.apart_keyed.mpr ⟨hk.distinctKeys hkeys hnodup, ?_⟩
  rw [apart_append, apart_partsOfEntries]
  refine ⟨by simp [Expr.parts], fun e he => ⟨?_, hvalues e he⟩⟩
  have hmem : e.1 ∈ names.map key := hkeys ▸ List.mem_map_of_mem he
  obtain ⟨s, -, hs⟩ := List.mem_map.mp hmem
  rw [← hs]
  exact hk.apart s

theorem apart_call (name : String) {args : List Expr} (h : ∀ e ∈ args, Apart e.parts) :
    Apart (Expr.call (pulumi name) args).parts := by
  simpa [Expr.parts, pulumi, apart_partsOfExprs] using h

theorem apart_array {items : List Expr} (h : ∀ e ∈ items, Apart e.parts) :
    Apart (Expr.list (pulumi "Array") items).parts := by
  simpa [Expr.parts, pulumi, apart_partsOfExprs] using h

theorem float_apart {path : String} {x : Double} {e : Expr} (h : float path x = .ok e) :
    Apart e.parts := by
  unfold float at h
  split at h
  · cases h
    simp [Expr.parts]
  · cases h

theorem argument_apart {path : String} {v : Value} {e : Expr} (h : argument path v = .ok e) :
    Apart e.parts := by
  unfold argument at h
  split at h
  · cases h; simp [Expr.parts]
  · cases h; simp [Expr.parts]
  · cases h; simp [Expr.parts]
  · exact float_apart h
  · cases h; simp [Expr.parts]
  · obtain ⟨text, -, h⟩ := bind_eq_ok.mp h
    cases pure_eq_ok.mp h
    simp [Expr.parts]

theorem accessFields_apart {path : String} {base e : Expr} {fields : List String}
    (hb : Apart base.parts) (h : accessFields path base fields = .ok e) : Apart e.parts := by
  induction fields generalizing base with
  | nil =>
    cases h
    exact hb
  | cons field rest ih =>
    obtain ⟨name, -, h⟩ := bind_eq_ok.mp h
    exact ih (by simpa [Expr.parts] using hb) h

theorem access_apart {path : String} {o : Output} {e : Expr} (h : access path o = .ok e) :
    Apart e.parts :=
  accessFields_apart (by simp [Expr.parts]) h

mutual

/-- The maps of a value with ascending keys have distinct keys in its literal. -/
theorem literal_apart {path : String} {v : Value} {e : Expr} (hv : v.Ordered)
    (h : literal path v = .ok e) : Apart e.parts := by
  match v with
  | .null => cases h; simp [Expr.parts]
  | .bool b => cases h; exact apart_call "Bool" (by simp [Expr.parts])
  | .int i => cases h; exact apart_call "Int" (by simp [Expr.parts])
  | .float x =>
    obtain ⟨f, hf, h⟩ := bind_eq_ok.mp h
    cases pure_eq_ok.mp h
    exact apart_call "Float64" (by simpa using float_apart hf)
  | .string s => cases h; exact apart_call "String" (by simp [Expr.parts])
  | .list items =>
    obtain ⟨es, hes, h⟩ := bind_eq_ok.mp h
    cases pure_eq_ok.mp h
    exact apart_array (literalItems_apart hv hes)
  | .map entries =>
    obtain ⟨es, hes, h⟩ := bind_eq_ok.mp h
    cases pure_eq_ok.mp h
    obtain ⟨hkeys, hvalues⟩ := literalEntries_apart hv.2 hes
    exact keyForm_string.apart_keyed hkeys hv.1.nodup_keys hvalues

theorem literalItems_apart {path : String} {i : Nat} {vs : List Value} {es : List Expr}
    (hv : Value.OrderedItems vs) (h : literalItems path i vs = .ok es) :
    ∀ e ∈ es, Apart e.parts := by
  match vs with
  | [] =>
    cases h
    simp
  | v :: rest =>
    obtain ⟨e, he, h⟩ := bind_eq_ok.mp h
    obtain ⟨es, hes, h⟩ := bind_eq_ok.mp h
    cases pure_eq_ok.mp h
    exact List.forall_mem_cons.mpr ⟨literal_apart hv.1 he, literalItems_apart hv.2 hes⟩

theorem literalEntries_apart {path : String} {vs : List (String × Value)}
    {es : List (Expr × Expr)} (hv : Value.OrderedEntries vs)
    (h : literalEntries path vs = .ok es) :
    es.map Prod.fst = (vs.map Prod.fst).map .string ∧ ∀ e ∈ es, Apart e.2.parts := by
  match vs with
  | [] =>
    cases h
    simp
  | (k, v) :: rest =>
    obtain ⟨e, he, h⟩ := bind_eq_ok.mp h
    obtain ⟨es, hes, h⟩ := bind_eq_ok.mp h
    cases pure_eq_ok.mp h
    obtain ⟨hkeys, hvalues⟩ := literalEntries_apart hv.2 hes
    exact ⟨congrArg (Expr.string k :: ·) hkeys,
      List.forall_mem_cons.mpr ⟨literal_apart hv.1 he, hvalues⟩⟩

end

theorem formatArgument_apart {path : String} {a : Argument} {e : Expr}
    (h : formatArgument path a = .ok e) : Apart e.parts := by
  cases a with
  | value v => exact argument_apart h
  | output o => exact access_apart h

/-- A reference alone may stand for a value of the metadata, which ascends by key. -/
theorem interpolated_apart {scope : Scope} {path s : String} {i : Interpolation} {e : Expr}
    (hs : scope.Ordered) (hi : scope.interpolate s = .ok i) (h : interpolated path i = .ok e) :
    Apart e.parts := by
  cases i with
  | literal s =>
    cases h
    exact apart_call "String" (by simp [Expr.parts])
  | value v =>
    obtain ⟨r, keys, -, -, hv⟩ := Scope.interpolate_eq_value.mp hi
    exact literal_apart (hs.metadataValue hv) h
  | output o => exact access_apart h
  | format text args =>
    obtain ⟨es, hes, h⟩ := bind_eq_ok.mp h
    cases pure_eq_ok.mp h
    refine apart_call "Sprintf" (List.forall_mem_cons.mpr ⟨by simp [Expr.parts], ?_⟩)
    intro e he
    obtain ⟨a, -, ha⟩ := mem_of_mapM_eq_ok hes e he
    exact formatArgument_apart ha

mutual

/-- The keyed literals of a translated parameter have distinct keys. -/
theorem expression_apart {scope : Scope} {path : String} {v : Value} {e : Expr}
    (hs : scope.Ordered) (hv : v.Ordered) (h : expression scope path v = .ok e) :
    Apart e.parts := by
  match v with
  | .null => exact @literal_apart path _ e hv h
  | .bool _ => exact @literal_apart path _ e hv h
  | .int _ => exact @literal_apart path _ e hv h
  | .float _ => exact @literal_apart path _ e hv h
  | .string s =>
    obtain ⟨i, hi, h⟩ := bind_eq_ok.mp h
    exact interpolated_apart hs (Scope.locate_eq_ok.mp hi) h
  | .list items =>
    obtain ⟨es, hes, h⟩ := bind_eq_ok.mp h
    cases pure_eq_ok.mp h
    exact apart_array (expressionItems_apart hs hv hes)
  | .map entries =>
    obtain ⟨es, hes, h⟩ := bind_eq_ok.mp h
    cases pure_eq_ok.mp h
    obtain ⟨hkeys, hvalues⟩ := expressionEntries_apart hs hv.2 hes
    exact keyForm_string.apart_keyed hkeys hv.1.nodup_keys hvalues

theorem expressionItems_apart {scope : Scope} {path : String} {i : Nat} {vs : List Value}
    {es : List Expr} (hs : scope.Ordered) (hv : Value.OrderedItems vs)
    (h : expressionItems scope path i vs = .ok es) : ∀ e ∈ es, Apart e.parts := by
  match vs with
  | [] =>
    cases h
    simp
  | v :: rest =>
    obtain ⟨e, he, h⟩ := bind_eq_ok.mp h
    obtain ⟨es, hes, h⟩ := bind_eq_ok.mp h
    cases pure_eq_ok.mp h
    exact List.forall_mem_cons.mpr
      ⟨expression_apart hs hv.1 he, expressionItems_apart hs hv.2 hes⟩

theorem expressionEntries_apart {scope : Scope} {path : String} {vs : List (String × Value)}
    {es : List (Expr × Expr)} (hs : scope.Ordered) (hv : Value.OrderedEntries vs)
    (h : expressionEntries scope path vs = .ok es) :
    es.map Prod.fst = (vs.map Prod.fst).map .string ∧ ∀ e ∈ es, Apart e.2.parts := by
  match vs with
  | [] =>
    cases h
    simp
  | (k, v) :: rest =>
    obtain ⟨e, he, h⟩ := bind_eq_ok.mp h
    obtain ⟨es, hes, h⟩ := bind_eq_ok.mp h
    cases pure_eq_ok.mp h
    obtain ⟨hkeys, hvalues⟩ := expressionEntries_apart hs hv.2 hes
    exact ⟨congrArg (Expr.string k :: ·) hkeys,
      List.forall_mem_cons.mpr ⟨expression_apart hs hv.1 he, hvalues⟩⟩

end

/-! ## Argument structs -/

/-- What happens to the first of the remaining parameters: its name is refused, or no
parameter before it has its field and then its value is refused or it gets its field. -/
theorem argumentFields_cons (scope : Scope) (seen : List String) (p : String × Value)
    (rest : List (String × Value)) :
    (∃ e : Error, e.IsShape ∧ argumentFields scope seen (p :: rest) = .error e) ∨
      Identifier.field p.1 ∉ seen ∧
        ((∃ e, expression scope p.1 p.2 = .error e ∧
            argumentFields scope seen (p :: rest) = .error e) ∨
          ∃ x, expression scope p.1 p.2 = .ok x ∧
            argumentFields scope seen (p :: rest) =
              (argumentFields scope (Identifier.field p.1 :: seen) rest).map
                ((.ident (Identifier.field p.1), x) :: ·)) := by
  obtain ⟨k, v⟩ := p
  by_cases hexp : Identifier.isExported (Identifier.field k)
  · have hname : publicName k k = .ok (Identifier.field k) := if_pos hexp
    by_cases hseen : Identifier.field k ∈ seen
    · refine .inl ⟨_, ⟨k, .repeatedField (Identifier.field k), rfl⟩, ?_⟩
      simp [argumentFields, hname, hseen, bind, Except.bind]
    · refine .inr ⟨hseen, ?_⟩
      simp only [argumentFields, hname, bind, Except.bind, pure, Except.pure,
        List.contains_iff_mem, hseen, if_false]
      cases expression scope k v with
      | error e => exact .inl ⟨e, rfl, rfl⟩
      | ok x =>
        refine .inr ⟨x, rfl, ?_⟩
        cases argumentFields scope (Identifier.field k :: seen) rest <;> rfl
  · refine .inl ⟨_, ⟨k, .notExported k, rfl⟩, ?_⟩
    have hname : publicName k k = .error (.shape k (.notExported k)) := if_neg hexp
    simp [argumentFields, hname, bind, Except.bind]

/-- The first field of an argument struct, and the rest of it. -/
theorem argumentFields_cons_ok {scope : Scope} {seen : List String} {p : String × Value}
    {rest : List (String × Value)} {fields : List (Expr × Expr)}
    (h : argumentFields scope seen (p :: rest) = .ok fields) :
    Identifier.field p.1 ∉ seen ∧ ∃ x xs, expression scope p.1 p.2 = .ok x ∧
      argumentFields scope (Identifier.field p.1 :: seen) rest = .ok xs ∧
      fields = (.ident (Identifier.field p.1), x) :: xs := by
  rcases argumentFields_cons scope seen p rest with ⟨e, -, hfail⟩ |
    ⟨hnew, ⟨e, -, hfail⟩ | ⟨x, hx, heq⟩⟩
  · cases hfail.symm.trans h
  · cases hfail.symm.trans h
  · obtain ⟨xs, hxs, rfl⟩ := map_eq_ok.mp (heq.symm.trans h)
    exact ⟨hnew, x, xs, hx, hxs, rfl⟩

/-- An argument struct has one field for each parameter, and no field twice. -/
theorem argumentFields_keys {scope : Scope} {seen : List String} {ps : List (String × Value)}
    {fields : List (Expr × Expr)} (h : argumentFields scope seen ps = .ok fields) :
    fields.map Prod.fst = (ps.map fun p => Identifier.field p.1).map .ident ∧
      (ps.map fun p => Identifier.field p.1).Nodup ∧
      ∀ p ∈ ps, Identifier.field p.1 ∉ seen := by
  induction ps generalizing seen fields with
  | nil =>
    cases h
    simp
  | cons p rest ih =>
    obtain ⟨hp, x, xs, -, hxs, rfl⟩ := argumentFields_cons_ok h
    obtain ⟨hkeys, hnodup, hnew⟩ := ih hxs
    refine ⟨congrArg (Expr.ident (Identifier.field p.1) :: ·) hkeys, ?_, ?_⟩
    · refine List.nodup_cons.mpr ⟨fun hmem => ?_, hnodup⟩
      obtain ⟨q, hq, hfield⟩ := List.mem_map.mp hmem
      exact hnew q hq (hfield ▸ List.mem_cons_self)
    · refine List.forall_mem_cons.mpr ⟨hp, fun q hq hmem => ?_⟩
      exact hnew q hq (List.mem_cons_of_mem _ hmem)

theorem argumentFields_apart {scope : Scope} {seen : List String} {ps : List (String × Value)}
    {fields : List (Expr × Expr)} (hs : scope.Ordered) (hv : Value.OrderedEntries ps)
    (h : argumentFields scope seen ps = .ok fields) : ∀ f ∈ fields, Apart f.2.parts := by
  induction ps generalizing seen fields with
  | nil =>
    cases h
    simp
  | cons p rest ih =>
    obtain ⟨-, x, xs, hx, hxs, rfl⟩ := argumentFields_cons_ok h
    exact List.forall_mem_cons.mpr ⟨expression_apart hs hv.1 hx, ih hv.2 hxs⟩

/-- A parameter whose field is taken is refused, unless a value before it is. -/
theorem argumentFields_clash {scope : Scope} {seen : List String}
    {before after : List (String × Value)} {q : String × Value}
    (h : Identifier.field q.1 ∈ seen ∨
      ∃ p ∈ before, Identifier.field p.1 = Identifier.field q.1) :
    ∃ e, argumentFields scope seen (before ++ q :: after) = .error e ∧
      (e.IsShape ∨ ∃ r ∈ before, expression scope r.1 r.2 = .error e) := by
  induction before generalizing seen with
  | nil =>
    have hseen : Identifier.field q.1 ∈ seen := by simpa using h
    rcases argumentFields_cons scope seen q after with ⟨e, hshape, hfail⟩ | ⟨hnew, -⟩
    · exact ⟨e, hfail, .inl hshape⟩
    · exact absurd hseen hnew
  | cons r rest ih =>
    rcases argumentFields_cons scope seen r (rest ++ q :: after) with ⟨e, hshape, hfail⟩ |
      ⟨-, ⟨e, hvalue, hfail⟩ | ⟨x, -, heq⟩⟩
    · exact ⟨e, hfail, .inl hshape⟩
    · exact ⟨e, hfail, .inr ⟨r, by simp, hvalue⟩⟩
    · have htaken : Identifier.field q.1 ∈ Identifier.field r.1 :: seen ∨
          ∃ p ∈ rest, Identifier.field p.1 = Identifier.field q.1 := by
        rcases h with hseen | ⟨p, hp, hpq⟩
        · exact .inl (List.mem_cons_of_mem _ hseen)
        · rcases List.mem_cons.mp hp with rfl | hp
          · exact .inl (hpq ▸ List.mem_cons_self)
          · exact .inr ⟨p, hp, hpq⟩
      obtain ⟨e, hfail, hcause⟩ := ih htaken
      refine ⟨e, by rw [List.cons_append, heq, hfail]; rfl, hcause.imp_right ?_⟩
      rintro ⟨s, hs, hvalue⟩
      exact ⟨s, List.mem_cons_of_mem _ hs, hvalue⟩

/-! ## Files -/

theorem apart_partsOfBlock_flatMap {blocks : List Block}
    (h : ∀ b ∈ blocks, Apart (partsOfBlock b.statements)) :
    Apart (partsOfBlock (blocks.flatMap Block.statements)) := by
  induction blocks with
  | nil => simp [partsOfBlock]
  | cons b rest ih =>
    rw [List.flatMap_cons, partsOfBlock_append, apart_append]
    exact ⟨h b (by simp), ih fun c hc => h c (List.mem_cons_of_mem _ hc)⟩

/-- The keyed literals of a block are its argument struct with what stands in it, and the
entry for the log. -/
theorem Block.apart {b : Block} {keys : List String}
    (hkeys : b.fields.map Prod.fst = keys.map .ident) (hnodup : keys.Nodup)
    (hvalues : ∀ f ∈ b.fields, Apart f.2.parts) : Apart (partsOfBlock b.statements) := by
  have hargs : Apart (Expr.keyed
      (.qualified b.node.component.package b.node.component.argsType) b.fields).parts :=
    keyForm_ident.apart_keyed hkeys hnodup hvalues
  have hlog : [(Expr.ident "Resource", Expr.ident b.id)].map Prod.fst = ["Resource"].map .ident :=
    rfl
  have hentry : Apart (Expr.keyed (.qualified pulumiPath "LogArgs")
      [(.ident "Resource", .ident b.id)]).parts :=
    keyForm_ident.apart_keyed hlog (by simp) (by simp [Expr.parts])
  -- the two literals stay whole, so that the rest of the block falls away
  unfold Block.statements
  generalize Expr.keyed (.qualified b.node.component.package b.node.component.argsType) b.fields =
    args at hargs ⊢
  generalize Expr.keyed (.qualified pulumiPath "LogArgs") [(.ident "Resource", .ident b.id)] =
    entry at hentry ⊢
  simpa [partsOfBlock, partsOfExprs, Stmt.parts, Expr.parts] using And.intro hargs hentry

theorem Block.Provisions.apart {g : Graph} {b : Block} (hb : b.Provisions g) (hg : g.Ordered) :
    Apart (partsOfBlock b.statements) := by
  have hparams : Value.OrderedEntries (b.node.params.getD []) := by
    cases hp : b.node.params with
    | none => trivial
    | some ps => exact (hg b.id b.node ps hb.node hp).2
  obtain ⟨hkeys, hnodup, -⟩ := argumentFields_keys hb.fields
  exact Block.apart hkeys hnodup
    (argumentFields_apart (scopeOf_ordered hg b.id b.node) hparams hb.fields)

theorem apart_wrap {stmts : List Stmt} (h : Apart (partsOfBlock stmts)) :
    Apart (wrap stmts).parts := by
  simpa [File.parts, FuncDecl.parts, wrap, pulumi, partsOfBlock, partsOfExprs, partsOfParams,
    partsOfResult, Stmt.parts, Expr.parts] using h

/-- The keys of every keyed literal of a program are printed as distinct texts. The argument
struct of a node has one field for each parameter. Where two parameters would take the same
field there is no argument struct: the second of them is refused, or something before it. -/
theorem keys_distinct {g : Graph} {file : File} (hg : g.Ordered) (hf : ofGraph g = .ok file) :
    Apart file.parts ∧
      (∃ blocks : List Block,
        runBody? file = some (blocks.flatMap Block.statements ++ [.ret [.nil]]) ∧
        (blocks.map Block.id).Nodup ∧
        (∀ id, id ∈ blocks.map Block.id ↔ id ∈ g.nodes.keys) ∧
        ∀ b ∈ blocks, g.nodes.find? b.id = some b.node ∧
          b.fields.map Prod.fst =
            (b.node.params.getD []).map fun p => .ident (Identifier.field p.1)) ∧
      ∀ (scope : Scope) (before after : List (String × Value)) (p q : String × Value),
        p ∈ before → Identifier.field p.1 = Identifier.field q.1 →
        ∃ e, argumentFields scope [] (before ++ q :: after) = .error e ∧
          (e.IsShape ∨ ∃ r ∈ before, expression scope r.1 r.2 = .error e) := by
  obtain ⟨blocks, hexp, hall, rfl⟩ := ofGraph_ok hf
  refine ⟨apart_wrap ?_, ⟨blocks, runBody?_wrap _, hexp.nodup, mem_blocks_iff hexp hall, ?_⟩, ?_⟩
  · rw [partsOfBlock_append, apart_append]
    refine ⟨apart_partsOfBlock_flatMap fun b hb => (hall b hb).apart hg, ?_⟩
    simp [partsOfBlock, partsOfExprs, Stmt.parts, Expr.parts]
  · intro b hb
    obtain ⟨hkeys, -, -⟩ := argumentFields_keys (hall b hb).fields
    refine ⟨(hall b hb).node, ?_⟩
    rw [hkeys, List.map_map]
    rfl
  · intro scope before after p q hp hpq
    exact argumentFields_clash (.inr ⟨p, hp, hpq⟩)

def labelled : Graph where
  nodes := Table.ofList
    [("store", ⟨⟨"sql", "New", "Args"⟩, "store",
        some [("all", .string "$\x7bmetadata.labels\x7d"),
          ("more", .list [.map [("a", .int 1), ("b", .null)]])], some "site"⟩),
      ("site", ⟨⟨"web", "New", "Args"⟩, "site",
        some [("metadata", .map [("labels", .map [("\"", .int 1), ("x", .bool true)])])],
        some "site"⟩)]
  edges := Table.empty

theorem labelled_ordered : labelled.Ordered := by
  intro id n ps hn hps
  have hmem := Entries.mem_of_find?_ofList hn
  simp only [List.mem_cons, List.not_mem_nil, or_false, Prod.mk.injEq] at hmem
  rcases hmem with ⟨-, rfl⟩ | ⟨-, rfl⟩
  · cases hps
    refine ⟨?_, trivial, ⟨⟨?_, trivial, trivial, trivial⟩, trivial⟩, trivial⟩ <;>
      (unfold Entries.Ascending; decide)
  · cases hps
    refine ⟨?_, ⟨?_, ⟨?_, trivial, trivial, trivial⟩, trivial⟩, trivial⟩ <;>
      (unfold Entries.Ascending; decide)

theorem keys_distinct_labelled :
    ∃ file, labelled.Ordered ∧ ofGraph labelled = .ok file ∧ Apart file.parts ∧
      (∃ blocks : List Block,
        runBody? file = some (blocks.flatMap Block.statements ++ [.ret [.nil]]) ∧
        (blocks.map Block.id).Nodup ∧
        (∀ id, id ∈ blocks.map Block.id ↔ id ∈ labelled.nodes.keys) ∧
        ∀ b ∈ blocks, labelled.nodes.find? b.id = some b.node ∧
          b.fields.map Prod.fst =
            (b.node.params.getD []).map fun p => .ident (Identifier.field p.1)) ∧
      ∃ e, argumentFields ⟨none, Table.empty⟩ [] [("bC", .int 1), ("b_c", .int 2)] = .error e ∧
        (e.IsShape ∨ ∃ r ∈ [("bC", Value.int 1)],
          expression ⟨none, Table.empty⟩ r.1 r.2 = .error e) := by
  obtain ⟨file, hfile⟩ := exists_eq_ok (x := ofGraph labelled) (by decide +kernel)
  obtain ⟨hapart, hblocks, hclash⟩ := keys_distinct labelled_ordered hfile
  exact ⟨file, labelled_ordered, hfile, hapart, hblocks,
    hclash ⟨none, Table.empty⟩ [("bC", .int 1)] [] ("bC", .int 1) ("b_c", .int 2) (by simp)
      (by decide +kernel)⟩

/-- A value before two parameters with the same field may be refused first, and for another
reason. -/
theorem not_shape_of_clash :
    Identifier.field "bC" = Identifier.field "b_c" ∧
      ∃ e, argumentFields ⟨none, Table.empty⟩ []
          [("a", .string "$\x7bresources.x\x7d"), ("bC", .int 1), ("b_c", .int 2)] = .error e ∧
        ¬ e.IsShape := by
  have hname : publicName "a" "a" = .ok "A" := toOption_eq_some.mp (by decide +kernel)
  have hparse : Placeholder.Template.parse "$\x7bresources.x\x7d" =
      .ok [.reference ⟨"resources.x", .resource "x" []⟩] :=
    toOption_eq_some.mp (by decide +kernel)
  have hvalue : expression ⟨none, Table.empty⟩ "a" (.string "$\x7bresources.x\x7d") =
      .error (.reference "resources.x" (.unknownAlias "x") (some "a")) := by
    rw [expression, Scope.interpolate, hparse]
    rfl
  refine ⟨by decide +kernel, .reference "resources.x" (.unknownAlias "x") (some "a"), ?_, ?_⟩
  · rw [argumentFields, hname, hvalue]
    rfl
  · rintro ⟨path, cause, h⟩
    cases h

end Program

end Provision
