import Provision.Proofs.Graph.Consistency
import Provision.Proofs.Graph.DependencyOrder

/-!
# Failures of a program

Once the references in the parameters of a node resolve, its program code can
only fail over the shape of a value: a name that is no exported identifier, a
field given twice, a double without a literal. The program of a project that was
built therefore fails over a cycle or over a shape, and over nothing else.
-/

set_option autoImplicit false

namespace Provision

open Outcome Placeholder Go

def Error.IsShape (e : Error) : Prop := ∃ path cause, e = .shape path cause

theorem Value.jsonText_error {path : String} {v : Value} {e : Error}
    (h : v.jsonText path = .error e) : e.IsShape := by
  unfold jsonText at h
  split at h
  · cases h
  · cases h
    exact ⟨_, _, rfl⟩

namespace Program

theorem publicName_error {path raw : String} {e : Error} (h : publicName path raw = .error e) :
    e.IsShape := by
  unfold publicName at h
  dsimp only at h
  split at h
  · cases h
  · cases h
    exact ⟨_, _, rfl⟩

theorem float_error {path : String} {x : Double} {e : Error} (h : float path x = .error e) :
    e.IsShape := by
  unfold float at h
  split at h
  · cases h
  · cases h
    exact ⟨_, _, rfl⟩

theorem argument_error {path : String} {v : Value} {e : Error}
    (h : argument path v = .error e) : e.IsShape := by
  have htext : ∀ {v : Value}, (do
      let text ← v.jsonText path
      return Expr.string text) = Except.error e → e.IsShape := by
    intro v h
    rcases bind_eq_error.mp h with hj | ⟨_, _, h⟩
    · exact Value.jsonText_error hj
    · exact absurd h pure_ne_error
  cases v with
  | null => cases h
  | bool => cases h
  | int => cases h
  | float => exact float_error h
  | string => cases h
  | list => exact htext h
  | map => exact htext h

theorem accessFields_error {path : String} {base : Expr} {fields : List String} {e : Error}
    (h : accessFields path base fields = .error e) : e.IsShape := by
  induction fields generalizing base with
  | nil => cases h
  | cons field rest ih =>
    rcases bind_eq_error.mp h with hn | ⟨_, _, h⟩
    · exact publicName_error hn
    · exact ih h

mutual

theorem literal_error {path : String} {v : Value} {e : Error} (h : literal path v = .error e) :
    e.IsShape := by
  match v with
  | .null => cases h
  | .bool _ => cases h
  | .int _ => cases h
  | .float _ =>
    rcases bind_eq_error.mp h with hf | ⟨_, _, h⟩
    · exact float_error hf
    · exact absurd h pure_ne_error
  | .string _ => cases h
  | .list _ =>
    rcases bind_eq_error.mp h with hi | ⟨_, _, h⟩
    · exact literalItems_error hi
    · exact absurd h pure_ne_error
  | .map _ =>
    rcases bind_eq_error.mp h with he | ⟨_, _, h⟩
    · exact literalEntries_error he
    · exact absurd h pure_ne_error

theorem literalItems_error {path : String} {i : Nat} {vs : List Value} {e : Error}
    (h : literalItems path i vs = .error e) : e.IsShape := by
  match vs with
  | [] => cases h
  | _ :: _ =>
    rcases bind_eq_error.mp h with hv | ⟨_, _, h⟩
    · exact literal_error hv
    · rcases bind_eq_error.mp h with hr | ⟨_, _, h⟩
      · exact literalItems_error hr
      · exact absurd h pure_ne_error

theorem literalEntries_error {path : String} {es : List (String × Value)} {e : Error}
    (h : literalEntries path es = .error e) : e.IsShape := by
  match es with
  | [] => cases h
  | (_, _) :: _ =>
    rcases bind_eq_error.mp h with hv | ⟨_, _, h⟩
    · exact literal_error hv
    · rcases bind_eq_error.mp h with hr | ⟨_, _, h⟩
      · exact literalEntries_error hr
      · exact absurd h pure_ne_error

end

theorem interpolated_error {path : String} {i : Interpolation} {e : Error}
    (h : interpolated path i = .error e) : e.IsShape := by
  cases i with
  | literal => cases h
  | value => exact literal_error h
  | output => exact accessFields_error h
  | format text args =>
    rcases bind_eq_error.mp h with hm | ⟨_, _, h⟩
    · obtain ⟨a, _, ha⟩ := mapM_eq_error hm
      cases a with
      | value => exact argument_error ha
      | output => exact accessFields_error ha
    · exact absurd h pure_ne_error

mutual

theorem expression_error {scope : Scope} {path : String} {v : Value} {e : Error}
    (hr : ∀ s ∈ v.strings, scope.Resolves s) (h : expression scope path v = .error e) :
    e.IsShape := by
  match v with
  | .null => exact literal_error h
  | .bool _ => exact literal_error h
  | .int _ => exact literal_error h
  | .float _ => exact literal_error h
  | .string s =>
    obtain ⟨i, hi⟩ := (hr s (by simp [Value.strings])).interpolate
    rcases bind_eq_error.mp h with hl | ⟨j, _, h⟩
    · rw [hi] at hl
      cases hl
    · exact interpolated_error h
  | .list _ =>
    rcases bind_eq_error.mp h with hi | ⟨_, _, h⟩
    · exact expressionItems_error hr hi
    · exact absurd h pure_ne_error
  | .map _ =>
    rcases bind_eq_error.mp h with he | ⟨_, _, h⟩
    · exact expressionEntries_error hr he
    · exact absurd h pure_ne_error

theorem expressionItems_error {scope : Scope} {path : String} {i : Nat} {vs : List Value}
    {e : Error} (hr : ∀ s ∈ Value.stringsOfItems vs, scope.Resolves s)
    (h : expressionItems scope path i vs = .error e) : e.IsShape := by
  match vs with
  | [] => cases h
  | _ :: _ =>
    rcases bind_eq_error.mp h with hv | ⟨_, _, h⟩
    · exact expression_error (fun s hs => hr s (List.mem_append_left _ hs)) hv
    · rcases bind_eq_error.mp h with ht | ⟨_, _, h⟩
      · exact expressionItems_error (fun s hs => hr s (List.mem_append_right _ hs)) ht
      · exact absurd h pure_ne_error

theorem expressionEntries_error {scope : Scope} {path : String} {es : List (String × Value)}
    {e : Error} (hr : ∀ s ∈ Value.stringsOfEntries es, scope.Resolves s)
    (h : expressionEntries scope path es = .error e) : e.IsShape := by
  match es with
  | [] => cases h
  | (_, _) :: _ =>
    rcases bind_eq_error.mp h with hv | ⟨_, _, h⟩
    · exact expression_error (fun s hs => hr s (List.mem_append_left _ hs)) hv
    · rcases bind_eq_error.mp h with ht | ⟨_, _, h⟩
      · exact expressionEntries_error (fun s hs => hr s (List.mem_append_right _ hs)) ht
      · exact absurd h pure_ne_error

end

theorem argumentFields_error {scope : Scope} {seen : List String} {ps : List (String × Value)}
    {e : Error} (hr : ∀ s ∈ Value.stringsOfEntries ps, scope.Resolves s)
    (h : argumentFields scope seen ps = .error e) : e.IsShape := by
  induction ps generalizing seen with
  | nil => cases h
  | cons p rest ih =>
    obtain ⟨k, v⟩ := p
    rcases bind_eq_error.mp h with hn | ⟨field, _, h⟩
    · exact publicName_error hn
    · dsimp only at h
      split at h
      · cases h
        exact ⟨_, _, rfl⟩
      · rcases bind_eq_error.mp h with hv | ⟨_, _, h⟩
        · exact expression_error (fun s hs => hr s (List.mem_append_left _ hs)) hv
        · rcases bind_eq_error.mp h with ht | ⟨_, _, h⟩
          · exact ih (fun s hs => hr s (List.mem_append_right _ hs)) ht
          · exact absurd h pure_ne_error

theorem provision_error {g : Graph} {id : String} {n : Node} {e : Error}
    (hn : g.nodes.find? id = some n)
    (hr : ∀ ps, n.params = some ps → ∀ s ∈ Value.stringsOfEntries ps, (scopeOf g id n).Resolves s)
    (h : provision g id = .error e) : e.IsShape := by
  unfold provision at h
  rw [hn] at h
  rcases bind_eq_error.mp h with hf | ⟨_, _, h⟩
  · refine argumentFields_error ?_ hf
    cases hp : n.params with
    | none => simp [Value.stringsOfEntries]
    | some ps => exact hr ps hp
  · exact absurd h pure_ne_error

theorem deliverAll_emit_error {g : Graph} {ids : List String} {w w' : Graph.Walk (List Stmt)}
    {e : Error} (h : Graph.deliverAll (emit g) ids w = (.error e, w')) :
    ∃ id ∈ ids, provision g id = .error e := by
  induction ids generalizing w with
  | nil => cases h
  | cons id ids ih =>
    cases hp : provision g id with
    | error e' =>
      simp only [Graph.deliverAll, Graph.deliver, emit, hp] at h
      cases h
      exact ⟨id, by simp, hp⟩
    | ok stmts =>
      simp only [Graph.deliverAll, Graph.deliver, emit, hp] at h
      obtain ⟨x, hx, hfail⟩ := ih h
      exact ⟨x, List.mem_cons_of_mem _ hx, hfail⟩

/-- The body of a program is made by the ids that the exploration of the nodes hands
out. It fails at the first of them that fails, or else where the exploration stops. -/
theorem body_cases (g : Graph) :
    ∃ fresh stop w, g.Explores [] g.nodes.keys [] fresh stop ∧
      ((∃ e, Graph.deliverAll (emit g) fresh ⟨[], []⟩ = (.error e, w) ∧ body g = .error e) ∨
        Graph.deliverAll (emit g) fresh ⟨[], []⟩ = (.ok (), w) ∧
          body g = (Graph.outcome stop).map fun _ => w.state ++ [.ret [.nil]]) := by
  obtain ⟨fresh, stop, hexp⟩ := Graph.exists_explores g [] g.nodes.keys []
  cases hd : Graph.deliverAll (emit g) fresh ⟨[], []⟩ with
  | mk result w =>
    refine ⟨fresh, stop, w, hexp, ?_⟩
    unfold body
    rw [hexp.visitInOrder_eq (emit g) [], hd]
    cases result with
    | error e => exact .inl ⟨e, rfl, rfl⟩
    | ok =>
      refine .inr ⟨rfl, ?_⟩
      cases stop <;> rfl

/-- A program fails over a cycle, or over one of the ids that its nodes lead to. -/
theorem body_error {g : Graph} {e : Error} (h : body g = .error e) :
    (∃ node, e = .cycle node) ∨ ∃ id, g.Reachable id ∧ provision g id = .error e := by
  obtain ⟨fresh, stop, w, hexp, ⟨e', hd, hb⟩ | ⟨hd, hb⟩⟩ := body_cases g
  · cases hb.symm.trans h
    obtain ⟨id, hid, hfail⟩ := deliverAll_emit_error hd
    obtain ⟨root, hroot, hpath⟩ := hexp.reached id hid
    exact .inr ⟨id, ⟨root, hroot, hpath⟩, hfail⟩
  · cases stop with
    | none => cases hb.symm.trans h
    | some node =>
      cases hb.symm.trans h
      exact .inl ⟨node, rfl⟩

/-- The program of a project that was built succeeds, or it fails over a cycle or
the shape of a value. Every string in the parameters of a node is a template whose
references resolve where its program code is made. -/
theorem program_of_built_graph {p : Project} {g : Graph} (hp : p.Ordered)
    (h : p.graph = .ok g) :
    ((∃ text, g.program = .ok text) ∨ (∃ node, g.program = .error (.cycle node)) ∨
        ∃ path cause, g.program = .error (.shape path cause)) ∧
      ∀ id n ps, g.nodes.find? id = some n → n.params = some ps →
        ∀ s ∈ Value.stringsOfEntries ps, ∃ t, Template.parse s = .ok t ∧
          ∀ r ∈ t.references, ∃ a, (scopeOf g id n).resolve r = .ok a := by
  obtain ⟨owners, hc, hi⟩ := Graph.exists_consistent h
  have hresolves : ∀ id n ps, g.nodes.find? id = some n → n.params = some ps →
      ∀ s ∈ Value.stringsOfEntries ps, (scopeOf g id n).Resolves s :=
    fun _ _ _ hn hps => hc.resolves (hi hp) hn hps
  refine ⟨?_, hresolves⟩
  cases hprog : g.program with
  | ok text => exact .inl ⟨text, rfl⟩
  | error e =>
    have hbody : body g = .error e := by
      rcases bind_eq_error.mp hprog with hfile | ⟨_, _, h⟩
      · rcases bind_eq_error.mp hfile with hb | ⟨_, _, h⟩
        · exact hb
        · exact absurd h pure_ne_error
      · exact absurd h pure_ne_error
    rcases body_error hbody with ⟨node, rfl⟩ | ⟨id, hreach, hfail⟩
    · exact .inr (.inl ⟨node, rfl⟩)
    · obtain ⟨n, hn⟩ := Table.mem_keys_iff.mp (hc.mem_keys_of_reachable hreach)
      obtain ⟨path, cause, rfl⟩ := provision_error hn (fun ps => hresolves id n ps hn) hfail
      exact .inr (.inr ⟨path, cause, rfl⟩)

def shop : Project where
  workloads :=
    [⟨"", Table.ofList [("labels", .map [("tier", .string "$5")]), ("name", .string "shop")],
      Table.empty, none,
      Table.ofList
        [("db", ⟨"postgres", none, some "main", none, some (Table.ofList
          [("host", .string "$\x7bresources.net.host\x7d"),
            ("label", .string "$\x7bmetadata.labels.tier\x7d-$\x7bmetadata.name\x7d")])⟩),
          ("net", ⟨"network", none, none, none, none⟩)]⟩]
  workloadComponent := ⟨"site", "New", "Args"⟩
  library :=
    [⟨⟨"sql", "New", "Args"⟩, "postgres", "", ""⟩, ⟨⟨"net", "New", "Args"⟩, "network", "", ""⟩]

theorem shop_ordered : shop.Ordered := by
  intro w hw
  cases List.mem_singleton.mp hw
  have hlabels : (Value.map [("tier", .string "$5")]).Ordered :=
    ⟨List.pairwise_singleton _ _, trivial, trivial⟩
  refine ⟨⟨hlabels, trivial, trivial⟩, ?_, ?_⟩
  · intro e he
    cases he
  · intro e he t ht
    rcases he with _ | ⟨_, _ | ⟨_, he⟩⟩
    · rcases ht with ht | ht
      · cases ht
      · cases ht
        exact ⟨trivial, trivial, trivial⟩
    · rcases ht with ht | ht <;> cases ht
    · cases he

theorem exists_shop_file : ∃ g file, shop.graph = .ok g ∧ ofGraph g = .ok file := by
  obtain ⟨file, hfile⟩ := exists_eq_ok (x := shop.graph.bind ofGraph) (by decide +kernel)
  obtain ⟨g, hg, hf⟩ := bind_eq_ok.mp hfile
  exact ⟨g, file, hg, hf⟩

theorem program_of_built_shop :
    shop.Ordered ∧ ∃ g, shop.graph = .ok g ∧
      ((∃ text, g.program = .ok text) ∨ (∃ node, g.program = .error (.cycle node)) ∨
          ∃ path cause, g.program = .error (.shape path cause)) ∧
        ∀ id n ps, g.nodes.find? id = some n → n.params = some ps →
          ∀ s ∈ Value.stringsOfEntries ps, ∃ t, Template.parse s = .ok t ∧
            ∀ r ∈ t.references, ∃ a, (scopeOf g id n).resolve r = .ok a := by
  obtain ⟨g, _, hg, -⟩ := exists_shop_file
  exact ⟨shop_ordered, g, hg, program_of_built_graph shop_ordered hg⟩

end Program

end Provision
