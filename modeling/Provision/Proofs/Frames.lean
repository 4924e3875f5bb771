import Provision.Json
import Provision.Proofs.Outcome
import Provision.Proofs.Table

/-!
# Documents around a part

A part of a document stands in frames, one for each list or map around it. Sorting a document
and reading it as a value go through the frames to the part: what comes out has frames that
lead to the same place, and these do not depend on what stands there.
-/

set_option autoImplicit false

namespace Provision

open Outcome

/-- A step into a document: to an item of a list, or to an entry of a map. -/
inductive Step where
  | index (i : Nat)
  | key (k : String)
  deriving DecidableEq

def Step.path (path : String) : Step → String
  | .index i => Json.indexPath path i
  | .key k => Json.keyPath path k

def pathTo (path : String) (steps : List Step) : String := steps.foldl Step.path path

/-- What stands beside a part in the list or the map around it. -/
inductive Frame (α : Type) where
  | item (before after : List α)
  | entry (key : String) (before after : List (String × α))

namespace Frame

variable {α : Type}

def step : Frame α → Step
  | item before _ => .index before.length
  | entry key _ _ => .key key

/-- Whether no other entry of the frame has the key of the part. -/
def Unique : Frame α → Prop
  | item _ _ => True
  | entry key before after => key ∉ before.map Prod.fst ∧ key ∉ after.map Prod.fst

end Frame

/-- The document in which a part stands in these frames, the outermost first. -/
def Json.framed : List (Frame Json) → Json → Json
  | [], j => j
  | .item before after :: rest, j => .array (before ++ framed rest j :: after)
  | .entry key before after :: rest, j => .object (before ++ (key, framed rest j) :: after)

def Value.framed : List (Frame Value) → Value → Value
  | [], v => v
  | .item before after :: rest, v => .list (before ++ framed rest v :: after)
  | .entry key before after :: rest, v => .map (before ++ (key, framed rest v) :: after)

/-! ## Sorting -/

namespace Entries

variable {α : Type}

/-- The place of an entry does not depend on its value. -/
theorem put_eq_append (key : String) (es : List (String × α)) :
    ∃ before after, ∀ x, put key x es = before ++ (key, x) :: after := by
  induction es with
  | nil => exact ⟨[], [], fun _ => rfl⟩
  | cons e rest ih =>
    obtain ⟨k, y⟩ := e
    by_cases hlt : key < k
    · exact ⟨[], (k, y) :: rest, fun x => by simp [put, hlt]⟩
    · by_cases heq : key = k
      · exact ⟨[], rest, fun x => by simp [put, heq]⟩
      · obtain ⟨before, after, h⟩ := ih
        exact ⟨(k, y) :: before, after, fun x => by simp [put, hlt, heq, h]⟩

/-- An entry stays what it is when one of another key comes in. -/
theorem put_append {key k : String} (hne : k ≠ key) (y : α) (before after : List (String × α)) :
    ∃ before' after', ∀ x, put k y (before ++ (key, x) :: after) =
      before' ++ (key, x) :: after' := by
  induction before with
  | nil =>
    by_cases hlt : k < key
    · exact ⟨[(k, y)], after, fun x => by simp [put, hlt]⟩
    · exact ⟨[], put k y after, fun x => by simp [put, hlt, hne]⟩
  | cons e rest ih =>
    obtain ⟨l, z⟩ := e
    by_cases hlt : k < l
    · exact ⟨(k, y) :: (l, z) :: rest, after, fun x => by simp [put, hlt]⟩
    · by_cases heq : k = l
      · exact ⟨(k, y) :: rest, after, fun x => by simp [put, heq]⟩
      · obtain ⟨before', after', h⟩ := ih
        exact ⟨(l, z) :: before', after', fun x => by simp [put, hlt, heq, h]⟩

theorem foldl_put_append {key : String} {es : List (String × α)} (hes : key ∉ es.map Prod.fst)
    (before after : List (String × α)) :
    ∃ before' after', ∀ x,
      es.foldl (fun acc e => put e.1 e.2 acc) (before ++ (key, x) :: after) =
        before' ++ (key, x) :: after' := by
  induction es generalizing before after with
  | nil => exact ⟨before, after, fun _ => rfl⟩
  | cons e rest ih =>
    rw [List.map_cons, List.mem_cons, not_or] at hes
    obtain ⟨before', after', hput⟩ := put_append (Ne.symm hes.1) e.2 before after
    obtain ⟨first, last, hrest⟩ := ih hes.2 before' after'
    exact ⟨first, last, fun x => by rw [List.foldl_cons, hput, hrest]⟩

/-- An entry whose key does not come again has a place in the table that does not depend on
its value. -/
theorem ofList_append {key : String} {after : List (String × α)}
    (ha : key ∉ after.map Prod.fst) (before : List (String × α)) :
    ∃ first last, ∀ x, ofList (before ++ (key, x) :: after) = first ++ (key, x) :: last := by
  obtain ⟨before', after', hput⟩ := put_eq_append key (ofList before)
  obtain ⟨first, last, hrest⟩ := foldl_put_append ha before' after'
  refine ⟨first, last, fun x => ?_⟩
  rw [ofList, List.foldl_append, List.foldl_cons, ← ofList, hput, hrest]

theorem Ascending.unique {key : String} {x : α} {before after : List (String × α)}
    (h : Ascending (before ++ (key, x) :: after)) : (Frame.entry key before after).Unique := by
  have hnodup := h.nodup_keys
  rw [List.map_append, List.map_cons] at hnodup
  refine ⟨fun hmem => ?_, ?_⟩
  · exact (List.nodup_append.mp hnodup).2.2 _ hmem _ List.mem_cons_self rfl
  · exact (List.nodup_cons.mp (List.nodup_append.mp hnodup).2.1).1

end Entries

namespace Json

theorem sortedItems_append (js ks : List Json) :
    sortedItems (js ++ ks) = sortedItems js ++ sortedItems ks := by
  induction js with
  | nil => rfl
  | cons j rest ih => simp [sortedItems, ih]

theorem length_sortedItems (js : List Json) : (sortedItems js).length = js.length := by
  induction js with
  | nil => rfl
  | cons j rest ih => simp [sortedItems, ih]

theorem sortedMembers_append (ms ns : List (String × Json)) :
    sortedMembers (ms ++ ns) = sortedMembers ms ++ sortedMembers ns := by
  induction ms with
  | nil => rfl
  | cons m rest ih => simp [sortedMembers, ih]

theorem keys_sortedMembers (ms : List (String × Json)) :
    (sortedMembers ms).map Prod.fst = ms.map Prod.fst := by
  induction ms with
  | nil => rfl
  | cons m rest ih => simp [sortedMembers, ih]

/-- Sorting leaves a part in place, and sorts what is in it. -/
theorem sorted_framed {frames : List (Frame Json)} (h : ∀ f ∈ frames, f.Unique) :
    ∃ sortedFrames : List (Frame Json), sortedFrames.map Frame.step = frames.map Frame.step ∧
      (∀ f ∈ sortedFrames, f.Unique) ∧
      ∀ j, (framed frames j).sorted = framed sortedFrames j.sorted := by
  induction frames with
  | nil => exact ⟨[], rfl, by simp, fun _ => rfl⟩
  | cons f rest ih =>
    obtain ⟨hf, hrest⟩ := List.forall_mem_cons.mp h
    obtain ⟨inner, hsteps, hunique, hsorted⟩ := ih hrest
    cases f with
    | item before after =>
      refine ⟨.item (sortedItems before) (sortedItems after) :: inner, ?_,
        List.forall_mem_cons.mpr ⟨trivial, hunique⟩, fun j => ?_⟩
      · simp [Frame.step, hsteps, length_sortedItems]
      · simp only [framed, sorted, sortedItems_append, sortedItems, hsorted]
    | entry key before after =>
      have hafter : key ∉ (sortedMembers after).map Prod.fst := by
        rw [keys_sortedMembers]
        exact hf.2
      obtain ⟨first, last, hput⟩ := Entries.ofList_append hafter (sortedMembers before)
      refine ⟨.entry key first last :: inner, by simp [Frame.step, hsteps],
        List.forall_mem_cons.mpr ⟨?_, hunique⟩, fun j => ?_⟩
      -- The places are the same for every part, so any part shows that the keys are distinct.
      · exact (hput .null ▸ Entries.ascending_ofList _ :
          Entries.Ascending (first ++ (key, Json.null) :: last)).unique
      · simp only [framed, sorted, sortedMembers_append, sortedMembers, hsorted, hput]

end Json

/-! ## Reading -/

/-- Whether `go` goes through a list, does the same to each element, whose number it is told,
and gathers the results. -/
structure Traverses {ε α β : Type} (go : Nat → List α → Except ε (List β))
    (one : Nat → α → Except ε β) : Prop where
  nil : ∀ i, go i [] = .ok []
  cons : ∀ i a rest, go i (a :: rest) = do
    let b ← one i a
    let bs ← go (i + 1) rest
    return b :: bs

namespace Traverses

variable {ε α β : Type} {go : Nat → List α → Except ε (List β)} {one : Nat → α → Except ε β}

theorem cons_eq_ok (h : Traverses go one) {i : Nat} {a : α} {rest : List α} {cs : List β} :
    go i (a :: rest) = .ok cs ↔
      ∃ b bs, one i a = .ok b ∧ go (i + 1) rest = .ok bs ∧ cs = b :: bs := by
  rw [h.cons]
  constructor
  · intro hgo
    obtain ⟨b, hb, hgo⟩ := bind_eq_ok.mp hgo
    obtain ⟨bs, hbs, hgo⟩ := bind_eq_ok.mp hgo
    exact ⟨b, bs, hb, hbs, (pure_eq_ok.mp hgo).symm⟩
  · rintro ⟨b, bs, hb, hbs, rfl⟩
    exact bind_eq_ok.mpr ⟨b, hb, bind_eq_ok.mpr ⟨bs, hbs, rfl⟩⟩

/-- The results around an element do not depend on it. -/
theorem append_eq_ok (h : Traverses go one) {i : Nat} {before after : List α} {a : α}
    {cs : List β} :
    go i (before ++ a :: after) = .ok cs ↔
      ∃ first b last, go i before = .ok first ∧ one (i + before.length) a = .ok b ∧
        go (i + before.length + 1) after = .ok last ∧ cs = first ++ b :: last := by
  induction before generalizing i cs with
  | nil =>
    rw [List.nil_append, h.cons_eq_ok]
    constructor
    · rintro ⟨b, last, hb, hlast, rfl⟩
      exact ⟨[], b, last, h.nil i, hb, hlast, rfl⟩
    · rintro ⟨first, b, last, hfirst, hb, hlast, rfl⟩
      cases (h.nil i).symm.trans hfirst
      exact ⟨b, last, hb, hlast, rfl⟩
  | cons x before ih =>
    rw [List.cons_append, h.cons_eq_ok, List.length_cons, ← Nat.add_assoc, Nat.add_right_comm]
    constructor
    · rintro ⟨y, ys, hy, hys, rfl⟩
      obtain ⟨first, b, last, hfirst, hb, hlast, rfl⟩ := ih.mp hys
      exact ⟨y :: first, b, last, h.cons_eq_ok.mpr ⟨y, first, hy, hfirst, rfl⟩, hb, hlast, rfl⟩
    · rintro ⟨first, b, last, hfirst, hb, hlast, rfl⟩
      obtain ⟨y, ys, hy, hys, rfl⟩ := h.cons_eq_ok.mp hfirst
      exact ⟨y, ys ++ b :: last, hy, ih.mpr ⟨ys, b, last, hys, hb, hlast, rfl⟩, rfl⟩

theorem length_eq (h : Traverses go one) {i : Nat} {as : List α} {bs : List β}
    (hgo : go i as = .ok bs) : bs.length = as.length := by
  induction as generalizing i bs with
  | nil =>
    cases (h.nil i).symm.trans hgo
    rfl
  | cons a rest ih =>
    obtain ⟨b, bs, -, hbs, rfl⟩ := h.cons_eq_ok.mp hgo
    simp [ih hbs]

end Traverses

structure TraversesEntries {ε α β κ : Type} (go : List (String × α) → Except ε (List (κ × β)))
    (one : String → α → Except ε β) (label : String → κ) : Prop where
  nil : go [] = .ok []
  cons : ∀ k a rest, go ((k, a) :: rest) = do
    let b ← one k a
    let bs ← go rest
    return (label k, b) :: bs

namespace TraversesEntries

variable {ε α β κ : Type} {go : List (String × α) → Except ε (List (κ × β))}
variable {one : String → α → Except ε β} {label : String → κ}

theorem traverses (h : TraversesEntries go one label) :
    Traverses (fun _ => go) fun _ e => (one e.1 e.2).map (label e.1, ·) where
  nil _ := h.nil
  cons _ e rest := by
    rw [h.cons]
    cases one e.1 e.2 <;> rfl

theorem append_eq_ok (h : TraversesEntries go one label) {before after : List (String × α)}
    {k : String} {a : α} {cs : List (κ × β)} :
    go (before ++ (k, a) :: after) = .ok cs ↔
      ∃ first b last, go before = .ok first ∧ one k a = .ok b ∧ go after = .ok last ∧
        cs = first ++ (label k, b) :: last := by
  refine (h.traverses.append_eq_ok (i := 0)).trans ?_
  constructor
  · rintro ⟨first, b, last, hfirst, hb, hlast, rfl⟩
    obtain ⟨x, hx, rfl⟩ := map_eq_ok.mp hb
    exact ⟨first, x, last, hfirst, hx, hlast, rfl⟩
  · rintro ⟨first, b, last, hfirst, hb, hlast, rfl⟩
    exact ⟨first, _, last, hfirst, map_eq_ok.mpr ⟨b, hb, rfl⟩, hlast, rfl⟩

theorem keys_eq (h : TraversesEntries go one label) {es : List (String × α)}
    {bs : List (κ × β)} (hgo : go es = .ok bs) : bs.map Prod.fst = es.map fun e => label e.1 := by
  induction es generalizing bs with
  | nil =>
    cases h.nil.symm.trans hgo
    rfl
  | cons e rest ih =>
    obtain ⟨b, bs, hb, hbs, rfl⟩ := (h.traverses.cons_eq_ok (i := 0)).mp hgo
    obtain ⟨x, -, rfl⟩ := map_eq_ok.mp hb
    simp [ih hbs]

theorem exists_ok_iff (h : TraversesEntries go one label) {es : List (String × α)} :
    (∃ bs, go es = .ok bs) ↔ ∀ e ∈ es, ∃ b, one e.1 e.2 = .ok b := by
  induction es with
  | nil => simp [h.nil]
  | cons e rest ih =>
    rw [List.forall_mem_cons, ← ih]
    constructor
    · rintro ⟨bs, hbs⟩
      obtain ⟨b, bs, hb, hrest, -⟩ := (h.traverses.cons_eq_ok (i := 0)).mp hbs
      obtain ⟨x, hx, -⟩ := map_eq_ok.mp hb
      exact ⟨⟨x, hx⟩, bs, hrest⟩
    · rintro ⟨⟨x, hx⟩, bs, hbs⟩
      have hb : (one e.1 e.2).map (label e.1, ·) = .ok (label e.1, x) :=
        map_eq_ok.mpr ⟨x, hx, rfl⟩
      exact ⟨_, (h.traverses.cons_eq_ok (i := 0)).mpr ⟨_, bs, hb, hbs, rfl⟩⟩

end TraversesEntries

namespace Json

theorem normalizeItems_traverses (path : String) :
    Traverses (normalizeItems path) fun i j => normalize (indexPath path i) j :=
  ⟨fun _ => rfl, fun _ _ _ => rfl⟩

theorem normalizeMembers_traverses (path : String) :
    TraversesEntries (normalizeMembers path) (fun k j => normalize (keyPath path k) j) id :=
  ⟨rfl, fun _ _ _ => rfl⟩

/-- A document with a part is read as a value with that part, in the same place. -/
theorem normalize_framed {frames : List (Frame Json)} {path : String} {j : Json} {v : Value}
    (hunique : ∀ f ∈ frames, f.Unique) (h : (framed frames j).normalize path = .ok v) :
    ∃ outer : List (Frame Value), outer.map Frame.step = frames.map Frame.step ∧
      (∀ f ∈ outer, f.Unique) ∧
      ∀ k u, k.normalize (pathTo path (frames.map Frame.step)) = .ok u →
        (framed frames k).normalize path = .ok (Value.framed outer u) := by
  induction frames generalizing path v with
  | nil => exact ⟨[], rfl, by simp, fun _ _ hk => hk⟩
  | cons f rest ih =>
    obtain ⟨hf, hrest⟩ := List.forall_mem_cons.mp hunique
    cases f with
    | item before after =>
      obtain ⟨vs, hvs, -⟩ := bind_eq_ok.mp h
      have ht := normalizeItems_traverses path
      obtain ⟨first, b, last, hfirst, hb, hlast, -⟩ := ht.append_eq_ok.mp hvs
      obtain ⟨outer, hsteps, huniq, hread⟩ := ih hrest hb
      refine ⟨.item first last :: outer, by simp [Frame.step, hsteps, ht.length_eq hfirst],
        List.forall_mem_cons.mpr ⟨trivial, huniq⟩, fun k u hk => ?_⟩
      have hinner := hread k u (by simpa [pathTo, Frame.step, Step.path] using hk)
      have hall := ht.append_eq_ok.mpr ⟨first, _, last, hfirst, hinner, hlast, rfl⟩
      exact bind_eq_ok.mpr ⟨_, hall, rfl⟩
    | entry key before after =>
      obtain ⟨vs, hvs, -⟩ := bind_eq_ok.mp h
      have ht := normalizeMembers_traverses path
      obtain ⟨first, b, last, hfirst, hb, hlast, -⟩ := ht.append_eq_ok.mp hvs
      obtain ⟨outer, hsteps, huniq, hread⟩ := ih hrest hb
      have hkeys : (Frame.entry key first last).Unique :=
        ⟨ht.keys_eq hfirst ▸ hf.1, ht.keys_eq hlast ▸ hf.2⟩
      refine ⟨.entry key first last :: outer, by simp [Frame.step, hsteps],
        List.forall_mem_cons.mpr ⟨hkeys, huniq⟩, fun k u hk => ?_⟩
      have hall := ht.append_eq_ok.mpr ⟨first, _, last, hfirst, hread k u hk, hlast, rfl⟩
      exact bind_eq_ok.mpr ⟨_, hall, rfl⟩

end Json

end Provision
