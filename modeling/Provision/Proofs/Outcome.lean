import Mathlib.Data.List.Basic
import Mathlib.Data.List.Forall2

/-!
# Outcomes of computations that may fail

A sequence of steps succeeds when each step does, and fails with the failure of
the first step that does not succeed. What it returns is what its last step
returns after the results of the steps before.
-/

set_option autoImplicit false

namespace Provision.Outcome

variable {ε α β : Type}

theorem bind_eq_ok {x : Except ε α} {f : α → Except ε β} {b : β} :
    x >>= f = .ok b ↔ ∃ a, x = .ok a ∧ f a = .ok b := by
  cases x <;> simp [bind, Except.bind]

theorem bind_eq_error {x : Except ε α} {f : α → Except ε β} {e : ε} :
    x >>= f = .error e ↔ x = .error e ∨ ∃ a, x = .ok a ∧ f a = .error e := by
  cases x <;> simp [bind, Except.bind]

theorem pure_eq_ok {a b : α} : (pure a : Except ε α) = .ok b ↔ a = b := by
  simp [pure, Except.pure]

theorem pure_ne_error {a : α} {e : ε} : (pure a : Except ε α) ≠ .error e := by
  simp [pure, Except.pure]

theorem map_eq_ok {x : Except ε α} {f : α → β} {b : β} :
    x.map f = .ok b ↔ ∃ a, x = .ok a ∧ f a = b := by
  cases x <;> simp [Except.map]

theorem exists_eq_ok {x : Except ε α} (h : x.toOption.isSome = true) : ∃ a, x = .ok a := by
  cases x with
  | ok a => exact ⟨a, rfl⟩
  | error e => cases h

theorem toOption_eq_some {x : Except ε α} {a : α} : x.toOption = some a ↔ x = .ok a := by
  cases x <;> simp [Except.toOption]

theorem mapM_eq_error {f : α → Except ε β} {as : List α} {e : ε}
    (h : as.mapM f = .error e) : ∃ a ∈ as, f a = .error e := by
  induction as with
  | nil => exact absurd h pure_ne_error
  | cons a as ih =>
    rw [List.mapM_cons] at h
    rcases bind_eq_error.mp h with ha | ⟨b, _, h⟩
    · exact ⟨a, by simp, ha⟩
    · rcases bind_eq_error.mp h with hrest | ⟨_, _, h⟩
      · obtain ⟨c, hc, hfail⟩ := ih hrest
        exact ⟨c, List.mem_cons_of_mem _ hc, hfail⟩
      · exact absurd h pure_ne_error

theorem forall₂_of_mapM_eq_ok {f : α → Except ε β} {as : List α} {bs : List β}
    (h : as.mapM f = .ok bs) : List.Forall₂ (fun a b => f a = .ok b) as bs := by
  induction as generalizing bs with
  | nil =>
    cases pure_eq_ok.mp h
    exact .nil
  | cons a as ih =>
    rw [List.mapM_cons] at h
    obtain ⟨b, hb, h⟩ := bind_eq_ok.mp h
    obtain ⟨rest, hrest, h⟩ := bind_eq_ok.mp h
    cases pure_eq_ok.mp h
    exact .cons hb (ih hrest)

/-- Computations of which it can be said what they return, in whatever state they
are started. -/
class Returning (m : Type → Type) [Monad m] where
  Returns {α : Type} : m α → α → Prop
  of_pure {α : Type} {a b : α} : Returns (pure a) b → a = b
  of_bind {α β : Type} {x : m α} {f : α → m β} {b : β} :
    Returns (x >>= f) b → ∃ a, Returns x a ∧ Returns (f a) b

export Returning (Returns)

instance : Returning (Except ε) where
  Returns x a := x = .ok a
  of_pure h := pure_eq_ok.mp h
  of_bind h := bind_eq_ok.mp h

instance : Returning Option where
  Returns x a := x = some a
  of_pure h := Option.some.inj h
  of_bind h := Option.bind_eq_some_iff.mp h

instance {σ : Type} : Returning (StateT σ Option) where
  Returns x a := ∃ s t, x s = some (a, t)
  of_pure := by
    rintro α a b ⟨s, t, h⟩
    cases h
    rfl
  of_bind := by
    rintro α β x f b ⟨s, t, h⟩
    obtain ⟨⟨a, r⟩, hx, hf⟩ := Option.bind_eq_some_iff.mp h
    exact ⟨a, ⟨s, r, hx⟩, ⟨r, t, hf⟩⟩

/-- What a list of computations returns was returned by one of them. -/
theorem mem_of_mapM_returns {m : Type → Type} [Monad m] [LawfulMonad m] [Returning m]
    {f : α → m β} {as : List α} {bs : List β} (h : Returns (as.mapM f) bs) :
    ∀ b ∈ bs, ∃ a ∈ as, Returns (f a) b := by
  induction as generalizing bs with
  | nil =>
    cases Returning.of_pure h
    simp
  | cons a as ih =>
    rw [List.mapM_cons] at h
    obtain ⟨first, hfirst, h⟩ := Returning.of_bind h
    obtain ⟨rest, hrest, h⟩ := Returning.of_bind h
    cases Returning.of_pure h
    intro b hb
    rcases List.mem_cons.mp hb with rfl | hb
    · exact ⟨a, by simp, hfirst⟩
    · obtain ⟨c, hc, hret⟩ := ih hrest b hb
      exact ⟨c, List.mem_cons_of_mem _ hc, hret⟩

theorem mem_of_mapM_eq_ok {f : α → Except ε β} {as : List α} {bs : List β}
    (h : as.mapM f = .ok bs) : ∀ b ∈ bs, ∃ a ∈ as, f a = .ok b :=
  mem_of_mapM_returns (m := Except ε) h

end Provision.Outcome
