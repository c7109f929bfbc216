import Mathlib.Tactic

/-!
# Parallel computations

Two fallible computations are parallel under a relation when they fail with the same error,
or both return, with related results. This is what two runs on inputs that differ in
a secret have in common, and it is kept by sequencing and by branching on anything the
runs share.
-/

namespace Foundation

variable {ε α β γ δ : Type} {R : α → β → Prop} {S : γ → δ → Prop}

inductive Parallel (R : α → β → Prop) : Except ε α → Except ε β → Prop where
  | ok {a : α} {b : β} (h : R a b) : Parallel R (.ok a) (.ok b)
  | error (what : ε) : Parallel R (.error what) (.error what)

namespace Parallel

theorem same {R : α → α → Prop} (hR : ∀ a, R a a) (x : Except ε α) : Parallel R x x := by
  cases x with
  | ok a => exact .ok (hR a)
  | error what => exact .error what

theorem bind {x : Except ε α} {y : Except ε β} {f : α → Except ε γ} {g : β → Except ε δ}
    (h : Parallel R x y) (hfg : ∀ a b, R a b → Parallel S (f a) (g b)) :
    Parallel S (x >>= f) (y >>= g) := by
  cases h with
  | ok hab => exact hfg _ _ hab
  | error what => exact .error what

/-- A shared computation first. -/
theorem bind_same {x : Except ε α} {f : α → Except ε γ} {g : α → Except ε δ}
    (hfg : ∀ a, Parallel S (f a) (g a)) : Parallel S (x >>= f) (x >>= g) := by
  cases x with
  | ok a => exact hfg a
  | error what => exact .error what

theorem ite {c c' : Prop} [Decidable c] [Decidable c'] {x x' : Except ε α} {y y' : Except ε β}
    (hc : c ↔ c') (h : Parallel R x y) (h' : Parallel R x' y') :
    Parallel R (if c then x else x') (if c' then y else y') := by
  by_cases h'' : c
  · rw [if_pos h'', if_pos (hc.mp h'')]
    exact h
  · rw [if_neg h'', if_neg (mt hc.mpr h'')]
    exact h'

end Parallel

end Foundation
