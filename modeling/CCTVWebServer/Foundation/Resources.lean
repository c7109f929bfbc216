import Mathlib.Tactic

/-!
# Resources that are acquired, used and released

A program that manages resources by hand is right about them when it touches only what
it holds, never loses what it holds by acquiring it again, and releases everything in the end.
`perform` runs its operations and fails at the first one that is not so, and `Rounds` says
what this means for a single resource.
-/

namespace Foundation.Resources

variable {ρ : Type}

inductive Op (ρ : Type) where
  | acquire (r : ρ)
  | use (r : ρ)
  | release (r : ρ)
  deriving DecidableEq

def Op.resource : Op ρ → ρ
  | acquire r | use r | release r => r

/-- The operations on one resource are rounds of an acquisition, uses and a release. The last
round may still be open. -/
inductive Rounds (r : ρ) : Bool → List (Op ρ) → Prop
  | nil : Rounds r false []
  | acquire {ops} (h : Rounds r false ops) : Rounds r true (ops ++ [.acquire r])
  | use {ops} (h : Rounds r true ops) : Rounds r true (ops ++ [.use r])
  | release {ops} (h : Rounds r true ops) : Rounds r false (ops ++ [.release r])

variable [DecidableEq ρ]

/-- What is held after the operation. -/
def Op.perform : Op ρ → Finset ρ → Option (Finset ρ)
  | acquire r, held => if r ∈ held then none else some (insert r held)
  | use r, held => if r ∈ held then some held else none
  | release r, held => if r ∈ held then some (held.erase r) else none

def perform : List (Op ρ) → Finset ρ → Option (Finset ρ)
  | [], held => some held
  | op :: ops, held => (op.perform held).bind (perform ops)

@[simp] theorem perform_nil (held : Finset ρ) : perform [] held = some held := rfl

theorem perform_append (ops ops' : List (Op ρ)) (held : Finset ρ) :
    perform (ops ++ ops') held = (perform ops held).bind (perform ops') := by
  induction ops generalizing held with
  | nil => rfl
  | cons op ops ih =>
    rw [List.cons_append, perform, perform, Option.bind_assoc]
    congr 1
    funext held'
    exact ih held'

/-- The operations are fine where `held` is held, and leave `after`. -/
abbrev Leads (ops : List (Op ρ)) (held after : Finset ρ) : Prop := perform ops held = some after

theorem Leads.append {ops ops' : List (Op ρ)} {held mid after : Finset ρ} (h : Leads ops held mid)
    (h' : Leads ops' mid after) : Leads (ops ++ ops') held after := by
  rw [Leads, perform_append, h, Option.bind_some, h']

/-- Operations that are fine can be stopped anywhere. -/
theorem Leads.stopped {ops ops' : List (Op ρ)} {held after : Finset ρ} (h : Leads ops' held after)
    (hops : ops <+: ops') : ∃ mid, Leads ops held mid := by
  obtain ⟨rest, rfl⟩ := hops
  rw [Leads, perform_append, Option.bind_eq_some_iff] at h
  obtain ⟨mid, hmid, -⟩ := h
  exact ⟨mid, hmid⟩

theorem leads_concat {ops : List (Op ρ)} {op : Op ρ} {held after : Finset ρ} :
    Leads (ops ++ [op]) held after ↔
      ∃ mid, Leads ops held mid ∧ op.perform mid = some after := by
  simp [Leads, perform_append, perform, Option.bind_eq_some_iff]

/-- What one operation means for the resource it is about. -/
theorem Rounds.step {op : Op ρ} {held after : Finset ρ} {ops : List (Op ρ)}
    (hop : op.perform held = some after) (h : Rounds op.resource (op.resource ∈ held) ops) :
    Rounds op.resource (op.resource ∈ after) (ops ++ [op]) := by
  cases op with
  | acquire r =>
    by_cases hr : r ∈ held
    · simp [Op.perform, hr] at hop
    · simp only [Op.perform, hr, if_false, Option.some.injEq] at hop
      subst hop
      simp only [Op.resource, hr, decide_false] at h
      simpa [Op.resource] using h.acquire
  | use r =>
    by_cases hr : r ∈ held
    · simp only [Op.perform, hr, if_true, Option.some.injEq] at hop
      subst hop
      simp only [Op.resource, hr, decide_true] at h ⊢
      exact h.use
    · simp [Op.perform, hr] at hop
  | release r =>
    by_cases hr : r ∈ held
    · simp only [Op.perform, hr, if_true, Option.some.injEq] at hop
      subst hop
      simp only [Op.resource, hr, decide_true] at h
      simpa [Op.resource] using h.release
    · simp [Op.perform, hr] at hop

/-- What it means for the others. -/
theorem mem_iff_of_perform {op : Op ρ} {held after : Finset ρ} {r : ρ}
    (hop : op.perform held = some after) (hr : op.resource ≠ r) : r ∈ after ↔ r ∈ held := by
  cases op with
  | acquire r' | use r' | release r' =>
    simp only [Op.perform, Option.ite_none_right_eq_some, Option.ite_none_left_eq_some,
      Option.some.injEq] at hop
    obtain ⟨-, rfl⟩ := hop
    have hne : r ≠ r' := fun h => hr h.symm
    simp [hne]

/-- When the operations are fine, those on each resource are rounds, and the last one is open
exactly for what is still held. -/
theorem Leads.rounds {ops : List (Op ρ)} {held : Finset ρ} (h : Leads ops ∅ held)
    (r : ρ) : Rounds r (r ∈ held) (ops.filter fun op => op.resource = r) := by
  induction ops using List.reverseRecOn generalizing held with
  | nil =>
    obtain rfl := Option.some.inj h
    simpa using Rounds.nil
  | append_singleton ops op ih =>
    obtain ⟨mid, hmid, hop⟩ := leads_concat.mp h
    have hrounds := ih hmid
    rw [List.filter_append]
    by_cases hr : op.resource = r
    · subst hr
      simpa using hrounds.step hop
    · have hmem := mem_iff_of_perform hop hr
      simpa [hr, hmem] using hrounds

end Foundation.Resources
