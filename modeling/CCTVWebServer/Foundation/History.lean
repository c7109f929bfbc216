import Mathlib.Tactic

/-!
# Runs and their histories

A run of a labelled transition system carries its history, the list of labels
with the newest first. `Trace.invariant` lifts what one step preserves to every
run, `Trace.simulate` and `Trace.forward` map the runs of one system to runs of another,
by a function or a relation between the states. `Since` is
the past-time operator: at some point of the history `ψ` held, and every later
label satisfies `φ`. Where a label determines the next state, `replay` gives the
state after a history, and `EachStep` and `EachState` speak of the whole way to it.
-/

namespace Foundation

variable {σ σ' Λ Λ' : Type}

/-! ## Traces -/

/-- `Trace step s h t`: steps lead from `s` to `t` with history `h`, newest label first. -/
inductive Trace (step : σ → Λ → σ → Prop) (s : σ) : List Λ → σ → Prop where
  | refl : Trace step s [] s
  | step {h : List Λ} {t u : σ} {l : Λ} :
      Trace step s h t → step t l u → Trace step s (l :: h) u

namespace Trace

variable {step : σ → Λ → σ → Prop} {step' : σ' → Λ' → σ' → Prop} {s t u : σ} {h h' : List Λ}

/-- What holds at the start and survives one step holds at the end of every run. -/
theorem invariant {I : σ → Prop} (hstep : ∀ t l u, I t → step t l u → I u)
    (hrun : Trace step s h t) (hs : I s) : I t := by
  induction hrun with
  | refl => exact hs
  | step _ hl ih => exact hstep _ _ _ ih hl

/-- An invariant of states and histories. -/
theorem invariant_history {I : List Λ → σ → Prop}
    (hstep : ∀ h t l u, I h t → step t l u → I (l :: h) u)
    (hrun : Trace step s h t) (hs : I [] s) : I h t := by
  induction hrun with
  | refl => exact hs
  | step _ hl ih => exact hstep _ _ _ _ ih hl

theorem append (hst : Trace step s h t) (htu : Trace step t h' u) : Trace step s (h' ++ h) u := by
  induction htu with
  | refl => exact hst
  | step _ hl ih => exact .step ih hl

/-- A run passes through the step of every label of its history. -/
theorem split {later earlier : List Λ} {l : Λ} (hrun : Trace step s (later ++ l :: earlier) u) :
    ∃ t t', Trace step s earlier t ∧ step t l t' ∧ Trace step t' later u := by
  induction later generalizing u with
  | nil =>
    cases hrun with
    | step hr hl => exact ⟨_, _, hr, hl, .refl⟩
  | cons a later ih =>
    cases hrun with
    | step hr hl =>
      obtain ⟨t, t', hearlier, hstep, hlater⟩ := ih hr
      exact ⟨t, t', hearlier, hstep, .step hlater hl⟩

theorem mono {step₂ : σ → Λ → σ → Prop} (hsub : ∀ t l u, step t l u → step₂ t l u)
    (hrun : Trace step s h t) : Trace step₂ s h t := by
  induction hrun with
  | refl => exact .refl
  | step _ hl ih => exact .step ih (hsub _ _ _ hl)

/-- A simulation by a function of the state, given an invariant of the simulated run. -/
theorem simulate {I : σ → Prop} (f : σ → σ') (g : Λ → Λ')
    (hinv : ∀ t l u, I t → step t l u → I u)
    (hsim : ∀ t l u, I t → step t l u → step' (f t) (g l) (f u))
    (hrun : Trace step s h t) (hs : I s) : Trace step' (f s) (h.map g) (f t) := by
  induction hrun with
  | refl => exact .refl
  | step hr hl ih => exact .step ih (hsim _ _ _ (hr.invariant hinv hs) hl)

/-- A simulation by a relation between the states: the other system has a run with the same
history. -/
theorem forward {step₂ : σ' → Λ → σ' → Prop} {R : σ → σ' → Prop} {a : σ'}
    (hsim : ∀ t l u b, R t b → step t l u → ∃ c, step₂ b l c ∧ R u c)
    (hrun : Trace step s h t) (hs : R s a) : ∃ b, Trace step₂ a h b ∧ R t b := by
  induction hrun with
  | refl => exact ⟨a, .refl, hs⟩
  | step _ hl ih =>
    obtain ⟨b, hb, hR⟩ := ih
    obtain ⟨c, hc, hR'⟩ := hsim _ _ _ _ hR hl
    exact ⟨c, hb.step hc, hR'⟩

end Trace

/-! ## Replaying a history -/

section replay

variable (apply : Λ → σ → σ) (start : σ)

/-- The state after a history. -/
def replay (h : List Λ) : σ := h.foldr apply start

/-- `C` relates every label of the history to the state in which it came. -/
def EachStep (C : σ → Λ → Prop) : List Λ → Prop
  | [] => True
  | l :: h => C (replay apply start h) l ∧ EachStep C h

/-- `P` holds of every state on the way. -/
def EachState (P : σ → Prop) : List Λ → Prop
  | [] => P start
  | l :: h => P (replay apply start (l :: h)) ∧ EachState P h

variable {apply start} {C E : σ → Λ → Prop} {I P : σ → Prop} {h : List Λ}

theorem EachState.last (hh : EachState apply start P h) : P (replay apply start h) := by
  cases h with
  | nil => exact hh
  | cons l h => exact hh.1

/-- What holds at the start and survives every step that `E` allows. -/
theorem EachStep.invariant (hh : EachStep apply start E h) (hstart : I start)
    (hstep : ∀ s l, I s → E s l → I (apply l s)) : I (replay apply start h) := by
  induction h with
  | nil => exact hstart
  | cons l h ih => exact hstep _ _ (ih hh.2) hh.1

/-- Where a step keeps `P` exactly under `C`, so does a history. -/
theorem eachState_iff_eachStep (hh : EachStep apply start E h) (hI : I start) (hP : P start)
    (hinv : ∀ s l, I s → E s l → I (apply l s))
    (hstep : ∀ s l, I s → P s → E s l → (P (apply l s) ↔ C s l)) :
    EachState apply start P h ↔ EachStep apply start C h := by
  induction h with
  | nil => exact iff_of_true hP trivial
  | cons l h ih =>
    have hlast (hall : EachState apply start P h) :
        P (replay apply start (l :: h)) ↔ C (replay apply start h) l :=
      hstep _ _ (hh.2.invariant hI hinv) hall.last hh.1
    constructor
    · rintro ⟨hnew, hall⟩
      exact ⟨(hlast hall).mp hnew, (ih hh.2).mp hall⟩
    · rintro ⟨hnew, hearlier⟩
      have hall := (ih hh.2).mpr hearlier
      exact ⟨(hlast hall).mpr hnew, hall⟩

end replay

/-! ## Splitting a history -/

/-- The newest label is either the point of the split or later than it. -/
theorem exists_split_cons {P : List Λ → Λ → List Λ → Prop} {a : Λ} {h : List Λ} :
    (∃ later x earlier, a :: h = later ++ x :: earlier ∧ P later x earlier) ↔
      P [] a h ∨ ∃ later x earlier, h = later ++ x :: earlier ∧ P (a :: later) x earlier := by
  constructor
  · rintro ⟨later, x, earlier, heq, hP⟩
    cases later with
    | nil =>
      obtain ⟨rfl, rfl⟩ : a = x ∧ h = earlier := by simpa using heq
      exact .inl hP
    | cons b later =>
      obtain ⟨rfl, rfl⟩ : a = b ∧ h = later ++ x :: earlier := by simpa using heq
      exact .inr ⟨later, x, earlier, rfl, hP⟩
  · rintro (hP | ⟨later, x, earlier, rfl, hP⟩)
    · exact ⟨[], a, h, rfl, hP⟩
    · exact ⟨a :: later, x, earlier, rfl, hP⟩

/-- At some point `ψ` held, and `φ` holds of every later label. -/
def Since (φ ψ : Λ → Prop) (h : List Λ) : Prop :=
  ∃ later x earlier, h = later ++ x :: earlier ∧ ψ x ∧ ∀ y ∈ later, φ y

@[simp] theorem since_nil (φ ψ : Λ → Prop) : ¬ Since φ ψ [] := by
  simp [Since]

theorem since_cons {φ ψ : Λ → Prop} {a : Λ} {h : List Λ} :
    Since φ ψ (a :: h) ↔ ψ a ∨ (φ a ∧ Since φ ψ h) := by
  unfold Since
  rw [exists_split_cons]
  constructor
  · rintro (⟨ha, -⟩ | ⟨later, x, earlier, rfl, hx, hlater⟩)
    · exact .inl ha
    · exact .inr ⟨hlater a (by simp), later, x, earlier, rfl, hx,
        fun y hy => hlater y (List.mem_cons_of_mem a hy)⟩
  · rintro (ha | ⟨ha, later, x, earlier, rfl, hx, hlater⟩)
    · exact .inl ⟨ha, by simp⟩
    · refine .inr ⟨later, x, earlier, rfl, hx, ?_⟩
      intro y hy
      rcases List.mem_cons.mp hy with rfl | hy
      · exact ha
      · exact hlater y hy

/-- A register that starts empty holds what was written to it last. -/
theorem Trace.last_write {step : σ → Λ → σ → Prop} {α : Type} (get : σ → Option α)
    (writes : Λ → Option α → Prop) (hunique : ∀ l v v', writes l v → writes l v' → v = v')
    (hstep : ∀ t l u, step t l u →
      (∃ v, writes l v ∧ get u = v) ∨ ((∀ v, ¬ writes l v) ∧ get u = get t))
    {s t : σ} {h : List Λ} (hrun : Trace step s h t) (hs : get s = none) (a : α) :
    get t = some a ↔ Since (fun l => ∀ v, ¬ writes l v) (fun l => writes l (some a)) h := by
  induction hrun with
  | refl => simp [hs]
  | step _ hl ih =>
    rw [since_cons]
    rcases hstep _ _ _ hl with ⟨v, hv, hget⟩ | ⟨hno, hget⟩
    · rw [hget]
      constructor
      · rintro rfl
        exact .inl hv
      · rintro (ha | ⟨hno, -⟩)
        · exact hunique _ _ _ hv ha
        · exact absurd hv (hno v)
    · rw [hget, ih]
      constructor
      · intro hsince
        exact .inr ⟨hno, hsince⟩
      · rintro (ha | ⟨-, hsince⟩)
        · exact absurd ha (hno _)
        · exact hsince

theorem since_map {φ ψ : Λ' → Prop} (g : Λ → Λ') {h : List Λ} :
    Since φ ψ (h.map g) ↔ Since (φ ∘ g) (ψ ∘ g) h := by
  induction h with
  | nil => simp
  | cons a h ih => simp [since_cons, ih]

end Foundation
