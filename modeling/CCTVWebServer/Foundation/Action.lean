import Mathlib.Tactic

/-!
# Imperative programs with exceptions

An action is a program of the standard monad `EStateM`: it reads and writes a
state and either returns a value or raises an exception, and an exception does
not undo the writes made before it. `Ensures` is its weakest precondition, with
one postcondition for a return and one for an exception; `Gives` speaks of the value
returned alone. `Agree` compares two runs: related results or the same exception, and
related final states. `focus` runs a program on a part of a larger state.
-/

namespace Foundation

variable {ε σ τ α β : Type}

/-! ## One run -/

/-- From `s`, the program returns into `Q` or raises into `E`. -/
def Ensures (m : EStateM ε σ α) (s : σ) (Q : α → σ → Prop) (E : ε → σ → Prop) : Prop :=
  match m.run s with
  | .ok a t => Q a t
  | .error x t => E x t

@[simp] theorem ensures_pure (a : α) (s : σ) (Q : α → σ → Prop) (E : ε → σ → Prop) :
    Ensures (pure a) s Q E ↔ Q a s := Iff.rfl

@[simp] theorem ensures_throw (x : ε) (s : σ) (Q : α → σ → Prop) (E : ε → σ → Prop) :
    Ensures (throw x) s Q E ↔ E x s := Iff.rfl

@[simp] theorem ensures_get (s : σ) (Q : σ → σ → Prop) (E : ε → σ → Prop) :
    Ensures get s Q E ↔ Q s s := Iff.rfl

@[simp] theorem ensures_modify (f : σ → σ) (s : σ) (Q : PUnit → σ → Prop) (E : ε → σ → Prop) :
    Ensures (modify f) s Q E ↔ Q () (f s) := Iff.rfl

@[simp] theorem ensures_bind (m : EStateM ε σ α) (f : α → EStateM ε σ β) (s : σ)
    (Q : β → σ → Prop) (E : ε → σ → Prop) :
    Ensures (m >>= f) s Q E ↔ Ensures m s (fun a t => Ensures (f a) t Q E) E := by
  simp only [Ensures, EStateM.run_bind]
  cases m.run s <;> rfl

@[simp] theorem ensures_map (f : α → β) (m : EStateM ε σ α) (s : σ)
    (Q : β → σ → Prop) (E : ε → σ → Prop) :
    Ensures (f <$> m) s Q E ↔ Ensures m s (fun a t => Q (f a) t) E := by
  rw [← bind_pure_comp, ensures_bind]
  rfl

@[simp] theorem ensures_tryCatch (m : EStateM ε σ α) (h : ε → EStateM ε σ α) (s : σ)
    (Q : α → σ → Prop) (E : ε → σ → Prop) :
    Ensures (tryCatch m h) s Q E ↔ Ensures m s Q (fun x t => Ensures (h x) t Q E) := by
  simp only [Ensures, EStateM.run, tryCatch, tryCatchThe, MonadExceptOf.tryCatch, EStateM.tryCatch]
  cases m s <;> rfl

@[simp] theorem ensures_ite (c : Prop) [Decidable c] (m n : EStateM ε σ α) (s : σ)
    (Q : α → σ → Prop) (E : ε → σ → Prop) :
    Ensures (if c then m else n) s Q E ↔
      (c → Ensures m s Q E) ∧ (¬ c → Ensures n s Q E) := by
  split_ifs with hc <;> simp [hc]

theorem Ensures.mono {m : EStateM ε σ α} {s : σ} {Q Q' : α → σ → Prop} {E E' : ε → σ → Prop}
    (h : Ensures m s Q E) (hQ : ∀ a t, Q a t → Q' a t) (hE : ∀ x t, E x t → E' x t) :
    Ensures m s Q' E' := by
  unfold Ensures at *
  cases hm : m.run s <;> rw [hm] at h
  · exact hQ _ _ h
  · exact hE _ _ h

theorem Ensures.and {m : EStateM ε σ α} {s : σ} {Q Q' : α → σ → Prop} {E E' : ε → σ → Prop}
    (h : Ensures m s Q E) (h' : Ensures m s Q' E') :
    Ensures m s (fun a t => Q a t ∧ Q' a t) (fun x t => E x t ∧ E' x t) := by
  unfold Ensures at *
  cases hm : m.run s <;> rw [hm] at h h' <;> exact ⟨h, h'⟩

/-- Sequencing with a contract of the first program that the caller cites by name. -/
theorem Ensures.bind {m : EStateM ε σ α} {f : α → EStateM ε σ β} {s : σ}
    {P : α → σ → Prop} {F : ε → σ → Prop} {Q : β → σ → Prop} {E : ε → σ → Prop}
    (h : Ensures m s P F) (hQ : ∀ a t, P a t → Ensures (f a) t Q E)
    (hE : ∀ x t, F x t → E x t) : Ensures (m >>= f) s Q E :=
  (ensures_bind m f s Q E).mpr (h.mono hQ hE)

/-- A contract may also mention the run it describes. -/
theorem Ensures.with_run {m : EStateM ε σ α} {s : σ} {Q : α → σ → Prop} {E : ε → σ → Prop}
    (h : Ensures m s Q E) :
    Ensures m s (fun a t => Q a t ∧ m.run s = .ok a t)
      (fun x t => E x t ∧ m.run s = .error x t) := by
  unfold Ensures at *
  cases hm : m.run s <;> rw [hm] at h <;> exact ⟨h, by simp⟩

theorem Ensures.of_ok {m : EStateM ε σ α} {s t : σ} {a : α} {Q : α → σ → Prop}
    {E : ε → σ → Prop} (h : Ensures m s Q E) (hm : m.run s = .ok a t) : Q a t := by
  simpa [Ensures, hm] using h

theorem Ensures.of_error {m : EStateM ε σ α} {s t : σ} {x : ε} {Q : α → σ → Prop}
    {E : ε → σ → Prop} (h : Ensures m s Q E) (hm : m.run s = .error x t) : E x t := by
  simpa [Ensures, hm] using h

theorem ensures_of_ok {m : EStateM ε σ α} {s t : σ} {a : α} {Q : α → σ → Prop}
    {E : ε → σ → Prop} (hm : m.run s = .ok a t) (h : Q a t) : Ensures m s Q E := by
  simpa [Ensures, hm] using h

/-! ## What a program returns -/

/-- Wherever it starts, the program returns into `P` if it returns. -/
def Gives (m : EStateM ε σ α) (P : α → Prop) : Prop :=
  ∀ s, Ensures m s (fun a _ => P a) (fun _ _ => True)

theorem gives_pure {a : α} {P : α → Prop} (h : P a) : Gives (pure a : EStateM ε σ α) P :=
  fun _ => h

theorem gives_throw (x : ε) (P : α → Prop) : Gives (throw x : EStateM ε σ α) P := fun _ => trivial

theorem Gives.bind {m : EStateM ε σ α} {f : α → EStateM ε σ β} {P : α → Prop} {Q : β → Prop}
    (hm : Gives m P) (hf : ∀ a, P a → Gives (f a) Q) : Gives (m >>= f) Q :=
  fun s => (hm s).bind (fun a t ha => hf a ha t) fun _ _ => id

/-- Whatever comes first. -/
theorem gives_bind {m : EStateM ε σ α} {f : α → EStateM ε σ β} {Q : β → Prop}
    (hf : ∀ a, Gives (f a) Q) : Gives (m >>= f) Q := by
  intro s
  rw [ensures_bind]
  unfold Ensures
  cases m.run s with
  | ok a t => exact hf a t
  | error x t => trivial

theorem gives_ite {c : Prop} [Decidable c] {m n : EStateM ε σ α} {P : α → Prop}
    (hm : c → Gives m P) (hn : ¬ c → Gives n P) : Gives (if c then m else n) P := by
  split_ifs with hc
  · exact hm hc
  · exact hn hc

theorem Gives.map {m : EStateM ε σ α} {f : α → β} {P : β → Prop} (hm : Gives m (fun a => P (f a))) :
    Gives (f <$> m) P := fun s => (ensures_map f m s _ _).mpr (hm s)

theorem Gives.tryCatch {m : EStateM ε σ α} {h : ε → EStateM ε σ α} {P : α → Prop}
    (hm : Gives m P) (hh : ∀ x, Gives (h x) P) : Gives (tryCatch m h) P :=
  fun s => (ensures_tryCatch m h s _ _).mpr ((hm s).mono (fun _ _ => id) fun x t _ => hh x t)

/-! ## Equations between programs -/

theorem ext_run {m n : EStateM ε σ α} (h : ∀ s, m.run s = n.run s) : m = n := funext h

theorem run_tryCatch (m : EStateM ε σ α) (h : ε → EStateM ε σ α) (s : σ) :
    (tryCatch m h).run s =
      match m.run s with
      | .ok a t => .ok a t
      | .error x t => (h x).run t := by
  simp only [EStateM.run, tryCatch, tryCatchThe, MonadExceptOf.tryCatch, EStateM.tryCatch]
  cases m s <;> rfl

/-- The state a program leaves, however it ends. -/
def finalState (m : EStateM ε σ α) (s : σ) : σ :=
  match m.run s with
  | .ok _ t => t
  | .error _ t => t

/-- The program returns. -/
def completes (m : EStateM ε σ α) (s : σ) : Bool :=
  match m.run s with
  | .ok _ _ => true
  | .error _ _ => false

theorem run_of_completes {m : EStateM ε σ Unit} {s : σ} (h : completes m s = true) :
    m.run s = .ok () (finalState m s) := by
  unfold completes at h
  unfold finalState
  cases hrun : m.run s with
  | ok a t => rfl
  | error x t =>
    rw [hrun] at h
    cases h

theorem finalState_bind_ok {m : EStateM ε σ α} {f : α → EStateM ε σ β} {s t : σ} {a : α}
    (h : m.run s = .ok a t) : finalState (m >>= f) s = finalState (f a) t := by
  simp [finalState, EStateM.run_bind, h]

theorem finalState_bind_error {m : EStateM ε σ α} {f : α → EStateM ε σ β} {s t : σ} {x : ε}
    (h : m.run s = .error x t) : finalState (m >>= f) s = t := by
  simp [finalState, EStateM.run_bind, h]

theorem completes_bind_ok {m : EStateM ε σ α} {f : α → EStateM ε σ β} {s t : σ} {a : α}
    (h : m.run s = .ok a t) : completes (m >>= f) s = completes (f a) t := by
  simp [completes, EStateM.run_bind, h]

theorem finalState_map (g : α → β) (m : EStateM ε σ α) (s : σ) :
    finalState (g <$> m) s = finalState m s := by
  rw [← bind_pure_comp]
  cases hrun : m.run s with
  | ok a t =>
    rw [finalState_bind_ok hrun]
    simp [finalState, hrun]
  | error x t =>
    rw [finalState_bind_error hrun]
    simp [finalState, hrun]

/-! ## Two runs -/

/-- From `s` the first program and from `t` the second one end alike: both return, with
results that `V` relates, or both raise the same exception. `R` relates the states they leave. -/
def Agree (V : α → β → Prop) (R : σ → τ → Prop) (m : EStateM ε σ α) (n : EStateM ε τ β)
    (s : σ) (t : τ) : Prop :=
  match m.run s, n.run t with
  | .ok a s', .ok b t' => V a b ∧ R s' t'
  | .error x s', .error y t' => x = y ∧ R s' t'
  | _, _ => False

section Agree

variable {α' β' : Type} {V : α → β → Prop} {V' : α' → β' → Prop} {R R' : σ → τ → Prop}
  {m : EStateM ε σ α} {n : EStateM ε τ β} {s : σ} {t : τ}

theorem agree_pure {a : α} {b : β} (hV : V a b) (hR : R s t) :
    Agree V R (pure a : EStateM ε σ α) (pure b : EStateM ε τ β) s t := ⟨hV, hR⟩

theorem agree_throw (x : ε) (hR : R s t) :
    Agree V R (throw x : EStateM ε σ α) (throw x : EStateM ε τ β) s t := ⟨rfl, hR⟩

theorem agree_modify {f : σ → σ} {g : τ → τ} (hR : R (f s) (g t)) :
    Agree (fun _ _ => True) R (modify f : EStateM ε σ PUnit) (modify g : EStateM ε τ PUnit) s t :=
  ⟨trivial, hR⟩

theorem Agree.bind {f : α → EStateM ε σ α'} {g : β → EStateM ε τ β'} (h : Agree V R m n s t)
    (hR : ∀ s' t', R s' t' → R' s' t')
    (hf : ∀ a b s' t', V a b → R s' t' → Agree V' R' (f a) (g b) s' t') :
    Agree V' R' (m >>= f) (n >>= g) s t := by
  unfold Agree at h ⊢
  rw [EStateM.run_bind, EStateM.run_bind]
  cases hs : m.run s <;> cases ht : n.run t <;> simp only [hs, ht] at h ⊢
  · exact hf _ _ _ _ h.1 h.2
  · exact ⟨h.1, hR _ _ h.2⟩

/-- Programs that read the state go on with what they found. -/
theorem agree_get {f : σ → EStateM ε σ α'} {g : τ → EStateM ε τ β'}
    (h : Agree V' R' (f s) (g t) s t) : Agree V' R' (get >>= f) (get >>= g) s t := by
  unfold Agree at h ⊢
  rw [EStateM.run_bind, EStateM.run_bind]
  simpa only [EStateM.run_get] using h

theorem Agree.map {f : α → α'} {g : β → β'} (h : Agree V R m n s t)
    (hV : ∀ a b, V a b → V' (f a) (g b)) : Agree V' R (f <$> m) (g <$> n) s t := by
  rw [← bind_pure_comp, ← bind_pure_comp]
  exact h.bind (fun _ _ => id) fun a b _ _ hab hR => agree_pure (hV a b hab) hR

theorem Agree.tryCatch {f : ε → EStateM ε σ α} {g : ε → EStateM ε τ β} (h : Agree V R m n s t)
    (hf : ∀ x s' t', R s' t' → Agree V R (f x) (g x) s' t') :
    Agree V R (tryCatch m f) (tryCatch n g) s t := by
  unfold Agree at h ⊢
  rw [run_tryCatch, run_tryCatch]
  cases hs : m.run s <;> cases ht : n.run t <;> simp only [hs, ht] at h ⊢
  · exact h
  · obtain ⟨rfl, hR⟩ := h
    exact hf _ _ _ hR

theorem agree_ite {c d : Prop} [Decidable c] [Decidable d] {m' : EStateM ε σ α}
    {n' : EStateM ε τ β} (hcd : c ↔ d) (hm : c → d → Agree V R m n s t)
    (hn : ¬ c → ¬ d → Agree V R m' n' s t) :
    Agree V R (if c then m else m') (if d then n else n') s t := by
  by_cases hc : c
  · have hd := hcd.mp hc
    rw [if_pos hc, if_pos hd]
    exact hm hc hd
  · have hd : ¬ d := fun hd => hc (hcd.mpr hd)
    rw [if_neg hc, if_neg hd]
    exact hn hc hd

/-- A contract of the first program strengthens what relates the results. -/
theorem Agree.and_left {P : α → Prop} {E : ε → σ → Prop} (h : Agree V R m n s t)
    (hm : Ensures m s (fun a _ => P a) E) : Agree (fun a b => V a b ∧ P a) R m n s t := by
  unfold Agree Ensures at *
  cases hs : m.run s <;> cases ht : n.run t <;> simp only [hs, ht] at h hm ⊢
  · exact ⟨⟨h.1, hm⟩, h.2⟩
  · exact h

theorem Agree.of_ok {a : α} {s' : σ} (h : Agree V R m n s t) (hm : m.run s = .ok a s') :
    ∃ b t', n.run t = .ok b t' ∧ V a b ∧ R s' t' := by
  unfold Agree at h
  cases ht : n.run t <;> simp only [hm, ht] at h
  exact ⟨_, _, rfl, h⟩

end Agree

/-! ## Programs on a part of the state -/

/-- Run a program on the part of the state that `view` reads and `put` writes. -/
def focus (view : σ → τ) (put : τ → σ → σ) (m : EStateM ε τ α) : EStateM ε σ α := fun s =>
  match m.run (view s) with
  | .ok a t => .ok a (put t s)
  | .error x t => .error x (put t s)

@[simp] theorem ensures_focus (view : σ → τ) (put : τ → σ → σ) (m : EStateM ε τ α) (s : σ)
    (Q : α → σ → Prop) (E : ε → σ → Prop) :
    Ensures (focus view put m) s Q E ↔
      Ensures m (view s) (fun a t => Q a (put t s)) (fun x t => E x (put t s)) := by
  simp only [Ensures, EStateM.run, focus]
  cases m (view s) <;> rfl

/-- Programs that agree on a part of the states agree on the whole. -/
theorem agree_focus {σ' τ' : Type} {view : σ → τ} {put : τ → σ → σ} {view' : σ' → τ'}
    {put' : τ' → σ' → σ'} {m : EStateM ε τ α} {n : EStateM ε τ' β} {V : α → β → Prop}
    {R : τ → τ' → Prop} {R' : σ → σ' → Prop} {s : σ} {t : σ'}
    (h : Agree V R m n (view s) (view' t)) (hput : ∀ u v, R u v → R' (put u s) (put' v t)) :
    Agree V R' (focus view put m) (focus view' put' n) s t := by
  unfold Agree at h ⊢
  simp only [EStateM.run, focus] at h ⊢
  cases hs : m (view s) <;> cases ht : n (view' t) <;> simp only [hs, ht] at h ⊢
  · exact ⟨h.1, hput _ _ h.2⟩
  · exact ⟨h.1, hput _ _ h.2⟩

end Foundation
