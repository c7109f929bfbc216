import CCTVWebServer.Foundation.Action
import CCTVWebServer.Foundation.Resources

/-!
# Programs that hold handles

A program whose state comes with the log of its operations on handles. `Trades` says what a
program makes of the handles that it is given, when it returns and when it raises; whatever
else is held stays held. `Erases` says that without the log it is another program.
-/

namespace Foundation.Resources

variable {ε σ κ α β : Type}

/-- A handle has the number of the operation that acquired it. -/
structure Handle (κ : Type) where
  kind : κ
  number : Nat
  deriving DecidableEq

structure Logged (σ κ : Type) where
  state : σ
  log : List (Op (Handle κ))

def Logged.add (s : Logged σ κ) (op : Op (Handle κ)) : Logged σ κ :=
  { s with log := s.log ++ [op] }

def acquire (kind : κ) : EStateM ε (Logged σ κ) (Handle κ) := fun s =>
  .ok ⟨kind, s.log.length⟩ (s.add (.acquire ⟨kind, s.log.length⟩))

def use (r : Handle κ) : EStateM ε (Logged σ κ) Unit := modify fun s => s.add (.use r)

def release (r : Handle κ) : EStateM ε (Logged σ κ) Unit := modify fun s => s.add (.release r)

/-- Code without handles. -/
def plain (m : EStateM ε σ α) : EStateM ε (Logged σ κ) α :=
  focus Logged.state (fun t s => { s with state := t }) m

/-! ## Without the log -/

/-- Without its log, the program is the other one. -/
def Erases (m : EStateM ε (Logged σ κ) α) (n : EStateM ε σ α) : Prop :=
  ∀ s, Agree (· = ·) (fun s t => s.state = t) m n s s.state

section Erases

variable {m : EStateM ε (Logged σ κ) α} {n : EStateM ε σ α} {f : α → EStateM ε (Logged σ κ) β}
  {g : α → EStateM ε σ β}

theorem erases_pure (a : α) : Erases (pure a : EStateM ε (Logged σ κ) α) (pure a) :=
  fun _ => agree_pure rfl rfl

theorem erases_throw (x : ε) : Erases (throw x : EStateM ε (Logged σ κ) α) (throw x) :=
  fun _ => agree_throw x rfl

theorem erases_plain (n : EStateM ε σ α) : Erases (plain n : EStateM ε (Logged σ κ) α) n := by
  intro s
  unfold Agree plain focus
  simp only [EStateM.run]
  cases n s.state with
  | ok a t => exact ⟨rfl, rfl⟩
  | error x t => exact ⟨rfl, rfl⟩

theorem Erases.bind (hm : Erases m n) (hf : ∀ a, Erases (f a) (g a)) :
    Erases (m >>= f) (n >>= g) := by
  intro s
  refine (hm s).bind (fun _ _ => id) ?_
  rintro a b t _ rfl rfl
  exact hf a t

theorem Erases.ite {c : Prop} [Decidable c] {m' : EStateM ε (Logged σ κ) α} {n' : EStateM ε σ α}
    (hm : Erases m n) (hm' : Erases m' n') :
    Erases (if c then m else m') (if c then n else n') := by
  split_ifs
  · exact hm
  · exact hm'

theorem Erases.map (h : α → β) (hm : Erases m n) : Erases (h <$> m) (h <$> n) :=
  fun s => (hm s).map fun _ _ hab => congrArg h hab

theorem Erases.tryCatch {h : ε → EStateM ε (Logged σ κ) α} {h' : ε → EStateM ε σ α}
    (hm : Erases m n) (hh : ∀ x, Erases (h x) (h' x)) :
    Erases (tryCatch m h) (tryCatch n h') := by
  intro s
  refine (hm s).tryCatch ?_
  rintro x t _ rfl
  exact hh x t

theorem erases_acquire {kind : κ} {f : Handle κ → EStateM ε (Logged σ κ) α}
    (hf : ∀ r, Erases (f r) n) : Erases (acquire kind >>= f) n :=
  fun s => hf ⟨kind, s.log.length⟩ (s.add (.acquire ⟨kind, s.log.length⟩))

theorem erases_use {r : Handle κ} (hm : Erases m n) : Erases (use r >>= fun _ => m) n :=
  fun s => hm (s.add (.use r))

theorem erases_release {r : Handle κ} (hm : Erases m n) : Erases (release r >>= fun _ => m) n :=
  fun s => hm (s.add (.release r))

/-- A release behind the result. -/
theorem Erases.and_release {r : Handle κ} (hm : Erases m n) :
    Erases (m >>= fun a => release r >>= fun _ => pure a) n := by
  have h := hm.bind (f := fun a => release r >>= fun _ => pure a) (g := pure)
    fun a => erases_release (erases_pure a)
  rwa [bind_pure] at h

theorem Erases.completes_eq (hm : Erases m n) (s : Logged σ κ) :
    completes m s = completes n s.state := by
  have h := hm s
  unfold Agree at h
  unfold completes
  cases hs : m.run s <;> cases ht : n.run s.state <;> simp only [hs, ht] at h ⊢

theorem Erases.finalState_eq (hm : Erases m n) (s : Logged σ κ) :
    (finalState m s).state = finalState n s.state := by
  have h := hm s
  unfold Agree at h
  unfold finalState
  cases hs : m.run s <;> cases ht : n.run s.state <;> simp only [hs, ht] at h ⊢
  · exact h.2
  · exact h.2

end Erases

/-! ## What is held -/

/-- These handles and no others. -/
def Only (handles part : Finset (Handle κ)) : Prop := part = handles

theorem only_self (handles : Finset (Handle κ)) : Only handles handles := rfl

variable [DecidableEq κ]

/-- The operations so far have been fine, and this is what is held. -/
structure Logged.Owns (s : Logged σ κ) (held : Finset (Handle κ)) : Prop where
  leads : Leads s.log ∅ held
  number_lt : ∀ r ∈ held, r.number < s.log.length

theorem Logged.Owns.add {s : Logged σ κ} {held after : Finset (Handle κ)} {op : Op (Handle κ)}
    (hs : s.Owns held) (hop : op.perform held = some after)
    (hnumber : ∀ r ∈ after, r ∈ held ∨ r.number = s.log.length) : (s.add op).Owns after where
  leads := leads_concat.mpr ⟨held, hs.leads, hop⟩
  number_lt r hr := by
    rw [Logged.add, List.length_append, List.length_singleton]
    rcases hnumber r hr with hr | hr
    · exact Nat.lt_succ_of_lt (hs.number_lt r hr)
    · omega

theorem Logged.Owns.acquire {s : Logged σ κ} {held : Finset (Handle κ)} (hs : s.Owns held)
    (kind : κ) : (⟨kind, s.log.length⟩ : Handle κ) ∉ held ∧
      (s.add (.acquire ⟨kind, s.log.length⟩)).Owns (insert ⟨kind, s.log.length⟩ held) := by
  have hnew : (⟨kind, s.log.length⟩ : Handle κ) ∉ held := fun h =>
    absurd (hs.number_lt _ h) (Nat.lt_irrefl _)
  refine ⟨hnew, hs.add (by rw [Op.perform, if_neg hnew]) fun r hr => ?_⟩
  rcases Finset.mem_insert.mp hr with rfl | hr
  · exact .inr rfl
  · exact .inl hr

/-- Given the handles `before`, the program returns with `after`, or raises an exception of `E`
with handles of which `failed` holds. All others stay held. -/
def Trades (E : ε → Prop) (before : Finset (Handle κ)) (m : EStateM ε (Logged σ κ) α)
    (after : Finset (Handle κ)) (failed : Finset (Handle κ) → Prop) : Prop :=
  ∀ s frame, Disjoint before frame → s.Owns (before ∪ frame) → Ensures m s
    (fun _ t => Disjoint after frame ∧ t.Owns (after ∪ frame))
    (fun x t => E x ∧ ∃ part, failed part ∧ Disjoint part frame ∧ t.Owns (part ∪ frame))

section Trades

variable {E : ε → Prop} {before mid after : Finset (Handle κ)} {failed : Finset (Handle κ) → Prop}
  {m : EStateM ε (Logged σ κ) α} {f : α → EStateM ε (Logged σ κ) β} {r : Handle κ}

theorem trades_pure (a : α) : Trades E after (pure a : EStateM ε (Logged σ κ) α) after failed :=
  fun _ _ hdisjoint hs => ⟨hdisjoint, hs⟩

theorem trades_throw {x : ε} (hx : E x) (hfailed : failed before) :
    Trades E before (throw x : EStateM ε (Logged σ κ) α) after failed :=
  fun _ _ hdisjoint hs => ⟨hx, before, hfailed, hdisjoint, hs⟩

theorem Trades.bind (hm : Trades E before m mid failed)
    (hf : ∀ a, Trades E mid (f a) after failed) : Trades E before (m >>= f) after failed := by
  intro s frame hdisjoint hs
  refine (hm s frame hdisjoint hs).bind ?_ fun _ _ => id
  rintro a t ⟨hdisjoint', ht⟩
  exact hf a t frame hdisjoint' ht

/-- What follows an exception is not reached. -/
theorem trades_throw_bind {x : ε} (hx : E x) (hfailed : failed before) :
    Trades E before ((throw x : EStateM ε (Logged σ κ) α) >>= f) after failed :=
  fun _ _ hdisjoint hs => ⟨hx, before, hfailed, hdisjoint, hs⟩

theorem Trades.ite {c : Prop} [Decidable c] {m' : EStateM ε (Logged σ κ) α}
    (hm : c → Trades E before m after failed) (hm' : ¬ c → Trades E before m' after failed) :
    Trades E before (if c then m else m') after failed := by
  split_ifs with hc
  · exact hm hc
  · exact hm' hc

/-- Code that neither takes nor loses anything, with more handles at hand. -/
theorem Trades.keep {E' : ε → Prop} (hm : Trades E' ∅ m ∅ (Only ∅))
    (hE : ∀ x, E' x → E x ∧ failed before) : Trades E before m before failed := by
  intro s frame hdisjoint hs
  refine (hm s (before ∪ frame) (Finset.disjoint_empty_left _) (by rwa [Finset.empty_union])).mono
    ?_ ?_
  · rintro a t ⟨-, ht⟩
    rw [Finset.empty_union] at ht
    exact ⟨hdisjoint, ht⟩
  · rintro x t ⟨hx, part, rfl, -, ht⟩
    rw [Finset.empty_union] at ht
    exact ⟨(hE x hx).1, before, (hE x hx).2, hdisjoint, ht⟩

theorem trades_acquire {kind : κ} {f : Handle κ → EStateM ε (Logged σ κ) α}
    (hf : ∀ r, r.kind = kind → r ∉ before → Trades E (insert r before) (f r) after failed) :
    Trades E before (acquire kind >>= f) after failed := by
  intro s frame hdisjoint hs
  obtain ⟨hnew, ht⟩ := hs.acquire kind
  obtain ⟨hbefore, hframe⟩ : _ ∧ _ := by simpa [not_or] using hnew
  rw [← Finset.insert_union] at ht
  exact hf _ rfl hbefore _ frame (Finset.disjoint_insert_left.mpr ⟨hframe, hdisjoint⟩) ht

theorem trades_use (hr : r ∈ before) (hm : Trades E before m after failed) :
    Trades E before (use r >>= fun _ => m) after failed := by
  intro s frame hdisjoint hs
  refine hm _ frame hdisjoint (hs.add ?_ fun _ => .inl)
  rw [Op.perform, if_pos (Finset.mem_union_left _ hr)]

theorem trades_release (hr : r ∉ before) (hm : Trades E before m after failed) :
    Trades E (insert r before) (release r >>= fun _ => m) after failed := by
  intro s frame hdisjoint hs
  obtain ⟨hframe, hdisjoint⟩ := Finset.disjoint_insert_left.mp hdisjoint
  refine hm _ frame hdisjoint (hs.add ?_ ?_)
  · rw [Op.perform, if_pos (by simp), Finset.insert_union, Finset.erase_insert]
    simp [hr, hframe]
  · intro r' hr'
    rw [Finset.insert_union]
    exact .inl (Finset.mem_insert_of_mem hr')

theorem trades_plain {n : EStateM ε σ α} (hn : ∀ s, Ensures n s (fun _ _ => True) fun x _ => E x)
    (hfailed : failed before) :
    Trades E before (plain n : EStateM ε (Logged σ κ) α) before failed := by
  intro s frame hdisjoint hs
  rw [plain, ensures_focus]
  refine (hn s.state).mono (fun a t _ => ⟨hdisjoint, ⟨hs.leads, hs.number_lt⟩⟩) ?_
  exact fun x t hx => ⟨hx, before, hfailed, hdisjoint, ⟨hs.leads, hs.number_lt⟩⟩

/-- Code without handles that does not raise. -/
theorem trades_quiet {n : EStateM ε σ α}
    (hn : ∀ s, Ensures n s (fun _ _ => True) fun _ _ => False) :
    Trades E before (plain n : EStateM ε (Logged σ κ) α) before failed := by
  intro s frame hdisjoint hs
  rw [plain, ensures_focus]
  exact (hn s.state).mono (fun a t _ => ⟨hdisjoint, ⟨hs.leads, hs.number_lt⟩⟩)
    fun x t hx => hx.elim

theorem Trades.map (h : α → β) (hm : Trades E before m after failed) :
    Trades E before (h <$> m) after failed :=
  fun s frame hdisjoint hs => (ensures_map h m s _ _).mpr (hm s frame hdisjoint hs)

theorem singleton_union_erase {held : Finset (Handle κ)} (hr : r ∈ held) :
    {r} ∪ held.erase r = held := by
  rw [Finset.singleton_union, Finset.insert_erase hr]

/-- With everything that is held. -/
theorem Trades.ensures {s : Logged σ κ} {held : Finset (Handle κ)}
    (hm : Trades E {r} m {r} failed) (hs : s.Owns held) (hr : r ∈ held) :
    Ensures m s (fun _ t => t.Owns held)
      (fun _ t => ∃ part, failed part ∧ Disjoint part (held.erase r) ∧
        t.Owns (part ∪ held.erase r)) := by
  have hall : s.Owns ({r} ∪ held.erase r) := by rwa [singleton_union_erase hr]
  refine (hm s (held.erase r) ?_ hall).mono ?_ fun x t h => h.2
  · exact Finset.disjoint_singleton_left.mpr (Finset.notMem_erase r held)
  · rintro a t ⟨-, ht⟩
    rwa [singleton_union_erase hr] at ht

theorem Trades.finalState_owns {s : Logged σ κ} {held : Finset (Handle κ)}
    (hm : Trades E {r} m {r} (Only {r})) (hs : s.Owns held) (hr : r ∈ held) :
    (finalState m s).Owns held := by
  have h := hm.ensures hs hr
  unfold Ensures at h
  unfold finalState
  cases hrun : m.run s with
  | ok a t => simpa only [hrun] using h
  | error x t =>
    simp only [hrun] at h
    obtain ⟨part, rfl, -, ht⟩ := h
    rwa [singleton_union_erase hr] at ht

end Trades

end Foundation.Resources
