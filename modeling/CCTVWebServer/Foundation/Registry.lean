import CCTVWebServer.Foundation.History

/-!
# Accounts and sessions

An account service in the abstract. An account is registered with a secret, and
may log in from its approval until its eviction; a login opens a session, named
by a token. Only a verifier of the secret is kept. The laws tell from the history
alone which sessions are open and who can log in.
-/

namespace Foundation

/-- What is kept of an account. -/
structure Account (ν : Type) where
  verifier : ν
  approved : Bool
  active : Bool

/-- The accounts by user, and the open sessions by token. -/
@[ext] structure Registry (ι τ ν : Type) where
  account : ι → Option (Account ν)
  session : τ → Option ι

namespace Registry

inductive Event (ι τ π : Type) where
  | register (user : ι) (secret : π)
  | approve (user : ι)
  | evict (user : ι)
  | update (token : τ) (secret : Option π)
  | login (user : ι) (secret : π) (token : τ)
  | logout (token : τ)
  | restart
  | other

variable {ι τ π ν : Type} [DecidableEq ι] [DecidableEq τ]

section Steps

variable (verifier : ι → π → ν)

/-- The user can log in with the secret. -/
def CanLogin (r : Registry ι τ ν) (user : ι) (secret : π) : Prop :=
  ∃ a, r.account user = some a ∧ a.approved = true ∧ a.active = true ∧
    verifier user secret = a.verifier

/-- When an event can happen. -/
def Enabled (r : Registry ι τ ν) : Event ι τ π → Prop
  | .register user _ => r.account user = none
  | .update token _ => r.session token ≠ none
  | .login user secret _ => r.CanLogin verifier user secret
  | _ => True

/-- Change the account of a user, if there is one. -/
def change (r : Registry ι τ ν) (user : ι) (f : Account ν → Account ν) : Registry ι τ ν :=
  { r with account := fun u => if u = user then (r.account u).map f else r.account u }

def apply (r : Registry ι τ ν) : Event ι τ π → Registry ι τ ν
  | .register user secret =>
    { r with account := Function.update r.account user (some ⟨verifier user secret, false, true⟩) }
  | .approve user => r.change user fun a => { a with approved := true }
  | .evict user =>
    { r.change user fun a => { a with active := false } with
      session := fun token => (r.session token).filter (· ≠ user) }
  | .update token secret =>
    match r.session token, secret with
    | some user, some secret => r.change user fun a => { a with verifier := verifier user secret }
    | _, _ => r
  | .login user _ token => { r with session := Function.update r.session token (some user) }
  | .logout token => { r with session := Function.update r.session token none }
  | .restart => { r with session := fun _ => none }
  | .other => r

/-- One event that can happen, with its effect. -/
def Step (r : Registry ι τ ν) (e : Event ι τ π) (r' : Registry ι τ ν) : Prop :=
  r.Enabled verifier e ∧ r' = r.apply verifier e

/-- A login that opens a session under a token which names none. -/
def FreshStep (r : Registry ι τ ν) (e : Event ι τ π) (r' : Registry ι τ ν) : Prop :=
  Step verifier r e r' ∧ ∀ user secret token, e = .login user secret token → r.session token = none

end Steps

variable {verifier : ι → π → ν} {r r' : Registry ι τ ν} {e : Event ι τ π}
  {h : List (Event ι τ π)} {user : ι}

/-! ## What a step keeps -/

omit [DecidableEq τ] in
theorem change_account (f : Account ν → Account ν) (u : ι) :
    (r.change user f).account u = if u = user then (r.account u).map f else r.account u := rfl

omit [DecidableEq τ] in
theorem of_change_account {f : Account ν → Account ν} {u : ι} {a' : Account ν}
    (h : (r.change u f).account user = some a') :
    ∃ a, r.account user = some a ∧ a' = if user = u then f a else a := by
  rw [change_account] at h
  split_ifs at h with hu
  · obtain ⟨a, ha, rfl⟩ := Option.map_eq_some_iff.mp h
    exact ⟨a, ha, by rw [if_pos hu]⟩
  · exact ⟨a', h, by rw [if_neg hu]⟩

/-- The accounts after an event that is not a registration. -/
theorem apply_account {a : Account ν} (ha : r.account user = some a)
    (he : ∀ secret, e ≠ .register user secret) :
    ∃ a', (r.apply verifier e).account user = some a' ∧
      (a'.approved = true ↔ a.approved = true ∨ e = .approve user) ∧
      (a'.active = true ↔ a.active = true ∧ e ≠ .evict user) := by
  cases e with
  | register u secret =>
    have hne : user ≠ u := by
      rintro rfl
      exact he secret rfl
    exact ⟨a, by simp [apply, Function.update_of_ne hne, ha], by simp, by simp⟩
  | approve u =>
    by_cases hu : user = u
    · subst hu
      exact ⟨{ a with approved := true }, by simp [apply, change_account, ha], by simp, by simp⟩
    · exact ⟨a, by simp [apply, change_account, hu, ha], by simp [Ne.symm hu], by simp⟩
  | evict u =>
    by_cases hu : user = u
    · subst hu
      exact ⟨{ a with active := false }, by simp [apply, change, ha], by simp, by simp⟩
    · exact ⟨a, by simp [apply, change, hu, ha], by simp, by simp [Ne.symm hu]⟩
  | update token secret =>
    cases hs : r.session token with
    | none => exact ⟨a, by simp [apply, hs, ha], by simp, by simp⟩
    | some u =>
      cases secret with
      | none => exact ⟨a, by simp [apply, hs, ha], by simp, by simp⟩
      | some secret =>
        by_cases hu : user = u
        · subst hu
          exact ⟨{ a with verifier := verifier user secret },
            by simp [apply, hs, change_account, ha], by simp, by simp⟩
        · exact ⟨a, by simp [apply, hs, change_account, hu, ha], by simp, by simp⟩
  | _ => exact ⟨a, ha, by simp, by simp⟩

/-- An account stays, its approval stays, and it never becomes active again. -/
theorem step_account (hstep : Step verifier r e r') {a : Account ν}
    (ha : r.account user = some a) :
    ∃ a', r'.account user = some a' ∧
      (a'.approved = true ↔ a.approved = true ∨ e = .approve user) ∧
      (a'.active = true ↔ a.active = true ∧ e ≠ .evict user) := by
  obtain ⟨hen, rfl⟩ := hstep
  refine apply_account ha fun secret he => ?_
  subst he
  have hnone : r.account user = none := hen
  rw [ha] at hnone
  cases hnone

/-- Sessions belong to approved and active accounts. -/
def Sound (r : Registry ι τ ν) : Prop :=
  ∀ token user, r.session token = some user →
    ∃ a, r.account user = some a ∧ a.approved = true ∧ a.active = true

/-- The sessions after an event. -/
theorem apply_session (e : Event ι τ π) (token : τ) :
    (r.apply verifier e).session token =
      match e with
      | .evict u => (r.session token).filter (· ≠ u)
      | .login u _ t => if token = t then some u else r.session token
      | .logout t => if token = t then none else r.session token
      | .restart => none
      | _ => r.session token := by
  cases e with
  | update t secret =>
    simp only [apply]
    split <;> rfl
  | login u secret t => simp only [apply, Function.update_apply]
  | logout t => simp only [apply, Function.update_apply]
  | _ => rfl

/-- A session after a step was there before, or has just been opened by a login. -/
theorem step_session (hstep : Step verifier r e r') {token : τ}
    (hs : r'.session token = some user) :
    (r.session token = some user ∧ e ≠ .evict user ∧ e ≠ .logout token ∧ e ≠ .restart) ∨
      ∃ secret, e = .login user secret token := by
  obtain ⟨-, rfl⟩ := hstep
  rw [apply_session] at hs
  cases e with
  | evict u =>
    simp only [Option.filter_eq_some_iff, decide_eq_true_eq] at hs
    exact .inl ⟨hs.1, by simpa using Ne.symm hs.2, by simp, by simp⟩
  | login u secret t =>
    dsimp only at hs
    split_ifs at hs with ht
    · cases hs
      exact .inr ⟨secret, by rw [ht]⟩
    · exact .inl ⟨hs, by simp, by simp, by simp⟩
  | logout t =>
    dsimp only at hs
    split_ifs at hs with ht
    exact .inl ⟨hs, by simp, by simpa using Ne.symm ht, by simp⟩
  | restart => cases hs
  | _ => exact .inl ⟨hs, by simp, by simp, by simp⟩

theorem step_sound (hstep : Step verifier r e r') (hr : r.Sound) : r'.Sound := by
  intro token user hs
  rcases step_session hstep hs with ⟨hold, hevict, -, -⟩ | ⟨secret, rfl⟩
  · obtain ⟨a, ha, happroved, hactive⟩ := hr token user hold
    obtain ⟨a', ha', happroved', hactive'⟩ := step_account hstep ha
    exact ⟨a', ha', happroved'.mpr (.inl happroved), hactive'.mpr ⟨hactive, hevict⟩⟩
  · obtain ⟨⟨a, ha, happroved, hactive, -⟩, rfl⟩ := hstep
    exact ⟨a, ha, happroved, hactive⟩

/-! ## Sessions and histories -/

/-- A session that no later event ends. -/
def SessionOpen (h : List (Event ι τ π)) (token : τ) (user : ι) : Prop :=
  Since (fun e => e ≠ .logout token ∧ e ≠ .evict user ∧ e ≠ .restart)
    (fun e => ∃ secret, e = .login user secret token) h

theorem step_session_iff (hstep : FreshStep verifier r e r') {token : τ} :
    r'.session token = some user ↔
      (∃ secret, e = .login user secret token) ∨
        (e ≠ .logout token ∧ e ≠ .evict user ∧ e ≠ .restart) ∧ r.session token = some user := by
  constructor
  · intro hs
    rcases step_session hstep.1 hs with ⟨hold, hevict, hlogout, hrestart⟩ | hlogin
    · exact .inr ⟨⟨hlogout, hevict, hrestart⟩, hold⟩
    · exact .inl hlogin
  · obtain ⟨⟨-, rfl⟩, hfresh⟩ := hstep
    rw [apply_session]
    rintro (⟨secret, rfl⟩ | ⟨⟨hlogout, hevict, hrestart⟩, hs⟩)
    · simp
    · cases e with
      | evict u =>
        have hu : user ≠ u := fun hu => hevict (by rw [hu])
        simp [hs, hu]
      | login u secret t =>
        -- A fresh token cannot take the place of this one.
        have ht : token ≠ t := by
          rintro rfl
          rw [hfresh u secret token rfl] at hs
          cases hs
        simp [ht, hs]
      | logout t =>
        have ht : token ≠ t := fun ht => hlogout (by rw [ht])
        simp [ht, hs]
      | restart => exact absurd rfl hrestart
      | _ => exact hs

/-- Exactly the sessions are open that a login opened and nothing has ended since. -/
theorem session_iff (hrun : Trace (FreshStep verifier) r h r')
    (hr : ∀ token, r.session token = none) (token : τ) (user : ι) :
    r'.session token = some user ↔ SessionOpen h token user := by
  induction hrun with
  | refl => simp [SessionOpen, hr]
  | step _ hstep ih => rw [step_session_iff hstep, SessionOpen, since_cons, ih]; rfl

/-! ## Accounts and histories -/

theorem Step.of_fresh (h : FreshStep verifier r e r') : Step verifier r e r' := h.1

/-- Along a run an account stays, with what was decided about it. -/
theorem run_account (hrun : Trace (Step verifier) r h r') {a : Account ν}
    (ha : r.account user = some a) :
    ∃ a', r'.account user = some a' ∧
      (a'.approved = true ↔ a.approved = true ∨ .approve user ∈ h) ∧
      (a'.active = true ↔ a.active = true ∧ .evict user ∉ h) := by
  induction hrun with
  | refl => exact ⟨a, ha, by simp, by simp⟩
  | step _ hstep ih =>
    obtain ⟨b, hb, happroved, hactive⟩ := ih
    obtain ⟨a', ha', happroved', hactive'⟩ := step_account hstep hb
    refine ⟨a', ha', ?_, ?_⟩
    · rw [happroved', happroved, List.mem_cons, eq_comm (a := Event.approve user)]
      exact or_assoc.trans (or_congr Iff.rfl or_comm)
    · rw [hactive', hactive, List.mem_cons, eq_comm (a := Event.evict user), not_or]
      exact and_assoc.trans (and_congr Iff.rfl and_comm)

/-- Only a registration makes an account. -/
theorem step_account_none (hstep : Step verifier r e r') (hnone : r.account user = none)
    (hsome : r'.account user ≠ none) : ∃ secret, e = .register user secret := by
  obtain ⟨-, rfl⟩ := hstep
  cases e with
  | register u secret =>
    by_cases hu : user = u
    · exact ⟨secret, by rw [hu]⟩
    · simp [apply, Function.update_of_ne hu, hnone] at hsome
  | approve u => simp [apply, change_account, hnone] at hsome
  | evict u => simp [apply, change, hnone] at hsome
  | update token secret =>
    simp only [apply] at hsome
    split at hsome <;> simp [change_account, hnone] at hsome
  | _ => exact absurd hnone hsome

theorem exists_registration (hrun : Trace (Step verifier) r h r') (hnone : r.account user = none)
    (hsome : r'.account user ≠ none) :
    ∃ later secret earlier, h = later ++ .register user secret :: earlier := by
  induction hrun with
  | refl => exact absurd hnone hsome
  | @step h t u e _ hstep ih =>
    by_cases ht : t.account user = none
    · obtain ⟨secret, rfl⟩ := step_account_none hstep ht hsome
      exact ⟨[], secret, h, rfl⟩
    · obtain ⟨later, secret, earlier, rfl⟩ := ih ht
      exact ⟨e :: later, secret, earlier, rfl⟩

section Seed

variable {seed : ι → Option π}

/-- The registry has the seeded accounts, approved and active, and no sessions. -/
structure Seeded (verifier : ι → π → ν) (seed : ι → Option π) (r : Registry ι τ ν) : Prop where
  account : ∀ user,
    r.account user = (seed user).map fun secret => ⟨verifier user secret, true, true⟩
  session : ∀ token, r.session token = none

omit [DecidableEq ι] [DecidableEq τ] in
theorem Seeded.account_of_seed (hr : Seeded verifier seed r) (hseed : seed user ≠ none) :
    ∃ secret, r.account user = some ⟨verifier user secret, true, true⟩ := by
  obtain ⟨secret, hsecret⟩ := Option.ne_none_iff_exists'.mp hseed
  exact ⟨secret, by simp [hr.account, hsecret]⟩

/-- The part of a history after the registration of a user. A seeded account has been there
from the start. -/
def AfterRegistration (seed : ι → Option π) (user : ι) (h later : List (Event ι τ π)) : Prop :=
  (seed user ≠ none ∧ later = h) ∨
    ∃ secret earlier, h = later ++ .register user secret :: earlier

/-- The event sets the secret of a user, as seen from the history before it. -/
def Sets (h : List (Event ι τ π)) (e : Event ι τ π) (user : ι) (secret : π) : Prop :=
  e = .register user secret ∨ ∃ token, e = .update token (some secret) ∧ SessionOpen h token user

/-- The secret that was set last. -/
def LastSecret (seed : ι → Option π) (user : ι) : List (Event ι τ π) → π → Prop
  | [], secret => seed user = some secret
  | e :: h, secret =>
    Sets h e user secret ∨ (∀ secret', ¬ Sets h e user secret') ∧ LastSecret seed user h secret

omit [DecidableEq ι] [DecidableEq τ] in
theorem Sets.unique {p q : π} (hp : Sets h e user p) (hq : Sets h e user q) : p = q := by
  rcases hp with rfl | ⟨_, rfl, -⟩ <;> rcases hq with hq | ⟨_, hq, -⟩ <;> cases hq <;> rfl

omit [DecidableEq ι] [DecidableEq τ] in
theorem LastSecret.unique {p q : π} (hp : LastSecret seed user h p)
    (hq : LastSecret seed user h q) : p = q := by
  induction h with
  | nil => exact Option.some.inj (hp.symm.trans hq)
  | cons e h ih =>
    rcases hp with hp | ⟨hnone, hp⟩ <;> rcases hq with hq | ⟨hnone', hq⟩
    · exact hp.unique hq
    · exact absurd hp (hnone' p)
    · exact absurd hq (hnone q)
    · exact ih hp hq

/-- The flags of an account, from the history after its registration. -/
theorem account_of_afterRegistration (hrun : Trace (Step verifier) r h r')
    (hr : Seeded verifier seed r) {later : List (Event ι τ π)}
    (hafter : AfterRegistration seed user h later) :
    ∃ a, r'.account user = some a ∧
      (a.approved = true ↔ seed user ≠ none ∨ .approve user ∈ later) ∧
      (a.active = true ↔ .evict user ∉ later) := by
  rcases hafter with ⟨hseed, rfl⟩ | ⟨secret, earlier, rfl⟩
  · obtain ⟨secret, hstart⟩ := hr.account_of_seed hseed
    obtain ⟨a, ha, happroved, hactive⟩ := run_account hrun hstart
    exact ⟨a, ha, by simp [happroved, hseed], by simp [hactive]⟩
  · obtain ⟨t, t', hearlier, hstep, hlater⟩ := hrun.split
    have hnone : t.account user = none := hstep.1
    have hseed : seed user = none := by
      by_contra hseed
      obtain ⟨secret, hstart⟩ := hr.account_of_seed hseed
      obtain ⟨a, ha, -⟩ := run_account hearlier hstart
      rw [hnone] at ha
      cases ha
    have hstart : t'.account user = some ⟨verifier user secret, false, true⟩ := by
      rw [hstep.2]
      simp [apply]
    obtain ⟨a, ha, happroved, hactive⟩ := run_account hlater hstart
    exact ⟨a, ha, by simp [happroved, hseed], by simp [hactive]⟩

theorem exists_afterRegistration (hrun : Trace (Step verifier) r h r')
    (hr : Seeded verifier seed r) (hsome : r'.account user ≠ none) :
    ∃ later, AfterRegistration seed user h later := by
  by_cases hseed : seed user = none
  · obtain ⟨later, secret, earlier, heq⟩ :=
      exists_registration hrun (by simp [hr.account, hseed]) hsome
    exact ⟨later, .inr ⟨secret, earlier, heq⟩⟩
  · exact ⟨h, .inl ⟨hseed, rfl⟩⟩

/-- The verifier after a step is that of a secret the step sets, or the one from before. -/
theorem step_verifier (hstep : Step verifier r e r') {a' : Account ν}
    (ha' : r'.account user = some a') :
    (∃ secret, (e = .register user secret ∨
        ∃ token, e = .update token (some secret) ∧ r.session token = some user) ∧
      a'.verifier = verifier user secret) ∨
    ((∀ secret, e ≠ .register user secret ∧
        ∀ token, e = .update token (some secret) → r.session token ≠ some user) ∧
      ∃ a, r.account user = some a ∧ a'.verifier = a.verifier) := by
  obtain ⟨hen, rfl⟩ := hstep
  cases e with
  | register u secret =>
    by_cases hu : user = u
    · subst hu
      simp only [apply, Function.update_self, Option.some.injEq] at ha'
      exact .inl ⟨secret, .inl rfl, by rw [← ha']⟩
    · simp only [apply, Function.update_of_ne hu] at ha'
      exact .inr ⟨by simp [Ne.symm hu], a', ha', rfl⟩
  | approve u =>
    obtain ⟨a, ha, rfl⟩ := of_change_account ha'
    exact .inr ⟨by simp, a, ha, by split_ifs <;> rfl⟩
  | evict u =>
    obtain ⟨a, ha, rfl⟩ := of_change_account (f := fun a => { a with active := false }) ha'
    exact .inr ⟨by simp, a, ha, by split_ifs <;> rfl⟩
  | update token secret =>
    cases hs : r.session token with
    | none =>
      simp only [apply, hs] at ha'
      exact .inr ⟨by simp [hs], a', ha', rfl⟩
    | some u =>
      cases secret with
      | none =>
        simp only [apply, hs] at ha'
        exact .inr ⟨by simp, a', ha', rfl⟩
      | some secret =>
        simp only [apply, hs] at ha'
        obtain ⟨a, ha, rfl⟩ := of_change_account ha'
        by_cases hu : user = u
        · subst hu
          exact .inl ⟨secret, .inr ⟨token, rfl, hs⟩, by rw [if_pos rfl]⟩
        · exact .inr ⟨by simp [hs, Ne.symm hu], a, ha, by rw [if_neg hu]⟩
  | _ => exact .inr ⟨by simp, a', ha', rfl⟩

/-- The verifier of an account is that of the secret that was set last. -/
theorem account_verifier (hrun : Trace (FreshStep verifier) r h r') (hr : Seeded verifier seed r)
    {a : Account ν} (ha : r'.account user = some a) :
    ∃ secret, LastSecret seed user h secret ∧ a.verifier = verifier user secret := by
  induction hrun generalizing a with
  | refl =>
    rw [hr.account, Option.map_eq_some_iff] at ha
    obtain ⟨secret, hsecret, rfl⟩ := ha
    exact ⟨secret, hsecret, rfl⟩
  | @step h t u e hearlier hstep ih =>
    have hsession (token : τ) : t.session token = some user ↔ SessionOpen h token user :=
      session_iff hearlier hr.session token user
    rcases step_verifier hstep.1 ha with ⟨secret, hset, hverifier⟩ | ⟨hnot, b, hb, hverifier⟩
    · simp only [hsession] at hset
      exact ⟨secret, .inl hset, hverifier⟩
    · obtain ⟨secret, hlast, hb'⟩ := ih hb
      refine ⟨secret, .inr ⟨?_, hlast⟩, hverifier.trans hb'⟩
      rintro q (rfl | ⟨token, rfl, hopen⟩)
      · exact (hnot q).1 rfl
      · exact (hnot q).2 token rfl ((hsession token).mpr hopen)

/-- Who can log in, from the history alone. -/
theorem canLogin_iff (hrun : Trace (FreshStep verifier) r h r') (hr : Seeded verifier seed r)
    (user : ι) (secret : π) :
    r'.CanLogin verifier user secret ↔
      ∃ later, AfterRegistration seed user h later ∧
        (seed user ≠ none ∨ .approve user ∈ later) ∧ .evict user ∉ later ∧
        ∃ last, LastSecret seed user h last ∧ verifier user secret = verifier user last := by
  have hrun' := hrun.mono fun _ _ _ => Step.of_fresh
  constructor
  · rintro ⟨a, ha, happroved, hactive, hverifier⟩
    have hsome : r'.account user ≠ none := by simp [ha]
    obtain ⟨later, hafter⟩ := exists_afterRegistration hrun' hr hsome
    obtain ⟨b, hb, happroved', hactive'⟩ := account_of_afterRegistration hrun' hr hafter
    cases ha.symm.trans hb
    obtain ⟨last, hlast, hlast'⟩ := account_verifier hrun hr ha
    exact ⟨later, hafter, happroved'.mp happroved, hactive'.mp hactive, last, hlast,
      hverifier.trans hlast'⟩
  · rintro ⟨later, hafter, happroved, hactive, last, hlast, hverifier⟩
    obtain ⟨a, ha, happroved', hactive'⟩ := account_of_afterRegistration hrun' hr hafter
    obtain ⟨last', hlast', hlast''⟩ := account_verifier hrun hr ha
    rw [hlast'.unique hlast] at hlast''
    exact ⟨a, ha, happroved'.mpr happroved, hactive'.mpr hactive, hverifier.trans hlast''.symm⟩

end Seed

end Registry

end Foundation
