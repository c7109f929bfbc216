import CCTVWebServer.Specification.Events
import CCTVWebServer.Specification.Rows
import CCTVWebServer.Specification.Success

/-!
# Accounts and sessions along a run

Runs of the server are runs of the account service, so the laws of
`Foundation.Registry` apply to them. What they leave open is settled here: which
accounts a session can belong to, and what a successful login or registration
says about the state before it.
-/

namespace CCTVWebServer

open Foundation

variable {w : World} {s t : State} {x : Exchange} {e : HttpRequestEvent}
  {dbPath masterSecret : Bytes}

/-! ## What a success says -/

theorem Post.unique {url url' : String} (h : Post e url) (h' : Post e url') : url = url' :=
  str_inj.mp (h.1.symm.trans h'.1)

/-- The one effect of an exchange that was answered with success. -/
theorem Served.answer_of_ok (hjson : w.json.Documented) (h : Served w s x t) (hok : x.Ok) :
    ∃ eff r, x.published = [r] ∧ r.statusCode = 200 ∧ Answer w s x.request eff r := by
  obtain ⟨eff, r, -, hanswer, hpublished⟩ := h.effect hjson
  obtain ⟨r', hr', hstatus⟩ := hok
  rcases hpublished with hpublished | ⟨hpublished, -⟩
  · rw [hr', List.singleton_inj] at hpublished
    exact ⟨eff, r, hpublished ▸ hr', hpublished ▸ hstatus, hanswer⟩
  · rw [hr'] at hpublished
    cases hpublished

/-- A login that succeeded was one with the password of an open account. -/
theorem Served.login_event (hjson : w.json.Documented) (h : Served w s x t) (hok : x.Ok)
    (post : Post x.request "/api/login") :
    ∃ userId password token, field w x.request "id" = some userId ∧
      field w x.request "password" = some password ∧ token.length = 32 ∧
      Reports w x (.login userId password token) := by
  obtain ⟨eff, r, hr, hstatus, hanswer⟩ := h.answer_of_ok hjson hok
  cases hanswer with
  | quiet refused => exact absurd hstatus (refused (.inr (.inl post)))
  | login post hid hpassword _ _ _ _ hbody htoken =>
    exact ⟨_, _, _, hid, hpassword, htoken, .login post hid hpassword hbody hr⟩
  | relay hurl => exact absurd (.inr (.inl post)) (not_accountPost_of_rtsp hurl)
  | register post' | logout post' | updateProfile post' | approve post' | evict post' =>
    exact absurd (post.unique post') (by decide)

theorem Served.canLogin (hjson : w.json.Documented) (hsha : Function.Injective w.sha256Digest)
    (h : Served w s x t) (hok : x.Ok) (post : Post x.request "/api/login") {userId : Bytes}
    (hid : field w x.request "id" = some userId) :
    ∃ password, field w x.request "password" = some password ∧
      (s.registry w).CanLogin w.verifier userId password := by
  obtain ⟨userId', password, token, hid', hpassword, -, hreports⟩ := h.login_event hjson hok post
  cases hid.symm.trans hid'
  have hstep := h.step hjson hsha
  rw [eventOf_of_reports hreports] at hstep
  exact ⟨password, hpassword, hstep.1⟩

/-- A registration that succeeded was one of a new id. -/
theorem Served.find_of_register (hjson : w.json.Documented) (h : Served w s x t) (hok : x.Ok)
    (post : Post x.request "/api/register") {userId : Bytes}
    (hid : field w x.request "id" = some userId) : s.users.find (w.userKey userId) = none := by
  obtain ⟨eff, r, -, hstatus, hanswer⟩ := h.answer_of_ok hjson hok
  cases hanswer with
  | quiet refused => exact absurd hstatus (refused (.inl post))
  | register _ hid' _ _ _ _ hfree =>
    cases hid.symm.trans hid'
    exact hfree
  | relay hurl => exact absurd (.inl post) (not_accountPost_of_rtsp hurl)
  | login post' | logout post' | updateProfile post' | approve post' | evict post' =>
    exact absurd (post.unique post') (by decide)

/-- An eviction that succeeded was one by the admin, and of somebody else. It leaves the
row, if there is one, inactive. -/
theorem Served.evict_event (hjson : w.json.Documented) (h : Served w s x t) {userId : Bytes}
    (hevict : Reports w x (.evict userId)) :
    AdminCaller w s x.request ∧ userId ≠ str "admin" ∧
      ∀ row, s.users.find (w.userKey userId) = some row →
        ∃ row', t.users.find (w.userKey userId) = some row' ∧ row'.isActive = 0 := by
  obtain ⟨eff, r, ⟨n, p, rfl⟩, hanswer, hpublished⟩ := h.effect hjson
  have post : Post x.request "/api/users/evict" := hevict.post
  have hid := hevict.evict_field
  cases hanswer with
  | quiet refused => exact absurd hevict (not_reports_of_refused hpublished refused _)
  | evict _ hadmin hid' hne =>
    cases hid.symm.trans hid'
    refine ⟨hadmin, hne, fun row hrow => ⟨row.evict, ?_, rfl⟩⟩
    have hfind := Table.find_update s.users (w.userKey userId) _ UserRow.userIdHash_evict
      (w.userKey userId)
    rw [if_pos rfl, hrow] at hfind
    exact hfind
  | relay hurl => exact absurd hevict.accountPost (not_accountPost_of_rtsp hurl)
  | register post' | login post' | logout post' | updateProfile post' | approve post' =>
    exact absurd (post.unique post') (by decide)

/-! ## Runs of requests -/

theorem Started.activeSessions {file : DatabaseFile}
    (h : Started w file dbPath masterSecret t) : t.activeSessions = ∅ := by
  obtain ⟨users, n, -, rfl⟩ := h
  rfl

/-- A run of requests is a run of the server without restarts. -/
theorem transition_of_served {h : List Exchange} (hrun : Trace (Served w) s h t) :
    Trace (Transition w dbPath masterSecret) s (h.map Label.request) t :=
  hrun.simulate (I := fun _ => True) id Label.request (fun _ _ _ _ _ => trivial)
    (fun _ _ _ _ hx => .request hx) trivial

theorem Reachable.trans {h : List Label} (hs : Reachable w dbPath masterSecret s)
    (hrun : Trace (Transition w dbPath masterSecret) s h t) :
    Reachable w dbPath masterSecret t := by
  obtain ⟨s₀, h₀, hfresh, hrun₀⟩ := hs
  exact ⟨s₀, _, hfresh, hrun₀.append hrun⟩

theorem Reachable.of_served {h : List Exchange} (hs : Reachable w dbPath masterSecret s)
    (hrun : Trace (Served w) s h t) : Reachable w dbPath masterSecret t :=
  hs.trans (transition_of_served hrun)

/-- What every reachable state keeps about the session map. -/
structure SessionsSound (w : World) (s : State) : Prop where
  registry : (s.registry w).Sound
  token_ne_nil : ∀ token userId, s.activeSessions.lookup token = some userId → token ≠ []

theorem Started.sessionsSound {file : DatabaseFile} (h : Started w file dbPath masterSecret t) :
    SessionsSound w t where
  registry token userId hsession := by
    have hnone : t.activeSessions.lookup token = none := by rw [h.activeSessions]; rfl
    exact absurd (hnone.symm.trans hsession) (by simp)
  token_ne_nil token userId hsession := by
    rw [h.activeSessions] at hsession
    cases hsession

theorem Served.sessionsSound (hjson : w.json.Documented) (hsha : Function.Injective w.sha256Digest)
    (h : Served w s x t) (hs : SessionsSound w s) : SessionsSound w t where
  registry := Registry.step_sound (h.step hjson hsha) hs.registry
  token_ne_nil token userId hsession := by
    rcases Registry.step_session (h.step hjson hsha) hsession with ⟨hold, -⟩ | ⟨password, hlogin⟩
    · exact hs.token_ne_nil token userId hold
    · rw [eventOf_eq_iff (by simp)] at hlogin
      obtain ⟨_, _, token', -, -, hlength, hlogin'⟩ := h.login_event hjson hlogin.ok hlogin.post
      cases hlogin.unique hlogin'
      rintro rfl
      simp at hlength

/-- Sessions belong to approved and active accounts, although no request looks at the
flags of its caller. -/
theorem Reachable.sessionsSound (hjson : w.json.Documented)
    (hsha : Function.Injective w.sha256Digest) (h : Reachable w dbPath masterSecret t) :
    SessionsSound w t := by
  obtain ⟨s, h, ⟨n, hfresh⟩, hrun⟩ := h
  refine hrun.invariant (I := SessionsSound w) ?_ (Started.of_run hfresh).sessionsSound
  intro u l v hu hl
  cases hl with
  | request hx => exact hx.sessionsSound hjson hsha hu
  | restart hx => exact (Started.of_run hx).sessionsSound

/-- The bootstrap leaves the row of the admin, and no other. -/
theorem Fresh.users (hsqlite : ¬ SqliteFails w) (h : Fresh w dbPath masterSecret s) :
    ∃ row, AdminRow w (w.sha256Digest masterSecret) row ∧ Table.empty.insert row = some s.users ∧
      s.activeSessions = ∅ := by
  obtain ⟨n, h⟩ := h
  have hstart := Started.of_run h
  have hempty := hstart.activeSessions
  obtain ⟨users, m, ⟨row, hrow, hinsert⟩ | ⟨-, hwhy⟩, rfl⟩ := hstart
  · exact ⟨row, hrow, hinsert, hempty⟩
  · rcases hwhy with hfails | hfound
    · exact absurd hfails hsqlite
    · exact absurd (Table.find_empty _) hfound

/-- The row of a user can be read. -/
theorem Reachable.fetched (hjson : w.json.Documented) (hsha : Function.Injective w.sha256Digest)
    (hgcm : w.GcmDocumented) (h : Reachable w dbPath masterSecret t) {row : UserRow}
    (hrow : t.users.find (w.userKey userId) = some row) :
    ∃ username, Fetched w t userId (row.record userId username) := by
  have hsound := (h.tableSound hjson hsha).2.of_find hsha hrow
  obtain ⟨username, hname⟩ := hsound.usernameEnc
  exact ⟨username, row, userId, username, hrow, opened_of_seals hgcm hsound.userIdEnc,
    opened_of_seals hgcm hname, rfl⟩

/-! ## Callers -/

/-- A session of the admin makes its caller one. -/
theorem Reachable.adminCaller (hjson : w.json.Documented)
    (hsha : Function.Injective w.sha256Digest) (hgcm : w.GcmDocumented)
    (hs : Reachable w dbPath masterSecret s) {e : HttpRequestEvent}
    (hcaller : callerId s e = str "admin")
    (hrole : (s.users.find (w.userKey (str "admin"))).map (·.role.val) = some (str "admin")) :
    AdminCaller w s e := by
  obtain ⟨row, hrow, hrole⟩ := Option.map_eq_some_iff.mp hrole
  obtain ⟨username, hfetched⟩ := hs.fetched hjson hsha hgcm hrow
  refine ⟨by rw [hcaller]; decide, row.record (str "admin") username, ?_, hrole⟩
  rwa [hcaller]

/-- The request is treated as one of the user. -/
def Authenticated (s : State) (e : HttpRequestEvent) (userId : Bytes) : Prop :=
  userId ≠ [] ∧ callerId s e = userId

theorem Reachable.session_user (hjson : w.json.Documented)
    (hsha : Function.Injective w.sha256Digest) (h : Reachable w dbPath masterSecret t)
    {token userId : Bytes} (hsession : t.activeSessions.lookup token = some userId) :
    ∃ row, t.users.find (w.userKey userId) = some row ∧ RowSound w t.key userId row ∧
      row.isApproved = 1 ∧ row.isActive = 1 := by
  obtain ⟨a, ha, happroved, hactive⟩ := (h.sessionsSound hjson hsha).registry token userId hsession
  obtain ⟨row, hrow, rfl⟩ := Option.map_eq_some_iff.mp ha
  have hsound := (h.tableSound hjson hsha).2.of_find hsha hrow
  simp only [UserRow.account, decide_eq_true_eq] at happroved hactive
  exact ⟨row, hrow, hsound, hsound.isApproved.resolve_left happroved,
    hsound.isActive.resolve_left hactive⟩

/-- The session map alone decides who a request is treated as. -/
theorem Reachable.authenticated_iff (hjson : w.json.Documented)
    (hsha : Function.Injective w.sha256Digest) (h : Reachable w dbPath masterSecret t)
    {userId : Bytes} :
    Authenticated t e userId ↔
      t.activeSessions.lookup (getSessionToken e.cookies) = some userId := by
  constructor
  · rintro ⟨hne, rfl⟩
    exact callerId_ne_nil hne
  · intro hsession
    obtain ⟨row, -, hsound, -⟩ := h.session_user hjson hsha hsession
    have htoken := (h.sessionsSound hjson hsha).token_ne_nil _ _ hsession
    refine ⟨hsound.userId_ne_nil, ?_⟩
    simp [getUserIdFromSession, htoken, hsession]

/-! ## Runs as histories of events -/

/-- An exchange whose login, if it is one, issues a token that is not in use. -/
def ServedFresh (w : World) (s : State) (x : Exchange) (t : State) : Prop :=
  Served w s x t ∧ ∀ userId password token, Reports w x (.login userId password token) →
    s.activeSessions.lookup token = none

theorem ServedFresh.freshStep (hjson : w.json.Documented)
    (hsha : Function.Injective w.sha256Digest) (h : ServedFresh w s x t) :
    Registry.FreshStep w.verifier (s.registry w) (eventOf w x) (t.registry w) := by
  refine ⟨h.1.step hjson hsha, fun userId password token hlogin => ?_⟩
  rw [eventOf_eq_iff (by simp)] at hlogin
  exact h.2 userId password token hlogin

theorem served_of_fresh {h : List Exchange} (hrun : Trace (ServedFresh w) s h t) :
    Trace (Served w) s h t :=
  hrun.mono fun _ _ _ hx => hx.1

/-- The events of a history. -/
noncomputable def events (w : World) (h : List Exchange) : List Event := h.map (eventOf w)

theorem freshStep_run (hjson : w.json.Documented) (hsha : Function.Injective w.sha256Digest)
    {h : List Exchange} (hrun : Trace (ServedFresh w) s h t) :
    Trace (Registry.FreshStep w.verifier) (s.registry w) (events w h) (t.registry w) :=
  hrun.simulate (I := fun _ => True) (State.registry w) (eventOf w) (fun _ _ _ _ _ => trivial)
    (fun _ _ _ _ hx => hx.freshStep hjson hsha) trivial

theorem not_reports_restart : ¬ Reports w x .restart := by
  rintro ⟨⟩

/-- An open session in terms of the requests that opened and ended it. -/
theorem sessionOpen_events {h : List Exchange} {token userId : Bytes} :
    Registry.SessionOpen (events w h) token userId ↔
      Since (fun y => ¬ Reports w y (.logout token) ∧ ¬ Reports w y (.evict userId))
        (fun y => ∃ password, Reports w y (.login userId password token)) h := by
  simp (disch := simp) only [Registry.SessionOpen, events, since_map, Function.comp_def, ne_eq,
    eventOf_eq_iff, not_reports_restart, not_false_eq_true, and_true]

end CCTVWebServer
