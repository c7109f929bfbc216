import CCTVWebServer.Specification.Runs

/-!
# Requests that succeed

`Answer` bounds what a request may do. For a login and a logout there is also the
converse: as long as no library call fails, they are answered with 200 whenever
the state before them allows it.
-/

namespace CCTVWebServer

open Foundation

variable {w : World} {s t : State} {x : Exchange} {e : HttpRequestEvent}

theorem not_raised (hopenssl : ¬ OpensslFails w) {fault : Fault} : ¬ Raised w False fault := by
  rintro ⟨-, h | h⟩
  · exact hopenssl h
  · exact h

/-- A row is read in one way. -/
theorem Fetched.unique {userId : Bytes} {user user' : UserRecord} (h : Fetched w s userId user)
    (h' : Fetched w s userId user') : user = user' := by
  obtain ⟨row, openId, openName, hrow, hid, hname, rfl⟩ := h
  obtain ⟨row', openId', openName', hrow', hid', hname', rfl⟩ := h'
  cases hrow.symm.trans hrow'
  cases hid.symm.trans hid'
  cases hname.symm.trans hname'
  rfl

theorem field_eq_some {key : String} {text : Bytes} (h : field w e key = some text) :
    ∃ json, w.json.parse e.body = .ok json ∧ w.json.value json (str key) [] = .ok text := by
  unfold field at h
  cases hp : w.json.parse e.body with
  | error err => simp [hp] at h
  | ok json =>
    cases hv : w.json.value json (str key) [] with
    | error what => simp [hp, hv] at h
    | ok text' =>
      simp only [hp, hv, Option.some.injEq] at h
      exact ⟨json, rfl, by rw [hv, h]⟩

/-! ## From the endpoint to the exchange -/

/-- When the endpoints answer, so does the dispatch. -/
theorem ensures_respond (hapi : StartsWith e.url (str "/api/")) {P : HttpResponseEvent → Prop}
    (h : Ensures (endpoints w e) s (fun o _ => ∃ r, o = some r ∧ P r) (fun _ _ => False))
    (self : ReplyServer) :
    Ensures (respond w self e) s (fun r _ => P r) (fun _ _ => False) := by
  simp only [respond, staticReply_eq_none.mpr (not_servesFile_of_api hapi), endpointEvent,
    ensures_bind, ensures_tryCatch]
  refine h.mono ?_ fun _ _ => False.elim
  rintro _ t ⟨r, rfl, hr⟩
  exact hr

/-- The dispatch computes one response and hands it over, or it publishes nothing. -/
theorem Served.ensures (hjson : w.json.Documented) (h : Served w s x t)
    {Q : HttpResponseEvent → State → Prop} {E : State → Prop}
    (hQ : ∀ self, Ensures (respond w self x.request) s Q (fun _ => E)) :
    (∃ r u, x.published = [r] ∧ Q r u ∧ t = { u with published := u.published ++ [r] }) ∨
      (x.published = [] ∧ E t) := by
  obtain ⟨self, rfl, hpublished⟩ := h
  have hspec := respond_spec hjson self x.request s
  simp only [finalState, dispatch_record, EStateM.run_bind] at hpublished ⊢
  cases hrun : (respond w self x.request).run s with
  | ok r u =>
    obtain ⟨⟨eff, ⟨n, hu⟩, -⟩, -⟩ := hspec.of_ok hrun
    have hkept : u.published = s.published := by
      rw [hu]
      exact effect_apply_published eff
    simp only [hrun] at hpublished
    have hr : u.published ++ [r] = s.published ++ x.published := hpublished
    rw [hkept] at hr
    exact .inl ⟨r, u, (List.append_cancel_left hr).symm, (hQ self).of_ok hrun, rfl⟩
  | error fault u =>
    obtain ⟨⟨eff, ⟨n, hu⟩, -⟩, -⟩ := hspec.of_error hrun
    simp only [hrun] at hpublished
    rw [hu] at hpublished
    have hnil : s.published ++ [] = s.published ++ x.published := by
      rw [List.append_nil, ← hpublished]
      exact (effect_apply_published eff).symm
    exact .inr ⟨(List.append_cancel_left hnil).symm, (hQ self).of_error hrun⟩

theorem Served.published (hjson : w.json.Documented) (h : Served w s x t)
    {P : HttpResponseEvent → Prop}
    (hP : ∀ self, Ensures (respond w self x.request) s (fun r _ => P r) (fun _ _ => False)) :
    ∃ r, x.published = [r] ∧ P r := by
  rcases h.ensures hjson hP with ⟨r, u, hr, hPr, -⟩ | ⟨-, hfalse⟩
  · exact ⟨r, hr, hPr⟩
  · exact hfalse.elim

/-! ## Login -/

theorem login_ok (hjson : w.json.Documented) (hsqlite : ¬ SqliteFails w)
    (hopenssl : ¬ OpensslFails w) {userId password : Bytes} {user : UserRecord}
    (hid : field w e "id" = some userId) (hpassword : field w e "password" = some password)
    (hfetched : Fetched w s userId user) (hactive : user.isActive ≠ 0)
    (happroved : user.isApproved ≠ 0) (hhash : w.passwordHash password userId = user.passwordHash) :
    Ensures (login w e) s (fun r _ => r.statusCode = 200) (fun _ _ => False) := by
  obtain ⟨json, hp, hvid⟩ := field_eq_some hid
  obtain ⟨json', hp', hvpassword⟩ := field_eq_some hpassword
  cases hp.symm.trans hp'
  simp only [login, parseBody, value, hp, hvid, hvpassword, pure_bind]
  refine (getUser_spec userId UserRecord.declared s).bind ?_ fun _ _ h => not_raised hopenssl h.2
  rintro ⟨found, user'⟩ t ⟨-, ⟨hfound, hfetched'⟩ | ⟨-, -, hwhy⟩⟩
  · cases hfetched.unique hfetched'
    dsimp only at hfound
    simp only [hfound, hactive, happroved, Bool.true_eq_false, or_self, if_false]
    refine (hashPasswordPBKDF2_yields _ _).run (fun _ _ _ h => not_raised hopenssl h) ?_
    rintro _ u - rfl
    simp only [hhash, ne_eq, not_true_eq_false, if_false]
    refine generateSessionToken_returns.run fun token v _ _ => ?_
    rw [ensures_bind, ensures_modify]
    exact reply_run hjson (by decide) fun _ _ => rfl
  · rcases hwhy with h | h | h
    · exact absurd h hsqlite
    · exact absurd h hopenssl
    · exact absurd ⟨user, hfetched⟩ h

/-- A login with the password of an approved and active account is answered with 200. -/
theorem Served.login_ok (hjson : w.json.Documented) (hsqlite : ¬ SqliteFails w)
    (hopenssl : ¬ OpensslFails w) (h : Served w s x t) (post : Post x.request "/api/login")
    {userId password : Bytes} {user : UserRecord} (hid : field w x.request "id" = some userId)
    (hpassword : field w x.request "password" = some password)
    (hfetched : Fetched w s userId user) (hactive : user.isActive ≠ 0)
    (happroved : user.isApproved ≠ 0) (hhash : w.passwordHash password userId = user.passwordHash) :
    x.Ok := by
  refine h.published hjson (ensures_respond (post_startsWith post (by decide)) ?_)
  rw [endpoints, if_neg (by simp [post.1]), if_pos (And.intro post.1 post.2), ensures_map]
  refine (CCTVWebServer.login_ok hjson hsqlite hopenssl hid hpassword hfetched hactive happroved
    hhash).mono ?_ fun _ _ => id
  exact fun r _ hr => ⟨r, rfl, hr⟩

/-! ## Logout -/

/-- A logout that presents an open session is answered with 200. -/
theorem Served.logout_ok (hjson : w.json.Documented) (hopenssl : ¬ OpensslFails w)
    (h : Served w s x t) (post : Post x.request "/api/logout")
    (hcaller : callerId s x.request ≠ []) : x.Ok := by
  refine h.published hjson (ensures_respond (post_startsWith post (by decide)) ?_)
  rw [endpoints, if_neg (by simp [post.1]), if_neg (by simp [post.1])]
  simp only [ensures_bind, ensures_get, ensures_ite, ensures_map]
  refine ⟨fun hnil => absurd hnil.1 hcaller, fun _ => ?_⟩
  refine (getUser_spec _ UserRecord.declared s).mono ?_ fun _ _ h => not_raised hopenssl h.2
  rintro ⟨found, user⟩ t -
  dsimp only
  rw [userEndpoints, if_pos (And.intro post.1 post.2), ensures_map]
  simp only [logout, if_pos (getSessionToken_ne_nil hcaller)]
  rw [ensures_bind, ensures_modify]
  exact reply_run hjson (by decide) fun _ _ => ⟨_, rfl, rfl⟩

end CCTVWebServer
