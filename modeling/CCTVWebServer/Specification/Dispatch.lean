import CCTVWebServer.Specification.Endpoints

/-!
# What dispatch does

`endpoints` either answers, or raises, or is not responsible, and `dispatch`
turns each of the three into a published response. `dispatch_effect` is the case
analysis that every property of runs starts from: one effect, and at most one
published response that goes with it.
-/

namespace CCTVWebServer

open Foundation

variable {w : World} {e : HttpRequestEvent} {s t : State}

/-! ## The endpoints together -/

theorem not_accountPost_of_get (h : e.method = str "GET") : ¬ AccountPost e := by
  simp [AccountPost, Post, h]

/-- A caller record with a role is one that was fetched. -/
theorem CallerIs.fetched {user : UserRecord} (h : CallerIs w s e user)
    (hrole : user.role = str "admin") : Fetched w s (callerId s e) user := by
  obtain ⟨found, t, hrun⟩ := h
  rcases ((getUser_spec _ UserRecord.declared s).of_ok hrun).2 with ⟨-, hfetched⟩ | ⟨-, hempty, -⟩
  · exact hfetched
  · -- What was not fetched keeps the empty role it was declared with.
    have hnil : ([] : Bytes) = str "admin" := hempty.symm.trans hrole
    exact absurd hnil (by decide)

theorem startsWith_api (h : StartsWith e.url (str "/api/users") ∨
    StartsWith e.url (str "/api/rtsp")) : StartsWith e.url (str "/api/") := by
  rcases h with h | h
  · exact List.IsPrefix.trans (by decide) h
  · exact List.IsPrefix.trans (by decide) h

/-- The caller got past the guard in front of the admin endpoints. -/
def Guarded (w : World) (s : State) (e : HttpRequestEvent) (user : UserRecord) : Prop :=
  StartsWith e.url (str "/api/users") ∨ StartsWith e.url (str "/api/rtsp") →
    AdminCaller w s e ∧ user.role = str "admin"

theorem adminEndpoints_spec (hjson : w.json.Documented) (hst : Idle s t) {callerUser : UserRecord}
    (hcaller : CallerIs w s e callerUser) (hguard : Guarded w s e callerUser)
    (hpost : AccountPost e → Post e "/api/users/approve" ∨ Post e "/api/users/evict") :
    Ensures (adminEndpoints w e) t (Answered w s e) (Broken w s e) := by
  have hreads (hadmin : AdminCaller w s e ∧ callerUser.role = str "admin")
      (h : Post e "/api/users/approve" ∨ Post e "/api/users/evict" ∨ Post e "/api/rtsp") :
      ReadsBody w s e :=
    .inr (.inr ⟨hadmin.1.1, callerUser, hcaller, .inr ⟨hadmin.2, h⟩⟩)
  simp only [adminEndpoints, ensures_ite, ensures_map, ensures_pure]
  refine ⟨fun h => listUsers_spec hjson (not_accountPost_of_get h.2) hst, fun _ => ?_⟩
  refine ⟨fun h => ?_, fun happrove => ?_⟩
  · have hadmin := hguard (.inl (by rw [h.1]; decide))
    exact approve_spec hjson h hst hadmin.1 (hreads hadmin (.inl h))
  refine ⟨fun h => ?_, fun hevict => ?_⟩
  · have hadmin := hguard (.inl (by rw [h.1]; decide))
    exact evict_spec hjson h hst hadmin.1 (hreads hadmin (.inr (.inl h)))
  refine ⟨fun h => getRtsp_spec hjson (not_accountPost_of_get h.2) hst, fun _ => ?_⟩
  refine ⟨fun h => ?_, fun _ => ?_⟩
  · have hadmin := hguard (.inr (by rw [h.1]))
    exact saveRtsp_spec hjson h.1 hst hadmin.1 (hreads hadmin (.inr (.inr h)))
  refine ⟨fun h => ?_, fun _ => ⟨hst, fun h => (hpost h).elim happrove hevict⟩⟩
  · have hadmin := hguard (.inr (by rw [h.1]; decide))
    exact stopRtsp_spec hjson h.1 hst hadmin.1

theorem userEndpoints_spec (hjson : w.json.Documented) (hst : Idle s t) {callerUser : UserRecord}
    (hapi : StartsWith e.url (str "/api/") → callerId s e ≠ [])
    (hcaller : CallerIs w s e callerUser)
    (hregister : ¬ Post e "/api/register") (hlogin : ¬ Post e "/api/login") :
    Ensures (userEndpoints w e (callerId s e) callerUser) t (Answered w s e) (Broken w s e) := by
  simp only [userEndpoints, ensures_ite, ensures_map]
  refine ⟨fun h => logout_spec hjson h hst (hapi (by rw [h.1]; decide)), fun hlogout => ?_⟩
  refine ⟨fun h => me_spec hjson (not_accountPost_of_get h.2) hst, fun _ => ?_⟩
  refine ⟨fun h => ?_, fun hupdate => ?_⟩
  · have hid := hapi (by rw [h.1]; decide)
    exact updateProfile_spec hjson h hst hid (.inr (.inr ⟨hid, callerUser, hcaller, .inl h⟩))
  refine ⟨fun _ => refuse hjson (by decide) (by decide) hst, fun hadmin => ?_⟩
  refine adminEndpoints_spec hjson hst hcaller (fun hguarded => ?_) fun h => ?_
  · have hrole' : callerUser.role = str "admin" := by
      by_contra hne
      exact hadmin ⟨hne, hguarded⟩
    exact ⟨⟨hapi (startsWith_api hguarded), callerUser, hcaller.fetched hrole', hrole'⟩, hrole'⟩
  · rcases h with h | h | h | h | h | h
    · exact absurd h hregister
    · exact absurd h hlogin
    · exact absurd h hlogout
    · exact absurd h hupdate
    · exact .inl h
    · exact .inr h

theorem endpoints_spec (hjson : w.json.Documented) (e : HttpRequestEvent) (s : State) :
    Ensures (endpoints w e) s (Answered w s e) (Broken w s e) := by
  simp only [endpoints, ensures_ite, ensures_map]
  refine ⟨fun h => register_spec hjson h s, fun hregister => ?_⟩
  refine ⟨fun h => login_spec hjson h s, fun hlogin => ?_⟩
  simp only [ensures_bind, ensures_get, ensures_ite, ensures_map]
  refine ⟨fun _ => refuse hjson (by decide) (by decide) (Idle.refl s), fun hcaller => ?_⟩
  refine (getUser_spec _ UserRecord.declared s).with_run.mono ?_
    fun _ _ h => broken_of_raised h.1.1 h.1.2
  rintro ⟨found, callerUser⟩ t ⟨⟨ht, -⟩, hrun⟩
  exact userEndpoints_spec hjson ht (fun hapi hnil => hcaller ⟨hnil, hapi⟩) ⟨found, t, hrun⟩
    hregister hlogin

/-! ## Publishing comes last -/

/-- The event of the `try` block and its `catch`. -/
def endpointEvent (w : World) (e : HttpRequestEvent) : Server (Option HttpResponseEvent) :=
  tryCatch (endpoints w e) fun fault =>
    match fault with
    | .exception what => some <$> reply w e 500 "Internal Server Error" (errorJson what)
    | .deadlock => throw .deadlock

/-- The event of the code behind the `try` block. -/
def fallbackEvent (w : World) (self : ReplyServer) (e : HttpRequestEvent) :
    Server HttpResponseEvent :=
  match self.handlers.lookup e.url with
  | some handler =>
    match handler e with
    | .ok response => return response
    | .error what => throw (.exception what)
  | none => reply w e 404 "Not Found" (errorJson (str "Not Found"))

/-- What `dispatch` publishes: its code with the calls to `publish` taken out. -/
def respond (w : World) (self : ReplyServer) (e : HttpRequestEvent) : Server HttpResponseEvent :=
  match staticReply w e with
  | some response => pure response
  | none => do
    match ← endpointEvent w e with
    | some response => return response
    | none => fallbackEvent w self e

theorem fallback_eq (publish : HttpResponseEvent → Server Unit) (self : ReplyServer)
    (e : HttpRequestEvent) : fallback w publish self e = fallbackEvent w self e >>= publish := by
  unfold fallback fallbackEvent
  cases self.handlers.lookup e.url with
  | none => rfl
  | some handler =>
    dsimp only
    cases handler e <;> rfl

/-- Publishing is the last thing that happens on every path, as long as it does not itself
raise an exception into the `try` block. -/
theorem run_dispatch_eq {publish : HttpResponseEvent → Server Unit} {I : State → Prop}
    (hpublish : ∀ r t fault u, I t → (publish r).run t = .error fault u → fault = .deadlock)
    (self : ReplyServer) (hI : Ensures (endpoints w e) s (fun _ => I) (fun _ _ => True)) :
    (dispatch w publish self e).run s = (respond w self e >>= publish).run s := by
  unfold dispatch respond
  cases staticReply w e with
  | some response => rfl
  | none =>
    simp only [answerEndpoint, endpointEvent, fallback_eq, EStateM.run_bind, run_tryCatch]
    cases hrun : (endpoints w e).run s with
    | ok o t =>
      cases o with
      | none => rfl
      | some response =>
        simp only [EStateM.run_bind]
        cases hp : (publish response).run t with
        | ok _ u => simp [hp]
        | error fault u =>
          cases hpublish _ _ _ _ (hI.of_ok hrun) hp
          simp only [EStateM.run_pure, hp]
          rfl
    | error fault t =>
      cases fault with
      | deadlock => rfl
      | exception what =>
        simp only [EStateM.run_bind, ← bind_pure_comp]
        cases (reply w e 500 "Internal Server Error" (errorJson what)).run t with
        | error fault u => rfl
        | ok r u =>
          simp only [EStateM.run_pure]
          cases (publish r).run u <;> rfl

/-- `record` hands the event over and does not raise. -/
theorem dispatch_record (self : ReplyServer) (e : HttpRequestEvent) :
    dispatch w record self e = respond w self e >>= record := by
  refine ext_run fun s => ?_
  refine run_dispatch_eq (I := fun _ => True) (fun _ _ _ _ _ h => by cases h) self ?_
  unfold Ensures
  cases (endpoints w e).run s <;> trivial

end CCTVWebServer
