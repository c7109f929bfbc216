import CCTVWebServer.Specification.Dispatch

/-!
# Which responses come from where

A request is answered with a file of the page, by an endpoint, by the `catch`
block, or, when it falls through all of these, by a registered handler or the
404. The conditions are stated on the request and the state before it, and each
of them is shown to be exact.
-/

namespace CCTVWebServer

open Foundation

variable {w : World} {e : HttpRequestEvent} {s t : State} {self : ReplyServer}

/-! ## Routes -/

/-- The url names a file of the page, and the file has content. -/
def ServesFile (w : World) (e : HttpRequestEvent) : Prop :=
  (e.url = str "/" ∨ e.url = str "/index.html" ∨ e.url = str "/style.css" ∨
    e.url = str "/app.js") ∧ readStaticFile w e.url ≠ []

def publicRoutes : List (String × String) := [("/api/register", "POST"), ("/api/login", "POST")]

def userRoutes : List (String × String) :=
  [("/api/logout", "POST"), ("/api/user/me", "GET"), ("/api/user/update", "POST")]

def adminRoutes : List (String × String) :=
  [("/api/users", "GET"), ("/api/users/approve", "POST"), ("/api/users/evict", "POST"),
    ("/api/rtsp", "GET"), ("/api/rtsp", "POST"), ("/api/rtsp/stop", "POST")]

/-- The request is one for an endpoint of the list. -/
def Matches (e : HttpRequestEvent) (routes : List (String × String)) : Prop :=
  ∃ route ∈ routes, e.url = str route.1 ∧ e.method = str route.2

/-- No endpoint and no guard in front of one is responsible for the request. -/
def Unrouted (w : World) (s : State) (e : HttpRequestEvent) : Prop :=
  ¬ Matches e publicRoutes ∧ ¬ Matches e userRoutes ∧ ¬ Matches e adminRoutes ∧
    (StartsWith e.url (str "/api/") → callerId s e ≠ []) ∧
    ∃ user, CallerIs w s e user ∧
      (StartsWith e.url (str "/api/users") ∨ StartsWith e.url (str "/api/rtsp") →
        user.role = str "admin")

/-- The request is left to the registered handlers. -/
def FallsThrough (w : World) (s : State) (e : HttpRequestEvent) : Prop :=
  ¬ ServesFile w e ∧ Unrouted w s e

/-- The message of the parser about the body is no JSON text: it quotes bytes that are
not well-formed UTF-8. -/
def Unreportable (w : World) (s : State) (e : HttpRequestEvent) : Prop :=
  ReadsBody w s e ∧ ∃ err, w.json.parse e.body = .error err ∧ ¬ Utf8.valid err.lastRead

theorem staticReply_eq_none : staticReply w e = none ↔ ¬ ServesFile w e := by
  unfold staticReply ServesFile
  split_ifs with hurl hcontent <;> simp_all

theorem not_servesFile_of_api (h : StartsWith e.url (str "/api/")) : ¬ ServesFile w e := by
  rintro ⟨hurl, -⟩
  rcases hurl with hurl | hurl | hurl | hurl <;> rw [hurl] at h <;> exact absurd h (by decide)

theorem staticReply_connId {r : HttpResponseEvent} (h : staticReply w e = some r) :
    r.connId = e.connId ∧ r.statusCode = 200 := by
  unfold staticReply at h
  dsimp only at h
  split_ifs at h <;> cases h <;> exact ⟨rfl, rfl⟩

theorem post_startsWith {url : String} (h : Post e url)
    (hurl : StartsWith (str url) (str "/api/")) : StartsWith e.url (str "/api/") := by
  rw [h.1]
  exact hurl

theorem AccountPost.startsWith (h : AccountPost e) : StartsWith e.url (str "/api/") := by
  rcases h with h | h | h | h | h | h <;> exact post_startsWith h (by decide)

theorem ReadsBody.startsWith (h : ReadsBody w s e) : StartsWith e.url (str "/api/") := by
  rcases h with h | h | ⟨-, user, -, h | ⟨-, h | h | h⟩⟩ <;> exact post_startsWith h (by decide)

/-! ## The endpoints leave a request alone -/

theorem ensures_some_ne_none {α : Type} (m : Server α) (s : State) (P : Prop) :
    Ensures m s (fun a _ => some a = none → P) (fun _ _ => True) := by
  unfold Ensures
  cases m.run s <;> simp

theorem adminEndpoints_none (t : State) :
    Ensures (adminEndpoints w e) t (fun o _ => o = none → ¬ Matches e adminRoutes)
      (fun _ _ => True) := by
  simp only [adminEndpoints, ensures_ite, ensures_map, ensures_pure]
  refine ⟨fun _ => ensures_some_ne_none _ _ _, fun h1 => ?_⟩
  refine ⟨fun _ => ensures_some_ne_none _ _ _, fun h2 => ?_⟩
  refine ⟨fun _ => ensures_some_ne_none _ _ _, fun h3 => ?_⟩
  refine ⟨fun _ => ensures_some_ne_none _ _ _, fun h4 => ?_⟩
  refine ⟨fun _ => ensures_some_ne_none _ _ _, fun h5 => ?_⟩
  refine ⟨fun _ => ensures_some_ne_none _ _ _, fun h6 _ => ?_⟩
  simpa only [Matches, adminRoutes, List.exists_mem_cons_iff, List.not_mem_nil, false_and,
    exists_false, or_false, not_or] using ⟨h1, h2, h3, h4, h5, h6⟩

theorem userEndpoints_none {callerUser : UserRecord} (t : State) :
    Ensures (userEndpoints w e (callerId s e) callerUser) t
      (fun o _ => o = none → ¬ Matches e userRoutes ∧ ¬ Matches e adminRoutes ∧
        (StartsWith e.url (str "/api/users") ∨ StartsWith e.url (str "/api/rtsp") →
          callerUser.role = str "admin"))
      (fun _ _ => True) := by
  simp only [userEndpoints, ensures_ite, ensures_map]
  refine ⟨fun _ => ensures_some_ne_none _ _ _, fun h1 => ?_⟩
  refine ⟨fun _ => ensures_some_ne_none _ _ _, fun h2 => ?_⟩
  refine ⟨fun _ => ensures_some_ne_none _ _ _, fun h3 => ?_⟩
  refine ⟨fun _ => ensures_some_ne_none _ _ _, fun hguard => ?_⟩
  refine (adminEndpoints_none t).mono (fun o u h ho => ⟨?_, h ho, fun hguarded => ?_⟩)
    fun _ _ => id
  · simpa only [Matches, userRoutes, List.exists_mem_cons_iff, List.not_mem_nil, false_and,
      exists_false, or_false, not_or] using ⟨h1, h2, h3⟩
  · by_contra hrole
    exact hguard ⟨hrole, hguarded⟩

theorem endpoints_none (s : State) :
    Ensures (endpoints w e) s (fun o _ => o = none → Unrouted w s e) (fun _ _ => True) := by
  simp only [endpoints, ensures_ite, ensures_map]
  refine ⟨fun _ => ensures_some_ne_none _ _ _, fun hregister => ?_⟩
  refine ⟨fun _ => ensures_some_ne_none _ _ _, fun hlogin => ?_⟩
  simp only [ensures_bind, ensures_get, ensures_ite, ensures_map]
  refine ⟨fun _ => ensures_some_ne_none _ _ _, fun hcaller => ?_⟩
  refine (getUser_spec _ UserRecord.declared s).with_run.mono ?_ fun _ _ _ => trivial
  rintro ⟨found, callerUser⟩ t ⟨-, hrun⟩
  refine (userEndpoints_none t).mono (fun o u h ho => ?_) fun _ _ => id
  obtain ⟨huser, hadmin, hrole⟩ := h ho
  refine ⟨?_, huser, hadmin, fun hapi hnil => hcaller ⟨hnil, hapi⟩,
    callerUser, ⟨found, t, hrun⟩, hrole⟩
  simpa only [Matches, publicRoutes, List.exists_mem_cons_iff, List.not_mem_nil, false_and,
    exists_false, or_false, not_or] using ⟨hregister, hlogin⟩

/-- Outside of the two prefixes of the guard there is no endpoint of the admin. -/
theorem adminEndpoints_of_outside (h : ¬ (StartsWith e.url (str "/api/users") ∨
    StartsWith e.url (str "/api/rtsp"))) : adminEndpoints w e = pure none := by
  have hurl (url : String) (hguarded : StartsWith (str url) (str "/api/users") ∨
      StartsWith (str url) (str "/api/rtsp")) : e.url ≠ str url := by
    intro heq
    rw [heq] at h
    exact h hguarded
  have husers := hurl "/api/users" (.inl (by decide))
  have happrove := hurl "/api/users/approve" (.inl (by decide))
  have hevict := hurl "/api/users/evict" (.inl (by decide))
  have hrtsp := hurl "/api/rtsp" (.inr (by decide))
  have hstop := hurl "/api/rtsp/stop" (.inr (by decide))
  simp only [adminEndpoints, husers, happrove, hevict, hrtsp, hstop, false_and, if_false]

/-- Outside of `/api/` no endpoint is responsible. -/
theorem userEndpoints_of_outside (hapi : ¬ StartsWith e.url (str "/api/")) (callerId : Bytes)
    (callerUser : UserRecord) : userEndpoints w e callerId callerUser = pure none := by
  have hguarded : ¬ (StartsWith e.url (str "/api/users") ∨ StartsWith e.url (str "/api/rtsp")) :=
    fun hstart => hapi (startsWith_api hstart)
  have hurl (url : String) (hstarts : StartsWith (str url) (str "/api/")) : e.url ≠ str url := by
    intro heq
    rw [heq] at hapi
    exact hapi hstarts
  have hlogout := hurl "/api/logout" (by decide)
  have hme := hurl "/api/user/me" (by decide)
  have hupdate := hurl "/api/user/update" (by decide)
  simp only [userEndpoints, hlogout, hme, hupdate, hguarded, false_and, and_false, if_false,
    adminEndpoints_of_outside hguarded]

/-- Past the public endpoints and the session check. -/
theorem run_endpoints_of_caller {found : Bool} {user : UserRecord}
    (hpublic : ¬ Matches e publicRoutes)
    (hcaller : StartsWith e.url (str "/api/") → callerId s e ≠ [])
    (hrun : (getUser w (callerId s e) UserRecord.declared).run s = .ok (found, user) t) :
    (endpoints w e).run s = (userEndpoints w e (callerId s e) user).run t := by
  simp only [Matches, publicRoutes, List.exists_mem_cons_iff, List.not_mem_nil, false_and,
    exists_false, or_false, not_or] at hpublic
  have hguard : ¬ (callerId s e = [] ∧ StartsWith e.url (str "/api/")) :=
    fun h => hcaller h.2 h.1
  simp only [endpoints, hpublic, if_false, EStateM.run_bind, EStateM.run_get, hguard, hrun]

theorem Unrouted.run_endpoints (h : Unrouted w s e) :
    ∃ t, (endpoints w e).run s = .ok none t := by
  obtain ⟨hpublic, huser, hadmin, hapi, user, ⟨found, t, hrun⟩, hrole⟩ := h
  simp only [Matches, userRoutes, adminRoutes, List.exists_mem_cons_iff, List.not_mem_nil,
    false_and, exists_false, or_false, not_or] at huser hadmin
  have hguard : ¬ (user.role ≠ str "admin" ∧
      (StartsWith e.url (str "/api/users") ∨ StartsWith e.url (str "/api/rtsp"))) :=
    fun h => h.1 (hrole h.2)
  refine ⟨t, ?_⟩
  rw [run_endpoints_of_caller hpublic hapi hrun]
  simp only [userEndpoints, adminEndpoints, huser, hadmin, hguard, if_false, EStateM.run_pure]

/-! ## The response -/

/-- What the handler registered for the url gives for the request. -/
def HandlerGives (self : ReplyServer) (e : HttpRequestEvent)
    (result : Except Bytes HttpResponseEvent) : Prop :=
  ∃ handler, self.handlers.lookup e.url = some handler ∧ handler e = result

/-- The request is dispatched with an exception that nothing catches. -/
def Escapes (w : World) (self : ReplyServer) (s : State) (e : HttpRequestEvent) : Prop :=
  Unreportable w s e ∨ FallsThrough w s e ∧ ∃ what, HandlerGives self e (.error what)

theorem wellEncoded_errorJson (what : Bytes) : (errorJson what).wellEncoded = Utf8.valid what := by
  have hkey : Utf8.valid (str "error") = true := by decide
  simp [errorJson, Json.wellEncoded, Json.fieldsWellEncoded, hkey]

theorem run_reply_of_valid (hjson : w.json.Documented) {what : Bytes} (h : Utf8.valid what)
    (t : State) :
    ∃ body, (reply w e 500 "Internal Server Error" (errorJson what)).run t =
      .ok ⟨e.connId, 500, body⟩ t := by
  obtain ⟨text, htext⟩ := hjson.dump_ok _ ((wellEncoded_errorJson what).trans h)
  refine ⟨makeHttpResponse 500 "Internal Server Error" (str "application/json") text, ?_⟩
  simp only [reply, dump, htext]
  rfl

theorem run_reply_of_invalid (hjson : w.json.Documented) {what : Bytes} (h : ¬ Utf8.valid what)
    (t : State) :
    ∃ text, (reply w e 500 "Internal Server Error" (errorJson what)).run t =
      .error (.exception text) t := by
  obtain ⟨text, htext, -⟩ := hjson.dump_raises (errorJson what) (by rwa [wellEncoded_errorJson])
  refine ⟨text, ?_⟩
  simp only [reply, dump, htext]
  rfl

theorem endpointEvent_spec (hjson : w.json.Documented) (e : HttpRequestEvent) (s : State) :
    Ensures (endpointEvent w e) s
      (fun o t => Answered w s e o t ∧ (o = none → Unrouted w s e))
      (fun fault t => (∃ eff, Does w s eff t ∧
          ∀ r : HttpResponseEvent, r.statusCode = 500 → Answer w s e eff r) ∧
        (∃ what, fault = .exception what) ∧ Unreportable w s e) := by
  unfold endpointEvent
  rw [ensures_tryCatch]
  refine ((endpoints_spec hjson e s).and (endpoints_none s)).mono (fun _ _ => id) ?_
  rintro _ t ⟨⟨⟨eff, ht, hanswer⟩, what, rfl, hwhat⟩, -⟩
  by_cases hvalid : Utf8.valid what = true
  · obtain ⟨body, hrun⟩ := run_reply_of_valid (e := e) hjson hvalid t
    exact (ensures_map _ _ _ _ _).mpr
      (ensures_of_ok hrun ⟨⟨eff, ht, hanswer _ rfl, rfl⟩, by simp⟩)
  · obtain ⟨text, hrun⟩ := run_reply_of_invalid (e := e) hjson hvalid t
    refine (ensures_map _ _ _ _ _).mpr ?_
    unfold Ensures
    rw [hrun]
    refine ⟨⟨eff, ht, hanswer⟩, ⟨text, rfl⟩, ?_⟩
    rcases hwhat with hascii | ⟨hreads, err, herr, rfl⟩
    · exact absurd (Utf8.valid_of_ascii hascii) hvalid
    · exact ⟨hreads, err, herr, by rwa [hjson.valid_what herr] at hvalid⟩

theorem fallbackEvent_spec (hjson : w.json.Documented) (self : ReplyServer) (e : HttpRequestEvent)
    (t : State) :
    Ensures (fallbackEvent w self e) t
      (fun r u => u = t ∧ (r.connId = e.connId ∨ HandlerGives self e (.ok r)))
      (fun fault u => u = t ∧ ∃ what, fault = .exception what ∧
        HandlerGives self e (.error what)) := by
  unfold fallbackEvent
  cases hlookup : self.handlers.lookup e.url with
  | none =>
    exact reply_run hjson (by decide) fun _ _ => ⟨rfl, .inl rfl⟩
  | some handler =>
    dsimp only
    cases hresult : handler e with
    | ok r => exact ⟨rfl, .inr ⟨handler, hlookup, hresult⟩⟩
    | error what => exact ⟨rfl, what, rfl, handler, hlookup, hresult⟩

/-- The contract of `dispatch` up to its publication. -/
theorem respond_spec (hjson : w.json.Documented) (self : ReplyServer) (e : HttpRequestEvent)
    (s : State) :
    Ensures (respond w self e) s
      (fun r t => (∃ eff, Does w s eff t ∧ Answer w s e eff r) ∧
        (r.connId = e.connId ∨ FallsThrough w s e ∧ HandlerGives self e (.ok r)))
      (fun fault t => (∃ eff, Does w s eff t ∧
          ∀ r : HttpResponseEvent, r.statusCode = 500 → Answer w s e eff r) ∧
        (∃ what, fault = .exception what) ∧ Escapes w self s e) := by
  unfold respond
  cases hstatic : staticReply w e with
  | some r =>
    have hfile : ServesFile w e := by
      by_contra h
      rw [staticReply_eq_none.mpr h] at hstatic
      cases hstatic
    refine ⟨⟨.quiet, (Idle.refl s).does, .quiet fun hpost => ?_⟩,
      .inl (staticReply_connId hstatic).1⟩
    exact absurd hfile (not_servesFile_of_api hpost.startsWith)
  | none =>
    have hfile := staticReply_eq_none.mp hstatic
    refine (endpointEvent_spec hjson e s).bind ?_ fun _ _ h => ⟨h.1, h.2.1, .inl h.2.2⟩
    rintro (_ | r) t ⟨hanswered, hnone⟩
    · obtain ⟨ht, hpost⟩ := hanswered
      have hthrough : FallsThrough w s e := ⟨hfile, hnone rfl⟩
      refine (fallbackEvent_spec hjson self e t).mono ?_ ?_
      · rintro r _ ⟨rfl, hr⟩
        exact ⟨⟨.quiet, ht, .quiet fun h => absurd h hpost⟩,
          hr.imp_right fun h => ⟨hthrough, h⟩⟩
      · rintro _ _ ⟨rfl, what, rfl, h⟩
        exact ⟨⟨.quiet, ht, fun _ _ => .quiet fun h => absurd h hpost⟩, ⟨what, rfl⟩,
          .inr ⟨hthrough, what, h⟩⟩
    · obtain ⟨eff, ht, hanswer, hconn⟩ := hanswered
      exact ⟨⟨eff, ht, hanswer⟩, .inl hconn⟩

/-! ## Without a session -/

/-- What a request with no session is answered with 200 for, apart from a login. -/
inductive OpenAnswer (w : World) (self : ReplyServer) (e : HttpRequestEvent)
    (r : HttpResponseEvent) : Prop where
  | registration (post : Post e "/api/register")
  | file (h : staticReply w e = some r)
  | handler (hapi : ¬ StartsWith e.url (str "/api/")) (h : HandlerGives self e (.ok r))

/-- The event of an endpoint that does not ask for a session, or no success. -/
def OpenEndpoint (e : HttpRequestEvent) (o : Option HttpResponseEvent) : Prop :=
  ∀ r, o = some r → r.statusCode = 200 → Post e "/api/register" ∨ Post e "/api/login"

theorem openEndpoint_of_status {r : HttpResponseEvent} (h : r.statusCode ≠ 200) :
    OpenEndpoint e (some r) := by
  intro r' hr hok
  obtain rfl := Option.some.inj hr
  exact absurd hok h

theorem openEndpoint_of_post (h : Post e "/api/register" ∨ Post e "/api/login")
    (m : Server HttpResponseEvent) :
    Ensures m s (fun r _ => OpenEndpoint e (some r)) (fun _ _ => True) := by
  unfold Ensures
  cases m.run s with
  | ok => exact fun _ _ _ => h
  | error => trivial

/-- Without a session the other endpoints refuse. -/
theorem endpoints_open (hjson : w.json.Documented) (hcaller : callerId s e = []) :
    Ensures (endpoints w e) s (fun o _ => OpenEndpoint e o) (fun _ _ => True) := by
  simp only [endpoints, ensures_ite, ensures_map]
  refine ⟨fun h => openEndpoint_of_post (.inl h) _, fun _ => ?_⟩
  refine ⟨fun h => openEndpoint_of_post (.inr h) _, fun _ => ?_⟩
  simp only [ensures_bind, ensures_get, ensures_ite, ensures_map]
  refine ⟨fun _ => ?_, fun hguard => ?_⟩
  · refine (reply_spec hjson).mono ?_ fun _ _ _ => trivial
    rintro r _ ⟨-, hstatus, -⟩
    exact openEndpoint_of_status (by omega)
  · have hapi : ¬ StartsWith e.url (str "/api/") := fun h => hguard ⟨hcaller, h⟩
    refine (getUser_spec _ UserRecord.declared s).mono ?_ fun _ _ _ => trivial
    rintro ⟨-, callerUser⟩ t -
    dsimp only
    rw [userEndpoints_of_outside hapi, ensures_pure]
    intro r hnone
    cases hnone

theorem endpointEvent_open (hjson : w.json.Documented) (hcaller : callerId s e = []) :
    Ensures (endpointEvent w e) s (fun o _ => OpenEndpoint e o) (fun _ _ => True) := by
  unfold endpointEvent
  rw [ensures_tryCatch]
  refine (endpoints_open hjson hcaller).mono (fun _ _ => id) fun fault t _ => ?_
  cases fault with
  | deadlock => trivial
  | exception what =>
    refine (ensures_map _ _ _ _ _).mpr ((reply_spec hjson).mono ?_ fun _ _ _ => trivial)
    rintro r _ ⟨-, hstatus, -⟩
    exact openEndpoint_of_status (by omega)

theorem fallbackEvent_open (hjson : w.json.Documented) (self : ReplyServer) (e : HttpRequestEvent)
    (t : State) :
    Ensures (fallbackEvent w self e) t
      (fun r _ => r.statusCode = 200 → HandlerGives self e (.ok r)) (fun _ _ => True) := by
  unfold fallbackEvent
  cases hlookup : self.handlers.lookup e.url with
  | none =>
    refine (reply_spec hjson).mono ?_ fun _ _ _ => trivial
    rintro r _ ⟨-, hstatus, -⟩ hok
    omega
  | some handler =>
    dsimp only
    cases hresult : handler e with
    | ok r => exact fun _ => ⟨handler, hlookup, hresult⟩
    | error what => trivial

/-- Of a request without a session, only what is open to everybody is answered with 200. -/
theorem respond_open (hjson : w.json.Documented) (hcaller : callerId s e = [])
    (self : ReplyServer) :
    Ensures (respond w self e) s
      (fun r _ => r.statusCode = 200 → Post e "/api/login" ∨ OpenAnswer w self e r)
      (fun _ _ => True) := by
  unfold respond
  cases hstatic : staticReply w e with
  | some r => exact fun _ => .inr (.file hstatic)
  | none =>
    refine ((endpointEvent_spec hjson e s).and (endpointEvent_open hjson hcaller)).bind ?_
      fun _ _ _ => trivial
    rintro (_ | r) t ⟨⟨-, hunrouted⟩, hopen⟩
    · have hapi : ¬ StartsWith e.url (str "/api/") := fun h =>
        (hunrouted rfl).2.2.2.1 h hcaller
      exact (fallbackEvent_open hjson self e t).mono
        (fun r _ h hok => .inr (.handler hapi (h hok))) fun _ _ _ => trivial
    · intro hok
      rcases hopen r rfl hok with hregister | hlogin
      · exact .inr (.registration hregister)
      · exact .inl hlogin

theorem effect_apply_published (eff : Effect) : (eff.apply w s).published = s.published := by
  cases eff <;> rfl

theorem effect_apply_busOwner (eff : Effect) : (eff.apply w s).busOwner = s.busOwner := by
  cases eff <;> rfl

/-- What `dispatch` does: one effect and the response that goes with it, or an exception
that escapes with at most the effect that a 500 would have gone with. -/
theorem dispatch_spec (hjson : w.json.Documented) (self : ReplyServer) (e : HttpRequestEvent)
    (s : State) :
    Ensures (dispatch w record self e) s
      (fun _ t => ∃ eff r,
        (∃ n, t = { eff.apply w s with calls := n, published := s.published ++ [r] }) ∧
        Answer w s e eff r ∧
        (r.connId = e.connId ∨ FallsThrough w s e ∧ HandlerGives self e (.ok r)))
      (fun fault t => (∃ eff, Does w s eff t ∧
          ∀ r : HttpResponseEvent, r.statusCode = 500 → Answer w s e eff r) ∧
        (∃ what, fault = .exception what) ∧ Escapes w self s e) := by
  rw [dispatch_record]
  refine (respond_spec hjson self e s).bind ?_ fun _ _ => id
  rintro r _ ⟨⟨eff, ⟨n, rfl⟩, hanswer⟩, hconn⟩
  exact ⟨eff, r, ⟨n, by simp only [effect_apply_published]⟩, hanswer, hconn⟩

/-! ## The conditions are exact -/

theorem FallsThrough.run_respond (h : FallsThrough w s e) (self : ReplyServer) :
    ∃ t, (respond w self e).run s = (fallbackEvent w self e).run t := by
  obtain ⟨t, hrun⟩ := h.2.run_endpoints
  refine ⟨t, ?_⟩
  simp only [respond, staticReply_eq_none.mpr h.1, endpointEvent, EStateM.run_bind, run_tryCatch,
    hrun]

theorem HandlerGives.run_fallbackEvent {r : HttpResponseEvent} (h : HandlerGives self e (.ok r)) :
    (fallbackEvent w self e).run t = .ok r t := by
  obtain ⟨handler, hlookup, hresult⟩ := h
  simp only [fallbackEvent, hlookup, hresult]
  rfl

theorem HandlerGives.run_fallbackEvent_error {what : Bytes}
    (h : HandlerGives self e (.error what)) :
    (fallbackEvent w self e).run t = .error (.exception what) t := by
  obtain ⟨handler, hlookup, hresult⟩ := h
  simp only [fallbackEvent, hlookup, hresult]
  rfl

theorem run_parseBody_error {α : Type} {err : ParseError}
    (herr : w.json.parse e.body = .error err) (f : Json → Server α) (t : State) :
    (some <$> (parseBody w e.body >>= f)).run t = .error (.exception err.what) t := by
  simp only [parseBody, herr]
  rfl

theorem not_matches_publicRoutes {url : String} (h : Post e url) (hregister : url ≠ "/api/register")
    (hlogin : url ≠ "/api/login") : ¬ Matches e publicRoutes := by
  simp [Matches, publicRoutes, h.1, h.2, hregister, hlogin]

/-- A request that gets to the parser with a body it rejects raises the parser's message. -/
theorem ReadsBody.run_endpoints (h : ReadsBody w s e) {err : ParseError}
    (herr : w.json.parse e.body = .error err) :
    ∃ t, (endpoints w e).run s = .error (.exception err.what) t := by
  rcases h with h | h | ⟨hcaller, user, ⟨found, t, hrun⟩, h | ⟨hrole, h | h | h⟩⟩
  · refine ⟨s, ?_⟩
    rw [endpoints, if_pos (And.intro h.1 h.2)]
    exact run_parseBody_error herr _ s
  · refine ⟨s, ?_⟩
    rw [endpoints, if_neg (by simp [h.1]), if_pos (And.intro h.1 h.2)]
    exact run_parseBody_error herr _ s
  all_goals
    refine ⟨t, ?_⟩
    rw [run_endpoints_of_caller (not_matches_publicRoutes h (by decide) (by decide))
      (fun _ => hcaller) hrun]
  · simp only [userEndpoints, h.1, h.2, str_inj]
    exact run_parseBody_error herr _ t
  all_goals
    simp only [userEndpoints, adminEndpoints, h.1, h.2, str_inj, hrole]
    exact run_parseBody_error herr _ t

theorem Unreportable.run_respond (hjson : w.json.Documented) (self : ReplyServer)
    (h : Unreportable w s e) :
    ∃ what t, (respond w self e).run s = .error (.exception what) t := by
  obtain ⟨hreads, err, herr, hinvalid⟩ := h
  obtain ⟨t, hrun⟩ := hreads.run_endpoints herr
  rw [← hjson.valid_what herr] at hinvalid
  obtain ⟨text, hreply⟩ := run_reply_of_invalid (e := e) hjson hinvalid t
  refine ⟨text, t, ?_⟩
  simp only [respond, staticReply_eq_none.mpr (not_servesFile_of_api hreads.startsWith),
    endpointEvent, EStateM.run_bind, run_tryCatch, hrun, ← bind_pure_comp, hreply]

theorem Escapes.run_respond (hjson : w.json.Documented) (h : Escapes w self s e) :
    ∃ what t, (respond w self e).run s = .error (.exception what) t := by
  rcases h with h | ⟨hthrough, what, hgives⟩
  · exact h.run_respond hjson self
  · obtain ⟨t, hrun⟩ := hthrough.run_respond self
    exact ⟨what, t, hrun.trans hgives.run_fallbackEvent_error⟩

end CCTVWebServer
