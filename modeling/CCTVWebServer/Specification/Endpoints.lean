import CCTVWebServer.ReplyServer
import CCTVWebServer.Specification.Database

/-!
# What an endpoint can do

Everything a request can change is one `Effect`, and `Answer` says under which
conditions an endpoint has it and with which response. The contracts below say
that every endpoint ends in an answer, or in an exception that leaves at most a
change to the camera configuration behind. Properties of `dispatch` are read off
these cases; none of them looks at the code of an endpoint again.
-/

namespace CCTVWebServer

open Foundation

variable {w : World}

/-! ## Effects -/

/-- The writes of one request. -/
inductive Effect where
  | quiet
  | register (row : UserRow)
  | login (token userId : Bytes)
  | logout (token : Bytes)
  | updateProfile (userId : Bytes) (usernameEnc : SqlText) (passwordHash : Option SqlText)
  | approve (userId : Bytes)
  | evict (userId : Bytes)
  | relay (config : RtspTable) (relayer : StreamRelayer)

def Effect.apply (w : World) (s : State) : Effect → State
  | quiet => s
  | register row => { s with users := (s.users.insert row).getD s.users }
  | login token userId => { s with activeSessions := s.activeSessions.insert token userId }
  | logout token => { s with activeSessions := s.activeSessions.erase token }
  | updateProfile userId usernameEnc passwordHash =>
    { s with
      users := s.users.update (w.userKey userId)
        (UserRow.updateProfile usernameEnc passwordHash) (UserRow.userIdHash_updateProfile _ _) }
  | approve userId =>
    { s with users := s.users.update (w.userKey userId) UserRow.approve UserRow.userIdHash_approve }
  | evict userId =>
    { s with
      users := s.users.update (w.userKey userId) UserRow.evict UserRow.userIdHash_evict
      activeSessions := purgeSessions userId s.activeSessions }
  | relay config relayer => { s with rtspConfig := config, relayer := relayer }

/-- A POST to a given url. -/
def Post (e : HttpRequestEvent) (url : String) : Prop := e.url = str url ∧ e.method = str "POST"

/-- The requests that can change accounts and sessions. -/
def AccountPost (e : HttpRequestEvent) : Prop :=
  Post e "/api/register" ∨ Post e "/api/login" ∨ Post e "/api/logout" ∨
    Post e "/api/user/update" ∨ Post e "/api/users/approve" ∨ Post e "/api/users/evict"

/-- The string a handler reads from a field of the body, if the body has the shape for it. -/
def field (w : World) (e : HttpRequestEvent) (key : String) : Option Bytes :=
  match w.json.parse e.body with
  | .error _ => none
  | .ok json =>
    match w.json.value json (str key) [] with
    | .ok text => some text
    | .error _ => none

/-- The user a request is treated as, empty for none. -/
abbrev callerId (s : State) (e : HttpRequestEvent) : Bytes :=
  getUserIdFromSession s.activeSessions e.cookies

/-- The cookie resolves to a user whose row opens and has the admin role. -/
def AdminCaller (w : World) (s : State) (e : HttpRequestEvent) : Prop :=
  callerId s e ≠ [] ∧ ∃ user, Fetched w s (callerId s e) user ∧ user.role = str "admin"

/-- The record `dispatch` holds of the caller, whether or not it could be fetched. -/
def CallerIs (w : World) (s : State) (e : HttpRequestEvent) (user : UserRecord) : Prop :=
  ∃ found t, (getUser w (callerId s e) UserRecord.declared).run s = .ok (found, user) t

/-- The request gets as far as the parser. -/
def ReadsBody (w : World) (s : State) (e : HttpRequestEvent) : Prop :=
  Post e "/api/register" ∨ Post e "/api/login" ∨
    callerId s e ≠ [] ∧ ∃ user, CallerIs w s e user ∧ (Post e "/api/user/update" ∨
      user.role = str "admin" ∧ (Post e "/api/users/approve" ∨ Post e "/api/users/evict" ∨
        Post e "/api/rtsp"))

/-- The response to a login that issued a token. -/
def loginResponse (connId : Int) (body token : Bytes) : HttpResponseEvent :=
  ⟨connId, 200, makeHttpResponse 200 "OK" (str "application/json") body (sessionHeader token)⟩

/-- The effects a request can have in a state, each with the response it goes with. -/
inductive Answer (w : World) (s : State) (e : HttpRequestEvent) :
    Effect → HttpResponseEvent → Prop where
  | quiet {r : HttpResponseEvent} (refused : AccountPost e → r.statusCode ≠ 200) :
      Answer w s e .quiet r
  | register {userId username password : Bytes} {row : UserRow} {r : HttpResponseEvent}
      (post : Post e "/api/register") (hid : field w e "id" = some userId)
      (hname : field w e "username" = some username)
      (hpassword : field w e "password" = some password)
      (hne : userId ≠ [] ∧ username ≠ [] ∧ password ≠ [])
      (hrow : RegisteredRow w s.key userId username password row)
      (hfree : s.users.find (w.userKey userId) = none) (hok : r.statusCode = 200) :
      Answer w s e (.register row) r
  | login {userId password token body : Bytes} {user : UserRecord}
      (post : Post e "/api/login") (hid : field w e "id" = some userId)
      (hpassword : field w e "password" = some password) (hfetched : Fetched w s userId user)
      (hactive : user.isActive ≠ 0) (happroved : user.isApproved ≠ 0)
      (hhash : w.passwordHash password userId = user.passwordHash)
      (hbody : w.json.dump (messageJson "Success") = .ok body) (htoken : token.length = 32) :
      Answer w s e (.login token userId) (loginResponse e.connId body token)
  | logout {r : HttpResponseEvent} (post : Post e "/api/logout") (hcaller : callerId s e ≠ [])
      (hok : r.statusCode = 200) : Answer w s e (.logout (getSessionToken e.cookies)) r
  | updateProfile {username password encUsername : Bytes} {r : HttpResponseEvent}
      (post : Post e "/api/user/update") (hcaller : callerId s e ≠ [])
      (hname : field w e "username" = some username)
      (hpassword : field w e "password" = some password) (hne : username ≠ [])
      (hsealed : w.Seals s.key username encUsername) (hok : r.statusCode = 200) :
      Answer w s e (.updateProfile (callerId s e) (bindText encUsername)
        (w.newPasswordHash (callerId s e) password)) r
  | approve {userId : Bytes} {r : HttpResponseEvent} (post : Post e "/api/users/approve")
      (hadmin : AdminCaller w s e) (hid : field w e "id" = some userId)
      (hok : r.statusCode = 200) : Answer w s e (.approve userId) r
  | evict {userId : Bytes} {r : HttpResponseEvent} (post : Post e "/api/users/evict")
      (hadmin : AdminCaller w s e) (hid : field w e "id" = some userId)
      (hne : userId ≠ str "admin") (hok : r.statusCode = 200) : Answer w s e (.evict userId) r
  | relay {config : RtspTable} {relayer : StreamRelayer} {r : HttpResponseEvent}
      (hurl : e.url = str "/api/rtsp" ∨ e.url = str "/api/rtsp/stop")
      (hadmin : AdminCaller w s e) : Answer w s e (.relay config relayer) r

/-- The state after an effect and some calls to the world. -/
def Does (w : World) (s : State) (eff : Effect) (t : State) : Prop :=
  ∃ n, t = { eff.apply w s with calls := n }

/-- An endpoint returned an event, or none of them is responsible for the request. -/
def Answered (w : World) (s : State) (e : HttpRequestEvent) (o : Option HttpResponseEvent)
    (t : State) : Prop :=
  match o with
  | some r => ∃ eff, Does w s eff t ∧ Answer w s e eff r ∧ r.connId = e.connId
  | none => Does w s .quiet t ∧ ¬ AccountPost e

/-- An endpoint raised: its effect may go with a 500, and the text of the exception is
ASCII or the message of the parser about the body. -/
def Broken (w : World) (s : State) (e : HttpRequestEvent) (fault : Fault) (t : State) : Prop :=
  (∃ eff, Does w s eff t ∧ ∀ r : HttpResponseEvent, r.statusCode = 500 → Answer w s e eff r) ∧
    ∃ what, fault = .exception what ∧
      (Utf8.Ascii what ∨
        ReadsBody w s e ∧ ∃ err, w.json.parse e.body = .error err ∧ what = err.what)

/-! ## Steps of an endpoint -/

theorem Idle.does {s t : State} (h : Idle s t) : Does w s .quiet t := h

/-- An exception with an ASCII text before any write. -/
theorem broken_of_ascii {s t : State} {e : HttpRequestEvent} {what : Bytes} (ht : Idle s t)
    (hwhat : Utf8.Ascii what) : Broken w s e (.exception what) t :=
  ⟨⟨.quiet, ht, fun _ hr => .quiet fun _ => by omega⟩, what, rfl, .inl hwhat⟩

theorem broken_of_raised {s t : State} {e : HttpRequestEvent} {fault : Fault} {why : Prop}
    (ht : Idle s t) (h : Raised w why fault) : Broken w s e fault t := by
  obtain ⟨⟨what, rfl, hascii⟩, -⟩ := h
  exact broken_of_ascii ht hascii

/-- Read the body, or raise the parser's message. -/
theorem parseBody_run {e : HttpRequestEvent} {α : Type} {f : Json → Server α} {s t : State}
    (hst : Idle s t) (hreads : ReadsBody w s e) {Q : α → State → Prop}
    (h : ∀ json, w.json.parse e.body = .ok json → Ensures (f json) t Q (Broken w s e)) :
    Ensures (parseBody w e.body >>= f) t Q (Broken w s e) := by
  unfold parseBody
  cases hp : w.json.parse e.body with
  | ok json => exact h json hp
  | error err =>
    exact ⟨⟨.quiet, hst, fun _ hr => .quiet fun _ => by omega⟩,
      err.what, rfl, .inr ⟨hreads, err, hp, rfl⟩⟩

/-- Read a field of the body. -/
theorem value_run (hjson : w.json.Documented) {e : HttpRequestEvent} {json : Json}
    (hp : w.json.parse e.body = .ok json) {key : String} {α : Type} {f : Bytes → Server α}
    {s t : State} (hst : Idle s t) {Q : α → State → Prop}
    (h : ∀ text, field w e key = some text → Ensures (f text) t Q (Broken w s e)) :
    Ensures (value w json key >>= f) t Q (Broken w s e) := by
  unfold value
  cases hv : w.json.value json (str key) [] with
  | ok text => exact h text (by simp [field, hp, hv])
  | error what => exact broken_of_ascii hst (hjson.value_error hv)

/-- A response whose JSON is well encoded is always built. -/
theorem reply_run (hjson : w.json.Documented) {e : HttpRequestEvent} {statusCode : Int}
    {statusText : String} {json : Json} {extraHeaders : Bytes} {s : State}
    {Q : HttpResponseEvent → State → Prop} {E : Fault → State → Prop} (hwell : json.wellEncoded)
    (h : ∀ body, w.json.dump json = .ok body → Q ⟨e.connId, statusCode,
      makeHttpResponse statusCode statusText (str "application/json") body extraHeaders⟩ s) :
    Ensures (reply w e statusCode statusText json extraHeaders) s Q E := by
  obtain ⟨text, ht⟩ := hjson.dump_ok json hwell
  simp only [reply, dump, ht]
  exact h text ht

/-- A response about stored strings may fail to be built. -/
theorem reply_spec (hjson : w.json.Documented) {e : HttpRequestEvent} {statusCode : Int}
    {statusText : String} {json : Json} {extraHeaders : Bytes} {s : State} :
    Ensures (reply w e statusCode statusText json extraHeaders) s
      (fun r t => t = s ∧ r.statusCode = statusCode ∧ r.connId = e.connId)
      (fun fault t => t = s ∧ ∃ what, fault = .exception what ∧ Utf8.Ascii what) := by
  unfold reply dump
  cases hd : w.json.dump json with
  | ok text => exact ⟨rfl, rfl, rfl⟩
  | error what => exact ⟨rfl, what, rfl, hjson.dump_error hd⟩

/-- A refusal: no effect, and a status other than 200. -/
theorem refuse (hjson : w.json.Documented) {e : HttpRequestEvent} {statusCode : Int}
    {statusText : String} {json : Json} {s t : State} {E : Fault → State → Prop}
    (hstatus : statusCode ≠ 200) (hwell : json.wellEncoded) (hst : Idle s t) :
    Ensures (reply w e statusCode statusText json) t
      (fun r u => Answered w s e (some r) u) E :=
  reply_run hjson hwell fun _ _ => ⟨.quiet, hst, .quiet fun _ => hstatus, rfl⟩

/-! ## The endpoints -/

theorem register_spec (hjson : w.json.Documented) {e : HttpRequestEvent}
    (post : Post e "/api/register") (s : State) :
    Ensures (register w e) s (fun r t => Answered w s e (some r) t) (Broken w s e) := by
  refine parseBody_run (Idle.refl s) (.inl post) fun json hp => ?_
  refine value_run hjson hp (Idle.refl s) fun userId hid => ?_
  refine value_run hjson hp (Idle.refl s) fun username hname => ?_
  refine value_run hjson hp (Idle.refl s) fun password hpassword => ?_
  rw [ensures_ite]
  refine ⟨fun _ => refuse hjson (by decide) (by decide) (Idle.refl s), fun hne => ?_⟩
  refine (registerUser_spec userId username password s).bind ?_
    fun _ _ h => broken_of_raised h.1 h.2
  rintro done t (⟨rfl, row, hrow, users, n, hins, rfl⟩ | ⟨rfl, ht, -⟩)
  · refine reply_run hjson (by decide) fun _ _ => ⟨.register row, ⟨n, ?_⟩, ?_, rfl⟩
    · simp [Effect.apply, hins]
    · refine .register post hid hname hpassword ⟨?_, ?_, ?_⟩ hrow ?_ rfl
      · exact fun h => hne (.inl h)
      · exact fun h => hne (.inr (.inl h))
      · exact fun h => hne (.inr (.inr h))
      · rw [← hrow.userIdHash]
        exact Table.find_of_insert hins
  · exact refuse hjson (by decide) (by decide) ht

theorem generateSessionToken_returns :
    Returns (generateSessionToken w) (fun token => token.length = 32) := by
  intro n
  simp [generateSessionToken]

theorem login_spec (hjson : w.json.Documented) {e : HttpRequestEvent}
    (post : Post e "/api/login") (s : State) :
    Ensures (login w e) s (fun r t => Answered w s e (some r) t) (Broken w s e) := by
  refine parseBody_run (Idle.refl s) (.inr (.inl post)) fun json hp => ?_
  refine value_run hjson hp (Idle.refl s) fun userId hid => ?_
  refine value_run hjson hp (Idle.refl s) fun password hpassword => ?_
  refine (getUser_spec userId UserRecord.declared s).bind ?_ fun _ _ h => broken_of_raised h.1 h.2
  rintro ⟨found, user⟩ t ⟨ht, hfound⟩
  simp only [ensures_ite]
  refine ⟨fun _ => refuse hjson (by decide) (by decide) ht, fun hactive => ?_⟩
  refine ⟨fun _ => refuse hjson (by decide) (by decide) ht, fun happroved => ?_⟩
  have hfetched : Fetched w s userId user := by
    rcases hfound with ⟨-, h⟩ | ⟨h, -⟩
    · exact h
    · exact absurd (.inl h) hactive
  refine (hashPasswordPBKDF2_yields _ _).run (fun _ _ h hr => broken_of_raised (ht.trans h) hr) ?_
  rintro _ u hu rfl
  rw [ensures_ite]
  refine ⟨fun _ => refuse hjson (by decide) (by decide) (ht.trans hu), fun hhash => ?_⟩
  refine generateSessionToken_returns.run fun token v hv htoken => ?_
  obtain ⟨n, rfl⟩ := (ht.trans hu).trans hv
  rw [ensures_bind, ensures_modify]
  refine reply_run hjson (by decide) fun body hbody => ⟨.login token userId, ⟨n, rfl⟩, ?_, rfl⟩
  exact .login post hid hpassword hfetched (fun h => hactive (.inr h)) happroved
    (not_not.mp hhash) hbody htoken

theorem getSessionToken_ne_nil {s : State} {e : HttpRequestEvent} (h : callerId s e ≠ []) :
    getSessionToken e.cookies ≠ [] := by
  intro hnil
  exact h (by simp [getUserIdFromSession, hnil])

theorem logout_spec (hjson : w.json.Documented) {e : HttpRequestEvent} (post : Post e "/api/logout")
    {s t : State} (hst : Idle s t) (hcaller : callerId s e ≠ []) :
    Ensures (logout w e) t (fun r u => Answered w s e (some r) u) (Broken w s e) := by
  simp only [logout, if_pos (getSessionToken_ne_nil hcaller)]
  rw [ensures_bind, ensures_modify]
  obtain ⟨n, rfl⟩ := hst
  exact reply_run hjson (by decide) fun _ _ =>
    ⟨.logout (getSessionToken e.cookies), ⟨n, rfl⟩, .logout post hcaller rfl, rfl⟩

theorem me_spec (hjson : w.json.Documented) {e : HttpRequestEvent} (hpost : ¬ AccountPost e)
    {callerUser : UserRecord} {s t : State} (hst : Idle s t) :
    Ensures (me w e callerUser) t (fun r u => Answered w s e (some r) u) (Broken w s e) := by
  refine (reply_spec hjson).mono ?_ ?_
  · rintro r _ ⟨rfl, -, hconn⟩
    exact ⟨.quiet, hst, .quiet fun h => absurd h hpost, hconn⟩
  · rintro _ _ ⟨rfl, what, rfl, hascii⟩
    exact broken_of_ascii hst hascii

theorem updateProfile_spec (hjson : w.json.Documented) {e : HttpRequestEvent}
    (post : Post e "/api/user/update") {s t : State} (hst : Idle s t) (hcaller : callerId s e ≠ [])
    (hreads : ReadsBody w s e) :
    Ensures (updateProfile w e (callerId s e)) t (fun r u => Answered w s e (some r) u)
      (Broken w s e) := by
  refine parseBody_run hst hreads fun json hp => ?_
  refine value_run hjson hp hst fun username hname => ?_
  refine value_run hjson hp hst fun password hpassword => ?_
  rw [ensures_ite]
  refine ⟨fun _ => refuse hjson (by decide) (by decide) hst, fun hne => ?_⟩
  refine (updateUserProfile_spec _ _ _ t).bind ?_
    fun _ _ h => broken_of_raised (hst.trans h.1) h.2
  rintro done u (⟨rfl, encUsername, hsealed, hupd⟩ | ⟨rfl, hu, -⟩)
  · obtain ⟨n, rfl⟩ := hupd.of_idle hst
    rw [hst.key] at hsealed
    exact reply_run hjson (by decide) fun _ _ => ⟨_, ⟨n, rfl⟩,
      .updateProfile post hcaller hname hpassword hne hsealed rfl, rfl⟩
  · exact refuse hjson (by decide) (by decide) (hst.trans hu)

section Admin

variable {e : HttpRequestEvent} {s t : State}

theorem listUsers_spec (hjson : w.json.Documented) (hpost : ¬ AccountPost e) (hst : Idle s t) :
    Ensures (listUsers w e) t (fun r u => Answered w s e (some r) u) (Broken w s e) := by
  refine (getAllUsers_spec t).bind ?_ fun _ _ => False.elim
  rintro users u ⟨hu, -⟩
  refine (reply_spec hjson).mono ?_ ?_
  · rintro r _ ⟨rfl, -, hconn⟩
    exact ⟨.quiet, hst.trans hu, .quiet fun h => absurd h hpost, hconn⟩
  · rintro _ _ ⟨rfl, what, rfl, hascii⟩
    exact broken_of_ascii (hst.trans hu) hascii

theorem approve_spec (hjson : w.json.Documented) (post : Post e "/api/users/approve")
    (hst : Idle s t) (hadmin : AdminCaller w s e) (hreads : ReadsBody w s e) :
    Ensures (approve w e) t (fun r u => Answered w s e (some r) u) (Broken w s e) := by
  refine parseBody_run hst hreads fun json hp => ?_
  refine value_run hjson hp hst fun targetId hid => ?_
  refine (setFlag_spec targetId _ UserRow.userIdHash_approve t).bind ?_
    fun _ _ h => broken_of_raised (hst.trans h.1) h.2
  rintro done u (⟨rfl, hupd⟩ | ⟨rfl, hu, -⟩)
  · obtain ⟨n, rfl⟩ := hupd.of_idle hst
    exact reply_run hjson (by decide) fun _ _ =>
      ⟨.approve targetId, ⟨n, rfl⟩, .approve post hadmin hid rfl, rfl⟩
  · exact refuse hjson (by decide) (by decide) (hst.trans hu)

theorem evict_spec (hjson : w.json.Documented) (post : Post e "/api/users/evict")
    (hst : Idle s t) (hadmin : AdminCaller w s e) (hreads : ReadsBody w s e) :
    Ensures (evict w e) t (fun r u => Answered w s e (some r) u) (Broken w s e) := by
  refine parseBody_run hst hreads fun json hp => ?_
  refine value_run hjson hp hst fun targetId hid => ?_
  rw [ensures_ite]
  refine ⟨fun _ => refuse hjson (by decide) (by decide) hst, fun hne => ?_⟩
  refine (setFlag_spec targetId _ UserRow.userIdHash_evict t).bind ?_
    fun _ _ h => broken_of_raised (hst.trans h.1) h.2
  rintro done u (⟨rfl, hupd⟩ | ⟨rfl, hu, -⟩)
  · obtain ⟨n, rfl⟩ := hupd.of_idle hst
    simp only [reduceIte]
    rw [ensures_bind, ensures_modify]
    exact reply_run hjson (by decide) fun _ _ =>
      ⟨.evict targetId, ⟨n, rfl⟩, .evict post hadmin hid hne rfl, rfl⟩
  · exact refuse hjson (by decide) (by decide) (hst.trans hu)

theorem getRtsp_spec (hjson : w.json.Documented) (hpost : ¬ AccountPost e) (hst : Idle s t) :
    Ensures (getRtsp w e) t (fun r u => Answered w s e (some r) u) (Broken w s e) := by
  refine (getLatestRtspConfig_spec _ t).bind ?_ fun _ _ => False.elim
  intro result u hu
  refine (reply_spec hjson).mono ?_ ?_
  · rintro r _ ⟨rfl, -, hconn⟩
    exact ⟨.quiet, hst.trans hu, .quiet fun h => absurd h hpost, hconn⟩
  · rintro _ _ ⟨rfl, what, rfl, hascii⟩
    exact broken_of_ascii (hst.trans hu) hascii

theorem saveRtsp_spec (hjson : w.json.Documented) (hurl : e.url = str "/api/rtsp")
    (hst : Idle s t) (hadmin : AdminCaller w s e) (hreads : ReadsBody w s e) :
    Ensures (saveRtsp w e) t (fun r u => Answered w s e (some r) u) (Broken w s e) := by
  refine parseBody_run hst hreads fun json hp => ?_
  refine value_run hjson hp hst fun name _ => ?_
  refine value_run hjson hp hst fun url _ => ?_
  rw [ensures_ite]
  refine ⟨fun _ => refuse hjson (by decide) (by decide) hst, fun _ => ?_⟩
  refine (clearRtspConfigs_spec t).bind ?_ fun _ _ => False.elim
  intro _ u hu
  have hsu := hst.rtspWritten.trans hu
  refine (saveRtspConfig_spec name url u).bind ?_ ?_
  · intro saved v hv
    obtain ⟨config, n, rfl⟩ := hsu.trans hv
    rw [ensures_ite]
    refine ⟨fun _ => ?_, fun _ => ?_⟩
    · rw [ensures_bind, ensures_modify]
      exact reply_run hjson (by decide) fun _ _ =>
        ⟨.relay config (s.relayer.start url), ⟨n, rfl⟩, .relay (.inl hurl) hadmin, rfl⟩
    · exact reply_run hjson (by decide) fun _ _ =>
        ⟨.relay config s.relayer, ⟨n, rfl⟩, .relay (.inl hurl) hadmin, rfl⟩
  · -- The old configuration is gone although the request fails.
    rintro fault v ⟨hv, ⟨what, rfl, hascii⟩, -⟩
    obtain ⟨config, n, rfl⟩ := hsu.trans hv.rtspWritten
    exact ⟨⟨.relay config s.relayer, ⟨n, rfl⟩, fun _ _ => .relay (.inl hurl) hadmin⟩,
      what, rfl, .inl hascii⟩

theorem stopRtsp_spec (hjson : w.json.Documented) (hurl : e.url = str "/api/rtsp/stop")
    (hst : Idle s t) (hadmin : AdminCaller w s e) :
    Ensures (stopRtsp w e) t (fun r u => Answered w s e (some r) u) (Broken w s e) := by
  obtain ⟨n, rfl⟩ := hst
  unfold stopRtsp
  rw [ensures_bind, ensures_modify]
  exact reply_run hjson (by decide) fun _ _ =>
    ⟨.relay s.rtspConfig s.relayer.stop, ⟨n, rfl⟩, .relay (.inr hurl) hadmin, rfl⟩

end Admin

end CCTVWebServer
