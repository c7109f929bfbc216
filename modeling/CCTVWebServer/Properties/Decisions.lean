import CCTVWebServer.Reference
import CCTVWebServer.Specification.Accounts
import CCTVWebServer.Specification.Rtsp

/-!
# Approving and evicting

Both endpoints run an UPDATE and report success when the statement completes, which
it also does when no row has the key. So an admin who names an unknown account is
told that the decision was carried out. What is answered and what is changed is told
exactly, from the table and from the calls that lie ahead.
-/

namespace CCTVWebServer

open Foundation

variable {w : World} {s t : State} {x : Exchange} {e : HttpRequestEvent} {userId : Bytes}
  {change : UserRow → UserRow} {hkey : ∀ row, (change row).userIdHash = row.userIdHash}

/-! ## The statement -/

/-- The calls of `approveUser` and `evictUser`. -/
def flagCalls : List Library :=
  [Library.openssl, Library.openssl] ++ ([Library.sqlite] ++ [Library.sqlite])

/-- The UPDATE completes when all calls succeed, whether or not it finds a row. -/
theorem setFlag_uses (userId : Bytes) (change : UserRow → UserRow)
    (hkey : ∀ row, (change row).userIdHash = row.userIdHash) :
    Ensures (setFlag w userId change hkey) s
      (fun done t =>
        (AllOk w s.calls flagCalls ∧ done = true ∧ Updated (w.userKey userId) change hkey s t) ∨
        (¬ AllOk w s.calls flagCalls ∧ done = false ∧ Idle s t))
      (fun fault t => ¬ AllOk w s.calls flagCalls ∧ Idle s t ∧ AsciiException fault) := by
  simp only [flagCalls, allOk_append]
  refine (sha256_uses userId).run (fun fault t hno ht hfault => ⟨fun h => hno h.1, ht, hfault⟩) ?_
  rintro _ hhash rfl
  refine run_sqlite ?_ fun hprepare => ?_
  · exact fun hno => .inr ⟨fun h => hno h.2.1, rfl, (idle_skip _ _).trans (idle_skip _ _)⟩
  refine run_sqlite ?_ fun hstep => ?_
  · refine fun hno => .inr ⟨fun h => hno h.2.2, rfl, ?_⟩
    exact (idle_skip _ _).trans ((idle_skip _ _).trans (idle_skip _ _))
  exact .inl ⟨⟨hhash, hprepare, hstep⟩, rfl, _, rfl⟩

/-! ## The endpoints -/

/-- What becomes of a decision: `purge` is what the endpoint does to the session map. -/
def Decided (w : World) (userId : Bytes) (change : UserRow → UserRow)
    (hkey : ∀ row, (change row).userIdHash = row.userIdHash) (purge : Sessions → Sessions)
    (calls : List Library) (s : State) (status : Int) (t : State) : Prop :=
  (AllOk w s.calls calls ∧ status = 200 ∧ ∃ n, t = { s with
    users := s.users.update (w.userKey userId) change hkey
    activeSessions := purge s.activeSessions
    calls := n }) ∨
  (¬ AllOk w s.calls calls ∧ status ≠ 200 ∧ Idle s t)

theorem approve_uses (hjson : w.json.Documented) (hid : field w e "id" = some userId) :
    Ensures (approve w e) s
      (fun r t => Decided w userId UserRow.approve UserRow.userIdHash_approve id flagCalls s
        r.statusCode t)
      (fun fault t => AsciiException fault ∧ ¬ AllOk w s.calls flagCalls ∧ Idle s t) := by
  obtain ⟨json, hparse, hvalue⟩ := field_eq_some hid
  simp only [approve, parseBody, value, hparse, hvalue, pure_bind]
  refine (setFlag_uses userId _ UserRow.userIdHash_approve).bind ?_ fun _ _ h => ⟨h.2.2, h.1, h.2.1⟩
  rintro done t (⟨hok, rfl, n, rfl⟩ | ⟨hno, rfl, ht⟩)
  · exact reply_run hjson (by decide) fun _ _ => .inl ⟨hok, rfl, n, rfl⟩
  · exact reply_run hjson (by decide) fun _ _ => .inr ⟨hno, (by decide : (500 : Int) ≠ 200), ht⟩

theorem evict_uses (hjson : w.json.Documented) (hid : field w e "id" = some userId)
    (hne : userId ≠ str "admin") :
    Ensures (evict w e) s
      (fun r t => Decided w userId UserRow.evict UserRow.userIdHash_evict (purgeSessions userId)
        flagCalls s r.statusCode t)
      (fun fault t => AsciiException fault ∧ ¬ AllOk w s.calls flagCalls ∧ Idle s t) := by
  obtain ⟨json, hparse, hvalue⟩ := field_eq_some hid
  simp only [evict, parseBody, value, hparse, hvalue, pure_bind]
  rw [if_neg hne]
  refine (setFlag_uses userId _ UserRow.userIdHash_evict).bind ?_ fun _ _ h => ⟨h.2.2, h.1, h.2.1⟩
  rintro done t (⟨hok, rfl, n, rfl⟩ | ⟨hno, rfl, ht⟩)
  · simp only [reduceIte]
    rw [ensures_bind, ensures_modify]
    exact reply_run hjson (by decide) fun _ _ => .inl ⟨hok, rfl, n, rfl⟩
  · exact reply_run hjson (by decide) fun _ _ => .inr ⟨hno, (by decide : (500 : Int) ≠ 200), ht⟩

/-! ## Requests -/

/-- The request is the decision of an admin about an account. -/
structure Decision (w : World) (s : State) (e : HttpRequestEvent) (url : String)
    (userId : Bytes) : Prop where
  post : Post e url
  admin : AdminCaller w s e
  idField : field w e "id" = some userId

/-- Behind the lookup of the caller there is the admin guard, and then the endpoint. -/
theorem endpoints_of_decision {url : String} {m : Server HttpResponseEvent}
    (hpost : Post e url) (hm : adminEndpoints w e = some <$> m)
    (hurl : url = "/api/users/approve" ∨ url = "/api/users/evict") :
    endpoints w e = (do
      let callerId := getUserIdFromSession (← get).activeSessions e.cookies
      if callerId = [] then
        some <$> reply w e 401 "Unauthorized" (errorJson (str "Unauthorized"))
      else
        let (_, callerUser) ← getUser w callerId UserRecord.declared
        if callerUser.role ≠ str "admin" then
          some <$> reply w e 403 "Forbidden" (errorJson (str "Forbidden"))
        else some <$> m) := by
  have hapi : StartsWith (str "/api/users/approve") (str "/api/") := by decide
  have hapi' : StartsWith (str "/api/users/evict") (str "/api/") := by decide
  have hguard : StartsWith (str "/api/users/approve") (str "/api/users") := by decide
  have hguard' : StartsWith (str "/api/users/evict") (str "/api/users") := by decide
  rcases hurl with rfl | rfl
  · simp [endpoints, userEndpoints, hm, hpost.1, hapi, hguard]
  · simp [endpoints, userEndpoints, hm, hpost.1, hapi', hguard']

theorem Decision.respond (hjson : w.json.Documented) {url : String} (h : Decision w s e url userId)
    (hurl : url = "/api/users/approve" ∨ url = "/api/users/evict") {purge : Sessions → Sessions}
    {m : Server HttpResponseEvent} (hm : adminEndpoints w e = some <$> m)
    (hspec : ∀ s, Ensures m s
      (fun r t => Decided w userId change hkey purge flagCalls s r.statusCode t)
      (fun fault t => AsciiException fault ∧ ¬ AllOk w s.calls flagCalls ∧ Idle s t))
    (self : ReplyServer) :
    Ensures (respond w self e) s
      (fun r t => Decided w userId change hkey purge (lookupCalls ++ flagCalls) s r.statusCode t)
      (fun _ _ => False) := by
  obtain ⟨hcaller, user, hfetched, hrole⟩ := h.admin
  have hapi : StartsWith e.url (str "/api/") := by
    rcases hurl with rfl | rfl
    · exact post_startsWith h.post (by decide)
    · exact post_startsWith h.post (by decide)
  have h500 (r : HttpResponseEvent) (hr : r.statusCode = 500) : r.statusCode ≠ 200 := by omega
  refine ensures_respond_of hapi hjson ?_ self
  rw [endpoints_of_decision h.post hm hurl, ensures_bind, ensures_get, if_neg hcaller]
  refine (getUser_uses hfetched UserRecord.declared).bind ?_ ?_
  · rintro ⟨found, callerUser⟩ t (⟨hok, heq, rfl⟩ | ⟨hno, ht, hdeclared⟩)
    · obtain ⟨rfl, rfl⟩ := Prod.mk.inj heq
      simp only [hrole, ne_eq, not_true_eq_false, if_false, ensures_map]
      refine (hspec _).mono ?_ ?_
      · rintro r t (⟨hflag, hstatus, n, rfl⟩ | ⟨hno, hstatus, ht⟩)
        · exact ⟨r, rfl, .inl ⟨allOk_append.mpr ⟨hok, hflag⟩, hstatus, n, rfl⟩⟩
        · refine ⟨r, rfl, .inr ⟨fun hall => hno (allOk_append.mp hall).2, hstatus, ?_⟩⟩
          exact (idle_skip _ _).trans ht
      · rintro fault t ⟨hfault, hno, ht⟩
        refine ⟨.inl hfault, fun r hr => .inr ⟨?_, h500 r hr, (idle_skip _ _).trans ht⟩⟩
        exact fun hall => hno (allOk_append.mp hall).2
    · have hguest : callerUser.role ≠ str "admin" := by
        rw [hdeclared]
        decide
      dsimp only
      rw [if_pos hguest, ensures_map]
      refine reply_run hjson (by decide) fun _ _ => ⟨_, rfl, .inr ⟨?_, ?_, ht⟩⟩
      · exact not_allOk_of_left hno
      · exact (by decide : (403 : Int) ≠ 200)
  · rintro fault t ⟨hno, ht, hfault⟩
    exact ⟨.inl hfault, fun r hr => .inr ⟨not_allOk_of_left hno, h500 r hr, ht⟩⟩

/-! ## What the admin is told -/

/-- There is an account with this id. -/
def HasRow (w : World) (s : State) (userId : Bytes) : Prop :=
  s.users.find (w.userKey userId) ≠ none

/-- The answer is 200 exactly when there is such an account. Then its row is changed and no
other, and otherwise neither the table nor the session map is. -/
structure Truthful (w : World) (s : State) (x : Exchange) (t : State) (userId : Bytes)
    (change : UserRow → UserRow) : Prop where
  answer : ∃ r, x.published = [r] ∧ (r.statusCode = 200 ↔ HasRow w s userId)
  changed : HasRow w s userId → t.users.rows =
    s.users.rows.map fun row => if row.userIdHash = w.userKey userId then change row else row
  unchanged : ¬ HasRow w s userId → t.users = s.users ∧ t.activeSessions = s.activeSessions

theorem Decided.truthful_iff {purge : Sessions → Sessions} {calls : List Library}
    {r : HttpResponseEvent} {u : State} (hr : x.published = [r])
    (h : Decided w userId change hkey purge calls s r.statusCode u) {p : List HttpResponseEvent} :
    Truthful w s x { u with published := p } userId change ↔
      (HasRow w s userId ↔ AllOk w s.calls calls) := by
  have honly {status : Prop} (h : ∃ r', x.published = [r'] ∧ (r'.statusCode = 200 ↔ status)) :
      r.statusCode = 200 ↔ status := by
    obtain ⟨r', hr', hstatus⟩ := h
    cases hr.symm.trans hr'
    exact hstatus
  rcases h with ⟨hok, hstatus, n, rfl⟩ | ⟨hno, hstatus, n, rfl⟩
  · constructor
    · intro htrue
      exact iff_of_true ((honly htrue.answer).mp hstatus) hok
    · intro hiff
      have hrow := hiff.mpr hok
      exact ⟨⟨r, hr, iff_of_true hstatus hrow⟩, fun _ => rfl, fun hnone => absurd hrow hnone⟩
  · constructor
    · intro htrue
      exact iff_of_false (fun hrow => hstatus ((honly htrue.answer).mpr hrow)) hno
    · intro hiff
      have hnone : ¬ HasRow w s userId := fun hrow => hno (hiff.mp hrow)
      exact ⟨⟨r, hr, iff_of_false hstatus hnone⟩, fun hrow => absurd hrow hnone,
        fun _ => ⟨rfl, rfl⟩⟩

/-- Of an endpoint that decides, in the exchange as a whole. -/
theorem Decision.truthful_iff (hjson : w.json.Documented) (hx : Served w s x t) {url : String}
    (h : Decision w s x.request url userId)
    (hurl : url = "/api/users/approve" ∨ url = "/api/users/evict") {purge : Sessions → Sessions}
    {m : Server HttpResponseEvent} (hm : adminEndpoints w x.request = some <$> m)
    (hspec : ∀ s, Ensures m s
      (fun r t => Decided w userId change hkey purge flagCalls s r.statusCode t)
      (fun fault t => AsciiException fault ∧ ¬ AllOk w s.calls flagCalls ∧ Idle s t)) :
    Truthful w s x t userId change ↔
      (HasRow w s userId ↔ AllOk w s.calls (lookupCalls ++ flagCalls)) := by
  have hrespond (self : ReplyServer) := h.respond hjson hurl hm hspec self
  rcases hx.ensures hjson hrespond with ⟨r, u, hr, hdecided, rfl⟩ | ⟨-, hfalse⟩
  · exact hdecided.truthful_iff hr
  · exact hfalse.elim

theorem Served.approve_truthful_iff (hjson : w.json.Documented) (hx : Served w s x t)
    (h : Decision w s x.request "/api/users/approve" userId) :
    Truthful w s x t userId UserRow.approve ↔
      (HasRow w s userId ↔ AllOk w s.calls (lookupCalls ++ flagCalls)) := by
  have hm : adminEndpoints w x.request = some <$> approve w x.request := by
    simp [adminEndpoints, h.post.1, h.post.2]
  exact h.truthful_iff hjson hx (.inl rfl) hm fun _ => approve_uses hjson h.idField

theorem Served.evict_truthful_iff (hjson : w.json.Documented) (hx : Served w s x t)
    (h : Decision w s x.request "/api/users/evict" userId) (hne : userId ≠ str "admin") :
    Truthful w s x t userId UserRow.evict ↔
      (HasRow w s userId ↔ AllOk w s.calls (lookupCalls ++ flagCalls)) := by
  have hm : adminEndpoints w x.request = some <$> evict w x.request := by
    simp [adminEndpoints, h.post.1, h.post.2]
  exact h.truthful_iff hjson hx (.inr rfl) hm fun _ => evict_uses hjson h.idField hne

/-- An admin is told the truth about a decision exactly when the account exists and every call
succeeds, or it does not exist and some call fails. -/
theorem decision_truthful_iff (hjson : w.json.Documented) (s t : State) (x : Exchange)
    (userId : Bytes) (hx : Served w s x t) :
    (Decision w s x.request "/api/users/approve" userId →
      (Truthful w s x t userId UserRow.approve ↔
        (HasRow w s userId ↔ AllOk w s.calls (lookupCalls ++ flagCalls)))) ∧
    (Decision w s x.request "/api/users/evict" userId → userId ≠ str "admin" →
      (Truthful w s x t userId UserRow.evict ↔
        (HasRow w s userId ↔ AllOk w s.calls (lookupCalls ++ flagCalls)))) :=
  ⟨fun h => hx.approve_truthful_iff hjson h, fun h hne => hx.evict_truthful_iff hjson h hne⟩

/-- The admin approves bob, who has registered. -/
theorem approve_bob_truthful :
    let s := Reference.administered
    let e := Reference.postAsAdmin "/api/users/approve"
    Truthful Reference.world s (Reference.exchange s e) (Reference.serve s e) (str "bob")
      UserRow.approve := by
  intro s e
  have hreachable : Reachable Reference.world Reference.dbPath Reference.masterSecret s :=
    ⟨Reference.start, _, Reference.start_fresh,
      .step (.step .refl (.request (Reference.served _ _))) (.request (Reference.served _ _))⟩
  -- The state is computed once for all that is asked of it.
  obtain ⟨hcaller, hrole, hrow, hok⟩ : callerId s e = str "admin" ∧
      (s.users.find (Reference.world.userKey (str "admin"))).map (·.role.val) =
        some (str "admin") ∧
      (s.users.find (Reference.world.userKey (str "bob"))).isSome ∧
      AllOk Reference.world s.calls (lookupCalls ++ flagCalls) := by decide +kernel
  have hdecision : Decision Reference.world s e "/api/users/approve" (str "bob") :=
    ⟨⟨rfl, rfl⟩, hreachable.adminCaller Reference.json_documented Reference.sha256_injective
      Reference.gcm_documented hcaller hrole, by decide +kernel⟩
  refine ((decision_truthful_iff Reference.json_documented s _ (Reference.exchange s e) (str "bob")
    (Reference.served s e)).1 hdecision).mpr (iff_of_true ?_ hok)
  exact Option.isSome_iff_ne_none.mp hrow

/-- Nobody but the admin has an account, and the admin approves bob. -/
def Reference.approveNobody : HttpRequestEvent :=
  post "/api/users/approve" (body [("id", "bob")]) (cookie 0x64)

/-- The admin is told that an account has been approved that does not exist. -/
theorem approveNobody_not_truthful :
    let s := Reference.loggedIn
    let x := Reference.exchange s Reference.approveNobody
    Reachable Reference.world Reference.dbPath Reference.masterSecret s ∧
      Decision Reference.world s x.request "/api/users/approve" (str "bob") ∧
      ¬ Truthful Reference.world s x (Reference.serve s Reference.approveNobody) (str "bob")
        UserRow.approve := by
  intro s x
  have hreachable : Reachable Reference.world Reference.dbPath Reference.masterSecret s :=
    ⟨_, _, Reference.start_fresh, .step .refl (.request (Reference.served _ Reference.loginAdmin))⟩
  obtain ⟨hcaller, hrole, hrow, hok⟩ :
      callerId s Reference.approveNobody = str "admin" ∧
      (s.users.find (Reference.world.userKey (str "admin"))).map (·.role.val) =
        some (str "admin") ∧
      (s.users.find (Reference.world.userKey (str "bob"))).isNone ∧
      AllOk Reference.world s.calls (lookupCalls ++ flagCalls) := by decide +kernel
  have hdecision : Decision Reference.world s x.request "/api/users/approve" (str "bob") :=
    ⟨⟨rfl, rfl⟩, hreachable.adminCaller Reference.json_documented Reference.sha256_injective
      Reference.gcm_documented hcaller hrole, by decide +kernel⟩
  refine ⟨hreachable, hdecision, fun htrue => ?_⟩
  have hiff := ((Reference.served s Reference.approveNobody).approve_truthful_iff
    Reference.json_documented hdecision).mp htrue
  exact hiff.mpr hok (Option.isNone_iff_eq_none.mp hrow)

end CCTVWebServer
