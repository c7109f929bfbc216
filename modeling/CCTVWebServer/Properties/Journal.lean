import CCTVWebServer.Properties.Refinement

/-!
# The journal of a server

What a server stores, who is logged in and what is on air follow from a journal of the
requests that were answered with success. Requests that were refused or that failed leave
nothing behind, so they need not be written down.
-/

namespace CCTVWebServer

open Foundation

variable {w : World} {s t : State} {p q : Portal} {e : HttpRequestEvent} {x : Exchange}
  {l : Label} {r : HttpResponseEvent} {dbPath masterSecret : Bytes}

/-! ## Entries -/

/-- What is written down of a request, or of a restart. -/
inductive Entry where
  | register (userId username password : Bytes)
  | login (token userId : Bytes)
  | logout (token : Bytes)
  | updateProfile (token username password : Bytes)
  | approve (userId : Bytes)
  | evict (userId : Bytes)
  | saveRtsp (name url : Bytes)
  | stopRtsp
  | restart

/-- The entry of a request that was answered with success, as it can be read off the request
and the response. -/
inductive Records (w : World) : Label → Entry → Prop where
  | register {x : Exchange} {userId username password : Bytes}
      (post : Post x.request "/api/register") (hid : field w x.request "id" = some userId)
      (hname : field w x.request "username" = some username)
      (hpassword : field w x.request "password" = some password) (hok : x.Ok) :
      Records w (.request x) (.register userId username password)
  | login {x : Exchange} {token userId body : Bytes} (post : Post x.request "/api/login")
      (hid : field w x.request "id" = some userId)
      (hbody : w.json.dump (messageJson "Success") = .ok body)
      (hresponse : x.published = [loginResponse x.request.connId body token]) :
      Records w (.request x) (.login token userId)
  | logout {x : Exchange} (post : Post x.request "/api/logout") (hok : x.Ok) :
      Records w (.request x) (.logout (getSessionToken x.request.cookies))
  | updateProfile {x : Exchange} {username password : Bytes}
      (post : Post x.request "/api/user/update")
      (hname : field w x.request "username" = some username)
      (hpassword : field w x.request "password" = some password) (hok : x.Ok) :
      Records w (.request x)
        (.updateProfile (getSessionToken x.request.cookies) username password)
  | approve {x : Exchange} {userId : Bytes} (post : Post x.request "/api/users/approve")
      (hid : field w x.request "id" = some userId) (hok : x.Ok) :
      Records w (.request x) (.approve userId)
  | evict {x : Exchange} {userId : Bytes} (post : Post x.request "/api/users/evict")
      (hid : field w x.request "id" = some userId) (hok : x.Ok) :
      Records w (.request x) (.evict userId)
  | saveRtsp {x : Exchange} {name url : Bytes} (post : Post x.request "/api/rtsp")
      (hname : field w x.request "name" = some name)
      (hurl : field w x.request "url" = some url) (hok : x.Ok) :
      Records w (.request x) (.saveRtsp name url)
  | stopRtsp {x : Exchange} (post : Post x.request "/api/rtsp/stop") (hok : x.Ok) :
      Records w (.request x) .stopRtsp
  | restart : Records w .restart .restart

/-- The url of the requests with an entry. -/
def Entry.url : Entry → String
  | .register _ _ _ => "/api/register"
  | .login _ _ => "/api/login"
  | .logout _ => "/api/logout"
  | .updateProfile _ _ _ => "/api/user/update"
  | .approve _ => "/api/users/approve"
  | .evict _ => "/api/users/evict"
  | .saveRtsp _ _ => "/api/rtsp"
  | .stopRtsp => "/api/rtsp/stop"
  | .restart => ""

theorem Records.post {entry : Entry} (h : Records w (.request x) entry) :
    Post x.request entry.url := by
  cases h <;> assumption

theorem Records.ok {entry : Entry} (h : Records w (.request x) entry) : x.Ok := by
  cases h with
  | login _ _ _ hresponse => exact ⟨_, hresponse, rfl⟩
  | _ => assumption

/-- There is one entry for a request and its response. -/
theorem Records.unique {a b : Entry} (ha : Records w l a) (hb : Records w l b) : a = b := by
  cases l with
  | restart =>
    cases ha
    cases hb
    rfl
  | request x =>
    have hurl : a.url = b.url := str_inj.mp (ha.post.1.symm.trans hb.post.1)
    cases ha with
    | register _ hid hname hpassword =>
      cases hb with
      | register _ hid' hname' hpassword' => grind
      | _ => exact absurd hurl (by simp [Entry.url])
    | login _ hid hbody hresponse =>
      cases hb with
      | login _ hid' hbody' hresponse' =>
        rw [Except.ok.inj (hbody.symm.trans hbody')] at hresponse
        have htoken := loginResponse_inj (List.singleton_inj.mp (hresponse.symm.trans hresponse'))
        rw [Option.some.inj (hid.symm.trans hid'), htoken]
      | _ => exact absurd hurl (by simp [Entry.url])
    | logout =>
      cases hb with
      | logout => rfl
      | _ => exact absurd hurl (by simp [Entry.url])
    | updateProfile _ hname hpassword =>
      cases hb with
      | updateProfile _ hname' hpassword' => grind
      | _ => exact absurd hurl (by simp [Entry.url])
    | approve _ hid =>
      cases hb with
      | approve _ hid' => grind
      | _ => exact absurd hurl (by simp [Entry.url])
    | evict _ hid =>
      cases hb with
      | evict _ hid' => grind
      | _ => exact absurd hurl (by simp [Entry.url])
    | saveRtsp _ hname hurl' =>
      cases hb with
      | saveRtsp _ hname' hurl'' => grind
      | _ => exact absurd hurl (by simp [Entry.url])
    | stopRtsp =>
      cases hb with
      | stopRtsp => rfl
      | _ => exact absurd hurl (by simp [Entry.url])

open Classical in
/-- The entry of a label, if it has one. -/
noncomputable def entryOf (w : World) (l : Label) : Option Entry :=
  if h : ∃ entry, Records w l entry then some h.choose else none

theorem entryOf_eq_some {entry : Entry} : entryOf w l = some entry ↔ Records w l entry := by
  unfold entryOf
  split_ifs with h
  · constructor
    · intro heq
      obtain rfl := Option.some.inj heq
      exact h.choose_spec
    · intro hentry
      rw [h.choose_spec.unique hentry]
  · simpa using not_exists.mp h entry

/-- The journal of a history. -/
noncomputable def journal (w : World) (h : List Label) : List Entry := h.filterMap (entryOf w)

/-! ## Replaying -/

variable (w) in
/-- The portal with one more entry. -/
def Portal.enter (p : Portal) : Entry → Portal
  | .register userId username password =>
    match p.members.insert
        ⟨userId, username, w.passwordHash password userId, false, false, true⟩ with
    | some members => { p with members := members }
    | none => p
  | .login token userId => { p with session := Function.update p.session token (some userId) }
  | .logout token => { p with session := Function.update p.session token none }
  | .updateProfile token username password =>
    match (p.session token).bind p.members.find with
    | some m => p.update m.userId (Member.withProfile w username password)
        (Member.userId_withProfile w username password)
    | none => p
  | .approve userId => p.update userId Member.approve Member.userId_approve
  | .evict userId =>
    { p.update userId Member.evict Member.userId_evict with
      session := fun token => (p.session token).filter (· ≠ userId) }
  | .saveRtsp name url => { p with camera := some (name, url), onAir := some url }
  | .stopRtsp => { p with onAir := none }
  | .restart => p.restart

/-- The portal after the entries, newest first, of a new server. -/
def Portal.ofJournal (w : World) (entries : List Entry) : Portal :=
  entries.foldr (fun entry p => p.enter w entry) (Portal.opened w)

/-! ## What an answer leaves -/

/-- The step is the one of its entry, or there is no entry and no change. -/
def Booked (w : World) (l : Label) (p q : Portal) : Prop :=
  (∃ entry, Records w l entry ∧ q = p.enter w entry) ∨ ((∀ entry, ¬ Records w l entry) ∧ q = p)

/-- The same of an answer that is given. -/
def Settles (w : World) (p : Portal) (e : HttpRequestEvent) (a : Portal.Answer) : Prop :=
  ∀ r q, a = .ok (r, q) → Booked w (.request ⟨e, [r]⟩) p q

theorem not_records_of_status (h : r.statusCode ≠ 200) (entry : Entry) :
    ¬ Records w (.request ⟨e, [r]⟩) entry := by
  intro hentry
  obtain ⟨r', hr, hok⟩ := hentry.ok
  obtain rfl := List.singleton_inj.mp hr
  exact h hok

theorem not_records_of_get (h : x.request.method = str "GET") (entry : Entry) :
    ¬ Records w (.request x) entry := by
  intro hentry
  exact absurd (h.symm.trans hentry.post.2) (by decide)

theorem settles_bind {α : Type} {m : Except Bytes α} {f : α → Portal.Answer}
    (h : ∀ v, m = .ok v → Settles w p e (f v)) : Settles w p e (m >>= f) := by
  cases m with
  | error what =>
    intro r q heq
    cases heq
  | ok v => exact h v rfl

theorem settles_ite {c : Prop} [Decidable c] {a b : Portal.Answer} (ha : c → Settles w p e a)
    (hb : ¬ c → Settles w p e b) : Settles w p e (if c then a else b) := by
  split_ifs with hc
  · exact ha hc
  · exact hb hc

theorem Portal.answer_eq_ok {statusCode : Int} {statusText : String} {json : Json}
    {extraHeaders : Bytes}
    (h : p.answer w e statusCode statusText json extraHeaders = .ok (r, q)) :
    r.statusCode = statusCode ∧ q = p := by
  unfold Portal.answer at h
  cases hbody : w.json.dump json with
  | error what =>
    rw [hbody] at h
    cases h
  | ok body =>
    rw [hbody] at h
    obtain ⟨rfl, rfl⟩ := Prod.mk.inj (Except.ok.inj h)
    exact ⟨rfl, rfl⟩

theorem settles_refuse {statusCode : Int} (hcode : statusCode ≠ 200) (statusText : String)
    (json : Json) : Settles w p e (p.answer w e statusCode statusText json) := by
  intro r q h
  obtain ⟨hstatus, rfl⟩ := Portal.answer_eq_ok h
  exact .inr ⟨not_records_of_status (hstatus ▸ hcode), rfl⟩

theorem settles_show (hget : e.method = str "GET") (json : Json) :
    Settles w p e (p.answer w e 200 "OK" json) := by
  intro r q h
  obtain ⟨-, rfl⟩ := Portal.answer_eq_ok h
  exact .inr ⟨not_records_of_get hget, rfl⟩

/-- A success is the entry of its request. -/
theorem settles_enter (entry : Entry) (hq : q = p.enter w entry) (json : Json)
    (extraHeaders : Bytes)
    (hentry : ∀ r, r.statusCode = 200 → Records w (.request ⟨e, [r]⟩) entry) :
    Settles w p e (q.answer w e 200 "OK" json extraHeaders) := by
  intro r q' h
  obtain ⟨hstatus, rfl⟩ := Portal.answer_eq_ok h
  exact .inl ⟨entry, hentry r hstatus, hq⟩

theorem field_of_read {json : Json} {key : String} {text : Bytes}
    (hparse : Portal.parse w e.body = .ok json) (htext : Portal.text w json key = .ok text) :
    field w e key = some text := by
  unfold Portal.parse at hparse
  unfold Portal.text at htext
  unfold field
  cases hbody : w.json.parse e.body with
  | error err =>
    rw [hbody] at hparse
    cases hparse
  | ok json' =>
    rw [hbody] at hparse
    obtain rfl := Except.ok.inj hparse
    simp only [htext]

/-! ## Endpoints -/

theorem Portal.register_settles (post : Post e "/api/register") :
    Settles w p e (p.register w e) := by
  refine settles_bind fun json hjson => settles_bind fun id hid => ?_
  refine settles_bind fun username hname => settles_bind fun password hpassword => ?_
  refine settles_ite (fun _ => settles_refuse (by decide) _ _) fun _ => ?_
  cases hinsert : p.members.insert
      ⟨id, username, w.passwordHash password id, false, false, true⟩ with
  | none => exact settles_refuse (by decide) _ _
  | some members =>
    have hentry : { p with members := members } =
        p.enter w (.register id username password) := by
      simp only [Portal.enter, hinsert]
    exact settles_enter _ hentry _ _ fun r hok =>
      .register post (field_of_read hjson hid) (field_of_read hjson hname)
        (field_of_read hjson hpassword) ⟨r, rfl, hok⟩

theorem Portal.login_settles (post : Post e "/api/login") (token : Bytes) :
    Settles w p e (p.login w token e) := by
  refine settles_bind fun json hjson => settles_bind fun id hid => ?_
  refine settles_bind fun password _ => ?_
  cases p.members.find id with
  | none => exact settles_refuse (by decide) _ _
  | some m =>
    refine settles_ite (fun _ => settles_refuse (by decide) _ _) fun _ => ?_
    refine settles_ite (fun _ => settles_refuse (by decide) _ _) fun _ => ?_
    refine settles_ite (fun _ => settles_refuse (by decide) _ _) fun _ => ?_
    refine settles_bind fun body hbody r q heq => ?_
    obtain ⟨rfl, rfl⟩ := Prod.mk.inj (Except.ok.inj heq)
    exact .inl ⟨.login token id, .login post (field_of_read hjson hid) hbody rfl, rfl⟩

theorem Portal.logout_settles (post : Post e "/api/logout") : Settles w p e (p.logout w e) :=
  settles_enter (.logout (getSessionToken e.cookies)) rfl _ _ fun r hok =>
    .logout post ⟨r, rfl, hok⟩

theorem Portal.updateProfile_settles (post : Post e "/api/user/update") {m : Member}
    (hcaller : p.caller e.cookies = some m) : Settles w p e (p.updateProfile w m e) := by
  refine settles_bind fun json hjson => settles_bind fun username hname => ?_
  refine settles_bind fun password hpassword => ?_
  refine settles_ite (fun _ => settles_refuse (by decide) _ _) fun _ => ?_
  refine settles_enter (.updateProfile (getSessionToken e.cookies) username password) ?_ _ _
    fun r hok => .updateProfile post (field_of_read hjson hname) (field_of_read hjson hpassword)
      ⟨r, rfl, hok⟩
  unfold Portal.caller at hcaller
  simp only [Portal.enter, hcaller]

theorem Portal.approve_settles (post : Post e "/api/users/approve") :
    Settles w p e (p.approve w e) := by
  refine settles_bind fun json hjson => settles_bind fun id hid => ?_
  exact settles_enter (.approve id) rfl _ _ fun r hok =>
    .approve post (field_of_read hjson hid) ⟨r, rfl, hok⟩

theorem Portal.evict_settles (post : Post e "/api/users/evict") :
    Settles w p e (p.evict w e) := by
  refine settles_bind fun json hjson => settles_bind fun id hid => ?_
  refine settles_ite (fun _ => settles_refuse (by decide) _ _) fun _ => ?_
  exact settles_enter (.evict id) rfl _ _ fun r hok =>
    .evict post (field_of_read hjson hid) ⟨r, rfl, hok⟩

theorem Portal.saveRtsp_settles (post : Post e "/api/rtsp") : Settles w p e (p.saveRtsp w e) := by
  refine settles_bind fun json hjson => settles_bind fun name hname => ?_
  refine settles_bind fun url hurl => ?_
  refine settles_ite (fun _ => settles_refuse (by decide) _ _) fun _ => ?_
  exact settles_enter (.saveRtsp name url) rfl _ _ fun r hok =>
    .saveRtsp post (field_of_read hjson hname) (field_of_read hjson hurl) ⟨r, rfl, hok⟩

theorem Portal.stopRtsp_settles (post : Post e "/api/rtsp/stop") :
    Settles w p e (p.stopRtsp w e) :=
  settles_enter .stopRtsp rfl _ _ fun r hok => .stopRtsp post ⟨r, rfl, hok⟩

/-! ## Requests -/

/-- The same of an endpoint that may be responsible; if none is, the request has no entry. -/
def SettlesOption (w : World) (p : Portal) (e : HttpRequestEvent) (a : Option Portal.Answer) :
    Prop :=
  (∀ answer, a = some answer → Settles w p e answer) ∧
    (a = none → ∀ published entry, ¬ Records w (.request ⟨e, published⟩) entry)

theorem settlesOption_some {a : Portal.Answer} (h : Settles w p e a) :
    SettlesOption w p e (some a) := by
  refine ⟨fun answer heq => ?_, fun hnone => by cases hnone⟩
  obtain rfl := Option.some.inj heq
  exact h

theorem settlesOption_ite {c : Prop} [Decidable c] {a b : Option Portal.Answer}
    (ha : c → SettlesOption w p e a) (hb : ¬ c → SettlesOption w p e b) :
    SettlesOption w p e (if c then a else b) := by
  split_ifs with hc
  · exact ha hc
  · exact hb hc

theorem Portal.adminEndpoints_settles
    (hrest : ¬ Post e "/api/register" ∧ ¬ Post e "/api/login" ∧ ¬ Post e "/api/logout" ∧
      ¬ Post e "/api/user/update") :
    SettlesOption w p e (p.adminEndpoints w e) := by
  unfold Portal.adminEndpoints
  refine settlesOption_ite (fun h => settlesOption_some (settles_show h.2 _)) fun _ => ?_
  refine settlesOption_ite (fun h => settlesOption_some (approve_settles h)) fun happrove => ?_
  refine settlesOption_ite (fun h => settlesOption_some (evict_settles h)) fun hevict => ?_
  refine settlesOption_ite (fun h => settlesOption_some (settles_show h.2 _)) fun _ => ?_
  refine settlesOption_ite (fun h => settlesOption_some (saveRtsp_settles h)) fun hsave => ?_
  refine settlesOption_ite (fun h => settlesOption_some (stopRtsp_settles h)) fun hstop => ?_
  refine ⟨fun _ h => (by cases h), fun _ published entry hentry => ?_⟩
  have hpost := hentry.post
  cases hentry with
  | register => exact hrest.1 hpost
  | login => exact hrest.2.1 hpost
  | logout => exact hrest.2.2.1 hpost
  | updateProfile => exact hrest.2.2.2 hpost
  | approve => exact happrove hpost
  | evict => exact hevict hpost
  | saveRtsp => exact hsave hpost
  | stopRtsp => exact hstop hpost

theorem Portal.memberEndpoints_settles (hregister : ¬ Post e "/api/register")
    (hlogin : ¬ Post e "/api/login") {m : Member} (hcaller : p.caller e.cookies = some m) :
    SettlesOption w p e (p.memberEndpoints w m e) := by
  unfold Portal.memberEndpoints
  refine settlesOption_ite (fun h => settlesOption_some (logout_settles h)) fun hlogout => ?_
  refine settlesOption_ite (fun h => settlesOption_some (settles_show h.2 _)) fun _ => ?_
  refine settlesOption_ite
    (fun h => settlesOption_some (updateProfile_settles h hcaller)) fun hupdate => ?_
  refine settlesOption_ite (fun _ => settlesOption_some (settles_refuse (by decide) _ _))
    fun _ => ?_
  exact adminEndpoints_settles ⟨hregister, hlogin, hlogout, hupdate⟩

/-- Every entry is of a request to the API. -/
theorem Records.api {entry : Entry} (h : Records w (.request x) entry) :
    StartsWith x.request.url (str "/api/") := by
  have hurl := h.post.1
  rw [hurl]
  cases h
  all_goals
    simp only [Entry.url]
    decide

theorem Portal.endpoints_settles (token : Bytes) :
    SettlesOption w p e (p.endpoints w token e) := by
  unfold Portal.endpoints
  refine settlesOption_ite (fun h => settlesOption_some (register_settles h)) fun hregister => ?_
  refine settlesOption_ite (fun h => settlesOption_some (login_settles h token)) fun hlogin => ?_
  refine settlesOption_ite (fun _ => ?_) fun hapi => ?_
  · cases hcaller : p.caller e.cookies with
    | none => exact settlesOption_some (settles_refuse (by decide) _ _)
    | some m => exact memberEndpoints_settles hregister hlogin hcaller
  · exact ⟨fun _ h => (by cases h), fun _ published entry hentry => hapi hentry.api⟩

theorem not_records_of_nothing (entry : Entry) : ¬ Records w (.request ⟨e, []⟩) entry := by
  intro hentry
  obtain ⟨r, hr, -⟩ := hentry.ok
  cases hr

/-- What cannot be answered is an error, or gets no response at all. -/
theorem Settles.publish {a : Portal.Answer} (h : Settles w p e a)
    {published : List HttpResponseEvent} (hpublish : p.publish w e a = (published, q)) :
    Booked w (.request ⟨e, published⟩) p q := by
  cases a with
  | ok result =>
    obtain ⟨rfl, rfl⟩ := Prod.mk.inj hpublish
    exact h _ _ rfl
  | error what =>
    unfold Portal.publish at hpublish
    dsimp only at hpublish
    cases hanswer : p.answer w e 500 "Internal Server Error" (errorJson what) with
    | ok result =>
      rw [hanswer] at hpublish
      obtain ⟨rfl, rfl⟩ := Prod.mk.inj hpublish
      obtain ⟨hstatus, -⟩ := Portal.answer_eq_ok hanswer
      exact .inr ⟨not_records_of_status (by omega), rfl⟩
    | error what' =>
      rw [hanswer] at hpublish
      obtain ⟨rfl, rfl⟩ := Prod.mk.inj hpublish
      exact .inr ⟨not_records_of_nothing, rfl⟩

/-- Every step of the portal is in the journal, or changes nothing. -/
theorem Portal.Step.booked {self : ReplyServer} (hl : Portal.Step w self p l q) :
    Booked w l p q := by
  cases hl with
  | restart => exact .inl ⟨.restart, .restart, rfl⟩
  | @request _ x token _ hserve =>
    obtain ⟨e, published⟩ := x
    unfold Portal.serve at hserve
    dsimp only at hserve
    cases hstatic : staticReply w e with
    | some r =>
      rw [hstatic] at hserve
      obtain ⟨rfl, rfl⟩ := Prod.mk.inj hserve
      refine .inr ⟨fun entry hentry => ?_, rfl⟩
      rw [staticReply_eq_none.mpr (not_servesFile_of_api hentry.api)] at hstatic
      cases hstatic
    | none =>
      rw [hstatic] at hserve
      dsimp only at hserve
      obtain ⟨hsome, hnone⟩ := p.endpoints_settles (w := w) (e := e) token
      cases hanswer : p.endpoints w token e with
      | some a =>
        rw [hanswer] at hserve
        exact (hsome a hanswer).publish hserve
      | none =>
        rw [hanswer] at hserve
        obtain ⟨-, rfl⟩ := Prod.mk.inj hserve
        exact .inr ⟨hnone hanswer published, rfl⟩

/-! ## Runs -/

theorem Booked.eq (h : Booked w l p q) :
    q = match entryOf w l with
      | some entry => p.enter w entry
      | none => p := by
  rcases h with ⟨entry, hentry, rfl⟩ | ⟨hno, rfl⟩
  · rw [entryOf_eq_some.mpr hentry]
  · have hnone : entryOf w l = none :=
      Option.eq_none_iff_forall_ne_some.mpr fun entry hentry =>
        hno entry (entryOf_eq_some.mp hentry)
    rw [hnone]

/-- The portal at the end of a run is the one of its journal. -/
theorem Portal.run_journal {h : List Label}
    (hrun : Trace (fun p l q => ∃ self, Portal.Step w self p l q) (Portal.opened w) h p) :
    p = Portal.ofJournal w (journal w h) := by
  induction hrun with
  | refl => rfl
  | @step h p q l _ hl ih =>
    obtain ⟨self, hl⟩ := hl
    rw [hl.booked.eq, journal, List.filterMap_cons]
    cases entryOf w l with
    | none => exact ih
    | some entry => exact congrArg (·.enter w entry) ih

/-- The server at the end of a run carries the portal of its journal, and answers every
request as that portal does. -/
theorem server_follows_journal (hw : w.Dependable) (hs : Fresh w dbPath masterSecret s)
    {h : List Label} (hrun : Trace (Transition w dbPath masterSecret) s h t) :
    Carries w t (Portal.ofJournal w (journal w h)) ∧
      ∀ self e, ∃ token, IsToken token ∧
        responses w self t e = ((Portal.ofJournal w (journal w h)).serve w self token e).1 := by
  obtain ⟨p, hp, hcarries⟩ := server_refines_portal hw hs hrun
  obtain rfl := Portal.run_journal hp
  refine ⟨hcarries, fun self e => ?_⟩
  obtain ⟨q, hq, -⟩ := dispatch_realizes hw ⟨s, h, hs, hrun⟩ hcarries self e
  cases hq with
  | @request _ _ token htoken hserve => exact ⟨token, htoken, by rw [hserve]⟩

/-- Bob has registered, and the admin has logged in. -/
theorem server_follows_journal_reference :
    let h := [.request (Reference.exchange Reference.registered Reference.loginAdmin),
      .request (Reference.exchange Reference.start Reference.registerBob)]
    let p := Portal.ofJournal Reference.world (journal Reference.world h)
    Carries Reference.world Reference.administered p ∧
      ∀ self e, ∃ token, IsToken token ∧ responses Reference.world self Reference.administered e =
        (p.serve Reference.world self token e).1 :=
  server_follows_journal Reference.dependable Reference.start_fresh
    (.step (.step .refl (.request (Reference.served _ _))) (.request (Reference.served _ _)))

/-! ## The camera -/

/-- The request saves a camera. -/
def Saves (w : World) (l : Label) (camera : Bytes × Bytes) : Prop :=
  Records w l (.saveRtsp camera.1 camera.2)

/-- What the label makes the relayer do: go on air, or stop. -/
inductive Switches (w : World) (l : Label) : Option Bytes → Prop where
  | start {name url : Bytes} (h : Saves w l (name, url)) : Switches w l (some url)
  | stop (h : Records w l .stopRtsp) : Switches w l none
  | restart (h : l = .restart) : Switches w l none

theorem Switches.entry {v : Option Bytes} (h : Switches w l v) :
    ∃ entry, Records w l entry ∧ ∀ p : Portal, (p.enter w entry).onAir = v := by
  cases h with
  | start h => exact ⟨_, h, fun _ => rfl⟩
  | stop h => exact ⟨_, h, fun _ => rfl⟩
  | restart h => exact ⟨.restart, h ▸ .restart, fun _ => rfl⟩

theorem Switches.unique {v v' : Option Bytes} (h : Switches w l v) (h' : Switches w l v') :
    v = v' := by
  obtain ⟨entry, hentry, honAir⟩ := h.entry
  obtain ⟨entry', hentry', honAir'⟩ := h'.entry
  obtain rfl := hentry.unique hentry'
  exact (honAir (Portal.opened w)).symm.trans (honAir' _)

/-- Only a save changes the camera. -/
theorem Portal.camera_enter {entry : Entry} (h : ∀ name url, entry ≠ .saveRtsp name url) :
    (p.enter w entry).camera = p.camera := by
  cases entry with
  | register userId username password =>
    unfold Portal.enter
    dsimp only
    split
    · rfl
    · rfl
  | updateProfile token username password =>
    unfold Portal.enter
    dsimp only
    split
    · rfl
    · rfl
  | login token userId => rfl
  | logout token => rfl
  | approve userId => rfl
  | evict userId => rfl
  | saveRtsp name url => exact absurd rfl (h name url)
  | stopRtsp => rfl
  | restart => rfl

/-- Only these three switch the relay. -/
theorem Portal.onAir_enter {entry : Entry} (hsave : ∀ name url, entry ≠ .saveRtsp name url)
    (hstop : entry ≠ .stopRtsp) (hrestart : entry ≠ .restart) :
    (p.enter w entry).onAir = p.onAir := by
  cases entry with
  | register userId username password =>
    unfold Portal.enter
    dsimp only
    split
    · rfl
    · rfl
  | updateProfile token username password =>
    unfold Portal.enter
    dsimp only
    split
    · rfl
    · rfl
  | login token userId => rfl
  | logout token => rfl
  | approve userId => rfl
  | evict userId => rfl
  | saveRtsp name url => exact absurd rfl (hsave name url)
  | stopRtsp => exact absurd rfl hstop
  | restart => exact absurd rfl hrestart

theorem Booked.camera (h : Booked w l p q) :
    (∃ v, (∃ camera, Saves w l camera ∧ v = some camera) ∧ q.camera = v) ∨
      ((∀ v, ¬ ∃ camera, Saves w l camera ∧ v = some camera) ∧ q.camera = p.camera) := by
  rcases h with ⟨entry, hentry, rfl⟩ | ⟨hno, rfl⟩
  · by_cases hsave : ∃ name url, entry = .saveRtsp name url
    · obtain ⟨name, url, rfl⟩ := hsave
      exact .inl ⟨_, ⟨(name, url), hentry, rfl⟩, rfl⟩
    · refine .inr ⟨?_, Portal.camera_enter fun name url heq => hsave ⟨name, url, heq⟩⟩
      rintro v ⟨camera, hsaves, -⟩
      exact hsave ⟨_, _, hentry.unique hsaves⟩
  · refine .inr ⟨?_, rfl⟩
    rintro v ⟨camera, hsaves, -⟩
    exact hno _ hsaves

theorem Booked.onAir (h : Booked w l p q) :
    (∃ v, Switches w l v ∧ q.onAir = v) ∨ ((∀ v, ¬ Switches w l v) ∧ q.onAir = p.onAir) := by
  by_cases hswitches : ∃ v, Switches w l v
  · obtain ⟨v, hv⟩ := hswitches
    obtain ⟨entry, hentry, honAir⟩ := hv.entry
    refine .inl ⟨v, hv, ?_⟩
    rcases h with ⟨entry', hentry', rfl⟩ | ⟨hno, -⟩
    · rw [hentry'.unique hentry, honAir]
    · exact absurd hentry (hno entry)
  · have hno := not_exists.mp hswitches
    refine .inr ⟨hno, ?_⟩
    rcases h with ⟨entry, hentry, rfl⟩ | ⟨-, rfl⟩
    · refine Portal.onAir_enter ?_ ?_ ?_
      · rintro name url rfl
        exact hno _ (.start hentry)
      · rintro rfl
        exact hno _ (.stop hentry)
      · rintro rfl
        cases hentry
        exact hno _ (.restart rfl)
    · rfl

/-- After any requests and restarts the stored camera is the one that was saved last, and the
relayer runs just when nothing stopped it since, with the url of the camera. -/
theorem camera_history (hw : w.Dependable) (hs : Fresh w dbPath masterSecret s)
    {h : List Label} (hrun : Trace (Transition w dbPath masterSecret) s h t) :
    (∀ camera, latestConfig w t = some camera ↔
      Since (fun l => ∀ other, ¬ Saves w l other) (fun l => Saves w l camera) h) ∧
    ∀ url, t.relayer.running = true ∧ t.relayer.rtspUrl = url ↔
      Since (fun l => ∀ v, ¬ Switches w l v) (fun l => ∃ name, Saves w l (name, url)) h := by
  obtain ⟨p, hp, hcarries⟩ := server_refines_portal hw hs hrun
  constructor
  · intro camera
    have hunique : ∀ l v v', (∃ c, Saves w l c ∧ v = some c) → (∃ c, Saves w l c ∧ v' = some c) →
        v = v' := by
      rintro l _ _ ⟨c, hc, rfl⟩ ⟨c', hc', rfl⟩
      obtain ⟨hname, hurl⟩ := Entry.saveRtsp.inj (hc.unique hc')
      rw [Prod.ext hname hurl]
    have hlast := hp.last_write Portal.camera _ hunique
      (fun _ _ _ ⟨_, hl⟩ => hl.booked.camera) rfl camera
    have hsaved : (fun l => ∃ c, Saves w l c ∧ some camera = some c) =
        fun l => Saves w l camera := by
      funext l
      simp
    have hkept : (fun l => ∀ v, ¬ ∃ c, Saves w l c ∧ v = some c) =
        fun l => ∀ other, ¬ Saves w l other := by
      funext l
      refine propext ⟨fun hno other hother => hno _ ⟨other, hother, rfl⟩, ?_⟩
      rintro hno v ⟨c, hc, -⟩
      exact hno c hc
    rw [hsaved, hkept] at hlast
    rw [hcarries.camera, hlast]
  · intro url
    have hlast := hp.last_write Portal.onAir (Switches w) (fun _ _ _ => Switches.unique)
      (fun _ _ _ ⟨_, hl⟩ => hl.booked.onAir) rfl url
    have hstart : (fun l => Switches w l (some url)) = fun l => ∃ name, Saves w l (name, url) := by
      funext l
      refine propext ⟨?_, fun ⟨_, h⟩ => .start h⟩
      rintro ⟨h⟩
      exact ⟨_, h⟩
    rw [hstart] at hlast
    rw [← hlast, hcarries.running]
    constructor
    · rintro ⟨hrunning, rfl⟩
      obtain ⟨url, honAir⟩ := Option.isSome_iff_exists.mp hrunning
      rw [honAir, hcarries.rtspUrl url honAir]
    · intro honAir
      exact ⟨by rw [honAir]; rfl, hcarries.rtspUrl url honAir⟩

/-- The admin has logged in and saved a camera. -/
theorem camera_history_reference :
    let w := Reference.world
    let e := Reference.saveCamera "yard" "rtsp://yard"
    let t := Reference.serve Reference.loggedIn e
    let h := [.request (Reference.exchange Reference.loggedIn e),
      .request (Reference.exchange Reference.start Reference.loginAdmin)]
    (∀ camera, latestConfig w t = some camera ↔
      Since (fun l => ∀ other, ¬ Saves w l other) (fun l => Saves w l camera) h) ∧
    ∀ url, t.relayer.running = true ∧ t.relayer.rtspUrl = url ↔
      Since (fun l => ∀ v, ¬ Switches w l v) (fun l => ∃ name, Saves w l (name, url)) h :=
  camera_history Reference.dependable Reference.start_fresh
    (.step (.step .refl (.request (Reference.served _ _))) (.request (Reference.served _ _)))

end CCTVWebServer
