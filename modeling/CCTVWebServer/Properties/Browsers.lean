import CCTVWebServer.Foundation.CookieJar
import CCTVWebServer.Properties.Cookies
import CCTVWebServer.Properties.Secrets
import CCTVWebServer.Specification.Envelopes

/-!
# A browser and the server

The responses are read by a client, and a browser keeps the cookie that comes with them
and sends it along. From its login to its logout, or until it is evicted or the server
starts again, a browser is treated as the user it logged in as, and as nobody otherwise.
-/

namespace CCTVWebServer

open Foundation

variable {w : World} {s t : State} {x : Exchange} {e : HttpRequestEvent} {r : HttpResponseEvent}
  {dbPath masterSecret : Bytes}

/-! ## Reading the responses -/

theorem responses_enveloped (hjson : w.json.Documented) (s : State) (e : HttpRequestEvent) :
    ∀ r ∈ responses w .controller s e, Enveloped w e r := by
  intro r hr
  cases hrun : (respond w .controller e).run s with
  | ok r' t =>
    rw [responses_of_ok hjson hrun, List.mem_singleton] at hr
    subst hr
    exact (enveloped_respond s).of_ok hrun
  | error fault t =>
    rw [responses_of_error hjson hrun] at hr
    cases hr

/-- Whatever the request and the database contain, and whatever fails: a client reads every
response to its end, with the status code of the event, the fixed header fields, and the
content unchanged. A cookie comes with a login and a logout that succeed, and with nothing
else. -/
theorem responses_readable (hjson : w.json.Documented) (s : State) (e : HttpRequestEvent)
    (r : HttpResponseEvent) (hr : r ∈ responses w .controller s e) :
    ∃ response mime cookies, Http.read (HttpServer.responseText r) = some (response, []) ∧
      r.statusCode = response.status ∧ response.status ∈ statusCodes ∧
      response.fields = headerFields mime response.body cookies ∧
      Content w e mime response.body ∧ BringsCookies w e r cookies := by
  obtain ⟨response, h⟩ := responses_enveloped hjson s e r hr
  obtain ⟨mime, cookies, hcontent, hcookies, hfields⟩ := h.header
  exact ⟨response, mime, cookies, h.read, h.status, h.code, hfields, hcontent, hcookies⟩

/-- Bob has registered. -/
theorem responses_readable_reference :
    ∃ r ∈ responses Reference.world .controller Reference.start Reference.registerBob,
    ∃ response mime cookies, Http.read (HttpServer.responseText r) = some (response, []) ∧
      r.statusCode = response.status ∧ response.status ∈ statusCodes ∧
      response.fields = headerFields mime response.body cookies ∧
      Content Reference.world Reference.registerBob mime response.body ∧
      BringsCookies Reference.world Reference.registerBob r cookies := by
  have hsome : (responses Reference.world .controller Reference.start
      Reference.registerBob).head?.isSome := by decide +kernel
  obtain ⟨r, hr⟩ := Option.isSome_iff_exists.mp hsome
  have hmem := List.mem_of_mem_head? hr
  exact ⟨r, hmem, responses_readable Reference.json_documented _ _ r hmem⟩

/-! ## The jar -/

/-- The cookies of a site, as they are sent along. -/
def cookiesOf (jar : Http.Jar) : List Cookie := jar.map fun f => ⟨f.name, f.value⟩

/-- The `Cookie` header of a browser. -/
def jarHeader (jar : Http.Jar) : Bytes := cookieHeader (cookiesOf jar)

/-- What a browser does with a response. -/
def takeResponse (ended : List Http.Attribute → Bool) (jar : Http.Jar) (r : HttpResponseEvent) :
    Http.Jar :=
  match Http.read (HttpServer.responseText r) with
  | some (response, _) => jar.receive ended response
  | none => jar

/-- The cookies of other pages of the site: the server takes none of them for the session. -/
def Innocent (others : Http.Jar) : Prop :=
  ∀ c ∈ cookiesOf others, find (str "SessionID=") c.text = none

def sessionAttributes : List Http.Attribute :=
  [(Http.ascii "Path", Http.ascii "/"), (Http.ascii "HttpOnly", [])]

def removalAttributes : List Http.Attribute :=
  [(Http.ascii "Path", Http.ascii "/"),
    (Http.ascii "Expires", Http.ascii "Thu, 01 Jan 1970 00:00:00 GMT")]

/-- A clock that is past 1970: a cookie without an end stays, and one that ended then is gone. -/
structure Clock (ended : List Http.Attribute → Bool) : Prop where
  session : ended sessionAttributes = false
  removal : ended removalAttributes = true

section Jar

variable {others : Http.Jar} {ended : List Http.Attribute → Bool} {session : Option Bytes}

theorem Innocent.name_ne (h : Innocent others) : ∀ f ∈ others, f.name ≠ sessionName := by
  intro f hf hname
  have hnone := h ⟨f.name, f.value⟩ (List.mem_map.mpr ⟨f, hf, rfl⟩)
  have htext : (⟨f.name, f.value⟩ : Cookie).text = str "SessionID=" ++ f.value := by
    rw [Cookie.text, hname]
    rfl
  rw [htext, find_prefix] at hnone
  cases hnone

/-- The server finds the session of the browser among its cookies. -/
theorem Innocent.getSessionToken (h : Innocent others)
    (hsession : ∀ token ∈ session, IsToken token) :
    getSessionToken (jarHeader (others.withCookie sessionName session)) = session.getD [] := by
  have hcookies : cookiesOf (others.withCookie sessionName session) =
      cookiesOf others ++ session.toList.map fun token => ⟨sessionName, token⟩ := by
    simp [cookiesOf, Http.Jar.withCookie]
  have hothers : (cookiesOf others).findSome? (fun c => afterName c.text) = none := by
    rw [List.findSome?_eq_none_iff]
    intro c hc
    rw [afterName, h c hc]
    rfl
  rw [getSessionToken_eq, jarHeader, afterName_cookieHeader, hcookies, List.findSome?_append,
    hothers, Option.none_or]
  cases session with
  | none => rfl
  | some token =>
    have hafter := afterName_session (c := ⟨sessionName, token⟩) rfl (hsession token rfl).not_mem.2
    simp [hafter]

theorem setCookie_headerFields {cookies : List Http.Field}
    (hname : ∀ f ∈ cookies, f.name = Http.ascii "Set-Cookie") (mime : String) (body : Bytes) :
    Http.values "Set-Cookie" (headerFields mime body cookies) = cookies.map (·.value) := by
  have hcookies : cookies.filter (fun f =>
      f.name.map Http.lower = (Http.ascii "Set-Cookie").map Http.lower) = cookies :=
    List.filter_eq_self.mpr fun f hf => by rw [hname f hf]; decide
  have htype : decide ((Http.ascii "Content-Type").map Http.lower =
      (Http.ascii "Set-Cookie").map Http.lower) = false := by decide
  have hlength : decide ((Http.ascii "Content-Length").map Http.lower =
      (Http.ascii "Set-Cookie").map Http.lower) = false := by decide
  have hconnection : decide ((Http.ascii "Connection").map Http.lower =
      (Http.ascii "Set-Cookie").map Http.lower) = false := by decide
  simp only [Http.values, headerFields, List.filter_cons, htype, hlength, hconnection, hcookies,
    Bool.false_eq_true, if_false]

theorem isToken_sessionName : Http.IsToken sessionName := by decide +kernel

theorem readSetCookie_setsSession {token : Bytes} (h : IsToken token) :
    Http.readSetCookie (setsSession token).value =
      some ⟨⟨sessionName, token⟩, sessionAttributes⟩ := by
  have hblank : ∀ b ∈ token, ¬ Http.IsBlank b := by
    have hdigits : ∀ n < 16, ¬ Http.IsBlank (hexDigit n) := by decide
    intro b hb
    obtain ⟨n, hn, rfl⟩ := h.2 b hb
    exact hdigits n hn
  have hname : Http.ascii "SessionID=" = sessionName ++ [Http.equalsSign] := by decide
  have hpath : Http.ascii "; Path=/; HttpOnly" =
      Http.semicolon :: Http.ascii " Path=/; HttpOnly" := by decide
  have htext : (setsSession token).value = sessionName ++ Http.equalsSign :: token ++
      Http.semicolon :: Http.ascii " Path=/; HttpOnly" := by
    rw [setsSession, hname, hpath]
    simp only [List.append_assoc, List.cons_append, List.nil_append]
  have hread := Http.readSetCookie_text (f := ⟨sessionName, token⟩) isToken_sessionName h.not_mem.2
    (fun b hb => hblank b (List.mem_of_mem_head? hb))
    (fun b hb => hblank b (List.mem_of_mem_getLast? hb)) (Http.ascii " Path=/; HttpOnly")
  have hattributes : ((Http.ascii " Path=/; HttpOnly").splitOn Http.semicolon).map Http.readPair =
      sessionAttributes := by decide +kernel
  rw [htext, hread, hattributes]

theorem readSetCookie_endsSession :
    Http.readSetCookie endsSession.value = some ⟨⟨sessionName, []⟩, removalAttributes⟩ := by
  have htext : endsSession.value = sessionName ++ Http.equalsSign :: [] ++
      Http.semicolon :: Http.ascii " Path=/; Expires=Thu, 01 Jan 1970 00:00:00 GMT" := by decide
  have hread := Http.readSetCookie_text (f := ⟨sessionName, []⟩) isToken_sessionName (by simp)
    (by simp) (by simp) (Http.ascii " Path=/; Expires=Thu, 01 Jan 1970 00:00:00 GMT")
  have hattributes : ((Http.ascii " Path=/; Expires=Thu, 01 Jan 1970 00:00:00 GMT").splitOn
      Http.semicolon).map Http.readPair = removalAttributes := by decide +kernel
  rw [htext, hread, hattributes]

/-- The session that a response leaves in the browser. -/
theorem Envelope.taken (hothers : ∀ f ∈ others, f.name ≠ sessionName) (hclock : Clock ended)
    {response : Http.Response} (h : Envelope w e r response) (session : Option Bytes) :
    (takeResponse ended (others.withCookie sessionName session) r =
        others.withCookie sessionName session ∧
      (r.statusCode = 200 → ¬ Post e "/api/login" ∧ ¬ Post e "/api/logout")) ∨
    (∃ body token, IsToken token ∧ w.json.dump (messageJson "Success") = .ok body ∧
      r = loginResponse e.connId body token ∧ Post e "/api/login" ∧
      takeResponse ended (others.withCookie sessionName session) r =
        others.withCookie sessionName (some token)) ∨
    (Post e "/api/logout" ∧ r.statusCode = 200 ∧
      takeResponse ended (others.withCookie sessionName session) r =
        others.withCookie sessionName none) := by
  have htake : takeResponse ended (others.withCookie sessionName session) r =
      (others.withCookie sessionName session).receive ended response := by
    rw [takeResponse, h.read]
  rw [htake]
  obtain ⟨mime, cookies, -, hcookies, hfields⟩ := h.header
  rw [Http.Jar.receive, hfields, setCookie_headerFields hcookies.name]
  cases hcookies with
  | none hplain => exact .inl ⟨rfl, hplain⟩
  | @login body token post htoken hbody hr =>
    refine .inr (.inl ⟨body, token, htoken, hbody, hr, post, ?_⟩)
    have hstore := Http.store_withCookie ended
      (c := ⟨⟨sessionName, token⟩, sessionAttributes⟩) hothers session
    rw [hclock.session] at hstore
    rw [List.map_singleton, List.foldl_cons, List.foldl_nil, readSetCookie_setsSession htoken]
    exact hstore
  | logout post hok =>
    refine .inr (.inr ⟨post, hok, ?_⟩)
    have hstore := Http.store_withCookie ended
      (c := ⟨⟨sessionName, []⟩, removalAttributes⟩) hothers session
    rw [hclock.removal] at hstore
    rw [List.map_singleton, List.foldl_cons, List.foldl_nil, readSetCookie_endsSession]
    exact hstore

end Jar

/-! ## Visits -/

/-- What happens: a request of the browser, a request of somebody else, a restart. -/
inductive Visit where
  | own (x : Exchange)
  | other (x : Exchange)
  | restart

/-- The exchange of a visit, if there is one. -/
def Visit.exchange : Visit → Option Exchange
  | own x => some x
  | other x => some x
  | restart => none

/-- The server and the jar of a browser. Nobody else is given the token of the browser, or
logs it out. -/
inductive BrowserStep (w : World) (ended : List Http.Attribute → Bool)
    (dbPath masterSecret : Bytes) : State × Http.Jar → Visit → State × Http.Jar → Prop where
  | own {s t : State} {jar : Http.Jar} {x : Exchange}
      (hcookies : x.request.cookies = jarHeader jar)
      (h : StepOf w .controller dbPath masterSecret s (.request x) t) :
      BrowserStep w ended dbPath masterSecret (s, jar) (.own x)
        (t, x.published.foldl (takeResponse ended) jar)
  | other {s t : State} {jar : Http.Jar} {x : Exchange}
      (hissued : ∀ userId password,
        ¬ Reports w x (.login userId password (getSessionToken (jarHeader jar))))
      (hended : ¬ Reports w x (.logout (getSessionToken (jarHeader jar))))
      (h : StepOf w .controller dbPath masterSecret s (.request x) t) :
      BrowserStep w ended dbPath masterSecret (s, jar) (.other x) (t, jar)
  | restart {s t : State} {jar : Http.Jar}
      (h : StepOf w .controller dbPath masterSecret s .restart t) :
      BrowserStep w ended dbPath masterSecret (s, jar) .restart (t, jar)

/-- The browser logs in as the user. -/
def LogsIn (w : World) (userId : Bytes) (v : Visit) : Prop :=
  ∃ x password token, v = .own x ∧ Reports w x (.login userId password token)

/-- Nothing ends what the browser has from a login of the user: no other login and no logout of
it, no eviction of the user by anybody, and no restart. -/
def Undisturbed (w : World) (userId : Bytes) (v : Visit) : Prop :=
  v ≠ .restart ∧ (∀ u, ¬ LogsIn w u v) ∧ (∀ x token, v = .own x → ¬ Reports w x (.logout token)) ∧
    ∀ x ∈ v.exchange, ¬ Reports w x (.evict userId)

/-- The token of the browser is one of the user. -/
def HasSession (s : State) (session : Option Bytes) (userId : Bytes) : Prop :=
  s.activeSessions.lookup (session.getD []) = some userId

/-- The jar of the browser holds a session cookie at most, besides those of other pages. -/
def KeepsSession (others jar : Http.Jar) (session : Option Bytes) : Prop :=
  jar = others.withCookie sessionName session ∧ ∀ token ∈ session, IsToken token

section Visits

variable {others jar jar' : Http.Jar} {ended : List Http.Attribute → Bool}
  {session : Option Bytes} {userId : Bytes}

/-- A browser without the cookie has no session. -/
theorem SessionsSound.not_hasSession (h : SessionsSound w s) : ¬ HasSession s none userId :=
  fun hsession => h.token_ne_nil _ _ hsession rfl

/-- The session of a token after an exchange that neither issues nor ends it. -/
theorem Served.hasSession_iff (hjson : w.json.Documented)
    (hsha : Function.Injective w.sha256Digest) (hx : Served w s x t)
    (hissued : ∀ u password, ¬ Reports w x (.login u password (session.getD [])))
    (hended : ¬ Reports w x (.logout (session.getD []))) :
    HasSession t session userId ↔ ¬ Reports w x (.evict userId) ∧ HasSession s session userId := by
  obtain ⟨-, hregistry⟩ := hx.step hjson hsha
  have hlookup : t.activeSessions.lookup (session.getD []) =
      ((s.registry w).apply w.verifier (eventOf w x)).session (session.getD []) := by
    rw [← hregistry]
    rfl
  have hbefore : (s.registry w).session (session.getD []) =
      s.activeSessions.lookup (session.getD []) := rfl
  unfold HasSession
  rw [hlookup, Registry.apply_session, ← eventOf_eq_iff (by simp)]
  rw [← eventOf_eq_iff (by simp)] at hended
  have hissued' : ∀ u password, eventOf w x ≠ .login u password (session.getD []) :=
    fun u password h => hissued u password ((eventOf_eq_iff (by simp)).mp h)
  cases hev : eventOf w x with
  | evict u =>
    simp only [Option.filter_eq_some_iff, hbefore, decide_eq_true_eq, Registry.Event.evict.injEq]
    grind
  | login u password token =>
    have hne : session.getD [] ≠ token := fun h => hissued' u password (by rw [hev, h])
    simp [hne, hbefore]
  | logout token =>
    have hne : session.getD [] ≠ token := fun h => hended (by rw [hev, h])
    simp [hne, hbefore]
  | restart => exact absurd ((eventOf_eq_iff (by simp)).mp hev) not_reports_restart
  | _ => simp [hbefore]

/-- An exchange with a login opens the session of its token. -/
theorem Served.hasSession_of_login (hjson : w.json.Documented)
    (hsha : Function.Injective w.sha256Digest) (hx : Served w s x t) {u password token : Bytes}
    (hlogin : Reports w x (.login u password token)) :
    HasSession t (some token) userId ↔ u = userId := by
  obtain ⟨-, hregistry⟩ := hx.step hjson hsha
  rw [eventOf_of_reports hlogin] at hregistry
  have hlookup : t.activeSessions.lookup token =
      ((s.registry w).apply w.verifier (.login u password token)).session token := by
    rw [← hregistry]
    rfl
  unfold HasSession
  rw [Option.getD_some, hlookup, Registry.apply_session]
  simp

theorem LogsIn.exchange {v : Visit} (h : LogsIn w userId v) :
    ∃ x, v = .own x ∧ Post x.request "/api/login" ∧ x.Ok := by
  obtain ⟨x, password, token, rfl, hreports⟩ := h
  exact ⟨x, rfl, hreports.post, hreports.ok⟩

/-- What a request of the browser leaves in its jar, and whose session it is. -/
theorem Visit.own_step (hjson : w.json.Documented) (hsha : Function.Injective w.sha256Digest)
    (hothers : Innocent others) (hclock : Clock ended)
    (hs : Reachable w dbPath masterSecret s) (hkeeps : KeepsSession others jar session)
    (hcookies : x.request.cookies = jarHeader jar)
    (h : StepOf w .controller dbPath masterSecret s (.request x) t) :
    ∃ session', KeepsSession others (x.published.foldl (takeResponse ended) jar) session' ∧
      ∀ userId, HasSession t session' userId ↔
        LogsIn w userId (.own x) ∨ Undisturbed w userId (.own x) ∧ HasSession s session userId := by
  obtain ⟨rfl, htokens⟩ := hkeeps
  have hl := h.transition hjson
  have ht : SessionsSound w t := (hs.trans (.step .refl hl)).sessionsSound hjson hsha
  obtain ⟨hpublished, -⟩ := h
  have hx : Served w s x t := by
    cases hl
    assumption
  -- The jar stays, and the request was no login and no logout.
  have hquiet (hno : x.Ok → ¬ Post x.request "/api/login" ∧ ¬ Post x.request "/api/logout") :
      ∀ userId, HasSession t session userId ↔
        LogsIn w userId (.own x) ∨ Undisturbed w userId (.own x) ∧ HasSession s session userId := by
    intro userId
    have hlogin (u : Bytes) : ¬ LogsIn w u (.own x) := by
      intro hlogin
      obtain ⟨_, heq, post, hok⟩ := hlogin.exchange
      cases heq
      exact (hno hok).1 post
    have hlogout (token : Bytes) : ¬ Reports w x (.logout token) :=
      fun hlogout => (hno hlogout.ok).2 hlogout.post
    have hissued (u password : Bytes) : ¬ Reports w x (.login u password (session.getD [])) :=
      fun hlogin => (hno hlogin.ok).1 hlogin.post
    have hundisturbed : Undisturbed w userId (.own x) ↔ ¬ Reports w x (.evict userId) := by
      constructor
      · rintro ⟨-, -, -, hno⟩
        exact hno x rfl
      · rintro hno
        refine ⟨by simp, hlogin, ?_, ?_⟩
        · rintro _ token ⟨⟩
          exact hlogout token
        · rintro _ ⟨⟩
          exact hno
    rw [hx.hasSession_iff hjson hsha hissued (hlogout _), hundisturbed]
    simp [hlogin]
  obtain ⟨-, r, -, -, hr | ⟨hnone, -⟩⟩ := hx.effect hjson
  · obtain ⟨response, henvelope⟩ : Enveloped w x.request r :=
      responses_enveloped hjson s x.request r (by rw [← hpublished, hr]; simp)
    rw [hr, List.foldl_cons, List.foldl_nil]
    rcases henvelope.taken hothers.name_ne hclock session with
      ⟨hjar, hno⟩ | ⟨body, token, hissued, hbody, hlogin, post, hjar⟩ | ⟨post, hok, hjar⟩
    · rw [hjar]
      refine ⟨session, ⟨rfl, htokens⟩, hquiet fun hok => hno ?_⟩
      obtain ⟨r', hr', hok⟩ := hok
      cases hr.symm.trans hr'
      exact hok
    · have hok : x.Ok := ⟨r, hr, by rw [hlogin]; rfl⟩
      obtain ⟨u, password, token', hid, hpassword, -, -⟩ := hx.login_event hjson hok post
      rw [hlogin] at hr
      have hreports : Reports w x (.login u password token) :=
        .login post hid hpassword hbody hr
      rw [hjar]
      refine ⟨some token, ⟨rfl, by simpa using hissued⟩, fun userId => ?_⟩
      rw [hx.hasSession_of_login hjson hsha hreports]
      constructor
      · rintro rfl
        exact .inl ⟨x, password, token, rfl, hreports⟩
      · rintro (⟨_, _, _, heq, hlogin'⟩ | ⟨⟨-, hno, -⟩, -⟩)
        · cases heq
          cases hreports.unique hlogin'
          rfl
        · exact absurd ⟨x, password, token, rfl, hreports⟩ (hno u)
    · have hreports : Reports w x (.logout (getSessionToken x.request.cookies)) :=
        .logout post ⟨r, hr, hok⟩
      rw [hjar]
      refine ⟨none, ⟨rfl, by simp⟩, fun userId => iff_of_false ht.not_hasSession ?_⟩
      rintro (⟨_, _, _, heq, hlogin⟩ | ⟨⟨-, -, hno, -⟩, -⟩)
      · cases heq
        cases hreports.unique hlogin
      · exact hno x _ rfl hreports
  · rw [hnone]
    refine ⟨session, ⟨rfl, htokens⟩, hquiet fun hok => ?_⟩
    obtain ⟨r', hr', -⟩ := hok
    cases hnone.symm.trans hr'

/-- One step of the browser and the server. -/
theorem BrowserStep.hasSession (hjson : w.json.Documented)
    (hsha : Function.Injective w.sha256Digest) (hothers : Innocent others) (hclock : Clock ended)
    (hs : Reachable w dbPath masterSecret s) (hkeeps : KeepsSession others jar session) {v : Visit}
    (h : BrowserStep w ended dbPath masterSecret (s, jar) v (t, jar')) :
    Reachable w dbPath masterSecret t ∧ ∃ session', KeepsSession others jar' session' ∧
      ∀ userId, HasSession t session' userId ↔
        LogsIn w userId v ∨ Undisturbed w userId v ∧ HasSession s session userId := by
  cases h with
  | own hcookies hl =>
    exact ⟨hs.trans (.step .refl (hl.transition hjson)),
      Visit.own_step hjson hsha hothers hclock hs hkeeps hcookies hl⟩
  | @other _ _ _ x hissued hended hl =>
    have hl' := hl.transition hjson
    refine ⟨hs.trans (.step .refl hl'), session, hkeeps, fun userId => ?_⟩
    obtain ⟨rfl, htokens⟩ := hkeeps
    rw [hothers.getSessionToken htokens] at hissued hended
    have hx : Served w s x t := by
      cases hl'
      assumption
    rw [hx.hasSession_iff hjson hsha hissued hended]
    simp [LogsIn, Undisturbed, Visit.exchange]
  | restart hl =>
    have ht := hs.trans (.step .refl hl)
    refine ⟨ht, session, hkeeps, fun userId => iff_of_false ?_ ?_⟩
    · cases hl with
      | restart hinit =>
        unfold HasSession
        rw [(Started.of_run hinit).activeSessions]
        rintro ⟨⟩
    · rintro (⟨_, _, _, heq, -⟩ | ⟨⟨hno, -⟩, -⟩)
      · cases heq
      · exact hno rfl

/-- From any moment on at which the browser has no session cookie: its requests are treated as
those of the user it logged in as last, until it is answered a logout, the user is evicted,
or the server starts again; and as nobody's otherwise. -/
theorem browser_session (hjson : w.json.Documented) (hsha : Function.Injective w.sha256Digest)
    (hothers : Innocent others) (hclock : Clock ended)
    (hs : Reachable w dbPath masterSecret s) {h : List Visit}
    (hrun : Trace (BrowserStep w ended dbPath masterSecret) (s, others) h (t, jar))
    (hcookies : e.cookies = jarHeader jar) (userId : Bytes) :
    Authenticated t e userId ↔ Since (Undisturbed w userId) (LogsIn w userId) h := by
  let I (h : List Visit) (p : State × Http.Jar) : Prop :=
    Reachable w dbPath masterSecret p.1 ∧ ∃ session, KeepsSession others p.2 session ∧
      ∀ userId, HasSession p.1 session userId ↔ Since (Undisturbed w userId) (LogsIn w userId) h
  have hstart : I [] (s, others) := by
    refine ⟨hs, none, ⟨by simp [Http.Jar.withCookie], by simp⟩, fun userId => ?_⟩
    exact iff_of_false (hs.sessionsSound hjson hsha).not_hasSession (since_nil _ _)
  have hstep (h : List Visit) (p : State × Http.Jar) (v : Visit) (q : State × Http.Jar)
      (hI : I h p) (hv : BrowserStep w ended dbPath masterSecret p v q) : I (v :: h) q := by
    obtain ⟨hp, session, hkeeps, hsession⟩ := hI
    obtain ⟨hq, session', hkeeps', hsession'⟩ :=
      hv.hasSession hjson hsha hothers hclock hp hkeeps
    refine ⟨hq, session', hkeeps', fun userId => ?_⟩
    rw [hsession' userId, hsession userId, since_cons]
  obtain ⟨ht, session, ⟨rfl, htokens⟩, hsession⟩ := hrun.invariant_history hstep hstart
  rw [ht.authenticated_iff hjson hsha, hcookies, hothers.getSessionToken htokens]
  exact hsession userId

end Visits

/-- A browser with a cookie of another page logs in as the admin. -/
theorem browser_session_reference :
    let ended (attributes : List Http.Attribute) : Bool :=
      attributes.contains (Http.ascii "Expires", Http.ascii "Thu, 01 Jan 1970 00:00:00 GMT")
    let others : Http.Jar := [⟨str "theme", str "dark"⟩]
    let login := { Reference.loginAdmin with cookies := jarHeader others }
    let x := Exchange.mk login (responses Reference.world .controller Reference.start login)
    let t := finalState (dispatch Reference.world record .controller login) Reference.start
    let jar := x.published.foldl (takeResponse ended) others
    let e := Reference.get "/api/user/me" (jarHeader jar)
    Authenticated t e (str "admin") ↔
      Since (Undisturbed Reference.world (str "admin")) (LogsIn Reference.world (str "admin"))
        [.own x] := by
  intro ended others login x t jar e
  have hothers : Innocent others := by
    unfold Innocent
    decide +kernel
  have hclock : Clock ended := ⟨by decide, by decide⟩
  have hstep : BrowserStep Reference.world ended Reference.dbPath Reference.masterSecret
      (Reference.start, others) (.own x) (t, jar) :=
    .own rfl ⟨rfl, rfl⟩
  have hrun := Trace.refl.step hstep
  have hcookies : e.cookies = jarHeader jar := by
    simp only [e, Reference.get]
  exact browser_session Reference.json_documented Reference.sha256_injective hothers hclock
    Reference.start_reachable hrun hcookies _

end CCTVWebServer
