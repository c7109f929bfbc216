import CCTVWebServer.Reference
import CCTVWebServer.Specification.Accounts
import CCTVWebServer.WebSocket

/-!
# Who watches the camera

Requests, upgrades, handshakes, frames and restarts may follow each other in any
order. The upgrade authenticates nobody and an eviction ends no websocket session,
so frames reach viewers who must not see them. As long as only entitled users open
websocket sessions, and users are evicted when they have none, all is well.
-/

namespace CCTVWebServer

open Foundation

variable {w : World} {dbPath masterSecret : Bytes}

/-! ## Runs with viewers -/

/-- What can happen to a server with viewers. -/
inductive SiteLabel where
  | request (x : Exchange)
  | upgrade (e : HttpRequestEvent)
  | accept (session : WebSocketSession) (ok : Bool)
  | error (session : WebSocketSession)
  | broadcast (data : Bytes) (receivers : List WebSocketSession)
  | restart

inductive SiteStep (w : World) (dbPath masterSecret : Bytes) : Site → SiteLabel → Site → Prop where
  | request {site : Site} {x : Exchange} {t : State} (h : Served w site.server x t) :
      SiteStep w dbPath masterSecret site (.request x) { site with server := t }
  | upgrade {site : Site} (e : HttpRequestEvent) :
      SiteStep w dbPath masterSecret site (.upgrade e) (site.onUpgrade e)
  | accept {site : Site} {session : WebSocketSession} (ok : Bool) (h : session ∈ site.pending) :
      SiteStep w dbPath masterSecret site (.accept session ok) (site.onAccept session ok)
  | error {site : Site} (session : WebSocketSession) :
      SiteStep w dbPath masterSecret site (.error session) (site.onError session)
  /-- How far the loop gets is left open: `sendFrame` locks the mutex of a session and calls
  `doWrite`, which locks it again. -/
  | broadcast {site : Site} (data : Bytes) {receivers : List WebSocketSession}
      (h : receivers ⊆ site.hub.broadcastFrame) :
      SiteStep w dbPath masterSecret site (.broadcast data receivers) site
  | restart {site : Site} {t : State}
      (h : Transition w dbPath masterSecret site.server .restart t) :
      SiteStep w dbPath masterSecret site .restart (Site.started t)

/-! ## The property -/

/-- The cookie resolves to a user who is approved and active. -/
def Entitled (w : World) (s : State) (e : HttpRequestEvent) : Prop :=
  ∃ userId, Authenticated s e userId ∧
    ∃ row, s.users.find (w.userKey userId) = some row ∧ row.isApproved = 1 ∧ row.isActive = 1

/-- The user the session was opened by. -/
def WebSocketSession.OpenedBy (session : WebSocketSession) (userId : Bytes) : Prop :=
  Authenticated session.server session.request userId

/-- Frames broadcast after an eviction do not go to the evicted user. -/
def Withheld (w : World) (later earlier : SiteLabel) : Prop :=
  ∀ x userId data receivers, earlier = .request x → Reports w x (.evict userId) →
    later = .broadcast data receivers → ∀ session ∈ receivers, ¬ session.OpenedBy userId

/-- After the history `h`, newest label first, no frame has reached an evicted user, and
every session of the hub was opened by an entitled one. -/
def NoIntruder (w : World) (h : List SiteLabel) (site : Site) : Prop :=
  (∀ session ∈ site.hub.sessions, Entitled w session.server session.request) ∧
    h.Pairwise (Withheld w)

/-! ## When it holds -/

/-- Upgrade requests come from entitled users. An eviction is one of a registered user, who
has no websocket session open or about to be. -/
def Harmless (w : World) (site : Site) : SiteLabel → Prop
  | .upgrade e => Entitled w site.server e
  | .request x => ∀ userId, Post x.request "/api/users/evict" →
      AdminCaller w site.server x.request → field w x.request "id" = some userId →
      userId ≠ str "admin" →
      site.server.users.find (w.userKey userId) ≠ none ∧
        ∀ session ∈ site.viewers, ¬ session.OpenedBy userId
  | _ => True

def HarmlessStep (w : World) (dbPath masterSecret : Bytes) (site : Site) (l : SiteLabel)
    (site' : Site) : Prop :=
  SiteStep w dbPath masterSecret site l site' ∧ Harmless w site l

/-- The user has a row, and is evicted. -/
def Evicted (w : World) (s : State) (userId : Bytes) : Prop :=
  ∃ row, s.users.find (w.userKey userId) = some row ∧ row.isActive = 0

/-- The invariant: viewers are entitled, and evicted users are no viewers. -/
structure SiteSound (w : World) (h : List SiteLabel) (site : Site) : Prop where
  entitled : ∀ session ∈ site.viewers, Entitled w session.server session.request
  evicted : ∀ x userId, .request x ∈ h → Reports w x (.evict userId) →
    Evicted w site.server userId ∧ ∀ session ∈ site.viewers, ¬ session.OpenedBy userId
  withheld : h.Pairwise (Withheld w)

theorem Evicted.not_entitled {s : State} {e : HttpRequestEvent} {userId : Bytes}
    (h : Evicted w s userId) (hentitled : Entitled w s e) : ¬ Authenticated s e userId := by
  obtain ⟨row, hrow, hevicted⟩ := h
  obtain ⟨userId', hauth', row', hrow', -, hactive⟩ := hentitled
  intro hauth
  rw [← hauth'.2, hauth.2, hrow] at hrow'
  cases hrow'
  omega

variable {h : List SiteLabel} {site site' : Site} {l : SiteLabel}

/-- A label that is no broadcast can be added to a history. -/
theorem pairwise_withheld_cons (hl : ∀ data receivers, l ≠ .broadcast data receivers)
    (hw : h.Pairwise (Withheld w)) : (l :: h).Pairwise (Withheld w) :=
  List.pairwise_cons.mpr
    ⟨fun _ _ _ _ data receivers _ _ hbroadcast => absurd hbroadcast (hl data receivers), hw⟩

/-- Fewer viewers of the same server are as sound. -/
theorem SiteSound.shrink (hs : SiteSound w h site) (hserver : site'.server = site.server)
    (hviewers : ∀ session ∈ site'.viewers, session ∈ site.viewers)
    (hrequest : ∀ x, l ≠ .request x) (hl : ∀ data receivers, l ≠ .broadcast data receivers) :
    SiteSound w (l :: h) site' where
  entitled session hsession := hs.entitled session (hviewers session hsession)
  evicted x userId hx hevict := by
    have hx' : .request x ∈ h := (List.mem_cons.mp hx).resolve_left (hrequest x).symm
    obtain ⟨hevicted, hnone⟩ := hs.evicted x userId hx' hevict
    rw [hserver]
    exact ⟨hevicted, fun session hsession => hnone session (hviewers session hsession)⟩
  withheld := pairwise_withheld_cons hl hs.withheld

theorem SiteSound.request (hjson : w.json.Documented) (hs : SiteSound w h site) {x : Exchange}
    {t : State} (hx : Served w site.server x t) (hharmless : Harmless w site (.request x)) :
    SiteSound w (.request x :: h) { site with server := t } where
  entitled := hs.entitled
  evicted y userId hy hevict := by
    rcases List.mem_cons.mp hy with hyx | hy
    · cases hyx
      obtain ⟨hadmin, hne, hinactive⟩ := hx.evict_event hjson hevict
      obtain ⟨hrow, hnone⟩ := hharmless userId hevict.post hadmin hevict.evict_field hne
      obtain ⟨row, hrow⟩ := Option.ne_none_iff_exists'.mp hrow
      exact ⟨hinactive row hrow, hnone⟩
    · obtain ⟨⟨row, hrow, hinactive⟩, hnone⟩ := hs.evicted y userId hy hevict
      exact ⟨(hx.rowsKept hjson).inactive hrow hinactive, hnone⟩
  withheld := pairwise_withheld_cons (by simp) hs.withheld

theorem SiteSound.upgrade (hs : SiteSound w h site) {e : HttpRequestEvent}
    (hentitled : Entitled w site.server e) : SiteSound w (.upgrade e :: h) (site.onUpgrade e) where
  entitled session hsession := by
    rcases Site.mem_viewers_onUpgrade hsession with rfl | hsession
    · exact hentitled
    · exact hs.entitled session hsession
  evicted x userId hx hevict := by
    obtain ⟨hevicted, hnone⟩ := hs.evicted x userId (by simpa using hx) hevict
    refine ⟨hevicted, fun session hsession => ?_⟩
    rcases Site.mem_viewers_onUpgrade hsession with rfl | hsession
    · exact hevicted.not_entitled hentitled
    · exact hnone session hsession
  withheld := pairwise_withheld_cons (by simp) hs.withheld

theorem SiteSound.broadcast (hs : SiteSound w h site) {data : Bytes}
    {receivers : List WebSocketSession} (hreceivers : receivers ⊆ site.hub.broadcastFrame) :
    SiteSound w (.broadcast data receivers :: h) site where
  entitled := hs.entitled
  evicted x userId hx := hs.evicted x userId (by simpa using hx)
  withheld := by
    refine List.pairwise_cons.mpr ⟨?_, hs.withheld⟩
    rintro _ hx x userId _ _ rfl hevict heq session hsession
    cases heq
    exact (hs.evicted x userId hx hevict).2 session
      (List.mem_append_right _ (hreceivers hsession))

theorem SiteSound.restart (hjson : w.json.Documented) (hs : SiteSound w h site) {t : State}
    (hstart : Transition w dbPath masterSecret site.server .restart t) :
    SiteSound w (.restart :: h) (Site.started t) where
  entitled session hsession := by simp [Site.started, Site.viewers] at hsession
  evicted x userId hx hevict := by
    obtain ⟨⟨row, hrow, hinactive⟩, -⟩ := hs.evicted x userId (by simpa using hx) hevict
    refine ⟨(hstart.rowsKept hjson).inactive hrow hinactive, fun session hsession => ?_⟩
    simp [Site.started, Site.viewers] at hsession
  withheld := pairwise_withheld_cons (by simp) hs.withheld

theorem SiteSound.step (hjson : w.json.Documented)
    (hstep : HarmlessStep w dbPath masterSecret site l site') (hs : SiteSound w h site) :
    SiteSound w (l :: h) site' := by
  obtain ⟨hstep, hharmless⟩ := hstep
  cases hstep with
  | request hx => exact hs.request hjson hx hharmless
  | upgrade e => exact hs.upgrade hharmless
  | accept ok hpending =>
    exact hs.shrink rfl (fun _ => Site.mem_viewers_onAccept hpending) (by simp) (by simp)
  | error session => exact hs.shrink rfl (fun _ => Site.mem_viewers_onError) (by simp) (by simp)
  | broadcast data hreceivers => exact hs.broadcast hreceivers
  | restart hstart => exact hs.restart hjson hstart

/-- In a run of harmless steps no frame reaches an intruder. -/
theorem no_intruder (hjson : w.json.Documented) {s : State}
    (hrun : Trace (HarmlessStep w dbPath masterSecret) (Site.started s) h site) :
    NoIntruder w h site := by
  have hstart : SiteSound w [] (Site.started s) :=
    ⟨by simp [Site.started, Site.viewers], by simp, .nil⟩
  have hsound := hrun.invariant_history (I := SiteSound w)
    (fun _ _ _ _ hs hstep => SiteSound.step hjson hstep hs) hstart
  exact ⟨fun session hsession => hsound.entitled session (List.mem_append_right _ hsession),
    hsound.withheld⟩

/-- The admin opens the page of the camera. -/
def Reference.upgradeAdmin : HttpRequestEvent := Reference.get "/ws" (Reference.cookie 0x64)

theorem Reference.upgradeAdmin_entitled :
    Entitled Reference.world Reference.loggedIn Reference.upgradeAdmin := by
  obtain ⟨hauth, hrow⟩ : callerId Reference.loggedIn Reference.upgradeAdmin = str "admin" ∧
      (Reference.loggedIn.users.find (Reference.world.userKey (str "admin"))).map
        (fun row => (row.isApproved, row.isActive)) = some (1, 1) := by decide +kernel
  obtain ⟨row, hrow, hflags⟩ := Option.map_eq_some_iff.mp hrow
  exact ⟨str "admin", ⟨by decide, hauth⟩, row, hrow, congrArg Prod.fst hflags,
    congrArg Prod.snd hflags⟩

theorem no_intruder_reference :
    let session : WebSocketSession := ⟨0, Reference.upgradeAdmin, Reference.loggedIn⟩
    NoIntruder Reference.world
      [.broadcast [0] [session], .accept session true, .upgrade Reference.upgradeAdmin,
        .request (Reference.exchange Reference.start Reference.loginAdmin)]
      ⟨Reference.loggedIn, [], ⟨[session]⟩, 1⟩ := by
  have hlogin : HarmlessStep Reference.world Reference.dbPath Reference.masterSecret
      (Site.started Reference.start)
      (.request (Reference.exchange Reference.start Reference.loginAdmin))
      (Site.started Reference.loggedIn) :=
    ⟨.request (Reference.served _ _), fun _ post => absurd post.1 (by decide)⟩
  refine no_intruder Reference.json_documented (.step (.step (.step (.step .refl hlogin)
    ⟨.upgrade _, Reference.upgradeAdmin_entitled⟩) ⟨.accept true ?_, trivial⟩)
    ⟨.broadcast [0] ?_, trivial⟩)
  · exact List.mem_singleton_self _
  · exact fun _ => id

/-! ## When it fails -/

/-- Whoever sends an upgrade request becomes a session of the hub. -/
theorem exists_unentitled {s : State} {e : HttpRequestEvent} (hnot : ¬ Entitled w s e) :
    ∃ h site, Trace (SiteStep w dbPath masterSecret) (Site.started s) h site ∧
      ∃ session ∈ site.hub.sessions, ¬ Entitled w session.server session.request :=
  ⟨_, _, .step (.step .refl (.upgrade e)) (.accept true (List.mem_singleton_self _)),
    ⟨0, e, s⟩, List.mem_singleton_self _, hnot⟩

/-- A user who has opened a websocket session goes on receiving frames after the eviction. -/
theorem exists_not_withheld {s t u : State} {userId : Bytes} {x : Exchange} {e : HttpRequestEvent}
    (hrun : Trace (SiteStep w dbPath masterSecret) (Site.started s) h (Site.started t))
    (hopened : Authenticated t e userId) (hx : Served w t x u)
    (hevict : Reports w x (.evict userId)) :
    ∃ h site, Trace (SiteStep w dbPath masterSecret) (Site.started s) h site ∧
      ¬ h.Pairwise (Withheld w) := by
  let session : WebSocketSession := ⟨0, e, t⟩
  have hwatching := (hrun.step (.upgrade e)).step (.accept true (List.mem_singleton_self session))
  have hevicted := hwatching.step (.request hx)
  refine ⟨_, _, hevicted.step (.broadcast [0] (List.Subset.refl [session])), fun hpairwise => ?_⟩
  have hwithheld := (List.pairwise_cons.mp hpairwise).1 _ List.mem_cons_self
  exact hwithheld x userId [0] _ rfl hevict rfl _ (List.mem_singleton_self _) hopened

/-- Bob opens the page of the camera. -/
def Reference.upgradeBob : HttpRequestEvent := Reference.get "/ws" (Reference.cookie 0x61)

theorem Reference.upgradeBob_authenticated :
    Authenticated Reference.watching Reference.upgradeBob (str "bob") :=
  ⟨by decide, by decide +kernel⟩

/-- Bob registers, is approved and logs in. -/
theorem Reference.run_watching :
    Trace (SiteStep Reference.world Reference.dbPath Reference.masterSecret)
      (Site.started Reference.start)
      [.request (Reference.exchange Reference.approved Reference.loginBob),
        .request (Reference.exchange Reference.administered
          (Reference.postAsAdmin "/api/users/approve")),
        .request (Reference.exchange Reference.registered Reference.loginAdmin),
        .request (Reference.exchange Reference.start Reference.registerBob)]
      (Site.started Reference.watching) :=
  .step (.step (.step (.step .refl (.request (Reference.served _ _)))
    (.request (Reference.served _ _))) (.request (Reference.served _ _)))
    (.request (Reference.served _ _))

theorem Reference.evict_reports :
    Reports Reference.world
      (Reference.exchange Reference.watching (Reference.postAsAdmin "/api/users/evict"))
      (.evict (str "bob")) := by
  have hstatus : (Reference.exchange Reference.watching
      (Reference.postAsAdmin "/api/users/evict")).published.map (·.statusCode) = [200] := by
    decide +kernel
  obtain ⟨r, hr, hstatus⟩ := List.map_eq_singleton_iff.mp hstatus
  exact .evict ⟨rfl, rfl⟩ rfl ⟨r, hr, hstatus⟩

/-- Both halves fail: an upgrade request without a cookie opens a session of the hub, and bob
goes on watching after his eviction. -/
theorem intruders :
    Fresh Reference.world Reference.dbPath Reference.masterSecret Reference.start ∧
    (∃ h site, Trace (SiteStep Reference.world Reference.dbPath Reference.masterSecret)
        (Site.started Reference.start) h site ∧
      ∃ session ∈ site.hub.sessions, ¬ Entitled Reference.world session.server session.request) ∧
    (∃ h site, Trace (SiteStep Reference.world Reference.dbPath Reference.masterSecret)
        (Site.started Reference.start) h site ∧ ¬ h.Pairwise (Withheld Reference.world)) := by
  refine ⟨Reference.start_fresh, exists_unentitled (e := Reference.get "/ws" []) ?_,
    exists_not_withheld Reference.run_watching Reference.upgradeBob_authenticated
      (Reference.served _ _) Reference.evict_reports⟩
  rintro ⟨userId, ⟨hne, hcaller⟩, -⟩
  exact hne hcaller.symm

end CCTVWebServer
