import CCTVWebServer.Properties.Representation
import CCTVWebServer.Specification.Refinement

/-!
# Runs of the server are runs of the portal

Every response of a server whose libraries do not fail is one that the portal in the
clear gives to the same request, after any requests and restarts. What is true of the
portal is therefore true of the server.
-/

namespace CCTVWebServer

open Foundation

variable {w : World} {s t : State} {x : Exchange} {p q : Portal} {dbPath masterSecret : Bytes}

/-! ## Steps -/

/-- One step of the portal. It answers a request under a token of its choice, or starts again. -/
inductive Portal.Step (w : World) (self : ReplyServer) : Portal → Label → Portal → Prop where
  | request {p q : Portal} {x : Exchange} {token : Bytes} (htoken : IsToken token)
      (h : p.serve w self token x.request = (x.published, q)) : Step w self p (.request x) q
  | restart {p : Portal} : Step w self p .restart p.restart

/-- Handing over a response is not stored. -/
theorem Carries.record (h : Carries w s p) (r : HttpResponseEvent) :
    Carries w { s with published := s.published ++ [r] } p :=
  ⟨h.key, h.users, h.sessions, h.of_sameConfig ⟨rfl, rfl⟩, h.running, h.rtspUrl⟩

theorem dispatch_realizes (hw : w.Dependable) (hs : Reachable w dbPath masterSecret s)
    (h : Carries w s p) (self : ReplyServer) (e : HttpRequestEvent) :
    ∃ q, Portal.Step w self p (.request ⟨e, responses w self s e⟩) q ∧
      Carries w (finalState (dispatch w record self e) s) q := by
  have hspec := respond_realizes (e := e) hw hs h self
  cases hrun : (respond w self e).run s with
  | ok r u =>
    obtain ⟨token, q, htoken, hserve, hq⟩ := hspec.of_ok hrun
    have hfinal : finalState (dispatch w CCTVWebServer.record self e) s =
        { u with published := u.published ++ [r] } := by
      simp only [finalState, dispatch_record, EStateM.run_bind, hrun]
      rfl
    rw [responses_of_ok hw.json hrun, hfinal]
    exact ⟨q, .request htoken hserve, hq.record r⟩
  | error fault u =>
    obtain ⟨token, q, htoken, hserve, hq⟩ := hspec.of_error hrun
    have hfinal : finalState (dispatch w CCTVWebServer.record self e) s = u := by
      simp only [finalState, dispatch_record, EStateM.run_bind, hrun]
    rw [responses_of_error hw.json hrun, hfinal]
    exact ⟨q, .request htoken hserve, hq⟩

theorem Reachable.hasAdmin (hw : w.Dependable) (h : Reachable w dbPath masterSecret t) :
    t.users.find (w.userKey (str "admin")) ≠ none := by
  obtain ⟨s, h, hfresh, hrun⟩ := h
  obtain ⟨row, hrow, hinsert, -⟩ := hfresh.users hw.sqlite
  have hstart : s.users.find (w.userKey (str "admin")) = some row := by
    rw [Table.find_insert hinsert, hrow.userIdHash, if_pos rfl]
  obtain ⟨row', hrow', -⟩ := run_rowsKept hw.json hrun _ _ hstart
  simp [hrow']

/-- A restart keeps the members and the camera. -/
theorem Carries.restart (hw : w.Dependable) (hs : Reachable w dbPath masterSecret s)
    (h : Carries w s p) {n : Nat}
    (hinit : (init w (fun _ => ⟨s.users, s.rtspConfig⟩) dbPath masterSecret).run
      (State.started n) = .ok () t) : Carries w t p.restart := by
  have hkey := (hs.tableSound hw.json hw.sha256).1
  have husers := restart_users (hs.hasAdmin hw) hinit
  obtain ⟨users, m, -, rfl⟩ := Started.of_run hinit
  cases husers
  refine ⟨hkey ▸ h.key, ?_, fun _ => rfl, ?_, rfl, by simp [Portal.restart]⟩
  · rw [← hkey]
    exact h.users
  · exact h.of_sameConfig ⟨rfl, hkey.symm⟩

/-- A new server carries the new portal. -/
theorem Fresh.carries (hw : w.Dependable) (hs : Fresh w dbPath masterSecret s) :
    Carries w s (Portal.opened w) := by
  obtain ⟨row, hrow, hinsert, hsessions⟩ := hs.users hw.sqlite
  have hkey := hs.tableSound.1
  obtain ⟨n, hinit⟩ := hs
  have hstart := Started.of_run hinit
  have hrows := Table.rows_insert hinsert
  refine ⟨hkey ▸ hrow.userIdEnc.1, ?_, fun token => ?_, ?_, ?_, by simp [Portal.opened]⟩
  · unfold Table.Matches
    rw [hrows, hkey]
    refine .cons ?_ .nil
    exact ⟨hrow.userIdHash, hrow.userIdEnc, hrow.usernameEnc, hrow.passwordHash, hrow.role,
      hrow.isApproved, hrow.isActive⟩
  · rw [hsessions]
    rfl
  · obtain ⟨users, m, -, rfl⟩ := hstart
    rw [latestConfig_eq]
    rfl
  · obtain ⟨users, m, -, rfl⟩ := hstart
    rfl

/-! ## Runs -/

/-- Every run of the server, from a new database through any requests and restarts, is a run
of the portal with the same responses, and the server carries the portal at its end. -/
theorem server_refines_portal (hw : w.Dependable) (hs : Fresh w dbPath masterSecret s)
    {h : List Label} (hrun : Trace (Transition w dbPath masterSecret) s h t) :
    ∃ p, Trace (fun p l q => ∃ self, Portal.Step w self p l q) (Portal.opened w) h p ∧
      Carries w t p := by
  have hsim : ∀ u l v p, Reachable w dbPath masterSecret u ∧ Carries w u p →
      Transition w dbPath masterSecret u l v →
      ∃ q, (∃ self, Portal.Step w self p l q) ∧ Reachable w dbPath masterSecret v ∧
        Carries w v q := by
    rintro u l v p ⟨hreach, hcarries⟩ hl
    have hnext : Reachable w dbPath masterSecret v := hreach.trans (.step .refl hl)
    cases hl with
    | @request _ x hx =>
      obtain ⟨self, hpublished, rfl⟩ := hx.responses_eq
      obtain ⟨q, hq, hcarries'⟩ := dispatch_realizes hw hreach hcarries self x.request
      rw [hpublished]
      exact ⟨q, ⟨self, hq⟩, hnext, hcarries'⟩
    | restart hinit =>
      exact ⟨_, ⟨.controller, .restart⟩, hnext, hcarries.restart hw hreach hinit⟩
  have hstart : Reachable w dbPath masterSecret s ∧ Carries w s (Portal.opened w) :=
    ⟨⟨s, [], hs, .refl⟩, hs.carries hw⟩
  obtain ⟨p, hp, -, hcarries⟩ := hrun.forward hsim hstart
  exact ⟨p, hp, hcarries⟩

theorem Reference.dependable : Reference.world.Dependable :=
  ⟨Reference.json_documented, Reference.gcm_documented, Reference.sha256_injective,
    Reference.sqlite_ok, Reference.openssl_ok⟩

/-- Bob has registered, and the admin has logged in. -/
theorem server_refines_portal_reference :
    ∃ p, Trace (fun p l q => ∃ self, Portal.Step Reference.world self p l q)
      (Portal.opened Reference.world)
      [.request (Reference.exchange Reference.registered Reference.loginAdmin),
        .request (Reference.exchange Reference.start Reference.registerBob)] p ∧
      Carries Reference.world Reference.administered p :=
  server_refines_portal Reference.dependable Reference.start_fresh
    (.step (.step .refl (.request (Reference.served _ _))) (.request (Reference.served _ _)))

end CCTVWebServer
