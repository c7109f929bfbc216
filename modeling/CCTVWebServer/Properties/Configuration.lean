import CCTVWebServer.Reference
import CCTVWebServer.Specification.Accounts
import CCTVWebServer.Specification.Rtsp

/-!
# Replacing the camera configuration

A save deletes the old configuration before it encrypts and inserts the new one,
without a transaction. When one of the later steps fails the request is answered
with an error and there is no configuration any more, while the relayer goes on
with the old one. These failures are told apart from the harmless ones here, and
without them every run shows the configuration that was saved last.
-/

namespace CCTVWebServer

open Foundation

variable {w : World} {s t : State} {x : Exchange} {l : Label} {dbPath masterSecret name url : Bytes}

/-- The configuration was replaced and is relayed, or the request was refused and changed
nothing. -/
def Atomic (w : World) (s : State) (x : Exchange) (t : State) (name url : Bytes) : Prop :=
  ∃ r, x.published = [r] ∧
    ((r.statusCode = 200 ∧ latestConfig w t = some (name, url) ∧ t.relayer = ⟨true, url⟩) ∨
      (r.statusCode ≠ 200 ∧ latestConfig w t = latestConfig w s ∧ t.relayer = s.relayer))

/-- There is a configuration to lose, the calls up to its deletion succeed, and one of those
that store the new one does not. -/
def LosesConfig (w : World) (s : State) : Prop :=
  latestConfig w s ≠ none ∧ AllOk w s.calls (lookupCalls ++ [.sqlite]) ∧
    ¬ AllOk w (s.calls + lookupCalls.length + 1) saveCalls

theorem latestConfig_of_empty (h : s.rtspConfig.rows = []) : latestConfig w s = none := by
  rw [latestConfig_eq, RtspTable.latest, h]
  rfl

/-- A save is atomic unless the old configuration is lost. -/
theorem Served.atomic_iff (hjson : w.json.Documented) (hgcm : w.GcmDocumented)
    (hx : Served w s x t) (h : Submission w s x.request name url) :
    Atomic w s x t name url ↔ ¬ LosesConfig w s := by
  obtain ⟨r, u, hr, hsaved, rfl⟩ := hx.saved hjson h
  have hsame (u : State) (p : List HttpResponseEvent) :
      latestConfig w { u with published := p } = latestConfig w u :=
    SameConfig.latestConfig ⟨rfl, rfl⟩
  have hfailed (hstatus : r.statusCode ≠ 200) (hrelayer : u.relayer = s.relayer) :
      Atomic w s x { u with published := u.published ++ [r] } name url ↔
        latestConfig w u = latestConfig w s := by
    refine ⟨?_, fun heq => ⟨r, hr, .inr ⟨hstatus, (hsame u _).trans heq, hrelayer⟩⟩⟩
    rintro ⟨r', hr', ⟨hok, -⟩ | ⟨-, heq, -⟩⟩
    · cases hr.symm.trans hr'
      exact absurd hok hstatus
    · exact (hsame u _).symm.trans heq
  rcases hsaved with ⟨hlookup, hreplaced⟩ | ⟨hno, hstatus, hidle⟩
  · rcases hreplaced with ⟨hsave, hok, v, hstored, rfl⟩ | ⟨hfail, hstatus, n, rfl⟩
    · have hlatest := hstored.latestConfig hgcm
      obtain ⟨encName, encUrl, n, -, -, rfl⟩ := hstored
      refine iff_of_true ⟨r, hr, .inl ⟨hok, ?_, rfl⟩⟩ fun hloses => hloses.2.2 hsave
      rw [← hlatest]
      exact SameConfig.latestConfig ⟨rfl, rfl⟩
    · rw [hfailed hstatus rfl]
      by_cases hdelete : w.sqliteOk (s.calls + lookupCalls.length) = true
      · have hempty : latestConfig w { s.skip lookupCalls.length with
            rtspConfig := clearedConfig w (s.skip lookupCalls.length), calls := n } = none := by
          refine latestConfig_of_empty ?_
          rw [clearedConfig, State.calls_skip, if_pos hdelete]
          rfl
        have hcalls : AllOk w s.calls (lookupCalls ++ [.sqlite]) :=
          allOk_append.mpr ⟨hlookup, hdelete, trivial⟩
        rw [hempty]
        exact ⟨fun heq hloses => hloses.1 heq.symm,
          fun hkept => by_contra fun hne => hkept ⟨fun heq => hne heq.symm, hcalls, hfail⟩⟩
      · refine iff_of_true (SameConfig.latestConfig ⟨?_, rfl⟩) fun hloses => ?_
        · dsimp only
          rw [clearedConfig, State.calls_skip, if_neg hdelete]
          rfl
        · exact hdelete (allOk_append.mp hloses.2.1).2.1
  · rw [hfailed hstatus (by obtain ⟨n, rfl⟩ := hidle; rfl)]
    exact iff_of_true hidle.sameConfig.latestConfig
      fun hloses => hno (allOk_append.mp hloses.2.1).1

/-! ## Runs -/

/-- A save that was answered with 200. -/
def SavesConfig (w : World) (name url : Bytes) (l : Label) : Prop :=
  ∃ x, l = .request x ∧ Post x.request "/api/rtsp" ∧ field w x.request "name" = some name ∧
    field w x.request "url" = some url ∧ x.Ok

/-- A step in which no configuration is lost. -/
def CarefulStep (w : World) (dbPath masterSecret : Bytes) (s : State) (l : Label) (t : State) :
    Prop :=
  Transition w dbPath masterSecret s l t ∧
    ∀ x name url, l = .request x → Submission w s x.request name url → ¬ LosesConfig w s

theorem Transition.key (hjson : w.json.Documented) (hl : Transition w dbPath masterSecret s l t)
    (h : s.key = w.sha256Digest masterSecret) : t.key = w.sha256Digest masterSecret := by
  cases hl with
  | request hx =>
    obtain ⟨eff, r, ⟨n, p, rfl⟩, -⟩ := hx.effect hjson
    exact (effect_apply_key eff).trans h
  | restart hx =>
    obtain ⟨users, n, -, rfl⟩ := Started.of_run hx
    rfl

/-- Nothing but a save that was answered with 200 changes the configuration. -/
theorem CarefulStep.latestConfig (hjson : w.json.Documented) (hgcm : w.GcmDocumented)
    (hkey : s.key = w.sha256Digest masterSecret) (hl : CarefulStep w dbPath masterSecret s l t) :
    (∀ name url, SavesConfig w name url l → latestConfig w t = some (name, url)) ∧
      ((∀ name url, ¬ SavesConfig w name url l) → latestConfig w t = latestConfig w s) := by
  obtain ⟨hl, hcareful⟩ := hl
  cases hl with
  | restart hx =>
    obtain ⟨users, n, -, rfl⟩ := Started.of_run hx
    refine ⟨?_, fun _ => SameConfig.latestConfig ⟨rfl, hkey.symm⟩⟩
    rintro name url ⟨x, ⟨⟩, -⟩
  | @request _ x hx =>
    by_cases post : Post x.request "/api/rtsp"
    · by_cases hsubmission : ∃ name url, Submission w s x.request name url
      · obtain ⟨name, url, hsubmission⟩ := hsubmission
        obtain ⟨r, hr, hcase⟩ := (hx.atomic_iff hjson hgcm hsubmission).mpr
          (hcareful x name url rfl hsubmission)
        refine ⟨?_, fun hnone => ?_⟩
        · rintro name' url' ⟨_, ⟨⟩, -, hname, hurl, r', hr', hok⟩
          cases hsubmission.nameField.symm.trans hname
          cases hsubmission.urlField.symm.trans hurl
          cases hr.symm.trans hr'
          rcases hcase with ⟨-, hlatest, -⟩ | ⟨hstatus, -⟩
          · exact hlatest
          · exact absurd hok hstatus
        · rcases hcase with ⟨hok, -⟩ | ⟨-, hlatest, -⟩
          · exact absurd ⟨x, rfl, post, hsubmission.nameField, hsubmission.urlField, r, hr, hok⟩
              (hnone name url)
          · exact hlatest
      · have hrefused := hx.not_saved hjson post fun name url h => hsubmission ⟨name, url, h⟩
        refine ⟨?_, fun _ => hrefused.2.latestConfig⟩
        rintro name url ⟨_, ⟨⟩, -, -, -, hok⟩
        exact absurd hok hrefused.1
    · refine ⟨?_, fun _ => (hx.sameConfig hjson post).latestConfig⟩
      rintro name url ⟨_, ⟨⟩, post', -⟩
      exact absurd post' post

/-- In a run that loses no configuration, the stored one is that of the last save that was
answered with 200. -/
theorem latestConfig_iff_history (hjson : w.json.Documented) (hgcm : w.GcmDocumented)
    (hs : Fresh w dbPath masterSecret s) {h : List Label}
    (hrun : Trace (CarefulStep w dbPath masterSecret) s h t) (name url : Bytes) :
    latestConfig w t = some (name, url) ↔
      Since (fun l => ∀ name url, ¬ SavesConfig w name url l) (SavesConfig w name url) h := by
  obtain ⟨n, hs⟩ := hs
  obtain ⟨users, m, -, rfl⟩ := Started.of_run hs
  induction hrun with
  | refl =>
    rw [latestConfig_of_empty rfl]
    simp
  | @step h t u l hrun hl ih =>
    have hkey : t.key = w.sha256Digest masterSecret :=
      hrun.invariant (I := fun u => u.key = w.sha256Digest masterSecret)
        (fun _ _ _ hu hl => hl.1.key hjson hu) rfl
    obtain ⟨hsaves, hkeeps⟩ := hl.latestConfig hjson hgcm hkey
    rw [since_cons, ← ih]
    by_cases hsome : ∃ name url, SavesConfig w name url l
    · obtain ⟨name', url', hsave⟩ := hsome
      rw [hsaves _ _ hsave]
      constructor
      · rintro ⟨⟩
        exact .inl hsave
      · rintro (hsave' | ⟨hnone, -⟩)
        · exact (hsaves _ _ hsave).symm.trans (hsaves _ _ hsave')
        · exact absurd hsave (hnone _ _)
    · have hnone (name url : Bytes) : ¬ SavesConfig w name url l := fun h => hsome ⟨name, url, h⟩
      rw [hkeeps hnone]
      exact ⟨fun h => .inr ⟨hnone, h⟩, fun h => (h.resolve_left (hnone _ _)).2⟩

/-- A save is atomic exactly when it does not lose the configuration there was. In a run
without such losses an admin is shown the configuration of the last save that was answered
with 200. -/
theorem saveRtsp_atomic_iff (hjson : w.json.Documented) (hgcm : w.GcmDocumented) :
    (∀ s t x name url, Served w s x t → Submission w s x.request name url →
      (Atomic w s x t name url ↔ ¬ LosesConfig w s)) ∧
    ∀ s t h, Fresh w dbPath masterSecret s →
      Trace (CarefulStep w dbPath masterSecret) s h t →
      (∀ name url, latestConfig w t = some (name, url) ↔
        Since (fun l => ∀ name url, ¬ SavesConfig w name url l) (SavesConfig w name url) h) ∧
      ∀ x u body, Served w t x u → x.request.url = str "/api/rtsp" →
        x.request.method = str "GET" → AdminCaller w t x.request →
        AllOk w t.calls (lookupCalls ++ readCalls) →
        w.json.dump (shownConfig (latestConfig w t)) = .ok body →
        x.published = [⟨x.request.connId, 200,
          makeHttpResponse 200 "OK" (str "application/json") body⟩] := by
  refine ⟨fun s t x name url hx h => hx.atomic_iff hjson hgcm h, fun s t h hs hrun => ⟨?_, ?_⟩⟩
  · exact latestConfig_iff_history hjson hgcm hs hrun
  · exact fun x u body hx hurl hmethod hadmin hok hbody =>
      hx.getRtsp hjson hurl hmethod hadmin hok hbody

/-- The admin logs in and saves the first camera. -/
theorem saveRtsp_atomic_iff_reference :
    let s := Reference.loggedIn
    let e := Reference.saveCamera "yard" "rtsp://yard"
    let h := [Label.request (Reference.exchange s e),
      Label.request (Reference.exchange Reference.start Reference.loginAdmin)]
    (Atomic Reference.world s (Reference.exchange s e) (Reference.serve s e) (str "yard")
      (str "rtsp://yard") ↔ ¬ LosesConfig Reference.world s) ∧
    ∀ name url, latestConfig Reference.world (Reference.serve s e) = some (name, url) ↔
      Since (fun l => ∀ name url, ¬ SavesConfig Reference.world name url l)
        (SavesConfig Reference.world name url) h := by
  intro s e h
  have hreachable : Reachable Reference.world Reference.dbPath Reference.masterSecret s :=
    ⟨_, _, Reference.start_fresh, .step .refl (.request (Reference.served _ Reference.loginAdmin))⟩
  -- The state is computed once for all that is asked of it.
  obtain ⟨hcaller, hrole, hempty⟩ : callerId s e = str "admin" ∧
      (s.users.find (Reference.world.userKey (str "admin"))).map (·.role.val) =
        some (str "admin") ∧
      latestConfig Reference.world s = none := by decide +kernel
  have hsubmission : Submission Reference.world s e (str "yard") (str "rtsp://yard") :=
    ⟨⟨rfl, rfl⟩, hreachable.adminCaller Reference.json_documented Reference.sha256_injective
      Reference.gcm_documented hcaller hrole, by decide +kernel, by decide +kernel, by decide⟩
  have hlogin : CarefulStep Reference.world Reference.dbPath Reference.masterSecret
      Reference.start (.request (Reference.exchange Reference.start Reference.loginAdmin)) s := by
    refine ⟨.request (Reference.served _ _), ?_⟩
    rintro _ name url ⟨⟩ hlogin
    exact absurd hlogin.post.1 (by decide)
  have hsave : CarefulStep Reference.world Reference.dbPath Reference.masterSecret s
      (.request (Reference.exchange s e)) (Reference.serve s e) :=
    ⟨.request (Reference.served s e), fun _ _ _ _ _ hloses => hloses.1 hempty⟩
  obtain ⟨hatomic, hruns⟩ := @saveRtsp_atomic_iff Reference.world Reference.dbPath
    Reference.masterSecret Reference.json_documented Reference.gcm_documented
  exact ⟨hatomic _ _ _ _ _ (Reference.served s e) hsubmission,
    (hruns _ _ _ Reference.start_fresh (.step (.step .refl hlogin) hsave)).1⟩

/-- The admin has saved a camera in a world where a later insertion will fail. -/
def Reference.yardSaved : State :=
  after (failing 115) [saveCamera "yard" "rtsp://yard", loginAdmin]

/-- The next save. -/
def Reference.saveGate : HttpRequestEvent := saveCamera "gate" "rtsp://gate"

theorem Reference.yardSaved_reachable :
    Reachable (failing 115) Reference.dbPath Reference.masterSecret yardSaved :=
  after_reachable json_documented ⟨0, rfl⟩ [saveCamera "yard" "rtsp://yard", loginAdmin]

/-- The state is computed once for all that is asked of it. -/
theorem Reference.yardSaved_facts :
    (callerId yardSaved saveGate = str "admin" ∧
      (yardSaved.users.find ((failing 115).userKey (str "admin"))).map (·.role.val) =
        some (str "admin")) ∧
    latestConfig (failing 115) yardSaved = some (str "yard", str "rtsp://yard") ∧
    AllOk (failing 115) yardSaved.calls (lookupCalls ++ [.sqlite]) ∧
    ¬ AllOk (failing 115) (yardSaved.calls + lookupCalls.length + 1) saveCalls := by
  decide +kernel

theorem Reference.submission_gate :
    Submission (failing 115) yardSaved saveGate (str "gate") (str "rtsp://gate") where
  post := ⟨rfl, rfl⟩
  admin := Reachable.adminCaller (w := failing 115) json_documented sha256_injective
    (failing_gcm_documented 115) yardSaved_reachable yardSaved_facts.1.1 yardSaved_facts.1.2
  nameField := by decide +kernel
  urlField := by decide +kernel
  ne_nil := by decide

theorem Reference.losesConfig_gate : LosesConfig (failing 115) yardSaved := by
  obtain ⟨-, hyard, hcalls⟩ := yardSaved_facts
  exact ⟨by simp [hyard], hcalls⟩

/-- The insertion of the second camera fails. The request is answered with 500, there is no
camera left, and the relayer goes on with the first. -/
theorem saveRtsp_not_atomic :
    let w := Reference.failing 115
    let s := Reference.yardSaved
    let x : Exchange := ⟨Reference.saveGate, responses w .controller s Reference.saveGate⟩
    let t := finalState (dispatch w record .controller Reference.saveGate) s
    Reachable w Reference.dbPath Reference.masterSecret s ∧
      Submission w s x.request (str "gate") (str "rtsp://gate") ∧ Served w s x t ∧
      ¬ Atomic w s x t (str "gate") (str "rtsp://gate") := by
  have hserved := served_dispatch (w := Reference.failing 115) Reference.json_documented
    .controller Reference.saveGate Reference.yardSaved
  exact ⟨Reference.yardSaved_reachable, Reference.submission_gate, hserved, fun hatomic =>
    (hserved.atomic_iff Reference.json_documented (Reference.failing_gcm_documented 115)
      Reference.submission_gate).mp hatomic Reference.losesConfig_gate⟩

end CCTVWebServer
