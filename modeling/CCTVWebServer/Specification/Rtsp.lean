import CCTVWebServer.Specification.Calls

/-!
# The camera configuration

What a request does to the stored configuration and to the relayer, call by call.
A save clears the table first, so the old configuration is gone before it is known
whether the new one can be stored.
-/

namespace CCTVWebServer

open Foundation

variable {w : World} {s t : State} {x : Exchange} {e : HttpRequestEvent} {name url : Bytes}

/-! ## Reading -/

/-- The calls of `getLatestRtspConfig` for a table with a row. -/
def readCalls : List Library :=
  [Library.sqlite] ++ ([Library.sqlite] ++ (decryptCalls ++ decryptCalls))

/-- The name and the url of a row that opens. -/
def World.readConfig (w : World) (key : Bytes) (row : RtspRow) : Option (Bytes × Bytes) :=
  (w.opened key row.nameEnc.val).bind fun name =>
    (w.opened key row.urlEnc.val).map fun url => (name, url)

/-- The configuration that a result of `getLatestRtspConfig` reports. -/
def reportedConfig (result : Bool × RtspRecord) : Option (Bytes × Bytes) :=
  if result.1 then some (result.2.name, result.2.url) else none

/-- What `getLatestRtspConfig` reports when none of its calls fails. -/
def latestConfig (w : World) (s : State) : Option (Bytes × Bytes) :=
  match (getLatestRtspConfig w.reliable ⟨0, [], []⟩).run s with
  | .ok result _ => reportedConfig result
  | .error _ _ => none

theorem getLatestRtspConfig_uses (outRtsp : RtspRecord) (hok : AllOk w s.calls readCalls) :
    Ensures (getLatestRtspConfig w outRtsp) s
      (fun result t =>
        Idle s t ∧ reportedConfig result = s.rtspConfig.latest.bind (w.readConfig s.key))
      (fun _ _ => False) := by
  simp only [readCalls, allOk_append, List.length_cons, List.length_nil, Nat.zero_add] at hok
  obtain ⟨hprepare, hstep, hopenName, hopenUrl⟩ := hok
  refine run_sqlite (fun hno => absurd hprepare hno) fun _ => ?_
  refine run_sqlite (fun hno => absurd hstep hno) fun _ => ?_
  simp only [not_true_eq_false, reduceIte]
  rw [ensures_bind, ensures_get, State.rtspConfig_skip, State.rtspConfig_skip]
  have hidle : Idle s ((s.skip 1).skip 1) := (idle_skip _ _).trans (idle_skip _ _)
  cases s.rtspConfig.latest with
  | none => exact ⟨hidle, rfl⟩
  | some row =>
  simp only [Option.bind_some, World.readConfig]
  cases hname : w.opened s.key row.nameEnc.val with
  | none =>
    refine run_decrypt hidle.key fun openName t ht hopen => ?_
    cases openName with
    | none => exact ⟨hidle.trans ht, rfl⟩
    | some openName => exact absurd ((hopen.1 _ rfl).symm.trans hname) (by simp)
  | some openName =>
  refine run_decrypt_uses hname hidle.key (fun _ hno _ => absurd hopenName hno) fun _ => ?_
  have hidle' := hidle.trans (idle_skip _ decryptCalls.length)
  cases hurl : w.opened s.key row.urlEnc.val with
  | none =>
    refine run_decrypt hidle'.key fun openUrl t ht hopen => ?_
    cases openUrl with
    | none => exact ⟨hidle'.trans ht, rfl⟩
    | some openUrl => exact absurd ((hopen.1 _ rfl).symm.trans hurl) (by simp)
  | some openUrl =>
  refine run_decrypt_uses hurl hidle'.key (fun _ hno _ => absurd hopenUrl hno) fun _ => ?_
  exact ⟨hidle'.trans (idle_skip _ _), rfl⟩

theorem allOk_reliable (w : World) (n : Nat) (calls : List Library) :
    AllOk w.reliable n calls := by
  induction calls generalizing n with
  | nil => trivial
  | cons call calls ih => exact ⟨by cases call <;> rfl, ih (n + 1)⟩

theorem latestConfig_eq (w : World) (s : State) :
    latestConfig w s = s.rtspConfig.latest.bind (w.readConfig s.key) := by
  have hspec := getLatestRtspConfig_uses ⟨0, [], []⟩ (allOk_reliable w s.calls readCalls)
  unfold latestConfig
  cases hrun : (getLatestRtspConfig w.reliable ⟨0, [], []⟩).run s with
  | ok result u => exact (hspec.of_ok hrun).2
  | error fault u => exact (hspec.of_error hrun).elim

/-- The part of the state that the stored configuration is read from. -/
def SameConfig (s t : State) : Prop := t.rtspConfig = s.rtspConfig ∧ t.key = s.key

theorem Idle.sameConfig (h : Idle s t) : SameConfig s t := by
  obtain ⟨n, rfl⟩ := h
  exact ⟨rfl, rfl⟩

theorem SameConfig.latestConfig (h : SameConfig s t) : latestConfig w t = latestConfig w s := by
  rw [latestConfig_eq, latestConfig_eq, h.1, h.2]

/-! ## Writing -/

/-- The calls of `saveRtspConfig`. -/
def saveCalls : List Library :=
  [Library.sqlite] ++ (encryptCalls ++ (encryptCalls ++ [Library.sqlite]))

/-- The state differs by a configuration that was added. -/
def Stored (w : World) (name url : Bytes) (s t : State) : Prop :=
  ∃ encName encUrl n, w.Seals s.key name encName ∧ w.Seals s.key url encUrl ∧
    t = { s with
      rtspConfig := s.rtspConfig.insert (bindText encName) (bindText encUrl), calls := n }

theorem RtspTable.latest_insert (config : RtspTable) (nameEnc urlEnc : SqlText) :
    (config.insert nameEnc urlEnc).latest = some ⟨config.sequence + 1, nameEnc, urlEnc⟩ := by
  simp only [RtspTable.latest, RtspTable.insert, List.argmax_concat]
  cases h : List.argmax (fun row : RtspRow => row.id) config.rows with
  | none => rfl
  | some row =>
    have hbound := config.bounded row (List.argmax_mem h)
    exact if_pos (Nat.lt_succ_of_le hbound)

theorem Stored.latestConfig (hgcm : w.GcmDocumented) (h : Stored w name url s t) :
    latestConfig w t = some (name, url) := by
  obtain ⟨encName, encUrl, n, hname, hurl, rfl⟩ := h
  rw [latestConfig_eq, RtspTable.latest_insert, Option.bind_some, World.readConfig,
    opened_of_seals hgcm hname.bindText, opened_of_seals hgcm hurl.bindText]
  rfl

theorem saveRtspConfig_uses (name url : Bytes) (hkey : s.key.length = 32) :
    Ensures (saveRtspConfig w name url) s
      (fun saved t => (AllOk w s.calls saveCalls ∧ saved = true ∧ Stored w name url s t) ∨
        (¬ AllOk w s.calls saveCalls ∧ saved = false ∧ Idle s t))
      (fun fault t => ¬ AllOk w s.calls saveCalls ∧ Idle s t ∧ AsciiException fault) := by
  simp only [saveCalls, allOk_append]
  refine run_sqlite ?_ fun hprepare => ?_
  · exact fun hno => .inr ⟨fun h => hno h.1, rfl, idle_skip _ _⟩
  refine (encryptAES256GCM_uses name hkey).run_key (by rfl) ?_ fun encName hencName hname => ?_
  · exact fun fault t hno ht hfault => ⟨fun h => hno h.2.1, ht, hfault⟩
  refine (encryptAES256GCM_uses url hkey).run_key (by rfl) ?_ fun encUrl hencUrl hurl => ?_
  · exact fun fault t hno ht hfault => ⟨fun h => hno h.2.2.1, ht, hfault⟩
  refine run_sqlite ?_ fun hstep => ?_
  · exact fun hno => .inr ⟨fun h => hno h.2.2.2, rfl, idle_skip _ _⟩
  exact .inl ⟨⟨hprepare, hencName, hencUrl, hstep⟩, rfl, encName, encUrl, _, hname, hurl, rfl⟩

/-- The table after the attempt to clear it. -/
def clearedConfig (w : World) (s : State) : RtspTable :=
  if w.sqliteOk s.calls then s.rtspConfig.clear else s.rtspConfig

theorem clearRtspConfigs_uses (s : State) :
    Ensures (clearRtspConfigs w) s
      (fun _ t => t = { s.skip 1 with rtspConfig := clearedConfig w s }) (fun _ _ => False) := by
  simp only [clearRtspConfigs, attempt, executeQuery, ensures_bind, ensures_tryCatch, ensures_map,
    outside, ensures_focus, ensures_nextCall, ensures_ite, ensures_modify, ensures_throw,
    ensures_pure, clearedConfig]
  refine ⟨fun h => ?_, fun h => ?_⟩
  · rw [if_pos h]
    rfl
  · rw [if_neg h]
    rfl

/-- What becomes of the configuration and the relayer when a save is answered with `status`:
the first call is the deletion, the others are those of `saveRtspConfig`. -/
def Replaced (w : World) (name url : Bytes) (s : State) (status : Int) (t : State) : Prop :=
  (AllOk w (s.calls + 1) saveCalls ∧ status = 200 ∧
    ∃ u, Stored w name url { s with rtspConfig := clearedConfig w s } u ∧
      t = { u with relayer := u.relayer.start url }) ∨
  (¬ AllOk w (s.calls + 1) saveCalls ∧ status ≠ 200 ∧
    ∃ n, t = { s with rtspConfig := clearedConfig w s, calls := n })

theorem saveRtsp_uses (hjson : w.json.Documented) (hname : field w e "name" = some name)
    (hurl : field w e "url" = some url) (hne : name ≠ [] ∧ url ≠ []) (hkey : s.key.length = 32) :
    Ensures (saveRtsp w e) s (fun r t => Replaced w name url s r.statusCode t)
      (fun fault t => AsciiException fault ∧
        ∀ status : Int, status ≠ 200 → Replaced w name url s status t) := by
  obtain ⟨json, hparse, hvalue⟩ := field_eq_some hname
  obtain ⟨json', hparse', hvalue'⟩ := field_eq_some hurl
  cases hparse.symm.trans hparse'
  simp only [saveRtsp, parseBody, value, hparse, hvalue, hvalue', pure_bind]
  rw [if_neg (by simp [hne])]
  refine (clearRtspConfigs_uses s).bind ?_ fun _ _ => False.elim
  rintro _ _ rfl
  refine (saveRtspConfig_uses name url (by exact hkey)).bind ?_ ?_
  · rintro saved u (⟨hok, rfl, hstored⟩ | ⟨hno, rfl, n, rfl⟩)
    · simp only [reduceIte]
      rw [ensures_bind, ensures_modify]
      exact reply_run hjson (by decide) fun _ _ => .inl ⟨hok, rfl, u, hstored, rfl⟩
    · exact reply_run hjson (by decide) fun _ _ => .inr
        ⟨hno, (by decide : (500 : Int) ≠ 200), n, rfl⟩
  · rintro fault _ ⟨hno, ⟨n, rfl⟩, hfault⟩
    exact ⟨hfault, fun status hstatus => .inr ⟨hno, hstatus, n, rfl⟩⟩

/-! ## Requests -/

/-- What the endpoints do to the state `dispatch` does, and an exception becomes a 500. -/
theorem ensures_respond_of (hapi : StartsWith e.url (str "/api/"))
    (hjson : w.json.Documented) {Q : HttpResponseEvent → State → Prop} {E : State → Prop}
    (h : Ensures (endpoints w e) s (fun o t => ∃ r, o = some r ∧ Q r t) (fun fault t =>
      (AsciiException fault ∨ E t) ∧ ∀ r : HttpResponseEvent, r.statusCode = 500 → Q r t))
    (self : ReplyServer) : Ensures (respond w self e) s Q (fun _ => E) := by
  simp only [respond, staticReply_eq_none.mpr (not_servesFile_of_api hapi), endpointEvent,
    ensures_bind, ensures_tryCatch]
  refine h.mono ?_ ?_
  · rintro _ t ⟨r, rfl, hr⟩
    exact hr
  · rintro fault t ⟨hwhy, hQ⟩
    rcases hwhy with ⟨what, rfl, hascii⟩ | hE
    · simp only [ensures_map]
      refine reply_run hjson ?_ fun _ _ => hQ _ rfl
      rw [wellEncoded_errorJson]
      exact Utf8.valid_of_ascii hascii
    · cases fault with
      | deadlock => exact hE
      | exception what =>
        simp only [ensures_map]
        refine (reply_spec hjson).mono ?_ ?_
        · rintro r _ ⟨rfl, hstatus, -⟩
          exact hQ r hstatus
        · rintro _ _ ⟨rfl, -⟩
          exact hE

/-- What the endpoints leave alone, `dispatch` does. -/
theorem ensures_respond_frame {I : State → Prop} (hs : I s)
    (h : Ensures (endpoints w e) s (fun _ => I) (fun _ => I)) (self : ReplyServer) :
    Ensures (respond w self e) s (fun _ => I) (fun _ => I) := by
  have hreply {json : Json} {t : State} (ht : I t) (statusCode : Int) (statusText : String) :
      Ensures (reply w e statusCode statusText json) t (fun _ => I) (fun _ => I) := by
    unfold reply dump
    cases w.json.dump json <;> exact ht
  unfold respond
  cases staticReply w e with
  | some r => exact hs
  | none =>
    simp only [endpointEvent, ensures_bind, ensures_tryCatch]
    have hfallback (t : State) (ht : I t) :
        Ensures (fallbackEvent w self e) t (fun _ => I) (fun _ => I) := by
      unfold fallbackEvent
      cases self.handlers.lookup e.url with
      | none => exact hreply ht _ _
      | some handler =>
        dsimp only
        cases handler e <;> exact ht
    refine h.mono ?_ ?_
    · rintro (_ | r) t ht
      · exact hfallback t ht
      · exact ht
    · rintro (what | _) t ht
      · simp only [ensures_map]
        exact hreply ht _ _
      · exact ht

/-- The request saves a configuration: it comes from an admin and names one. -/
structure Submission (w : World) (s : State) (e : HttpRequestEvent) (name url : Bytes) : Prop where
  post : Post e "/api/rtsp"
  admin : AdminCaller w s e
  nameField : field w e "name" = some name
  urlField : field w e "url" = some url
  ne_nil : name ≠ [] ∧ url ≠ []

theorem Fetched.key_length {userId : Bytes} {user : UserRecord} (h : Fetched w s userId user) :
    s.key.length = 32 := by
  obtain ⟨row, openId, -, -, hid, -⟩ := h
  dsimp only [World.opened] at hid
  split_ifs at hid with hkey
  exact hkey.1

/-- Behind the lookup of the caller there is the admin guard, and then the endpoint. -/
theorem endpoints_of_rtsp (hurl : e.url = str "/api/rtsp") :
    endpoints w e = (do
      let callerId := getUserIdFromSession (← get).activeSessions e.cookies
      if callerId = [] then
        some <$> reply w e 401 "Unauthorized" (errorJson (str "Unauthorized"))
      else
        let (_, callerUser) ← getUser w callerId UserRecord.declared
        if callerUser.role ≠ str "admin" then
          some <$> reply w e 403 "Forbidden" (errorJson (str "Forbidden"))
        else if e.method = str "GET" then some <$> getRtsp w e
        else if e.method = str "POST" then some <$> saveRtsp w e
        else pure none) := by
  have hapi : StartsWith (str "/api/rtsp") (str "/api/") := by decide
  simp [endpoints, userEndpoints, adminEndpoints, hurl, hapi]

/-- What becomes of a request that saves a configuration. -/
def Saved (w : World) (name url : Bytes) (s : State) (status : Int) (t : State) : Prop :=
  (AllOk w s.calls lookupCalls ∧ Replaced w name url (s.skip lookupCalls.length) status t) ∨
    (¬ AllOk w s.calls lookupCalls ∧ status ≠ 200 ∧ Idle s t)

theorem Submission.respond (hjson : w.json.Documented) (h : Submission w s e name url)
    (self : ReplyServer) :
    Ensures (respond w self e) s (fun r t => Saved w name url s r.statusCode t)
      (fun _ _ => False) := by
  obtain ⟨hcaller, user, hfetched, hrole⟩ := h.admin
  have h500 (r : HttpResponseEvent) (hr : r.statusCode = 500) : r.statusCode ≠ 200 := by omega
  refine ensures_respond_of (post_startsWith h.post (by decide)) hjson ?_ self
  rw [endpoints_of_rtsp h.post.1, ensures_bind, ensures_get, if_neg hcaller]
  refine (getUser_uses hfetched UserRecord.declared).bind ?_ ?_
  · rintro ⟨found, callerUser⟩ t (⟨hok, heq, rfl⟩ | ⟨hno, ht, hdeclared⟩)
    · obtain ⟨rfl, rfl⟩ := Prod.mk.inj heq
      simp only [hrole, h.post.2, ne_eq, not_true_eq_false, reduceIte, str_inj, ensures_map,
        String.reduceEq]
      refine (saveRtsp_uses hjson h.nameField h.urlField h.ne_nil
        (by exact hfetched.key_length)).mono ?_ ?_
      · exact fun r t hr => ⟨r, rfl, .inl ⟨hok, hr⟩⟩
      · exact fun fault t ht => ⟨.inl ht.1, fun r hr => .inl ⟨hok, ht.2 _ (h500 r hr)⟩⟩
    · have hguest : callerUser.role ≠ str "admin" := by
        rw [hdeclared]
        decide
      dsimp only
      rw [if_pos hguest, ensures_map]
      refine reply_run hjson (by decide) fun _ _ => ⟨_, rfl, .inr ⟨hno, ?_, ht⟩⟩
      exact (by decide : (403 : Int) ≠ 200)
  · rintro fault t ⟨hno, ht, hfault⟩
    exact ⟨.inl hfault, fun r hr => .inr ⟨hno, h500 r hr, ht⟩⟩

theorem Served.saved (hjson : w.json.Documented) (hx : Served w s x t)
    (h : Submission w s x.request name url) :
    ∃ r u, x.published = [r] ∧ Saved w name url s r.statusCode u ∧
      t = { u with published := u.published ++ [r] } := by
  rcases hx.ensures hjson (h.respond hjson) with hsaved | ⟨-, hfalse⟩
  · exact hsaved
  · exact hfalse.elim

/-- An answer with an error status, where nothing has been changed. -/
theorem reply_refuses (hjson : w.json.Documented) (ht : Idle s t) {statusCode : Int}
    (hstatus : statusCode ≠ 200) (statusText : String) {json : Json} (hwell : json.wellEncoded) :
    Ensures (reply w e statusCode statusText json) t
      (fun r u => r.statusCode ≠ 200 ∧ SameConfig s u) (fun _ u => SameConfig s u) :=
  reply_run hjson hwell fun _ _ => ⟨hstatus, ht.sameConfig⟩

/-- A save whose body does not name a camera ends before the old one is deleted. -/
theorem saveRtsp_refuses (hjson : w.json.Documented) (ht : Idle s t)
    (hempty : ∀ name url, field w e "name" = some name → field w e "url" = some url →
      name = [] ∨ url = []) :
    Ensures (saveRtsp w e) t (fun r u => r.statusCode ≠ 200 ∧ SameConfig s u)
      (fun _ u => SameConfig s u) := by
  cases hparse : w.json.parse e.body with
  | error err =>
    simp only [saveRtsp, parseBody, hparse]
    exact ht.sameConfig
  | ok json =>
  simp only [saveRtsp, parseBody, value, hparse, pure_bind]
  cases hname : w.json.value json (str "name") [] with
  | error what => exact ht.sameConfig
  | ok name =>
  simp only [pure_bind]
  cases hurl : w.json.value json (str "url") [] with
  | error what => exact ht.sameConfig
  | ok url =>
    have hmissing : name = [] ∨ url = [] :=
      hempty name url (by simp [field, hparse, hname]) (by simp [field, hparse, hurl])
    simp only [pure_bind]
    rw [if_pos hmissing]
    exact reply_refuses hjson ht (by decide) _ (by decide)

/-- A save that nobody may make, or that names nothing, is refused and changes nothing. -/
theorem Served.not_saved (hjson : w.json.Documented) (hx : Served w s x t)
    (post : Post x.request "/api/rtsp")
    (hnone : ∀ name url, ¬ Submission w s x.request name url) : ¬ x.Ok ∧ SameConfig s t := by
  have hsome {r : HttpResponseEvent} {u : State} (h : r.statusCode ≠ 200 ∧ SameConfig s u) :
      ∃ r', some r = some r' ∧ r'.statusCode ≠ 200 ∧ SameConfig s u := ⟨r, rfl, h⟩
  have hbroken {fault : Fault} {u : State} (hu : SameConfig s u) :
      (AsciiException fault ∨ SameConfig s u) ∧ ∀ r : HttpResponseEvent, r.statusCode = 500 →
        r.statusCode ≠ 200 ∧ SameConfig s u :=
    ⟨.inr hu, fun r hr => ⟨by omega, hu⟩⟩
  have hrespond (self : ReplyServer) : Ensures (respond w self x.request) s
      (fun r t => r.statusCode ≠ 200 ∧ SameConfig s t) (fun _ => SameConfig s) := by
    refine ensures_respond_of (post_startsWith post (by decide)) hjson ?_ self
    rw [endpoints_of_rtsp post.1, ensures_bind, ensures_get]
    dsimp only
    by_cases hcaller : callerId s x.request = []
    · rw [if_pos hcaller, ensures_map]
      exact (reply_refuses hjson (Idle.refl s) (by decide) _ (by decide)).mono
        (fun _ _ => hsome) fun _ _ => hbroken
    rw [if_neg hcaller]
    refine (getUser_spec _ UserRecord.declared s).with_run.bind ?_ fun _ _ h =>
      hbroken h.1.1.sameConfig
    rintro ⟨found, callerUser⟩ t ⟨⟨ht, -⟩, hrun⟩
    dsimp only
    by_cases hrole : callerUser.role = str "admin"
    · have hfetched := CallerIs.fetched (e := x.request) ⟨found, t, hrun⟩ hrole
      have hadmin : AdminCaller w s x.request := ⟨hcaller, _, hfetched, hrole⟩
      have hempty : ∀ name url, field w x.request "name" = some name →
          field w x.request "url" = some url → name = [] ∨ url = [] := by
        intro name url hname hurl
        by_contra hne
        exact hnone name url ⟨post, hadmin, hname, hurl, not_or.mp hne⟩
      rw [if_neg (not_not.mpr hrole), if_neg (by simp [post.2]), if_pos post.2, ensures_map]
      exact (saveRtsp_refuses hjson ht hempty).mono (fun _ _ => hsome) fun _ _ => hbroken
    · rw [if_pos hrole, ensures_map]
      exact (reply_refuses hjson ht (by decide) _ (by decide)).mono (fun _ _ => hsome)
        fun _ _ => hbroken
  rcases hx.ensures hjson hrespond with ⟨r, u, hr, ⟨hstatus, hconfig⟩, rfl⟩ | ⟨hnil, hconfig⟩
  · refine ⟨?_, hconfig⟩
    rintro ⟨r', hr', hok⟩
    cases hr.symm.trans hr'
    exact hstatus hok
  · refine ⟨?_, hconfig⟩
    rintro ⟨r', hr', -⟩
    cases hnil.symm.trans hr'

theorem getRtsp_sameConfig (ht : Idle s t) :
    Ensures (getRtsp w e) t (fun _ => SameConfig s) (fun _ => SameConfig s) := by
  refine (getLatestRtspConfig_spec _ t).bind ?_ fun _ _ => False.elim
  rintro ⟨found, config⟩ u hu
  unfold reply dump
  dsimp only
  cases w.json.dump _ <;> exact (ht.trans hu).sameConfig

theorem stopRtsp_sameConfig (ht : Idle s t) :
    Ensures (stopRtsp w e) t (fun _ => SameConfig s) (fun _ => SameConfig s) := by
  obtain ⟨n, rfl⟩ := ht
  unfold stopRtsp reply dump
  rw [ensures_bind, ensures_modify]
  cases w.json.dump (messageJson "Stream stopped successfully") <;> exact ⟨rfl, rfl⟩

/-- The endpoints below `/api/rtsp` other than the save leave the configuration alone. -/
theorem endpoints_sameConfig (hurl : e.url = str "/api/rtsp" ∨ e.url = str "/api/rtsp/stop")
    (hpost : ¬ Post e "/api/rtsp") :
    Ensures (endpoints w e) s (fun _ => SameConfig s) (fun _ => SameConfig s) := by
  have hreply {t : State} (ht : Idle s t) (statusCode : Int) (statusText : String) (json : Json) :
      Ensures (reply w e statusCode statusText json) t (fun _ => SameConfig s)
        (fun _ => SameConfig s) := by
    unfold reply dump
    cases w.json.dump json <;> exact ht.sameConfig
  have hne {url : String} (h : url ≠ "/api/rtsp" ∧ url ≠ "/api/rtsp/stop") : e.url ≠ str url := by
    rintro heq
    rcases hurl with hurl | hurl
    · exact h.1 (str_inj.mp (heq.symm.trans hurl))
    · exact h.2 (str_inj.mp (heq.symm.trans hurl))
  have hskip {url : String} (h : url ≠ "/api/rtsp" ∧ url ≠ "/api/rtsp/stop") (method : String) :
      ¬ (e.url = str url ∧ e.method = str method) := fun heq => hne h heq.1
  rw [endpoints, if_neg (hskip (by decide) _), if_neg (hskip (by decide) _), ensures_bind,
    ensures_get, ensures_ite]
  refine ⟨fun _ => ?_, fun _ => ?_⟩
  · rw [ensures_map]
    exact hreply (Idle.refl s) _ _ _
  refine (getUser_spec _ UserRecord.declared s).bind ?_ fun _ _ h => h.1.sameConfig
  rintro ⟨found, callerUser⟩ t ⟨ht, -⟩
  simp only [userEndpoints, adminEndpoints, ensures_ite, ensures_map, ensures_pure]
  refine ⟨fun h => absurd h (hskip (by decide) _), fun _ => ?_⟩
  refine ⟨fun h => absurd h (hskip (by decide) _), fun _ => ?_⟩
  refine ⟨fun h => absurd h (hskip (by decide) _), fun _ => ?_⟩
  refine ⟨fun _ => hreply ht _ _ _, fun _ => ?_⟩
  refine ⟨fun h => absurd h (hskip (by decide) _), fun _ => ?_⟩
  refine ⟨fun h => absurd h (hskip (by decide) _), fun _ => ?_⟩
  refine ⟨fun h => absurd h (hskip (by decide) _), fun _ => ?_⟩
  refine ⟨fun _ => getRtsp_sameConfig ht, fun _ => ?_⟩
  exact ⟨fun h => absurd h hpost,
    fun _ => ⟨fun _ => stopRtsp_sameConfig ht, fun _ => ht.sameConfig⟩⟩

theorem Served.sameConfig (hjson : w.json.Documented) (hx : Served w s x t)
    (hpost : ¬ Post x.request "/api/rtsp") : SameConfig s t := by
  by_cases hurl : x.request.url = str "/api/rtsp" ∨ x.request.url = str "/api/rtsp/stop"
  · have hrespond (self : ReplyServer) :=
      ensures_respond_frame (w := w) (⟨rfl, rfl⟩ : SameConfig s s)
      (endpoints_sameConfig hurl hpost) self
    rcases hx.ensures hjson hrespond with ⟨r, u, -, hu, rfl⟩ | ⟨-, ht⟩
    · exact hu
    · exact ht
  · obtain ⟨eff, r, ⟨n, p, rfl⟩, hanswer, -⟩ := hx.effect hjson
    cases hanswer with
    | relay h => exact absurd h hurl
    | _ => exact ⟨rfl, rfl⟩

/-- The JSON that shows a configuration. -/
def shownConfig (config : Option (Bytes × Bytes)) : Json :=
  .array (config.toList.map fun c =>
    .object [(str "name", .string c.1), (str "url", .string c.2)])

/-- An admin whose calls succeed is shown the stored configuration. -/
theorem Served.getRtsp (hjson : w.json.Documented) (hx : Served w s x t)
    (hurl : x.request.url = str "/api/rtsp") (hmethod : x.request.method = str "GET")
    (hadmin : AdminCaller w s x.request) (hok : AllOk w s.calls (lookupCalls ++ readCalls))
    {body : Bytes} (hbody : w.json.dump (shownConfig (latestConfig w s)) = .ok body) :
    x.published = [⟨x.request.connId, 200,
      makeHttpResponse 200 "OK" (str "application/json") body⟩] := by
  obtain ⟨hcaller, user, hfetched, hrole⟩ := hadmin
  obtain ⟨hlookup, hread⟩ := allOk_append.mp hok
  have hapi : StartsWith x.request.url (str "/api/") := by
    rw [hurl]
    decide
  have hrespond (self : ReplyServer) : Ensures (respond w self x.request) s
      (fun r _ => r = ⟨x.request.connId, 200,
        makeHttpResponse 200 "OK" (str "application/json") body⟩) (fun _ _ => False) := by
    refine ensures_respond hapi ?_ self
    rw [endpoints_of_rtsp hurl, ensures_bind, ensures_get]
    dsimp only
    rw [if_neg hcaller]
    refine (getUser_uses hfetched UserRecord.declared).bind ?_ fun _ _ h => absurd hlookup h.1
    rintro ⟨found, callerUser⟩ t (⟨-, heq, rfl⟩ | ⟨hno, -⟩)
    · obtain ⟨rfl, rfl⟩ := Prod.mk.inj heq
      dsimp only
      rw [if_neg (not_not.mpr hrole), if_pos hmethod, ensures_map]
      refine (getLatestRtspConfig_uses _ hread).bind ?_ fun _ _ => False.elim
      rintro ⟨found, config⟩ u ⟨-, hconfig⟩
      have hreported : reportedConfig (found, config) = latestConfig w s :=
        hconfig.trans (latestConfig_eq w s).symm
      have hshown : Json.array (if found then [.object [(str "name", .string config.name),
          (str "url", .string config.url)]] else []) = shownConfig (latestConfig w s) := by
        rw [← hreported]
        cases found <;> rfl
      simp only [reply, dump, hshown, hbody]
      exact ⟨_, rfl, rfl⟩
    · exact absurd hlookup hno
  obtain ⟨r, hr, rfl⟩ := hx.published hjson hrespond
  exact hr

end CCTVWebServer
