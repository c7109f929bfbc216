import CCTVWebServer.Foundation.Registry
import CCTVWebServer.Specification.Runs

/-!
# Requests as events of an account service

The account service of `Foundation.Registry` is what the server is for. Its state
is read off the users table and the session map, and each event off the exchange
that reports its success. Every dispatched request is one event of the service, or
none, whatever fails on the way.
-/

namespace CCTVWebServer

open Foundation

variable {w : World} {s t : State} {x : Exchange}

/-- Users and tokens are named by strings, and secrets are passwords. -/
abbrev Event := Registry.Event Bytes Bytes Bytes

/-! ## Events of exchanges -/

/-- The exchange is a request that was answered with success, and what it did. -/
inductive Reports (w : World) (x : Exchange) : Event → Prop where
  | register {userId password : Bytes} (post : Post x.request "/api/register")
      (hid : field w x.request "id" = some userId)
      (hpassword : field w x.request "password" = some password) (hok : x.Ok) :
      Reports w x (.register userId password)
  | approve {userId : Bytes} (post : Post x.request "/api/users/approve")
      (hid : field w x.request "id" = some userId) (hok : x.Ok) : Reports w x (.approve userId)
  | evict {userId : Bytes} (post : Post x.request "/api/users/evict")
      (hid : field w x.request "id" = some userId) (hok : x.Ok) : Reports w x (.evict userId)
  | update {password : Bytes} (post : Post x.request "/api/user/update")
      (hpassword : field w x.request "password" = some password) (hok : x.Ok) :
      Reports w x (.update (getSessionToken x.request.cookies)
        (if password = [] then none else some password))
  | login {userId password token body : Bytes} (post : Post x.request "/api/login")
      (hid : field w x.request "id" = some userId)
      (hpassword : field w x.request "password" = some password)
      (hbody : w.json.dump (messageJson "Success") = .ok body)
      (hresponse : x.published = [loginResponse x.request.connId body token]) :
      Reports w x (.login userId password token)
  | logout (post : Post x.request "/api/logout") (hok : x.Ok) :
      Reports w x (.logout (getSessionToken x.request.cookies))

/-- The url of the requests that report an event. -/
def eventUrl : Event → String
  | .register _ _ => "/api/register"
  | .approve _ => "/api/users/approve"
  | .evict _ => "/api/users/evict"
  | .update _ _ => "/api/user/update"
  | .login _ _ _ => "/api/login"
  | .logout _ => "/api/logout"
  | .restart => ""
  | .other => ""

theorem Reports.post {ev : Event} (h : Reports w x ev) : Post x.request (eventUrl ev) := by
  cases h <;> assumption

theorem Reports.ok {ev : Event} (h : Reports w x ev) : x.Ok := by
  cases h with
  | login _ _ _ _ hresponse => exact ⟨_, hresponse, rfl⟩
  | _ => assumption

theorem Reports.evict_field {userId : Bytes} (h : Reports w x (.evict userId)) :
    field w x.request "id" = some userId := by
  cases h with
  | evict _ hid => exact hid

theorem Reports.accountPost {ev : Event} (h : Reports w x ev) : AccountPost x.request := by
  cases h with
  | register post => exact .inl post
  | login post => exact .inr (.inl post)
  | logout post => exact .inr (.inr (.inl post))
  | update post => exact .inr (.inr (.inr (.inl post)))
  | approve post => exact .inr (.inr (.inr (.inr (.inl post))))
  | evict post => exact .inr (.inr (.inr (.inr (.inr post))))

/-- The token can be read off the response. -/
theorem loginResponse_inj {connId : Int} {body token token' : Bytes}
    (h : loginResponse connId body token = loginResponse connId body token') : token = token' := by
  have hbody := congrArg HttpResponseEvent.body h
  simp only [loginResponse, makeHttpResponse] at hbody
  have hheader := List.append_cancel_left
    (List.append_cancel_right (List.append_cancel_right hbody))
  exact List.append_cancel_left (List.append_cancel_right hheader)

/-- An exchange reports at most one event. -/
theorem Reports.unique {a b : Event} (ha : Reports w x a) (hb : Reports w x b) : a = b := by
  have hurl : eventUrl a = eventUrl b := str_inj.mp (ha.post.1.symm.trans hb.post.1)
  cases ha with
  | register _ hid hpassword =>
    cases hb with
    | register _ hid' hpassword' =>
      rw [Option.some.inj (hid.symm.trans hid'), Option.some.inj (hpassword.symm.trans hpassword')]
    | _ => exact absurd hurl (by simp [eventUrl])
  | approve _ hid =>
    cases hb with
    | approve _ hid' => rw [Option.some.inj (hid.symm.trans hid')]
    | _ => exact absurd hurl (by simp [eventUrl])
  | evict _ hid =>
    cases hb with
    | evict _ hid' => rw [Option.some.inj (hid.symm.trans hid')]
    | _ => exact absurd hurl (by simp [eventUrl])
  | update _ hpassword =>
    cases hb with
    | update _ hpassword' => rw [Option.some.inj (hpassword.symm.trans hpassword')]
    | _ => exact absurd hurl (by simp [eventUrl])
  | login _ hid hpassword hbody hresponse =>
    cases hb with
    | login _ hid' hpassword' hbody' hresponse' =>
      rw [Except.ok.inj (hbody.symm.trans hbody')] at hresponse
      have htoken := loginResponse_inj (List.singleton_inj.mp (hresponse.symm.trans hresponse'))
      rw [Option.some.inj (hid.symm.trans hid'), Option.some.inj (hpassword.symm.trans hpassword'),
        htoken]
    | _ => exact absurd hurl (by simp [eventUrl])
  | logout =>
    cases hb with
    | logout => rfl
    | _ => exact absurd hurl (by simp [eventUrl])

open Classical in
/-- The event of an exchange, `other` when it reports none. -/
noncomputable def eventOf (w : World) (x : Exchange) : Event :=
  if h : ∃ ev, Reports w x ev then h.choose else .other

theorem eventOf_of_reports {ev : Event} (h : Reports w x ev) : eventOf w x = ev := by
  have hex : ∃ ev, Reports w x ev := ⟨ev, h⟩
  rw [eventOf, dif_pos hex]
  exact hex.choose_spec.unique h

theorem eventOf_of_not_reports (h : ∀ ev, ¬ Reports w x ev) : eventOf w x = .other := by
  rw [eventOf, dif_neg]
  rintro ⟨ev, hev⟩
  exact h ev hev

theorem eventOf_eq_iff {ev : Event} (hother : ev ≠ .other) :
    eventOf w x = ev ↔ Reports w x ev := by
  refine ⟨fun h => ?_, eventOf_of_reports⟩
  by_cases hex : ∃ ev, Reports w x ev
  · obtain ⟨ev', hev'⟩ := hex
    rw [eventOf_of_reports hev'] at h
    rwa [← h]
  · rw [eventOf_of_not_reports fun ev hev => hex ⟨ev, hev⟩] at h
    exact absurd h.symm hother

/-! ## The server as an account service -/

/-- The verifier that is kept of a password. -/
def World.verifier (w : World) (userId password : Bytes) : Bytes := w.passwordHash password userId

/-- What a users row says about an account. -/
def UserRow.account (row : UserRow) : Account Bytes where
  verifier := row.passwordHash.val
  approved := row.isApproved ≠ 0
  active := row.isActive ≠ 0

/-- The account service that a state holds. -/
def State.registry (w : World) (s : State) : Registry Bytes Bytes Bytes where
  account userId := (s.users.find (w.userKey userId)).map UserRow.account
  session token := s.activeSessions.lookup token

theorem callerId_ne_nil {e : HttpRequestEvent} (h : callerId s e ≠ []) :
    s.activeSessions.lookup (getSessionToken e.cookies) = some (callerId s e) := by
  have htoken := getSessionToken_ne_nil h
  simp only [getUserIdFromSession, if_neg htoken] at h ⊢
  cases hs : s.activeSessions.lookup (getSessionToken e.cookies) with
  | none => simp [hs] at h
  | some userId => rfl

/-- An update of the row under a key changes one account. -/
theorem registry_update (hsha : Function.Injective w.sha256Digest) (userId : Bytes)
    (f : UserRow → UserRow) (hf : ∀ row, (f row).userIdHash = row.userIdHash)
    (g : Account Bytes → Account Bytes) (hfg : ∀ row, (f row).account = g row.account) :
    State.registry w { s with users := s.users.update (w.userKey userId) f hf } =
      (s.registry w).change userId g := by
  ext1
  · funext u
    simp only [State.registry, Registry.change, Table.find_update, World.userKey_inj hsha]
    split_ifs with hu
    · simp [Option.map_map, Function.comp_def, hfg]
    · rfl
  · rfl

/-- A new row is a new account, pending approval. -/
theorem registry_register (hsha : Function.Injective w.sha256Digest)
    {userId username password : Bytes} {row : UserRow}
    (hrow : RegisteredRow w s.key userId username password row)
    (hfree : s.users.find (w.userKey userId) = none) :
    ((Effect.register row).apply w s).registry w =
      (s.registry w).apply w.verifier (.register userId password) := by
  have haccount : row.account = ⟨w.verifier userId password, false, true⟩ := by
    simp [UserRow.account, World.verifier, hrow.passwordHash, hrow.isApproved, hrow.isActive]
  cases hinsert : s.users.insert row with
  | none =>
    rw [Table.insert_eq_none, hrow.userIdHash] at hinsert
    exact absurd hfree hinsert
  | some users =>
    ext1
    · funext u
      simp only [State.registry, Effect.apply, hinsert, Option.getD_some, Table.find_insert hinsert,
        hrow.userIdHash, World.userKey_inj hsha, Registry.apply, Function.update_apply]
      split_ifs with hu
      · simp [haccount]
      · rfl
    · rfl

theorem registry_login (userId password token : Bytes) :
    ((Effect.login token userId).apply w s).registry w =
      (s.registry w).apply w.verifier (.login userId password token) := by
  ext1
  · rfl
  · funext t
    simp only [State.registry, Effect.apply, Registry.apply, Function.update_apply]
    split_ifs with ht
    · rw [ht, AList.lookup_insert]
    · rw [AList.lookup_insert_ne ht]

theorem registry_logout (token : Bytes) :
    ((Effect.logout token).apply w s).registry w =
      (s.registry w).apply w.verifier (.logout token) := by
  ext1
  · rfl
  · funext t
    simp only [State.registry, Effect.apply, Registry.apply, Function.update_apply]
    split_ifs with ht
    · rw [ht, AList.lookup_erase]
    · rw [AList.lookup_erase_ne ht]

/-- The row and the sessions of an evicted user go together. -/
theorem registry_evict (hsha : Function.Injective w.sha256Digest) (userId : Bytes) :
    ((Effect.evict userId).apply w s).registry w =
      (s.registry w).apply w.verifier (.evict userId) := by
  ext1
  · have haccounts := congrArg Registry.account
      (registry_update (s := s) hsha userId UserRow.evict (fun _ => rfl)
        (fun a => { a with active := false }) fun _ => rfl)
    exact haccounts
  · funext t
    simp only [State.registry, Effect.apply, purgeSessions, lookup_eraseLoop_entries,
      Registry.apply, Registry.change]
    congr 1
    funext u
    simp

theorem registry_updateProfile (hsha : Function.Injective w.sha256Digest) {userId token : Bytes}
    (hsession : s.activeSessions.lookup token = some userId) (usernameEnc : SqlText)
    (password : Bytes) :
    ((Effect.updateProfile userId usernameEnc (w.newPasswordHash userId password)).apply w
        s).registry w =
      (s.registry w).apply w.verifier
        (.update token (if password = [] then none else some password)) := by
  have hregistry : (s.registry w).session token = some userId := hsession
  by_cases hpassword : password = []
  · simp only [Registry.apply, hregistry, if_pos hpassword, World.newPasswordHash]
    refine (registry_update hsha userId (UserRow.updateProfile usernameEnc none) (fun _ => rfl) id
      fun _ => rfl).trans ?_
    ext1
    · funext u
      simp [Registry.change]
    · rfl
  · simp only [Registry.apply, hregistry, if_neg hpassword, World.newPasswordHash]
    refine registry_update hsha userId
      (UserRow.updateProfile usernameEnc (some (bindText (w.passwordHash password userId))))
      (fun _ => rfl) (fun a => { a with verifier := w.verifier userId password }) fun row => ?_
    have hstored : (bindText (w.passwordHash password userId)).val = w.verifier userId password :=
      bindText_val (not_mem_toHex _)
    exact congrArg (fun v : Bytes => (⟨v, row.isApproved ≠ 0, row.isActive ≠ 0⟩ : Account Bytes))
      hstored

theorem not_accountPost_of_rtsp {e : HttpRequestEvent}
    (hurl : e.url = str "/api/rtsp" ∨ e.url = str "/api/rtsp/stop") : ¬ AccountPost e := by
  rcases hurl with hurl | hurl <;> simp [AccountPost, Post, hurl]

/-- A refused request, and one that is no account request, report nothing. -/
theorem not_reports_of_refused {r : HttpResponseEvent}
    (hpublished : x.published = [r] ∨ x.published = [] ∧ r.statusCode = 500)
    (refused : AccountPost x.request → r.statusCode ≠ 200) (ev : Event) : ¬ Reports w x ev := by
  intro h
  obtain ⟨r', hr', hok⟩ := h.ok
  rcases hpublished with hpublished | ⟨hpublished, -⟩
  · rw [hr', List.singleton_inj] at hpublished
    exact refused h.accountPost (hpublished ▸ hok)
  · rw [hr'] at hpublished
    cases hpublished

/-- Every exchange is a step of the account service. -/
theorem Served.step (hjson : w.json.Documented) (hsha : Function.Injective w.sha256Digest)
    (h : Served w s x t) :
    Registry.Step w.verifier (s.registry w) (eventOf w x) (t.registry w) := by
  obtain ⟨eff, r, ⟨n, p, rfl⟩, hanswer, hpublished⟩ := h.effect hjson
  show Registry.Step w.verifier (s.registry w) (eventOf w x) ((eff.apply w s).registry w)
  have hx (hok : r.statusCode = 200) : x.published = [r] := by
    rcases hpublished with hpublished | ⟨-, h500⟩
    · exact hpublished
    · omega
  cases hanswer with
  | quiet refused =>
    rw [eventOf_of_not_reports (not_reports_of_refused hpublished refused)]
    exact ⟨trivial, rfl⟩
  | @register userId username password row _ post hid _ hpassword _ hrow hfree hok =>
    rw [eventOf_of_reports (.register post hid hpassword ⟨r, hx hok, hok⟩)]
    exact ⟨by simp [Registry.Enabled, State.registry, hfree], registry_register hsha hrow hfree⟩
  | @login userId password token body user post hid hpassword hfetched hactive happroved hhash
      hbody =>
    rw [eventOf_of_reports (.login post hid hpassword hbody (hx rfl))]
    obtain ⟨row, openId, openName, hrow, -, -, rfl⟩ := hfetched
    have happroved' : row.isApproved ≠ 0 := happroved
    have hactive' : row.isActive ≠ 0 := hactive
    refine ⟨⟨row.account, ?_, ?_, ?_, hhash⟩, registry_login userId password token⟩
    · simp [State.registry, hrow]
    · simpa [UserRow.account] using happroved'
    · simpa [UserRow.account] using hactive'
  | logout post hcaller hok =>
    rw [eventOf_of_reports (.logout post ⟨r, hx hok, hok⟩)]
    exact ⟨trivial, registry_logout _⟩
  | updateProfile post hcaller _ hpassword _ hsealed hok =>
    rw [eventOf_of_reports (.update post hpassword ⟨r, hx hok, hok⟩)]
    have hsession := callerId_ne_nil hcaller
    refine ⟨?_, registry_updateProfile hsha hsession _ _⟩
    simp [Registry.Enabled, State.registry, hsession]
  | approve post _ hid hok =>
    rw [eventOf_of_reports (.approve post hid ⟨r, hx hok, hok⟩)]
    exact ⟨trivial, registry_update hsha _ _ _ _ fun _ => rfl⟩
  | evict post _ hid _ hok =>
    rw [eventOf_of_reports (.evict post hid ⟨r, hx hok, hok⟩)]
    exact ⟨trivial, registry_evict hsha _⟩
  | relay hurl =>
    rw [eventOf_of_not_reports (not_reports_of_refused hpublished fun hpost =>
      absurd hpost (not_accountPost_of_rtsp hurl))]
    exact ⟨trivial, rfl⟩

end CCTVWebServer
