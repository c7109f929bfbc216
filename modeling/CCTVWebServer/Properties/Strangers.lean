import CCTVWebServer.Reference
import CCTVWebServer.Specification.Accounts
import CCTVWebServer.Specification.Calls

/-!
# What a refused login tells

An unknown id, a banned account and a wrong password are refused with one text. But
an account that waits for its approval is answered with a text of its own, before
the password is looked at. So a stranger can tell such an account from the others.
What else shows is only which call to OpenSSL failed.
-/

namespace CCTVWebServer

open Foundation

variable {w : World} {s t : State} {e : HttpRequestEvent} {userId password : Bytes}

/-! ## What decides -/

/-- No account with this id has this password. -/
def WrongPassword (w : World) (s : State) (userId password : Bytes) : Prop :=
  ∀ row, s.users.find (w.userKey userId) = some row →
    row.passwordHash.val ≠ w.passwordHash password userId

/-- The lookup succeeds, and the account is active and waits for its approval. -/
def Awaits (w : World) (s : State) (userId : Bytes) : Prop :=
  AllOk w s.calls lookupCalls ∧
    ∃ user, Fetched w s userId user ∧ user.isActive ≠ 0 ∧ user.isApproved = 0

/-- The lookup succeeds, and the account is active and approved, but the hash of the password
cannot be computed. -/
def DerivationFails (w : World) (s : State) (userId : Bytes) : Prop :=
  AllOk w s.calls lookupCalls ∧
    (∃ user, Fetched w s userId user ∧ user.isActive ≠ 0 ∧ user.isApproved ≠ 0) ∧
    ¬ AllOk w (s.calls + lookupCalls.length) [.openssl]

/-- The two states look the same to somebody without the password: the account waits in both
or in neither, and the same call to OpenSSL fails, if one does. -/
structure SameToStranger (w : World) (s t : State) (userId : Bytes) : Prop where
  awaits : Awaits w s userId ↔ Awaits w t userId
  context : ContextFails w s.calls ↔ ContextFails w t.calls
  digest : DigestFails w s.calls ↔ DigestFails w t.calls
  derivation : DerivationFails w s userId ↔ DerivationFails w t userId

/-! ## Refusals -/

/-- The answers to a login with a wrong password. -/
inductive Refusal where
  | context
  | digest
  | awaiting
  | derivation
  | invalid
  deriving DecidableEq

namespace Refusal

/-- The condition under which an answer is given. -/
def Due (w : World) (s : State) (userId : Bytes) : Refusal → Prop
  | context => ContextFails w s.calls
  | digest => DigestFails w s.calls
  | awaiting => Awaits w s userId
  | derivation => DerivationFails w s userId
  | invalid => ¬ ContextFails w s.calls ∧ ¬ DigestFails w s.calls ∧ ¬ Awaits w s userId ∧
    ¬ DerivationFails w s userId

/-- The status code, its text, and the text of the error. -/
def answer : Refusal → Int × String × String
  | context => (500, "Internal Server Error", "Failed to create EVP_MD_CTX")
  | digest => (500, "Internal Server Error", "SHA256 digest failed")
  | awaiting => (401, "Unauthorized", "Account pending administrator approval")
  | derivation => (500, "Internal Server Error", "PBKDF2 password hashing failed")
  | invalid => (401, "Unauthorized", "Invalid ID or password")

/-- The HTTP response around the error. -/
def body (v : Refusal) : Bytes :=
  makeHttpResponse v.answer.1 v.answer.2.1 (str "application/json")
    (str "\x7b\"" ++ str "error" ++ str "\":\"" ++ str v.answer.2.2 ++ str "\"\x7d")

def event (connId : Int) (v : Refusal) : HttpResponseEvent := ⟨connId, v.answer.1, v.body⟩

/-- The refusal that the client has got. -/
def ofBody (bytes : Bytes) : Option Refusal :=
  [context, digest, awaiting, derivation, invalid].find? fun v => v.body = bytes

theorem ofBody_body (v : Refusal) : ofBody v.body = some v := by
  cases v with
  | context => decide +kernel
  | digest => decide +kernel
  | awaiting => decide +kernel
  | derivation => decide +kernel
  | invalid => decide +kernel

/-- No two answers are the same to the client. -/
theorem body_injective {v v' : Refusal} (h : v.body = v'.body) : v = v' := by
  have hsame := congrArg ofBody h
  rw [ofBody_body, ofBody_body] at hsame
  exact Option.some.inj hsame

theorem plain_text (v : Refusal) : Plain (str v.answer.2.2) := by
  cases v <;> decide

theorem reply_run (hdump : w.json.DumpsPlain) (v : Refusal) {E : Fault → State → Prop} :
    Ensures (reply w e v.answer.1 v.answer.2.1 (errorJson (str v.answer.2.2))) s
      (fun r _ => r = v.event e.connId) E := by
  have htext := hdump (str "error") (str v.answer.2.2) (by decide) v.plain_text
  simp only [reply, dump, errorJson, htext]
  rfl

/-! ## The conditions exclude each other -/

open Classical in
/-- The first condition that holds, in the order of the checks. -/
noncomputable def ofState (w : World) (s : State) (userId : Bytes) : Refusal :=
  if ContextFails w s.calls then context
  else if DigestFails w s.calls then digest
  else if Awaits w s userId then awaiting
  else if DerivationFails w s userId then derivation
  else invalid

theorem hash_of_lookup (h : AllOk w s.calls lookupCalls) :
    ¬ ContextFails w s.calls ∧ ¬ DigestFails w s.calls :=
  ⟨fun hno => hno ⟨h.1, trivial⟩, fun hno => hno.2 ⟨h.2.1, trivial⟩⟩

theorem not_awaits (h : DerivationFails w s userId) : ¬ Awaits w s userId := by
  obtain ⟨-, ⟨user, hfetched, -, happroved⟩, -⟩ := h
  rintro ⟨-, user', hfetched', -, hpending⟩
  exact happroved (hfetched'.unique hfetched ▸ hpending)

/-- A condition that holds is the first one that does. -/
theorem eq_ofState {v : Refusal} (h : v.Due w s userId) : v = ofState w s userId := by
  unfold ofState
  cases v with
  | context =>
    have hcontext : ContextFails w s.calls := h
    rw [if_pos hcontext]
  | digest =>
    have hdigest : DigestFails w s.calls := h
    have hcontext : ¬ ContextFails w s.calls := not_not.mpr hdigest.1
    rw [if_neg hcontext, if_pos hdigest]
  | awaiting =>
    have hawaits : Awaits w s userId := h
    obtain ⟨hcontext, hdigest⟩ := hash_of_lookup hawaits.1
    rw [if_neg hcontext, if_neg hdigest, if_pos hawaits]
  | derivation =>
    have hderivation : DerivationFails w s userId := h
    obtain ⟨hcontext, hdigest⟩ := hash_of_lookup hderivation.1
    rw [if_neg hcontext, if_neg hdigest, if_neg (not_awaits hderivation), if_pos hderivation]
  | invalid =>
    obtain ⟨hcontext, hdigest, hawaits, hderivation⟩ := h
    rw [if_neg hcontext, if_neg hdigest, if_neg hawaits, if_neg hderivation]

theorem due_unique {v v' : Refusal} (h : v.Due w s userId) (h' : v'.Due w s userId) : v = v' :=
  (eq_ofState h).trans (eq_ofState h').symm

theorem due_iff {v : Refusal} (h : v.Due w s userId) (v' : Refusal) :
    v'.Due w s userId ↔ v = v' := by
  constructor
  · exact due_unique h
  · rintro rfl
    exact h

/-- The common answer, when neither the flags of the account nor a failing call ask for another. -/
theorem invalid_due (hhash : AllOk w s.calls [.openssl, .openssl])
    (h : ∀ user, Fetched w s userId user → AllOk w s.calls lookupCalls → user.isActive = 0 ∨
      user.isApproved ≠ 0 ∧ AllOk w (s.calls + lookupCalls.length) [.openssl]) :
    invalid.Due w s userId := by
  refine ⟨fun hno => hno ⟨hhash.1, trivial⟩, fun hno => hno.2 ⟨hhash.2.1, trivial⟩, ?_, ?_⟩
  · intro hawaits
    obtain ⟨hok, user, hfetched, hactive, hpending⟩ := hawaits
    rcases h user hfetched hok with hbanned | ⟨happroved, -⟩
    · exact hactive hbanned
    · exact happroved hpending
  · intro hderivation
    obtain ⟨hok, ⟨user, hfetched, hactive, -⟩, hfails⟩ := hderivation
    rcases h user hfetched hok with hbanned | ⟨-, hderived⟩
    · exact hactive hbanned
    · exact hfails hderived

end Refusal

/-- The two states look the same exactly when they call for one answer. -/
theorem sameToStranger_iff {v v' : Refusal} (hs : v.Due w s userId) (ht : v'.Due w t userId) :
    SameToStranger w s t userId ↔ v = v' := by
  constructor
  · intro hsame
    refine Refusal.due_unique ?_ ht
    cases v with
    | context => exact hsame.context.mp hs
    | digest => exact hsame.digest.mp hs
    | awaiting => exact hsame.awaits.mp hs
    | derivation => exact hsame.derivation.mp hs
    | invalid =>
      obtain ⟨hcontext, hdigest, hawaits, hderivation⟩ := hs
      exact ⟨fun h => hcontext (hsame.context.mpr h), fun h => hdigest (hsame.digest.mpr h),
        fun h => hawaits (hsame.awaits.mpr h), fun h => hderivation (hsame.derivation.mpr h)⟩
  · rintro rfl
    have hboth (u : Refusal) : u.Due w s userId ↔ u.Due w t userId :=
      (Refusal.due_iff hs u).trans (Refusal.due_iff ht u).symm
    exact ⟨hboth .awaiting, hboth .context, hboth .digest, hboth .derivation⟩

/-! ## The request -/

theorem hashPassword_ends (password salt : Bytes) (n : Nat) :
    Ensures (hashPasswordPBKDF2 w password salt) n
      (fun hash k => AllOk w n [.openssl] ∧ hash = w.passwordHash password salt ∧ k = n + 1)
      (fun fault _ => ¬ AllOk w n [.openssl] ∧
        fault = .exception (str "PBKDF2 password hashing failed")) := by
  simp only [hashPasswordPBKDF2, openssl, ensures_bind, ensures_nextCall, ensures_ite,
    ensures_pure, ensures_throw, AllOk, World.callOk, and_true]
  exact ⟨fun hok => ⟨hok, rfl⟩, id⟩

theorem login_ends (hdump : w.json.DumpsPlain) (hid : field w e "id" = some userId)
    (hpassword : field w e "password" = some password)
    (hwrong : WrongPassword w s userId password) :
    Ensures (login w e) s
      (fun r _ => ∃ v : Refusal, v.Due w s userId ∧ r = v.event e.connId)
      (fun fault _ => ∃ v : Refusal, v.Due w s userId ∧ v.answer.1 = 500 ∧
        v.answer.2.1 = "Internal Server Error" ∧ fault = .exception (str v.answer.2.2)) := by
  obtain ⟨json, hparse, hvid⟩ := field_eq_some hid
  obtain ⟨json', hparse', hvpassword⟩ := field_eq_some hpassword
  cases hparse.symm.trans hparse'
  have hanswer (v : Refusal) (hdue : v.Due w s userId) (t : State) (E : Fault → State → Prop) :
      Ensures (reply w e v.answer.1 v.answer.2.1 (errorJson (str v.answer.2.2))) t
        (fun r _ => ∃ v : Refusal, v.Due w s userId ∧ r = v.event e.connId) E :=
    (v.reply_run hdump).mono (fun r _ hr => ⟨v, hdue, hr⟩) fun _ _ => id
  simp only [login, parseBody, value, hparse, hvid, hvpassword, pure_bind]
  refine (getUser_ends userId UserRecord.declared s).bind ?_ ?_
  · rintro ⟨found, user⟩ t ⟨hhash, ⟨user', hfetched, hok, heq, rfl⟩ | ⟨hno, rfl, -, -⟩⟩
    · obtain ⟨rfl, rfl⟩ := Prod.mk.inj heq
      by_cases hactive : user.isActive = 0
      · simp only [hactive, or_true, if_true]
        refine hanswer .invalid (Refusal.invalid_due hhash fun u hu _ => .inl ?_) _ _
        exact hu.unique hfetched ▸ hactive
      by_cases hpending : user.isApproved = 0
      · simp only [hactive, hpending, Bool.true_eq_false, or_self, if_false, if_true]
        exact hanswer .awaiting ⟨hok, user, hfetched, hactive, hpending⟩ _ _
      -- Only here is the password looked at.
      simp only [hactive, hpending, Bool.true_eq_false, or_self, if_false]
      rw [ensures_bind, outside, ensures_focus]
      refine (hashPassword_ends password userId _).mono ?_ ?_
      · rintro _ _ ⟨hderived, rfl, rfl⟩
        have hmismatch : w.passwordHash password userId ≠ user.passwordHash := by
          obtain ⟨row, openId, openName, hrow, -, -, rfl⟩ := hfetched
          exact (hwrong row hrow).symm
        rw [if_pos hmismatch]
        refine hanswer .invalid (Refusal.invalid_due hhash fun u hu _ => .inr ⟨?_, hderived⟩) _ _
        exact hu.unique hfetched ▸ hpending
      · rintro _ _ ⟨hfails, rfl⟩
        exact ⟨.derivation, ⟨hok, ⟨user, hfetched, hactive, hpending⟩, hfails⟩, rfl, rfl, rfl⟩
    · simp only [true_or, if_true]
      exact hanswer .invalid
        (Refusal.invalid_due hhash fun u hu hall => absurd hall (hno u hu)) _ _
  · rintro _ t ⟨⟨hfails, rfl⟩ | ⟨hfails, rfl⟩, -⟩
    · exact ⟨.context, hfails, rfl, rfl, rfl⟩
    · exact ⟨.digest, hfails, rfl, rfl, rfl⟩

/-- An exception is turned into a response with its text. -/
theorem respond_ends (hdump : w.json.DumpsPlain) (self : ReplyServer) (post : Post e "/api/login")
    (hid : field w e "id" = some userId) (hpassword : field w e "password" = some password)
    (hwrong : WrongPassword w s userId password) :
    Ensures (respond w self e) s
      (fun r _ => ∃ v : Refusal, v.Due w s userId ∧ r = v.event e.connId) (fun _ _ => False) := by
  have hapi : StartsWith e.url (str "/api/") := post_startsWith post (by decide)
  simp only [respond, staticReply_eq_none.mpr (not_servesFile_of_api hapi), endpointEvent,
    ensures_bind, ensures_tryCatch]
  rw [endpoints, if_neg (by simp [post.1]), if_pos (And.intro post.1 post.2), ensures_map]
  refine (login_ends hdump hid hpassword hwrong).mono (fun r _ hr => hr) ?_
  rintro _ t ⟨v, hdue, hcode, hstatus, rfl⟩
  simp only [ensures_map]
  rw [← hcode, ← hstatus]
  exact (v.reply_run hdump).mono (fun r _ hr => ⟨v, hdue, hr⟩) fun _ _ => id

/-- A login with a wrong password is answered by one of the refusals. -/
theorem login_refused (hjson : w.json.Documented) (hdump : w.json.DumpsPlain) (self : ReplyServer)
    (post : Post e "/api/login") (hid : field w e "id" = some userId)
    (hpassword : field w e "password" = some password)
    (hwrong : WrongPassword w s userId password) :
    ∃ v : Refusal, v.Due w s userId ∧ responses w self s e = [v.event e.connId] := by
  have hspec := respond_ends hdump self post hid hpassword hwrong
  cases hrun : (respond w self e).run s with
  | ok r t =>
    obtain ⟨v, hdue, rfl⟩ := hspec.of_ok hrun
    exact ⟨v, hdue, responses_of_ok hjson hrun⟩
  | error fault t => exact (hspec.of_error hrun).elim

/-! ## Two runs -/

/-- Without the password, two states are told apart by the answer to a login exactly when the
account waits for its approval in one of them, or another call to OpenSSL fails. -/
theorem login_responses_eq_iff (hjson : w.json.Documented) (hdump : w.json.DumpsPlain)
    (self : ReplyServer) (s t : State) (e : HttpRequestEvent) (userId password : Bytes)
    (post : Post e "/api/login") (hid : field w e "id" = some userId)
    (hpassword : field w e "password" = some password)
    (hs : WrongPassword w s userId password) (ht : WrongPassword w t userId password) :
    responses w self s e = responses w self t e ↔ SameToStranger w s t userId := by
  obtain ⟨v, hdue, hresponse⟩ := login_refused hjson hdump self post hid hpassword hs
  obtain ⟨v', hdue', hresponse'⟩ := login_refused hjson hdump self post hid hpassword ht
  rw [hresponse, hresponse', sameToStranger_iff hdue hdue', List.singleton_inj]
  constructor
  · intro heq
    exact Refusal.body_injective (congrArg HttpResponseEvent.body heq)
  · rintro rfl
    rfl

/-- Somebody tries a password for bob. -/
def Reference.guessBob : HttpRequestEvent :=
  post "/api/login" (body [("id", "bob"), ("password", "bob")]) []

theorem Reference.guessBob_fields : Post guessBob "/api/login" ∧
    field world guessBob "id" = some (str "bob") ∧
    field world guessBob "password" = some (str "bob") := by
  refine ⟨⟨rfl, rfl⟩, ?_, ?_⟩ <;> decide +kernel

theorem wrongPassword_of_map
    (h : (s.users.find (w.userKey userId)).map (·.passwordHash.val) ≠
      some (w.passwordHash password userId)) : WrongPassword w s userId password := by
  intro row hrow heq
  rw [hrow] at h
  exact h (congrArg some heq)

/-- Nothing fails, and bob has no account or a banned one. -/
theorem Reference.invalid_due {s : State} (h : ∀ row,
    s.users.find (world.userKey (str "bob")) = some row → row.isActive = 0) :
    Refusal.invalid.Due world s (str "bob") := by
  refine Refusal.invalid_due ⟨rfl, rfl, trivial⟩ fun user hfetched _ => .inl ?_
  obtain ⟨row, _, _, hrow, -, -, rfl⟩ := hfetched
  exact h row hrow

theorem Reference.start_noBob : start.users.find (world.userKey (str "bob")) = none := by
  have hnone : (start.users.find (world.userKey (str "bob"))).isNone := by decide +kernel
  exact Option.isNone_iff_eq_none.mp hnone

theorem Reference.start_wrongPassword : WrongPassword world start (str "bob") (str "bob") := by
  refine wrongPassword_of_map ?_
  rw [start_noBob]
  simp

/-- An unknown id and a banned account are answered alike. -/
theorem login_responses_eq_iff_evicted :
    responses Reference.world .controller Reference.start Reference.guessBob =
      responses Reference.world .controller Reference.evicted Reference.guessBob := by
  obtain ⟨post, hid, hpassword⟩ := Reference.guessBob_fields
  have hevicted : WrongPassword Reference.world Reference.evicted (str "bob") (str "bob") :=
    wrongPassword_of_map (by decide +kernel)
  refine (login_responses_eq_iff Reference.json_documented Reference.json_dumpsPlain .controller
    Reference.start Reference.evicted Reference.guessBob (str "bob") (str "bob") post hid hpassword
    Reference.start_wrongPassword hevicted).mpr ?_
  refine (sameToStranger_iff (Reference.invalid_due ?_) (Reference.invalid_due ?_)).mpr rfl
  · intro row hrow
    cases Reference.start_noBob.symm.trans hrow
  · intro row hrow
    obtain ⟨row', hrow', hbanned⟩ := Reference.evicted_bob
    cases hrow.symm.trans hrow'
    exact hbanned

/-- The answer tells that bob has registered. -/
theorem registeredBob_disclosed :
    let s := Reference.start
    let t := Reference.registered
    let e := Reference.guessBob
    Reachable Reference.world Reference.dbPath Reference.masterSecret s ∧
      Reachable Reference.world Reference.dbPath Reference.masterSecret t ∧
      Post e "/api/login" ∧ field Reference.world e "id" = some (str "bob") ∧
      field Reference.world e "password" = some (str "bob") ∧
      WrongPassword Reference.world s (str "bob") (str "bob") ∧
      WrongPassword Reference.world t (str "bob") (str "bob") ∧
      responses Reference.world .controller s e ≠ responses Reference.world .controller t e := by
  intro s t e
  obtain ⟨post, hid, hpassword⟩ := Reference.guessBob_fields
  have hreachable : Reachable Reference.world Reference.dbPath Reference.masterSecret t :=
    ⟨_, _, Reference.start_fresh, .step .refl (.request (Reference.served _ Reference.registerBob))⟩
  obtain ⟨hmismatch, hflags, hcalls⟩ :
      (t.users.find (Reference.world.userKey (str "bob"))).map (·.passwordHash.val) ≠
        some (Reference.world.passwordHash (str "bob") (str "bob")) ∧
      (t.users.find (Reference.world.userKey (str "bob"))).map
        (fun row => (row.isActive, row.isApproved)) = some (1, 0) ∧
      AllOk Reference.world t.calls lookupCalls := by decide +kernel
  have hwrong := wrongPassword_of_map hmismatch
  refine ⟨Reference.start_reachable, hreachable, post, hid, hpassword,
    Reference.start_wrongPassword, hwrong, fun heq => ?_⟩
  have hstart : Refusal.invalid.Due Reference.world s (str "bob") :=
    Reference.invalid_due fun row hrow => by cases Reference.start_noBob.symm.trans hrow
  have hawaits : Refusal.awaiting.Due Reference.world t (str "bob") := by
    obtain ⟨row, hrow, hrowflags⟩ := Option.map_eq_some_iff.mp hflags
    obtain ⟨username, hfetched⟩ := hreachable.fetched Reference.json_documented
      Reference.sha256_injective Reference.gcm_documented hrow
    obtain ⟨hactive, happroved⟩ := Prod.mk.inj hrowflags
    exact ⟨hcalls, _, hfetched, by simp [UserRow.record, hactive], happroved⟩
  obtain ⟨v, hdue, hresponse⟩ := login_refused Reference.json_documented Reference.json_dumpsPlain
    .controller post hid hpassword Reference.start_wrongPassword
  obtain ⟨v', hdue', hresponse'⟩ := login_refused Reference.json_documented
    Reference.json_dumpsPlain .controller post hid hpassword hwrong
  cases Refusal.due_unique hdue hstart
  cases Refusal.due_unique hdue' hawaits
  rw [hresponse, hresponse', List.singleton_inj] at heq
  cases Refusal.body_injective (congrArg HttpResponseEvent.body heq)

end CCTVWebServer
