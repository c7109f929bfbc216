import CCTVWebServer.Specification.Routing

/-!
# Two runs of the same request

`Alike` relates states that differ only in what a non-admin must not see: the
users rows under other keys, the sessions of other tokens, the camera
configuration and the relayer. The two processes may draw different random bytes.
A request that does not get past the admin guard ends alike in two such states:
with the same response, up to the token that a login issues.
-/

namespace CCTVWebServer

open Foundation

variable {w : World}

/-! ## Calls to the world -/

/-- From the two call numbers on, the same calls fail. -/
def Aligned (w : World) (i j : Nat) : Prop :=
  ∀ k, w.opensslOk (i + k) = w.opensslOk (j + k) ∧ w.sqliteOk (i + k) = w.sqliteOk (j + k)

theorem Aligned.refl (i : Nat) : Aligned w i i := fun _ => ⟨rfl, rfl⟩

theorem Aligned.succ {i j : Nat} (h : Aligned w i j) : Aligned w (i + 1) (j + 1) := by
  intro k
  have hk := h (1 + k)
  rwa [← Nat.add_assoc, ← Nat.add_assoc] at hk

/-- Where the same calls fail, the two pieces of code end alike. -/
def Couples {α β : Type} (w : World) (V : α → β → Prop) (m : Outside α) (n : Outside β) : Prop :=
  ∀ i j, Aligned w i j → Agree V (Aligned w) m n i j

section Couples

variable {α β α' β' : Type} {V : α → β → Prop} {V' : α' → β' → Prop}

theorem couples_pure {a : α} {b : β} (h : V a b) : Couples w V (pure a) (pure b) :=
  fun _ _ hij => agree_pure h hij

theorem couples_throw (fault : Fault) : Couples w V (throw fault) (throw fault) :=
  fun _ _ hij => agree_throw fault hij

theorem Couples.bind {m : Outside α} {n : Outside β} {f : α → Outside α'} {g : β → Outside β'}
    (h : Couples w V m n) (hf : ∀ a b, V a b → Couples w V' (f a) (g b)) :
    Couples w V' (m >>= f) (n >>= g) := fun i j hij =>
  (h i j hij).bind (fun _ _ => id) fun a b i' j' hab hij' => hf a b hab i' j' hij'

theorem couples_nextCall :
    Couples w (fun i j => w.opensslOk i = w.opensslOk j ∧ w.sqliteOk i = w.sqliteOk j)
      nextCall nextCall := fun _ _ hij => ⟨hij 0, hij.succ⟩

theorem couples_ite {c d : Prop} [Decidable c] [Decidable d] {m m' : Outside α} {n n' : Outside β}
    (hcd : c ↔ d) (hm : Couples w V m n) (hn : Couples w V m' n') :
    Couples w V (if c then m else m') (if d then n else n') := fun i j hij =>
  agree_ite hcd (fun _ _ => hm i j hij) fun _ _ => hn i j hij

theorem couples_openssl (what : String) : Couples w Eq (openssl w what) (openssl w what) :=
  couples_nextCall.bind fun _ _ h =>
    couples_ite (by rw [h.1]) (couples_pure rfl) (couples_throw _)

theorem couples_sqlite : Couples w Eq (sqlite w) (sqlite w) :=
  fun _ _ hij => ⟨(hij 0).2, hij.succ⟩

theorem couples_randBytes (length : Nat) (what : String) :
    Couples w (fun _ _ => True) (randBytes w length what) (randBytes w length what) :=
  couples_nextCall.bind fun _ _ h =>
    couples_ite (by rw [h.1]) (couples_pure trivial) (couples_throw _)

theorem couples_generateSessionToken :
    Couples w (fun _ _ => True) (generateSessionToken w) (generateSessionToken w) :=
  fun _ _ hij => ⟨trivial, hij.succ⟩

theorem Couples.attempt {m : Outside α} {n : Outside α} (h : Couples w Eq m n) :
    Couples w Eq (attempt m) (attempt n) := by
  intro i j hij
  refine ((h i j hij).map fun a b => congrArg some).tryCatch fun fault i' j' hij' => ?_
  cases fault with
  | exception what => exact agree_pure rfl hij'
  | deadlock => exact agree_throw _ hij'

theorem couples_sha256 (plaintext : Bytes) :
    Couples w Eq (sha256 w plaintext) (sha256 w plaintext) := by
  refine (couples_openssl _).bind fun _ _ _ => ?_
  exact (couples_openssl _).bind fun _ _ _ => couples_pure rfl

theorem couples_hashPasswordPBKDF2 (password salt : Bytes) :
    Couples w Eq (hashPasswordPBKDF2 w password salt) (hashPasswordPBKDF2 w password salt) :=
  (couples_openssl _).bind fun _ _ _ => couples_pure rfl

theorem couples_encryptAES256GCM (plaintext key : Bytes) :
    Couples w (fun _ _ => True) (encryptAES256GCM w plaintext key)
      (encryptAES256GCM w plaintext key) := by
  unfold encryptAES256GCM
  by_cases hkey : key.length ≠ 32
  · rw [if_pos hkey]
    exact couples_throw _
  rw [if_neg hkey]
  refine (couples_openssl _).bind fun _ _ _ => ?_
  refine (couples_randBytes _ _).bind fun iv iv' _ => ?_
  refine (couples_openssl _).bind fun _ _ _ => ?_
  refine (couples_openssl _).bind fun _ _ _ => ?_
  refine (couples_openssl _).bind fun _ _ _ => ?_
  refine (couples_openssl _).bind fun _ _ _ => ?_
  refine (couples_openssl _).bind fun _ _ _ => ?_
  exact (couples_openssl _).bind fun _ _ _ => couples_pure trivial

theorem couples_decryptAES256GCM (text key : Bytes) :
    Couples w Eq (decryptAES256GCM w text key) (decryptAES256GCM w text key) := by
  unfold decryptAES256GCM
  by_cases hkey : key.length ≠ 32
  · rw [if_pos hkey]
    exact couples_throw _
  by_cases hlen : text.length < (12 + 16) * 2
  · rw [if_neg hkey, if_pos hlen]
    exact couples_throw _
  by_cases hdata : (fromHex text).length < 12 + 16
  · rw [if_neg hkey, if_neg hlen, if_pos hdata]
    exact couples_throw _
  rw [if_neg hkey, if_neg hlen, if_neg hdata]
  refine (couples_openssl _).bind fun _ _ _ => ?_
  refine (couples_openssl _).bind fun _ _ _ => ?_
  refine (couples_openssl _).bind fun _ _ _ => ?_
  refine (couples_openssl _).bind fun _ _ _ => ?_
  refine (couples_openssl _).bind fun _ _ _ => ?_
  refine (couples_openssl _).bind fun _ _ _ => ?_
  cases w.gcmOpen key ((fromHex text).take 12) (((fromHex text).drop 12).take 16)
      ((fromHex text).drop 28) with
  | some plaintext => exact couples_pure rfl
  | none => exact couples_throw _

end Couples

/-! ## Database -/

variable {e : HttpRequestEvent} {s t : State} {keys : Set SqlText} {token : Bytes}

/-- The states agree on the rows under `keys` and on the session of `token`. -/
structure Alike (w : World) (keys : Set SqlText) (token : Bytes) (s t : State) : Prop where
  key : s.key = t.key
  calls : Aligned w s.calls t.calls
  users : ∀ k ∈ keys, s.users.find k = t.users.find k
  session : s.activeSessions.lookup token = t.activeSessions.lookup token

/-- Two pieces of code end alike, whatever states they leave. -/
abbrev EndAlike {α β : Type} (V : α → β → Prop) (m : Server α) (n : Server β)
    (s t : State) : Prop :=
  Agree V (fun _ _ => True) m n s t

section Run

variable {α β α' β' : Type} {V : α → β → Prop} {V' : α' → β' → Prop} {R : State → State → Prop}

/-- Calls to the world, with the code that follows them. -/
theorem Couples.run {m : Outside α} {n : Outside β} (hmn : Couples w V m n)
    {f : α → Server α'} {g : β → Server β'} (h : Alike w keys token s t)
    (hR : ∀ s t, Alike w keys token s t → R s t)
    (hf : ∀ a b s t, V a b → Alike w keys token s t → Agree V' R (f a) (g b) s t) :
    Agree V' R (outside m >>= f) (outside n >>= g) s t := by
  have hagree : Agree V (Alike w keys token) (outside m) (outside n) s t :=
    agree_focus (hmn _ _ h.calls) fun _ _ hcalls => ⟨h.key, hcalls, h.users, h.session⟩
  exact hagree.bind hR hf

/-- Calls that are given the key of the database. -/
theorem Couples.run_key {m : Bytes → Outside α} {n : Bytes → Outside β}
    (hmn : ∀ key, Couples w V (m key) (n key)) {f : α → Server α'} {g : β → Server β'}
    (h : Alike w keys token s t) (hR : ∀ s t, Alike w keys token s t → R s t)
    (hf : ∀ a b s t, V a b → Alike w keys token s t → Agree V' R (f a) (g b) s t) :
    Agree V' R (get >>= fun u => outside (m u.key) >>= f) (get >>= fun u => outside (n u.key) >>= g)
      s t := by
  refine agree_get ?_
  rw [h.key]
  exact (hmn t.key).run h hR hf

/-- The hash of a user id, with the code that follows. -/
theorem agree_sha256 (userId : Bytes) {f : Bytes → Server α'} {g : Bytes → Server β'}
    (h : Alike w keys token s t) (hR : ∀ s t, Alike w keys token s t → R s t)
    (hf : ∀ s t, Alike w keys token s t →
      Agree V' R (f (w.sha256Hex userId)) (g (w.sha256Hex userId)) s t) :
    Agree V' R (outside (sha256 w userId) >>= f) (outside (sha256 w userId) >>= g) s t := by
  have hhash : Couples w (fun a b => a = b ∧ a = w.sha256Hex userId) (sha256 w userId)
      (sha256 w userId) := fun i j hij =>
    (couples_sha256 userId i j hij).and_left (sha256_yields userId i)
  refine hhash.run h hR ?_
  rintro _ _ s t ⟨rfl, rfl⟩ h
  exact hf s t h

end Run

theorem agree_selectCount {idHash : SqlText} (hk : idHash ∈ keys) (h : Alike w keys token s t) :
    Agree Eq (Alike w keys token) (selectCount w idHash) (selectCount w idHash) s t := by
  refine couples_sqlite.run h (fun _ _ => id) ?_
  rintro ok _ s t rfl h
  cases ok with
  | false => exact agree_pure rfl h
  | true =>
    refine couples_sqlite.run h (fun _ _ => id) ?_
    rintro ok _ s t rfl h
    cases ok with
    | false => exact agree_pure rfl h
    | true => exact agree_get (agree_pure (by rw [Table.count_congr (h.users idHash hk)]) h)

/-- Whether a row can be inserted depends on its key only. -/
theorem agree_stepInsertUser {row row' : UserRow} (hrow : row.userIdHash = row'.userIdHash)
    (hk : row.userIdHash ∈ keys) (h : Alike w keys token s t) :
    EndAlike Eq (stepInsertUser w row) (stepInsertUser w row') s t := by
  refine couples_sqlite.run h (fun _ _ _ => trivial) ?_
  rintro ok _ s t rfl h
  cases ok with
  | false => exact agree_pure rfl trivial
  | true =>
    simp only [not_true_eq_false, reduceIte]
    refine agree_get ?_
    have hfree : s.users.insert row = none ↔ t.users.insert row' = none := by
      rw [Table.insert_eq_none, Table.insert_eq_none, ← hrow, h.users _ hk]
    cases hs : s.users.insert row with
    | none =>
      rw [hfree.mp hs]
      exact agree_pure rfl trivial
    | some users =>
      cases ht : t.users.insert row' with
      | none => exact absurd (hfree.mpr ht) (by simp [hs])
      | some users' => exact ⟨rfl, trivial⟩

theorem agree_stepUpdateUser {idHash : SqlText} {change change' : UserRow → UserRow}
    {hkey : ∀ row, (change row).userIdHash = row.userIdHash}
    {hkey' : ∀ row, (change' row).userIdHash = row.userIdHash} (h : Alike w keys token s t) :
    EndAlike Eq (stepUpdateUser w idHash change hkey) (stepUpdateUser w idHash change' hkey')
      s t := by
  refine couples_sqlite.run h (fun _ _ _ => trivial) ?_
  rintro ok _ s t rfl h
  cases ok with
  | false => exact agree_pure rfl trivial
  | true => exact ⟨rfl, trivial⟩

theorem agree_registerUser {userId username password : Bytes} (hk : w.userKey userId ∈ keys)
    (h : Alike w keys token s t) :
    EndAlike Eq (registerUser w userId username password)
      (registerUser w userId username password) s t := by
  refine agree_sha256 userId h (fun _ _ _ => trivial) fun s t h => ?_
  refine (agree_selectCount hk h).bind (fun _ _ _ => trivial) ?_
  rintro count _ s t rfl h
  cases count with
  | none => exact agree_pure rfl trivial
  | some c =>
    refine agree_ite Iff.rfl (fun _ _ => agree_pure rfl trivial) fun _ _ => ?_
    refine Couples.run_key (couples_encryptAES256GCM userId) h (fun _ _ _ => trivial) ?_
    intro encId encId' s t _ h
    refine Couples.run_key (couples_encryptAES256GCM username) h (fun _ _ _ => trivial) ?_
    intro encUsername encUsername' s t _ h
    refine (couples_hashPasswordPBKDF2 password userId).run h (fun _ _ _ => trivial) ?_
    rintro pwHash _ s t rfl h
    refine couples_sqlite.run h (fun _ _ _ => trivial) ?_
    rintro ok _ s t rfl h
    cases ok with
    | false => exact agree_pure rfl trivial
    | true => exact agree_stepInsertUser rfl hk h

theorem agree_updateUserProfile {userId newUsername newPassword : Bytes}
    (h : Alike w keys token s t) :
    EndAlike Eq (updateUserProfile w userId newUsername newPassword)
      (updateUserProfile w userId newUsername newPassword) s t := by
  refine agree_sha256 userId h (fun _ _ _ => trivial) fun s t h => ?_
  refine couples_sqlite.run h (fun _ _ _ => trivial) ?_
  rintro ok _ s t rfl h
  cases ok with
  | false => exact agree_pure rfl trivial
  | true =>
    refine Couples.run_key (couples_encryptAES256GCM newUsername) h (fun _ _ _ => trivial) ?_
    intro encUsername encUsername' s t _ h
    refine agree_ite Iff.rfl (fun _ _ => ?_) fun _ _ => agree_stepUpdateUser h
    refine (couples_hashPasswordPBKDF2 newPassword userId).run h (fun _ _ _ => trivial) ?_
    exact fun _ _ s t _ h => agree_stepUpdateUser h

theorem agree_getUser {userId : Bytes} (hk : w.userKey userId ∈ keys) (outUser : UserRecord)
    (h : Alike w keys token s t) :
    Agree Eq (Alike w keys token) (getUser w userId outUser) (getUser w userId outUser) s t := by
  refine agree_sha256 userId h (fun _ _ => id) fun s t h => ?_
  refine couples_sqlite.run h (fun _ _ => id) ?_
  rintro ok _ s t rfl h
  cases ok with
  | false => exact agree_pure rfl h
  | true =>
  refine couples_sqlite.run h (fun _ _ => id) ?_
  rintro ok _ s t rfl h
  cases ok with
  | false => exact agree_pure rfl h
  | true =>
  simp only [not_true_eq_false, reduceIte]
  refine agree_get ?_
  have hrow : s.users.find (bindText (w.sha256Hex userId)) =
      t.users.find (bindText (w.sha256Hex userId)) := h.users _ hk
  rw [hrow]
  cases t.users.find (bindText (w.sha256Hex userId)) with
  | none => exact agree_pure rfl h
  | some row =>
  refine Couples.run_key
    (fun key => (couples_decryptAES256GCM row.userIdEnc.val key).attempt) h (fun _ _ => id) ?_
  rintro openId _ s t rfl h
  cases openId with
  | none => exact agree_pure rfl h
  | some openId =>
  refine Couples.run_key
    (fun key => (couples_decryptAES256GCM row.usernameEnc.val key).attempt) h (fun _ _ => id) ?_
  rintro openName _ s t rfl h
  cases openName <;> exact agree_pure rfl h

/-! ## Endpoints -/

/-- The same response, up to the token that a login issues. -/
def UpToToken (r r' : HttpResponseEvent) : Prop :=
  r = r' ∨ ∃ connId body newToken newToken',
    r = loginResponse connId body newToken ∧ r' = loginResponse connId body newToken'

theorem agree_reply {statusCode : Int} {statusText : String} {json : Json} {extraHeaders : Bytes} :
    EndAlike UpToToken (reply w e statusCode statusText json extraHeaders)
      (reply w e statusCode statusText json extraHeaders) s t := by
  unfold reply dump
  cases w.json.dump json with
  | ok text => exact agree_pure (.inl rfl) trivial
  | error what => exact agree_throw _ trivial

/-- The responses that hand over the two new tokens. -/
theorem agree_reply_login {newToken newToken' : Bytes} :
    EndAlike UpToToken (reply w e 200 "OK" (messageJson "Success") (sessionHeader newToken))
      (reply w e 200 "OK" (messageJson "Success") (sessionHeader newToken')) s t := by
  unfold reply dump
  cases w.json.dump (messageJson "Success") with
  | ok text => exact agree_pure (.inr ⟨e.connId, text, newToken, newToken', rfl, rfl⟩) trivial
  | error what => exact agree_throw _ trivial

section Body

variable {α : Type} {V : α → α → Prop}

theorem agree_parseBody {f : Json → Server α}
    (hf : ∀ json, w.json.parse e.body = .ok json → EndAlike V (f json) (f json) s t) :
    EndAlike V (parseBody w e.body >>= f) (parseBody w e.body >>= f) s t := by
  unfold parseBody
  cases hp : w.json.parse e.body with
  | ok json => exact hf json hp
  | error err => exact agree_throw _ trivial

theorem agree_value {json : Json} (hp : w.json.parse e.body = .ok json) {key : String}
    {f : Bytes → Server α}
    (hf : ∀ text, field w e key = some text → EndAlike V (f text) (f text) s t) :
    EndAlike V (value w json key >>= f) (value w json key >>= f) s t := by
  unfold value
  cases hv : w.json.value json (str key) [] with
  | ok text => exact hf text (by simp [field, hp, hv])
  | error what => exact agree_throw _ trivial

end Body

theorem agree_register (hk : ∀ userId, field w e "id" = some userId → w.userKey userId ∈ keys)
    (h : Alike w keys token s t) : EndAlike UpToToken (register w e) (register w e) s t := by
  refine agree_parseBody fun json hp => ?_
  refine agree_value hp fun userId hid => ?_
  refine agree_value hp fun username _ => ?_
  refine agree_value hp fun password _ => ?_
  refine agree_ite Iff.rfl (fun _ _ => agree_reply) fun _ _ => ?_
  refine (agree_registerUser (hk userId hid) h).bind (fun _ _ => id) ?_
  rintro done _ s t rfl _
  exact agree_ite Iff.rfl (fun _ _ => agree_reply) fun _ _ => agree_reply

theorem agree_login (hk : ∀ userId, field w e "id" = some userId → w.userKey userId ∈ keys)
    (h : Alike w keys token s t) : EndAlike UpToToken (login w e) (login w e) s t := by
  refine agree_parseBody fun json hp => ?_
  refine agree_value hp fun userId hid => ?_
  refine agree_value hp fun password _ => ?_
  refine (agree_getUser (hk userId hid) UserRecord.declared h).bind (fun _ _ _ => trivial) ?_
  rintro ⟨found, user⟩ _ s t rfl h
  refine agree_ite Iff.rfl (fun _ _ => agree_reply) fun _ _ => ?_
  refine agree_ite Iff.rfl (fun _ _ => agree_reply) fun _ _ => ?_
  refine (couples_hashPasswordPBKDF2 password userId).run h (fun _ _ _ => trivial) ?_
  rintro calculatedHash _ s t rfl h
  refine agree_ite Iff.rfl (fun _ _ => agree_reply) fun _ _ => ?_
  refine couples_generateSessionToken.run h (fun _ _ _ => trivial) ?_
  intro newToken newToken' s t _ _
  exact (agree_modify trivial).bind (fun _ _ => id) fun _ _ _ _ _ _ => agree_reply_login

theorem agree_logout : EndAlike UpToToken (logout w e) (logout w e) s t := by
  unfold logout
  refine agree_ite Iff.rfl (fun _ _ => ?_) fun _ _ => agree_reply
  exact (agree_modify trivial).bind (fun _ _ => id) fun _ _ _ _ _ _ => agree_reply

theorem agree_updateProfile (userId : Bytes) (h : Alike w keys token s t) :
    EndAlike UpToToken (updateProfile w e userId) (updateProfile w e userId) s t := by
  refine agree_parseBody fun json hp => ?_
  refine agree_value hp fun username _ => ?_
  refine agree_value hp fun password _ => ?_
  refine agree_ite Iff.rfl (fun _ _ => agree_reply) fun _ _ => ?_
  refine (agree_updateUserProfile h).bind (fun _ _ => id) ?_
  rintro done _ s t rfl _
  exact agree_ite Iff.rfl (fun _ _ => agree_reply) fun _ _ => agree_reply

theorem agree_some {m n : Server HttpResponseEvent} (h : EndAlike UpToToken m n s t) :
    EndAlike (Option.Rel UpToToken) (some <$> m) (some <$> n) s t :=
  h.map fun _ _ => .some

/-- The endpoints, for a caller who is not an admin. -/
theorem agree_endpoints (hadmin : ¬ AdminCaller w s e)
    (hpublic : Post e "/api/register" ∨ Post e "/api/login" →
      ∀ userId, field w e "id" = some userId → w.userKey userId ∈ keys)
    (hcaller : w.userKey (callerId s e) ∈ keys)
    (h : Alike w keys (getSessionToken e.cookies) s t) :
    EndAlike (Option.Rel UpToToken) (endpoints w e) (endpoints w e) s t := by
  refine agree_ite Iff.rfl (fun hpost _ => agree_some (agree_register (hpublic (.inl hpost)) h))
    fun _ _ => ?_
  refine agree_ite Iff.rfl (fun hpost _ => agree_some (agree_login (hpublic (.inr hpost)) h))
    fun _ _ => ?_
  have hid : getUserIdFromSession t.activeSessions e.cookies = callerId s e := by
    simp only [getUserIdFromSession, h.session]
  refine agree_get ?_
  dsimp only
  rw [hid]
  refine agree_ite Iff.rfl (fun _ _ => agree_some agree_reply) fun hguard _ => ?_
  have hrun : Ensures (getUser w (callerId s e) UserRecord.declared) s
      (fun result _ => CallerIs w s e result.2) (fun _ _ => True) :=
    (getUser_spec _ UserRecord.declared s).with_run.mono (fun result t h => ⟨result.1, t, h.2⟩)
      fun _ _ _ => trivial
  refine ((agree_getUser hcaller UserRecord.declared h).and_left hrun).bind
    (fun _ _ _ => trivial) ?_
  rintro ⟨found, callerUser⟩ _ s' t' ⟨rfl, hcallerIs⟩ h
  refine agree_ite Iff.rfl (fun _ _ => agree_some agree_logout) fun _ _ => ?_
  refine agree_ite Iff.rfl (fun _ _ => agree_some agree_reply) fun _ _ => ?_
  refine agree_ite Iff.rfl (fun _ _ => agree_some (agree_updateProfile _ h)) fun _ _ => ?_
  refine agree_ite Iff.rfl (fun _ _ => agree_some agree_reply) fun hrole _ => ?_
  by_cases hguarded : StartsWith e.url (str "/api/users") ∨ StartsWith e.url (str "/api/rtsp")
  · -- A caller with the admin role behind the guard is an admin.
    have hadminRole : callerUser.role = str "admin" := by
      by_contra hne
      exact hrole ⟨hne, hguarded⟩
    have hid : callerId s e ≠ [] := fun hnil => hguard ⟨hnil, startsWith_api hguarded⟩
    exact absurd ⟨hid, callerUser, hcallerIs.fetched hadminRole, hadminRole⟩ hadmin
  · rw [adminEndpoints_of_outside hguarded]
    exact agree_pure .none trivial

/-- The whole dispatch up to its publication, for a caller who is not an admin. -/
theorem agree_respond (self : ReplyServer) (hadmin : ¬ AdminCaller w s e)
    (hpublic : Post e "/api/register" ∨ Post e "/api/login" →
      ∀ userId, field w e "id" = some userId → w.userKey userId ∈ keys)
    (hcaller : w.userKey (callerId s e) ∈ keys)
    (h : Alike w keys (getSessionToken e.cookies) s t) :
    EndAlike UpToToken (respond w self e) (respond w self e) s t := by
  unfold respond
  cases staticReply w e with
  | some response => exact agree_pure (.inl rfl) trivial
  | none =>
    have hendpoint :
        EndAlike (Option.Rel UpToToken) (endpointEvent w e) (endpointEvent w e) s t := by
      refine (agree_endpoints hadmin hpublic hcaller h).tryCatch fun fault s t _ => ?_
      cases fault with
      | exception what => exact agree_some agree_reply
      | deadlock => exact agree_throw _ trivial
    refine hendpoint.bind (fun _ _ => id) ?_
    rintro _ _ s t (hsame | _) _
    · exact agree_pure hsame trivial
    · unfold fallbackEvent
      cases self.handlers.lookup e.url with
      | none => exact agree_reply
      | some handler =>
        dsimp only
        cases handler e with
        | ok response => exact agree_pure (.inl rfl) trivial
        | error what => exact agree_throw _ trivial

/-! ## The owner of the bus -/

/-- Nothing below `publish` looks at the owner of the bus. -/
theorem alike_busOwner (token : Bytes) (s : State) (owner : Option Nat) :
    Alike w Set.univ token s { s with busOwner := owner } :=
  ⟨rfl, Aligned.refl s.calls, fun _ _ => rfl, rfl⟩

theorem CallerIs.setOwner {user : UserRecord} (h : CallerIs w s e user) (owner : Option Nat) :
    CallerIs w { s with busOwner := owner } e user := by
  obtain ⟨found, t, hrun⟩ := h
  have hagree := agree_getUser (w := w) (Set.mem_univ (w.userKey (callerId s e)))
    UserRecord.declared (alike_busOwner [] s owner)
  obtain ⟨_, t', hrun', rfl, -⟩ := hagree.of_ok hrun
  exact ⟨found, t', hrun'⟩

theorem Escapes.setOwner {self : ReplyServer} (h : Escapes w self s e) (owner : Option Nat) :
    Escapes w self { s with busOwner := owner } e := by
  rcases h with ⟨hreads, herr⟩ |
    ⟨⟨hfile, hpublic, huser, hadmin, hapi, user, hcaller, hrole⟩, hgives⟩
  · refine .inl ⟨?_, herr⟩
    rcases hreads with h | h | ⟨hid, user, hcaller, h⟩
    · exact .inl h
    · exact .inr (.inl h)
    · exact .inr (.inr ⟨hid, user, hcaller.setOwner owner, h⟩)
  · exact .inr ⟨⟨hfile, hpublic, huser, hadmin, hapi, user, hcaller.setOwner owner, hrole⟩, hgives⟩

end CCTVWebServer
