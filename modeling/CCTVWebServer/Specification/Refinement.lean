import CCTVWebServer.Portal
import CCTVWebServer.Specification.Accounts
import CCTVWebServer.Specification.Rtsp
import CCTVWebServer.Specification.TwoRuns

/-!
# The server refines the portal

`Carries` relates the two levels: a row for every member, in the order of the members,
with its columns sealed under the key; the same sessions; the camera that the stored
configuration opens to; the relayer on the same url. As long as no library call fails,
every endpoint answers what the portal answers and keeps the relation.
-/

namespace CCTVWebServer

open Foundation

/-- The libraries do what they document, and no call to them fails. -/
structure World.Dependable (w : World) : Prop where
  json : w.json.Documented
  gcm : w.GcmDocumented
  sha256 : Function.Injective w.sha256Digest
  sqlite : ¬ SqliteFails w
  openssl : ¬ OpensslFails w

variable {w : World} {s t : State} {e : HttpRequestEvent} {p q : Portal}

theorem World.Dependable.not_raised (hw : w.Dependable) {why : Prop} {fault : Fault}
    (hwhy : ¬ why) : ¬ Raised w why fault := by
  rintro ⟨-, h | h⟩
  · exact hw.openssl h
  · exact hwhy h

theorem World.Dependable.allOk (hw : w.Dependable) (n : Nat) (calls : List Library) :
    AllOk w n calls := by
  induction calls generalizing n with
  | nil => trivial
  | cons call calls ih =>
    refine ⟨?_, ih (n + 1)⟩
    by_contra hno
    cases call with
    | openssl => exact hw.openssl ⟨n, by simpa [World.callOk] using hno⟩
    | sqlite => exact hw.sqlite ⟨n, by simpa [World.callOk] using hno⟩

@[simp] theorem flag_eq_zero (b : Bool) : flag b = 0 ↔ b = false := by cases b <;> simp [flag]

/-! ## The relation -/

/-- The row stores the member. -/
structure Holds (w : World) (key : Bytes) (row : UserRow) (m : Member) : Prop where
  userIdHash : row.userIdHash = w.userKey m.userId
  userIdEnc : w.Seals key m.userId row.userIdEnc.val
  usernameEnc : w.Seals key m.username row.usernameEnc.val
  passwordHash : row.passwordHash.val = m.passwordHash
  role : row.role.val = m.role
  isApproved : row.isApproved = flag m.approved
  isActive : row.isActive = flag m.active

/-- The state carries the portal. -/
structure Carries (w : World) (s : State) (p : Portal) : Prop where
  key : s.key.length = 32
  users : Table.Matches (Holds w s.key) s.users p.members
  sessions : ∀ token, s.activeSessions.lookup token = p.session token
  camera : latestConfig w s = p.camera
  running : s.relayer.running = p.onAir.isSome
  rtspUrl : ∀ url, p.onAir = some url → s.relayer.rtspUrl = url

/-- Calls to the world do not get in the way. -/
theorem Carries.idle (h : Carries w s p) (ht : Idle s t) : Carries w t p := by
  have hconfig := ht.sameConfig.latestConfig (w := w)
  obtain ⟨n, rfl⟩ := ht
  exact ⟨h.key, h.users, h.sessions, hconfig.trans h.camera, h.running, h.rtspUrl⟩

/-- The stored configuration does not depend on the rest of the state. -/
theorem Carries.of_sameConfig (h : Carries w s p) (hconfig : SameConfig s t) :
    latestConfig w t = p.camera := hconfig.latestConfig.trans h.camera

theorem Holds.fetched (hgcm : w.GcmDocumented) {row : UserRow} {m : Member}
    (h : Holds w s.key row m) : w.readRow s.key row = some m.record := by
  have hid := opened_of_seals hgcm h.userIdEnc
  have hname := opened_of_seals hgcm h.usernameEnc
  simp only [World.readRow, hid, hname, Option.bind_some, Option.map_some, Option.some.injEq]
  simp only [UserRow.record, Member.record, h.passwordHash, h.role, h.isApproved, h.isActive]

section Users

/-- The row of a member, or none. -/
theorem Carries.find (hsha : Function.Injective w.sha256Digest) (h : Carries w s p)
    (userId : Bytes) :
    Option.Rel (Holds w s.key) (s.users.find (w.userKey userId)) (p.members.find userId) :=
  h.users.find (fun _ _ => (World.userKey_inj hsha).mp) (fun _ _ hr => hr.userIdHash) userId

theorem Carries.find_some (hsha : Function.Injective w.sha256Digest) (h : Carries w s p)
    {userId : Bytes} {m : Member} (hm : p.members.find userId = some m) :
    ∃ row, s.users.find (w.userKey userId) = some row ∧ Holds w s.key row m := by
  have hfind := h.find hsha userId
  rw [hm] at hfind
  cases hrow : s.users.find (w.userKey userId) with
  | none =>
    rw [hrow] at hfind
    cases hfind
  | some row =>
    rw [hrow] at hfind
    cases hfind with
    | some hholds => exact ⟨row, rfl, hholds⟩

theorem Carries.find_none (hsha : Function.Injective w.sha256Digest) (h : Carries w s p)
    {userId : Bytes} : s.users.find (w.userKey userId) = none ↔ p.members.find userId = none :=
  h.users.find_eq_none (fun _ _ => (World.userKey_inj hsha).mp) (fun _ _ hr => hr.userIdHash) _

/-- The lookup finds the record of a member. -/
theorem Carries.fetched (hw : w.Dependable) (h : Carries w s p) {userId : Bytes} {m : Member}
    (hm : p.members.find userId = some m) : Fetched w s userId m.record := by
  obtain ⟨row, hrow, hholds⟩ := h.find_some hw.sha256 hm
  have hread := hholds.fetched hw.gcm
  simp only [World.readRow, Option.bind_eq_some_iff, Option.map_eq_some_iff] at hread
  obtain ⟨openId, hid, openName, hname, hrecord⟩ := hread
  exact ⟨row, openId, openName, hrow, hid, hname, hrecord.symm⟩

theorem Carries.getUser (hw : w.Dependable) (h : Carries w s p) (userId : Bytes)
    (outUser : UserRecord) :
    Ensures (getUser w userId outUser) s
      (fun result t => Idle s t ∧
        ((∃ m, p.members.find userId = some m ∧ result = (true, m.record)) ∨
          (p.members.find userId = none ∧ result.1 = false)))
      (fun _ _ => False) := by
  refine (getUser_spec userId outUser s).mono ?_ fun fault _ hf => hw.not_raised id hf.2
  rintro ⟨found, user⟩ t ⟨ht, hresult⟩
  refine ⟨ht, ?_⟩
  rcases hresult with ⟨hfound, hfetched⟩ | ⟨hfound, -, hwhy⟩
  · dsimp only at hfound hfetched
    cases hm : p.members.find userId with
    | none =>
      obtain ⟨row, -, -, hrow, -⟩ := hfetched
      rw [(h.find_none hw.sha256).mpr hm] at hrow
      cases hrow
    | some m =>
      rw [hfound, hfetched.unique (h.fetched hw hm)]
      exact .inl ⟨m, rfl, rfl⟩
  · cases hm : p.members.find userId with
    | none => exact .inr ⟨rfl, hfound⟩
    | some m =>
      rcases hwhy with hwhy | hwhy | hwhy
      · exact absurd hwhy hw.sqlite
      · exact absurd hwhy hw.openssl
      · exact absurd ⟨_, h.fetched hw hm⟩ hwhy

/-- The listing shows the members. -/
theorem Carries.listed (hgcm : w.GcmDocumented) (h : Carries w s p) :
    s.users.rows.filterMap (w.readRow s.key) = p.members.rows.map Member.record := by
  have husers := h.users
  unfold Table.Matches at husers
  generalize s.users.rows = rows at husers ⊢
  generalize p.members.rows = members at husers ⊢
  induction husers with
  | nil => rfl
  | cons hrow _ ih => rw [List.filterMap_cons_some (hrow.fetched hgcm), ih, List.map_cons]

end Users

/-! ## Writes -/

section Writes

/-- A new row is a new member. -/
theorem Carries.insert (hsha : Function.Injective w.sha256Digest) (h : Carries w s p)
    {row : UserRow} {m : Member} (hrow : Holds w s.key row m) {users : UsersTable}
    (hinsert : s.users.insert row = some users) (n : Nat) :
    ∃ members, p.members.insert m = some members ∧
      Carries w { s with users := users, calls := n } { p with members := members } := by
  have hmatch := h.users.insert (fun _ _ => (World.userKey_inj hsha).mp)
    (fun _ _ hr => hr.userIdHash) hrow
  rw [hinsert] at hmatch
  cases hmembers : p.members.insert m with
  | none =>
    rw [hmembers] at hmatch
    cases hmatch
  | some members =>
    rw [hmembers] at hmatch
    cases hmatch with
    | some husers =>
      exact ⟨members, rfl, h.key, husers, h.sessions, h.of_sameConfig ⟨rfl, rfl⟩, h.running,
        h.rtspUrl⟩

theorem Carries.insert_none (hsha : Function.Injective w.sha256Digest) (h : Carries w s p)
    {m : Member} (htaken : s.users.find (w.userKey m.userId) ≠ none) :
    p.members.insert m = none :=
  Table.insert_eq_none.mpr fun hnone => htaken ((h.find_none hsha).mpr hnone)

/-- An updated row is an updated member. -/
theorem Carries.update (hsha : Function.Injective w.sha256Digest) (h : Carries w s p)
    {userId : Bytes} {f : UserRow → UserRow} {g : Member → Member}
    (hf : ∀ row, (f row).userIdHash = row.userIdHash) (hg : ∀ m, (g m).userId = m.userId)
    (hfg : ∀ row m, m.userId = userId → Holds w s.key row m → Holds w s.key (f row) (g m))
    (n : Nat) :
    Carries w { s with users := s.users.update (w.userKey userId) f hf, calls := n }
      (p.update userId g hg) where
  key := h.key
  users := h.users.update (fun _ _ => (World.userKey_inj hsha).mp)
    (fun _ _ hr => hr.userIdHash) hf hg hfg
  sessions := h.sessions
  camera := h.of_sameConfig ⟨rfl, rfl⟩
  running := h.running
  rtspUrl := h.rtspUrl

/-- Sessions that read alike. -/
theorem Carries.setSessions (h : Carries w s p) {sessions : Sessions}
    {session : Bytes → Option Bytes} (hlookup : ∀ token, sessions.lookup token = session token) :
    Carries w { s with activeSessions := sessions } { p with session := session } :=
  ⟨h.key, h.users, hlookup, h.of_sameConfig ⟨rfl, rfl⟩, h.running, h.rtspUrl⟩

theorem Carries.login (h : Carries w s p) (token userId : Bytes) :
    Carries w { s with activeSessions := s.activeSessions.insert token userId }
      { p with session := Function.update p.session token (some userId) } := by
  refine h.setSessions fun token' => ?_
  rw [Function.update_apply]
  split_ifs with htoken
  · rw [htoken, AList.lookup_insert]
  · rw [AList.lookup_insert_ne htoken, h.sessions]

theorem Carries.logout (h : Carries w s p) (token : Bytes) :
    Carries w { s with activeSessions := s.activeSessions.erase token }
      { p with session := Function.update p.session token none } := by
  refine h.setSessions fun token' => ?_
  rw [Function.update_apply]
  split_ifs with htoken
  · rw [htoken, AList.lookup_erase]
  · rw [AList.lookup_erase_ne htoken, h.sessions]

theorem Carries.purge (h : Carries w s p) (userId : Bytes) :
    Carries w { s with activeSessions := purgeSessions userId s.activeSessions }
      { p with session := fun token => (p.session token).filter (· ≠ userId) } := by
  refine h.setSessions fun token => ?_
  rw [purgeSessions, lookup_eraseLoop_entries, h.sessions]
  congr 1
  funext u
  simp

/-- A saved camera is on air. -/
theorem Carries.save (hgcm : w.GcmDocumented) (h : Carries w s p) {name url : Bytes} {u : State}
    (hstored : Stored w name url { s with rtspConfig := clearedConfig w s } u) :
    Carries w { u with relayer := u.relayer.start url }
      { p with camera := some (name, url), onAir := some url } := by
  have hconfig := hstored.latestConfig hgcm
  obtain ⟨encName, encUrl, n, -, -, rfl⟩ := hstored
  refine ⟨h.key, h.users, h.sessions, ?_, rfl, ?_⟩
  · rw [← hconfig]
    exact SameConfig.latestConfig ⟨rfl, rfl⟩
  · rintro _ ⟨⟩
    rfl

theorem Carries.stop (h : Carries w s p) :
    Carries w { s with relayer := s.relayer.stop } { p with onAir := none } :=
  ⟨h.key, h.users, h.sessions, h.of_sameConfig ⟨rfl, rfl⟩, rfl, by simp⟩

end Writes

/-! ## Tokens -/

/-- 32 hexadecimal digits. -/
def IsToken (token : Bytes) : Prop :=
  token.length = 32 ∧ ∀ b ∈ token, ∃ n < 16, b = hexDigit n

theorem exists_isToken : ∃ token, IsToken token := by
  refine ⟨List.replicate 32 0x30, by simp, fun b hb => ⟨0, by decide, ?_⟩⟩
  rw [List.eq_of_mem_replicate hb]
  rfl

theorem generateSessionToken_isToken : Returns (generateSessionToken w) IsToken := by
  intro n
  simp only [generateSessionToken, ensures_bind, ensures_nextCall, ensures_pure]
  refine ⟨by simp, fun b hb => ?_⟩
  obtain ⟨i, -, rfl⟩ := List.mem_map.mp hb
  exact ⟨_, Nat.mod_lt _ (by decide), rfl⟩

/-! ## Endpoints -/

/-- From `s` the code ends in the answer of the portal, and carries what the portal is then. -/
def Realizes (w : World) (m : Server HttpResponseEvent) (s : State) (p : Portal)
    (a : Portal.Answer) : Prop :=
  Ensures m s (fun r t => ∃ q, a = .ok (r, q) ∧ Carries w t q)
    (fun fault t => ∃ what, fault = .exception what ∧ a = .error what ∧ Carries w t p)

section Realizes

variable {f : Json → Server HttpResponseEvent} {g : Json → Portal.Answer}
  {m n : Server HttpResponseEvent} {a b : Portal.Answer}

theorem realizes_parse (h : Carries w s p)
    (hfg : ∀ json, w.json.parse e.body = .ok json → Realizes w (f json) s p (g json)) :
    Realizes w (parseBody w e.body >>= f) s p (Portal.parse w e.body >>= g) := by
  unfold parseBody Portal.parse
  cases hp : w.json.parse e.body with
  | ok json => exact hfg json hp
  | error err => exact ⟨_, rfl, rfl, h⟩

theorem realizes_value {json : Json} {key : String} {f : Bytes → Server HttpResponseEvent}
    {g : Bytes → Portal.Answer} (h : Carries w s p)
    (hfg : ∀ text, w.json.value json (str key) [] = .ok text →
      Realizes w (f text) s p (g text)) :
    Realizes w (value w json key >>= f) s p (Portal.text w json key >>= g) := by
  unfold value Portal.text
  cases hv : w.json.value json (str key) [] with
  | ok text => exact hfg text hv
  | error what => exact ⟨_, rfl, rfl, h⟩

theorem realizes_ite {c : Prop} [Decidable c] (hm : c → Realizes w m s p a)
    (hn : ¬ c → Realizes w n s p b) :
    Realizes w (if c then m else n) s p (if c then a else b) := by
  split_ifs with hc
  · exact hm hc
  · exact hn hc

/-- An answer that changes nothing. -/
theorem realizes_reply (h : Carries w s p) (statusCode : Int) (statusText : String) (json : Json)
    (extraHeaders : Bytes) :
    Realizes w (reply w e statusCode statusText json extraHeaders) s p
      (p.answer w e statusCode statusText json extraHeaders) := by
  unfold reply dump Portal.answer
  cases w.json.dump json with
  | ok body => exact ⟨p, rfl, h⟩
  | error what => exact ⟨what, rfl, rfl, h⟩

theorem reply_answers (h : Carries w s p) (statusCode : Int) (statusText : String) (json : Json) :
    Ensures (reply w e statusCode statusText json) s
      (fun r t => p.answer w e statusCode statusText json = .ok (r, p) ∧ Carries w t p)
      (fun _ t => ∃ what, p.answer w e statusCode statusText json = .error what ∧
        Carries w t p) := by
  unfold reply dump Portal.answer
  cases w.json.dump json with
  | ok body => exact ⟨rfl, h⟩
  | error what => exact ⟨what, rfl, h⟩

/-- An answer that can always be written, after a change. -/
theorem realizes_reply_of_wellEncoded (hjson : w.json.Documented) {json : Json}
    (hwell : json.wellEncoded) (h : Carries w s q) (statusCode : Int) (statusText : String)
    (extraHeaders : Bytes) :
    Realizes w (reply w e statusCode statusText json extraHeaders) s p
      (q.answer w e statusCode statusText json extraHeaders) := by
  unfold reply dump Portal.answer
  obtain ⟨body, hbody⟩ := hjson.dump_ok json hwell
  rw [hbody]
  exact ⟨q, rfl, h⟩

end Realizes

theorem NewRow.holds {key userId username password : Bytes} {row : UserRow}
    (h : RegisteredRow w key userId username password row) :
    Holds w key row ⟨userId, username, w.passwordHash password userId, false, false, true⟩ :=
  ⟨h.userIdHash, h.userIdEnc, h.usernameEnc, h.passwordHash, h.role, h.isApproved, h.isActive⟩

theorem register_realizes (hw : w.Dependable) (h : Carries w s p) :
    Realizes w (register w e) s p (p.register w e) := by
  refine realizes_parse h fun json _ => ?_
  refine realizes_value h fun id _ => ?_
  refine realizes_value h fun username _ => ?_
  refine realizes_value h fun password _ => ?_
  refine realizes_ite (fun _ => realizes_reply h _ _ _ _) fun _ => ?_
  refine (registerUser_spec id username password s).bind ?_ fun _ _ hf =>
    absurd hf.2 (hw.not_raised (not_not.mpr h.key))
  rintro done t (⟨rfl, row, hrow, users, n, hinsert, rfl⟩ | ⟨rfl, ht, hwhy⟩)
  · obtain ⟨members, hmembers, hcarries⟩ := h.insert hw.sha256 hrow.holds hinsert n
    rw [hmembers]
    exact realizes_reply_of_wellEncoded hw.json (by decide) hcarries _ _ _
  · rw [h.insert_none hw.sha256 (hwhy.resolve_left hw.sqlite)]
    exact realizes_reply (h.idle ht) _ _ _ _

/-! The portal may name a session as the server has drawn its token. -/

/-- The code realizes the answer of the portal for some token. -/
def RealizesSome (w : World) (m : Server HttpResponseEvent) (s : State) (p : Portal)
    (a : Bytes → Portal.Answer) : Prop :=
  ∃ token, IsToken token ∧ Realizes w m s p (a token)

theorem Realizes.anyToken {m : Server HttpResponseEvent} {a : Portal.Answer}
    (h : Realizes w m s p a) : RealizesSome w m s p (fun _ => a) := by
  obtain ⟨token, htoken⟩ := exists_isToken
  exact ⟨token, htoken, h⟩

/-- A run has one outcome, so the token may be chosen after it. -/
theorem realizesSome_iff {m : Server HttpResponseEvent} {a : Bytes → Portal.Answer} :
    RealizesSome w m s p a ↔
      Ensures m s (fun r t => ∃ token, IsToken token ∧ ∃ q, a token = .ok (r, q) ∧ Carries w t q)
        (fun fault t => ∃ token, IsToken token ∧ ∃ what, fault = .exception what ∧
          a token = .error what ∧ Carries w t p) := by
  unfold RealizesSome Realizes Ensures
  cases m.run s <;> rfl

theorem realizesSome_ite {c d : Prop} [Decidable c] [Decidable d]
    {m n : Server HttpResponseEvent} {a b : Bytes → Portal.Answer} (hcd : c ↔ d)
    (hm : RealizesSome w m s p a) (hn : ¬ c → RealizesSome w n s p b) :
    RealizesSome w (if c then m else n) s p (fun token => if d then a token else b token) := by
  by_cases hc : c
  · simpa only [if_pos hc, if_pos (hcd.mp hc)] using hm
  · simpa only [if_neg hc, if_neg fun hd => hc (hcd.mpr hd)] using hn hc

theorem realizesSome_parse {f : Json → Server HttpResponseEvent}
    {g : Bytes → Json → Portal.Answer} (h : Carries w s p)
    (hfg : ∀ json, RealizesSome w (f json) s p (fun token => g token json)) :
    RealizesSome w (parseBody w e.body >>= f) s p
      (fun token => Portal.parse w e.body >>= g token) := by
  cases hp : w.json.parse e.body with
  | error err =>
    obtain ⟨token, htoken, -⟩ := hfg .null
    exact ⟨token, htoken, realizes_parse h fun json hjson => by simp [hp] at hjson⟩
  | ok json =>
    obtain ⟨token, htoken, hrealizes⟩ := hfg json
    refine ⟨token, htoken, realizes_parse h fun json' hjson => ?_⟩
    cases hp.symm.trans hjson
    exact hrealizes

theorem realizesSome_value {json : Json} {key : String} {f : Bytes → Server HttpResponseEvent}
    {g : Bytes → Bytes → Portal.Answer} (h : Carries w s p)
    (hfg : ∀ text, RealizesSome w (f text) s p (fun token => g token text)) :
    RealizesSome w (value w json key >>= f) s p
      (fun token => Portal.text w json key >>= g token) := by
  cases hv : w.json.value json (str key) [] with
  | error what =>
    obtain ⟨token, htoken, -⟩ := hfg []
    exact ⟨token, htoken, realizes_value h fun text htext => by simp [hv] at htext⟩
  | ok text =>
    obtain ⟨token, htoken, hrealizes⟩ := hfg text
    refine ⟨token, htoken, realizes_value h fun text' htext => ?_⟩
    cases hv.symm.trans htext
    exact hrealizes

theorem login_realizes (hw : w.Dependable) (h : Carries w s p) :
    RealizesSome w (login w e) s p (fun token => p.login w token e) := by
  refine realizesSome_parse h fun json => ?_
  refine realizesSome_value h fun id => ?_
  refine realizesSome_value h fun password => ?_
  have hlookup := h.getUser hw id UserRecord.declared
  cases hm : p.members.find id with
  | none =>
    refine Realizes.anyToken (hlookup.bind ?_ fun _ _ => False.elim)
    rintro ⟨found, user⟩ t ⟨ht, ⟨m, hm', -⟩ | ⟨-, hfound⟩⟩
    · exact absurd (hm.symm.trans hm') (by simp)
    · dsimp only at hfound ⊢
      rw [if_pos (.inl hfound)]
      exact realizes_reply (h.idle ht) _ _ _ _
  | some m =>
  refine realizesSome_iff.mpr (hlookup.bind ?_ fun _ _ => False.elim)
  rintro ⟨found, user⟩ t ⟨ht, ⟨m', hm', hresult⟩ | ⟨hnone, -⟩⟩
  · cases hm.symm.trans hm'
    obtain ⟨rfl, rfl⟩ := Prod.mk.inj hresult
    have hst := h.idle ht
    rw [← realizesSome_iff]
    refine realizesSome_ite (by simp [Member.record]) (realizes_reply hst _ _ _ _).anyToken
      fun _ => ?_
    refine realizesSome_ite (by simp [Member.record]) (realizes_reply hst _ _ _ _).anyToken
      fun _ => ?_
    refine realizesSome_iff.mpr ((hashPasswordPBKDF2_yields _ _).run
      (fun _ _ _ hf => absurd hf (hw.not_raised not_false)) ?_)
    rintro _ u hu rfl
    have hsu := hst.idle hu
    rw [← realizesSome_iff]
    refine realizesSome_ite Iff.rfl (realizes_reply hsu _ _ _ _).anyToken fun _ => ?_
    refine realizesSome_iff.mpr (generateSessionToken_isToken.run fun token v hv htoken => ?_)
    rw [ensures_bind, ensures_modify, ← realizesSome_iff]
    exact ⟨token, htoken, realizes_reply_of_wellEncoded hw.json (by decide)
      ((hsu.idle hv).login token id) _ _ _⟩
  · rw [hm] at hnone
    cases hnone

theorem logout_realizes (hw : w.Dependable) (h : Carries w s p)
    (htoken : getSessionToken e.cookies ≠ []) :
    Realizes w (logout w e) s p (p.logout w e) := by
  unfold Realizes
  simp only [logout, if_pos htoken]
  rw [ensures_bind, ensures_modify]
  exact realizes_reply_of_wellEncoded hw.json (by decide) (h.logout _) _ _ _

theorem me_realizes (h : Carries w s p) (m : Member) :
    Realizes w (me w e m.record) s p (p.me w m e) :=
  realizes_reply h _ _ _ _

theorem Holds.withProfile {key username encUsername : Bytes} {row : UserRow}
    {m : Member} (h : Holds w key row m) (password : Bytes)
    (hseals : w.Seals key username encUsername) :
    Holds w key (row.updateProfile (bindText encUsername) (w.newPasswordHash m.userId password))
      (m.withProfile w username password) where
  userIdHash := h.userIdHash
  userIdEnc := h.userIdEnc
  usernameEnc := hseals.bindText
  passwordHash := by
    by_cases hpassword : password = []
    · simp [UserRow.updateProfile, Member.withProfile, World.newPasswordHash, hpassword,
        h.passwordHash]
    · simp only [UserRow.updateProfile, Member.withProfile, World.newPasswordHash,
        if_neg hpassword, Option.getD_some]
      exact bindText_val (not_mem_toHex _)
  role := h.role
  isApproved := h.isApproved
  isActive := h.isActive

theorem updateProfile_realizes (hw : w.Dependable) (h : Carries w s p) (m : Member) :
    Realizes w (updateProfile w e m.userId) s p (p.updateProfile w m e) := by
  refine realizes_parse h fun json _ => ?_
  refine realizes_value h fun username _ => ?_
  refine realizes_value h fun password _ => ?_
  refine realizes_ite (fun _ => realizes_reply h _ _ _ _) fun _ => ?_
  refine (updateUserProfile_spec m.userId username password s).bind ?_ fun _ _ hf =>
    absurd hf.2 (hw.not_raised (not_not.mpr h.key))
  rintro done t (⟨rfl, encUsername, hseals, n, rfl⟩ | ⟨-, -, hfails⟩)
  · refine realizes_reply_of_wellEncoded hw.json (by decide) (h.update hw.sha256 _ _ ?_ n) _ _ _
    rintro row m' hm' hrow
    have hholds := hrow.withProfile password hseals
    rwa [hm'] at hholds
  · exact absurd hfails hw.sqlite

theorem listUsers_realizes (hw : w.Dependable) (h : Carries w s p) :
    Realizes w (listUsers w e) s p (p.listUsers w e) := by
  refine (getAllUsers_spec s).bind ?_ fun _ _ => False.elim
  rintro users t ⟨ht, husers⟩
  rw [husers hw.sqlite hw.openssl, h.listed hw.gcm, List.map_map]
  exact realizes_reply (h.idle ht) _ _ _ _

theorem Holds.approve {key : Bytes} {row : UserRow} {m : Member} (h : Holds w key row m) :
    Holds w key row.approve m.approve :=
  ⟨h.userIdHash, h.userIdEnc, h.usernameEnc, h.passwordHash, h.role, rfl, h.isActive⟩

theorem Holds.evict {key : Bytes} {row : UserRow} {m : Member} (h : Holds w key row m) :
    Holds w key row.evict m.evict :=
  ⟨h.userIdHash, h.userIdEnc, h.usernameEnc, h.passwordHash, h.role, h.isApproved, rfl⟩

theorem approve_realizes (hw : w.Dependable) (h : Carries w s p) :
    Realizes w (approve w e) s p (p.approve w e) := by
  refine realizes_parse h fun json _ => ?_
  refine realizes_value h fun targetId _ => ?_
  refine (setFlag_spec targetId _ UserRow.userIdHash_approve s).bind ?_ fun _ _ hf =>
    absurd hf.2 (hw.not_raised not_false)
  rintro done t (⟨rfl, n, rfl⟩ | ⟨-, -, hfails⟩)
  · have happroved := h.update hw.sha256 UserRow.userIdHash_approve Member.userId_approve
      (fun row m (_ : m.userId = targetId) hrow => hrow.approve) n
    exact realizes_reply_of_wellEncoded hw.json (by decide) happroved _ _ _
  · exact absurd hfails hw.sqlite

theorem evict_realizes (hw : w.Dependable) (h : Carries w s p) :
    Realizes w (evict w e) s p (p.evict w e) := by
  refine realizes_parse h fun json _ => ?_
  refine realizes_value h fun targetId _ => ?_
  refine realizes_ite (fun _ => realizes_reply h _ _ _ _) fun _ => ?_
  refine (setFlag_spec targetId _ UserRow.userIdHash_evict s).bind ?_ fun _ _ hf =>
    absurd hf.2 (hw.not_raised not_false)
  rintro done t (⟨rfl, n, rfl⟩ | ⟨-, -, hfails⟩)
  · have hevicted := (h.update hw.sha256 UserRow.userIdHash_evict Member.userId_evict
      (fun row m (_ : m.userId = targetId) hrow => hrow.evict) n).purge targetId
    simp only [reduceIte]
    exact realizes_reply_of_wellEncoded hw.json (by decide) hevicted _ _ _
  · exact absurd hfails hw.sqlite

theorem getRtsp_realizes (hw : w.Dependable) (h : Carries w s p) :
    Realizes w (getRtsp w e) s p (p.getRtsp w e) := by
  refine (getLatestRtspConfig_uses _ (hw.allOk _ _)).bind ?_ fun _ _ => False.elim
  rintro ⟨found, config⟩ t ⟨ht, hconfig⟩
  have hshown : Json.array (if found then [.object [(str "name", .string config.name),
      (str "url", .string config.url)]] else []) = cameraJson p.camera := by
    rw [← h.camera, latestConfig_eq, ← hconfig]
    cases found <;> rfl
  dsimp only
  rw [hshown]
  exact realizes_reply (h.idle ht) _ _ _ _

theorem saveRtsp_realizes (hw : w.Dependable) (h : Carries w s p) :
    Realizes w (saveRtsp w e) s p (p.saveRtsp w e) := by
  refine realizes_parse h fun json _ => ?_
  refine realizes_value h fun name _ => ?_
  refine realizes_value h fun url _ => ?_
  refine realizes_ite (fun _ => realizes_reply h _ _ _ _) fun _ => ?_
  refine (clearRtspConfigs_uses s).bind ?_ fun _ _ => False.elim
  rintro _ _ rfl
  refine (saveRtspConfig_uses name url (by exact h.key)).bind ?_ fun _ _ hf =>
    absurd (hw.allOk _ _) hf.1
  rintro saved u (⟨-, rfl, hstored⟩ | ⟨hno, -⟩)
  · simp only [reduceIte]
    rw [ensures_bind, ensures_modify]
    obtain ⟨encName, encUrl, n, hname, hurl, rfl⟩ := hstored
    exact realizes_reply_of_wellEncoded hw.json (by decide)
      (h.save hw.gcm ⟨encName, encUrl, n, hname, hurl, rfl⟩) _ _ _
  · exact absurd (hw.allOk _ _) hno

theorem stopRtsp_realizes (hw : w.Dependable) (h : Carries w s p) :
    Realizes w (stopRtsp w e) s p (p.stopRtsp w e) := by
  unfold Realizes stopRtsp
  rw [ensures_bind, ensures_modify]
  exact realizes_reply_of_wellEncoded hw.json (by decide) h.stop _ _ _

/-! ## Requests -/

/-- The code answers what the portal answers for some token, or leaves the request to others
like the portal. -/
def RealizesOption (w : World) (m : Server (Option HttpResponseEvent)) (s : State) (p : Portal)
    (o : Bytes → Option Portal.Answer) : Prop :=
  ∃ token, IsToken token ∧ Ensures m s
    (fun r t => (o token = none ∧ r = none ∧ Carries w t p) ∨
      ∃ r' q, o token = some (.ok (r', q)) ∧ r = some r' ∧ Carries w t q)
    (fun fault t => ∃ what, fault = .exception what ∧ o token = some (.error what) ∧ Carries w t p)

theorem realizesOption_iff {m : Server (Option HttpResponseEvent)}
    {o : Bytes → Option Portal.Answer} :
    RealizesOption w m s p o ↔ Ensures m s
      (fun r t => ∃ token, IsToken token ∧ ((o token = none ∧ r = none ∧ Carries w t p) ∨
        ∃ r' q, o token = some (.ok (r', q)) ∧ r = some r' ∧ Carries w t q))
      (fun fault t => ∃ token, IsToken token ∧ ∃ what, fault = .exception what ∧
        o token = some (.error what) ∧ Carries w t p) := by
  unfold RealizesOption Ensures
  cases m.run s <;> rfl

theorem RealizesSome.answers {m : Server HttpResponseEvent} {a : Bytes → Portal.Answer}
    (h : RealizesSome w m s p a) :
    RealizesOption w (some <$> m) s p (fun token => some (a token)) := by
  obtain ⟨token, htoken, hrealizes⟩ := h
  refine ⟨token, htoken, ?_⟩
  rw [ensures_map]
  refine Ensures.mono hrealizes ?_ ?_
  · rintro r t ⟨q, ha, hcarries⟩
    exact .inr ⟨r, q, congrArg some ha, rfl, hcarries⟩
  · rintro fault t ⟨what, hfault, ha, hcarries⟩
    exact ⟨what, hfault, congrArg some ha, hcarries⟩

theorem Realizes.answers {m : Server HttpResponseEvent} {a : Portal.Answer}
    (h : Realizes w m s p a) : RealizesOption w (some <$> m) s p (fun _ => some a) :=
  h.anyToken.answers

theorem realizesOption_none (h : Carries w s p) :
    RealizesOption w (pure none) s p (fun _ => none) := by
  obtain ⟨token, htoken⟩ := exists_isToken
  exact ⟨token, htoken, .inl ⟨rfl, rfl, h⟩⟩

theorem realizesOption_ite {c d : Prop} [Decidable c] [Decidable d]
    {m n : Server (Option HttpResponseEvent)} {a b : Bytes → Option Portal.Answer} (hcd : c ↔ d)
    (hm : c → RealizesOption w m s p a) (hn : ¬ c → RealizesOption w n s p b) :
    RealizesOption w (if c then m else n) s p (fun token => if d then a token else b token) := by
  by_cases hc : c
  · simpa only [if_pos hc, if_pos (hcd.mp hc)] using hm hc
  · simpa only [if_neg hc, if_neg fun hd => hc (hcd.mpr hd)] using hn hc

theorem adminEndpoints_realizes (hw : w.Dependable) (h : Carries w s p) :
    RealizesOption w (adminEndpoints w e) s p (fun _ => p.adminEndpoints w e) := by
  refine realizesOption_ite Iff.rfl (fun _ => (listUsers_realizes hw h).answers) fun _ => ?_
  refine realizesOption_ite Iff.rfl (fun _ => (approve_realizes hw h).answers) fun _ => ?_
  refine realizesOption_ite Iff.rfl (fun _ => (evict_realizes hw h).answers) fun _ => ?_
  refine realizesOption_ite Iff.rfl (fun _ => (getRtsp_realizes hw h).answers) fun _ => ?_
  refine realizesOption_ite Iff.rfl (fun _ => (saveRtsp_realizes hw h).answers) fun _ => ?_
  refine realizesOption_ite Iff.rfl (fun _ => (stopRtsp_realizes hw h).answers) fun _ => ?_
  exact realizesOption_none h

theorem userEndpoints_realizes (hw : w.Dependable) (h : Carries w s p) (m : Member)
    (htoken : getSessionToken e.cookies ≠ []) :
    RealizesOption w (userEndpoints w e m.userId m.record) s p
      (fun _ => p.memberEndpoints w m e) := by
  have hrole : m.record.role ≠ str "admin" ↔ m.admin = false := by
    have hdiffer : str "user" ≠ str "admin" := by decide
    cases hadmin : m.admin <;> simp [Member.record, Member.role, hadmin, hdiffer]
  refine realizesOption_ite Iff.rfl (fun _ => (logout_realizes hw h htoken).answers) fun _ => ?_
  refine realizesOption_ite Iff.rfl (fun _ => (me_realizes h m).answers) fun _ => ?_
  refine realizesOption_ite Iff.rfl (fun _ => (updateProfile_realizes hw h m).answers) fun _ => ?_
  refine realizesOption_ite (and_congr hrole Iff.rfl)
    (fun _ => (realizes_reply h _ _ _ _).answers) fun _ => ?_
  exact adminEndpoints_realizes hw h

section Caller

variable {dbPath masterSecret : Bytes}

/-- Both levels take the request for one of the same user. -/
theorem Carries.caller (hw : w.Dependable) (hs : Reachable w dbPath masterSecret s)
    (h : Carries w s p) :
    (p.caller e.cookies = none ∧ callerId s e = []) ∨
      ∃ m, p.caller e.cookies = some m ∧ callerId s e = m.userId ∧ m.userId ≠ [] ∧
        p.members.find m.userId = some m := by
  unfold Portal.caller
  cases hsession : s.activeSessions.lookup (getSessionToken e.cookies) with
  | none =>
    rw [← h.sessions, hsession]
    refine .inl ⟨rfl, ?_⟩
    simp [getUserIdFromSession, hsession]
  | some userId =>
    obtain ⟨hne, hcaller⟩ := (hs.authenticated_iff hw.json hw.sha256).mpr hsession
    obtain ⟨row, hrow, -⟩ := hs.session_user hw.json hw.sha256 hsession
    obtain ⟨m, hm⟩ : ∃ m, p.members.find userId = some m := by
      refine Option.ne_none_iff_exists'.mp fun hnone => ?_
      rw [(h.find_none hw.sha256).mpr hnone] at hrow
      cases hrow
    obtain ⟨-, rfl⟩ := Table.find_eq_some.mp hm
    rw [← h.sessions, hsession]
    exact .inr ⟨m, hm, hcaller, hne, hm⟩

theorem endpoints_realizes (hw : w.Dependable) (hs : Reachable w dbPath masterSecret s)
    (h : Carries w s p) :
    RealizesOption w (endpoints w e) s p (fun token => p.endpoints w token e) := by
  refine realizesOption_ite Iff.rfl (fun _ => (register_realizes hw h).answers) fun _ => ?_
  refine realizesOption_ite Iff.rfl (fun _ => (login_realizes hw h).answers) fun _ => ?_
  rw [realizesOption_iff, ensures_bind, ensures_get, ← realizesOption_iff]
  dsimp only
  by_cases hapi : StartsWith e.url (str "/api/")
  · simp only [hapi, and_true, if_true]
    rcases h.caller (e := e) hw hs with ⟨hnone, hcaller⟩ | ⟨m, hm, hcaller, hne, hfind⟩
    · simp only [hnone, hcaller, if_true]
      exact (realizes_reply h _ _ _ _).answers
    · simp only [hm, hcaller, hne, if_false]
      refine realizesOption_iff.mpr ((h.getUser hw _ _).bind ?_ fun _ _ => False.elim)
      rintro result t ⟨ht, ⟨m', hm', rfl⟩ | ⟨hnone, -⟩⟩
      · cases hfind.symm.trans hm'
        rw [← realizesOption_iff]
        refine userEndpoints_realizes hw (h.idle ht) m (getSessionToken_ne_nil (s := s) ?_)
        rwa [hcaller]
      · rw [hfind] at hnone
        cases hnone
  · simp only [hapi, and_false, if_false]
    refine realizesOption_iff.mpr ((h.getUser hw _ _).bind ?_ fun _ _ => False.elim)
    rintro result t ⟨ht, -⟩
    rw [← realizesOption_iff, userEndpoints_of_outside hapi]
    exact realizesOption_none (h.idle ht)

/-- The dispatch of a request publishes what the portal publishes. -/
theorem respond_realizes (hw : w.Dependable) (hs : Reachable w dbPath masterSecret s)
    (h : Carries w s p) (self : ReplyServer) :
    Ensures (respond w self e) s
      (fun r t => ∃ token q, IsToken token ∧ p.serve w self token e = ([r], q) ∧ Carries w t q)
      (fun _ t => ∃ token q, IsToken token ∧ p.serve w self token e = ([], q) ∧ Carries w t q) := by
  obtain ⟨token₀, htoken₀⟩ := exists_isToken
  unfold respond Portal.serve
  cases staticReply w e with
  | some r => exact ⟨token₀, p, htoken₀, rfl, h⟩
  | none =>
  obtain ⟨token, htoken, hrun⟩ := endpoints_realizes (e := e) hw hs h
  simp only [endpointEvent, ensures_bind, ensures_tryCatch]
  refine hrun.mono ?_ ?_
  · rintro r t (⟨hnone, rfl, hcarries⟩ | ⟨r', q, hsome, rfl, hcarries⟩)
    · unfold fallbackEvent
      cases hhandler : self.handlers.lookup e.url with
      | some handler =>
        dsimp only
        cases hresult : handler e with
        | ok response =>
          refine ⟨token, p, htoken, ?_, hcarries⟩
          simp [hnone, Portal.fallback, hhandler, hresult]
        | error what =>
          refine ⟨token, p, htoken, ?_, hcarries⟩
          simp [hnone, Portal.fallback, hhandler, hresult]
      | none =>
        refine (reply_answers hcarries _ _ _).mono ?_ ?_
        · rintro r u ⟨hanswer, hu⟩
          exact ⟨token, p, htoken, by simp [hnone, Portal.fallback, hhandler, hanswer], hu⟩
        · rintro fault u ⟨what, hanswer, hu⟩
          exact ⟨token, p, htoken, by simp [hnone, Portal.fallback, hhandler, hanswer], hu⟩
    · exact ⟨token, q, htoken, by simp [hsome, Portal.publish], hcarries⟩
  · rintro fault t ⟨what, rfl, hsome, hcarries⟩
    simp only [ensures_map]
    refine (reply_answers hcarries _ _ _).mono ?_ ?_
    · rintro r u ⟨hanswer, hu⟩
      exact ⟨token, p, htoken, by simp [hsome, Portal.publish, hanswer], hu⟩
    · rintro fault u ⟨what', hanswer, hu⟩
      exact ⟨token, p, htoken, by simp [hsome, Portal.publish, hanswer], hu⟩

end Caller

end CCTVWebServer
