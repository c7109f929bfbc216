import CCTVWebServer.Foundation.History
import CCTVWebServer.Handles
import CCTVWebServer.Reference

/-!
# The handles that the database loses

Every context, message and statement is used only between its acquisition and its release, and
is released before the call returns, with one exception: `updateUserProfile` and
`saveRtspConfig` lose their statement when they raise after they have prepared it.
-/

namespace CCTVWebServer

open Foundation

/-! ## Calls to the world in sequence -/

theorem outside_bind {α β : Type} (m : Outside α) (f : α → Outside β) :
    outside (m >>= f) = outside m >>= fun a => outside (f a) := by
  refine ext_run fun s => ?_
  simp only [outside, focus, EStateM.run, bind, EStateM.bind]
  cases m s.calls with
  | ok a n => rfl
  | error x n => rfl

theorem outside_pure {α : Type} (a : α) : outside (pure a) = pure a := rfl

theorem outside_throw {α : Type} (fault : Fault) :
    outside (throw fault : Outside α) = throw fault := rfl

theorem outside_ite {α : Type} {c : Prop} [Decidable c] (m n : Outside α) :
    outside (if c then m else n) = if c then outside m else outside n := by
  split_ifs <;> rfl

theorem outside_attempt {α : Type} (m : Outside α) :
    outside (attempt m) = attempt (outside m) := by
  refine ext_run fun s => ?_
  simp only [attempt, outside, focus, EStateM.run, tryCatch, tryCatchThe,
    MonadExceptOf.tryCatch, EStateM.tryCatch, Functor.map, EStateM.map]
  cases m s.calls with
  | ok a n => rfl
  | error fault n => cases fault <;> rfl

namespace Handles

open Foundation.Resources

variable {w : World}

/-! ## Without the handles -/

section Erases

theorem erases_newContext {what : String} {α : Type} {f : Handle Kind → Program α} {n : Server α}
    (hf : ∀ ctx, Erases (f ctx) n) :
    Erases (newContext w what >>= f) (outside (openssl w what) >>= fun _ => n) := by
  unfold newContext
  rw [bind_assoc]
  exact (erases_plain _).bind fun _ => erases_acquire hf

theorem erases_contextCall (ctx : Handle Kind) (what : String) :
    Erases (contextCall w ctx what) (outside (openssl w what)) := by
  unfold contextCall openssl
  rw [outside_bind]
  refine erases_use ((erases_plain _).bind fun n => ?_)
  rw [outside_ite]
  exact (erases_pure ()).ite (erases_release (erases_throw _))

theorem erases_randBytes (ctx : Handle Kind) (length : Nat) (what : String) :
    Erases (randBytes w ctx length what) (outside (CCTVWebServer.randBytes w length what)) := by
  unfold randBytes CCTVWebServer.randBytes
  rw [outside_bind]
  refine (erases_plain _).bind fun n => ?_
  rw [outside_ite]
  exact (erases_pure _).ite (erases_release (erases_throw _))

theorem erases_sha256 (plaintext : Bytes) :
    Erases (sha256 w plaintext) (outside (CCTVWebServer.sha256 w plaintext)) := by
  unfold sha256 CCTVWebServer.sha256
  simp only [outside_bind, outside_pure]
  refine erases_newContext fun ctx => (erases_contextCall ctx _).bind fun _ => ?_
  exact erases_release (erases_pure _)

theorem erases_deriveKey (secret : Bytes) :
    Erases (deriveKey w secret) (outside (CCTVWebServer.deriveKey w secret)) := by
  unfold deriveKey CCTVWebServer.deriveKey
  simp only [outside_bind, outside_pure]
  refine erases_newContext fun ctx => (erases_contextCall ctx _).bind fun _ => ?_
  exact erases_release (erases_pure _)

theorem erases_encryptAES256GCM (plaintext key : Bytes) :
    Erases (encryptAES256GCM w plaintext key)
      (outside (CCTVWebServer.encryptAES256GCM w plaintext key)) := by
  unfold encryptAES256GCM CCTVWebServer.encryptAES256GCM
  simp only [outside_bind, outside_pure, outside_ite, outside_throw]
  refine Erases.ite ((erases_throw _).bind fun _ => ?_) ?_ <;>
  · refine erases_newContext fun ctx => (erases_randBytes ctx 12 _).bind fun iv => ?_
    refine (erases_contextCall ctx _).bind fun _ => (erases_contextCall ctx _).bind fun _ => ?_
    refine (erases_contextCall ctx _).bind fun _ => (erases_contextCall ctx _).bind fun _ => ?_
    refine (erases_contextCall ctx _).bind fun _ => (erases_contextCall ctx _).bind fun _ => ?_
    exact erases_release (erases_pure _)

theorem erases_decryptAES256GCM (text key : Bytes) :
    Erases (decryptAES256GCM w text key)
      (outside (CCTVWebServer.decryptAES256GCM w text key)) := by
  unfold decryptAES256GCM CCTVWebServer.decryptAES256GCM
  simp only [outside_bind, outside_ite, outside_throw]
  refine Erases.ite ((erases_throw _).bind fun _ => ?_) ?_ <;>
  refine Erases.ite ((erases_throw _).bind fun _ => ?_) ?_ <;>
  refine Erases.ite ((erases_throw _).bind fun _ => ?_) ?_ <;>
  · refine erases_newContext fun ctx => (erases_contextCall ctx _).bind fun _ => ?_
    refine (erases_contextCall ctx _).bind fun _ => (erases_contextCall ctx _).bind fun _ => ?_
    refine (erases_contextCall ctx _).bind fun _ => (erases_contextCall ctx _).bind fun _ => ?_
    refine erases_use (erases_release ?_)
    cases w.gcmOpen key ((fromHex text).take 12) (((fromHex text).drop 12).take 16)
        ((fromHex text).drop 28) with
    | some plaintext => exact erases_pure _
    | none => exact erases_throw _

theorem erases_hashPasswordPBKDF2 (password salt : Bytes) :
    Erases (hashPasswordPBKDF2 w password salt)
      (outside (CCTVWebServer.hashPasswordPBKDF2 w password salt)) := erases_plain _

theorem erases_attempt {α : Type} {m : Program α} {n : Server α} (hm : Erases m n) :
    Erases (attempt m) (attempt n) := by
  refine (hm.map some).tryCatch fun fault => ?_
  cases fault with
  | exception what => exact erases_pure _
  | deadlock => exact erases_throw _

variable {db : Handle Kind}

/-- A statement that is prepared, or the end of the function. -/
theorem erases_prepare {α : Type} {a : α} {f : Handle Kind → Program α} {n : Server α}
    (hf : ∀ stmt, Erases (f stmt) n) :
    Erases (do
      use db
      if ¬ (← plain (outside (sqlite w))) then return a
      let stmt ← acquire .statement
      f stmt)
    (do
      if ¬ (← outside (sqlite w)) then return a
      n) :=
  erases_use ((erases_plain _).bind fun _ => (erases_pure a).ite (erases_acquire hf))

theorem erases_executeQuery (sql : Bytes) (effect : State → State) :
    Erases (executeQuery w db sql effect) (CCTVWebServer.executeQuery w sql effect) := by
  refine erases_use ((erases_plain _).bind fun n => (erases_plain _).ite ?_)
  exact erases_acquire fun errMsg => erases_use (erases_release (erases_throw _))

theorem erases_selectCount (idHash : SqlText) :
    Erases (selectCount w db idHash) (CCTVWebServer.selectCount w idHash) := by
  refine erases_prepare fun stmt => erases_use (erases_use ((erases_plain _).bind fun _ => ?_))
  refine Erases.ite ?_ (erases_release (erases_pure _))
  exact erases_use ((erases_plain get).bind fun s => erases_release (erases_pure _))

theorem erases_bootstrapAdmin :
    Erases (bootstrapAdmin w db) (CCTVWebServer.bootstrapAdmin w) := by
  refine (erases_sha256 _).bind fun adminIdHash => (erases_selectCount _).bind fun count => ?_
  cases count with
  | none => exact erases_pure _
  | some count =>
    refine Erases.ite ?_ (erases_pure _)
    refine (erases_hashPasswordPBKDF2 _ _).bind fun adminPwHash => ?_
    refine (erases_plain get).bind fun s => (erases_encryptAES256GCM _ _).bind fun encId => ?_
    refine (erases_plain get).bind fun s => (erases_encryptAES256GCM _ _).bind fun encName => ?_
    refine erases_use ((erases_plain _).bind fun _ => Erases.ite ?_ (erases_pure _))
    refine erases_acquire fun instmt => erases_use (erases_use ?_)
    exact (erases_plain _).bind fun _ => erases_release (erases_pure _)

theorem erases_init (stored : Bytes → DatabaseFile) (dbPath masterSecret : Bytes) :
    Erases (init w db stored dbPath masterSecret)
      (CCTVWebServer.init w stored dbPath masterSecret) := by
  have hrest : Erases (do
      plain (modify fun s => { s with
        dbPath := dbPath
        users := (stored dbPath).users
        rtspConfig := (stored dbPath).rtspConfig })
      let key ← deriveKey w masterSecret
      plain (modify fun s => { s with key := key })
      executeQuery w db createUsersTable id
      executeQuery w db createRtspTable id
      bootstrapAdmin w db)
    (do
      modify fun s => { s with
        dbPath := dbPath
        users := (stored dbPath).users
        rtspConfig := (stored dbPath).rtspConfig }
      let key ← outside (CCTVWebServer.deriveKey w masterSecret)
      modify fun s => { s with key := key }
      CCTVWebServer.executeQuery w createUsersTable id
      CCTVWebServer.executeQuery w createRtspTable id
      CCTVWebServer.bootstrapAdmin w) := by
    refine (erases_plain _).bind fun _ => (erases_deriveKey _).bind fun key => ?_
    refine (erases_plain _).bind fun _ => (erases_executeQuery _ _).bind fun _ => ?_
    exact (erases_executeQuery _ _).bind fun _ => erases_bootstrapAdmin
  refine (erases_plain _).bind fun n => Erases.ite ?_ hrest
  exact erases_use ((erases_throw _).bind fun _ => hrest)

theorem erases_registerUser (userId username password : Bytes) :
    Erases (registerUser w db userId username password)
      (CCTVWebServer.registerUser w userId username password) := by
  refine (erases_sha256 _).bind fun idHash => (erases_selectCount _).bind fun count => ?_
  cases count with
  | none => exact erases_pure _
  | some count =>
    refine (erases_pure _).ite ?_
    refine (erases_plain get).bind fun s => (erases_encryptAES256GCM _ _).bind fun encId => ?_
    refine (erases_plain get).bind fun s => (erases_encryptAES256GCM _ _).bind fun encName => ?_
    refine (erases_hashPasswordPBKDF2 _ _).bind fun pwHash => ?_
    exact erases_prepare fun instmt => erases_use (erases_use (erases_plain _).and_release)

theorem erases_setFlag (userId : Bytes) (change : UserRow → UserRow)
    (hkey : ∀ row, (change row).userIdHash = row.userIdHash) :
    Erases (setFlag w db userId change hkey) (CCTVWebServer.setFlag w userId change hkey) := by
  refine (erases_sha256 _).bind fun idHash => ?_
  exact erases_prepare fun stmt => erases_use (erases_use (erases_plain _).and_release)

theorem erases_updateUserProfile (userId newUsername newPassword : Bytes) :
    Erases (updateUserProfile w db userId newUsername newPassword)
      (CCTVWebServer.updateUserProfile w userId newUsername newPassword) := by
  refine (erases_sha256 _).bind fun idHash => erases_prepare fun stmt => ?_
  refine (erases_plain get).bind fun s => (erases_encryptAES256GCM _ _).bind fun encUsername => ?_
  refine erases_use (Erases.ite ?_ ?_)
  · refine (erases_hashPasswordPBKDF2 _ _).bind fun pwHash => ?_
    exact erases_use (erases_use (erases_plain _).and_release)
  · exact erases_use (erases_use (erases_plain _).and_release)

theorem erases_getUser (userId : Bytes) (outUser : UserRecord) :
    Erases (getUser w db userId outUser) (CCTVWebServer.getUser w userId outUser) := by
  refine (erases_sha256 _).bind fun idHash => erases_prepare fun stmt => ?_
  refine erases_use (erases_use ((erases_plain _).bind fun _ => Erases.ite ?_ ?_))
  · exact erases_release (erases_pure _)
  refine (erases_plain get).bind fun s => ?_
  cases s.users.find (bindText idHash) with
  | none => exact erases_release (erases_pure _)
  | some row =>
    refine erases_use ((erases_plain get).bind fun s => ?_)
    rw [outside_attempt]
    refine (erases_attempt (erases_decryptAES256GCM _ _)).bind fun userId => ?_
    cases userId with
    | none => exact erases_release (erases_pure _)
    | some userId =>
      refine (erases_plain get).bind fun s => ?_
      rw [outside_attempt]
      refine (erases_attempt (erases_decryptAES256GCM _ _)).bind fun username => ?_
      cases username with
      | none => exact erases_release (erases_pure _)
      | some username => exact erases_use (erases_release (erases_pure _))

theorem erases_collectUsers (stmt : Handle Kind) (key : Bytes) (rows : List UserRow) :
    Erases (collectUsers w stmt key rows) (outside (CCTVWebServer.collectUsers w key rows)) := by
  induction rows with
  | nil =>
    unfold collectUsers CCTVWebServer.collectUsers
    simp only [outside_bind, outside_pure]
    exact erases_use ((erases_plain _).bind fun _ => erases_pure _)
  | cons row rows ih =>
    unfold collectUsers CCTVWebServer.collectUsers
    simp only [outside_bind, outside_pure, outside_ite, outside_attempt]
    refine erases_use ((erases_plain _).bind fun _ => (erases_pure _).ite (erases_use ?_))
    refine (erases_attempt (erases_decryptAES256GCM _ _)).bind fun userId => ?_
    cases userId with
    | none => exact ih
    | some userId =>
      dsimp only
      rw [outside_bind, outside_attempt]
      refine (erases_attempt (erases_decryptAES256GCM _ _)).bind fun username => ?_
      cases username with
      | none => exact ih
      | some username =>
        dsimp only
        rw [outside_bind]
        exact erases_use (ih.bind fun users => erases_pure _)

theorem erases_getAllUsers : Erases (getAllUsers w db) (CCTVWebServer.getAllUsers w) := by
  refine erases_prepare fun stmt => (erases_plain get).bind fun s => ?_
  exact (erases_collectUsers stmt _ _).and_release

theorem erases_saveRtspConfig (name url : Bytes) :
    Erases (saveRtspConfig w db name url) (CCTVWebServer.saveRtspConfig w name url) := by
  refine erases_prepare fun stmt => ?_
  refine (erases_plain get).bind fun s => (erases_encryptAES256GCM _ _).bind fun encName => ?_
  refine (erases_plain get).bind fun s => (erases_encryptAES256GCM _ _).bind fun encUrl => ?_
  refine erases_use (erases_use ((erases_plain _).bind fun _ => Erases.ite ?_ ?_))
  · exact erases_release (erases_pure _)
  · exact (erases_plain _).bind fun _ => erases_release (erases_pure _)

theorem erases_getLatestRtspConfig (outRtsp : RtspRecord) :
    Erases (getLatestRtspConfig w db outRtsp) (CCTVWebServer.getLatestRtspConfig w outRtsp) := by
  refine erases_prepare fun stmt => erases_use ((erases_plain _).bind fun _ => Erases.ite ?_ ?_)
  · exact erases_release (erases_pure _)
  refine (erases_plain get).bind fun s => ?_
  cases s.rtspConfig.latest with
  | none => exact erases_release (erases_pure _)
  | some row =>
    refine erases_use ((erases_plain get).bind fun s => ?_)
    rw [outside_attempt]
    refine (erases_attempt (erases_decryptAES256GCM _ _)).bind fun name => ?_
    cases name with
    | none => exact erases_release (erases_pure _)
    | some name =>
      refine (erases_plain get).bind fun s => ?_
      rw [outside_attempt]
      refine (erases_attempt (erases_decryptAES256GCM _ _)).bind fun url => ?_
      cases url with
      | none => exact erases_release (erases_pure _)
      | some url => exact erases_release (erases_pure _)

theorem erases_clearRtspConfigs :
    Erases (clearRtspConfigs w db) (CCTVWebServer.clearRtspConfigs w) := by
  refine (erases_attempt (erases_executeQuery _ _)).bind fun o => ?_
  cases o with
  | some _ => exact erases_pure _
  | none => exact erases_pure _

/-- Without the handles, every call is the one of the database. -/
theorem Call.erases (c : Call) : Erases (c.trace w db) (c.run w) := by
  cases c with
  | registerUser => exact (erases_registerUser _ _ _).map _
  | approveUser | evictUser => exact (erases_setFlag _ _ _).map _
  | updateUserProfile => exact (erases_updateUserProfile _ _ _).map _
  | getUser => exact (erases_getUser _ _).map _
  | getAllUsers => exact erases_getAllUsers.map _
  | saveRtspConfig => exact (erases_saveRtspConfig _ _).map _
  | getLatestRtspConfig => exact (erases_getLatestRtspConfig _).map _
  | clearRtspConfigs => exact erases_clearRtspConfigs.map _

end Erases

/-! ## What is held -/

def IsException (fault : Fault) : Prop := ∃ what, fault = .exception what

theorem isException_exception (what : Bytes) : IsException (.exception what) := ⟨what, rfl⟩

section Quiet

theorem quiet_get (s : State) :
    Ensures get s (fun _ _ => True) fun (_ : Fault) _ => False := trivial

theorem quiet_modify (f : State → State) (s : State) :
    Ensures (modify f) s (fun _ _ => True) fun (_ : Fault) _ => False := trivial

theorem quiet_nextCall (s : State) :
    Ensures (outside nextCall) s (fun _ _ => True) fun _ _ => False := trivial

theorem quiet_sqlite (s : State) :
    Ensures (outside (sqlite w)) s (fun _ _ => True) fun _ _ => False := trivial

theorem quiet_stepInsertUser (row : UserRow) (s : State) :
    Ensures (stepInsertUser w row) s (fun _ _ => True) fun _ _ => False := by
  unfold stepInsertUser
  rw [ensures_bind]
  refine (quiet_sqlite s).mono (fun ok t _ => ?_) fun _ _ => id
  rw [ensures_ite]
  refine ⟨fun _ => trivial, fun _ => ?_⟩
  rw [ensures_bind, ensures_get]
  cases t.users.insert row with
  | some users => trivial
  | none => trivial

theorem quiet_stepUpdateUser (idHash : SqlText) (change : UserRow → UserRow)
    (hkey : ∀ row, (change row).userIdHash = row.userIdHash) (s : State) :
    Ensures (stepUpdateUser w idHash change hkey) s (fun _ _ => True) fun _ _ => False := by
  unfold stepUpdateUser
  rw [ensures_bind]
  refine (quiet_sqlite s).mono (fun ok t _ => ?_) fun _ _ => id
  rw [ensures_ite]
  exact ⟨fun _ => trivial, fun _ => trivial⟩

end Quiet

section Trades

variable {before after : Finset (Handle Kind)} {failed : Finset (Handle Kind) → Prop}

theorem trades_openssl {what : String} (hfailed : failed before) :
    Trades IsException before (plain (outside (openssl w what)) : Program Unit) before failed := by
  refine trades_plain (fun s => ?_) hfailed
  simp [openssl, outside, IsException]

theorem trades_newContext {what : String} {α : Type} {f : Handle Kind → Program α}
    (hfailed : failed before)
    (hf : ∀ ctx, ctx ∉ before → Trades IsException (insert ctx before) (f ctx) after failed) :
    Trades IsException before (newContext w what >>= f) after failed := by
  unfold newContext
  rw [bind_assoc]
  exact (trades_openssl hfailed).bind fun _ => trades_acquire fun ctx _ => hf ctx

theorem trades_contextCall {ctx : Handle Kind} {what : String} (hctx : ctx ∉ before)
    (hfailed : failed before) :
    Trades IsException (insert ctx before) (contextCall w ctx what) (insert ctx before) failed := by
  refine trades_use (Finset.mem_insert_self ..) ((trades_quiet quiet_nextCall).bind fun n => ?_)
  refine Trades.ite (fun _ => trades_pure _) fun _ => ?_
  exact trades_release hctx (trades_throw (isException_exception _) hfailed)

theorem trades_randBytes {ctx : Handle Kind} {length : Nat} {what : String} (hctx : ctx ∉ before)
    (hfailed : failed before) :
    Trades IsException (insert ctx before) (randBytes w ctx length what) (insert ctx before)
      failed := by
  refine (trades_quiet quiet_nextCall).bind fun n => ?_
  refine Trades.ite (fun _ => trades_pure _) fun _ => ?_
  exact trades_release hctx (trades_throw (isException_exception _) hfailed)

/-! No function of `CryptoHelper` keeps its context. -/

theorem trades_sha256 (plaintext : Bytes) :
    Trades IsException ∅ (sha256 w plaintext) ∅ (Only ∅) := by
  refine trades_newContext (only_self _) fun ctx hctx => ?_
  refine (trades_contextCall hctx (only_self _)).bind fun _ => ?_
  exact trades_release hctx (trades_pure _)

theorem trades_deriveKey (secret : Bytes) :
    Trades IsException ∅ (deriveKey w secret) ∅ (Only ∅) := by
  refine trades_newContext (only_self _) fun ctx hctx => ?_
  refine (trades_contextCall hctx (only_self _)).bind fun _ => ?_
  exact trades_release hctx (trades_pure _)

theorem trades_encryptAES256GCM (plaintext key : Bytes) :
    Trades IsException ∅ (encryptAES256GCM w plaintext key) ∅ (Only ∅) := by
  unfold encryptAES256GCM
  refine Trades.ite (fun _ => trades_throw_bind (isException_exception _) (only_self _)) fun _ => ?_
  refine trades_newContext (only_self _) fun ctx hctx => ?_
  refine (trades_randBytes hctx (only_self _)).bind fun iv => ?_
  refine (trades_contextCall hctx (only_self _)).bind fun _ => ?_
  refine (trades_contextCall hctx (only_self _)).bind fun _ => ?_
  refine (trades_contextCall hctx (only_self _)).bind fun _ => ?_
  refine (trades_contextCall hctx (only_self _)).bind fun _ => ?_
  refine (trades_contextCall hctx (only_self _)).bind fun _ => ?_
  refine (trades_contextCall hctx (only_self _)).bind fun _ => ?_
  exact trades_release hctx (trades_pure _)

theorem trades_decryptAES256GCM (text key : Bytes) :
    Trades IsException ∅ (decryptAES256GCM w text key) ∅ (Only ∅) := by
  unfold decryptAES256GCM
  refine Trades.ite (fun _ => trades_throw_bind (isException_exception _) (only_self _)) fun _ => ?_
  refine Trades.ite (fun _ => trades_throw_bind (isException_exception _) (only_self _)) fun _ => ?_
  refine Trades.ite (fun _ => trades_throw_bind (isException_exception _) (only_self _)) fun _ => ?_
  refine trades_newContext (only_self _) fun ctx hctx => ?_
  refine (trades_contextCall hctx (only_self _)).bind fun _ => ?_
  refine (trades_contextCall hctx (only_self _)).bind fun _ => ?_
  refine (trades_contextCall hctx (only_self _)).bind fun _ => ?_
  refine (trades_contextCall hctx (only_self _)).bind fun _ => ?_
  refine (trades_contextCall hctx (only_self _)).bind fun _ => ?_
  refine trades_use (Finset.mem_insert_self ..) (trades_release hctx ?_)
  cases w.gcmOpen key ((fromHex text).take 12) (((fromHex text).drop 12).take 16)
      ((fromHex text).drop 28) with
  | some plaintext => exact trades_pure _
  | none => exact trades_throw (isException_exception _) (only_self _)

theorem trades_hashPasswordPBKDF2 (password salt : Bytes) (hfailed : failed before) :
    Trades IsException before (hashPasswordPBKDF2 w password salt) before failed := by
  refine trades_plain (fun s => ?_) hfailed
  simp [CCTVWebServer.hashPasswordPBKDF2, openssl, outside, IsException]

theorem trades_attempt {E : Fault → Prop} {α : Type} {m : Program α}
    (hm : Trades IsException before m before (Only before)) :
    Trades E before (attempt m) before failed := by
  intro s frame hdisjoint hs
  unfold attempt
  rw [ensures_tryCatch, ensures_map]
  refine (hm s frame hdisjoint hs).mono (fun _ _ => id) ?_
  rintro fault t ⟨⟨what, rfl⟩, part, rfl, hdisjoint', ht⟩
  exact ⟨hdisjoint', ht⟩

variable {db : Handle Kind}

theorem trades_prepare {α : Type} {a : α} {f : Handle Kind → Program α}
    (hf : ∀ stmt, stmt.kind = .statement → stmt ∉ ({db} : Finset (Handle Kind)) →
      Trades IsException (insert stmt {db}) (f stmt) {db} failed) :
    Trades IsException {db} (do
      use db
      if ¬ (← plain (outside (sqlite w))) then return a
      let stmt ← acquire .statement
      f stmt) {db} failed := by
  refine trades_use (Finset.mem_singleton_self db) ((trades_quiet quiet_sqlite).bind fun ok => ?_)
  exact Trades.ite (fun _ => trades_pure _) fun _ => trades_acquire hf

/-- The last calls on a statement. -/
theorem trades_finish {stmt : Handle Kind} {α : Type} {n : Server α} (hstmt : stmt ∉ before)
    (hn : ∀ s, Ensures n s (fun _ _ => True) fun _ _ => False) :
    Trades IsException (insert stmt before) (do
      use stmt
      use stmt
      let a ← plain n
      release stmt
      return a) before failed := by
  refine trades_use (Finset.mem_insert_self ..) (trades_use (Finset.mem_insert_self ..) ?_)
  exact (trades_quiet hn).bind fun a => trades_release hstmt (trades_pure a)

theorem keep_only {α : Type} {m : Program α} (hm : Trades IsException ∅ m ∅ (Only ∅)) :
    Trades IsException before m before (Only before) := hm.keep fun _ h => ⟨h, only_self _⟩

theorem trades_executeQuery (sql : Bytes) (effect : State → State) :
    Trades IsException {db} (executeQuery w db sql effect) {db} (Only {db}) := by
  refine trades_use (Finset.mem_singleton_self db) ((trades_quiet quiet_nextCall).bind fun n => ?_)
  refine Trades.ite (fun _ => trades_quiet (quiet_modify effect)) fun _ => ?_
  refine trades_acquire fun errMsg _ herrMsg => trades_use (Finset.mem_insert_self ..) ?_
  exact trades_release herrMsg (trades_throw (isException_exception _) (only_self _))

theorem trades_selectCount (idHash : SqlText) :
    Trades IsException {db} (selectCount w db idHash) {db} failed := by
  refine trades_prepare fun stmt _ hstmt => trades_use (Finset.mem_insert_self ..) ?_
  refine trades_use (Finset.mem_insert_self ..) ((trades_quiet quiet_sqlite).bind fun _ => ?_)
  refine Trades.ite (fun _ => ?_) fun _ => trades_release hstmt (trades_pure _)
  refine trades_use (Finset.mem_insert_self ..) ((trades_quiet quiet_get).bind fun s => ?_)
  exact trades_release hstmt (trades_pure _)

theorem trades_bootstrapAdmin :
    Trades IsException {db} (bootstrapAdmin w db) {db} (Only {db}) := by
  refine (keep_only (trades_sha256 _)).bind fun adminIdHash => ?_
  refine (trades_selectCount _).bind fun count => ?_
  cases count with
  | none => exact trades_pure _
  | some count =>
    refine Trades.ite (fun _ => ?_) fun _ => trades_pure _
    refine (trades_hashPasswordPBKDF2 _ _ (only_self _)).bind fun adminPwHash => ?_
    refine (trades_quiet quiet_get).bind fun s => ?_
    refine (keep_only (trades_encryptAES256GCM _ _)).bind fun encId => ?_
    refine (trades_quiet quiet_get).bind fun s => ?_
    refine (keep_only (trades_encryptAES256GCM _ _)).bind fun encUsername => ?_
    refine trades_use (Finset.mem_singleton_self db) ((trades_quiet quiet_sqlite).bind fun _ => ?_)
    refine Trades.ite (fun _ => ?_) fun _ => trades_pure _
    exact trades_acquire fun instmt _ hinstmt => trades_use (Finset.mem_insert_self ..)
      (trades_use (Finset.mem_insert_self ..) ((trades_quiet (quiet_stepInsertUser _)).bind
        fun _ => trades_release hinstmt (trades_pure _)))

theorem trades_init (stored : Bytes → DatabaseFile) (dbPath masterSecret : Bytes) :
    Trades IsException {db} (init w db stored dbPath masterSecret) {db} (Only {db}) := by
  refine (trades_quiet quiet_nextCall).bind fun n => Trades.ite (fun _ => ?_) fun _ => ?_
  · exact trades_use (Finset.mem_singleton_self db)
      (trades_throw_bind (isException_exception _) (only_self _))
  refine (trades_quiet (quiet_modify _)).bind fun _ => ?_
  refine (keep_only (trades_deriveKey _)).bind fun key => ?_
  refine (trades_quiet (quiet_modify _)).bind fun _ => (trades_executeQuery _ _).bind fun _ => ?_
  exact (trades_executeQuery _ _).bind fun _ => trades_bootstrapAdmin

theorem trades_registerUser (userId username password : Bytes) :
    Trades IsException {db} (registerUser w db userId username password) {db} (Only {db}) := by
  refine (keep_only (trades_sha256 _)).bind fun idHash => ?_
  refine (trades_selectCount _).bind fun count => ?_
  cases count with
  | none => exact trades_pure _
  | some count =>
    refine Trades.ite (fun _ => trades_pure _) fun _ => ?_
    refine (trades_quiet quiet_get).bind fun s => ?_
    refine (keep_only (trades_encryptAES256GCM _ _)).bind fun encId => ?_
    refine (trades_quiet quiet_get).bind fun s => ?_
    refine (keep_only (trades_encryptAES256GCM _ _)).bind fun encUsername => ?_
    refine (trades_hashPasswordPBKDF2 _ _ (only_self _)).bind fun pwHash => ?_
    exact trades_prepare fun instmt _ hinstmt => trades_finish hinstmt (quiet_stepInsertUser _)

theorem trades_setFlag (userId : Bytes) (change : UserRow → UserRow)
    (hkey : ∀ row, (change row).userIdHash = row.userIdHash) :
    Trades IsException {db} (setFlag w db userId change hkey) {db} (Only {db}) := by
  refine (keep_only (trades_sha256 _)).bind fun idHash => ?_
  exact trades_prepare fun stmt _ hstmt => trades_finish hstmt (quiet_stepUpdateUser _ _ _)

theorem trades_getUser (userId : Bytes) (outUser : UserRecord) :
    Trades IsException {db} (getUser w db userId outUser) {db} (Only {db}) := by
  refine (keep_only (trades_sha256 _)).bind fun idHash => trades_prepare fun stmt _ hstmt => ?_
  have hmem : stmt ∈ insert stmt ({db} : Finset (Handle Kind)) := Finset.mem_insert_self ..
  refine trades_use hmem (trades_use hmem ((trades_quiet quiet_sqlite).bind fun _ => ?_))
  refine Trades.ite (fun _ => trades_release hstmt (trades_pure _)) fun _ => ?_
  refine (trades_quiet quiet_get).bind fun s => ?_
  cases s.users.find (bindText idHash) with
  | none => exact trades_release hstmt (trades_pure _)
  | some row =>
    refine trades_use hmem ((trades_quiet quiet_get).bind fun s => ?_)
    refine (trades_attempt (keep_only (trades_decryptAES256GCM _ _))).bind fun userId => ?_
    cases userId with
    | none => exact trades_release hstmt (trades_pure _)
    | some userId =>
      refine (trades_quiet quiet_get).bind fun s => ?_
      refine (trades_attempt (keep_only (trades_decryptAES256GCM _ _))).bind fun username => ?_
      cases username with
      | none => exact trades_release hstmt (trades_pure _)
      | some username => exact trades_use hmem (trades_release hstmt (trades_pure _))

theorem trades_collectUsers {stmt : Handle Kind} (hstmt : stmt ∈ before) (key : Bytes)
    (rows : List UserRow) :
    Trades IsException before (collectUsers w stmt key rows) before failed := by
  induction rows with
  | nil => exact trades_use hstmt ((trades_quiet quiet_sqlite).bind fun _ => trades_pure _)
  | cons row rows ih =>
    refine trades_use hstmt ((trades_quiet quiet_sqlite).bind fun _ => ?_)
    refine Trades.ite (fun _ => trades_pure _) fun _ => trades_use hstmt ?_
    refine (trades_attempt (keep_only (trades_decryptAES256GCM _ _))).bind fun userId => ?_
    cases userId with
    | none => exact ih
    | some userId =>
      refine (trades_attempt (keep_only (trades_decryptAES256GCM _ _))).bind fun username => ?_
      cases username with
      | none => exact ih
      | some username => exact trades_use hstmt (ih.bind fun users => trades_pure _)

theorem trades_getAllUsers : Trades IsException {db} (getAllUsers w db) {db} (Only {db}) := by
  refine trades_prepare fun stmt _ hstmt => (trades_quiet quiet_get).bind fun s => ?_
  refine (trades_collectUsers (Finset.mem_insert_self ..) _ _).bind fun users => ?_
  exact trades_release hstmt (trades_pure _)

theorem trades_getLatestRtspConfig (outRtsp : RtspRecord) :
    Trades IsException {db} (getLatestRtspConfig w db outRtsp) {db} (Only {db}) := by
  refine trades_prepare fun stmt _ hstmt => ?_
  have hmem : stmt ∈ insert stmt ({db} : Finset (Handle Kind)) := Finset.mem_insert_self ..
  refine trades_use hmem ((trades_quiet quiet_sqlite).bind fun _ => ?_)
  refine Trades.ite (fun _ => trades_release hstmt (trades_pure _)) fun _ => ?_
  refine (trades_quiet quiet_get).bind fun s => ?_
  cases s.rtspConfig.latest with
  | none => exact trades_release hstmt (trades_pure _)
  | some row =>
    refine trades_use hmem ((trades_quiet quiet_get).bind fun s => ?_)
    refine (trades_attempt (keep_only (trades_decryptAES256GCM _ _))).bind fun name => ?_
    cases name with
    | none => exact trades_release hstmt (trades_pure _)
    | some name =>
      refine (trades_quiet quiet_get).bind fun s => ?_
      refine (trades_attempt (keep_only (trades_decryptAES256GCM _ _))).bind fun url => ?_
      cases url with
      | none => exact trades_release hstmt (trades_pure _)
      | some url => exact trades_release hstmt (trades_pure _)

theorem trades_clearRtspConfigs :
    Trades IsException {db} (clearRtspConfigs w db) {db} (Only {db}) := by
  refine (trades_attempt (trades_executeQuery _ _)).bind fun o => ?_
  cases o with
  | some _ => exact trades_pure _
  | none => exact trades_pure _

/-- A statement that has been prepared is still there. -/
def StatementLost (db : Handle Kind) (part : Finset (Handle Kind)) : Prop :=
  ∃ stmt, stmt.kind = .statement ∧ stmt ∉ ({db} : Finset (Handle Kind)) ∧ part = insert stmt {db}

/-- Code between the preparation of a statement and its end may lose it. -/
theorem keep_lost {stmt : Handle Kind} (hkind : stmt.kind = .statement)
    (hstmt : stmt ∉ ({db} : Finset (Handle Kind))) {α : Type} {m : Program α}
    (hm : Trades IsException ∅ m ∅ (Only ∅)) :
    Trades IsException (insert stmt {db}) m (insert stmt {db}) (StatementLost db) :=
  hm.keep fun _ h => ⟨h, stmt, hkind, hstmt, rfl⟩

theorem trades_updateRow (userId newUsername newPassword idHash : Bytes) :
    Trades IsException {db} (updateRow w db userId newUsername newPassword idHash) {db}
      (StatementLost db) := by
  refine trades_prepare fun stmt hkind hstmt => (trades_quiet quiet_get).bind fun s => ?_
  refine (keep_lost hkind hstmt (trades_encryptAES256GCM _ _)).bind fun encUsername => ?_
  refine trades_use (Finset.mem_insert_self ..) (Trades.ite (fun _ => ?_) fun _ => ?_)
  · refine (trades_hashPasswordPBKDF2 _ _ ⟨stmt, hkind, hstmt, rfl⟩).bind fun pwHash => ?_
    exact trades_finish hstmt (quiet_stepUpdateUser _ _ _)
  · exact trades_finish hstmt (quiet_stepUpdateUser _ _ _)

theorem trades_saveRtspConfig (name url : Bytes) :
    Trades IsException {db} (saveRtspConfig w db name url) {db} (StatementLost db) := by
  refine trades_prepare fun stmt hkind hstmt => (trades_quiet quiet_get).bind fun s => ?_
  refine (keep_lost hkind hstmt (trades_encryptAES256GCM _ _)).bind fun encName => ?_
  refine (trades_quiet quiet_get).bind fun s => ?_
  refine (keep_lost hkind hstmt (trades_encryptAES256GCM _ _)).bind fun encUrl => ?_
  refine trades_use (Finset.mem_insert_self ..) (trades_use (Finset.mem_insert_self ..) ?_)
  refine (trades_quiet quiet_sqlite).bind fun _ => Trades.ite (fun _ => ?_) fun _ => ?_
  · exact trades_release hstmt (trades_pure _)
  · exact (trades_quiet (quiet_modify _)).bind fun _ => trades_release hstmt (trades_pure _)

end Trades

/-! ## Runs -/

section Runs

variable {stored : Bytes → DatabaseFile} {db : Handle Kind} {s : Logged State Kind}
  {held : Finset (Handle Kind)}

/-- Code that loses its statement exactly when it raises. -/
theorem finalState_of_lost {α : Type} {m : Program α}
    (hm : Trades IsException {db} m {db} (StatementLost db)) (hs : s.Owns held) (hdb : db ∈ held) :
    if completes m s then (finalState m s).Owns held
    else ∃ stmt, stmt.kind = .statement ∧ stmt ∉ held ∧
      (finalState m s).Owns (insert stmt held) := by
  have h := hm.ensures hs hdb
  unfold Ensures at h
  unfold completes finalState
  cases hrun : m.run s with
  | ok a t => simpa [hrun] using h
  | error x t =>
    simp only [hrun] at h
    obtain ⟨part, ⟨stmt, hkind, hstmt, rfl⟩, hdisjoint, ht⟩ := h
    refine ⟨stmt, hkind, fun hmem => ?_, ?_⟩
    · have hne : stmt ≠ db := by simpa using hstmt
      exact Finset.disjoint_left.mp hdisjoint (Finset.mem_insert_self ..)
        (Finset.mem_erase.mpr ⟨hne, hmem⟩)
    · rwa [Finset.insert_union, singleton_union_erase hdb] at ht

/-- What is held after a call. -/
theorem Call.finalState_owns (hs : s.Owns held) (hdb : db ∈ held) (c : Call) :
    if c.loses w s.state then ∃ stmt, stmt.kind = .statement ∧ stmt ∉ held ∧
      (finalState (c.trace w db) s).Owns (insert stmt held)
    else (finalState (c.trace w db) s).Owns held := by
  cases c with
  | updateUserProfile userId newUsername newPassword =>
    have hhash := (keep_only (trades_sha256 (w := w) userId)).ensures hs hdb
    have herase := (erases_sha256 (w := w) userId).completes_eq s
    have herase' : completes (Handles.updateUserProfile w db userId newUsername newPassword) s =
        completes (CCTVWebServer.updateUserProfile w userId newUsername newPassword) s.state :=
      (erases_updateUserProfile _ _ _).completes_eq s
    simp only [Call.loses, Call.trace, finalState_map, ← herase, ← herase']
    unfold Handles.updateUserProfile
    cases hrun : (sha256 w userId).run s with
    | ok idHash t =>
      have ht : t.Owns held := hhash.of_ok hrun
      have hcompletes : completes (sha256 w userId) s = true := by simp [completes, hrun]
      have hrow := finalState_of_lost (trades_updateRow (w := w) userId newUsername newPassword
        idHash) ht hdb
      rw [finalState_bind_ok hrun, completes_bind_ok hrun, hcompletes]
      cases hrow' : completes (updateRow w db userId newUsername newPassword idHash) t <;>
        simpa [hrow'] using hrow
    | error fault t =>
      have hcompletes : completes (sha256 w userId) s = false := by simp [completes, hrun]
      obtain ⟨part, rfl, -, ht⟩ := hhash.of_error hrun
      rw [finalState_bind_error hrun, hcompletes]
      rw [singleton_union_erase hdb] at ht
      exact ht
  | saveRtspConfig name url =>
    have herase : completes (Handles.saveRtspConfig w db name url) s =
        completes (CCTVWebServer.saveRtspConfig w name url) s.state :=
      (erases_saveRtspConfig _ _).completes_eq s
    have hlost := finalState_of_lost (trades_saveRtspConfig (w := w) name url) hs hdb
    simp only [Call.loses, Call.trace, finalState_map, ← herase]
    cases hcompletes : completes (Handles.saveRtspConfig w db name url) s <;>
      simpa [hcompletes] using hlost
  | registerUser => exact (trades_registerUser _ _ _).map _ |>.finalState_owns hs hdb
  | approveUser | evictUser => exact (trades_setFlag _ _ _).map _ |>.finalState_owns hs hdb
  | getUser => exact (trades_getUser _ _).map _ |>.finalState_owns hs hdb
  | getAllUsers => exact trades_getAllUsers.map _ |>.finalState_owns hs hdb
  | getLatestRtspConfig => exact (trades_getLatestRtspConfig _).map _ |>.finalState_owns hs hdb
  | clearRtspConfigs => exact trades_clearRtspConfigs.map _ |>.finalState_owns hs hdb

/-- After a history the connections that were opened are held, and the statements that were
lost. -/
structure Sound (h : List Event) (p : Process) (held : Finset (Handle Kind)) : Prop where
  owns : p.logged.Owns held
  connection : ∀ db, p.connection = some db → db ∈ held
  kinds : ∀ r ∈ held, r.kind = .connection ∨ r.kind = .statement
  connections : (held.filter fun r => r.kind = .connection).card = h.countP Event.opens
  statements : (held.filter fun r => r.kind = .statement).card = h.countP Event.loses

theorem sound_constructed (s : State) : Sound [] (.constructed s) ∅ where
  owns := ⟨rfl, by simp⟩
  connection _ h := nomatch h
  kinds _ h := nomatch h
  connections := rfl
  statements := rfl

variable {h : List Event} {p q : Process} {ev : Event}

theorem Sound.init (hs : Sound h p held) (dbPath masterSecret : Bytes) :
    ∃ held', Sound (.init dbPath masterSecret :: h) (p.init w stored dbPath masterSecret)
      held' := by
  obtain ⟨hnew, howns⟩ := hs.owns.acquire .connection
  refine ⟨_, (trades_init stored dbPath masterSecret).finalState_owns howns
    (Finset.mem_insert_self ..), ?_, ?_, ?_, ?_⟩
  · rintro db hdb
    obtain rfl := Option.some.inj hdb
    exact Finset.mem_insert_self ..
  · intro r hr
    rcases Finset.mem_insert.mp hr with rfl | hr
    · exact .inl rfl
    · exact hs.kinds r hr
  · rw [Finset.filter_insert, if_pos rfl, Finset.card_insert_of_notMem (by simp [hnew]),
      hs.connections, List.countP_cons_of_pos rfl]
  · rw [Finset.filter_insert, if_neg (by simp), hs.statements, List.countP_cons_of_neg (by simp
      [Event.loses])]

theorem Sound.call (hs : Sound h p held) (hdb : p.connection = some db) (c : Call) :
    ∃ held', Sound (.call c (c.loses w p.logged.state) :: h)
      { p with logged := finalState (c.trace w db) p.logged } held' := by
  have howns := c.finalState_owns (w := w) hs.owns (hs.connection db hdb)
  cases hloses : c.loses w p.logged.state with
  | false =>
    simp only [hloses, Bool.false_eq_true, if_false] at howns
    refine ⟨held, howns, hs.connection, hs.kinds, ?_, ?_⟩
    · rw [hs.connections, List.countP_cons_of_neg (by simp [Event.opens])]
    · rw [hs.statements, List.countP_cons_of_neg (by simp [Event.loses])]
  | true =>
    simp only [hloses, if_true] at howns
    obtain ⟨stmt, hkind, hnew, howns⟩ := howns
    refine ⟨insert stmt held, howns, fun db' hdb' => ?_, fun r hr => ?_, ?_, ?_⟩
    · exact Finset.mem_insert_of_mem (hs.connection db' hdb')
    · rcases Finset.mem_insert.mp hr with rfl | hr
      · exact .inr hkind
      · exact hs.kinds r hr
    · rw [Finset.filter_insert, if_neg (by simp [hkind]), hs.connections,
        List.countP_cons_of_neg (by simp [Event.opens])]
    · rw [Finset.filter_insert, if_pos hkind, Finset.card_insert_of_notMem (by simp [hnew]),
        hs.statements, List.countP_cons_of_pos rfl]

theorem Sound.step (hs : Sound h p held) (hstep : Step w stored p ev q) :
    ∃ held', Sound (ev :: h) q held' := by
  cases hstep with
  | init dbPath masterSecret => exact hs.init dbPath masterSecret
  | call db hdb c => exact hs.call hdb c
  | elsewhere s =>
    exact ⟨held, ⟨hs.owns.leads, hs.owns.number_lt⟩, hs.connection, hs.kinds, hs.connections,
      hs.statements⟩

/-- Over every run of the object, whatever fails: the operations on each context, message,
statement and connection are an acquisition, uses and a release; what has not been released
are the connection of every `init`, since `db_` is overwritten, and one statement for each
call of `updateUserProfile` and `saveRtspConfig` that raised behind its preparation; and apart
from this the calls are those of the database. -/
theorem database_handles {s : State} (hrun : Trace (Step w stored) (.constructed s) h p) :
    (∃ held : Finset (Handle Kind),
      (∀ r, Rounds r (r ∈ held) (p.logged.log.filter fun op => op.resource = r)) ∧
      (∀ r ∈ held, r.kind = .connection ∨ r.kind = .statement) ∧
      (held.filter fun r => r.kind = .connection).card = h.countP Event.opens ∧
      (held.filter fun r => r.kind = .statement).card = h.countP Event.loses) ∧
    (∀ db (c : Call), completes (c.trace w db) p.logged = completes (c.run w) p.logged.state ∧
      (finalState (c.trace w db) p.logged).state = finalState (c.run w) p.logged.state) ∧
    ∀ dbPath masterSecret, (p.init w stored dbPath masterSecret).logged.state =
      finalState (CCTVWebServer.init w stored dbPath masterSecret) p.logged.state := by
  have hsound : ∃ held, Sound h p held := by
    refine hrun.invariant_history (I := fun h p => ∃ held, Sound h p held) ?_
      ⟨∅, sound_constructed s⟩
    rintro h p ev q ⟨held, hs⟩ hstep
    exact hs.step hstep
  obtain ⟨held, hs⟩ := hsound
  refine ⟨⟨held, hs.owns.leads.rounds, hs.kinds, hs.connections, hs.statements⟩,
    fun db c => ?_, fun dbPath masterSecret => ?_⟩
  · exact ⟨c.erases.completes_eq p.logged, c.erases.finalState_eq p.logged⟩
  · exact (erases_init stored dbPath masterSecret).finalState_eq _

end Runs

/-! The library fails, the database is opened all the same, and a camera cannot be saved. -/

def offline : World := { Reference.world with opensslOk := fun _ => false }

def opened : Process :=
  (Process.constructed (State.started 0)).init offline (fun _ => DatabaseFile.new)
    Reference.dbPath Reference.masterSecret

def openedConnection : Handle Kind := ⟨.connection, 0⟩

def unsaved : Process :=
  { opened with logged :=
      finalState ((Call.saveRtspConfig [] []).trace offline openedConnection) opened.logged }

theorem database_handles_unsaved :
    let h : List Event := [.call (.saveRtspConfig [] []) true,
      .init Reference.dbPath Reference.masterSecret]
    (∃ held : Finset (Handle Kind),
      (∀ r, Rounds r (r ∈ held) (unsaved.logged.log.filter fun op => op.resource = r)) ∧
      (∀ r ∈ held, r.kind = .connection ∨ r.kind = .statement) ∧
      (held.filter fun r => r.kind = .connection).card = h.countP Event.opens ∧
      (held.filter fun r => r.kind = .statement).card = h.countP Event.loses) ∧
    (∀ db (c : Call),
      completes (c.trace offline db) unsaved.logged =
        completes (c.run offline) unsaved.logged.state ∧
      (finalState (c.trace offline db) unsaved.logged).state =
        finalState (c.run offline) unsaved.logged.state) ∧
    ∀ dbPath masterSecret,
      (unsaved.init offline (fun _ => DatabaseFile.new) dbPath masterSecret).logged.state =
        finalState (CCTVWebServer.init offline (fun _ => DatabaseFile.new) dbPath masterSecret)
          unsaved.logged.state := by
  intro h
  have hloses : (Call.saveRtspConfig [] []).loses offline opened.logged.state = true := rfl
  have hsave : Step offline (fun _ => DatabaseFile.new) opened
      (.call (.saveRtspConfig [] []) ((Call.saveRtspConfig [] []).loses offline
        opened.logged.state)) unsaved := .call opened openedConnection rfl _
  rw [hloses] at hsave
  have hrun : Trace (Step offline fun _ => DatabaseFile.new) (.constructed (State.started 0)) h
      unsaved := .step (.step .refl (.init _ _ _)) hsave
  exact database_handles hrun

end Handles

end CCTVWebServer
