import CCTVWebServer.Database
import CCTVWebServer.Foundation.Handles

/-!
# The handles of CryptoHelper and Database

The functions of both once more, with what they do to the handles that OpenSSL and SQLite
give them: the contexts of digests and ciphers, error messages, statements and the connection.
Without the handles they are the functions of the two modules. Allocations succeed.
-/

namespace CCTVWebServer.Handles

open Foundation Foundation.Resources

inductive Kind where
  | context
  | message
  | statement
  | connection
  deriving DecidableEq

abbrev Program := EStateM Fault (Logged State Kind)

variable (w : World)

/-! ## CryptoHelper -/

/-- `EVP_MD_CTX_new` and `EVP_CIPHER_CTX_new`. -/
def newContext (what : String) : Program (Handle Kind) := do
  plain (outside (openssl w what))
  acquire .context

/-- A call on a context, which is released before its failure is raised. -/
def contextCall (ctx : Handle Kind) (what : String) : Program Unit := do
  use ctx
  if w.opensslOk (← plain (outside nextCall)) then pure ()
  else do
    release ctx
    throw (.exception (str what))

/-- `RAND_bytes`, with a context at hand. -/
def randBytes (ctx : Handle Kind) (length : Nat) (what : String) : Program Bytes := do
  let n ← plain (outside nextCall)
  if w.opensslOk n then pure ((List.range length).map (w.draw n))
  else do
    release ctx
    throw (.exception (str what))

def deriveKey (secret : Bytes) : Program Bytes := do
  let ctx ← newContext w "Failed to create EVP_MD_CTX"
  contextCall w ctx "SHA256 digest failed in key derivation"
  release ctx
  return w.sha256Digest secret

def encryptAES256GCM (plaintext key : Bytes) : Program Bytes := do
  if key.length ≠ 32 then
    throw (.exception (str "AES-256-GCM key size must be 32 bytes"))
  let ctx ← newContext w "Failed to create EVP_CIPHER_CTX"
  let iv ← randBytes w ctx 12 "Failed to generate random GCM IV"
  contextCall w ctx "Failed to init GCM encrypt context"
  contextCall w ctx "Failed to set GCM IV length"
  contextCall w ctx "Failed to set GCM key and IV"
  contextCall w ctx "Failed to encrypt update in GCM"
  contextCall w ctx "Failed to encrypt final in GCM"
  contextCall w ctx "Failed to get GCM auth tag"
  release ctx
  let (tag, ciphertext) := w.gcmSeal key iv plaintext
  return toHex iv ++ toHex tag ++ toHex ciphertext

def decryptAES256GCM (hexCiphertext key : Bytes) : Program Bytes := do
  if key.length ≠ 32 then
    throw (.exception (str "AES-256-GCM key size must be 32 bytes"))
  if hexCiphertext.length < (12 + 16) * 2 then
    throw (.exception (str "Ciphertext hex is too short for GCM format"))
  let data := fromHex hexCiphertext
  if data.length < 12 + 16 then
    throw (.exception (str "Decoded GCM buffer is too short"))
  let iv := data.take 12
  let tag := (data.drop 12).take 16
  let ciphertext := data.drop 28
  let ctx ← newContext w "Failed to create EVP_CIPHER_CTX"
  contextCall w ctx "Failed to init GCM decrypt context"
  contextCall w ctx "Failed to set GCM IV length"
  contextCall w ctx "Failed to set GCM key and IV"
  contextCall w ctx "Failed to decrypt update in GCM"
  contextCall w ctx "Failed to set GCM tag"
  -- `EVP_DecryptFinal_ex`, whose result is looked at after the context has gone
  use ctx
  release ctx
  match w.gcmOpen key iv tag ciphertext with
  | some plaintext => return plaintext
  | none => throw (.exception (str "AES-GCM decryption tag verification failed (tampered data)"))

def sha256 (plaintext : Bytes) : Program Bytes := do
  let ctx ← newContext w "Failed to create EVP_MD_CTX"
  contextCall w ctx "SHA256 digest failed"
  release ctx
  return toHex (w.sha256Digest plaintext)

/-- No handle. -/
def hashPasswordPBKDF2 (password salt : Bytes) : Program Bytes :=
  plain (outside (CCTVWebServer.hashPasswordPBKDF2 w password salt))

/-! ## Database -/

variable (db : Handle Kind)

def executeQuery (sql : Bytes) (effect : State → State) : Program Unit := do
  use db
  let n ← plain (outside nextCall)
  if w.sqliteOk n then plain (modify effect)
  else do
    let errMsg ← acquire .message
    use errMsg
    release errMsg
    throw (.exception (str "SQL Exec Error: " ++ w.sqliteMessage n ++ str " (Query: " ++ sql
      ++ str ")"))

/-- The use before a step is that of the calls which bind the parameters. -/
def selectCount (idHash : SqlText) : Program (Option Nat) := do
  use db
  if ¬ (← plain (outside (sqlite w))) then return none
  let stmt ← acquire .statement
  use stmt
  use stmt
  if ← plain (outside (sqlite w)) then
    use stmt
    let users := (← plain get).users
    release stmt
    return some (users.count idHash)
  release stmt
  return some 0

def bootstrapAdmin : Program Unit := do
  let adminIdHash ← sha256 w (str "admin")
  match ← selectCount w db (bindText adminIdHash) with
  | none => return
  | some count =>
    if count = 0 then
      let adminPwHash ← hashPasswordPBKDF2 w (str "admin") (str "admin")
      let encId ← encryptAES256GCM w (str "admin") (← plain get).key
      let encUsername ← encryptAES256GCM w (str "Administrator") (← plain get).key
      use db
      if ← plain (outside (sqlite w)) then
        let instmt ← acquire .statement
        use instmt
        use instmt
        let _ ← plain (stepInsertUser w {
          userIdHash := bindText adminIdHash
          userIdEnc := bindText encId
          usernameEnc := bindText encUsername
          passwordHash := bindText adminPwHash
          role := bindText (str "admin")
          isApproved := 1
          isActive := 1 })
        release instmt
        pure ()

/-- `init` behind `sqlite3_open`, which gives a connection also when it fails. -/
def init (stored : Bytes → DatabaseFile) (dbPath masterSecret : Bytes) : Program Unit := do
  let n ← plain (outside nextCall)
  if ¬ w.sqliteOk n then
    use db
    throw (.exception (str "Failed to open sqlite3 database: " ++ w.sqliteMessage n))
  plain (modify fun s => { s with
    dbPath := dbPath
    users := (stored dbPath).users
    rtspConfig := (stored dbPath).rtspConfig })
  let key ← deriveKey w masterSecret
  plain (modify fun s => { s with key := key })
  executeQuery w db createUsersTable id
  executeQuery w db createRtspTable id
  bootstrapAdmin w db

def registerInsert (userId username password : Bytes) (idHash : SqlText) : Program Bool := do
  let encId ← encryptAES256GCM w userId (← plain get).key
  let encUsername ← encryptAES256GCM w username (← plain get).key
  let pwHash ← hashPasswordPBKDF2 w password userId
  use db
  if ¬ (← plain (outside (sqlite w))) then return false
  let instmt ← acquire .statement
  use instmt
  use instmt
  let done ← plain (stepInsertUser w {
    userIdHash := idHash
    userIdEnc := bindText encId
    usernameEnc := bindText encUsername
    passwordHash := bindText pwHash
    role := bindText (str "user")
    isApproved := 0
    isActive := 1 })
  release instmt
  return done

def registerUser (userId username password : Bytes) : Program Bool := do
  let idHash ← sha256 w userId
  match ← selectCount w db (bindText idHash) with
  | none => return false
  | some count =>
    if count > 0 then return false
    registerInsert w db userId username password (bindText idHash)

def setFlag (userId : Bytes) (change : UserRow → UserRow)
    (hkey : ∀ row, (change row).userIdHash = row.userIdHash) : Program Bool := do
  let idHash ← sha256 w userId
  use db
  if ¬ (← plain (outside (sqlite w))) then return false
  let stmt ← acquire .statement
  use stmt
  use stmt
  let done ← plain (stepUpdateUser w (bindText idHash) change hkey)
  release stmt
  return done

def approveUser (userId : Bytes) : Program Bool :=
  setFlag w db userId UserRow.approve UserRow.userIdHash_approve

def evictUser (userId : Bytes) : Program Bool :=
  setFlag w db userId UserRow.evict UserRow.userIdHash_evict

/-- The step of the statement of `updateUserProfile`. -/
def stepUpdateProfile (idHash usernameEnc : SqlText) (passwordHash : Option SqlText) :
    Server Bool :=
  stepUpdateUser w idHash (UserRow.updateProfile usernameEnc passwordHash)
    (UserRow.userIdHash_updateProfile usernameEnc passwordHash)

/-- `updateUserProfile` behind the hash of the id: the columns are computed between the
preparation of the statement and its end. -/
def updateRow (userId newUsername newPassword idHash : Bytes) : Program Bool := do
  use db
  if ¬ (← plain (outside (sqlite w))) then return false
  let stmt ← acquire .statement
  let encUsername ← encryptAES256GCM w newUsername (← plain get).key
  use stmt
  if newPassword ≠ [] then
    let pwHash ← hashPasswordPBKDF2 w newPassword userId
    use stmt
    use stmt
    let done ← plain (stepUpdateProfile w (bindText idHash) (bindText encUsername)
      (some (bindText pwHash)))
    release stmt
    return done
  else
    use stmt
    use stmt
    let done ← plain (stepUpdateProfile w (bindText idHash) (bindText encUsername) none)
    release stmt
    return done

def updateUserProfile (userId newUsername newPassword : Bytes) : Program Bool := do
  let idHash ← sha256 w userId
  updateRow w db userId newUsername newPassword idHash

def getUser (userId : Bytes) (outUser : UserRecord) : Program (Bool × UserRecord) := do
  let idHash ← sha256 w userId
  use db
  if ¬ (← plain (outside (sqlite w))) then return (false, outUser)
  let stmt ← acquire .statement
  use stmt
  use stmt
  if ¬ (← plain (outside (sqlite w))) then
    release stmt
    return (false, outUser)
  match (← plain get).users.find (bindText idHash) with
  | none =>
    release stmt
    return (false, outUser)
  | some row =>
    use stmt
    match ← attempt (decryptAES256GCM w row.userIdEnc.val (← plain get).key) with
    | none =>
      release stmt
      return (false, outUser)
    | some userId =>
      match ← attempt (decryptAES256GCM w row.usernameEnc.val (← plain get).key) with
      | none =>
        release stmt
        return (false, { outUser with userId := userId })
      | some username =>
        use stmt
        release stmt
        return (true, row.record userId username)

def collectUsers (stmt : Handle Kind) (key : Bytes) : List UserRow → Program (List UserRecord)
  | [] => do
    use stmt
    let _ ← plain (outside (sqlite w))
    return []
  | row :: rows => do
    use stmt
    if ¬ (← plain (outside (sqlite w))) then return []
    use stmt
    match ← attempt (decryptAES256GCM w row.userIdEnc.val key) with
    | none => collectUsers stmt key rows
    | some userId =>
      match ← attempt (decryptAES256GCM w row.usernameEnc.val key) with
      | none => collectUsers stmt key rows
      | some username =>
        use stmt
        let users ← collectUsers stmt key rows
        return row.record userId username :: users

def getAllUsers : Program (List UserRecord) := do
  use db
  if ¬ (← plain (outside (sqlite w))) then return []
  let stmt ← acquire .statement
  let s ← plain get
  let users ← collectUsers w stmt s.key s.users.rows
  release stmt
  return users

/-- The columns are computed between the preparation of the statement and its end. -/
def saveRtspConfig (name url : Bytes) : Program Bool := do
  use db
  if ¬ (← plain (outside (sqlite w))) then return false
  let stmt ← acquire .statement
  let encName ← encryptAES256GCM w name (← plain get).key
  let encUrl ← encryptAES256GCM w url (← plain get).key
  use stmt
  use stmt
  if ¬ (← plain (outside (sqlite w))) then
    release stmt
    return false
  plain (modify fun s =>
    { s with rtspConfig := s.rtspConfig.insert (bindText encName) (bindText encUrl) })
  release stmt
  return true

def getLatestRtspConfig (outRtsp : RtspRecord) : Program (Bool × RtspRecord) := do
  use db
  if ¬ (← plain (outside (sqlite w))) then return (false, outRtsp)
  let stmt ← acquire .statement
  use stmt
  if ¬ (← plain (outside (sqlite w))) then
    release stmt
    return (false, outRtsp)
  match (← plain get).rtspConfig.latest with
  | none =>
    release stmt
    return (false, outRtsp)
  | some row =>
    use stmt
    match ← attempt (decryptAES256GCM w row.nameEnc.val (← plain get).key) with
    | none =>
      release stmt
      return (false, { outRtsp with id := row.id })
    | some name =>
      match ← attempt (decryptAES256GCM w row.urlEnc.val (← plain get).key) with
      | none =>
        release stmt
        return (false, { outRtsp with id := row.id, name := name })
      | some url =>
        release stmt
        return (true, ⟨row.id, name, url⟩)

def clearRtspConfigs : Program Bool := do
  match ← attempt (executeQuery w db (str "DELETE FROM rtsp_config;")
      fun s => { s with rtspConfig := s.rtspConfig.clear }) with
  | some _ => return true
  | none => return false

/-! ## The object -/

/-- The member functions, `init` apart. -/
inductive Call where
  | registerUser (userId username password : Bytes)
  | approveUser (userId : Bytes)
  | evictUser (userId : Bytes)
  | updateUserProfile (userId newUsername newPassword : Bytes)
  | getUser (userId : Bytes) (outUser : UserRecord)
  | getAllUsers
  | saveRtspConfig (name url : Bytes)
  | getLatestRtspConfig (outRtsp : RtspRecord)
  | clearRtspConfigs

inductive Answer where
  | flag (b : Bool)
  | user (answer : Bool × UserRecord)
  | users (users : List UserRecord)
  | rtsp (answer : Bool × RtspRecord)

/-- The call on the handles. -/
def Call.trace : Call → Program Answer
  | .registerUser userId username password =>
    .flag <$> Handles.registerUser w db userId username password
  | .approveUser userId => .flag <$> Handles.approveUser w db userId
  | .evictUser userId => .flag <$> Handles.evictUser w db userId
  | .updateUserProfile userId newUsername newPassword =>
    .flag <$> Handles.updateUserProfile w db userId newUsername newPassword
  | .getUser userId outUser => .user <$> Handles.getUser w db userId outUser
  | .getAllUsers => .users <$> Handles.getAllUsers w db
  | .saveRtspConfig name url => .flag <$> Handles.saveRtspConfig w db name url
  | .getLatestRtspConfig outRtsp => .rtsp <$> Handles.getLatestRtspConfig w db outRtsp
  | .clearRtspConfigs => .flag <$> Handles.clearRtspConfigs w db

/-- The call on the database. -/
def Call.run : Call → Server Answer
  | .registerUser userId username password =>
    .flag <$> CCTVWebServer.registerUser w userId username password
  | .approveUser userId => .flag <$> CCTVWebServer.approveUser w userId
  | .evictUser userId => .flag <$> CCTVWebServer.evictUser w userId
  | .updateUserProfile userId newUsername newPassword =>
    .flag <$> CCTVWebServer.updateUserProfile w userId newUsername newPassword
  | .getUser userId outUser => .user <$> CCTVWebServer.getUser w userId outUser
  | .getAllUsers => .users <$> CCTVWebServer.getAllUsers w
  | .saveRtspConfig name url => .flag <$> CCTVWebServer.saveRtspConfig w name url
  | .getLatestRtspConfig outRtsp => .rtsp <$> CCTVWebServer.getLatestRtspConfig w outRtsp
  | .clearRtspConfigs => .flag <$> CCTVWebServer.clearRtspConfigs w

/-- The call raises after it has prepared its statement. -/
def Call.loses (s : State) : Call → Bool
  | .updateUserProfile userId newUsername newPassword =>
    completes (outside (CCTVWebServer.sha256 w userId)) s &&
      !completes (CCTVWebServer.updateUserProfile w userId newUsername newPassword) s
  | .saveRtspConfig name url => !completes (CCTVWebServer.saveRtspConfig w name url) s
  | _ => false

structure Process where
  logged : Logged State Kind
  /-- `db_`. -/
  connection : Option (Handle Kind)

/-- Before the first `init`. -/
def Process.constructed (s : State) : Process := ⟨⟨s, []⟩, none⟩

/-- `init` overwrites `db_` before anything can fail. -/
def Process.init (stored : Bytes → DatabaseFile) (dbPath masterSecret : Bytes) (p : Process) :
    Process :=
  let db := ⟨.connection, p.logged.log.length⟩
  ⟨finalState (Handles.init w db stored dbPath masterSecret) (p.logged.add (.acquire db)), some db⟩

inductive Event where
  | init (dbPath masterSecret : Bytes)
  | call (c : Call) (loses : Bool)
  | elsewhere

/-- The object is opened, possibly again, one of its functions is called, or other code of the
process runs. -/
inductive Step (stored : Bytes → DatabaseFile) : Process → Event → Process → Prop
  | init (p : Process) (dbPath masterSecret : Bytes) :
      Step stored p (.init dbPath masterSecret) (p.init w stored dbPath masterSecret)
  | call (p : Process) (db : Handle Kind) (hdb : p.connection = some db) (c : Call) :
      Step stored p (.call c (c.loses w p.logged.state))
        { p with logged := finalState (c.trace w db) p.logged }
  | elsewhere (p : Process) (s : State) :
      Step stored p .elsewhere { p with logged := { p.logged with state := s } }

def Event.loses : Event → Bool
  | .call _ loses => loses
  | _ => false

def Event.opens : Event → Bool
  | .init _ _ => true
  | _ => false

end CCTVWebServer.Handles
