import CCTVWebServer.State

/-!
# Database

The member functions of `Database`. Preparing a statement and stepping it are two
calls to SQLite, each of which may fail; a failing statement has no effect. A
function that reports by a reference parameter returns that parameter's final
value beside its result.
-/

namespace CCTVWebServer

open Foundation

structure UserRecord where
  userId : Bytes
  username : Bytes
  passwordHash : Bytes
  role : Bytes
  isApproved : Int
  isActive : Int
  deriving DecidableEq

/-- A declared record. Its two integers are indeterminate in the source, and nothing
reads them before `getUser` has set them. -/
def UserRecord.declared : UserRecord := ⟨[], [], [], [], 0, 0⟩

structure RtspRecord where
  id : Nat
  name : Bytes
  url : Bytes
  deriving DecidableEq

variable (w : World)

/-- A statement without rows, which raises when it fails. -/
def executeQuery (sql : Bytes) (effect : State → State) : Server Unit := do
  let n ← outside nextCall
  if w.sqliteOk n then modify effect
  else throw (.exception (str "SQL Exec Error: " ++ w.sqliteMessage n ++ str " (Query: " ++ sql
    ++ str ")"))

/-- `SELECT COUNT(*) FROM users WHERE user_id_hash = ?`, absent when it cannot be
prepared and 0 when the step does not give a row. -/
def selectCount (idHash : SqlText) : Server (Option Nat) := do
  if ¬ (← outside (sqlite w)) then return none
  if ← outside (sqlite w) then return some ((← get).users.count idHash)
  return some 0

/-- One step of a prepared `INSERT INTO users`; `true` for SQLITE_DONE. -/
def stepInsertUser (row : UserRow) : Server Bool := do
  if ¬ (← outside (sqlite w)) then return false
  match (← get).users.insert row with
  | some users =>
    modify fun s => { s with users := users }
    return true
  | none => return false

/-- Prepare and step an `UPDATE users .. WHERE user_id_hash = ?`. -/
def stepUpdateUser (idHash : SqlText) (change : UserRow → UserRow)
    (hkey : ∀ row, (change row).userIdHash = row.userIdHash) : Server Bool := do
  if ¬ (← outside (sqlite w)) then return false
  modify fun s => { s with users := s.users.update idHash change hkey }
  return true

def bootstrapAdmin : Server Unit := do
  let adminIdHash ← outside (sha256 w (str "admin"))
  match ← selectCount w (bindText adminIdHash) with
  | none => return
  | some count =>
    if count = 0 then
      let adminPwHash ← outside (hashPasswordPBKDF2 w (str "admin") (str "admin"))
      let encId ← outside (encryptAES256GCM w (str "admin") (← get).key)
      let encUsername ← outside (encryptAES256GCM w (str "Administrator") (← get).key)
      if ← outside (sqlite w) then
        -- the result of the step is not looked at
        let _ ← stepInsertUser w {
          userIdHash := bindText adminIdHash
          userIdEnc := bindText encId
          usernameEnc := bindText encUsername
          passwordHash := bindText adminPwHash
          role := bindText (str "admin")
          isApproved := 1
          isActive := 1 }

def createUsersTable : Bytes := str
  "CREATE TABLE IF NOT EXISTS users (  user_id_hash TEXT PRIMARY KEY,  user_id_enc TEXT NOT NULL,  username_enc TEXT NOT NULL,  password_hash TEXT NOT NULL,  role TEXT NOT NULL,  is_approved INTEGER NOT NULL DEFAULT 0,  is_active INTEGER NOT NULL DEFAULT 1);"

def createRtspTable : Bytes := str
  "CREATE TABLE IF NOT EXISTS rtsp_config (  id INTEGER PRIMARY KEY AUTOINCREMENT,  name_enc TEXT NOT NULL,  url_enc TEXT NOT NULL,  created_at DATETIME DEFAULT CURRENT_TIMESTAMP);"

/-- `Database::init`, on the file system that holds `stored path` at `path`. -/
def init (stored : Bytes → DatabaseFile) (dbPath masterSecret : Bytes) : Server Unit := do
  let n ← outside nextCall
  if ¬ w.sqliteOk n then
    throw (.exception (str "Failed to open sqlite3 database: " ++ w.sqliteMessage n))
  modify fun s => { s with
    dbPath := dbPath
    users := (stored dbPath).users
    rtspConfig := (stored dbPath).rtspConfig }
  let key ← outside (deriveKey w masterSecret)
  modify fun s => { s with key := key }
  -- a table that exists is left as it is, and a new one is empty
  executeQuery w createUsersTable id
  executeQuery w createRtspTable id
  bootstrapAdmin w

/-- The second half of `registerUser`: encrypt the columns and insert the row. -/
def registerInsert (userId username password : Bytes) (idHash : SqlText) : Server Bool := do
  let encId ← outside (encryptAES256GCM w userId (← get).key)
  let encUsername ← outside (encryptAES256GCM w username (← get).key)
  let pwHash ← outside (hashPasswordPBKDF2 w password userId)
  if ¬ (← outside (sqlite w)) then return false
  stepInsertUser w {
    userIdHash := idHash
    userIdEnc := bindText encId
    usernameEnc := bindText encUsername
    passwordHash := bindText pwHash
    role := bindText (str "user")
    isApproved := 0
    isActive := 1 }

def registerUser (userId username password : Bytes) : Server Bool := do
  let idHash ← outside (sha256 w userId)
  match ← selectCount w (bindText idHash) with
  | none => return false
  | some count =>
    -- active, pending or banned: the id is taken
    if count > 0 then return false
    registerInsert w userId username password (bindText idHash)

/-- `UPDATE users SET column = value WHERE user_id_hash = ?`, for the flags of a row. -/
def setFlag (userId : Bytes) (change : UserRow → UserRow)
    (hkey : ∀ row, (change row).userIdHash = row.userIdHash) : Server Bool := do
  let idHash ← outside (sha256 w userId)
  if ¬ (← outside (sqlite w)) then return false
  stepUpdateUser w (bindText idHash) change hkey

def UserRow.approve (row : UserRow) : UserRow := { row with isApproved := 1 }

def UserRow.evict (row : UserRow) : UserRow := { row with isActive := 0 }

def UserRow.updateProfile (usernameEnc : SqlText) (passwordHash : Option SqlText)
    (row : UserRow) : UserRow :=
  { row with usernameEnc := usernameEnc, passwordHash := passwordHash.getD row.passwordHash }

/-! No update writes the key of a row. -/

@[simp] theorem UserRow.userIdHash_approve (row : UserRow) :
    row.approve.userIdHash = row.userIdHash := rfl

@[simp] theorem UserRow.userIdHash_evict (row : UserRow) :
    row.evict.userIdHash = row.userIdHash := rfl

@[simp] theorem UserRow.userIdHash_updateProfile (usernameEnc : SqlText)
    (passwordHash : Option SqlText) (row : UserRow) :
    (row.updateProfile usernameEnc passwordHash).userIdHash = row.userIdHash := rfl

def approveUser (userId : Bytes) : Server Bool :=
  setFlag w userId UserRow.approve UserRow.userIdHash_approve

def evictUser (userId : Bytes) : Server Bool :=
  setFlag w userId UserRow.evict UserRow.userIdHash_evict

/-- The password column is part of the statement when the new password is not empty. -/
def updateUserProfile (userId newUsername newPassword : Bytes) : Server Bool := do
  let idHash ← outside (sha256 w userId)
  if ¬ (← outside (sqlite w)) then return false
  let encUsername ← outside (encryptAES256GCM w newUsername (← get).key)
  if newPassword ≠ [] then
    let pwHash ← outside (hashPasswordPBKDF2 w newPassword userId)
    stepUpdateUser w (bindText idHash)
      (UserRow.updateProfile (bindText encUsername) (some (bindText pwHash)))
      (UserRow.userIdHash_updateProfile _ _)
  else
    stepUpdateUser w (bindText idHash)
      (UserRow.updateProfile (bindText encUsername) none) (UserRow.userIdHash_updateProfile _ _)

/-- The record of a row whose two encrypted columns have been opened. -/
def UserRow.record (row : UserRow) (userId username : Bytes) : UserRecord where
  userId := userId
  username := username
  passwordHash := row.passwordHash.val
  role := row.role.val
  isApproved := row.isApproved
  isActive := row.isActive

def getUser (userId : Bytes) (outUser : UserRecord) : Server (Bool × UserRecord) := do
  let idHash ← outside (sha256 w userId)
  if ¬ (← outside (sqlite w)) then return (false, outUser)
  if ¬ (← outside (sqlite w)) then return (false, outUser)
  match (← get).users.find (bindText idHash) with
  | none => return (false, outUser)
  | some row =>
    match ← outside (attempt (decryptAES256GCM w row.userIdEnc.val (← get).key)) with
    | none => return (false, outUser)
    | some userId =>
      match ← outside (attempt (decryptAES256GCM w row.usernameEnc.val (← get).key)) with
      | none => return (false, { outUser with userId := userId })
      | some username => return (true, row.record userId username)

/-- The loop of `getAllUsers`: a step that fails ends it, a row that cannot be
decrypted is left out. -/
def collectUsers (key : Bytes) : List UserRow → Outside (List UserRecord)
  | [] => do
    let _ ← sqlite w
    return []
  | row :: rows => do
    if ¬ (← sqlite w) then return []
    match ← attempt (decryptAES256GCM w row.userIdEnc.val key) with
    | none => collectUsers key rows
    | some userId =>
      match ← attempt (decryptAES256GCM w row.usernameEnc.val key) with
      | none => collectUsers key rows
      | some username =>
        let users ← collectUsers key rows
        return row.record userId username :: users

def getAllUsers : Server (List UserRecord) := do
  if ¬ (← outside (sqlite w)) then return []
  let s ← get
  outside (collectUsers w s.key s.users.rows)

def saveRtspConfig (name url : Bytes) : Server Bool := do
  if ¬ (← outside (sqlite w)) then return false
  let encName ← outside (encryptAES256GCM w name (← get).key)
  let encUrl ← outside (encryptAES256GCM w url (← get).key)
  if ¬ (← outside (sqlite w)) then return false
  modify fun s => { s with rtspConfig := s.rtspConfig.insert (bindText encName) (bindText encUrl) }
  return true

/-- The name is assigned before the url is decrypted. -/
def getLatestRtspConfig (outRtsp : RtspRecord) : Server (Bool × RtspRecord) := do
  if ¬ (← outside (sqlite w)) then return (false, outRtsp)
  if ¬ (← outside (sqlite w)) then return (false, outRtsp)
  match (← get).rtspConfig.latest with
  | none => return (false, outRtsp)
  | some row =>
    match ← outside (attempt (decryptAES256GCM w row.nameEnc.val (← get).key)) with
    | none => return (false, { outRtsp with id := row.id })
    | some name =>
      match ← outside (attempt (decryptAES256GCM w row.urlEnc.val (← get).key)) with
      | none => return (false, { outRtsp with id := row.id, name := name })
      | some url => return (true, ⟨row.id, name, url⟩)

def clearRtspConfigs : Server Bool := do
  match ← attempt (executeQuery w (str "DELETE FROM rtsp_config;")
      fun s => { s with rtspConfig := s.rtspConfig.clear }) with
  | some _ => return true
  | none => return false

end CCTVWebServer
