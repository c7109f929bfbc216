import CCTVWebServer.ReplyServer

/-!
# The portal in the clear

What the server is for, without its database and its cryptography: a list of members
in the order of their registration, the open sessions, the camera that was saved last
and the url on air. A request is answered from these alone. The texts of the answers,
and what the JSON library makes of a body, are those of the server.
-/

namespace CCTVWebServer

open Foundation

/-- An account. -/
structure Member where
  userId : Bytes
  username : Bytes
  /-- What is kept of the password. -/
  passwordHash : Bytes
  admin : Bool
  approved : Bool
  active : Bool
  deriving DecidableEq

structure Portal where
  members : Table Member.userId
  session : Bytes → Option Bytes
  camera : Option (Bytes × Bytes)
  onAir : Option Bytes

/-- The role as it is shown. -/
def Member.role (m : Member) : Bytes := if m.admin then str "admin" else str "user"

/-- A flag as it is shown. -/
def flag (b : Bool) : Int := if b then 1 else 0

/-- The record of a member. -/
def Member.record (m : Member) : UserRecord :=
  ⟨m.userId, m.username, m.passwordHash, m.role, flag m.approved, flag m.active⟩

def Member.approve (m : Member) : Member := { m with approved := true }

def Member.evict (m : Member) : Member := { m with active := false }

/-- A new username, and a new password unless it is empty. -/
def Member.withProfile (w : World) (username password : Bytes) (m : Member) : Member :=
  { m with
    username := username
    passwordHash := if password = [] then m.passwordHash else w.passwordHash password m.userId }

theorem Member.userId_approve (m : Member) : m.approve.userId = m.userId := rfl

theorem Member.userId_evict (m : Member) : m.evict.userId = m.userId := rfl

theorem Member.userId_withProfile (w : World) (username password : Bytes) (m : Member) :
    (m.withProfile w username password).userId = m.userId := rfl

/-- The JSON that shows a camera. -/
def cameraJson (camera : Option (Bytes × Bytes)) : Json :=
  .array (camera.toList.map fun c =>
    .object [(str "name", .string c.1), (str "url", .string c.2)])

namespace Portal

variable (w : World)

/-- The portal of a new server. -/
def opened : Portal where
  members := ⟨[⟨str "admin", str "Administrator", w.passwordHash (str "admin") (str "admin"),
    true, true, true⟩], by simp⟩
  session _ := none
  camera := none
  onAir := none

/-- Sessions and the relay end with the process. -/
def restart (p : Portal) : Portal := { p with session := fun _ => none, onAir := none }

/-- The member a request comes from. -/
def caller (p : Portal) (cookies : Bytes) : Option Member :=
  (p.session (getSessionToken cookies)).bind p.members.find

def update (p : Portal) (userId : Bytes) (f : Member → Member)
    (hf : ∀ m, (f m).userId = m.userId) : Portal :=
  { p with members := p.members.update userId f hf }

/-! ## Answers

The text of an error is what becomes of a request that cannot be read or answered. -/

/-- A response, and the portal after it. -/
abbrev Answer := Except Bytes (HttpResponseEvent × Portal)

def parse (body : Bytes) : Except Bytes Json := (w.json.parse body).mapError ParseError.what

def text (json : Json) (key : String) : Except Bytes Bytes := w.json.value json (str key) []

def answer (p : Portal) (e : HttpRequestEvent) (statusCode : Int) (statusText : String)
    (json : Json) (extraHeaders : Bytes := []) : Answer := do
  let body ← w.json.dump json
  return (⟨e.connId, statusCode,
    makeHttpResponse statusCode statusText (str "application/json") body extraHeaders⟩, p)

def register (p : Portal) (e : HttpRequestEvent) : Answer := do
  let json ← parse w e.body
  let id ← text w json "id"
  let username ← text w json "username"
  let password ← text w json "password"
  if id = [] ∨ username = [] ∨ password = [] then
    p.answer w e 400 "Bad Request" (errorJson (str "Missing required fields"))
  else
    match p.members.insert ⟨id, username, w.passwordHash password id, false, false, true⟩ with
    | some members =>
      answer w { p with members := members } e 200 "OK"
        (messageJson "Registration pending approval!")
    | none =>
      p.answer w e 400 "Bad Request"
        (errorJson (str "Registration failed. ID is already taken or banned."))

/-- The portal is free to name the session as it likes. -/
def login (p : Portal) (token : Bytes) (e : HttpRequestEvent) : Answer := do
  let json ← parse w e.body
  let id ← text w json "id"
  let password ← text w json "password"
  match p.members.find id with
  | none => p.answer w e 401 "Unauthorized" (errorJson (str "Invalid ID or password"))
  | some m =>
    if m.active = false then
      p.answer w e 401 "Unauthorized" (errorJson (str "Invalid ID or password"))
    else if m.approved = false then
      p.answer w e 401 "Unauthorized" (errorJson (str "Account pending administrator approval"))
    else if w.passwordHash password id ≠ m.passwordHash then
      p.answer w e 401 "Unauthorized" (errorJson (str "Invalid ID or password"))
    else
      answer w { p with session := Function.update p.session token (some id) } e 200 "OK"
        (messageJson "Success") (sessionHeader token)

def logout (p : Portal) (e : HttpRequestEvent) : Answer :=
  answer w { p with session := Function.update p.session (getSessionToken e.cookies) none } e 200
    "OK" (messageJson "Success")
    (str "Set-Cookie: SessionID=; Path=/; Expires=Thu, 01 Jan 1970 00:00:00 GMT\r\n")

def me (p : Portal) (m : Member) (e : HttpRequestEvent) : Answer :=
  p.answer w e 200 "OK" (.object [
    (str "user_id", .string m.userId),
    (str "username", .string m.username),
    (str "role", .string m.role)])

def updateProfile (p : Portal) (m : Member) (e : HttpRequestEvent) : Answer := do
  let json ← parse w e.body
  let username ← text w json "username"
  let password ← text w json "password"
  if username = [] then
    p.answer w e 400 "Bad Request" (errorJson (str "Username cannot be empty"))
  else
    answer w (p.update m.userId (Member.withProfile w username password)
      (Member.userId_withProfile w username password)) e 200 "OK"
      (messageJson "Success")

def listUsers (p : Portal) (e : HttpRequestEvent) : Answer :=
  p.answer w e 200 "OK" (.array (p.members.rows.map fun m => m.record.toJson))

def approve (p : Portal) (e : HttpRequestEvent) : Answer := do
  let json ← parse w e.body
  let targetId ← text w json "id"
  answer w (p.update targetId Member.approve Member.userId_approve) e 200 "OK"
    (messageJson "Success")

def evict (p : Portal) (e : HttpRequestEvent) : Answer := do
  let json ← parse w e.body
  let targetId ← text w json "id"
  if targetId = str "admin" then
    p.answer w e 400 "Bad Request" (errorJson (str "Cannot ban the root admin"))
  else
    answer w { p.update targetId Member.evict Member.userId_evict with
      session := fun token => (p.session token).filter (· ≠ targetId) } e 200 "OK"
      (messageJson "Success")

def getRtsp (p : Portal) (e : HttpRequestEvent) : Answer :=
  p.answer w e 200 "OK" (cameraJson p.camera)

def saveRtsp (p : Portal) (e : HttpRequestEvent) : Answer := do
  let json ← parse w e.body
  let name ← text w json "name"
  let url ← text w json "url"
  if name = [] ∨ url = [] then
    p.answer w e 400 "Bad Request" (errorJson (str "Missing fields"))
  else
    answer w { p with camera := some (name, url), onAir := some url } e 200 "OK"
      (messageJson "Stream started successfully")

def stopRtsp (p : Portal) (e : HttpRequestEvent) : Answer :=
  answer w { p with onAir := none } e 200 "OK" (messageJson "Stream stopped successfully")

/-! ## Requests -/

def adminEndpoints (p : Portal) (e : HttpRequestEvent) : Option Answer :=
  if e.url = str "/api/users" ∧ e.method = str "GET" then some (p.listUsers w e)
  else if e.url = str "/api/users/approve" ∧ e.method = str "POST" then some (p.approve w e)
  else if e.url = str "/api/users/evict" ∧ e.method = str "POST" then some (p.evict w e)
  else if e.url = str "/api/rtsp" ∧ e.method = str "GET" then some (p.getRtsp w e)
  else if e.url = str "/api/rtsp" ∧ e.method = str "POST" then some (p.saveRtsp w e)
  else if e.url = str "/api/rtsp/stop" ∧ e.method = str "POST" then some (p.stopRtsp w e)
  else none

def memberEndpoints (p : Portal) (m : Member) (e : HttpRequestEvent) : Option Answer :=
  if e.url = str "/api/logout" ∧ e.method = str "POST" then some (p.logout w e)
  else if e.url = str "/api/user/me" ∧ e.method = str "GET" then some (p.me w m e)
  else if e.url = str "/api/user/update" ∧ e.method = str "POST" then some (p.updateProfile w m e)
  else if m.admin = false ∧
      (StartsWith e.url (str "/api/users") ∨ StartsWith e.url (str "/api/rtsp")) then
    some (p.answer w e 403 "Forbidden" (errorJson (str "Forbidden")))
  else p.adminEndpoints w e

/-- What the endpoints answer, if one is responsible. -/
def endpoints (p : Portal) (token : Bytes) (e : HttpRequestEvent) : Option Answer :=
  if e.url = str "/api/register" ∧ e.method = str "POST" then some (p.register w e)
  else if e.url = str "/api/login" ∧ e.method = str "POST" then some (p.login w token e)
  else if StartsWith e.url (str "/api/") then
    match p.caller e.cookies with
    | none => some (p.answer w e 401 "Unauthorized" (errorJson (str "Unauthorized")))
    | some m => p.memberEndpoints w m e
  else none

/-- The responses that are published for a request, and the portal after it. A request that
cannot be answered leaves the portal alone. -/
def publish (p : Portal) (e : HttpRequestEvent) : Answer → List HttpResponseEvent × Portal
  | .ok (r, q) => ([r], q)
  | .error what =>
    match p.answer w e 500 "Internal Server Error" (errorJson what) with
    | .ok (r, _) => ([r], p)
    | .error _ => ([], p)

/-- What the code behind the endpoints publishes. -/
def fallback (p : Portal) (self : ReplyServer) (e : HttpRequestEvent) : List HttpResponseEvent :=
  match self.handlers.lookup e.url with
  | some handler =>
    match handler e with
    | .ok r => [r]
    | .error _ => []
  | none =>
    match p.answer w e 404 "Not Found" (errorJson (str "Not Found")) with
    | .ok (r, _) => [r]
    | .error _ => []

def serve (p : Portal) (self : ReplyServer) (token : Bytes) (e : HttpRequestEvent) :
    List HttpResponseEvent × Portal :=
  match staticReply w e with
  | some r => ([r], p)
  | none =>
    match p.endpoints w token e with
    | some a => p.publish w e a
    | none => (p.fallback w self e, p)

end Portal

end CCTVWebServer
