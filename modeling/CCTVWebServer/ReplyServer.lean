import CCTVWebServer.Database

/-!
# ReplyServer

`ReplyServer::dispatch` and the helpers around it. Every exit of the source
publishes one response event and returns; here an endpoint returns its event, and
`dispatch` publishes it at the place where the source does, inside the `try` for
the endpoints and outside of it for the static files and the fallback. What
publishing does is a parameter: `record` hands the event to the subscribers at
once, and the event bus of `EventBus.lean` takes its lock first.
-/

namespace CCTVWebServer

open Foundation

variable (w : World)

/-! ## Sessions -/

/-- 32 hexadecimal digits. -/
def generateSessionToken : Outside Bytes := do
  let n ← nextCall
  return (List.range 32).map fun i => hexDigit ((w.draw n i).toNat % 16)

def getSessionToken (cookieHeader : Bytes) : Bytes :=
  match find (str "SessionID=") cookieHeader with
  | none => []
  | some pos =>
    let pos := pos + 10
    match findFrom (str ";") cookieHeader pos with
    | none => cookieHeader.drop pos
    | some endPos => (cookieHeader.drop pos).take (endPos - pos)

/-- The user a cookie is a session of, and the empty id when there is none. -/
def getUserIdFromSession (sessions : Sessions) (cookieHeader : Bytes) : Bytes :=
  let token := getSessionToken cookieHeader
  if token = [] then [] else (sessions.lookup token).getD []

/-! ## Responses -/

/-- The content of a file below the web root, empty when it cannot be opened. -/
def readStaticFile (relPath : Bytes) : Bytes :=
  let fullPath :=
    if relPath = str "/" ∨ relPath = [] then str "src/www/index.html" else str "src/www" ++ relPath
  (w.readFile fullPath).getD []

def makeHttpResponse (statusCode : Int) (statusText : String) (contentType body : Bytes)
    (extraHeaders : Bytes := []) : Bytes :=
  str "HTTP/1.1 " ++ decimal statusCode ++ str " " ++ str statusText ++ str "\r\n"
    ++ str "Content-Type: " ++ contentType ++ str "\r\n"
    ++ str "Content-Length: " ++ decimal body.length ++ str "\r\n"
    ++ str "Connection: close\r\n"
    ++ extraHeaders
    ++ str "\r\n"
    ++ body

/-- `nlohmann::json::parse` of a request body. -/
def parseBody (body : Bytes) : Server Json :=
  match w.json.parse body with
  | .ok json => return json
  | .error err => throw (.exception err.what)

/-- `json.value(key, "")`. -/
def value (json : Json) (key : String) : Server Bytes :=
  match w.json.value json (str key) [] with
  | .ok text => return text
  | .error what => throw (.exception what)

def dump (json : Json) : Server Bytes :=
  match w.json.dump json with
  | .ok text => return text
  | .error what => throw (.exception what)

def errorJson (text : Bytes) : Json := .object [(str "error", .string text)]

def messageJson (text : String) : Json := .object [(str "message", .string (str text))]

/-- The response event of an endpoint: a JSON body in a full HTTP response. -/
def reply (e : HttpRequestEvent) (statusCode : Int) (statusText : String) (json : Json)
    (extraHeaders : Bytes := []) : Server HttpResponseEvent := do
  let body ← dump w json
  return ⟨e.connId, statusCode,
    makeHttpResponse statusCode statusText (str "application/json") body extraHeaders⟩

/-- The static files, when the file named by the url has content. -/
def staticReply (e : HttpRequestEvent) : Option HttpResponseEvent :=
  if e.url = str "/" ∨ e.url = str "/index.html" ∨ e.url = str "/style.css" ∨
      e.url = str "/app.js" then
    let content := readStaticFile w e.url
    if content ≠ [] then
      let mime :=
        if (find (str ".css") e.url).isSome then str "text/css"
        else if (find (str ".js") e.url).isSome then str "application/javascript"
        else str "text/html"
      some ⟨e.connId, 200, makeHttpResponse 200 "OK" mime content⟩
    else none
  else none

/-! ## Public endpoints -/

def register (e : HttpRequestEvent) : Server HttpResponseEvent := do
  let json ← parseBody w e.body
  let id ← value w json "id"
  let username ← value w json "username"
  let password ← value w json "password"
  if id = [] ∨ username = [] ∨ password = [] then
    reply w e 400 "Bad Request" (errorJson (str "Missing required fields"))
  else if ← registerUser w id username password then
    reply w e 200 "OK" (messageJson "Registration pending approval!")
  else
    reply w e 400 "Bad Request"
      (errorJson (str "Registration failed. ID is already taken or banned."))

/-- The header that hands a session to the browser. -/
def sessionHeader (token : Bytes) : Bytes :=
  str "Set-Cookie: SessionID=" ++ token ++ str "; Path=/; HttpOnly\r\n"

def login (e : HttpRequestEvent) : Server HttpResponseEvent := do
  let json ← parseBody w e.body
  let id ← value w json "id"
  let password ← value w json "password"
  let (found, user) ← getUser w id UserRecord.declared
  if found = false ∨ user.isActive = 0 then
    reply w e 401 "Unauthorized" (errorJson (str "Invalid ID or password"))
  else if user.isApproved = 0 then
    reply w e 401 "Unauthorized" (errorJson (str "Account pending administrator approval"))
  else
    let calculatedHash ← outside (hashPasswordPBKDF2 w password id)
    if calculatedHash ≠ user.passwordHash then
      reply w e 401 "Unauthorized" (errorJson (str "Invalid ID or password"))
    else
      let token ← outside (generateSessionToken w)
      modify fun s => { s with activeSessions := s.activeSessions.insert token id }
      reply w e 200 "OK" (messageJson "Success") (sessionHeader token)

/-! ## Endpoints of a logged-in user -/

def logout (e : HttpRequestEvent) : Server HttpResponseEvent := do
  let token := getSessionToken e.cookies
  if token ≠ [] then
    modify fun s => { s with activeSessions := s.activeSessions.erase token }
  reply w e 200 "OK" (messageJson "Success")
    (str "Set-Cookie: SessionID=; Path=/; Expires=Thu, 01 Jan 1970 00:00:00 GMT\r\n")

def me (e : HttpRequestEvent) (callerUser : UserRecord) : Server HttpResponseEvent :=
  reply w e 200 "OK" (.object [
    (str "user_id", .string callerUser.userId),
    (str "username", .string callerUser.username),
    (str "role", .string callerUser.role)])

def updateProfile (e : HttpRequestEvent) (callerId : Bytes) : Server HttpResponseEvent := do
  let json ← parseBody w e.body
  let username ← value w json "username"
  let password ← value w json "password"
  if username = [] then
    reply w e 400 "Bad Request" (errorJson (str "Username cannot be empty"))
  else if ← updateUserProfile w callerId username password then
    reply w e 200 "OK" (messageJson "Success")
  else
    reply w e 500 "Internal Error" (errorJson (str "Update failed"))

/-! ## Endpoints of the admin -/

def UserRecord.toJson (user : UserRecord) : Json := .object [
  (str "user_id", .string user.userId),
  (str "username", .string user.username),
  (str "role", .string user.role),
  (str "is_approved", .number (decimal user.isApproved)),
  (str "is_active", .number (decimal user.isActive))]

def listUsers (e : HttpRequestEvent) : Server HttpResponseEvent := do
  let users ← getAllUsers w
  reply w e 200 "OK" (.array (users.map UserRecord.toJson))

def approve (e : HttpRequestEvent) : Server HttpResponseEvent := do
  let json ← parseBody w e.body
  let targetId ← value w json "id"
  if ← approveUser w targetId then
    reply w e 200 "OK" (messageJson "Success")
  else
    reply w e 500 "Internal Error" (errorJson (str "Approval failed"))

/-- The loop over the session map that drops the sessions of an evicted user. -/
def purgeSessions (targetId : Bytes) (sessions : Sessions) : Sessions :=
  eraseLoop (fun userId => userId = targetId) sessions.entries sessions

def evict (e : HttpRequestEvent) : Server HttpResponseEvent := do
  let json ← parseBody w e.body
  let targetId ← value w json "id"
  if targetId = str "admin" then
    reply w e 400 "Bad Request" (errorJson (str "Cannot ban the root admin"))
  else if ← evictUser w targetId then
    modify fun s => { s with activeSessions := purgeSessions targetId s.activeSessions }
    reply w e 200 "OK" (messageJson "Success")
  else
    reply w e 500 "Internal Error" (errorJson (str "Eviction failed"))

def getRtsp (e : HttpRequestEvent) : Server HttpResponseEvent := do
  let (found, config) ← getLatestRtspConfig w ⟨0, [], []⟩
  reply w e 200 "OK" (.array (if found then
    [.object [(str "name", .string config.name), (str "url", .string config.url)]] else []))

/-- `StreamRelayer::start` and `stop`, as one caller at a time sees them. -/
def StreamRelayer.start (rtspUrl : Bytes) (_ : StreamRelayer) : StreamRelayer := ⟨true, rtspUrl⟩

def StreamRelayer.stop (relayer : StreamRelayer) : StreamRelayer :=
  { relayer with running := false }

def saveRtsp (e : HttpRequestEvent) : Server HttpResponseEvent := do
  let json ← parseBody w e.body
  let name ← value w json "name"
  let url ← value w json "url"
  if name = [] ∨ url = [] then
    reply w e 400 "Bad Request" (errorJson (str "Missing fields"))
  else
    -- keep only the latest; the result is not looked at
    let _ ← clearRtspConfigs w
    if ← saveRtspConfig w name url then
      modify fun s => { s with relayer := s.relayer.start url }
      reply w e 200 "OK" (messageJson "Stream started successfully")
    else
      reply w e 500 "Internal Error" (errorJson (str "Failed to save config"))

def stopRtsp (e : HttpRequestEvent) : Server HttpResponseEvent := do
  modify fun s => { s with relayer := s.relayer.stop }
  reply w e 200 "OK" (messageJson "Stream stopped successfully")

/-! ## Dispatch -/

/-- The branches behind the admin guard. -/
def adminEndpoints (e : HttpRequestEvent) : Server (Option HttpResponseEvent) :=
  if e.url = str "/api/users" ∧ e.method = str "GET" then some <$> listUsers w e
  else if e.url = str "/api/users/approve" ∧ e.method = str "POST" then some <$> approve w e
  else if e.url = str "/api/users/evict" ∧ e.method = str "POST" then some <$> evict w e
  else if e.url = str "/api/rtsp" ∧ e.method = str "GET" then some <$> getRtsp w e
  else if e.url = str "/api/rtsp" ∧ e.method = str "POST" then some <$> saveRtsp w e
  else if e.url = str "/api/rtsp/stop" ∧ e.method = str "POST" then some <$> stopRtsp w e
  else pure none

/-- The branches behind the session check, down to the admin guard. -/
def userEndpoints (e : HttpRequestEvent) (callerId : Bytes) (callerUser : UserRecord) :
    Server (Option HttpResponseEvent) :=
  if e.url = str "/api/logout" ∧ e.method = str "POST" then some <$> logout w e
  else if e.url = str "/api/user/me" ∧ e.method = str "GET" then some <$> me w e callerUser
  else if e.url = str "/api/user/update" ∧ e.method = str "POST" then
    some <$> updateProfile w e callerId
  else if callerUser.role ≠ str "admin" ∧
      (StartsWith e.url (str "/api/users") ∨ StartsWith e.url (str "/api/rtsp")) then
    some <$> reply w e 403 "Forbidden" (errorJson (str "Forbidden"))
  else adminEndpoints w e

/-- The body of the `try`: the event of the endpoint that answers, if one does. -/
def endpoints (e : HttpRequestEvent) : Server (Option HttpResponseEvent) :=
  if e.url = str "/api/register" ∧ e.method = str "POST" then some <$> register w e
  else if e.url = str "/api/login" ∧ e.method = str "POST" then some <$> login w e
  else do
    let callerId := getUserIdFromSession (← get).activeSessions e.cookies
    if callerId = [] ∧ StartsWith e.url (str "/api/") then
      some <$> reply w e 401 "Unauthorized" (errorJson (str "Unauthorized"))
    else
      let (_, callerUser) ← getUser w callerId UserRecord.declared
      userEndpoints w e callerId callerUser

/-- A handler registered with `AddReplyer`; on an error it throws. -/
abbrev Handler := HttpRequestEvent → Except Bytes HttpResponseEvent

structure ReplyServer where
  handlers : AList fun _ : Bytes => Handler

def ReplyServer.addReplyer (self : ReplyServer) (url : Bytes) (handler : Handler) : ReplyServer :=
  ⟨self.handlers.insert url handler⟩

/-- The reply server as `WebServerController` sets it up. -/
def ReplyServer.controller : ReplyServer :=
  (⟨∅⟩ : ReplyServer).addReplyer (str "/health") fun _ => .ok ⟨0, 200, str "OK"⟩

/-- The `try` block with its `catch`; `false` when no endpoint has answered. -/
def answerEndpoint (publish : HttpResponseEvent → Server Unit) (e : HttpRequestEvent) :
    Server Bool :=
  tryCatch
    (do
      match ← endpoints w e with
      | some response =>
        publish response
        return true
      | none => return false)
    fun fault =>
      match fault with
      | .exception what => do
        let response ← reply w e 500 "Internal Server Error" (errorJson what)
        publish response
        return true
      | .deadlock => throw .deadlock

/-- The table of registered handlers, and 404. -/
def fallback (publish : HttpResponseEvent → Server Unit) (self : ReplyServer)
    (e : HttpRequestEvent) : Server Unit :=
  match self.handlers.lookup e.url with
  | some handler =>
    match handler e with
    | .ok response => publish response
    | .error what => throw (.exception what)
  | none => do
    let response ← reply w e 404 "Not Found" (errorJson (str "Not Found"))
    publish response

def dispatch (publish : HttpResponseEvent → Server Unit) (self : ReplyServer)
    (e : HttpRequestEvent) : Server Unit :=
  match staticReply w e with
  | some response => publish response
  | none => do
    if ← answerEndpoint w publish e then return
    fallback w publish self e

/-- Hand an event to the subscribers. -/
def record (response : HttpResponseEvent) : Server Unit :=
  modify fun s => { s with published := s.published ++ [response] }

end CCTVWebServer
