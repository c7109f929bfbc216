import Mathlib.Logic.Equiv.Basic
import CCTVWebServer.Specification.Runs

/-!
# A world to run the server in

The libraries enter the model as functions with documented laws. Here is one set
of functions that obeys these laws: they give the real answers on the inputs that
the runs below need, as recorded from OpenSSL, and are completed to total
functions. The JSON parser reads flat objects of strings without escapes, and
reports anything else as an invalid literal at its first byte.
-/

namespace CCTVWebServer.Reference

open Foundation

/-! ## JSON -/

/-- The characters up to the closing quote. -/
def takeString : Bytes → Option (Bytes × Bytes)
  | [] => none
  | b :: rest =>
    if b = 0x22 then some ([], rest)
    else if b < 0x20 ∨ b = 0x5C then none
    else (takeString rest).map fun (text, rest) => (b :: text, rest)

/-- `"name":"text"`, and more of them after a comma. -/
def takeFields : Nat → Bytes → Option (List (Bytes × Json))
  | 0, _ => none
  | fuel + 1, body =>
    match (str "\"").isPrefixOf? body >>= takeString with
    | none => none
    | some (name, rest) =>
      match (str ":\"").isPrefixOf? rest >>= takeString with
      | none => none
      | some (text, rest) =>
        if rest = str "\x7d" then some [(name, .string text)]
        else match (str ",").isPrefixOf? rest with
          | none => none
          | some rest => (takeFields fuel rest).map ((name, .string text) :: ·)

/-- The text in front of the bytes a parse error quotes. -/
@[irreducible] def parseErrorLead : Bytes :=
  str "[json.exception.parse_error.101] parse error at line 1, column 1: "
    ++ str "syntax error while parsing value - invalid literal; last read: '"

/-- The text of the parse error about an empty body. -/
@[irreducible] def emptyBodyError : Bytes :=
  str "[json.exception.parse_error.101] parse error at line 1, column 1: "
    ++ str "attempting to parse an empty input; check that your input string or stream "
    ++ str "contains the expected JSON"

def parse (body : Bytes) : Except ParseError Json :=
  match body with
  | [] => .error ⟨emptyBodyError, [], []⟩
  | b :: _ =>
    match (str "\x7b").isPrefixOf? body >>= takeFields body.length with
    | some fields =>
      if Utf8.valid body then .ok (.object fields) else .error ⟨parseErrorLead, [b], str "'"⟩
    | none => .error ⟨parseErrorLead, [b], str "'"⟩

def typeName : Json → Bytes
  | .null => str "null"
  | .boolean _ => str "boolean"
  | .number _ => str "number"
  | .string _ => str "string"
  | .array _ => str "array"
  | .object _ => str "object"

def value (json : Json) (key fallback : Bytes) : Except Bytes Bytes :=
  match json with
  | .object fields =>
    match fields.lookup key with
    | none => .ok fallback
    | some (.string text) => .ok text
    | some other => .error
        (str "[json.exception.type_error.302] type must be string, but is " ++ typeName other)
  | other => .error
      (str "[json.exception.type_error.306] cannot use value() with " ++ typeName other)

/-- A character of a string, escaped where JSON demands it. -/
def escape (b : UInt8) : Bytes :=
  if b = 0x22 then str "\\\""
  else if b = 0x5C then str "\\\\"
  else if b < 0x20 then str "\\u00" ++ toHex [b]
  else [b]

def quote (text : Bytes) : Bytes := str "\"" ++ text.flatMap escape ++ str "\""

mutual

/-- The library keeps the members of an object in the order of their names. -/
def render : Json → Bytes
  | .null => str "null"
  | .boolean b => if b then str "true" else str "false"
  | .number text => text
  | .string text => quote text
  | .array items => str "[" ++ List.intercalate (str ",") (renderItems items) ++ str "]"
  | .object fields =>
    let sorted := (renderFields fields).insertionSort fun f g => f.1 ≤ g.1
    str "\x7b" ++ List.intercalate (str ",") (sorted.map (·.2)) ++ str "\x7d"

def renderItems : List Json → List Bytes
  | [] => []
  | item :: items => render item :: renderItems items

/-- The members of an object, each under its name. -/
def renderFields : List (Bytes × Json) → List (Bytes × Bytes)
  | [] => []
  | (name, value) :: fields =>
    (name, quote name ++ str ":" ++ render value) :: renderFields fields

end

def dump (json : Json) : Except Bytes Bytes :=
  if json.wellEncoded then .ok (render json)
  else .error (str "[json.exception.type_error.316] invalid UTF-8 byte")

def json : Nlohmann := ⟨parse, value, dump⟩

theorem ascii_typeName (j : Json) : Utf8.Ascii (typeName j) := by
  cases j
  all_goals
    simp only [typeName]
    decide

theorem parse_quotes {body : Bytes} {err : ParseError} (h : parse body = .error err) :
    Utf8.Ascii err.lead ∧ err.lastRead <:+: body ∧ Utf8.Ascii err.trail := by
  have hlead : Utf8.Ascii parseErrorLead := by decide +kernel
  have htrail : Utf8.Ascii (str "'") := by decide
  cases body with
  | nil =>
    rw [← Except.error.inj h]
    exact ⟨by decide +kernel, List.infix_rfl, by decide⟩
  | cons b rest =>
    have hquote : [b] <:+: b :: rest := (List.prefix_append [b] rest).isInfix
    unfold parse at h
    dsimp only at h
    split at h
    · split_ifs at h
      rw [← Except.error.inj h]
      exact ⟨hlead, hquote, htrail⟩
    · rw [← Except.error.inj h]
      exact ⟨hlead, hquote, htrail⟩

theorem json_documented : json.Documented where
  parse_quotes body err h := parse_quotes h
  value_absent fields key fallback h := by simp [json, value, h]
  value_string fields key fallback text h := by simp [json, value, h]
  value_type fields key fallback v h hv := by
    have hlead : Utf8.Ascii
        (str "[json.exception.type_error.302] type must be string, but is ") := by decide
    refine ⟨_, ?_, hlead.append (ascii_typeName v)⟩
    simp only [json, value, h]
  value_object j key fallback hj := by
    have hlead : Utf8.Ascii (str "[json.exception.type_error.306] cannot use value() with ") := by
      decide
    refine ⟨_, ?_, hlead.append (ascii_typeName j)⟩
    cases j with
    | object fields => exact absurd rfl (hj fields)
    | _ => rfl
  dump_ok j hj := ⟨_, if_pos hj⟩
  dump_raises j hj := ⟨_, if_neg hj, by decide⟩

theorem flatMap_escape {text : Bytes} (h : Plain text) : text.flatMap escape = text := by
  induction text with
  | nil => rfl
  | cons b text ih =>
    obtain ⟨hcontrol, -, hquote, hbackslash⟩ := h b (by simp)
    have hplain : ¬ b < 0x20 := UInt8.not_lt.mpr hcontrol
    have hescape : escape b = [b] := by simp [escape, hquote, hbackslash, hplain]
    rw [List.flatMap_cons, hescape, ih fun c hc => h c (List.mem_cons_of_mem b hc)]
    rfl

theorem json_dumpsPlain : json.DumpsPlain := by
  intro name text hname htext
  have hvalid {bytes : Bytes} (h : Plain bytes) : Utf8.valid bytes :=
    Utf8.valid_of_ascii fun b hb => UInt8.lt_trans (h b hb).2.1 (by decide)
  have hwell : (Json.object [(name, .string text)]).wellEncoded := by
    simp [Json.wellEncoded, Json.fieldsWellEncoded, hvalid hname, hvalid htext]
  have hopening : str "\x7b\"" = str "\x7b" ++ str "\"" := by decide
  have hcolon : str "\":\"" = str "\"" ++ (str ":" ++ str "\"") := by decide
  have hclosing : str "\"\x7d" = str "\"" ++ str "\x7d" := by decide
  simp only [json, dump, if_pos hwell, render, renderFields, quote, flatMap_escape hname,
    flatMap_escape htext, hopening, hcolon, hclosing]
  simp [List.intercalate]

/-! ## Cryptography -/

/-- The master secret of the configuration file. -/
def masterSecret : Bytes := str "VE_SUPER_SECURE_SECRET_KEY_FOR_DATA_ENCRYPTION_2026"

def dbPath : Bytes := str "vms_server.db"

def recorded (hex : String) : Bytes := fromHex (str hex)

/-- The key of the database. -/
def key : Bytes := recorded "5976c4fe76cb482a4157cafc0aacc8a7e651bef9c872eb8e7f3015fd699bfa09"

/-- The master secret of somebody else, and its key. -/
def otherSecret : Bytes := str "ANOTHER_SECRET"

def otherKey : Bytes := recorded "26704757ac707d9534031c4b54990d15caf77eefb8aba3f70d2d3565617d7369"

/-- SHA-256 digests of the master secrets and of two user ids. -/
def digests : List (Bytes × Bytes) := [
  (masterSecret, key),
  (otherSecret, otherKey),
  (str "own", recorded "5b3975651c3cab92d044c096dc30a1c2d9525497457472de48c51ecb363d1f4a"),
  (str "admin", recorded "8c6976e5b5410415bde908bd4dee15dfb167a9c873fc4bb8a81f6f2ab448a918"),
  (str "bob", recorded "81b637d8fcd2c6da6359e6963113a1170de795e4b725b84d1e0b4cfd9ec58ce9")]

/-- The recorded digests, completed to a permutation: other texts are left as they are. -/
def digestPerm : Equiv.Perm Bytes :=
  digests.foldr (fun d perm => perm.trans (Equiv.swap d.1 d.2)) (Equiv.refl Bytes)

/-- PBKDF2 of some passwords, each with the salt in front of it. -/
def derivations : List ((Bytes × Bytes) × Bytes) := [
  ((str "admin", str "admin"),
    recorded "f4aec2c20dd0c3ff0547f4bd56facd76097cce7c613da80c67842b6a357fdc04"),
  ((str "bob", str "pw"),
    recorded "0b5fb9b9bac46f90d6951217a1ae6a6526044cbaf6437f8e828c6f8eb2734fa8"),
  ((str "bob", str "other"),
    recorded "47f117a28909275ba9a1a34b3c33a451779cad149fcc894a6698af61bb7848ee"),
  ((str "bob", str "bob"),
    recorded "aebe037358ad21a8bd2e562f1251ee9ac1576874cc74a0954d12673c0d7fdef6")]

def pbkdf2 (password salt : Bytes) : Bytes :=
  (derivations.lookup (salt, password)).getD (password ++ salt)

/-- A recorded call of AES-256-GCM. Every IV repeats one byte. -/
structure Sealing where
  key : Bytes
  iv : UInt8
  plaintext : Bytes
  keyStream : Bytes
  tag : Bytes

def sealings : List Sealing := [
  ⟨key, 8, str "bob", recorded "8a03412d5a6f43d5bd8049887e5fac5d",
    recorded "78075e07e1822fcff9351f05ef8c2e66"⟩,
  ⟨key, 11, str "admin", recorded "51c07ab73c60e60b135a200d99bf3e10",
    recorded "709886363d2e0eaa2460dd94a4ce4d52"⟩,
  ⟨key, 12, str "admin", recorded "3c32e033fc0ae3b9ef9a58528e768659",
    recorded "60750caa5d57f52cd4033aec20388a2f"⟩,
  ⟨key, 16, str "Bob", recorded "751de9f2475708c5766ab90ec755f96f",
    recorded "aea52328457c51fc7ab8c8336d78ad40"⟩,
  ⟨key, 19, str "Administrator", recorded "9bc2470a945ec6289750b1794f3894a6",
    recorded "d8656b924f1588420d5d68d5e9c03953"⟩,
  ⟨key, 20, str "Administrator", recorded "f5040db8355d1492f0ebdee30c37f389",
    recorded "641c9e61cc8a09f2b381528539b9d667"⟩,
  ⟨key, 27, str "bob", recorded "6326c9fc33d8fc1973d510c53943cfa4",
    recorded "f44b22066f0a917f3f980341b0285460"⟩,
  ⟨key, 33, str "bob", recorded "8e1782ebcdf259987006f11f83c5999c",
    recorded "acbfad7a24328f4ad23b67a19352255e"⟩,
  ⟨key, 35, str "Bob", recorded "a1babe60a1eefd73ed2514a76338dd17",
    recorded "4b1635492ea70d96fff72af37d81d8e9"⟩,
  ⟨key, 41, str "Bob", recorded "7e02fd3c0bb4bf9584ebb837fbf9f252",
    recorded "66407bd6733981f8ccb1ca96eef54375"⟩,
  ⟨key, 65, str "yard", recorded "34d32585ff1171def18b33104e9727de",
    recorded "1318bc43c96baf784b049f5c06c797bd"⟩,
  ⟨key, 73, str "rtsp://yard", recorded "ba69a631b6739044a6ef4a48c760e6a9",
    recorded "02aeb9ad72df97d972d3b1d7c1b69292"⟩,
  ⟨key, 100, str "gate", recorded "56408fa02099cec8e2062fb09f12f86c",
    recorded "d0251b9812696ce525ebc7ed4e75b319"⟩,
  ⟨key, 108, str "rtsp://gate", recorded "11a3f148cbf0b7fade6c974fb0675bf7",
    recorded "c0f69ea1315459f82fdce789c02dc9e4"⟩,
  ⟨otherKey, 27, str "admin", recorded "c8594b6dc37f718e293e06d30d5d5108",
    recorded "fc2ccdf50414323e5e19c7d6c6e7ca01"⟩,
  ⟨otherKey, 35, str "Administrator", recorded "568a6fe1ddb06913e1011f30e4eff1e7",
    recorded "1157f46bfebb099779e64042ee5badc6"⟩,
  ⟨otherKey, 49, str "bob", recorded "ae17ed5b56c8227ff5524d4b6861efc2",
    recorded "51b5629f238a654abfd6c25d4fc397c6"⟩,
  ⟨otherKey, 57, str "Bob", recorded "5d004c6e1903c790bf9523ffb2a1d3ef",
    recorded "3de2a8c8699a3d7fb2e311b4eee2e136"⟩]

def sealing (key iv : Bytes) : Option Sealing :=
  sealings.find? fun r => iv = List.replicate 12 r.iv ∧ key = r.key

/-- The key stream of an IV, empty when there is no record of it. -/
def keyStream (key iv : Bytes) : Bytes := ((sealing key iv).map (·.keyStream)).getD []

/-- The tag of a plaintext, zero when there is no record of it. -/
def tag (key iv plaintext : Bytes) : Bytes :=
  match sealing key iv with
  | some r => if r.plaintext = plaintext then r.tag else List.replicate 16 0
  | none => List.replicate 16 0

/-- The text masked by a key stream, as far as that goes. -/
def mask : Bytes → Bytes → Bytes
  | k :: stream, b :: text => (b ^^^ k) :: mask stream text
  | _, text => text

def gcmSeal (key iv plaintext : Bytes) : Bytes × Bytes :=
  (tag key iv plaintext, mask (keyStream key iv) plaintext)

def gcmOpen (key iv authTag ciphertext : Bytes) : Option Bytes :=
  let plaintext := mask (keyStream key iv) ciphertext
  if authTag = tag key iv plaintext then some plaintext else none

theorem mask_mask (stream text : Bytes) : mask stream (mask stream text) = text := by
  induction stream generalizing text with
  | nil => cases text <;> rfl
  | cons k stream ih =>
    cases text with
    | nil => rfl
    | cons b text => simp only [mask, ih, UInt8.xor_assoc, UInt8.xor_self, UInt8.xor_zero]

theorem length_mask (stream text : Bytes) : (mask stream text).length = text.length := by
  induction stream generalizing text with
  | nil => cases text <;> rfl
  | cons k stream ih =>
    cases text with
    | nil => rfl
    | cons b text => simp only [mask, List.length_cons, ih]

theorem length_recorded_tag : ∀ r ∈ sealings, r.tag.length = 16 := by decide +kernel

theorem length_tag (key iv plaintext : Bytes) : (tag key iv plaintext).length = 16 := by
  unfold tag
  cases h : sealing key iv with
  | none => rfl
  | some r =>
    dsimp only
    split_ifs
    · exact length_recorded_tag r (List.mem_of_find?_eq_some h)
    · rfl

/-! ## The world -/

/-- No call fails, and a random source yields the number of the call. -/
def world : World where
  json := json
  readFile _ := none
  sha256Digest := digestPerm
  pbkdf2 := pbkdf2
  gcmSeal := gcmSeal
  gcmOpen := gcmOpen
  opensslOk _ := true
  sqliteOk _ := true
  draw n _ := UInt8.ofNat n
  sqliteMessage _ := []

theorem sha256_injective : Function.Injective world.sha256Digest := digestPerm.injective

theorem gcm_documented : world.GcmDocumented where
  tag_length := length_tag
  open_seal key iv plaintext := by
    simp [world, gcmSeal, gcmOpen, mask_mask]

theorem sqlite_ok : ¬ SqliteFails world := by rintro ⟨n, h⟩; cases h

theorem openssl_ok : ¬ OpensslFails world := by rintro ⟨n, h⟩; cases h

/-! ## Requests -/

/-- The text of an object of strings, as a client writes it. -/
def body (fields : List (String × String)) : Bytes :=
  let members := fields.map fun f => quote (str f.1) ++ str ":" ++ quote (str f.2)
  str "\x7b" ++ List.intercalate (str ",") members ++ str "\x7d"

def get (url : String) (cookies : Bytes) : HttpRequestEvent := ⟨1, str "GET", str url, [], cookies⟩

def post (url : String) (body cookies : Bytes) : HttpRequestEvent :=
  ⟨1, str "POST", str url, body, cookies⟩

/-- The first login of the bootstrapped account. -/
def loginAdmin : HttpRequestEvent :=
  post "/api/login" (body [("id", "admin"), ("password", "admin")]) []

/-- The cookie of a session whose token repeats one digit. -/
def cookie (digit : UInt8) : Bytes := str "SessionID=" ++ List.replicate 32 digit

def registerBob : HttpRequestEvent :=
  post "/api/register" (body [("id", "bob"), ("username", "Bob"), ("password", "pw")]) []

def loginBob : HttpRequestEvent := post "/api/login" (body [("id", "bob"), ("password", "pw")]) []

/-- The admin saves a camera under the session `d..d`. -/
def saveCamera (name url : String) : HttpRequestEvent :=
  post "/api/rtsp" (body [("name", name), ("url", url)]) (cookie 0x64)

/-- The state after `init` on a new database. -/
def start : State :=
  finalState (init world (fun _ => DatabaseFile.new) dbPath masterSecret) (State.started 0)

/-- The state after a request, and the exchange. -/
def serve (s : State) (e : HttpRequestEvent) : State :=
  finalState (dispatch world record .controller e) s

def exchange (s : State) (e : HttpRequestEvent) : Exchange :=
  ⟨e, responses world .controller s e⟩

theorem served (s : State) (e : HttpRequestEvent) : Served world s (exchange s e) (serve s e) :=
  served_dispatch json_documented .controller e s

theorem start_fresh : Fresh world dbPath masterSecret start := ⟨0, rfl⟩

/-- The admin has logged in, and holds the session `d..d`. -/
def loggedIn : State := serve start loginAdmin

theorem start_reachable : Reachable world dbPath masterSecret start :=
  ⟨start, [], start_fresh, .refl⟩

/-! ## A run -/

/-- Bob has registered. -/
def registered : State := serve start registerBob

/-- The admin has logged in after that, and holds the session `4..4`. -/
def administered : State := serve registered loginAdmin

/-- A request of the admin that names bob. -/
def postAsAdmin (url : String) : HttpRequestEvent := post url (body [("id", "bob")]) (cookie 0x34)

/-- Bob has been evicted. -/
def evicted : State := serve administered (postAsAdmin "/api/users/evict")

/-- Bob has been approved, and has logged in under the session `a..a`. -/
def approved : State := serve administered (postAsAdmin "/api/users/approve")

def watching : State := serve approved loginBob

theorem evicted_reachable : Reachable world dbPath masterSecret evicted :=
  ⟨start, _, start_fresh, .step (.step (.step .refl (.request (served _ _)))
    (.request (served _ _))) (.request (served _ _))⟩

theorem evicted_bob :
    ∃ row, evicted.users.find (world.userKey (str "bob")) = some row ∧ row.isActive = 0 := by
  have hflag : (evicted.users.find (world.userKey (str "bob"))).map (·.isActive) = some 0 := by
    decide +kernel
  exact Option.map_eq_some_iff.mp hflag

/-! ## A call that fails -/

/-- The same libraries, but the `n`-th call fails if it goes to SQLite. -/
def failing (n : Nat) : World := { world with sqliteOk := fun k => k ≠ n }

theorem failing_gcm_documented (n : Nat) : (failing n).GcmDocumented :=
  ⟨gcm_documented.tag_length, gcm_documented.open_seal⟩

/-- The state after some requests to a new server, newest first. -/
def after (w : World) : List HttpRequestEvent → State
  | [] => finalState (init w (fun _ => DatabaseFile.new) dbPath masterSecret) (State.started 0)
  | e :: requests => finalState (dispatch w record .controller e) (after w requests)

theorem after_reachable {w : World} (hjson : w.json.Documented)
    (hfresh : Fresh w dbPath masterSecret (after w [])) (requests : List HttpRequestEvent) :
    Reachable w dbPath masterSecret (after w requests) := by
  suffices hrun : ∃ h, Trace (Transition w dbPath masterSecret) (after w []) h (after w requests) by
    obtain ⟨h, hrun⟩ := hrun
    exact ⟨_, h, hfresh, hrun⟩
  induction requests with
  | nil => exact ⟨[], .refl⟩
  | cons e requests ih =>
    obtain ⟨h, hrun⟩ := ih
    exact ⟨_, hrun.step (.request (served_dispatch hjson .controller e _))⟩

end CCTVWebServer.Reference
