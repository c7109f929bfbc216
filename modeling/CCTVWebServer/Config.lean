import CCTVWebServer.Database

/-!
# Config

The properties of the configuration file, and `ReadJson`, which reads them and opens the
database with two of them. One handler stands behind the whole function: whatever raises,
the properties are set to the defaults and the database is opened with these.
-/

namespace CCTVWebServer

open Foundation

def defaultDbPath : Bytes := str "vms_server.db"

def defaultMasterSecret : Bytes := str "VE_SUPER_SECURE_SECRET_KEY_FOR_DATA_ENCRYPTION_2026"

/-! ## Properties -/

structure Config where
  properties : AList fun _ : Bytes => Bytes

namespace Config

/-- Before anything has been read. -/
def constructed : Config := ⟨∅⟩

def setProperty (c : Config) (key value : Bytes) : Config := ⟨c.properties.insert key value⟩

/-- The text of the property, empty when there is none. -/
def getProperty (c : Config) (key : Bytes) : Bytes := (c.properties.lookup key).getD []

def setDefaults (c : Config) : Config :=
  ((c.setProperty (str "db_path") defaultDbPath).setProperty (str "master_secret")
    defaultMasterSecret).setProperty (str "server_port") (str "8080")

end Config

/-! ## Reading -/

/-- `data.items()`: the elements of an array are named by their index, and any other value
but null is one element without a name. -/
def Json.items : Json → List (Bytes × Json)
  | null => []
  | array items => items.zipIdx.map fun (value, i) => (decimal i, value)
  | object fields => fields
  | value => [([], value)]

section items

-- `numberText` is `std::to_string` of the double that the text of a number denotes.
variable (numberText : Bytes → Bytes)

/-- What becomes the text of a property; null and nested values do not. -/
def Json.propertyText : Json → Option Bytes
  | string s => some s
  | number text => some (numberText text)
  | boolean b => some (if b then str "true" else str "false")
  | _ => none

/-- The loop over the items. -/
def Config.readItems : List (Bytes × Json) → Config → Config
  | [], c => c
  | (key, value) :: items, c =>
    readItems items (match value.propertyText numberText with
      | some text => c.setProperty key text
      | none => c)

end items

/-! ## ReadJson -/

/-- The two singletons that `ReadJson` works on. -/
structure Application where
  config : Config
  server : State

abbrev Boot := EStateM Fault Application

/-- `Database::getInstance().init(..)`. -/
def initDatabase (w : World) (stored : Bytes → DatabaseFile) (dbPath masterSecret : Bytes) :
    Boot Unit :=
  focus Application.server (fun s app => { app with server := s })
    (init w stored dbPath masterSecret)

/-- The defaults become the properties and open the database. -/
def useDefaults (w : World) (stored : Bytes → DatabaseFile) : Boot Unit := do
  modify fun app => { app with config := app.config.setDefaults }
  let config := (← get).config
  initDatabase w stored (config.getProperty (str "db_path"))
    (config.getProperty (str "master_secret"))

def readJson (w : World) (stored : Bytes → DatabaseFile) (numberText : Bytes → Bytes)
    (path : Bytes) : Boot Unit :=
  tryCatch
    (do
      match w.readFile path with
      | none => useDefaults w stored
      | some f =>
        match w.json.parse f with
        | .error err => throw (.exception err.what)
        | .ok data =>
          modify fun app => { app with config := app.config.readItems numberText data.items }
          let config := (← get).config
          let dbPath := config.getProperty (str "db_path")
          let masterSecret := config.getProperty (str "master_secret")
          initDatabase w stored (if dbPath = [] then defaultDbPath else dbPath)
            (if masterSecret = [] then defaultMasterSecret else masterSecret))
    fun fault =>
      match fault with
      | .exception _ => useDefaults w stored
      | .deadlock => throw .deadlock

end CCTVWebServer
