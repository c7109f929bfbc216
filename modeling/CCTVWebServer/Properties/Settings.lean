import CCTVWebServer.Config
import CCTVWebServer.Reference
import CCTVWebServer.Specification.Startup

/-!
# The configured database

`ReadJson` catches what `init` raises along with the errors of the parser, and then opens
the default database with the default secret. So a failing call may replace the configured
database by another one, with the account of a first start in it. The numbers of the calls
tell when: the configured start breaks off, and the default one behind it does not.
-/

namespace CCTVWebServer

open Foundation

variable {w : World} {stored : Bytes → DatabaseFile} {numberText : Bytes → Bytes} {path : Bytes}

/-! ## What is configured -/

/-- The members that become properties. -/
def texts (numberText : Bytes → Bytes) (items : List (Bytes × Json)) : List (Bytes × Bytes) :=
  items.filterMap fun item => (item.2.propertyText numberText).map (item.1, ·)

/-- The properties in the file, in its order; none when it cannot be opened or parsed. -/
def settings (w : World) (numberText : Bytes → Bytes) (path : Bytes) : List (Bytes × Bytes) :=
  match w.readFile path with
  | none => []
  | some f =>
    match w.json.parse f with
    | .error _ => []
    | .ok data => texts numberText data.items

/-- The text of a property in the file, the last one if there are several. -/
def given (w : World) (numberText : Bytes → Bytes) (path key : Bytes) : Option Bytes :=
  (settings w numberText path).reverse.lookup key

/-- A value that is absent or empty is replaced. -/
def orDefault (value : Option Bytes) (fallback : Bytes) : Bytes :=
  (value.filter (· ≠ [])).getD fallback

def wantedPath (w : World) (numberText : Bytes → Bytes) (path : Bytes) : Bytes :=
  orDefault (given w numberText path (str "db_path")) defaultDbPath

def wantedSecret (w : World) (numberText : Bytes → Bytes) (path : Bytes) : Bytes :=
  orDefault (given w numberText path (str "master_secret")) defaultMasterSecret

theorem orDefault_eq_self {value : Option Bytes} {fallback : Bytes} :
    orDefault value fallback = fallback ↔ ∀ v, value = some v → v ≠ [] → fallback = v := by
  cases value with
  | none => simp [orDefault]
  | some v => by_cases hv : v = [] <;> simp [orDefault, Option.filter, hv, eq_comm]

theorem orDefault_getD (value : Option Bytes) (fallback : Bytes) :
    (if value.getD [] = [] then fallback else value.getD []) = orDefault value fallback := by
  cases value with
  | none => rfl
  | some v => by_cases hv : v = [] <;> simp [orDefault, Option.filter, hv]

/-- The names of a parsed object are distinct, and a string in it is given under its name. -/
theorem given_of_object (numberText : Bytes → Bytes) {f key value : Bytes}
    {fields : List (Bytes × Json)}
    (hread : w.readFile path = some f) (hparse : w.json.parse f = .ok (.object fields))
    (hnames : (fields.map Prod.fst).Nodup) (hvalue : fields.lookup key = some (.string value)) :
    given w numberText path key = some value := by
  obtain ⟨before, behind, rfl, -⟩ := List.lookup_eq_some_iff.mp hvalue
  have hlater : ∀ item ∈ behind, item.1 ≠ key := by
    intro item hitem heq
    simp only [List.map_append, List.map_cons, List.nodup_append, List.nodup_cons] at hnames
    exact hnames.2.1.1 (heq ▸ List.mem_map_of_mem hitem)
  have hsettings : settings w numberText path =
      texts numberText before ++ (key, value) :: texts numberText behind := by
    simp [settings, texts, hread, hparse, Json.items, Json.propertyText]
  rw [given, hsettings, List.reverse_append, List.reverse_cons, List.append_assoc]
  refine List.lookup_eq_some_iff.mpr ⟨_, _, rfl, ?_⟩
  intro entry hentry
  obtain ⟨item, hitem, htext⟩ := List.mem_filterMap.mp (List.mem_reverse.mp hentry)
  obtain ⟨text, -, rfl⟩ := Option.map_eq_some_iff.mp htext
  simpa using (hlater item hitem).symm

/-! ## The loop -/

/-- The loop keeps the last text of every property. -/
theorem lookup_readItems (items : List (Bytes × Json)) (c : Config) (key : Bytes) :
    (c.readItems numberText items).properties.lookup key =
      ((texts numberText items).reverse.lookup key).or (c.properties.lookup key) := by
  induction items generalizing c with
  | nil => simp [Config.readItems, texts]
  | cons item items ih =>
    obtain ⟨name, value⟩ := item
    rw [Config.readItems, ih]
    cases htext : value.propertyText numberText with
    | none => simp [texts, htext]
    | some text =>
      have hone : (if key = name then some text else none).or (c.properties.lookup key) =
          (c.setProperty name text).properties.lookup key := by
        split
        · subst key
          simp [Config.setProperty]
        · rename_i hkey
          exact (AList.lookup_insert_ne hkey).symm
      simp [texts, htext, List.lookup_append, Option.or_assoc, hone]

theorem getProperty_readItems (items : List (Bytes × Json)) (key : Bytes) :
    (Config.constructed.readItems numberText items).getProperty key =
      ((texts numberText items).reverse.lookup key).getD [] := by
  rw [Config.getProperty, lookup_readItems]
  simp [Config.constructed]

/-! ## The fallback -/

/-- A text that was given and is not empty is still to be had. -/
def Kept (w : World) (numberText : Bytes → Bytes) (path : Bytes) (t : Application)
    (key : Bytes) : Prop :=
  ∀ v, given w numberText path key = some v → v ≠ [] → t.config.getProperty key = v

/-- The configured database is open, and its properties are kept. -/
structure Opened (w : World) (numberText : Bytes → Bytes) (path : Bytes) (t : Application) :
    Prop where
  dbPath : t.server.dbPath = wantedPath w numberText path
  key : t.server.key = w.sha256Digest (wantedSecret w numberText path)
  pathKept : Kept w numberText path t (str "db_path")
  secretKept : Kept w numberText path t (str "master_secret")

/-- A text that was given is kept when the property is this text. -/
theorem kept_iff {t : Application} {key value : Bytes}
    (h : given w numberText path key = some value) (hne : value ≠ []) :
    Kept w numberText path t key ↔ t.config.getProperty key = value := by
  constructor
  · intro hkept
    exact hkept value h hne
  · intro heq v hv _
    exact heq.trans (Option.some.inj (h.symm.trans hv))

/-- A default that has become the property keeps what was given when it applies anyway. -/
theorem kept_default_iff {t : Application} {key fallback : Bytes}
    (h : t.config.getProperty key = fallback) :
    Kept w numberText path t key ↔ orDefault (given w numberText path key) fallback = fallback := by
  rw [orDefault_eq_self, Kept, h]

/-- For a file that gives both values: the database is open at this path and under the key of
this secret, and both are still properties. -/
theorem opened_iff_of_object {f dbPath masterSecret : Bytes} {fields : List (Bytes × Json)}
    {t : Application} (hread : w.readFile path = some f)
    (hparse : w.json.parse f = .ok (.object fields)) (hnames : (fields.map Prod.fst).Nodup)
    (hpath : fields.lookup (str "db_path") = some (.string dbPath)) (hpathNe : dbPath ≠ [])
    (hsecret : fields.lookup (str "master_secret") = some (.string masterSecret))
    (hsecretNe : masterSecret ≠ []) :
    Opened w numberText path t ↔
      t.server.dbPath = dbPath ∧ t.server.key = w.sha256Digest masterSecret ∧
        t.config.getProperty (str "db_path") = dbPath ∧
        t.config.getProperty (str "master_secret") = masterSecret := by
  have hgivenPath := given_of_object numberText hread hparse hnames hpath
  have hgivenSecret := given_of_object numberText hread hparse hnames hsecret
  have hwantedPath : wantedPath w numberText path = dbPath := by
    simp [wantedPath, orDefault, hgivenPath, Option.filter, hpathNe]
  have hwantedSecret : wantedSecret w numberText path = masterSecret := by
    simp [wantedSecret, orDefault, hgivenSecret, Option.filter, hsecretNe]
  rw [← kept_iff hgivenPath hpathNe, ← kept_iff hgivenSecret hsecretNe, ← hwantedPath,
    ← hwantedSecret]
  constructor
  · intro h
    exact ⟨h.dbPath, h.key, h.pathKept, h.secretKept⟩
  · rintro ⟨hdb, hkey, hkeptPath, hkeptSecret⟩
    exact ⟨hdb, hkey, hkeptPath, hkeptSecret⟩

/-- `ReadJson` opens the configured database or raises. -/
def Obeyed (w : World) (stored : Bytes → DatabaseFile) (numberText : Bytes → Bytes)
    (path : Bytes) (s : State) : Prop :=
  ∀ t, (readJson w stored numberText path).run ⟨.constructed, s⟩ = .ok () t →
    Opened w numberText path t

/-- What is configured are the defaults, or nothing is. -/
def WantsDefaults (w : World) (numberText : Bytes → Bytes) (path : Bytes) : Prop :=
  wantedPath w numberText path = defaultDbPath ∧
    wantedSecret w numberText path = defaultMasterSecret

/-- The start on the configured database breaks off, and the one on the default database,
which goes on with the next call, does not. -/
def FallsBack (w : World) (stored : Bytes → DatabaseFile) (numberText : Bytes → Bytes)
    (path : Bytes) (n : Nat) : Prop :=
  ∃ m, GivesUpAt w n (stored (wantedPath w numberText path)).users
      (w.sha256Digest (wantedSecret w numberText path)) m ∧
    Starts w (m + 1) (stored defaultDbPath).users (w.sha256Digest defaultMasterSecret)

/-- The default database is open, with the default properties. -/
structure Defaulted (w : World) (t : Application) : Prop where
  dbPath : t.server.dbPath = defaultDbPath
  key : t.server.key = w.sha256Digest defaultMasterSecret
  path : t.config.getProperty (str "db_path") = defaultDbPath
  secret : t.config.getProperty (str "master_secret") = defaultMasterSecret

theorem getProperty_setDefaults (c : Config) :
    c.setDefaults.getProperty (str "db_path") = defaultDbPath ∧
      c.setDefaults.getProperty (str "master_secret") = defaultMasterSecret := by
  have hpath : str "db_path" ≠ str "master_secret" := by decide
  have hport : str "db_path" ≠ str "server_port" ∧ str "master_secret" ≠ str "server_port" := by
    decide
  simp [Config.setDefaults, Config.setProperty, Config.getProperty, AList.lookup_insert_ne, hpath,
    hport.1, hport.2]

theorem Defaulted.opened_iff {t : Application} (h : Defaulted w t) :
    Opened w numberText path t ↔ WantsDefaults w numberText path := by
  constructor
  · intro hopened
    exact ⟨(kept_default_iff h.path).mp hopened.pathKept,
      (kept_default_iff h.secret).mp hopened.secretKept⟩
  · rintro ⟨hpath, hsecret⟩
    refine ⟨h.dbPath.trans hpath.symm, ?_, (kept_default_iff h.path).mpr hpath,
      (kept_default_iff h.secret).mpr hsecret⟩
    rw [h.key, hsecret]

theorem useDefaults_ends (stored : Bytes → DatabaseFile) (app : Application) :
    Ensures (useDefaults w stored) app
      (fun _ t => Starts w app.server.calls (stored defaultDbPath).users
        (w.sha256Digest defaultMasterSecret) ∧ Defaulted w t)
      (fun _ _ => ¬ Starts w app.server.calls (stored defaultDbPath).users
        (w.sha256Digest defaultMasterSecret)) := by
  obtain ⟨hpath, hsecret⟩ := getProperty_setDefaults app.config
  simp only [useDefaults, initDatabase, ensures_bind, ensures_modify, ensures_get, ensures_focus,
    hpath, hsecret]
  refine (init_ends stored defaultDbPath defaultMasterSecret app.server).mono ?_ ?_
  · rintro _ t ⟨hstarts, -, hdb, hkey⟩
    exact ⟨hstarts, hdb, hkey, hpath, hsecret⟩
  · rintro _ t ⟨m, hgivesUp, -⟩
    exact hgivesUp.not_starts

/-- A return: what is configured is open, or the defaults are. -/
def Returned (w : World) (stored : Bytes → DatabaseFile) (numberText : Bytes → Bytes)
    (path : Bytes) (n : Nat) (t : Application) : Prop :=
  (Opened w numberText path t ∧ ¬ FallsBack w stored numberText path n) ∨
    (Defaulted w t ∧
      (WantsDefaults w numberText path ∨ FallsBack w stored numberText path n))

/-- Where the defaults are wanted, it does not matter why they are tried. -/
theorem useDefaults_wanted (hwants : WantsDefaults w numberText path) (n : Nat)
    (app : Application) :
    Ensures (useDefaults w stored) app (fun _ t => Returned w stored numberText path n t)
      (fun _ _ => WantsDefaults w numberText path ∨ ¬ FallsBack w stored numberText path n) := by
  refine (useDefaults_ends stored app).mono ?_ fun _ _ _ => .inl hwants
  rintro _ t ⟨-, hdefaulted⟩
  exact .inr ⟨hdefaulted, .inl hwants⟩

/-- Behind a start that broke off, the defaults are opened exactly when this is a fallback. -/
theorem useDefaults_behind {n m : Nat}
    (hgivesUp : GivesUpAt w n (stored (wantedPath w numberText path)).users
      (w.sha256Digest (wantedSecret w numberText path)) m)
    {app : Application} (hcalls : app.server.calls = m + 1) :
    Ensures (useDefaults w stored) app (fun _ t => Returned w stored numberText path n t)
      (fun _ _ => WantsDefaults w numberText path ∨ ¬ FallsBack w stored numberText path n) := by
  have hends := useDefaults_ends (w := w) stored app
  rw [hcalls] at hends
  refine hends.mono ?_ ?_
  · rintro _ t ⟨hstarts, hdefaulted⟩
    exact .inr ⟨hdefaulted, .inr ⟨m, hgivesUp, hstarts⟩⟩
  · rintro _ _ hno
    refine .inr ?_
    rintro ⟨m', hgivesUp', hstarts⟩
    cases hgivesUp.unique hgivesUp'
    exact hno hstarts

theorem wantsDefaults_of_settings (h : settings w numberText path = []) :
    WantsDefaults w numberText path := by
  simp [WantsDefaults, wantedPath, wantedSecret, given, h, orDefault]

theorem getProperty_wanted (numberText : Bytes → Bytes) {f : Bytes} {data : Json}
    (hread : w.readFile path = some f) (hparse : w.json.parse f = .ok data) (key : Bytes) :
    (Config.constructed.readItems numberText data.items).getProperty key =
      (given w numberText path key).getD [] := by
  rw [getProperty_readItems]
  simp [given, settings, hread, hparse]

/-- The first attempt, on what is configured. -/
theorem initDatabase_ends {c : Config}
    (hc : ∀ key, c.getProperty key = (given w numberText path key).getD []) (s : State) :
    Ensures (initDatabase w stored (wantedPath w numberText path) (wantedSecret w numberText path))
      ⟨c, s⟩
      (fun _ t => Opened w numberText path t ∧ ¬ FallsBack w stored numberText path s.calls)
      (fun fault t => ∃ m, GivesUpAt w s.calls (stored (wantedPath w numberText path)).users
        (w.sha256Digest (wantedSecret w numberText path)) m ∧ BreaksOff m fault t.server) := by
  rw [initDatabase, ensures_focus]
  refine (init_ends stored _ _ s).mono ?_ fun _ _ h => h
  rintro _ t ⟨hstarts, -, hdb, hkey⟩
  have hkept (key : Bytes) : Kept w numberText path ⟨c, t⟩ key := by
    intro v hv _
    rw [hc, hv, Option.getD_some]
  refine ⟨⟨hdb, hkey, hkept _, hkept _⟩, ?_⟩
  rintro ⟨m, hgivesUp, -⟩
  exact hgivesUp.not_starts hstarts

/-- How `ReadJson` ends, by the calls that lie ahead of it. -/
theorem readJson_ends (w : World) (stored : Bytes → DatabaseFile) (numberText : Bytes → Bytes)
    (path : Bytes) (s : State) :
    Ensures (readJson w stored numberText path) ⟨.constructed, s⟩
      (fun _ t => Returned w stored numberText path s.calls t)
      (fun _ _ =>
        WantsDefaults w numberText path ∨ ¬ FallsBack w stored numberText path s.calls) := by
  rw [readJson, ensures_tryCatch]
  cases hread : w.readFile path with
  | none =>
    have hwants : WantsDefaults w numberText path :=
      wantsDefaults_of_settings (by simp [settings, hread])
    refine (useDefaults_wanted hwants s.calls _).mono (fun _ _ h => h) fun fault t _ => ?_
    cases fault with
    | exception what => exact useDefaults_wanted hwants s.calls t
    | deadlock => exact .inl hwants
  | some f =>
    dsimp only
    cases hparse : w.json.parse f with
    | error err =>
      have hwants : WantsDefaults w numberText path :=
        wantsDefaults_of_settings (by simp [settings, hread, hparse])
      exact useDefaults_wanted hwants s.calls _
    | ok data =>
      have hc := getProperty_wanted numberText hread hparse
      simp only [ensures_bind, ensures_modify, ensures_get, hc, orDefault_getD]
      refine (initDatabase_ends hc s).mono (fun _ _ h => .inl h) ?_
      rintro fault t ⟨m, hgivesUp, hcalls, what, rfl⟩
      exact useDefaults_behind hgivesUp hcalls

/-- A fallback ends with the default database, and nothing is raised. -/
theorem FallsBack.defaulted {s : State} (h : FallsBack w stored numberText path s.calls)
    (hwants : ¬ WantsDefaults w numberText path) :
    ∃ t, (readJson w stored numberText path).run ⟨.constructed, s⟩ = .ok () t ∧ Defaulted w t := by
  have hends := readJson_ends w stored numberText path s
  cases hrun : (readJson w stored numberText path).run ⟨.constructed, s⟩ with
  | ok _ t =>
    rcases hends.of_ok hrun with ⟨-, hno⟩ | ⟨hdefaulted, -⟩
    · exact absurd h hno
    · exact ⟨t, rfl, hdefaulted⟩
  | error fault t =>
    rcases hends.of_error hrun with hwants' | hno
    · exact absurd hwants' hwants
    · exact absurd h hno

/-- `ReadJson` never replaces what is configured, except by the defaults that are configured
anyway, or where the configured start breaks off and the default one does not. -/
theorem obeyed_iff (w : World) (stored : Bytes → DatabaseFile) (numberText : Bytes → Bytes)
    (path : Bytes) (s : State) :
    Obeyed w stored numberText path s ↔
      WantsDefaults w numberText path ∨ ¬ FallsBack w stored numberText path s.calls := by
  constructor
  · intro hobeyed
    by_contra hnot
    obtain ⟨hwants, hfalls⟩ := not_or.mp hnot
    obtain ⟨t, hrun, hdefaulted⟩ := (not_not.mp hfalls).defaulted hwants
    exact hwants (hdefaulted.opened_iff.mp (hobeyed t hrun))
  · intro hsafe t hrun
    rcases (readJson_ends w stored numberText path s).of_ok hrun with
      ⟨hopened, -⟩ | ⟨hdefaulted, hwants | hfalls⟩
    · exact hopened
    · exact hdefaulted.opened_iff.mpr hwants
    · exact hdefaulted.opened_iff.mpr (hsafe.resolve_right (not_not.mpr hfalls))

/-- A site with a database and a secret of its own, where the first call to SQLite fails. -/
def site : World :=
  { Reference.failing 0 with
    readFile := fun _ => some (Reference.body [("db_path", "cctv.db"), ("master_secret", "own")]) }

/-- The configured database cannot be opened, and the server starts on the default one. -/
theorem failedOpen_not_obeyed :
    given site id (str "config.json") (str "db_path") = some (str "cctv.db") ∧
      given site id (str "config.json") (str "master_secret") = some (str "own") ∧
      ∃ t, (readJson site (fun _ => DatabaseFile.new) id (str "config.json")).run
          ⟨.constructed, State.started 0⟩ = .ok () t ∧
        t.server.dbPath = defaultDbPath ∧ t.server.dbPath ≠ str "cctv.db" := by
  have hpath : given site id (str "config.json") (str "db_path") = some (str "cctv.db") := by
    decide +kernel
  have hsecret : given site id (str "config.json") (str "master_secret") = some (str "own") := by
    decide +kernel
  have hfalls : FallsBack site (fun _ => DatabaseFile.new) id (str "config.json") 0 := by
    refine ⟨0, .inl (by decide), by decide, .inr ⟨?_, by decide⟩⟩
    decide +kernel
  have hwants : ¬ WantsDefaults site id (str "config.json") := by
    rintro ⟨hdefault, -⟩
    have hne := orDefault_eq_self.mp hdefault _ hpath (by decide)
    revert hne
    decide
  obtain ⟨t, hrun, hdefaulted⟩ := hfalls.defaulted (s := State.started 0) hwants
  refine ⟨hpath, hsecret, t, hrun, hdefaulted.dbPath, ?_⟩
  rw [hdefaulted.dbPath]
  decide

end CCTVWebServer
