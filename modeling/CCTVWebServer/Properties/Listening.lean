import CCTVWebServer.AcceptLoop
import CCTVWebServer.Properties.Settings

/-!
# The port the server listens on

What is configured for the port, and what becomes of it when the configured database cannot
be opened: the fallback to the default database takes the port along.
-/

namespace CCTVWebServer

open Foundation

variable {w : World} {stored : Bytes → DatabaseFile} {numberText : Bytes → Bytes} {path : Bytes}

/-! ## Numerals -/

/-- A sign and the factor it stands for. -/
inductive Sign : Bytes → Int → Prop where
  | none : Sign [] 1
  | plus : Sign [0x2B] 1
  | minus : Sign [0x2D] (-1)

/-- The text begins with a numeral, after blanks: the digits end where something else begins. -/
inductive Numeral : Bytes → Int → Prop where
  | intro {blanks sign run rest : Bytes} {factor : Int} (hblanks : ∀ b ∈ blanks, isSpace b)
      (hsign : Sign sign factor) (hrun : ∀ b ∈ run, Decimal.IsDigit b) (hne : run ≠ [])
      (hrest : ∀ b ∈ rest.head?, ¬ Decimal.IsDigit b) :
      Numeral (blanks ++ (sign ++ (run ++ rest))) (factor * Decimal.value 0 run)

/-- The values of an `int`. -/
def IsInt (n : Int) : Prop := -2 ^ 31 ≤ n ∧ n < 2 ^ 31

theorem takeSign_spec (text : Bytes) :
    ∃ sign, text = sign ++ (takeSign text).2 ∧ Sign sign (takeSign text).1 := by
  cases text with
  | nil => exact ⟨[], rfl, .none⟩
  | cons b rest =>
    rw [takeSign]
    split_ifs with hminus hplus
    · exact ⟨[b], rfl, hminus ▸ .minus⟩
    · exact ⟨[b], rfl, hplus ▸ .plus⟩
    · exact ⟨[], rfl, .none⟩

theorem takeSign_append {sign text : Bytes} {factor : Int} (hsign : Sign sign factor)
    (htext : ∃ b ∈ text.head?, Decimal.IsDigit b) : takeSign (sign ++ text) = (factor, text) := by
  cases hsign with
  | plus => rfl
  | minus => rfl
  | none =>
    obtain ⟨b, hb, hdigit⟩ := htext
    cases text with
    | nil => cases hb
    | cons c rest =>
      obtain rfl := Option.some.inj hb
      have hminus : c ≠ 0x2D := by
        rintro rfl
        exact absurd hdigit (by decide)
      have hplus : c ≠ 0x2B := by
        rintro rfl
        exact absurd hdigit (by decide)
      rw [List.nil_append, takeSign, if_neg hminus, if_neg hplus]

theorem dropWhile_blanks {blanks rest : Bytes} (hblanks : ∀ b ∈ blanks, isSpace b)
    (hrest : ∀ b ∈ rest.head?, isSpace b = false) :
    (blanks ++ rest).dropWhile isSpace = rest := by
  rw [List.dropWhile_append_of_pos hblanks]
  cases rest with
  | nil => rfl
  | cons b rest => exact List.dropWhile_cons_of_neg (by simp [hrest b rfl])

/-- No numeral begins with a blank. -/
theorem Sign.head {sign run rest : Bytes} {factor : Int} (hsign : Sign sign factor)
    (hrun : ∀ b ∈ run, Decimal.IsDigit b) (hne : run ≠ []) :
    ∀ b ∈ (sign ++ (run ++ rest)).head?, isSpace b = false := by
  intro b hb
  cases hsign with
  | plus => exact Option.some.inj hb ▸ rfl
  | minus => exact Option.some.inj hb ▸ rfl
  | none =>
    cases run with
    | nil => exact absurd rfl hne
    | cons c run =>
      obtain rfl := Option.some.inj hb
      obtain ⟨hlow, hhigh⟩ := hrun c List.mem_cons_self
      rw [UInt8.le_iff_toNat_le] at hlow hhigh
      have hspace : c ≠ 0x20 ∧ ¬ c ≤ 0x0D := by
        constructor
        · rintro rfl
          exact absurd hlow (by decide)
        · rw [UInt8.le_iff_toNat_le]
          exact fun hle => absurd (hlow.trans hle) (by decide)
      simp [isSpace, hspace]

/-- `stoi` returns the numeral that its text begins with, if it is an `int`. -/
theorem stoi_eq_some {text : Bytes} {n : Int} :
    stoi text = some n ↔ Numeral (cstr text) n ∧ IsInt n := by
  constructor
  · intro h
    unfold stoi at h
    have hwhole := List.takeWhile_append_dropWhile (p := isSpace) (l := cstr text)
    have hblanks : ∀ b ∈ (cstr text).takeWhile isSpace, isSpace b :=
      fun b hb => List.mem_takeWhile_imp hb
    generalize (cstr text).takeWhile isSpace = blanks at hwhole hblanks
    generalize (cstr text).dropWhile isSpace = body at h hwhole
    obtain ⟨sign, hbody, hsign⟩ := takeSign_spec body
    obtain ⟨happend, hdigits, hrest⟩ := Decimal.readDigits_spec (takeSign body).2
    cases hread : Decimal.readDigits (takeSign body).2 with
    | mk run rest =>
    dsimp only at h
    rw [hread] at h happend hdigits hrest
    cases run with
    | nil => cases h
    | cons b run =>
      dsimp only at h happend hdigits hrest
      split_ifs at h with hint
      obtain rfl := Option.some.inj h
      have hfront : cstr text = blanks ++ (sign ++ (b :: run ++ rest)) := by
        rw [← hwhole, ← happend, ← hbody]
      rw [hfront]
      exact ⟨.intro hblanks hsign hdigits (List.cons_ne_nil b run) hrest, hint⟩
  · rintro ⟨hnumeral, hint⟩
    unfold stoi
    generalize cstr text = front at hnumeral
    cases hnumeral with
    | @intro blanks sign run rest factor hblanks hsign hrun hne hrest =>
    obtain ⟨b, run, rfl⟩ := List.exists_cons_of_ne_nil hne
    have hdigit : ∃ c ∈ (b :: run ++ rest).head?, Decimal.IsDigit c :=
      ⟨b, rfl, hrun b List.mem_cons_self⟩
    rw [dropWhile_blanks hblanks (hsign.head hrun hne), takeSign_append hsign hdigit]
    dsimp only
    rw [Decimal.readDigits_append hrun hrest]
    exact if_pos hint

/-! ## The configured port -/

/-- The file can be opened and parsed, and the configured database can be opened. -/
def StartsConfigured (w : World) (stored : Bytes → DatabaseFile) (numberText : Bytes → Bytes)
    (path : Bytes) (n : Nat) : Prop :=
  (∃ f data, w.readFile path = some f ∧ w.json.parse f = .ok data) ∧
    Starts w n (stored (wantedPath w numberText path)).users
      (w.sha256Digest (wantedSecret w numberText path))

/-- The property that `onRead` finds. -/
def PortProperty (w : World) (stored : Bytes → DatabaseFile) (numberText : Bytes → Bytes)
    (path : Bytes) (n : Nat) (text : Bytes) : Prop :=
  (StartsConfigured w stored numberText path n →
    text = (given w numberText path (str "server_port")).getD []) ∧
  (¬ StartsConfigured w stored numberText path n → text = str "8080")

theorem getProperty_setDefaults_port (c : Config) :
    c.setDefaults.getProperty (str "server_port") = str "8080" := by
  simp [Config.setDefaults, Config.setProperty, Config.getProperty]

/-- The defaults are used when the configured start is not the one that goes through. -/
theorem useDefaults_port {n : Nat} (hno : ¬ StartsConfigured w stored numberText path n)
    (app : Application) :
    Ensures (useDefaults w stored) app
      (fun _ t => PortProperty w stored numberText path n
        (t.config.getProperty (str "server_port")))
      (fun _ _ => True) := by
  simp only [useDefaults, initDatabase, ensures_bind, ensures_modify, ensures_get, ensures_focus]
  refine (init_ends stored _ _ app.server).mono ?_ fun _ _ _ => trivial
  intro _ t _
  exact ⟨fun h => absurd h hno, fun _ => getProperty_setDefaults_port app.config⟩

theorem readJson_port (w : World) (stored : Bytes → DatabaseFile) (numberText : Bytes → Bytes)
    (path : Bytes) (s : State) :
    Ensures (readJson w stored numberText path) ⟨.constructed, s⟩
      (fun _ t => PortProperty w stored numberText path s.calls
        (t.config.getProperty (str "server_port")))
      (fun _ _ => True) := by
  rw [readJson, ensures_tryCatch]
  cases hread : w.readFile path with
  | none =>
    have hno : ¬ StartsConfigured w stored numberText path s.calls := by
      rintro ⟨⟨f, data, hopen, -⟩, -⟩
      rw [hread] at hopen
      cases hopen
    refine (useDefaults_port hno _).mono (fun _ _ h => h) fun fault t _ => ?_
    cases fault with
    | exception what => exact useDefaults_port hno t
    | deadlock => trivial
  | some f =>
    dsimp only
    cases hparse : w.json.parse f with
    | error err =>
      have hno : ¬ StartsConfigured w stored numberText path s.calls := by
        rintro ⟨⟨f', data, hopen, hdata⟩, -⟩
        obtain rfl := Option.some.inj (hread.symm.trans hopen)
        rw [hparse] at hdata
        cases hdata
      exact useDefaults_port hno _
    | ok data =>
      have hc := getProperty_wanted numberText hread hparse
      simp only [ensures_bind, ensures_modify, ensures_get, hc, orDefault_getD]
      rw [initDatabase, ensures_focus]
      refine (init_ends stored _ _ s).mono ?_ ?_
      · rintro _ t ⟨hstarts, -⟩
        have hstart : StartsConfigured w stored numberText path s.calls :=
          ⟨⟨f, data, hread, hparse⟩, hstarts⟩
        exact ⟨fun _ => hc _, fun hno => absurd hstart hno⟩
      · rintro fault t ⟨m, hgivesUp, -, what, rfl⟩
        exact useDefaults_port (fun h => hgivesUp.not_starts h.2) _

/-- The number that is taken for the port. -/
inductive PortNumber (w : World) (stored : Bytes → DatabaseFile) (numberText : Bytes → Bytes)
    (path : Bytes) (calls : Nat) : Int → Prop where
  | given {text : Bytes} {n : Int} (hstart : StartsConfigured w stored numberText path calls)
      (hgiven : given w numberText path (str "server_port") = some text) (hne : text ≠ [])
      (hnumeral : Numeral (cstr text) n) (hint : IsInt n) :
      PortNumber w stored numberText path calls n
  | unset (hstart : StartsConfigured w stored numberText path calls)
      (hunset : (CCTVWebServer.given w numberText path (str "server_port")).getD [] = []) :
      PortNumber w stored numberText path calls 8080
  | fallback (hno : ¬ StartsConfigured w stored numberText path calls) :
      PortNumber w stored numberText path calls 8080

theorem stoi_default : stoi (str "8080") = some 8080 := by decide

/-- What `onRead` makes of the property. -/
theorem PortProperty.number {n : Nat} {text : Bytes}
    (h : PortProperty w stored numberText path n text) (number : Int) :
    (if text = [] then some 8080 else stoi text) = some number ↔
      PortNumber w stored numberText path n number := by
  by_cases hstart : StartsConfigured w stored numberText path n
  · have htext := h.1 hstart
    constructor
    · intro hnumber
      split_ifs at hnumber with hempty
      · obtain rfl := Option.some.inj hnumber
        exact .unset hstart (htext.symm.trans hempty)
      · obtain ⟨hnumeral, hint⟩ := stoi_eq_some.mp hnumber
        cases hgiven : given w numberText path (str "server_port") with
        | none => exact absurd (htext.trans (by rw [hgiven]; rfl)) hempty
        | some text' =>
          rw [hgiven, Option.getD_some] at htext
          subst htext
          exact .given hstart hgiven hempty hnumeral hint
    · rintro (⟨-, hgiven, hne, hnumeral, hint⟩ | ⟨-, hunset⟩ | hno)
      · rw [hgiven, Option.getD_some] at htext
        rw [htext, if_neg hne]
        exact stoi_eq_some.mpr ⟨hnumeral, hint⟩
      · rw [if_pos (htext.trans hunset)]
      · exact absurd hstart hno
  · have hdefault : (if text = [] then some 8080 else stoi text) = some 8080 := by
      rw [h.2 hstart, if_neg (by decide), stoi_default]
    rw [hdefault]
    constructor
    · intro hnumber
      obtain rfl := Option.some.inj hnumber
      exact .fallback hstart
    · rintro (⟨hstart', -⟩ | ⟨hstart', -⟩ | -)
      · exact absurd hstart' hstart
      · exact absurd hstart' hstart
      · rfl

/-- When `ReadJson` has returned, whatever the file holds and whichever calls failed: the
server listens on a port exactly when it can be bound and is the number of the configuration,
cut to 16 bits. -/
theorem listening_port {s : State} {t : Application}
    (hrun : (readJson w stored numberText path).run ⟨.constructed, s⟩ = .ok () t)
    (binds : UInt16 → Bool) (port : UInt16) :
    HttpServer.onRead binds t.config = some port ↔
      binds port = true ∧
        ∃ n, PortNumber w stored numberText path s.calls n ∧ port = UInt16.ofInt n := by
  have hnumber := ((readJson_port w stored numberText path s).of_ok hrun).number
  simp only [HttpServer.onRead, Option.filter_eq_some_iff, Option.map_eq_some_iff, hnumber]
  grind

/-- The configuration of a site that gives a port. -/
def gatewayFile : Bytes :=
  Reference.body [("db_path", "cctv.db"),
    ("master_secret", "VE_SUPER_SECURE_SECRET_KEY_FOR_DATA_ENCRYPTION_2026"),
    ("server_port", "8081")]

def gateway : World := { Reference.world with readFile := fun _ => some gatewayFile }

def gatewayStart : Boot Unit :=
  readJson gateway (fun _ => DatabaseFile.new) id (str "config.json")

/-- The process after its start. -/
def gatewayApplication : Application := finalState gatewayStart ⟨.constructed, State.started 0⟩

theorem gateway_started :
    gatewayStart.run ⟨.constructed, State.started 0⟩ = .ok () gatewayApplication :=
  run_of_completes (by decide +kernel)

theorem listening_port_gateway :
    HttpServer.onRead (fun _ => true) gatewayApplication.config = some 8081 ↔
      true = true ∧ ∃ n, PortNumber gateway (fun _ => DatabaseFile.new) id (str "config.json") 0 n ∧
        (8081 : UInt16) = UInt16.ofInt n :=
  listening_port gateway_started (fun _ => true) 8081

/-! ## A port is read back -/

theorem cstr_digits (n : Nat) (rest : Bytes) :
    cstr (Decimal.digits n ++ rest) = Decimal.digits n ++ cstr rest := by
  refine List.takeWhile_append_of_pos fun b hb => ?_
  have hdigit := Decimal.isDigit_of_mem_digits hb
  have hne : b ≠ 0 := by
    rintro rfl
    exact absurd hdigit (by decide)
  simpa using hne

theorem stoi_digits {n : Nat} (hn : n < 2 ^ 31) {rest : Bytes}
    (hrest : ∀ b ∈ rest.head?, ¬ Decimal.IsDigit b) :
    stoi (Decimal.digits n ++ rest) = some (n : Int) := by
  refine stoi_eq_some.mpr ⟨?_, by unfold IsInt; omega⟩
  have hrest' : ∀ b ∈ (cstr rest).head?, ¬ Decimal.IsDigit b := by
    intro b hb
    cases rest with
    | nil => cases hb
    | cons c rest =>
      rw [cstr, List.takeWhile_cons] at hb
      split at hb
      · exact hrest b hb
      · cases hb
  have hnumeral : Numeral ([] ++ ([] ++ (Decimal.digits n ++ cstr rest)))
      (1 * Decimal.value 0 (Decimal.digits n)) :=
    .intro (by simp) .none (fun b hb => Decimal.isDigit_of_mem_digits hb)
      (Decimal.digits_ne_nil n) hrest'
  rw [cstr_digits]
  simpa [Decimal.value_digits] using hnumeral

/-- A port that is given in digits, as a string or as a number whose text goes on with a point,
is the one that the server listens on. -/
theorem configured_port {s : State} {t : Application}
    (hrun : (readJson w stored numberText path).run ⟨.constructed, s⟩ = .ok () t)
    (hstart : StartsConfigured w stored numberText path s.calls) {n : Nat} (hn : n < 2 ^ 16)
    {rest : Bytes} (hrest : ∀ b ∈ rest.head?, ¬ Decimal.IsDigit b)
    (hgiven : given w numberText path (str "server_port") = some (Decimal.digits n ++ rest))
    (binds : UInt16 → Bool) :
    (HttpServer.onRead binds t.config).map UInt16.toNat =
      if binds (UInt16.ofNat n) then some n else none := by
  have htext := ((readJson_port w stored numberText path s).of_ok hrun).1 hstart
  rw [hgiven, Option.getD_some] at htext
  have hne : Decimal.digits n ++ rest ≠ [] := by
    simp [Decimal.digits_ne_nil n]
  have hport : (UInt16.ofNat n).toNat = n := by
    rw [UInt16.toNat_ofNat']
    omega
  have hcast : UInt16.ofInt (n : Int) = UInt16.ofNat n := by
    rw [UInt16.ofInt]
    congr 1
  simp only [HttpServer.onRead, htext, if_neg hne, stoi_digits (by omega : n < 2 ^ 31) hrest,
    Option.map_some, hcast]
  cases hbinds : binds (UInt16.ofNat n) with
  | true => simp [Option.filter, hbinds, hport]
  | false => simp [Option.filter, hbinds]

theorem configured_port_gateway :
    (HttpServer.onRead (fun _ => true) gatewayApplication.config).map UInt16.toNat =
      if true then some 8081 else none := by
  have hstart : StartsConfigured gateway (fun _ => DatabaseFile.new) id (str "config.json") 0 := by
    have hok : (gateway.json.parse gatewayFile).isOk := by decide +kernel
    refine ⟨?_, by decide, .inr ⟨by decide +kernel, by decide⟩⟩
    cases hparse : gateway.json.parse gatewayFile with
    | ok data => exact ⟨gatewayFile, data, rfl, hparse⟩
    | error err =>
      rw [hparse] at hok
      cases hok
  have hgiven : given gateway id (str "config.json") (str "server_port") =
      some (Decimal.digits 8081 ++ []) := by decide +kernel
  exact configured_port gateway_started hstart (by decide) (by simp) hgiven (fun _ => true)

end CCTVWebServer
