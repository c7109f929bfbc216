import CCTVWebServer.Properties.Representation
import CCTVWebServer.Specification.Rtsp

/-!
# A database under another master secret

The server is started again with a master secret that is not the one of the database. Nobody
gets in, and of what was stored nothing changes: new registrations are all that is added.
Once it is started with the right secret, everything can be read as before.
-/

namespace CCTVWebServer

open Foundation

variable {w : World} {s t u v : State} {x : Exchange} {dbPath masterSecret : Bytes}

/-! ## Foreign keys -/

/-- The ideal view of authenticated encryption, as `sha256Digest` is taken to be injective:
what is sealed under one key opens under no other. -/
def World.GcmKeyed (w : World) : Prop :=
  ∀ key key' iv plaintext : Bytes, key.length = 32 → key'.length = 32 → key' ≠ key →
    w.gcmOpen key' iv (w.gcmSeal key iv plaintext).1 (w.gcmSeal key iv plaintext).2 = none

theorem opened_of_foreign (hgcm : w.GcmDocumented) (hkeyed : w.GcmKeyed)
    {key key' plaintext text : Bytes} (h : w.Seals key plaintext text) (hne : key' ≠ key) :
    w.opened key' text = none := by
  obtain ⟨hlen, iv, hiv, rfl⟩ := h
  have htag := hgcm.tag_length key iv plaintext
  rw [World.opened, fromHex_toHex]
  split_ifs with hopens
  · rw [List.append_assoc, List.take_left' hiv, List.drop_left' hiv, List.take_left' htag,
      ← List.append_assoc, List.drop_left' (by simp [hiv, htag])]
    exact hkeyed key key' iv plaintext hlen hopens.1 hne
  · rfl

/-- A row whose id was sealed under another key, and that was never approved. -/
structure ForeignRow (w : World) (key : Bytes) (row : UserRow) : Prop where
  userIdEnc : ∃ key' userId, key' ≠ key ∧ w.Seals key' userId row.userIdEnc.val
  isApproved : row.isApproved = 0

theorem ForeignRow.opened (hgcm : w.GcmDocumented) (hkeyed : w.GcmKeyed) {key : Bytes}
    {row : UserRow} (h : ForeignRow w key row) : w.opened key row.userIdEnc.val = none := by
  obtain ⟨key', userId, hne, hseals⟩ := h.userIdEnc
  exact opened_of_foreign hgcm hkeyed hseals (Ne.symm hne)

/-- A step of a server that has the file of `masterSecret` and other secrets. -/
inductive ForeignStep (w : World) (masterSecret : Bytes) : State → Label → State → Prop where
  | request {s t : State} {x : Exchange} (h : Served w s x t) :
      ForeignStep w masterSecret s (.request x) t
  | restart {s t : State} {dbPath other : Bytes} {n : Nat} (hother : other ≠ masterSecret)
      (h : (init w (fun _ => ⟨s.users, s.rtspConfig⟩) dbPath other).run (State.started n) =
        .ok () t) : ForeignStep w masterSecret s .restart t

/-- What is left of the state `s` while the server does not have its key. -/
structure LockedOut (w : World) (s u : State) : Prop where
  key_ne : u.key ≠ s.key
  sessions : u.activeSessions = ∅
  users : ∃ rows, u.users.rows = s.users.rows ++ rows ∧ ∀ row ∈ rows, ForeignRow w s.key row
  rtspConfig : u.rtspConfig = s.rtspConfig

/-! ## Nobody gets in -/

theorem LockedOut.callerId_eq_nil (h : LockedOut w s u) (e : HttpRequestEvent) :
    callerId u e = [] := by
  by_contra hne
  have hsession := callerId_ne_nil hne
  rw [h.sessions] at hsession
  cases hsession

/-- A user whose row can be read was never approved. -/
theorem LockedOut.isApproved (hgcm : w.GcmDocumented) (hkeyed : w.GcmKeyed)
    (hsound : TableSound w s.key s.users) (h : LockedOut w s u) {userId : Bytes}
    {user : UserRecord} (hfetched : Fetched w u userId user) :
    user.isApproved = 0 := by
  obtain ⟨row, openId, openName, hrow, hopen, -, rfl⟩ := hfetched
  obtain ⟨rows, hrows, hforeign⟩ := h.users
  have hmem := (Table.find_eq_some.mp hrow).1
  rw [hrows] at hmem
  rcases List.mem_append.mp hmem with hold | hnew
  · obtain ⟨userId', hrow'⟩ := hsound row hold
    have hclosed := opened_of_foreign hgcm hkeyed hrow'.userIdEnc h.key_ne
    rw [hclosed] at hopen
    cases hopen
  · exact (hforeign row hnew).isApproved

/-- A registration is all that a request can do. -/
theorem LockedOut.effect (hgcm : w.GcmDocumented) (hkeyed : w.GcmKeyed)
    (hsound : TableSound w s.key s.users) (h : LockedOut w s u) {e : HttpRequestEvent}
    {eff : Effect} {r : HttpResponseEvent} (hanswer : Answer w u e eff r) :
    eff = .quiet ∨ ∃ row, eff = .register row := by
  have hcaller := h.callerId_eq_nil e
  cases hanswer with
  | quiet refused => exact .inl rfl
  | @register _ _ _ row => exact .inr ⟨row, rfl⟩
  | login post hid hpassword hfetched hactive happroved =>
    exact absurd (h.isApproved hgcm hkeyed hsound hfetched) happroved
  | logout post hno => exact absurd hcaller hno
  | updateProfile post hno => exact absurd hcaller hno
  | approve post hadmin => exact absurd hcaller hadmin.1
  | evict post hadmin => exact absurd hcaller hadmin.1
  | relay hurl hadmin => exact absurd hcaller hadmin.1

theorem LockedOut.request (hjson : w.json.Documented) (hgcm : w.GcmDocumented)
    (hkeyed : w.GcmKeyed) (hsound : TableSound w s.key s.users) (h : LockedOut w s u)
    (hx : Served w u x v) :
    LockedOut w s v ∧
      ∀ ev, Reports w x ev → ∃ userId password, ev = .register userId password := by
  obtain ⟨eff, r, ⟨n, p, rfl⟩, hanswer, hpublished⟩ := hx.effect hjson
  rcases h.effect hgcm hkeyed hsound hanswer with rfl | ⟨row, rfl⟩
  · cases hanswer with
    | quiet refused =>
      refine ⟨⟨h.key_ne, h.sessions, h.users, h.rtspConfig⟩, fun ev hev => ?_⟩
      exact absurd hev (not_reports_of_refused hpublished refused ev)
  · cases hanswer with
    | @register userId username password _ _ post hid hname hpassword hne hrow hfree hok =>
      obtain ⟨users, hinsert⟩ : ∃ users, u.users.insert row = some users := by
        refine Option.ne_none_iff_exists'.mp fun hnone => ?_
        rw [Table.insert_eq_none, hrow.userIdHash] at hnone
        exact hnone hfree
      obtain ⟨rows, hrows, hforeign⟩ := h.users
      refine ⟨⟨h.key_ne, h.sessions, ⟨rows ++ [row], ?_, ?_⟩, h.rtspConfig⟩, fun ev hev => ?_⟩
      · simp [Effect.apply, hinsert, Table.rows_insert hinsert, hrows]
      · intro row' hrow'
        rcases List.mem_append.mp hrow' with hold | hnew
        · exact hforeign row' hold
        · obtain rfl := List.mem_singleton.mp hnew
          exact ⟨⟨u.key, userId, h.key_ne, hrow.userIdEnc⟩, hrow.isApproved⟩
      · have hr : x.published = [r] := by
          rcases hpublished with hr | ⟨-, h500⟩
          · exact hr
          · omega
        exact ⟨userId, password, hev.unique (.register post hid hpassword ⟨r, hr, hok⟩)⟩

theorem LockedOut.login_refused (hgcm : w.GcmDocumented) (hkeyed : w.GcmKeyed)
    (hsound : TableSound w s.key s.users) (h : LockedOut w s u) {e : HttpRequestEvent}
    {eff : Effect} {r : HttpResponseEvent} (hanswer : Answer w u e eff r)
    (hlogin : Post e "/api/login") : r.statusCode ≠ 200 := by
  rcases h.effect hgcm hkeyed hsound hanswer with rfl | ⟨row, rfl⟩
  · cases hanswer with
    | quiet refused => exact refused (.inr (.inl hlogin))
  · cases hanswer with
    | register post => exact absurd (post.1.symm.trans hlogin.1) (by decide)

/-- Only registrations, the files of the page and registered handlers are answered with 200. -/
theorem LockedOut.open_of_ok (hjson : w.json.Documented) (hgcm : w.GcmDocumented)
    (hkeyed : w.GcmKeyed) (hsound : TableSound w s.key s.users) (h : LockedOut w s u)
    {self : ReplyServer} {e : HttpRequestEvent} {r : HttpResponseEvent}
    (hr : r ∈ responses w self u e) (hok : r.statusCode = 200) : OpenAnswer w self e r := by
  cases hrun : (respond w self e).run u with
  | error fault t =>
    rw [responses_of_error hjson hrun] at hr
    cases hr
  | ok r' t =>
    rw [responses_of_ok hjson hrun] at hr
    obtain rfl := List.mem_singleton.mp hr
    obtain ⟨⟨eff, -, hanswer⟩, -⟩ := (respond_spec hjson self e u).of_ok hrun
    rcases (respond_open hjson (h.callerId_eq_nil e) self).of_ok hrun hok with hlogin | hopen
    · exact absurd hok (h.login_refused hgcm hkeyed hsound hanswer hlogin)
    · exact hopen

/-- The row of the admin is still there, so a start inserts none. -/
theorem LockedOut.find_ne_none (h : LockedOut w s u) {k : SqlText}
    (hfind : s.users.find k ≠ none) : u.users.find k ≠ none := by
  obtain ⟨row, hrow⟩ := Option.ne_none_iff_exists'.mp hfind
  obtain ⟨hmem, hkey⟩ := Table.find_eq_some.mp hrow
  obtain ⟨rows, hrows, -⟩ := h.users
  have hrow' : u.users.find k = some row :=
    Table.find_eq_some.mpr ⟨by rw [hrows]; exact List.mem_append_left rows hmem, hkey⟩
  rw [hrow']
  exact Option.some_ne_none row

/-- Every start with a wrong secret locks everybody out. -/
theorem lockedOut_of_restart (hsha : Function.Injective w.sha256Digest)
    (hkey : s.key = w.sha256Digest masterSecret)
    (husers : ∃ rows, u.users.rows = s.users.rows ++ rows ∧ ∀ row ∈ rows, ForeignRow w s.key row)
    (hfind : u.users.find (w.userKey (str "admin")) ≠ none) (hrtsp : u.rtspConfig = s.rtspConfig)
    (h : ForeignStep w masterSecret u .restart v) : LockedOut w s v := by
  cases h with
  | restart hother hinit =>
    have hsame := restart_users hfind hinit
    obtain ⟨_, m, -, rfl⟩ := Started.of_run hinit
    refine ⟨?_, rfl, ?_, hrtsp⟩
    · rw [hkey]
      exact hsha.ne hother
    · dsimp only at hsame
      rw [hsame]
      exact husers

/-- The events of a history that were answered with success. -/
def OnlyRegistrations (w : World) (h : List Label) : Prop :=
  ∀ x, Label.request x ∈ h → ∀ ev, Reports w x ev →
    ∃ userId password, ev = .register userId password

/-- The responses of a history that have the status 200, each by the handlers that were
registered for it. -/
def OnlyOpenAnswers (w : World) (h : List Label) : Prop :=
  ∀ x, Label.request x ∈ h → ∃ self v, x.published = responses w self v x.request ∧
    ∀ r ∈ x.published, r.statusCode = 200 → OpenAnswer w self x.request r

/-- Nobody gets in at any time, and every request finds it so. -/
theorem LockedOut.run (hjson : w.json.Documented) (hsha : Function.Injective w.sha256Digest)
    (hgcm : w.GcmDocumented) (hkeyed : w.GcmKeyed) (hs : Reachable w dbPath masterSecret s)
    (hadmin : s.users.find (w.userKey (str "admin")) ≠ none) {h : List Label}
    (hstart : LockedOut w s t) (hrun : Trace (ForeignStep w masterSecret) t h u) :
    LockedOut w s u ∧
      ∀ x, Label.request x ∈ h → ∃ v v', LockedOut w s v ∧ Served w v x v' := by
  obtain ⟨hkey, hsound⟩ := hs.tableSound hjson hsha
  induction hrun with
  | refl => exact ⟨hstart, by simp⟩
  | @step h u v l _ hl ih =>
    obtain ⟨hlocked, hserved⟩ := ih
    cases l with
    | request x =>
      cases hl with
      | request hx =>
        refine ⟨(hlocked.request hjson hgcm hkeyed hsound hx).1, fun y hy => ?_⟩
        rcases List.mem_cons.mp hy with heq | hy
        · cases heq
          exact ⟨u, v, hlocked, hx⟩
        · exact hserved y hy
    | restart =>
      refine ⟨lockedOut_of_restart hsha hkey hlocked.users
        (hlocked.find_ne_none hadmin) hlocked.rtspConfig hl, fun y hy => ?_⟩
      rcases List.mem_cons.mp hy with heq | hy
      · cases heq
      · exact hserved y hy

/-- Whatever is tried at a server with wrong master secrets, and whatever fails: no request is
treated as anyone's, nothing but registrations, files and registered handlers is answered with
200, now or before, no event but registrations happens, and the accounts and the camera stay as
they were. -/
theorem wrong_secret (hjson : w.json.Documented) (hsha : Function.Injective w.sha256Digest)
    (hgcm : w.GcmDocumented) (hkeyed : w.GcmKeyed) (hs : Reachable w dbPath masterSecret s)
    (hadmin : s.users.find (w.userKey (str "admin")) ≠ none) {h : List Label}
    (hstart : ForeignStep w masterSecret s .restart t)
    (hrun : Trace (ForeignStep w masterSecret) t h u) :
    (∀ e userId, ¬ Authenticated u e userId) ∧
      (∀ self e, ∀ r ∈ responses w self u e, r.statusCode = 200 → OpenAnswer w self e r) ∧
      OnlyOpenAnswers w h ∧ OnlyRegistrations w h ∧ LockedOut w s u := by
  obtain ⟨hkey, hsound⟩ := hs.tableSound hjson hsha
  have hlocked : LockedOut w s t :=
    lockedOut_of_restart hsha hkey ⟨[], by simp, by simp⟩ hadmin rfl hstart
  obtain ⟨hlocked', hserved⟩ := hlocked.run hjson hsha hgcm hkeyed hs hadmin hrun
  refine ⟨fun e userId hauth => ?_, fun self e r hr hok => ?_, fun x hx => ?_,
    fun x hx ev hev => ?_, hlocked'⟩
  · obtain ⟨hne, hcaller⟩ := hauth
    exact hne (hcaller.symm.trans (hlocked'.callerId_eq_nil e))
  · exact hlocked'.open_of_ok hjson hgcm hkeyed hsound hr hok
  · obtain ⟨v, v', hv, hx⟩ := hserved x hx
    obtain ⟨self, hx, -⟩ := hx.responses_eq
    have hpublished : x.published = responses w self v x.request := congrArg Exchange.published hx
    refine ⟨self, v, hpublished, fun r hr hok => ?_⟩
    rw [hpublished] at hr
    exact hv.open_of_ok hjson hgcm hkeyed hsound hr hok
  · obtain ⟨v, v', hv, hx⟩ := hserved x hx
    exact (hv.request hjson hgcm hkeyed hsound hx).2 ev hev

/-! ## The right secret again -/

/-- The new rows do not open, and the old ones are those that did. -/
theorem LockedOut.listedUsers (hgcm : w.GcmDocumented) (hkeyed : w.GcmKeyed)
    (h : LockedOut w s u) (husers : v.users = u.users) (hkey : v.key = s.key) :
    listedUsers w v = listedUsers w s := by
  obtain ⟨rows, hrows, hforeign⟩ := h.users
  have hnone : rows.filterMap (w.readRow s.key) = [] := by
    rw [List.filterMap_eq_nil_iff]
    intro row hrow
    rw [World.readRow, (hforeign row hrow).opened hgcm hkeyed]
    rfl
  rw [CCTVWebServer.listedUsers, husers, hkey, hrows, List.filterMap_append, hnone,
    List.append_nil]
  rfl

theorem LockedOut.fetched_iff (hgcm : w.GcmDocumented) (hkeyed : w.GcmKeyed)
    (h : LockedOut w s u) (husers : v.users = u.users) (hkey : v.key = s.key) (userId : Bytes)
    (user : UserRecord) :
    Fetched w v userId user ↔ Fetched w s userId user := by
  obtain ⟨rows, hrows, hforeign⟩ := h.users
  constructor
  · rintro ⟨row, openId, openName, hrow, hopenId, hopenName, rfl⟩
    rw [hkey] at hopenId hopenName
    rw [husers] at hrow
    obtain ⟨hmem, hrowKey⟩ := Table.find_eq_some.mp hrow
    rw [hrows] at hmem
    rcases List.mem_append.mp hmem with hold | hnew
    · exact ⟨row, openId, openName, Table.find_eq_some.mpr ⟨hold, hrowKey⟩, hopenId, hopenName, rfl⟩
    · rw [(hforeign row hnew).opened hgcm hkeyed] at hopenId
      cases hopenId
  · rintro ⟨row, openId, openName, hrow, hopenId, hopenName, rfl⟩
    obtain ⟨hmem, hrowKey⟩ := Table.find_eq_some.mp hrow
    have hrow' : v.users.find (w.userKey userId) = some row := by
      rw [husers]
      exact Table.find_eq_some.mpr ⟨by rw [hrows]; exact List.mem_append_left rows hmem, hrowKey⟩
    exact ⟨row, openId, openName, hrow', by rwa [hkey], by rwa [hkey], rfl⟩

/-- After any time with wrong master secrets, a start with the right one finds the same users
under the same names and passwords, lists the same, and has the same camera. -/
theorem right_secret_again (hjson : w.json.Documented) (hsha : Function.Injective w.sha256Digest)
    (hgcm : w.GcmDocumented) (hkeyed : w.GcmKeyed) (hs : Reachable w dbPath masterSecret s)
    (hadmin : s.users.find (w.userKey (str "admin")) ≠ none) {h : List Label}
    (hstart : ForeignStep w masterSecret s .restart t)
    (hrun : Trace (ForeignStep w masterSecret) t h u) {dbPath' : Bytes} {n : Nat}
    (hback : (init w (fun _ => ⟨u.users, u.rtspConfig⟩) dbPath' masterSecret).run
      (State.started n) = .ok () v) :
    listedUsers w v = listedUsers w s ∧
      (∀ userId user, Fetched w v userId user ↔ Fetched w s userId user) ∧
      latestConfig w v = latestConfig w s := by
  obtain ⟨hkey, -⟩ := hs.tableSound hjson hsha
  have hlocked : LockedOut w s t :=
    lockedOut_of_restart hsha hkey ⟨[], by simp, by simp⟩ hadmin rfl hstart
  obtain ⟨hlocked', -⟩ := hlocked.run hjson hsha hgcm hkeyed hs hadmin hrun
  have husers := restart_users (hlocked'.find_ne_none hadmin) hback
  obtain ⟨_, m, -, rfl⟩ := Started.of_run hback
  exact ⟨hlocked'.listedUsers hgcm hkeyed husers hkey.symm,
    hlocked'.fetched_iff hgcm hkeyed husers hkey.symm,
    SameConfig.latestConfig ⟨hlocked'.rtspConfig, hkey.symm⟩⟩

/-! ## A run -/

namespace Reference

/-- What is on record of a plaintext under a key. -/
def sealed (key iv plaintext : Bytes) : Option Sealing :=
  sealings.find? fun r => iv = List.replicate 12 r.iv ∧ key = r.key ∧ plaintext = r.plaintext

/-- The recorded answers of GCM, completed to a cipher that shows its key. -/
def keyedSeal (key iv plaintext : Bytes) : Bytes × Bytes :=
  match sealed key iv plaintext with
  | some r => (r.tag, mask r.keyStream plaintext)
  | none => (List.replicate 16 0, key ++ plaintext)

def keyedOpen (key iv authTag ciphertext : Bytes) : Option Bytes :=
  if authTag = List.replicate 16 0 then
    if key <+: ciphertext then some (ciphertext.drop key.length) else none
  else
    (sealings.find? fun r => iv = List.replicate 12 r.iv ∧ key = r.key ∧ authTag = r.tag ∧
      ciphertext = mask r.keyStream r.plaintext).map (·.plaintext)

def keyed : World := { world with gcmSeal := keyedSeal, gcmOpen := keyedOpen }

theorem sealed_spec {key iv plaintext : Bytes} {r : Sealing}
    (h : sealed key iv plaintext = some r) :
    r ∈ sealings ∧ iv = List.replicate 12 r.iv ∧ key = r.key ∧ plaintext = r.plaintext := by
  have hfound := List.find?_some h
  exact ⟨List.mem_of_find?_eq_some h, by simpa using hfound⟩

theorem tag_ne_zero : ∀ r ∈ sealings, r.tag ≠ List.replicate 16 0 := by decide +kernel

theorem tag_unique {r r' : Sealing} (hr : r ∈ sealings) (hr' : r' ∈ sealings)
    (h : r.tag = r'.tag) : r = r' := by
  have hnodup : (sealings.map (·.tag)).Nodup := by decide +kernel
  exact List.inj_on_of_nodup_map hnodup hr hr' h

theorem keyed_gcmKeyed : keyed.GcmKeyed := by
  intro key key' iv plaintext hkey hkey' hne
  change keyedOpen key' iv (keyedSeal key iv plaintext).1 (keyedSeal key iv plaintext).2 = none
  unfold keyedSeal
  cases hsealed : sealed key iv plaintext with
  | some r =>
    obtain ⟨hmem, rfl, rfl, -⟩ := sealed_spec hsealed
    rw [keyedOpen, if_neg (tag_ne_zero r hmem), Option.map_eq_none_iff, List.find?_eq_none]
    intro r' hmem' hfound
    simp only [decide_eq_true_eq] at hfound
    obtain rfl := tag_unique hmem hmem' hfound.2.2.1
    exact hne hfound.2.1
  | none =>
    have hother : ¬ key' <+: key ++ plaintext := by
      rintro ⟨rest, hrest⟩
      exact hne (List.append_inj_left hrest (hkey'.trans hkey.symm))
    simp [keyedOpen, hother]

theorem keyed_gcm_documented : keyed.GcmDocumented where
  tag_length key iv plaintext := by
    change (keyedSeal key iv plaintext).1.length = 16
    unfold keyedSeal
    cases hsealed : sealed key iv plaintext with
    | some r => exact length_recorded_tag r (sealed_spec hsealed).1
    | none => rfl
  open_seal key iv plaintext := by
    change keyedOpen key iv (keyedSeal key iv plaintext).1 (keyedSeal key iv plaintext).2 =
      some plaintext
    unfold keyedSeal
    cases hsealed : sealed key iv plaintext with
    | none => simp [keyedOpen]
    | some r =>
      obtain ⟨hmem, rfl, rfl, rfl⟩ := sealed_spec hsealed
      rw [keyedOpen, if_neg (tag_ne_zero r hmem), Option.map_eq_some_iff]
      cases hfound : sealings.find? _ with
      | none => exact absurd (List.find?_eq_none.mp hfound r hmem) (by simp)
      | some r' =>
        have hsame := List.find?_some hfound
        simp only [decide_eq_true_eq] at hsame
        obtain rfl := tag_unique hmem (List.mem_of_find?_eq_some hfound) hsame.2.2.1
        exact ⟨r, rfl, rfl⟩

/-- The admin has logged in. -/
def keyedAdmin : State := after keyed [loginAdmin]

/-- A start with a secret on the database of a state. -/
def startOn (s : State) (secret : Bytes) : Server Unit :=
  init keyed (fun _ => ⟨s.users, s.rtspConfig⟩) Reference.dbPath secret

/-- The server has been started with another secret. -/
def foreign : State := finalState (startOn keyedAdmin otherSecret) (State.started 0)

/-- The admin has tried to log in there. -/
def tried : State := finalState (dispatch keyed record .controller loginAdmin) foreign

/-- The server has been started with the right secret again. -/
def restored : State := finalState (startOn tried Reference.masterSecret) (State.started 0)

theorem keyedAdmin_reachable : Reachable keyed Reference.dbPath Reference.masterSecret keyedAdmin :=
  after_reachable json_documented ⟨0, rfl⟩ [loginAdmin]

theorem foreign_started :
    ForeignStep keyed Reference.masterSecret keyedAdmin .restart foreign :=
  .restart (by decide) (run_of_completes (by decide +kernel))

theorem tried_run :
    Trace (ForeignStep keyed Reference.masterSecret) foreign
      [.request ⟨loginAdmin, responses keyed .controller foreign loginAdmin⟩] tried :=
  .step .refl (.request (served_dispatch json_documented .controller _ _))

end Reference

theorem wrong_secret_reference :
    (∀ e userId, ¬ Authenticated Reference.tried e userId) ∧
      (∀ self e, ∀ r ∈ responses Reference.keyed self Reference.tried e, r.statusCode = 200 →
        OpenAnswer Reference.keyed self e r) ∧
      OnlyOpenAnswers Reference.keyed [.request ⟨Reference.loginAdmin,
        responses Reference.keyed .controller Reference.foreign Reference.loginAdmin⟩] ∧
      OnlyRegistrations Reference.keyed [.request ⟨Reference.loginAdmin,
        responses Reference.keyed .controller Reference.foreign Reference.loginAdmin⟩] ∧
      LockedOut Reference.keyed Reference.keyedAdmin Reference.tried :=
  wrong_secret Reference.json_documented (Equiv.injective _) Reference.keyed_gcm_documented
    Reference.keyed_gcmKeyed Reference.keyedAdmin_reachable (by decide +kernel)
    Reference.foreign_started Reference.tried_run

theorem right_secret_again_reference :
    let w := Reference.keyed
    listedUsers w Reference.restored = listedUsers w Reference.keyedAdmin ∧
      (∀ userId user, Fetched w Reference.restored userId user ↔
        Fetched w Reference.keyedAdmin userId user) ∧
      latestConfig w Reference.restored = latestConfig w Reference.keyedAdmin :=
  right_secret_again Reference.json_documented (Equiv.injective _) Reference.keyed_gcm_documented
    Reference.keyed_gcmKeyed Reference.keyedAdmin_reachable (by decide +kernel)
    Reference.foreign_started Reference.tried_run (run_of_completes (by decide +kernel))

end CCTVWebServer
