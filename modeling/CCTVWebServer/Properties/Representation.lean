import CCTVWebServer.Reference
import CCTVWebServer.Specification.Names
import CCTVWebServer.Specification.Success

/-!
# The encrypted users table

The identity of a user is stored twice, as a key and as a ciphertext, and read
back by a lookup and by a listing. After any run the two agree with each other and
with what was stored.
-/

namespace CCTVWebServer

open Foundation

variable {w : World} {s t : State} {dbPath masterSecret userId : Bytes}

/-! ## Single rows -/

/-- The two ciphertexts of a row open, and its key is the digest of the id in it. -/
def Represents (w : World) (key : Bytes) (row : UserRow) : Prop :=
  ∃ userId username, w.opened key row.userIdEnc.val = some userId ∧
    w.opened key row.usernameEnc.val = some username ∧
    row.userIdHash.val = w.sha256Hex userId

theorem RowSound.represents (hgcm : w.GcmDocumented) {key : Bytes} {row : UserRow}
    (h : RowSound w key userId row) : Represents w key row := by
  obtain ⟨username, hname⟩ := h.usernameEnc
  refine ⟨userId, username, opened_of_seals hgcm h.userIdEnc, opened_of_seals hgcm hname, ?_⟩
  rw [h.userIdHash]
  exact bindText_val (not_mem_sha256Hex w userId)

/-- A sound row is listed, under the id whose key it has. -/
theorem RowSound.readRow (hgcm : w.GcmDocumented) {key : Bytes} {row : UserRow}
    (h : RowSound w key userId row) :
    ∃ user, w.readRow key row = some user ∧ user.userId = userId := by
  obtain ⟨username, hname⟩ := h.usernameEnc
  refine ⟨row.record userId username, ?_, rfl⟩
  simp [World.readRow, opened_of_seals hgcm h.userIdEnc, opened_of_seals hgcm hname]

/-- The keys of the listed users are the keys of the table, in its order. -/
theorem map_userKey_listed (hgcm : w.GcmDocumented) {key : Bytes} {rows : List UserRow}
    (hsound : ∀ row ∈ rows, ∃ userId, RowSound w key userId row) :
    (rows.filterMap (w.readRow key)).map (fun user => w.userKey user.userId) =
      rows.map UserRow.userIdHash := by
  induction rows with
  | nil => rfl
  | cons row rows ih =>
    obtain ⟨userId, hrow⟩ := hsound row (by simp)
    obtain ⟨user, hread, rfl⟩ := hrow.readRow hgcm
    rw [List.filterMap_cons_some hread, List.map_cons, List.map_cons, hrow.userIdHash,
      ih fun row' hrow' => hsound row' (List.mem_cons_of_mem row hrow')]

/-! ## The lookup and the listing -/

/-- The listing, when no call fails. -/
def listedUsers (w : World) (s : State) : List UserRecord :=
  s.users.rows.filterMap (w.readRow s.key)

theorem getAllUsers_reliable (w : World) (s : State) :
    ∃ u, (getAllUsers w.reliable).run s = .ok (listedUsers w s) u := by
  have hspec := getAllUsers_spec (w := w.reliable) s
  cases hrun : (getAllUsers w.reliable).run s with
  | ok users u =>
    have husers := (hspec.of_ok hrun).2 (not_sqliteFails_reliable w) (not_opensslFails_reliable w)
    rw [husers]
    exact ⟨u, rfl⟩
  | error fault u => exact (hspec.of_error hrun).elim

/-- What the lookup finds it returns, whatever the record it is given holds. -/
theorem getUser_reliable {user : UserRecord} (h : Fetched w s userId user)
    (outUser : UserRecord) :
    ∃ u, (getUser w.reliable userId outUser).run s = .ok (true, user) u := by
  have hspec := getUser_spec (w := w.reliable) userId outUser s
  cases hrun : (getUser w.reliable userId outUser).run s with
  | ok result u =>
    obtain ⟨found, user'⟩ := result
    obtain ⟨-, ⟨hfound, huser⟩ | ⟨-, -, hwhy⟩⟩ := hspec.of_ok hrun
    · dsimp only at hfound huser
      rw [hfound, h.unique huser]
      exact ⟨u, rfl⟩
    · rcases hwhy with hwhy | hwhy | hwhy
      · exact absurd hwhy (not_sqliteFails_reliable w)
      · exact absurd hwhy (not_opensslFails_reliable w)
      · exact absurd ⟨user, h⟩ hwhy
  | error fault u =>
    exact absurd (hspec.of_error hrun).2 (not_raised (not_opensslFails_reliable w))

theorem TableSound.listed_nodup (hgcm : w.GcmDocumented) (h : TableSound w s.key s.users) :
    ((listedUsers w s).map UserRecord.userId).Nodup := by
  have hkeys := s.users.distinct
  rw [← map_userKey_listed hgcm h] at hkeys
  refine List.Nodup.of_map w.userKey ?_
  rwa [List.map_map]

/-- The listing shows the users that have a row. -/
theorem TableSound.mem_listed (hsha : Function.Injective w.sha256Digest) (hgcm : w.GcmDocumented)
    (h : TableSound w s.key s.users) (userId : Bytes) :
    userId ∈ (listedUsers w s).map UserRecord.userId ↔
      s.users.find (w.userKey userId) ≠ none := by
  have hkey : userId ∈ (listedUsers w s).map UserRecord.userId ↔
      w.userKey userId ∈ s.users.rows.map UserRow.userIdHash := by
    rw [← map_userKey_listed hgcm h]
    simp [listedUsers, World.userKey_inj hsha]
  rw [hkey, Ne, Table.find_eq_none]
  simp

/-- A listed user reads as the lookup finds it. -/
theorem TableSound.fetched_of_listed (hgcm : w.GcmDocumented) (h : TableSound w s.key s.users)
    {user : UserRecord} (huser : user ∈ listedUsers w s) : Fetched w s user.userId user := by
  obtain ⟨row, hmem, hread⟩ := List.mem_filterMap.mp huser
  obtain ⟨userId, hrow⟩ := h row hmem
  obtain ⟨user', hread', rfl⟩ := hrow.readRow hgcm
  cases hread.symm.trans hread'
  simp only [World.readRow, Option.bind_eq_some_iff, Option.map_eq_some_iff] at hread
  obtain ⟨openId, hid, openName, hname, hrecord⟩ := hread
  refine ⟨row, openId, openName, ?_, hid, hname, hrecord.symm⟩
  rw [← hrow.userIdHash]
  exact Table.find_key hmem

/-! ## Runs -/

/-- The ghost of a run that starts on a new file matches the table. -/
theorem namedRun_namesMatch (hjson : w.json.Documented) (hsha : Function.Injective w.sha256Digest)
    (hsqlite : ¬ SqliteFails w) (hs : Fresh w dbPath masterSecret s) {h : List Label}
    {q : State × Names}
    (hrun : Trace (NamedStep w dbPath masterSecret) (s, bootstrappedNames) h q) :
    NamesMatch w q.1 q.2 ∧ q.1.users.find (w.userKey (str "admin")) ≠ none := by
  obtain ⟨row, hrow, hinsert, -⟩ := hs.users hsqlite
  have hfind (userId : Bytes) : s.users.find (w.userKey userId) =
      if userId = str "admin" then some row else none := by
    simp only [Table.find_insert hinsert, hrow.userIdHash, World.userKey_inj hsha,
      Table.find_empty]
  induction hrun with
  | refl =>
    refine ⟨fun userId => ?_, by simp [hfind]⟩
    simp only [hfind, bootstrappedNames]
    split_ifs with huser
    · refine ⟨by simp, ?_⟩
      rintro _ ⟨⟩
      refine ⟨row, rfl, ?_⟩
      rw [hs.tableSound.1]
      exact hrow.usernameEnc
    · simp
  | @step h p q l hprefix hstep ih =>
    have hreachable : Reachable w dbPath masterSecret p.1 :=
      ⟨s, h, hs, transition_of_named hprefix⟩
    refine ⟨hstep.namesMatch hjson hsha hreachable ih.2 ih.1, ?_⟩
    obtain ⟨row', hrow'⟩ := Option.ne_none_iff_exists'.mp ih.2
    obtain ⟨row'', hrow'', -⟩ := hstep.1.rowsKept hjson _ row' hrow'
    simp [hrow'']

/-- A start on a table with an admin leaves the table alone. -/
theorem restart_users (hadmin : s.users.find (w.userKey (str "admin")) ≠ none) {n : Nat}
    (h : (init w (fun _ => ⟨s.users, s.rtspConfig⟩) dbPath masterSecret).run (State.started n) =
      .ok () t) : t.users = s.users := by
  obtain ⟨users, m, ⟨row, hrow, hinsert⟩ | ⟨rfl, -⟩, rfl⟩ := Started.of_run h
  · have hfree := Table.find_of_insert hinsert
    rw [hrow.userIdHash] at hfree
    exact absurd hfree hadmin
  · rfl

/-- After any requests and restarts every row opens to the id whose digest is its key. The
lookup returns a registered user under the last username stored for it, the listing shows
every registered user once and as the lookup does, and a restart changes no row. -/
theorem representation (hjson : w.json.Documented) (hsha : Function.Injective w.sha256Digest)
    (hgcm : w.GcmDocumented) (hsqlite : ¬ SqliteFails w) (hs : Fresh w dbPath masterSecret s)
    {h : List Label} {names : Names}
    (hrun : Trace (NamedStep w dbPath masterSecret) (s, bootstrappedNames) h (t, names)) :
    (∀ row ∈ t.users.rows, Represents w t.key row) ∧
    (t.users.rows.map UserRow.userIdHash).Nodup ∧
    (∀ userId username, names userId = some username → ∀ outUser, ∃ user u,
      (getUser w.reliable userId outUser).run t = .ok (true, user) u ∧
        user.userId = userId ∧ user.username = username) ∧
    (∃ users u, (getAllUsers w.reliable).run t = .ok users u ∧
      (users.map UserRecord.userId).Nodup ∧
      (∀ userId, userId ∈ users.map UserRecord.userId ↔ names userId ≠ none) ∧
      ∀ user ∈ users, ∀ outUser, ∃ u,
        (getUser w.reliable user.userId outUser).run t = .ok (true, user) u) ∧
    ∀ n u, (init w (fun _ => ⟨t.users, t.rtspConfig⟩) dbPath masterSecret).run (State.started n) =
      .ok () u → u.users = t.users := by
  have hreachable : Reachable w dbPath masterSecret t := ⟨s, h, hs, transition_of_named hrun⟩
  obtain ⟨hnames, hadmin⟩ := namedRun_namesMatch hjson hsha hsqlite hs hrun
  have hsound := (hreachable.tableSound hjson hsha).2
  obtain ⟨u, hlisted⟩ := getAllUsers_reliable w t
  refine ⟨fun row hrow => ?_, t.users.distinct, fun userId username hname outUser => ?_,
    ⟨_, u, hlisted, hsound.listed_nodup hgcm, fun userId => ?_, fun user huser => ?_⟩,
    fun n u => restart_users hadmin⟩
  · obtain ⟨userId, hrow⟩ := hsound row hrow
    exact hrow.represents hgcm
  · obtain ⟨row, hrow, hseals⟩ := (hnames userId).2 username hname
    have hfetched : Fetched w t userId (row.record userId username) :=
      ⟨row, userId, username, hrow, opened_of_seals hgcm (hsound.of_find hsha hrow).userIdEnc,
        opened_of_seals hgcm hseals, rfl⟩
    obtain ⟨u, hget⟩ := getUser_reliable hfetched outUser
    exact ⟨_, u, hget, rfl, rfl⟩
  · rw [hsound.mem_listed hsha hgcm]
    refine not_congr ⟨fun hnone => ?_, (hnames userId).1⟩
    by_contra hsome
    obtain ⟨username, hname⟩ := Option.ne_none_iff_exists'.mp hsome
    obtain ⟨row, hrow, -⟩ := (hnames userId).2 username hname
    exact absurd (hrow.symm.trans hnone) (by simp)
  · exact getUser_reliable (hsound.fetched_of_listed hgcm huser)

/-- Bob has registered, and is found and listed. -/
theorem representation_reference :
    let t := Reference.registered
    (∀ row ∈ t.users.rows, Represents Reference.world t.key row) ∧
    (∃ user u, (getUser Reference.world.reliable (str "bob") UserRecord.declared).run t =
      .ok (true, user) u ∧ user.userId = str "bob" ∧ user.username = str "Bob") ∧
    ∃ users u, (getAllUsers Reference.world.reliable).run t = .ok users u ∧
      str "bob" ∈ users.map UserRecord.userId := by
  have hstatus : (responses Reference.world .controller Reference.start
      Reference.registerBob).map HttpResponseEvent.statusCode = [200] := by decide +kernel
  obtain ⟨r, hr, hok⟩ := List.map_eq_singleton_iff.mp hstatus
  have hstores : StoresName Reference.world Reference.start
      (Reference.exchange Reference.start Reference.registerBob) (str "bob") (str "Bob") :=
    .register ⟨rfl, rfl⟩ rfl rfl ⟨r, hr, hok⟩
  have hrun : Trace (NamedStep Reference.world Reference.dbPath Reference.masterSecret)
      (Reference.start, bootstrappedNames)
      [.request (Reference.exchange Reference.start Reference.registerBob)]
      (Reference.registered, Function.update bootstrappedNames (str "bob") (some (str "Bob"))) :=
    .step .refl ⟨.request (Reference.served _ Reference.registerBob), .stored hstores⟩
  obtain ⟨hrows, -, hget, ⟨users, u, hall, -, hlisted, -⟩, -⟩ :=
    representation Reference.json_documented Reference.sha256_injective
      Reference.gcm_documented Reference.sqlite_ok Reference.start_fresh hrun
  exact ⟨hrows, hget _ _ (Function.update_self ..) _, users, u, hall, (hlisted _).mpr (by simp)⟩

end CCTVWebServer
