import CCTVWebServer.Reference
import CCTVWebServer.Specification.Accounts

/-!
# What becomes of an account

Evictions are final, the admin cannot be lost, and whether a login succeeds can be
told from the history of requests.
-/

namespace CCTVWebServer

open Foundation

variable {w : World} {s t u : State} {x : Exchange} {dbPath masterSecret userId : Bytes}

/-! ## Eviction -/

/-- Nobody logs in as an evicted user, and nobody registers the id again. -/
theorem Served.refused_of_evicted (hjson : w.json.Documented)
    (hsha : Function.Injective w.sha256Digest) (hx : Served w s x t) {row : UserRow}
    (hrow : s.users.find (w.userKey userId) = some row) (hevicted : row.isActive = 0)
    (hid : field w x.request "id" = some userId) (hok : x.Ok) :
    ¬ Post x.request "/api/login" ∧ ¬ Post x.request "/api/register" := by
  constructor
  · intro post
    obtain ⟨password, -, a, ha, -, hactive, -⟩ := hx.canLogin hjson hsha hok post hid
    have haccount : row.account = a := by
      simpa [State.registry, hrow] using ha
    rw [← haccount] at hactive
    simp [UserRow.account, hevicted] at hactive
  · intro post
    have hfree := hx.find_of_register hjson hok post hid
    rw [hrow] at hfree
    cases hfree

/-- No row is ever removed, reactivated, unapproved or given another role. An evicted user
keeps the row, without a session, a login or a new registration. -/
theorem eviction_final (hjson : w.json.Documented) (hsha : Function.Injective w.sha256Digest)
    (hs : Reachable w dbPath masterSecret s) {h : List Label}
    (hrun : Trace (Transition w dbPath masterSecret) s h t) :
    RowsKept s.users t.users ∧
    ∀ userId row, s.users.find (w.userKey userId) = some row → row.isActive = 0 →
      (∃ row', t.users.find (w.userKey userId) = some row' ∧ row'.isActive = 0) ∧
      (∀ x, .request x ∈ h → field w x.request "id" = some userId → x.Ok →
        ¬ Post x.request "/api/login" ∧ ¬ Post x.request "/api/register") ∧
      ∀ token, t.activeSessions.lookup token ≠ some userId := by
  have hkept := run_rowsKept hjson hrun
  refine ⟨hkept, fun userId row hrow hevicted => ⟨hkept.inactive hrow hevicted, ?_, ?_⟩⟩
  · intro x hx hid hok
    obtain ⟨later, earlier, rfl⟩ := List.append_of_mem hx
    obtain ⟨u, v, hearlier, hstep, -⟩ := hrun.split
    obtain ⟨row', hrow', hevicted'⟩ := (run_rowsKept hjson hearlier).inactive hrow hevicted
    cases hstep with
    | request hserved => exact hserved.refused_of_evicted hjson hsha hrow' hevicted' hid hok
  · intro token hsession
    obtain ⟨row', hrow', hevicted'⟩ := hkept.inactive hrow hevicted
    obtain ⟨row'', hrow'', -, -, hactive⟩ := (hs.trans hrun).session_user hjson hsha hsession
    cases hrow'.symm.trans hrow''
    omega

/-- Bob has been evicted, and tries to log in. -/
theorem eviction_final_reference :
    let t := Reference.serve Reference.evicted Reference.loginBob
    let h := [Label.request (Reference.exchange Reference.evicted Reference.loginBob)]
    (∃ row, t.users.find (Reference.world.userKey (str "bob")) = some row ∧ row.isActive = 0) ∧
    (∀ x, .request x ∈ h → field Reference.world x.request "id" = some (str "bob") → x.Ok →
      ¬ Post x.request "/api/login" ∧ ¬ Post x.request "/api/register") ∧
    ∀ token, t.activeSessions.lookup token ≠ some (str "bob") := by
  obtain ⟨row, hrow, hevicted⟩ := Reference.evicted_bob
  have hfinal := eviction_final Reference.json_documented Reference.sha256_injective
    Reference.evicted_reachable (.step .refl (.request (Reference.served _ Reference.loginBob)))
  exact hfinal.2 _ row hrow hevicted

/-! ## The admin -/

/-- There is always one row with the role of an admin: that of the bootstrapped account,
approved and active. -/
theorem admin_unique (hjson : w.json.Documented) (hsha : Function.Injective w.sha256Digest)
    (hgcm : w.GcmDocumented) (hsqlite : ¬ SqliteFails w) (h : Reachable w dbPath masterSecret t) :
    ∃ row ∈ t.users.rows, (∀ row' ∈ t.users.rows, row'.role.val = str "admin" ↔ row' = row) ∧
      row.userIdHash.val = w.sha256Hex (str "admin") ∧
      w.opened t.key row.userIdEnc.val = some (str "admin") ∧
      row.isApproved = 1 ∧ row.isActive = 1 := by
  have hsound := (h.tableSound hjson hsha).2
  obtain ⟨s, _, hfresh, hrun⟩ := h
  obtain ⟨old, hold, hinsert, -⟩ := hfresh.users hsqlite
  have hstart : s.users.find (w.userKey (str "admin")) = some old := by
    rw [Table.find_insert hinsert, if_pos hold.userIdHash.symm]
  obtain ⟨row, hrow, hkept⟩ := run_rowsKept hjson hrun _ old hstart
  have hrole : row.role.val = str "admin" := by rw [hkept.role, hold.role]
  have hadmin := hsound.of_find hsha hrow
  obtain ⟨-, happroved, hactive⟩ := hadmin.admin hrole
  refine ⟨row, (Table.find_eq_some.mp hrow).1, fun row' hmem => ⟨fun hrole' => ?_, ?_⟩, ?_⟩
  · -- Both rows are stored under the key of the admin.
    obtain ⟨userId, hsound'⟩ := hsound row' hmem
    have hfind := Table.find_key hmem
    rw [hsound'.userIdHash, (hsound'.admin hrole').1, hrow] at hfind
    exact (Option.some.inj hfind).symm
  · rintro rfl
    exact hrole
  · refine ⟨?_, opened_of_seals hgcm hadmin.userIdEnc, happroved, hactive⟩
    rw [hadmin.userIdHash]
    exact bindText_val (not_mem_sha256Hex w _)

theorem admin_unique_reference :
    ∃ row ∈ Reference.evicted.users.rows,
      (∀ row' ∈ Reference.evicted.users.rows, row'.role.val = str "admin" ↔ row' = row) ∧
      row.userIdHash.val = Reference.world.sha256Hex (str "admin") ∧
      Reference.world.opened Reference.evicted.key row.userIdEnc.val = some (str "admin") ∧
      row.isApproved = 1 ∧ row.isActive = 1 :=
  admin_unique Reference.json_documented Reference.sha256_injective Reference.gcm_documented
    Reference.sqlite_ok Reference.evicted_reachable

/-! ## Login -/

/-- The account there is from the start, with its password. -/
def bootstrapped (userId : Bytes) : Option Bytes :=
  if userId = str "admin" then some (str "admin") else none

theorem bootstrapped_ne_none : bootstrapped userId ≠ none ↔ userId = str "admin" := by
  simp [bootstrapped]

theorem Fresh.seeded (hsha : Function.Injective w.sha256Digest) (hsqlite : ¬ SqliteFails w)
    (h : Fresh w dbPath masterSecret s) :
    Registry.Seeded w.verifier bootstrapped (s.registry w) := by
  obtain ⟨row, hrow, hinsert, hempty⟩ := h.users hsqlite
  have haccount : row.account = ⟨w.verifier (str "admin") (str "admin"), true, true⟩ := by
    simp [UserRow.account, World.verifier, hrow.passwordHash, hrow.isApproved, hrow.isActive]
  constructor
  · intro userId
    simp only [State.registry, Table.find_insert hinsert, hrow.userIdHash, World.userKey_inj hsha,
      Table.find_empty, bootstrapped]
    split_ifs with huser
    · subst huser
      exact congrArg some haccount
    · rfl
  · intro token
    simp only [State.registry, hempty]
    rfl

/-- Without failures, a login is answered 200 exactly when the account service allows it. -/
theorem Served.login_ok_iff (hjson : w.json.Documented) (hsha : Function.Injective w.sha256Digest)
    (hgcm : w.GcmDocumented) (hsqlite : ¬ SqliteFails w) (hopenssl : ¬ OpensslFails w)
    (ht : Reachable w dbPath masterSecret t) (hx : Served w t x u)
    (post : Post x.request "/api/login") {password : Bytes}
    (hid : field w x.request "id" = some userId)
    (hpassword : field w x.request "password" = some password) :
    x.Ok ↔ (t.registry w).CanLogin w.verifier userId password := by
  constructor
  · intro hok
    obtain ⟨password', hpassword', hcan⟩ := hx.canLogin hjson hsha hok post hid
    cases hpassword.symm.trans hpassword'
    exact hcan
  · rintro ⟨a, ha, happroved, hactive, hverifier⟩
    obtain ⟨row, hrow, rfl⟩ := Option.map_eq_some_iff.mp ha
    obtain ⟨username, hfetched⟩ := ht.fetched hjson hsha hgcm hrow
    simp only [UserRow.account, decide_eq_true_eq] at happroved hactive
    exact hx.login_ok hjson hsqlite hopenssl post hid hpassword hfetched hactive happroved hverifier

/-- Whether a login is answered 200, from the history alone: the account has been registered,
approved after that and not evicted since, and the password is as good as the last one set. -/
theorem login_ok_iff_history (hjson : w.json.Documented) (hsha : Function.Injective w.sha256Digest)
    (hgcm : w.GcmDocumented) (hsqlite : ¬ SqliteFails w) (hopenssl : ¬ OpensslFails w)
    (hs : Fresh w dbPath masterSecret s) {h : List Exchange}
    (hrun : Trace (ServedFresh w) s h t) (hx : Served w t x u)
    (post : Post x.request "/api/login") {password : Bytes}
    (hid : field w x.request "id" = some userId)
    (hpassword : field w x.request "password" = some password) :
    x.Ok ↔ ∃ later, Registry.AfterRegistration bootstrapped userId (events w h) later ∧
      (userId = str "admin" ∨ .approve userId ∈ later) ∧ .evict userId ∉ later ∧
      ∃ last, Registry.LastSecret bootstrapped userId (events w h) last ∧
        w.pbkdf2 password userId = w.pbkdf2 last userId := by
  have hreachable : Reachable w dbPath masterSecret s := ⟨s, [], hs, .refl⟩
  have ht := hreachable.of_served (served_of_fresh hrun)
  rw [hx.login_ok_iff hjson hsha hgcm hsqlite hopenssl ht post hid hpassword,
    Registry.canLogin_iff (freshStep_run hjson hsha hrun) (hs.seeded hsha hsqlite)]
  simp only [bootstrapped_ne_none, World.verifier, World.passwordHash, toHex_injective.eq_iff]

/-- Bob has registered, and tries to log in. -/
theorem login_ok_iff_history_reference :
    let h := [Reference.exchange Reference.start Reference.registerBob]
    (Reference.exchange Reference.registered Reference.loginBob).Ok ↔
      ∃ later,
        Registry.AfterRegistration bootstrapped (str "bob") (events Reference.world h) later ∧
        (str "bob" = str "admin" ∨ .approve (str "bob") ∈ later) ∧ .evict (str "bob") ∉ later ∧
        ∃ last, Registry.LastSecret bootstrapped (str "bob") (events Reference.world h) last ∧
          Reference.world.pbkdf2 (str "pw") (str "bob") =
            Reference.world.pbkdf2 last (str "bob") :=
  login_ok_iff_history Reference.json_documented Reference.sha256_injective
    Reference.gcm_documented Reference.sqlite_ok Reference.openssl_ok Reference.start_fresh
    (.step .refl ⟨Reference.served _ _, fun _ _ _ _ => rfl⟩) (Reference.served _ _) ⟨rfl, rfl⟩
    rfl rfl

end CCTVWebServer
