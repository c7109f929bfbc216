import CCTVWebServer.Specification.Runs

/-!
# The users table along a run

A row that is in the table stays there, and only in one direction do its flags
change. A property of rows that insertions establish and updates keep holds of
every row in every reachable state.
-/

namespace CCTVWebServer

open Foundation

variable {w : World} {s t : State} {e : HttpRequestEvent} {dbPath masterSecret : Bytes}

/-! ## What happens to a row -/

/-- What may have happened to a row since: an approval, an eviction, a new profile. -/
structure RowKept (old new : UserRow) : Prop where
  role : new.role = old.role
  isApproved : new.isApproved = old.isApproved ∨ new.isApproved = 1
  isActive : new.isActive = old.isActive ∨ new.isActive = 0

theorem RowKept.refl (row : UserRow) : RowKept row row := ⟨rfl, .inl rfl, .inl rfl⟩

theorem RowKept.trans {a b c : UserRow} (hab : RowKept a b) (hbc : RowKept b c) : RowKept a c where
  role := hbc.role.trans hab.role
  isApproved := by
    rcases hbc.isApproved with h | h
    · exact hab.isApproved.imp h.trans h.trans
    · exact .inr h
  isActive := by
    rcases hbc.isActive with h | h
    · exact hab.isActive.imp h.trans h.trans
    · exact .inr h

/-- Every row is still there. -/
def RowsKept (old new : UsersTable) : Prop :=
  ∀ k row, old.find k = some row → ∃ row', new.find k = some row' ∧ RowKept row row'

theorem RowsKept.refl (users : UsersTable) : RowsKept users users :=
  fun _ row h => ⟨row, h, RowKept.refl row⟩

theorem RowsKept.trans {a b c : UsersTable} (hab : RowsKept a b) (hbc : RowsKept b c) :
    RowsKept a c := by
  intro k row h
  obtain ⟨row', h', hkept⟩ := hab k row h
  obtain ⟨row'', h'', hkept'⟩ := hbc k row' h'
  exact ⟨row'', h'', hkept.trans hkept'⟩

/-- An evicted user stays evicted. -/
theorem RowsKept.inactive {old new : UsersTable} (h : RowsKept old new) {k : SqlText}
    {row : UserRow} (hrow : old.find k = some row) (hevicted : row.isActive = 0) :
    ∃ row', new.find k = some row' ∧ row'.isActive = 0 := by
  obtain ⟨row', hrow', hkept⟩ := h k row hrow
  refine ⟨row', hrow', ?_⟩
  rcases hkept.isActive with hactive | hactive
  · exact hactive.trans hevicted
  · exact hactive

theorem rowsKept_insert {users users' : UsersTable} {row : UserRow}
    (h : users.insert row = some users') : RowsKept users users' := by
  intro k old hold
  refine ⟨old, ?_, RowKept.refl old⟩
  rw [Table.find_insert h, if_neg, hold]
  rintro rfl
  rw [Table.find_of_insert h] at hold
  cases hold

theorem rowsKept_update {users : UsersTable} {k : SqlText} {f : UserRow → UserRow}
    (hf : ∀ row, (f row).userIdHash = row.userIdHash) (hkept : ∀ row, RowKept row (f row)) :
    RowsKept users (users.update k f hf) := by
  intro k' row h
  rw [Table.find_update, h]
  split_ifs
  · exact ⟨f row, rfl, hkept row⟩
  · exact ⟨row, rfl, RowKept.refl row⟩

theorem effect_rowsKept (eff : Effect) : RowsKept s.users (eff.apply w s).users := by
  cases eff with
  | register row =>
    cases h : s.users.insert row with
    | none => simpa [Effect.apply, h] using RowsKept.refl s.users
    | some users => simpa [Effect.apply, h] using rowsKept_insert h
  | updateProfile _ usernameEnc passwordHash =>
    exact rowsKept_update (UserRow.userIdHash_updateProfile usernameEnc passwordHash) fun row =>
      ⟨rfl, .inl rfl, .inl rfl⟩
  | approve => exact rowsKept_update UserRow.userIdHash_approve fun row => ⟨rfl, .inr rfl, .inl rfl⟩
  | evict => exact rowsKept_update UserRow.userIdHash_evict fun row => ⟨rfl, .inl rfl, .inr rfl⟩
  | _ => exact RowsKept.refl s.users

theorem Bootstrapped.rowsKept {key : Bytes} {old new : UsersTable}
    (h : Bootstrapped w key old new) : RowsKept old new := by
  rcases h with ⟨row, -, hinsert⟩ | ⟨rfl, -⟩
  · exact rowsKept_insert hinsert
  · exact RowsKept.refl new

theorem Started.of_run {stored : Bytes → DatabaseFile} {n : Nat}
    (h : (init w stored dbPath masterSecret).run (State.started n) = .ok () t) :
    Started w (stored dbPath) dbPath masterSecret t :=
  (init_spec stored dbPath masterSecret n).of_ok h

theorem Served.rowsKept (hjson : w.json.Documented) {x : Exchange} (h : Served w s x t) :
    RowsKept s.users t.users := by
  obtain ⟨eff, r, ⟨n, p, rfl⟩, -⟩ := h.effect hjson
  exact effect_rowsKept eff

theorem Transition.rowsKept (hjson : w.json.Documented) {l : Label}
    (h : Transition w dbPath masterSecret s l t) : RowsKept s.users t.users := by
  cases h with
  | request h => exact h.rowsKept hjson
  | restart h =>
    obtain ⟨users, n, hboot, rfl⟩ := Started.of_run h
    exact hboot.rowsKept

/-- Along a run no row is removed or reactivated, no approval is taken back and no role
changes. -/
theorem run_rowsKept (hjson : w.json.Documented) {h : List Label}
    (hrun : Trace (Transition w dbPath masterSecret) s h t) : RowsKept s.users t.users := by
  induction hrun with
  | refl => exact RowsKept.refl _
  | step _ hl ih => exact ih.trans (hl.rowsKept hjson)

/-! ## What holds of every row -/

/-- The row of a user as some registration wrote it, up to approval, eviction and a new
profile; the admin is neither pending nor evicted. -/
structure RowSound (w : World) (key userId : Bytes) (row : UserRow) : Prop where
  userId_ne_nil : userId ≠ []
  userIdHash : row.userIdHash = w.userKey userId
  userIdEnc : w.Seals key userId row.userIdEnc.val
  usernameEnc : ∃ username, w.Seals key username row.usernameEnc.val
  isApproved : row.isApproved = 0 ∨ row.isApproved = 1
  isActive : row.isActive = 0 ∨ row.isActive = 1
  admin : row.role.val = str "admin" →
    userId = str "admin" ∧ row.isApproved = 1 ∧ row.isActive = 1

def TableSound (w : World) (key : Bytes) (users : UsersTable) : Prop :=
  ∀ row ∈ users.rows, ∃ userId, RowSound w key userId row

theorem AdminRow.sound {key : Bytes} {row : UserRow} (h : AdminRow w key row) :
    RowSound w key (str "admin") row where
  userId_ne_nil := by decide
  userIdHash := h.userIdHash
  userIdEnc := h.userIdEnc
  usernameEnc := ⟨_, h.usernameEnc⟩
  isApproved := .inr h.isApproved
  isActive := .inr h.isActive
  admin _ := ⟨rfl, h.isApproved, h.isActive⟩

theorem RegisteredRow.sound {key userId username password : Bytes} {row : UserRow}
    (h : RegisteredRow w key userId username password row) (hne : userId ≠ []) :
    RowSound w key userId row where
  userId_ne_nil := hne
  userIdHash := h.userIdHash
  userIdEnc := h.userIdEnc
  usernameEnc := ⟨_, h.usernameEnc⟩
  isApproved := .inl h.isApproved
  isActive := .inr h.isActive
  admin hrole := by
    have hsame : str "user" = str "admin" := h.role.symm.trans hrole
    exact absurd hsame (by decide)

theorem tableSound_insert {key userId : Bytes} {row : UserRow} {users users' : UsersTable}
    (h : TableSound w key users) (hrow : RowSound w key userId row)
    (hinsert : users.insert row = some users') : TableSound w key users' := by
  intro row' hrow'
  rw [Table.rows_insert hinsert, List.mem_append, List.mem_singleton] at hrow'
  rcases hrow' with hrow' | rfl
  · exact h row' hrow'
  · exact ⟨userId, hrow⟩

theorem tableSound_update {key : Bytes} {k : SqlText} {users : UsersTable} {f : UserRow → UserRow}
    (hf : ∀ row, (f row).userIdHash = row.userIdHash) (h : TableSound w key users)
    (hsound : ∀ userId row, row.userIdHash = k → RowSound w key userId row →
      RowSound w key userId (f row)) :
    TableSound w key (users.update k f hf) := by
  intro row hrow
  rcases Table.mem_update.mp hrow with ⟨old, hold, hk, rfl⟩ | ⟨hrow, -⟩
  · obtain ⟨userId, hsound'⟩ := h old hold
    exact ⟨userId, hsound userId old hk hsound'⟩
  · exact h row hrow

/-- No effect of a request breaks a row: the admin is not evicted, and a new name is sealed. -/
theorem Answer.tableSound (hsha : Function.Injective w.sha256Digest) {eff : Effect}
    {r : HttpResponseEvent} (hanswer : Answer w s e eff r) (h : TableSound w s.key s.users) :
    TableSound w s.key (eff.apply w s).users := by
  cases hanswer with
  | @register _ _ _ row _ _ _ _ _ hne hrow =>
    cases hinsert : s.users.insert row with
    | none => simpa [Effect.apply, hinsert] using h
    | some users =>
      have hsound := tableSound_insert h (RegisteredRow.sound hrow hne.1) hinsert
      simpa [Effect.apply, hinsert] using hsound
  | updateProfile _ _ _ _ _ hsealed =>
    refine tableSound_update (UserRow.userIdHash_updateProfile _ _) h fun userId row _ hrow => ?_
    exact { hrow with usernameEnc := ⟨_, hsealed.bindText⟩ }
  | approve =>
    refine tableSound_update UserRow.userIdHash_approve h fun userId row _ hrow => ?_
    exact { hrow with
      isApproved := .inr rfl
      admin := fun hrole => ⟨(hrow.admin hrole).1, rfl, (hrow.admin hrole).2.2⟩ }
  | evict _ _ _ hne =>
    refine tableSound_update UserRow.userIdHash_evict h fun userId row hk hrow => ?_
    refine { hrow with isActive := .inl rfl, admin := fun hrole => ?_ }
    have hadmin := (hrow.admin hrole).1
    have hkey := hrow.userIdHash.symm.trans hk
    rw [World.userKey_inj hsha, hadmin] at hkey
    exact absurd hkey.symm hne
  | _ => exact h

theorem Started.tableSound {file : DatabaseFile} (hstart : Started w file dbPath masterSecret t)
    (h : TableSound w (w.sha256Digest masterSecret) file.users) :
    t.key = w.sha256Digest masterSecret ∧ TableSound w t.key t.users := by
  obtain ⟨users, n, hboot, rfl⟩ := hstart
  refine ⟨rfl, ?_⟩
  rcases hboot with ⟨row, hrow, hinsert⟩ | ⟨rfl, -⟩
  · exact tableSound_insert h (AdminRow.sound hrow) hinsert
  · exact h

theorem effect_apply_key (eff : Effect) : (eff.apply w s).key = s.key := by
  cases eff <;> rfl

theorem Transition.tableSound (hjson : w.json.Documented) (hsha : Function.Injective w.sha256Digest)
    {l : Label} (hl : Transition w dbPath masterSecret s l t)
    (h : s.key = w.sha256Digest masterSecret ∧ TableSound w s.key s.users) :
    t.key = w.sha256Digest masterSecret ∧ TableSound w t.key t.users := by
  obtain ⟨hkey, hsound⟩ := h
  cases hl with
  | request hx =>
    obtain ⟨eff, r, ⟨n, p, rfl⟩, hanswer, -⟩ := hx.effect hjson
    have hkey' : (eff.apply w s).key = s.key := effect_apply_key eff
    have hsound' := hanswer.tableSound hsha hsound
    rw [← hkey'] at hsound'
    exact ⟨hkey'.trans hkey, hsound'⟩
  | restart hx =>
    rw [hkey] at hsound
    exact (Started.of_run hx).tableSound hsound

theorem Fresh.tableSound (h : Fresh w dbPath masterSecret t) :
    t.key = w.sha256Digest masterSecret ∧ TableSound w t.key t.users := by
  obtain ⟨n, h⟩ := h
  refine (Started.of_run h).tableSound ?_
  intro row hrow
  simp [DatabaseFile.new, Table.empty] at hrow

/-- Every row of every reachable state is sound, under the key of the master secret. -/
theorem Reachable.tableSound (hjson : w.json.Documented) (hsha : Function.Injective w.sha256Digest)
    (h : Reachable w dbPath masterSecret t) :
    t.key = w.sha256Digest masterSecret ∧ TableSound w t.key t.users := by
  obtain ⟨s, h, hfresh, hrun⟩ := h
  refine hrun.invariant
    (I := fun u => u.key = w.sha256Digest masterSecret ∧ TableSound w u.key u.users) ?_
    hfresh.tableSound
  exact fun _ _ _ hu hl => hl.tableSound hjson hsha hu

/-! ## Roles -/

/-- No other role is stored. -/
def RolesStored (users : UsersTable) : Prop :=
  ∀ row ∈ users.rows, row.role.val = str "user" ∨ row.role.val = str "admin"

theorem rolesStored_insert {users users' : UsersTable} {row : UserRow} (h : RolesStored users)
    (hrow : row.role.val = str "user" ∨ row.role.val = str "admin")
    (hinsert : users.insert row = some users') : RolesStored users' := by
  intro row' hrow'
  rw [Table.rows_insert hinsert, List.mem_append, List.mem_singleton] at hrow'
  rcases hrow' with hrow' | rfl
  · exact h row' hrow'
  · exact hrow

theorem rolesStored_update {k : SqlText} {users : UsersTable} {f : UserRow → UserRow}
    (hf : ∀ row, (f row).userIdHash = row.userIdHash) (hrole : ∀ row, (f row).role = row.role)
    (h : RolesStored users) : RolesStored (users.update k f hf) := by
  intro row hrow
  rcases Table.mem_update.mp hrow with ⟨old, hold, -, rfl⟩ | ⟨hrow, -⟩
  · rw [hrole]
    exact h old hold
  · exact h row hrow

theorem Answer.rolesStored {eff : Effect} {r : HttpResponseEvent} (hanswer : Answer w s e eff r)
    (h : RolesStored s.users) : RolesStored (eff.apply w s).users := by
  cases hanswer with
  | @register _ _ _ row _ _ _ _ _ _ hrow =>
    cases hinsert : s.users.insert row with
    | none => simpa [Effect.apply, hinsert] using h
    | some users =>
      have hroles := rolesStored_insert h (.inl hrow.role) hinsert
      simpa [Effect.apply, hinsert] using hroles
  | updateProfile =>
    exact rolesStored_update (UserRow.userIdHash_updateProfile _ _) (fun _ => rfl) h
  | approve => exact rolesStored_update UserRow.userIdHash_approve (fun _ => rfl) h
  | evict => exact rolesStored_update UserRow.userIdHash_evict (fun _ => rfl) h
  | _ => exact h

theorem Started.rolesStored {file : DatabaseFile} (hstart : Started w file dbPath masterSecret t)
    (h : RolesStored file.users) : RolesStored t.users := by
  obtain ⟨users, n, ⟨row, hrow, hinsert⟩ | ⟨rfl, -⟩, rfl⟩ := hstart
  · exact rolesStored_insert h (.inr hrow.role) hinsert
  · exact h

theorem Transition.rolesStored (hjson : w.json.Documented) {l : Label}
    (hl : Transition w dbPath masterSecret s l t) (h : RolesStored s.users) :
    RolesStored t.users := by
  cases hl with
  | request hx =>
    obtain ⟨eff, r, ⟨n, p, rfl⟩, hanswer, -⟩ := hx.effect hjson
    exact hanswer.rolesStored h
  | restart hx => exact (Started.of_run hx).rolesStored h

/-- Every role of every reachable state is one of the two. -/
theorem Reachable.rolesStored (hjson : w.json.Documented)
    (h : Reachable w dbPath masterSecret t) : RolesStored t.users := by
  obtain ⟨s, h, ⟨n, hfresh⟩, hrun⟩ := h
  refine hrun.invariant (I := fun u => RolesStored u.users)
    (fun _ _ _ hu hl => hl.rolesStored hjson hu) ((Started.of_run hfresh).rolesStored ?_)
  intro row hrow
  simp [DatabaseFile.new, Table.empty] at hrow

/-- The row that is found under the key of a user is that user's. -/
theorem TableSound.of_find (hsha : Function.Injective w.sha256Digest) {key userId : Bytes}
    {users : UsersTable} {row : UserRow} (h : TableSound w key users)
    (hrow : users.find (w.userKey userId) = some row) : RowSound w key userId row := by
  obtain ⟨hmem, hk⟩ := Table.find_eq_some.mp hrow
  obtain ⟨userId', hsound⟩ := h row hmem
  have hsame := hsound.userIdHash.symm.trans hk
  rw [World.userKey_inj hsha] at hsame
  rwa [hsame] at hsound

end CCTVWebServer
