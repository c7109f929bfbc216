import CCTVWebServer.Database

/-!
# What the member functions of Database do

One contract per function: what it returns, how it leaves the state, and why it
refuses or raises. A refusal always names a reason, so that in a world without
failures the contracts say exactly when a call succeeds.
-/

namespace CCTVWebServer

open Foundation

variable {w : World}

/-- The key under which the row of a user is stored. -/
def World.userKey (w : World) (userId : Bytes) : SqlText := bindText (w.sha256Hex userId)

theorem World.userKey_inj (hsha : Function.Injective w.sha256Digest) {a b : Bytes} :
    w.userKey a = w.userKey b ↔ a = b :=
  bindText_toHex_inj.trans hsha.eq_iff

/-- The row that a registration or the bootstrap writes. -/
structure NewRow (w : World) (key userId username password : Bytes) (role : String)
    (isApproved : Int) (row : UserRow) : Prop where
  userIdHash : row.userIdHash = w.userKey userId
  userIdEnc : w.Seals key userId row.userIdEnc.val
  usernameEnc : w.Seals key username row.usernameEnc.val
  passwordHash : row.passwordHash.val = w.passwordHash password userId
  role : row.role.val = str role
  isApproved : row.isApproved = isApproved
  isActive : row.isActive = 1

/-- The state differs by one inserted row. -/
def Inserted (row : UserRow) (s t : State) : Prop :=
  ∃ users n, s.users.insert row = some users ∧ t = { s with users := users, calls := n }

/-- The state differs by the update of the row with a given key. -/
def Updated (idHash : SqlText) (change : UserRow → UserRow)
    (hkey : ∀ row, (change row).userIdHash = row.userIdHash) (s t : State) : Prop :=
  ∃ n, t = { s with users := s.users.update idHash change hkey, calls := n }

theorem Inserted.of_idle {row : UserRow} {s t u : State} (hst : Idle s t)
    (htu : Inserted row t u) : Inserted row s u := by
  obtain ⟨_, rfl⟩ := hst
  exact htu

theorem Updated.of_idle {idHash : SqlText} {change : UserRow → UserRow}
    {hkey : ∀ row, (change row).userIdHash = row.userIdHash} {s t u : State} (hst : Idle s t)
    (htu : Updated idHash change hkey t u) : Updated idHash change hkey s u := by
  obtain ⟨_, rfl⟩ := hst
  exact htu

theorem Idle.users {s t : State} (h : Idle s t) : t.users = s.users := by
  obtain ⟨_, rfl⟩ := h; rfl

theorem Idle.key {s t : State} (h : Idle s t) : t.key = s.key := by
  obtain ⟨_, rfl⟩ := h; rfl

/-- The state differs in the stored camera configuration at most. -/
def RtspWritten (s t : State) : Prop := ∃ config n, t = { s with rtspConfig := config, calls := n }

theorem Idle.rtspWritten {s t : State} (h : Idle s t) : RtspWritten s t := by
  obtain ⟨n, rfl⟩ := h
  exact ⟨s.rtspConfig, n, rfl⟩

theorem RtspWritten.trans {s t u : State} (hst : RtspWritten s t) (htu : RtspWritten t u) :
    RtspWritten s u := by
  obtain ⟨_, _, rfl⟩ := hst
  obtain ⟨config, n, rfl⟩ := htu
  exact ⟨config, n, rfl⟩

/-! ## Statements -/

theorem selectCount_spec (idHash : SqlText) (s : State) :
    Ensures (selectCount w idHash) s
      (fun count t => Idle s t ∧
        (count = none → SqliteFails w) ∧
        (∀ c, count = some c → c = s.users.count idHash ∨ (c = 0 ∧ SqliteFails w)))
      (fun _ _ => False) := by
  refine returns_sqlite.run fun ok t ht hok => ?_
  cases ok with
  | false => exact ⟨ht, fun _ => hok rfl, by simp⟩
  | true =>
    refine returns_sqlite.run fun ok u hu hok => ?_
    cases ok with
    | false => exact ⟨ht.trans hu, by simp, fun c hc => .inr ⟨by simpa using hc.symm, hok rfl⟩⟩
    | true => exact ⟨ht.trans hu, by simp, by simp [(ht.trans hu).users]⟩

theorem stepInsertUser_spec (row : UserRow) (s : State) :
    Ensures (stepInsertUser w row) s
      (fun done t =>
        (done = true ∧ Inserted row s t) ∨
        (done = false ∧ Idle s t ∧ (SqliteFails w ∨ s.users.find row.userIdHash ≠ none)))
      (fun _ _ => False) := by
  refine returns_sqlite.run fun ok t ht hok => ?_
  cases ok with
  | false => exact .inr ⟨rfl, ht, .inl (hok rfl)⟩
  | true =>
    obtain ⟨n, rfl⟩ := ht
    cases hins : s.users.insert row with
    | none =>
      have htaken := Table.insert_eq_none.mp hins
      simp only [not_true_eq_false, reduceIte, ensures_bind, ensures_get, hins]
      exact .inr ⟨rfl, ⟨n, rfl⟩, .inr htaken⟩
    | some users =>
      simp only [not_true_eq_false, reduceIte, ensures_bind, ensures_get, hins]
      exact .inl ⟨rfl, users, n, hins, rfl⟩

theorem stepUpdateUser_spec (idHash : SqlText) (change : UserRow → UserRow)
    (hkey : ∀ row, (change row).userIdHash = row.userIdHash) (s : State) :
    Ensures (stepUpdateUser w idHash change hkey) s
      (fun done t =>
        (done = true ∧ Updated idHash change hkey s t) ∨
        (done = false ∧ Idle s t ∧ SqliteFails w))
      (fun _ _ => False) := by
  refine returns_sqlite.run fun ok t ht hok => ?_
  cases ok with
  | false => exact .inr ⟨rfl, ht, hok rfl⟩
  | true =>
    obtain ⟨n, rfl⟩ := ht
    exact .inl ⟨rfl, n, rfl⟩

/-! ## Member functions -/

/-- The row of the bootstrapped account. -/
abbrev AdminRow (w : World) (key : Bytes) (row : UserRow) : Prop :=
  NewRow w key (str "admin") (str "Administrator") (str "admin") "admin" 1 row

theorem not_mem_sha256Hex (w : World) (text : Bytes) : (0 : UInt8) ∉ w.sha256Hex text :=
  not_mem_toHex _

/-- A sealed text is bound as it is. -/
theorem World.Seals.bindText {key plaintext text : Bytes} (h : w.Seals key plaintext text) :
    w.Seals key plaintext (bindText text).val := by
  rwa [bindText_val (not_mem_of_seals h)]

/-- The columns that an insertion binds make up the row of the given account. -/
theorem newRow_of_seals {key userId username password encId encUsername : Bytes} {role : String}
    {isApproved : Int} (hrole : (0 : UInt8) ∉ str role)
    (hid : w.Seals key userId encId) (hname : w.Seals key username encUsername) :
    NewRow w key userId username password role isApproved
      { userIdHash := w.userKey userId
        userIdEnc := bindText encId
        usernameEnc := bindText encUsername
        passwordHash := bindText (w.passwordHash password userId)
        role := bindText (str role)
        isApproved := isApproved
        isActive := 1 } where
  userIdHash := rfl
  userIdEnc := hid.bindText
  usernameEnc := hname.bindText
  passwordHash := bindText_val (not_mem_toHex _)
  role := bindText_val hrole
  isApproved := rfl
  isActive := rfl

theorem bootstrapAdmin_spec (s : State) :
    Ensures (bootstrapAdmin w) s
      (fun _ t =>
        (∃ row, AdminRow w s.key row ∧ Inserted row s t) ∨
        (Idle s t ∧ (SqliteFails w ∨ s.users.find (w.userKey (str "admin")) ≠ none)))
      (fun fault t => Idle s t ∧ Raised w (s.key.length ≠ 32) fault) := by
  refine (sha256_yields _).run (fun _ _ h hr => ⟨h, hr.1, hr.2.imp_right False.elim⟩) ?_
  rintro _ t ht rfl
  refine (selectCount_spec _ t).bind ?_ fun _ _ => False.elim
  rintro count u ⟨hu, hnone, hcount⟩
  have hsu := ht.trans hu
  cases count with
  | none => exact .inr ⟨hsu, .inl (hnone rfl)⟩
  | some c =>
    simp only [ensures_ite, ensures_pure]
    refine ⟨fun _ => ?_, fun hc => .inr ⟨hsu, ?_⟩⟩
    · refine (hashPasswordPBKDF2_yields _ _).run
        (fun _ _ h hr => ⟨hsu.trans h, hr.1, hr.2.imp_right False.elim⟩) ?_
      rintro _ v hv rfl
      have hsv := hsu.trans hv
      refine (encryptAES256GCM_yields _ _).run_key hsv.key (fun _ _ h hr => ⟨hsv.trans h, hr⟩) ?_
      intro encId v' hv' hid
      have hsv' := hsv.trans hv'
      refine (encryptAES256GCM_yields _ _).run_key hsv'.key (fun _ _ h hr => ⟨hsv'.trans h, hr⟩) ?_
      intro encUsername v'' hv'' hname
      have hsv'' := hsv'.trans hv''
      refine returns_sqlite.run fun ok x hx hok => ?_
      have hsx := hsv''.trans hx
      cases ok with
      | false => exact .inr ⟨hsx, .inl (hok rfl)⟩
      | true =>
        refine (stepInsertUser_spec _ x).bind ?_ fun _ _ => False.elim
        rintro _ y (⟨-, hins⟩ | ⟨-, hy, hwhy⟩)
        · exact .inl ⟨_, newRow_of_seals (by decide) hid hname, hins.of_idle hsx⟩
        · rw [hsx.users] at hwhy
          exact .inr ⟨hsx.trans hy, hwhy⟩
    · rcases hcount c rfl with h | ⟨h, -⟩
      · rw [ht.users] at h
        exact .inr fun hnone => hc (h.trans (Table.count_eq_zero.mpr hnone))
      · exact absurd h hc

/-- The row of a registered account. -/
abbrev RegisteredRow (w : World) (key userId username password : Bytes) (row : UserRow) : Prop :=
  NewRow w key userId username password "user" 0 row

theorem registerInsert_spec (userId username password : Bytes) (s : State) :
    Ensures (registerInsert w userId username password (w.userKey userId)) s
      (fun done t =>
        (done = true ∧ ∃ row, RegisteredRow w s.key userId username password row ∧
          Inserted row s t) ∨
        (done = false ∧ Idle s t ∧ (SqliteFails w ∨ s.users.find (w.userKey userId) ≠ none)))
      (fun fault t => Idle s t ∧ Raised w (s.key.length ≠ 32) fault) := by
  refine (encryptAES256GCM_yields _ _).run_key rfl (fun _ _ h hr => ⟨h, hr⟩) ?_
  intro encId t ht hid
  refine (encryptAES256GCM_yields _ _).run_key ht.key (fun _ _ h hr => ⟨ht.trans h, hr⟩) ?_
  intro encUsername u hu hname
  have hsu := ht.trans hu
  refine (hashPasswordPBKDF2_yields _ _).run
    (fun _ _ h hr => ⟨hsu.trans h, hr.1, hr.2.imp_right False.elim⟩) ?_
  rintro _ v hv rfl
  have hsv := hsu.trans hv
  refine returns_sqlite.run fun ok x hx hok => ?_
  have hsx := hsv.trans hx
  cases ok with
  | false => exact .inr ⟨rfl, hsx, .inl (hok rfl)⟩
  | true =>
    refine (stepInsertUser_spec _ x).mono ?_ fun _ _ => False.elim
    rintro done y (⟨hdone, hins⟩ | ⟨hdone, hy, hwhy⟩)
    · exact .inl ⟨hdone, _, newRow_of_seals (by decide) hid hname, hins.of_idle hsx⟩
    · rw [hsx.users] at hwhy
      exact .inr ⟨hdone, hsx.trans hy, hwhy⟩

theorem registerUser_spec (userId username password : Bytes) (s : State) :
    Ensures (registerUser w userId username password) s
      (fun done t =>
        (done = true ∧ ∃ row, RegisteredRow w s.key userId username password row ∧
          Inserted row s t) ∨
        (done = false ∧ Idle s t ∧ (SqliteFails w ∨ s.users.find (w.userKey userId) ≠ none)))
      (fun fault t => Idle s t ∧ Raised w (s.key.length ≠ 32) fault) := by
  refine (sha256_yields _).run (fun _ _ h hr => ⟨h, hr.1, hr.2.imp_right False.elim⟩) ?_
  rintro _ t ht rfl
  refine (selectCount_spec _ t).bind ?_ fun _ _ => False.elim
  rintro count u ⟨hu, hnone, hcount⟩
  have hsu := ht.trans hu
  cases count with
  | none => exact .inr ⟨rfl, hsu, .inl (hnone rfl)⟩
  | some c =>
    simp only [ensures_ite, ensures_pure]
    refine ⟨fun hc => .inr ⟨by trivial, hsu, ?_⟩, fun _ => ?_⟩
    · rcases hcount c rfl with h | ⟨h, -⟩
      · rw [ht.users] at h
        exact .inr fun hnone => absurd (h.trans (Table.count_eq_zero.mpr hnone)) (by omega)
      · omega
    · refine (registerInsert_spec userId username password u).mono ?_
        fun fault v h => ⟨hsu.trans h.1, by simpa [hsu.key] using h.2⟩
      rintro done v (⟨hdone, row, hrow, hins⟩ | ⟨hdone, hv, hwhy⟩)
      · rw [hsu.key] at hrow
        exact .inl ⟨hdone, row, hrow, hins.of_idle hsu⟩
      · rw [hsu.users] at hwhy
        exact .inr ⟨hdone, hsu.trans hv, hwhy⟩

theorem setFlag_spec (userId : Bytes) (change : UserRow → UserRow)
    (hkey : ∀ row, (change row).userIdHash = row.userIdHash) (s : State) :
    Ensures (setFlag w userId change hkey) s
      (fun done t =>
        (done = true ∧ Updated (w.userKey userId) change hkey s t) ∨
        (done = false ∧ Idle s t ∧ SqliteFails w))
      (fun fault t => Idle s t ∧ Raised w False fault) := by
  refine (sha256_yields _).run (fun _ _ h hr => ⟨h, hr⟩) ?_
  rintro _ t ht rfl
  refine returns_sqlite.run fun ok u hu hok => ?_
  have hsu := ht.trans hu
  cases ok with
  | false => exact .inr ⟨rfl, hsu, hok rfl⟩
  | true =>
    refine (stepUpdateUser_spec _ change hkey u).mono ?_ fun _ _ => False.elim
    rintro done v (⟨hdone, hupd⟩ | ⟨hdone, hv, hwhy⟩)
    · exact .inl ⟨hdone, hupd.of_idle hsu⟩
    · exact .inr ⟨hdone, hsu.trans hv, hwhy⟩

/-- The new value of the password column, when there is one. -/
def World.newPasswordHash (w : World) (userId newPassword : Bytes) : Option SqlText :=
  if newPassword = [] then none else some (bindText (w.passwordHash newPassword userId))

theorem updateUserProfile_spec (userId newUsername newPassword : Bytes) (s : State) :
    Ensures (updateUserProfile w userId newUsername newPassword) s
      (fun done t =>
        (done = true ∧ ∃ encUsername, w.Seals s.key newUsername encUsername ∧
          Updated (w.userKey userId) (UserRow.updateProfile (bindText encUsername)
            (w.newPasswordHash userId newPassword)) (UserRow.userIdHash_updateProfile _ _) s t) ∨
        (done = false ∧ Idle s t ∧ SqliteFails w))
      (fun fault t => Idle s t ∧ Raised w (s.key.length ≠ 32) fault) := by
  refine (sha256_yields _).run (fun _ _ h hr => ⟨h, hr.1, hr.2.imp_right False.elim⟩) ?_
  rintro _ t ht rfl
  refine returns_sqlite.run fun ok u hu hok => ?_
  have hsu := ht.trans hu
  cases ok with
  | false => exact .inr ⟨rfl, hsu, hok rfl⟩
  | true =>
    refine (encryptAES256GCM_yields _ _).run_key hsu.key (fun _ _ h hr => ⟨hsu.trans h, hr⟩) ?_
    intro encUsername v hv hname
    have hsv := hsu.trans hv
    simp only [ensures_ite]
    refine ⟨fun hpw => ?_, fun hpw => ?_⟩
    · refine (hashPasswordPBKDF2_yields _ _).run
        (fun _ _ h hr => ⟨hsv.trans h, hr.1, hr.2.imp_right False.elim⟩) ?_
      rintro _ x hx rfl
      refine (stepUpdateUser_spec _ _ _ x).mono ?_ fun _ _ => False.elim
      rintro done y (⟨hdone, hupd⟩ | ⟨hdone, hy, hwhy⟩)
      · refine .inl ⟨hdone, encUsername, hname, ?_⟩
        simp only [World.newPasswordHash, if_neg hpw]
        exact hupd.of_idle (hsv.trans hx)
      · exact .inr ⟨hdone, (hsv.trans hx).trans hy, hwhy⟩
    · have hnil : newPassword = [] := not_not.mp hpw
      refine (stepUpdateUser_spec _ _ _ v).mono ?_ fun _ _ => False.elim
      rintro done y (⟨hdone, hupd⟩ | ⟨hdone, hy, hwhy⟩)
      · refine .inl ⟨hdone, encUsername, hname, ?_⟩
        simp only [World.newPasswordHash, if_pos hnil]
        exact hupd.of_idle hsv
      · exact .inr ⟨hdone, hsv.trans hy, hwhy⟩

/-- The row of the user exists, opens under the key, and reads as `user`. -/
def Fetched (w : World) (s : State) (userId : Bytes) (user : UserRecord) : Prop :=
  ∃ row openId openName, s.users.find (w.userKey userId) = some row ∧
    w.opened s.key row.userIdEnc.val = some openId ∧
    w.opened s.key row.usernameEnc.val = some openName ∧ user = row.record openId openName

/-- Decrypt a stored column under the key of the database, an exception being caught. -/
theorem run_decrypt {β : Type} {text key : Bytes} {f : Option Bytes → Server β} {s : State}
    (hkey : s.key = key) {Q : β → State → Prop} {E : Fault → State → Prop}
    (hQ : ∀ o t, Idle s t → (∀ a, o = some a → w.opened key text = some a) ∧
      (o = none → OpensslFails w ∨ w.opened key text = none) → Ensures (f o) t Q E) :
    Ensures (get >>= fun t => outside (attempt (decryptAES256GCM w text t.key)) >>= f) s Q E := by
  rw [ensures_bind, ensures_get, hkey]
  exact (returns_attempt (decryptAES256GCM_yields text key)).run hQ

theorem getUser_spec (userId : Bytes) (outUser : UserRecord) (s : State) :
    Ensures (getUser w userId outUser) s
      (fun result t => Idle s t ∧
        ((result.1 = true ∧ Fetched w s userId result.2) ∨
        (result.1 = false ∧ result.2.role = outUser.role ∧
          (SqliteFails w ∨ OpensslFails w ∨ ¬ ∃ user, Fetched w s userId user))))
      (fun fault t => Idle s t ∧ Raised w False fault) := by
  refine (sha256_yields _).run (fun _ _ h hr => ⟨h, hr⟩) ?_
  rintro _ t ht rfl
  refine returns_sqlite.run fun ok u hu hok => ?_
  have hsu := ht.trans hu
  cases ok with
  | false => exact ⟨hsu, .inr ⟨rfl, rfl, .inl (hok rfl)⟩⟩
  | true =>
  refine returns_sqlite.run fun ok v hv hok => ?_
  have hsv := hsu.trans hv
  cases ok with
  | false => exact ⟨hsv, .inr ⟨rfl, rfl, .inl (hok rfl)⟩⟩
  | true =>
  simp only [not_true_eq_false, reduceIte]
  rw [ensures_bind, ensures_get, hsv.users]
  have hkey : bindText (w.sha256Hex userId) = w.userKey userId := rfl
  rw [hkey]
  cases hrow : s.users.find (w.userKey userId) with
  | none =>
    refine ⟨hsv, .inr ⟨rfl, rfl, .inr (.inr ?_)⟩⟩
    rintro ⟨user, row, _, _, hfound, -⟩
    exact absurd (hrow.symm.trans hfound) (by simp)
  | some row =>
  -- The row is there: what remains is whether its two columns open.
  have hclosed (h : w.opened s.key row.userIdEnc.val = none ∨
      w.opened s.key row.usernameEnc.val = none) : ¬ ∃ user, Fetched w s userId user := by
    rintro ⟨user, row', openId, openName, hfound, hid, hname, -⟩
    cases hrow.symm.trans hfound
    rcases h with h | h
    · exact absurd (h.symm.trans hid) (by simp)
    · exact absurd (h.symm.trans hname) (by simp)
  refine run_decrypt hsv.key fun openId x hx hid => ?_
  have hsx := hsv.trans hx
  cases openId with
  | none => exact ⟨hsx, .inr ⟨rfl, rfl, .inr ((hid.2 rfl).imp_right fun h => hclosed (.inl h))⟩⟩
  | some openId =>
  refine run_decrypt hsx.key fun openName y hy hname => ?_
  have hsy := hsx.trans hy
  cases openName with
  | none => exact ⟨hsy, .inr ⟨rfl, rfl, .inr ((hname.2 rfl).imp_right fun h => hclosed (.inr h))⟩⟩
  | some openName =>
  exact ⟨hsy, .inl ⟨rfl, row, openId, openName, hrow, hid.1 _ rfl, hname.1 _ rfl, rfl⟩⟩

/-- The record of a row that opens. -/
def World.readRow (w : World) (key : Bytes) (row : UserRow) : Option UserRecord :=
  (w.opened key row.userIdEnc.val).bind fun openId =>
    (w.opened key row.usernameEnc.val).map fun openName => row.record openId openName

/-- Only a failure of a library leaves out a row that opens. -/
theorem collectUsers_returns (key : Bytes) (rows : List UserRow) :
    Returns (collectUsers w key rows) (fun users =>
      ¬ SqliteFails w → ¬ OpensslFails w → users = rows.filterMap (w.readRow key)) := by
  induction rows with
  | nil => exact returns_sqlite.bind fun _ _ => returns_pure fun _ _ => rfl
  | cons row rows ih =>
    refine returns_sqlite.bind fun ok hok => ?_
    cases ok with
    | false => exact returns_pure fun hsqlite => absurd (hok rfl) hsqlite
    | true =>
    refine (returns_attempt (decryptAES256GCM_yields _ _)).bind fun openId hid => ?_
    cases openId with
    | none =>
      refine ih.mono fun users husers hsqlite hopenssl => ?_
      have hclosed := (hid.2 rfl).resolve_left hopenssl
      simpa [World.readRow, hclosed] using husers hsqlite hopenssl
    | some openId =>
    refine (returns_attempt (decryptAES256GCM_yields _ _)).bind fun openName hname => ?_
    cases openName with
    | none =>
      refine ih.mono fun users husers hsqlite hopenssl => ?_
      have hclosed := (hname.2 rfl).resolve_left hopenssl
      simpa [World.readRow, hid.1 _ rfl, hclosed] using husers hsqlite hopenssl
    | some openName =>
      refine ih.bind fun users husers => returns_pure fun hsqlite hopenssl => ?_
      simp [World.readRow, hid.1 _ rfl, hname.1 _ rfl, husers hsqlite hopenssl]

theorem getAllUsers_spec (s : State) :
    Ensures (getAllUsers w) s
      (fun users t => Idle s t ∧ (¬ SqliteFails w → ¬ OpensslFails w →
        users = s.users.rows.filterMap (w.readRow s.key)))
      (fun _ _ => False) := by
  refine returns_sqlite.run fun ok t ht hok => ?_
  cases ok with
  | false => exact ⟨ht, fun hsqlite => absurd (hok rfl) hsqlite⟩
  | true =>
    simp only [not_true_eq_false, reduceIte]
    rw [ensures_bind, ensures_get, ← bind_pure (outside _), ht.key, ht.users]
    exact (collectUsers_returns _ _).run fun _ u hu husers => ⟨ht.trans hu, husers⟩

theorem saveRtspConfig_spec (name url : Bytes) (s : State) :
    Ensures (saveRtspConfig w name url) s (fun _ t => RtspWritten s t)
      (fun fault t => Idle s t ∧ Raised w (s.key.length ≠ 32) fault) := by
  refine returns_sqlite.run fun ok t ht _ => ?_
  cases ok with
  | false => exact ht.rtspWritten
  | true =>
  refine (encryptAES256GCM_yields _ _).run_key ht.key (fun _ _ h hr => ⟨ht.trans h, hr⟩) ?_
  intro encName u hu _
  have hsu := ht.trans hu
  refine (encryptAES256GCM_yields _ _).run_key hsu.key (fun _ _ h hr => ⟨hsu.trans h, hr⟩) ?_
  intro encUrl v hv _
  refine returns_sqlite.run fun ok x hx _ => ?_
  have hsx := (hsu.trans hv).trans hx
  cases ok with
  | false => exact hsx.rtspWritten
  | true =>
    obtain ⟨n, rfl⟩ := hsx
    exact ⟨_, n, rfl⟩

theorem getLatestRtspConfig_spec (outRtsp : RtspRecord) (s : State) :
    Ensures (getLatestRtspConfig w outRtsp) s (fun _ t => Idle s t) (fun _ _ => False) := by
  refine returns_sqlite.run fun ok t ht _ => ?_
  cases ok with
  | false => exact ht
  | true =>
  refine returns_sqlite.run fun ok u hu _ => ?_
  have hsu := ht.trans hu
  cases ok with
  | false => exact hsu
  | true =>
  simp only [not_true_eq_false, reduceIte]
  rw [ensures_bind, ensures_get]
  cases u.rtspConfig.latest with
  | none => exact hsu
  | some row =>
  refine run_decrypt rfl fun name v hv _ => ?_
  have hsv := hsu.trans hv
  cases name with
  | none => exact hsv
  | some name =>
  refine run_decrypt rfl fun url x hx _ => ?_
  cases url <;> exact hsv.trans hx

theorem clearRtspConfigs_spec (s : State) :
    Ensures (clearRtspConfigs w) s (fun _ t => RtspWritten s t) (fun _ _ => False) := by
  simp only [clearRtspConfigs, attempt, executeQuery, ensures_bind, ensures_tryCatch, ensures_map,
    outside, ensures_focus, ensures_nextCall, ensures_ite, ensures_modify, ensures_throw,
    ensures_pure]
  exact ⟨fun _ => ⟨s.rtspConfig.clear, s.calls + 1, rfl⟩,
    fun _ => ⟨s.rtspConfig, s.calls + 1, rfl⟩⟩

end CCTVWebServer
