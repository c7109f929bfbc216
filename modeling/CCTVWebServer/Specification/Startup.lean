import CCTVWebServer.Specification.Calls

/-!
# How a start ends

`init` opens the database, derives its key, creates the tables and inserts the admin. Which
of these calls fail decides whether it returns, and which of them was the last when it
raises: a second attempt goes on behind that one.
-/

namespace CCTVWebServer

open Foundation

variable {w : World} {s t : State} {dbPath masterSecret : Bytes}

/-! ## Which calls decide -/

/-- The calls of `init` up to the key of the admin. -/
def openCalls : List Library :=
  [Library.sqlite] ++ ([Library.openssl, Library.openssl] ++ ([Library.sqlite] ++
    ([Library.sqlite] ++ [Library.openssl, Library.openssl])))

/-- The calls that compute the columns of the row. -/
def columnCalls : List Library := [Library.openssl] ++ (encryptCalls ++ encryptCalls)

/-- The row that is there has the key of the admin. -/
def AdminKeyTaken (w : World) (users : UsersTable) : Prop :=
  users.find (w.userKey (str "admin")) ≠ none

/-- The bootstrap, whose first call after the key of the admin is the `n`-th, stops at its
query: the query cannot be prepared, or it counts a row. -/
def StopsAtCount (w : World) (n : Nat) (users : UsersTable) : Prop :=
  ¬ AllOk w n [.sqlite] ∨ AdminKeyTaken w users ∧ AllOk w n [.sqlite, .sqlite]

/-- The columns of the row are computed. -/
def ComputesColumns (w : World) (n : Nat) (key : Bytes) : Prop :=
  key.length = 32 ∧ AllOk w (n + 2) columnCalls

/-- They are not, and the `m`-th call is the last. -/
def ColumnsFail (w : World) (n : Nat) (key : Bytes) (m : Nat) : Prop :=
  key.length = 32 ∧ firstFailure w (n + 2) columnCalls = some m ∨ key.length ≠ 32 ∧ m = n + 2

/-- The row is inserted. -/
def InsertsRow (w : World) (n : Nat) (users : UsersTable) : Prop :=
  ¬ AdminKeyTaken w users ∧ AllOk w (n + 19) [.sqlite, .sqlite]

/-- `init` returns, its first call being the `n`-th of the process. -/
def Starts (w : World) (n : Nat) (users : UsersTable) (key : Bytes) : Prop :=
  AllOk w n openCalls ∧ (StopsAtCount w (n + 7) users ∨ ComputesColumns w (n + 7) key)

/-- `init` raises behind the `m`-th call. -/
def GivesUpAt (w : World) (n : Nat) (users : UsersTable) (key : Bytes) (m : Nat) : Prop :=
  firstFailure w n openCalls = some m ∨
    AllOk w n openCalls ∧ ¬ StopsAtCount w (n + 7) users ∧ ColumnsFail w (n + 7) key m

section GivesUpAt

variable {n m m' : Nat} {users : UsersTable} {key : Bytes}

theorem ColumnsFail.not_computesColumns (h : ColumnsFail w n key m) :
    ¬ ComputesColumns w n key := by
  rintro ⟨hkey, hok⟩
  rcases h with ⟨-, hfail⟩ | ⟨hno, -⟩
  · exact not_allOk_of_firstFailure hfail hok
  · exact hno hkey

theorem ColumnsFail.unique (h : ColumnsFail w n key m) (h' : ColumnsFail w n key m') : m = m' := by
  unfold ColumnsFail at h h'
  grind

theorem GivesUpAt.not_starts (h : GivesUpAt w n users key m) : ¬ Starts w n users key := by
  rintro ⟨hopen, hend⟩
  rcases h with hfail | ⟨-, hgoes, hcolumns⟩
  · exact not_allOk_of_firstFailure hfail hopen
  · exact hend.elim hgoes hcolumns.not_computesColumns

theorem GivesUpAt.unique (h : GivesUpAt w n users key m) (h' : GivesUpAt w n users key m') :
    m = m' := by
  rcases h with hfail | ⟨hopen, -, hcolumns⟩ <;> rcases h' with hfail' | ⟨hopen', -, hcolumns'⟩
  · exact Option.some.inj (hfail.symm.trans hfail')
  · exact absurd hopen' (not_allOk_of_firstFailure hfail)
  · exact absurd hopen (not_allOk_of_firstFailure hfail')
  · exact hcolumns.unique hcolumns'

end GivesUpAt

/-! ## The contracts -/

/-- The query for the admin: it cannot be prepared, or its count decides. -/
theorem selectAdmin_uses (s : State) :
    Ensures (selectCount w (w.userKey (str "admin"))) s
      (fun count t =>
        (count = none ∧ StopsAtCount w s.calls s.users ∧ Idle s t) ∨
        ∃ c, count = some c ∧ t = s.skip 2 ∧ (c = 0 ↔ ¬ StopsAtCount w s.calls s.users))
      (fun _ _ => False) := by
  refine run_sqlite (fun hno => .inl ⟨rfl, .inl hno, idle_skip s 1⟩) fun hprepare => ?_
  refine run_sqlite (fun hno => .inr ⟨0, rfl, rfl, iff_of_true rfl ?_⟩) fun hstep => ?_
  · rintro (hprepare' | ⟨-, hboth⟩)
    · exact hprepare' hprepare
    · exact hno ⟨hboth.2.1, trivial⟩
  · refine .inr ⟨_, rfl, rfl, ?_⟩
    have hboth : AllOk w s.calls [.sqlite, .sqlite] := ⟨hprepare.1, hstep.1, trivial⟩
    rw [Table.count_eq_zero]
    simp [StopsAtCount, AdminKeyTaken, hprepare, hboth]

/-- The step of an insertion succeeds when its call does and the key is free. -/
theorem stepInsertUser_uses (row : UserRow) :
    Ensures (stepInsertUser w row) s
      (fun _ t =>
        (AllOk w s.calls [.sqlite] ∧ s.users.find row.userIdHash = none ∧ Inserted row s t) ∨
        (¬ (AllOk w s.calls [.sqlite] ∧ s.users.find row.userIdHash = none) ∧ Idle s t))
      (fun _ _ => False) := by
  refine run_sqlite (fun hno => .inr ⟨fun h => hno h.1, idle_skip s 1⟩) fun hstep => ?_
  simp only [not_true_eq_false, reduceIte]
  rw [ensures_bind, ensures_get, State.users_skip]
  cases hinsert : s.users.insert row with
  | none => exact .inr ⟨fun h => Table.insert_eq_none.mp hinsert h.2, idle_skip s 1⟩
  | some users => exact .inl ⟨hstep, Table.find_of_insert hinsert, users, _, hinsert, rfl⟩

/-- The statement for the row of the admin, behind all that computes its columns. -/
theorem insertAdminRow_ends (s : State) {n : Nat} (hn : s.calls = n + 19) {row : UserRow}
    (hrow : row.userIdHash = w.userKey (str "admin")) :
    Ensures (do if ← outside (sqlite w) then let _ ← stepInsertUser w row) s
      (fun _ t => (InsertsRow w n s.users ∧ Inserted row s t) ∨
        (¬ InsertsRow w n s.users ∧ Idle s t))
      (fun _ _ => False) := by
  refine run_sqlite (fun hno => .inr ⟨fun h => hno ?_, idle_skip s 1⟩) fun hprepare => ?_
  · rw [hn]
    exact ⟨h.2.1, trivial⟩
  rw [hn] at hprepare
  refine (stepInsertUser_uses row).bind ?_ fun _ _ => False.elim
  rw [State.calls_skip, hn, State.users_skip, hrow]
  rintro _ t (⟨hstep, hfree, hins⟩ | ⟨hno, ht⟩)
  · exact .inl ⟨⟨not_not.mpr hfree, hprepare.1, hstep.1, trivial⟩, hins.of_idle (idle_skip s 1)⟩
  · exact .inr ⟨fun h => hno ⟨⟨h.2.2.1, trivial⟩, not_not.mp h.1⟩, (idle_skip s 1).trans ht⟩

theorem hashAdmin_counts :
    Counts w (hashPasswordPBKDF2 w (str "admin") (str "admin")) [.openssl]
      (fun hash => hash = w.passwordHash (str "admin") (str "admin")) :=
  .after_openssl (by decide) (counts_pure rfl)

/-- With a key of another length the columns fail behind the call for the password. -/
theorem insertAdmin_refuses {β : Type} {f : Bytes → Bytes → Server β} (s : State) {n : Nat}
    (hn : s.calls = n + 2) (hkey : s.key.length ≠ 32) :
    Ensures
      (do
        let adminPwHash ← outside (hashPasswordPBKDF2 w (str "admin") (str "admin"))
        let encId ← outside (encryptAES256GCM w (str "admin") (← get).key)
        f adminPwHash encId) s (fun _ _ => False)
      (fun fault t => ∃ m, ColumnsFail w n s.key m ∧ BreaksOff m fault t) := by
  refine hashAdmin_counts.run ?_ ?_
  · rintro fault t ⟨m, hfail | hno, hbreaks⟩
    · rw [hn] at hfail
      unfold firstFailure at hfail
      exact ⟨m, .inr ⟨hkey, by grind [firstFailure]⟩, hbreaks⟩
    · exact hno.elim
  · intro _ _ _
    rw [ensures_bind, ensures_get, ensures_bind, outside, ensures_focus]
    refine (encryptAES256GCM_refuses _ hkey _).mono (fun _ _ => False.elim) ?_
    rintro fault _ ⟨rfl, what, hfault, -⟩
    refine ⟨n + 2, .inr ⟨hkey, rfl⟩, ?_, what, hfault⟩
    rw [State.calls_skip, hn]
    rfl

/-- The insertion of the admin, behind the query. -/
theorem insertAdmin_ends (s : State) {n : Nat} (hn : s.calls = n + 2) :
    Ensures
      (do
        let adminPwHash ← outside (hashPasswordPBKDF2 w (str "admin") (str "admin"))
        let encId ← outside (encryptAES256GCM w (str "admin") (← get).key)
        let encUsername ← outside (encryptAES256GCM w (str "Administrator") (← get).key)
        if ← outside (sqlite w) then
          let _ ← stepInsertUser w {
            userIdHash := w.userKey (str "admin")
            userIdEnc := bindText encId
            usernameEnc := bindText encUsername
            passwordHash := bindText adminPwHash
            role := bindText (str "admin")
            isApproved := 1
            isActive := 1 }) s
      (fun _ t => ComputesColumns w n s.key ∧
        ((InsertsRow w n s.users ∧ ∃ row, AdminRow w s.key row ∧ Inserted row s t) ∨
          (¬ InsertsRow w n s.users ∧ Idle s t)))
      (fun fault t => ∃ m, ColumnsFail w n s.key m ∧ BreaksOff m fault t) := by
  by_cases hkey : s.key.length = 32
  swap
  · exact (insertAdmin_refuses s hn hkey).mono (fun _ _ => False.elim) fun _ _ h => h
  have hcolumnsFail : ∀ fault t, FailsBy w s.calls columnCalls (fun _ => False) fault t →
      ∃ m, ColumnsFail w n s.key m ∧ BreaksOff m fault t := by
    rintro fault t ⟨m, hfail | hno, hbreaks⟩
    · exact ⟨m, .inl ⟨hkey, hn ▸ hfail⟩, hbreaks⟩
    · exact hno.elim
  refine hashAdmin_counts.run (fun fault t h => hcolumnsFail fault t h.left) ?_
  rintro _ hhash rfl
  refine (encryptAES256GCM_counts _ hkey).run_key (by rfl)
    (fun fault t h => hcolumnsFail fault t (.behind hhash h.left)) ?_
  intro encId hencId hid
  refine (encryptAES256GCM_counts _ hkey).run_key (by rfl)
    (fun fault t h => hcolumnsFail fault t (.behind hhash (.behind hencId h))) ?_
  intro encUsername hencName hname
  have hcolumns : ComputesColumns w n s.key := by
    refine ⟨hkey, ?_⟩
    rw [← hn]
    exact allOk_append.mpr ⟨hhash, allOk_append.mpr ⟨hencId, hencName⟩⟩
  have hcalls : (((s.skip 1).skip 8).skip 8).calls = n + 19 := by
    simp only [State.calls_skip]
    omega
  have hidle : Idle s (((s.skip 1).skip 8).skip 8) :=
    ((idle_skip s 1).trans (idle_skip _ 8)).trans (idle_skip _ 8)
  refine (insertAdminRow_ends _ hcalls rfl).mono ?_ fun _ _ => False.elim
  rintro _ t (⟨hinserts, hins⟩ | ⟨hno, ht⟩)
  · exact ⟨hcolumns, .inl ⟨hinserts, _, newRow_of_seals (by decide) hid hname, hins.of_idle hidle⟩⟩
  · exact ⟨hcolumns, .inr ⟨hno, hidle.trans ht⟩⟩

/-- How the bootstrap ends, by the calls that lie ahead of it. -/
theorem bootstrapAdmin_ends (s : State) :
    Ensures (bootstrapAdmin w) s
      (fun _ t => AllOk w s.calls [.openssl, .openssl] ∧
        ((StopsAtCount w (s.calls + 2) s.users ∧ Idle s t) ∨
        (¬ StopsAtCount w (s.calls + 2) s.users ∧ ComputesColumns w (s.calls + 2) s.key ∧
          ((InsertsRow w (s.calls + 2) s.users ∧ ∃ row, AdminRow w s.key row ∧ Inserted row s t) ∨
            (¬ InsertsRow w (s.calls + 2) s.users ∧ Idle s t)))))
      (FailsBy w s.calls [.openssl, .openssl] fun m => AllOk w s.calls [.openssl, .openssl] ∧
        ¬ StopsAtCount w (s.calls + 2) s.users ∧ ColumnsFail w (s.calls + 2) s.key m) := by
  refine (sha256_counts _).run (fun fault t h => h.imp fun _ => False.elim) ?_
  rintro _ hhash rfl
  have hidle : Idle s (s.skip 2) := idle_skip s 2
  refine (selectAdmin_uses (s.skip 2)).bind ?_ fun _ _ => False.elim
  rintro count t (⟨rfl, hstops, ht⟩ | ⟨c, rfl, rfl, hzero⟩)
  · exact ⟨hhash, .inl ⟨hstops, hidle.trans ht⟩⟩
  dsimp only
  rw [ensures_ite]
  refine ⟨fun hc => ?_, fun hc => ⟨hhash, .inl ⟨not_not.mp (hzero.not.mp hc), ?_⟩⟩⟩
  · have hgoes := hzero.mp hc
    refine (insertAdmin_ends ((s.skip 2).skip 2) rfl).mono ?_ ?_
    · rintro _ t ⟨hcolumns, ⟨hinserts, row, hrow, hins⟩ | ⟨hno, ht⟩⟩
      · exact ⟨hhash, .inr ⟨hgoes, hcolumns, .inl ⟨hinserts, row, hrow,
          hins.of_idle (hidle.trans (idle_skip _ _))⟩⟩⟩
      · exact ⟨hhash, .inr ⟨hgoes, hcolumns, .inr ⟨hno, (hidle.trans (idle_skip _ _)).trans ht⟩⟩⟩
    · rintro fault t ⟨m, hfail, hbreaks⟩
      exact ⟨m, .inr ⟨hhash, hgoes, hfail⟩, hbreaks⟩
  · exact hidle.trans (idle_skip _ _)

theorem deriveKey_counts (secret : Bytes) :
    Counts w (deriveKey w secret) [.openssl, .openssl] (fun key => key = w.sha256Digest secret) :=
  .after_openssl (by decide) (.after_openssl (by decide) (counts_pure rfl))

theorem createTable_ends (sql : Bytes) (s : State) :
    Ensures (executeQuery w sql id) s
      (fun _ t => AllOk w s.calls [.sqlite] ∧ t = s.skip 1)
      (FailsBy w s.calls [.sqlite] fun _ => False) := by
  simp only [executeQuery, ensures_bind, outside, ensures_focus, ensures_nextCall, ensures_ite,
    ensures_modify, ensures_throw, AllOk, World.callOk, and_true]
  exact ⟨fun hok => ⟨hok, rfl⟩, fun hno => ⟨s.calls, .inl (if_neg hno), rfl, _, rfl⟩⟩

/-- The start of the process leaves the table as it was, or with the row of the admin. -/
inductive Outcome (w : World) (n : Nat) (key : Bytes) (old new : UsersTable) : Prop where
  | kept (hwhy : StopsAtCount w n old ∨ ComputesColumns w n key ∧ ¬ InsertsRow w n old)
      (hsame : new = old)
  | inserted (hgoes : ¬ StopsAtCount w n old) (hinserts : InsertsRow w n old) {row : UserRow}
      (hrow : AdminRow w key row) (hinsert : old.insert row = some new)

/-- How `init` ends from any state, by the calls that lie ahead of it. -/
theorem init_ends (stored : Bytes → DatabaseFile) (dbPath masterSecret : Bytes) (s : State) :
    Ensures (init w stored dbPath masterSecret) s
      (fun _ t => Starts w s.calls (stored dbPath).users (w.sha256Digest masterSecret) ∧
        Outcome w (s.calls + 7) (w.sha256Digest masterSecret) (stored dbPath).users t.users ∧
        t.dbPath = dbPath ∧ t.key = w.sha256Digest masterSecret)
      (fun fault t => ∃ m,
        GivesUpAt w s.calls (stored dbPath).users (w.sha256Digest masterSecret) m ∧
        BreaksOff m fault t) := by
  have hopen : Ensures (outside nextCall) s (fun k t => k = s.calls ∧ t = s.skip 1)
      (fun _ _ => False) := by
    rw [outside, ensures_focus, ensures_nextCall]
    exact ⟨rfl, rfl⟩
  change Ensures _ s _ (FailsBy w s.calls openCalls _)
  refine hopen.bind ?_ fun _ _ => False.elim
  rintro _ _ ⟨rfl, rfl⟩
  dsimp only
  rw [ensures_ite]
  refine ⟨fun hno => ?_, fun hok => ?_⟩
  · have hfail : firstFailure w s.calls [.sqlite] = some s.calls := if_neg hno
    exact ⟨s.calls, .inl (firstFailure_append_left hfail _), rfl, _, rfl⟩
  have hsqlite : AllOk w s.calls [.sqlite] := ⟨not_not.mp hok, trivial⟩
  -- What follows a stage may fail behind it: the list of calls grows by that stage.
  refine Ensures.mono ?_ (fun _ _ h => h) fun _ _ => .behind hsqlite
  rw [ensures_bind, ensures_modify]
  refine (deriveKey_counts masterSecret).run (fun _ _ h => h.left) ?_
  rintro _ hkey rfl
  refine Ensures.mono ?_ (fun _ _ h => h) fun _ _ => .behind hkey
  rw [ensures_bind, ensures_modify]
  refine (createTable_ends _ _).bind ?_ fun _ _ h => h.left
  rintro _ _ ⟨husers, rfl⟩
  refine Ensures.mono ?_ (fun _ _ h => h) fun _ _ => .behind husers
  refine (createTable_ends _ _).bind ?_ fun _ _ h => h.left
  rintro _ _ ⟨hrtsp, rfl⟩
  refine Ensures.mono ?_ (fun _ _ h => h) fun _ _ => .behind hrtsp
  have hopenCalls (hhash : AllOk w (s.calls + 5) [.openssl, .openssl]) :
      AllOk w s.calls openCalls := by
    simp only [openCalls, allOk_append]
    exact ⟨hsqlite, hkey, husers, hrtsp, hhash⟩
  refine (bootstrapAdmin_ends _).mono ?_ ?_
  · rintro _ t ⟨hhash, hend⟩
    rcases hend with ⟨hstops, m, rfl⟩ | ⟨hgoes, hcolumns, hend⟩
    · exact ⟨⟨hopenCalls hhash, .inl hstops⟩, .kept (.inl hstops) rfl, rfl, rfl⟩
    refine ⟨⟨hopenCalls hhash, .inr hcolumns⟩, ?_⟩
    rcases hend with ⟨hinserts, row, hrow, users, m, hinsert, rfl⟩ | ⟨hno, m, rfl⟩
    · exact ⟨.inserted hgoes hinserts hrow hinsert, rfl, rfl⟩
    · exact ⟨.kept (.inr ⟨hcolumns, hno⟩) rfl, rfl, rfl⟩
  · rintro fault t h
    exact h.imp fun m hbehind => ⟨hopenCalls hbehind.1, hbehind.2⟩

/-- The same for a new process, without the number of the call. -/
theorem init_uses (stored : Bytes → DatabaseFile) (dbPath masterSecret : Bytes) (n : Nat) :
    Ensures (init w stored dbPath masterSecret) (State.started n)
      (fun _ t => AllOk w n openCalls ∧
        Outcome w (n + 7) (w.sha256Digest masterSecret) (stored dbPath).users t.users)
      (fun _ _ => ¬ AllOk w n openCalls ∨
        (¬ StopsAtCount w (n + 7) (stored dbPath).users ∧
          ¬ ComputesColumns w (n + 7) (w.sha256Digest masterSecret))) := by
  refine (init_ends stored dbPath masterSecret (State.started n)).mono ?_ ?_
  · rintro _ t ⟨hstarts, houtcome, -⟩
    exact ⟨hstarts.1, houtcome⟩
  · rintro _ t ⟨m, hfail | ⟨-, hgoes, hcolumns⟩, -⟩
    · exact .inl (not_allOk_of_firstFailure hfail)
    · exact .inr ⟨hgoes, hcolumns.not_computesColumns⟩

end CCTVWebServer
