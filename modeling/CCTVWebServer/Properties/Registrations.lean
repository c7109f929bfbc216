import CCTVWebServer.Reference
import CCTVWebServer.Registration

/-!
# Registrations without a lock

The check for the id and the insertion are two statements, and between them the id
can be taken. The key of the table decides: of all calls for one id at most one adds
a row, and exactly this one returns true.
-/

namespace CCTVWebServer.Registration

open Foundation

variable {w : World} {args : Args}

/-! ## A call that is alone -/

@[simp] theorem advances_returned (n : Nat) (result : Bool) :
    advances w args n (.returned result) = pure (.returned result) := by
  induction n with
  | zero => rfl
  | succ n ih => simp [advances, advance, ih]

theorem advances_succ (n : Nat) (stage : Stage) :
    advances w args (n + 1) stage = advance w args stage >>= advances w args n := rfl

/-- The insertion. -/
theorem advances_prepareInsert (row : UserRow) :
    advances w args 2 (.prepareInsert row) = Stage.returned <$> (do
      if ¬ (← outside (sqlite w)) then return false
      stepInsertUser w row) := by
  rw [advances_succ, advance, bind_assoc, map_bind]
  refine bind_congr fun ok => ?_
  cases ok with
  | false => simp
  | true => simp [advances, advance]

/-- The steps behind the check. -/
theorem advances_encryptId (idHash : SqlText) :
    advances w args 5 (.encryptId idHash) =
      Stage.returned <$> registerInsert w args.userId args.username args.password idHash := by
  rw [advances_succ, advance, registerInsert, map_bind, bind_assoc]
  refine bind_congr fun s => ?_
  rw [map_bind, bind_assoc]
  refine bind_congr fun encId => ?_
  rw [pure_bind, advances_succ, advance, map_bind, bind_assoc]
  refine bind_congr fun t => ?_
  rw [map_bind, bind_assoc]
  refine bind_congr fun encUsername => ?_
  rw [pure_bind, advances_succ, advance, map_bind, bind_assoc]
  refine bind_congr fun pwHash => ?_
  rw [pure_bind, advances_prepareInsert]

/-- A call that nobody comes in on is a call of `registerUser`. -/
theorem advances_start :
    advances w args 8 .start =
      Stage.returned <$> registerUser w args.userId args.username args.password := by
  rw [advances_succ, advance, registerUser, map_bind, bind_assoc]
  refine bind_congr fun idHash => ?_
  rw [pure_bind, advances_succ, advance, selectCount, bind_assoc, bind_assoc, map_bind]
  refine bind_congr fun prepared => ?_
  cases prepared with
  | false => simp
  | true =>
    simp only [not_true_eq_false, if_false, pure_bind, advances_succ 5, advance, bind_assoc,
      map_bind]
    refine bind_congr fun stepped => ?_
    cases stepped with
    | false => simp [advances_encryptId]
    | true =>
      simp only [if_true, bind_assoc]
      refine bind_congr fun s => ?_
      split <;> simp_all [advances_encryptId]

/-! ## One step -/

/-- What the variables of a call hold. -/
def Stage.Sound (w : World) (key : Bytes) (args : Args) : Stage → Prop
  | .prepareSelect idHash | .stepSelect idHash | .encryptId idHash =>
    idHash = w.userKey args.userId
  | .encryptUsername idHash encId =>
    idHash = w.userKey args.userId ∧ w.Seals key args.userId encId
  | .hashPassword idHash encId encUsername =>
    idHash = w.userKey args.userId ∧ w.Seals key args.userId encId ∧
      w.Seals key args.username encUsername
  | .prepareInsert row | .stepInsert row =>
    RegisteredRow w key args.userId args.username args.password row
  | .start | .returned _ | .raised _ => True

/-- A step adds the row of the call and returns true, or leaves the table as it is. -/
inductive Moves (w : World) (args : Args) (s : State) (next : Stage) (t : State) : Prop where
  | adds (row : UserRow) (hrow : RegisteredRow w s.key args.userId args.username args.password row)
      (hinserted : Inserted row s t) (hnext : next = .returned true)
  | keeps (hidle : Idle s t) (hsound : next.Sound w s.key args) (hnext : next ≠ .returned true)

theorem advance_spec {stage : Stage} {s : State} (hrunning : stage.isRunning)
    (hsound : stage.Sound w s.key args) :
    Ensures (advance w args stage) s (fun next t => Moves w args s next t)
      (fun _ t => Idle s t) := by
  cases stage with
  | start =>
    refine (sha256_yields _).run (fun _ _ h _ => h) ?_
    rintro _ t ht rfl
    exact .keeps ht rfl (by simp)
  | prepareSelect idHash =>
    refine returns_sqlite.run fun ok t ht _ => ?_
    cases ok with
    | false => exact .keeps ht trivial (by simp)
    | true => exact .keeps ht hsound (by simp)
  | stepSelect idHash =>
    refine returns_sqlite.run fun ok t ht _ => ?_
    cases ok with
    | false => exact .keeps ht hsound (by simp)
    | true =>
      simp only [if_true, ensures_bind, ensures_get]
      split
      · exact .keeps ht trivial (by simp)
      · exact .keeps ht hsound (by simp)
  | encryptId idHash =>
    refine (encryptAES256GCM_yields _ _).run_key rfl (fun _ _ h _ => h) ?_
    intro encId t ht hid
    exact .keeps ht ⟨hsound, hid⟩ (by simp)
  | encryptUsername idHash encId =>
    refine (encryptAES256GCM_yields _ _).run_key rfl (fun _ _ h _ => h) ?_
    intro encUsername t ht hname
    exact .keeps ht ⟨hsound.1, hsound.2, hname⟩ (by simp)
  | hashPassword idHash encId encUsername =>
    refine (hashPasswordPBKDF2_yields _ _).run (fun _ _ h _ => h) ?_
    rintro _ t ht rfl
    obtain ⟨rfl, hid, hname⟩ := hsound
    exact .keeps ht (newRow_of_seals (by decide) hid hname) (by simp)
  | prepareInsert row =>
    refine returns_sqlite.run fun ok t ht _ => ?_
    cases ok with
    | false => exact .keeps ht trivial (by simp)
    | true => exact .keeps ht hsound (by simp)
  | stepInsert row =>
    refine (stepInsertUser_spec row s).bind ?_ fun _ _ => False.elim
    rintro done t (⟨rfl, hinserted⟩ | ⟨rfl, hidle, -⟩)
    · exact .adds row hsound hinserted rfl
    · exact .keeps hidle trivial (by simp)
  | returned | raised => simp [Stage.isRunning] at hrunning

/-! ## Many callers -/

variable {calls : Nat → Args} {s t : System} {h : List Event} {ev : Event} {c : Nat}
  {database : State}

/-- A step in terms of the table. -/
inductive StepMoves (w : World) (args : Args) (c : Nat) (s t : System) : Option UserRow → Prop where
  | adds (row : UserRow)
      (hrow : RegisteredRow w s.database.key args.userId args.username args.password row)
      (hinsert : s.database.users.insert row = some t.database.users)
      (hstage : t.stage = Function.update s.stage c (.returned true)) :
      StepMoves w args c s t (some row)
  | keeps (next : Stage) (husers : t.database.users = s.database.users)
      (hstage : t.stage = Function.update s.stage c next)
      (hsound : next.Sound w s.database.key args) (hnext : next ≠ .returned true) :
      StepMoves w args c s t none

theorem next_moves (hrunning : (s.stage c).isRunning)
    (hsound : (s.stage c).Sound w s.database.key (calls c)) :
    (s.next w calls c).database.key = s.database.key ∧
      ∃ inserted, StepMoves w (calls c) c s (s.next w calls c) inserted := by
  have hspec := advance_spec hrunning hsound
  cases hrun : (advance w (calls c) (s.stage c)).run s.database with
  | ok next u =>
    have hnext : s.next w calls c = ⟨u, Function.update s.stage c next⟩ := by
      simp [System.next, finalState, stageAfter, hrun]
    rw [hnext]
    cases hspec.of_ok hrun with
    | adds row hrow hinserted hreturned =>
      obtain ⟨users, n, hinsert, rfl⟩ := hinserted
      exact ⟨rfl, some row, .adds row hrow hinsert (by rw [hreturned])⟩
    | keeps hidle hsound hreturned =>
      exact ⟨hidle.key, none, .keeps next hidle.users rfl hsound hreturned⟩
  | error fault u =>
    have hnext : s.next w calls c = ⟨u, Function.update s.stage c (.raised fault)⟩ := by
      simp [System.next, finalState, stageAfter, hrun]
    have hidle : Idle s.database u := hspec.of_error hrun
    rw [hnext]
    exact ⟨hidle.key, none, .keeps (.raised fault) hidle.users rfl trivial (by simp)⟩

theorem StepMoves.rows {inserted : Option UserRow} {args : Args}
    (h : StepMoves w args c s t inserted) :
    t.database.users.rows = s.database.users.rows ++ inserted.toList := by
  cases h with
  | adds row _ hinsert => exact Table.rows_insert hinsert
  | keeps next husers => simp [husers]

theorem Step.moves (hstep : Step w calls s ev t)
    (hsound : (s.stage ev.call).Sound w s.database.key (calls ev.call)) :
    t.database.key = s.database.key ∧ StepMoves w (calls ev.call) ev.call s t ev.inserted := by
  obtain ⟨hrunning, rfl, hrows⟩ := hstep
  obtain ⟨hkey, inserted, hmoves⟩ := next_moves hrunning hsound
  have heq : ev.inserted = inserted := by
    have hlist := List.append_cancel_left (hrows.symm.trans hmoves.rows)
    cases hev : ev.inserted <;> cases inserted <;> simp_all
  exact ⟨hkey, heq ▸ hmoves⟩

/-- The rows that a run has added, oldest first. -/
def insertedRows : List Event → List UserRow
  | [] => []
  | ev :: h => insertedRows h ++ ev.inserted.toList

theorem mem_insertedRows {row : UserRow} :
    row ∈ insertedRows h ↔ ∃ c, ⟨c, some row⟩ ∈ h := by
  induction h with
  | nil => simp [insertedRows]
  | cons ev h ih =>
    obtain ⟨c, inserted⟩ := ev
    cases inserted <;> simp [insertedRows, ih, or_comm, exists_or, eq_comm]

/-- What holds in every reachable state. -/
structure Sound (w : World) (calls : Nat → Args) (database : State) (h : List Event)
    (t : System) : Prop where
  key : t.database.key = database.key
  rows : t.database.users.rows = database.users.rows ++ insertedRows h
  stage : ∀ c, (t.stage c).Sound w database.key (calls c)
  returned : ∀ c, t.stage c = .returned true ↔ ∃ row, ⟨c, some row⟩ ∈ h
  row : ∀ c row, ⟨c, some row⟩ ∈ h →
    RegisteredRow w database.key (calls c).userId (calls c).username (calls c).password row
  unique : ∀ c d row row', ⟨c, some row⟩ ∈ h → ⟨d, some row'⟩ ∈ h →
    row.userIdHash = row'.userIdHash → c = d

theorem sound_ready : Sound w calls database [] (.ready database) where
  key := rfl
  rows := by simp [System.ready, insertedRows]
  stage c := trivial
  returned c := by simp [System.ready]
  row c row h := nomatch h
  unique c d row row' h := nomatch h

/-- Another call than the one that moves. -/
theorem stage_of_ne {next : Stage} (hstage : t.stage = Function.update s.stage c next) {d : Nat}
    (hd : d ≠ c) : t.stage d = s.stage d := by
  rw [hstage, Function.update_of_ne hd]

theorem Sound.adds (hs : Sound w calls database h s) {row : UserRow}
    (hkey : t.database.key = s.database.key)
    (hrow : RegisteredRow w database.key (calls c).userId (calls c).username (calls c).password row)
    (hinsert : s.database.users.insert row = some t.database.users)
    (hstage : t.stage = Function.update s.stage c (.returned true)) :
    Sound w calls database (⟨c, some row⟩ :: h) t := by
  have hnew (d : Nat) (row' : UserRow) (hmem : ⟨d, some row'⟩ ∈ h) :
      row'.userIdHash ≠ row.userIdHash := by
    have hnone := Table.find_eq_none.mp (Table.find_of_insert hinsert)
    refine hnone row' ?_
    rw [hs.rows]
    exact List.mem_append_right _ (mem_insertedRows.mpr ⟨d, hmem⟩)
  refine ⟨hkey.trans hs.key, ?_, fun d => ?_, fun d => ?_, fun d row' hmem => ?_,
    fun d e row' row'' hd he heq => ?_⟩
  · rw [Table.rows_insert hinsert, hs.rows, List.append_assoc]
    rfl
  · by_cases hd : d = c
    · rw [hd, hstage, Function.update_self]
      trivial
    · exact stage_of_ne hstage hd ▸ hs.stage d
  · by_cases hd : d = c
    · subst hd
      simp [hstage]
    · rw [stage_of_ne hstage hd, hs.returned d]
      simp [hd]
  · rcases List.mem_cons.mp hmem with heq | hmem
    · obtain ⟨rfl, rfl⟩ : d = c ∧ row' = row := by simpa using heq
      exact hrow
    · exact hs.row d row' hmem
  · rcases List.mem_cons.mp hd with hnewest | hold <;>
      rcases List.mem_cons.mp he with hnewest' | hold'
    · obtain ⟨rfl, -⟩ : d = c ∧ row' = row := by simpa using hnewest
      obtain ⟨rfl, -⟩ : e = d ∧ row'' = row := by simpa using hnewest'
      rfl
    · obtain ⟨-, rfl⟩ : d = c ∧ row' = row := by simpa using hnewest
      exact absurd heq.symm (hnew e row'' hold')
    · obtain ⟨-, rfl⟩ : e = c ∧ row'' = row := by simpa using hnewest'
      exact absurd heq (hnew d row' hold)
    · exact hs.unique d e row' row'' hold hold' heq

theorem Sound.keeps (hs : Sound w calls database h s) {next : Stage}
    (hkey : t.database.key = s.database.key) (husers : t.database.users = s.database.users)
    (hrunning : (s.stage c).isRunning) (hstage : t.stage = Function.update s.stage c next)
    (hsound : next.Sound w database.key (calls c)) (hnext : next ≠ .returned true) :
    Sound w calls database (⟨c, none⟩ :: h) t := by
  refine ⟨hkey.trans hs.key, by simpa [insertedRows, husers] using hs.rows, fun d => ?_,
    fun d => ?_, by simpa using hs.row, by simpa using hs.unique⟩
  · by_cases hd : d = c
    · rw [hd, hstage, Function.update_self]
      exact hsound
    · exact stage_of_ne hstage hd ▸ hs.stage d
  · by_cases hd : d = c
    · subst hd
      have hbefore : s.stage d ≠ .returned true := by
        intro hreturned
        simp [hreturned, Stage.isRunning] at hrunning
      have hnone := (hs.returned d).not.mp hbefore
      simpa [hstage, hnext] using hnone
    · rw [stage_of_ne hstage hd, hs.returned d]
      simp

theorem sound_step (hs : Sound w calls database h s) (hstep : Step w calls s ev t) :
    Sound w calls database (ev :: h) t := by
  obtain ⟨hkey, hmoves⟩ := hstep.moves (by rw [hs.key]; exact hs.stage ev.call)
  obtain ⟨c, inserted⟩ := ev
  cases hmoves with
  | adds row hrow hinsert hstage => exact hs.adds hkey (hs.key ▸ hrow) hinsert hstage
  | keeps next husers hstage hsound hnext =>
    exact hs.keeps hkey husers hstep.running hstage (hs.key ▸ hsound) hnext

theorem sound_of_run (hrun : Trace (Step w calls) (.ready database) h t) :
    Sound w calls database h t :=
  hrun.invariant_history (fun _ _ _ _ hs hstep => sound_step hs hstep) sound_ready

/-- A call that has not ended can go on, whatever the others do. -/
theorem goes_on (hrun : Trace (Step w calls) (.ready database) h t)
    (hrunning : (t.stage c).isRunning) :
    ∃ inserted, Trace (Step w calls) (.ready database) (⟨c, inserted⟩ :: h) (t.next w calls c) := by
  have hs := sound_of_run hrun
  have hsound : (t.stage c).Sound w t.database.key (calls c) := by
    rw [hs.key]
    exact hs.stage c
  obtain ⟨-, inserted, hmoves⟩ := next_moves hrunning hsound
  exact ⟨inserted, hrun.step ⟨hrunning, rfl, hmoves.rows⟩⟩

/-- Every caller in the order has something left to do when it is its turn. -/
abbrev Busy (w : World) (calls : Nat → Args) (database : State) (order : List Nat) : Prop :=
  EachStep (System.next w calls) (.ready database) (fun s c => (s.stage c).isRunning) order

/-- The callers may be scheduled in any order. -/
theorem run_of_order {order : List Nat} (horder : Busy w calls database order) :
    ∃ h, h.map Event.call = order ∧ Trace (Step w calls) (.ready database) h
      (replay (System.next w calls) (.ready database) order) := by
  induction order with
  | nil => exact ⟨[], rfl, .refl⟩
  | cons c order ih =>
    obtain ⟨h, hcalls, hrun⟩ := ih horder.2
    obtain ⟨inserted, hrun'⟩ := goes_on hrun horder.1
    exact ⟨_, by simp [hcalls], hrun'⟩

/-! ## Registration -/

/-- Of the calls for one id at most one returns true, and it is the one whose insertion has added
a row. No other call changes the table, and no row that was there is touched. -/
theorem registration_exact (hrun : Trace (Step w calls) (.ready database) h t) :
    (∀ c, t.stage c = .returned true ↔ ∃ row, ⟨c, some row⟩ ∈ h ∧
      RegisteredRow w database.key (calls c).userId (calls c).username (calls c).password row) ∧
    (∀ c d, (calls c).userId = (calls d).userId → t.stage c = .returned true →
      t.stage d = .returned true → c = d) ∧
    (∀ c, t.stage c ≠ .returned true → ∀ inserted, ⟨c, inserted⟩ ∈ h → inserted = none) ∧
    (∀ c, database.users.find (w.userKey (calls c).userId) ≠ none → t.stage c ≠ .returned true) ∧
    t.database.users.rows = database.users.rows ++ insertedRows h := by
  have hs := sound_of_run hrun
  refine ⟨fun c => ?_, fun c d hid hc hd => ?_, fun c hc inserted hmem => ?_, fun c htaken hc => ?_,
    hs.rows⟩
  · rw [hs.returned c]
    exact ⟨fun ⟨row, hmem⟩ => ⟨row, hmem, hs.row c row hmem⟩, fun ⟨row, hmem, _⟩ => ⟨row, hmem⟩⟩
  · obtain ⟨row, hrow⟩ := (hs.returned c).mp hc
    obtain ⟨row', hrow'⟩ := (hs.returned d).mp hd
    refine hs.unique c d row row' hrow hrow' ?_
    rw [(hs.row c row hrow).userIdHash, (hs.row d row' hrow').userIdHash, hid]
  · cases inserted with
    | none => rfl
    | some row => exact absurd ((hs.returned c).mpr ⟨row, hmem⟩) hc
  · obtain ⟨row, hrow⟩ := (hs.returned c).mp hc
    obtain ⟨old, hold⟩ := Option.ne_none_iff_exists'.mp htaken
    obtain ⟨hmem, hkey⟩ := Table.find_eq_some.mp hold
    have hdistinct := t.database.users.distinct
    rw [hs.rows, List.map_append, List.nodup_append] at hdistinct
    refine hdistinct.2.2 _ (List.mem_map_of_mem hmem) _
      (List.mem_map_of_mem (mem_insertedRows.mpr ⟨c, hrow⟩)) ?_
    rw [hkey, (hs.row c row hrow).userIdHash]

/-! ## A race -/

/-- Two callers who want the same name. -/
def bobTwice : Nat → Args := fun _ => ⟨str "bob", str "Bob", str "pw"⟩

/-- A database without users. -/
def unused : State := { State.started 0 with key := Reference.key }

/-- Both look for the id before either of them inserts its row. -/
def race : List Nat := [1, 0, 0, 0, 0, 0, 0, 1, 1, 1, 1, 1, 1, 1, 0, 0]

def raced : System := replay (System.next Reference.world bobTwice) (.ready unused) race

theorem busy_race : Busy Reference.world bobTwice unused race :=
  ⟨rfl, rfl, rfl, rfl, rfl, rfl, rfl, rfl, rfl, rfl, rfl, rfl, rfl, rfl, rfl, rfl, trivial⟩

theorem registration_exact_race :
    ∃ h, h.map Event.call = race ∧
      (raced.stage 0 = .returned true ↔ ∃ row, ⟨0, some row⟩ ∈ h ∧
        RegisteredRow Reference.world Reference.key (str "bob") (str "Bob") (str "pw") row) ∧
      raced.database.users.rows = insertedRows h := by
  obtain ⟨h, hcalls, hrun⟩ := run_of_order busy_race
  obtain ⟨hreturned, -, -, -, hrows⟩ := registration_exact hrun
  exact ⟨h, hcalls, hreturned 0, hrows⟩

example : raced.stage 0 = .returned true ∧ raced.stage 1 = .returned false := ⟨rfl, rfl⟩

end CCTVWebServer.Registration
