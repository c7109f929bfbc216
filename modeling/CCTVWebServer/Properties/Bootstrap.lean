import CCTVWebServer.Reference
import CCTVWebServer.Specification.Startup

/-!
# The account of the first start

`init` raises when the database cannot be opened or a key cannot be derived, but
`bootstrapAdmin` swallows the failure of its query and of its insertion. So a start
that reports nothing may leave the server without an admin, and the condition under
which this happens is told from the calls and from the table that is found.
-/

namespace CCTVWebServer

open Foundation

variable {w : World} {dbPath masterSecret : Bytes}

/-! ## When the account is lost -/

/-- There is a row with the key and the role of the admin. -/
def HasAdmin (w : World) (users : UsersTable) : Prop :=
  ∃ row, users.find (w.userKey (str "admin")) = some row ∧ row.role.val = str "admin"

/-- A start that reports nothing leaves an admin, and every row as it was. -/
def BootstrapKept (w : World) (stored : Bytes → DatabaseFile) (dbPath masterSecret : Bytes)
    (n : Nat) : Prop :=
  ∀ t, (init w stored dbPath masterSecret).run (State.started n) = .ok () t →
    HasAdmin w t.users ∧ ∀ row ∈ (stored dbPath).users.rows, row ∈ t.users.rows

/-- No row of an admin is found, all calls before the query succeed, and then the query cannot
be prepared or counts a row of another role, or the columns are computed and the row is not
inserted. -/
def LosesAdmin (w : World) (users : UsersTable) (masterSecret : Bytes) (n : Nat) : Prop :=
  AllOk w n openCalls ∧ ¬ HasAdmin w users ∧
    (StopsAtCount w (n + 7) users ∨
      ComputesColumns w (n + 7) (w.sha256Digest masterSecret) ∧ ¬ InsertsRow w (n + 7) users)

theorem hasAdmin_insert {key : Bytes} {old new : UsersTable} {row : UserRow}
    (hrow : AdminRow w key row) (hinsert : old.insert row = some new) : HasAdmin w new := by
  refine ⟨row, ?_, hrow.role⟩
  rw [Table.find_insert hinsert, if_pos hrow.userIdHash.symm]

theorem LosesAdmin.not_bootstrapKept {stored : Bytes → DatabaseFile} {n : Nat}
    (h : LosesAdmin w (stored dbPath).users masterSecret n) :
    ¬ BootstrapKept w stored dbPath masterSecret n := by
  obtain ⟨hopen, hnone, hwhy⟩ := h
  have hspec := init_uses (w := w) stored dbPath masterSecret n
  intro hkept
  cases hrun : (init w stored dbPath masterSecret).run (State.started n) with
  | ok _ t =>
    obtain ⟨-, houtcome⟩ := hspec.of_ok hrun
    cases houtcome with
    | kept _ hsame => exact hnone (hsame ▸ (hkept t hrun).1)
    | inserted hgoes hinserts => exact hwhy.elim hgoes fun hlost => hlost.2 hinserts
  | error _ t =>
    rcases hspec.of_error hrun with hno | ⟨hgoes, hcolumns⟩
    · exact hno hopen
    · exact hwhy.elim hgoes fun hlost => hcolumns hlost.1

/-- The bootstrap is not lost, except where a failure is swallowed and no admin was there. -/
theorem bootstrapKept_iff (w : World) (stored : Bytes → DatabaseFile)
    (dbPath masterSecret : Bytes) (n : Nat) :
    BootstrapKept w stored dbPath masterSecret n ↔
      ¬ LosesAdmin w (stored dbPath).users masterSecret n := by
  constructor
  · intro hkept hlost
    exact hlost.not_bootstrapKept hkept
  · intro hsafe t hrun
    obtain ⟨hopen, houtcome⟩ := (init_uses stored dbPath masterSecret n).of_ok hrun
    cases houtcome with
    | kept hwhy hsame =>
      rw [hsame]
      refine ⟨?_, fun _ hrow => hrow⟩
      by_contra hnone
      exact hsafe ⟨hopen, hnone, hwhy⟩
    | inserted _ _ hrow hinsert =>
      refine ⟨hasAdmin_insert hrow hinsert, fun row hold => ?_⟩
      rw [Table.rows_insert hinsert]
      exact List.mem_append_left _ hold

/-- The step that inserts the row fails, and the server starts without an admin. -/
theorem failingInsert_not_bootstrapKept :
    ¬ BootstrapKept (Reference.failing 27) (fun _ => DatabaseFile.new) Reference.dbPath
      Reference.masterSecret 0 := by
  refine LosesAdmin.not_bootstrapKept ⟨by decide, ?_, .inr ⟨⟨?_, by decide⟩, ?_⟩⟩
  · rintro ⟨row, hrow, -⟩
    cases hrow
  · decide +kernel
  · rintro ⟨-, hcalls⟩
    revert hcalls
    decide

end CCTVWebServer
