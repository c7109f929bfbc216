import CCTVWebServer.Database
import CCTVWebServer.Foundation.History

/-!
# Registrations side by side

`Database::registerUser`, cut where another caller may come in between. Every caller
works on the one database, and on variables of its own.
-/

namespace CCTVWebServer.Registration

open Foundation

/-- The arguments of a call of `registerUser`. -/
structure Args where
  userId : Bytes
  username : Bytes
  password : Bytes

/-- Where a call is, with the variables that the rest of it reads. -/
inductive Stage where
  | start
  | prepareSelect (idHash : SqlText)
  | stepSelect (idHash : SqlText)
  | encryptId (idHash : SqlText)
  | encryptUsername (idHash : SqlText) (encId : Bytes)
  | hashPassword (idHash : SqlText) (encId encUsername : Bytes)
  | prepareInsert (row : UserRow)
  | stepInsert (row : UserRow)
  | returned (result : Bool)
  | raised (fault : Fault)

def Stage.isRunning : Stage → Bool
  | .returned _ | .raised _ => false
  | _ => true

variable (w : World) (args : Args)

/-- What a call does until another one may come in. -/
def advance : Stage → Server Stage
  | .start => do
    let idHash ← outside (sha256 w args.userId)
    return .prepareSelect (bindText idHash)
  | .prepareSelect idHash => do
    if ¬ (← outside (sqlite w)) then return .returned false
    return .stepSelect idHash
  | .stepSelect idHash => do
    -- without a row the count stays 0
    if ← outside (sqlite w) then
      if (← get).users.count idHash > 0 then return .returned false
    return .encryptId idHash
  | .encryptId idHash => do
    let encId ← outside (encryptAES256GCM w args.userId (← get).key)
    return .encryptUsername idHash encId
  | .encryptUsername idHash encId => do
    let encUsername ← outside (encryptAES256GCM w args.username (← get).key)
    return .hashPassword idHash encId encUsername
  | .hashPassword idHash encId encUsername => do
    let pwHash ← outside (hashPasswordPBKDF2 w args.password args.userId)
    return .prepareInsert {
      userIdHash := idHash
      userIdEnc := bindText encId
      usernameEnc := bindText encUsername
      passwordHash := bindText pwHash
      role := bindText (str "user")
      isApproved := 0
      isActive := 1 }
  | .prepareInsert row => do
    if ¬ (← outside (sqlite w)) then return .returned false
    return .stepInsert row
  | .stepInsert row => do
    let done ← stepInsertUser w row
    return .returned done
  | .returned result => return .returned result
  | .raised fault => throw fault

/-- A call that is left alone for some time. -/
def advances : Nat → Stage → Server Stage
  | 0, stage => return stage
  | n + 1, stage => do
    let stage ← advance w args stage
    advances n stage

/-! ## Many callers -/

structure System where
  database : State
  stage : Nat → Stage

/-- No call has begun. -/
def System.ready (database : State) : System := ⟨database, fun _ => .start⟩

/-- Where a call is after a step. -/
def stageAfter (stage : Stage) (s : State) : Stage :=
  match (advance w args stage).run s with
  | .ok next _ => next
  | .error fault _ => .raised fault

variable (calls : Nat → Args)

/-- The next step of the call `c`. -/
def System.next (c : Nat) (s : System) : System where
  database := finalState (advance w (calls c) (s.stage c)) s.database
  stage := Function.update s.stage c (stageAfter w (calls c) (s.stage c) s.database)

/-- A step of a call, and the row that it adds to the table. -/
structure Event where
  call : Nat
  inserted : Option UserRow

/-- A running call goes on. -/
structure Step (s : System) (ev : Event) (t : System) : Prop where
  running : (s.stage ev.call).isRunning
  next : t = s.next w calls ev.call
  inserted : t.database.users.rows = s.database.users.rows ++ ev.inserted.toList

end CCTVWebServer.Registration
