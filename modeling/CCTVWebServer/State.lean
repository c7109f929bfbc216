import CCTVWebServer.CryptoHelper
import CCTVWebServer.Foundation.Table

/-!
# The state of the server process

The open database with its two tables and the key derived at start, the session
map, the relayer, and the traffic of the event bus. The tables carry their
constraints: no two users rows share a `user_id_hash`, and AUTOINCREMENT never
hands out an `id` twice.
-/

namespace CCTVWebServer

open Foundation

/-! ## Tables -/

/-- A TEXT value. Values are bound as NUL-terminated strings, so none contains a NUL. -/
abbrev SqlText := {text : Bytes // (0 : UInt8) ∉ text}

/-- `sqlite3_bind_text(.., text.c_str(), -1, ..)`; `sqlite3_column_text` is the value itself. -/
def bindText (text : Bytes) : SqlText := ⟨cstr text, not_mem_cstr text⟩

theorem bindText_val {text : Bytes} (h : (0 : UInt8) ∉ text) : (bindText text).val = text :=
  cstr_of_not_mem h

theorem bindText_toHex_inj {a b : Bytes} : bindText (toHex a) = bindText (toHex b) ↔ a = b := by
  rw [Subtype.ext_iff, bindText_val (not_mem_toHex a), bindText_val (not_mem_toHex b)]
  exact toHex_injective.eq_iff

/-- A row of `users`. -/
structure UserRow where
  userIdHash : SqlText
  userIdEnc : SqlText
  usernameEnc : SqlText
  passwordHash : SqlText
  role : SqlText
  isApproved : Int
  isActive : Int

/-- `users`, with PRIMARY KEY `user_id_hash`. -/
abbrev UsersTable := Table UserRow.userIdHash

/-- A row of `rtsp_config`. -/
structure RtspRow where
  id : Nat
  nameEnc : SqlText
  urlEnc : SqlText

/-- `rtsp_config`, with the largest `id` that was ever given out. -/
structure RtspTable where
  rows : List RtspRow
  sequence : Nat
  bounded : ∀ row ∈ rows, row.id ≤ sequence

namespace RtspTable

def empty : RtspTable := ⟨[], 0, by simp⟩

/-- `INSERT`, with the next `id` of AUTOINCREMENT. -/
def insert (t : RtspTable) (nameEnc urlEnc : SqlText) : RtspTable :=
  ⟨t.rows ++ [⟨t.sequence + 1, nameEnc, urlEnc⟩], t.sequence + 1, by
    intro row hrow
    rcases List.mem_append.mp hrow with h | h
    · exact (t.bounded row h).trans (Nat.le_succ _)
    · rw [List.mem_singleton.mp h]⟩

/-- `DELETE` without a condition; the sequence goes on. -/
def clear (t : RtspTable) : RtspTable := ⟨[], t.sequence, by simp⟩

/-- `ORDER BY id DESC LIMIT 1`. -/
def latest (t : RtspTable) : Option RtspRow := t.rows.argmax (·.id)

end RtspTable

/-- The tables of a database file. -/
structure DatabaseFile where
  users : UsersTable
  rtspConfig : RtspTable

/-- A file in which no table has been created: nothing reads the tables before they are. -/
def DatabaseFile.new : DatabaseFile := ⟨Table.empty, RtspTable.empty⟩

/-! ## Events -/

structure HttpRequestEvent where
  connId : Int
  method : Bytes
  url : Bytes
  body : Bytes
  cookies : Bytes
  deriving DecidableEq

structure HttpResponseEvent where
  connId : Int
  statusCode : Int
  body : Bytes
  deriving DecidableEq

/-! ## The process -/

/-- The session map, token to user id. -/
abbrev Sessions := AList fun _ : Bytes => Bytes

/-- The stream relayer as its callers see it. -/
structure StreamRelayer where
  running : Bool
  rtspUrl : Bytes

structure State where
  dbPath : Bytes
  key : Bytes
  users : UsersTable
  rtspConfig : RtspTable
  activeSessions : Sessions
  relayer : StreamRelayer
  /-- The response events handed to the subscribers, oldest first. -/
  published : List HttpResponseEvent
  /-- The thread that holds the mutex of the event bus. -/
  busOwner : Option Nat
  /-- The number of the next call to the world. -/
  calls : Nat

/-- A process that has not opened its database. -/
def State.started (calls : Nat) : State where
  dbPath := []
  key := []
  users := Table.empty
  rtspConfig := RtspTable.empty
  activeSessions := ∅
  relayer := ⟨false, []⟩
  published := []
  busOwner := none
  calls := calls

/-- The code of the server. -/
abbrev Server := EStateM Fault State

/-- Call into the world. -/
def outside {α : Type} (m : Outside α) : Server α :=
  focus State.calls (fun n s => { s with calls := n }) m

/-- Only calls to the world lie between the two states. -/
def Idle (s t : State) : Prop := ∃ n, t = { s with calls := n }

theorem Idle.refl (s : State) : Idle s s := ⟨s.calls, rfl⟩

theorem Idle.trans {s t u : State} (hst : Idle s t) (htu : Idle t u) : Idle s u := by
  obtain ⟨_, rfl⟩ := hst
  obtain ⟨n, rfl⟩ := htu
  exact ⟨n, rfl⟩

/-- The contract of a call to the world, with the code that follows it. -/
theorem Yields.run {w : World} {α β : Type} {m : Outside α} {P : α → Prop} {why : Prop}
    (hm : Yields w m P why) {f : α → Server β} {s : State} {Q : β → State → Prop}
    {E : Fault → State → Prop}
    (hE : ∀ fault t, Idle s t → Raised w why fault → E fault t)
    (hQ : ∀ a t, Idle s t → P a → Ensures (f a) t Q E) :
    Ensures (outside m >>= f) s Q E := by
  rw [ensures_bind, outside, ensures_focus]
  exact (hm s.calls).mono (fun a n => hQ a _ ⟨n, rfl⟩) (fun fault n => hE fault _ ⟨n, rfl⟩)

/-- The same for a call that is given the key of the database. -/
theorem Yields.run_key {w : World} {α β : Type} {m : Bytes → Outside α} {P : α → Prop} {why : Prop}
    {key : Bytes} (hm : Yields w (m key) P why) {f : α → Server β} {s : State}
    (hkey : s.key = key) {Q : β → State → Prop} {E : Fault → State → Prop}
    (hE : ∀ fault t, Idle s t → Raised w why fault → E fault t)
    (hQ : ∀ a t, Idle s t → P a → Ensures (f a) t Q E) :
    Ensures (get >>= fun t => outside (m t.key) >>= f) s Q E := by
  rw [ensures_bind, ensures_get, hkey]
  exact hm.run hE hQ

theorem Returns.run {α β : Type} {m : Outside α} {P : α → Prop} (hm : Returns m P)
    {f : α → Server β} {s : State} {Q : β → State → Prop} {E : Fault → State → Prop}
    (hQ : ∀ a t, Idle s t → P a → Ensures (f a) t Q E) : Ensures (outside m >>= f) s Q E := by
  rw [ensures_bind, outside, ensures_focus]
  exact (hm s.calls).mono (fun a n => hQ a _ ⟨n, rfl⟩) fun _ _ => False.elim

end CCTVWebServer
