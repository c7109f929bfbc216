import CCTVWebServer.Nlohmann
import CCTVWebServer.Foundation.Action

/-!
# What lies outside the program

OpenSSL, SQLite, the random sources and the file system are not part of the
repository. A `World` says what they compute and how each call to them ends: the
`n`-th fallible call of the process succeeds or fails as the world decides, so a
statement about every world is one about every pattern of failures. Code that
only asks the world runs in `Outside`, whose state counts the calls.
-/

namespace CCTVWebServer

open Foundation

structure World where
  /-- nlohmann::json. -/
  json : Nlohmann
  /-- The contents of the files that can be opened. -/
  readFile : Bytes → Option Bytes
  /-- SHA-256. The length of a digest is left open, so that it may be taken to be injective. -/
  sha256Digest : Bytes → Bytes
  /-- PBKDF2-HMAC-SHA256 of a password and a salt, 10000 rounds and 32 bytes. -/
  pbkdf2 : Bytes → Bytes → Bytes
  /-- AES-256-GCM under a key and an IV: the tag and the ciphertext of a plaintext. -/
  gcmSeal : Bytes → Bytes → Bytes → Bytes × Bytes
  /-- AES-256-GCM under a key and an IV: the plaintext of an authentic tag and ciphertext. -/
  gcmOpen : Bytes → Bytes → Bytes → Bytes → Option Bytes
  opensslOk : Nat → Bool
  sqliteOk : Nat → Bool
  /-- The bytes a call to a random source yields. -/
  draw : Nat → Nat → UInt8
  /-- `sqlite3_errmsg` after a failed call. -/
  sqliteMessage : Nat → Bytes

/-- What leaves a function other than by a return: an exception derived from
`std::exception`, with the text of its `what()`, or a lock that is never granted. -/
inductive Fault where
  | exception (what : Bytes)
  | deadlock
  deriving DecidableEq

/-- Code whose only effect is to call into the world. -/
abbrev Outside := EStateM Fault Nat

/-- The number of the next call. -/
def nextCall : Outside Nat := fun n => .ok n (n + 1)

@[simp] theorem ensures_nextCall (n : Nat) (Q : Nat → Nat → Prop) (E : Fault → Nat → Prop) :
    Ensures nextCall n Q E ↔ Q n (n + 1) := Iff.rfl

/-- `catch (const std::exception&)` around a call, its result being absent after an exception. -/
def attempt {σ α : Type} (m : EStateM Fault σ α) : EStateM Fault σ (Option α) :=
  tryCatch (some <$> m) fun fault =>
    match fault with
    | .exception _ => pure none
    | .deadlock => throw .deadlock

variable (w : World)

/-- A call to OpenSSL whose failure the caller turns into a `std::runtime_error`. -/
def openssl (what : String) : Outside Unit := do
  if w.opensslOk (← nextCall) then pure () else throw (.exception (str what))

/-- A call to SQLite that reports whether it succeeded. -/
def sqlite : Outside Bool := do
  return w.sqliteOk (← nextCall)

/-- Some call to OpenSSL fails. -/
def OpensslFails : Prop := ∃ n, w.opensslOk n = false

/-- Some call to SQLite fails. -/
def SqliteFails : Prop := ∃ n, w.sqliteOk n = false

/-- The same libraries, when no call to them fails. -/
def World.reliable : World := { w with opensslOk := fun _ => true, sqliteOk := fun _ => true }

theorem not_sqliteFails_reliable : ¬ SqliteFails w.reliable := by rintro ⟨_, ⟨⟩⟩

theorem not_opensslFails_reliable : ¬ OpensslFails w.reliable := by rintro ⟨_, ⟨⟩⟩

/-! ## Contracts of outside code -/

/-- The fault is an exception with an ASCII text, and OpenSSL fails or `why` holds. -/
def Raised (why : Prop) (fault : Fault) : Prop :=
  (∃ what, fault = .exception what ∧ Utf8.Ascii what) ∧ (OpensslFails w ∨ why)

/-- Wherever it starts, the code returns into `P`, or raises for the reason `why`. -/
def Yields {α : Type} (m : Outside α) (P : α → Prop) (why : Prop) : Prop :=
  ∀ n, Ensures m n (fun a _ => P a) (fun fault _ => Raised w why fault)

variable {w}

theorem Yields.bind {α β : Type} {m : Outside α} {f : α → Outside β} {P : α → Prop}
    {Q : β → Prop} {why why' : Prop} (hm : Yields w m P why) (hwhy : why → why')
    (hf : ∀ a, P a → Yields w (f a) Q why') : Yields w (m >>= f) Q why' := fun n =>
  (hm n).bind (fun a t ha => hf a ha t) fun _ _ h => ⟨h.1, h.2.imp_right hwhy⟩

theorem yields_pure {α : Type} {a : α} {P : α → Prop} {why : Prop} (h : P a) :
    Yields w (pure a) P why := fun _ => h

theorem yields_throw {α : Type} {what : String} {P : α → Prop} {why : Prop}
    (hascii : Utf8.Ascii (str what)) (hwhy : why) :
    Yields w (throw (.exception (str what)) : Outside α) P why := fun _ =>
  ⟨⟨_, rfl, hascii⟩, .inr hwhy⟩

/-- What follows an exception is not reached. -/
theorem yields_throw_bind {α β : Type} {what : String} {f : α → Outside β} {Q : β → Prop}
    {why : Prop} (hascii : Utf8.Ascii (str what)) (hwhy : why) :
    Yields w ((throw (.exception (str what)) : Outside α) >>= f) Q why := fun _ =>
  ⟨⟨_, rfl, hascii⟩, .inr hwhy⟩

/-- Code behind a call to OpenSSL whose failure raises an ASCII text. -/
theorem Yields.after_openssl {α : Type} {what : String} {m : Outside α} {P : α → Prop}
    {why : Prop} (hascii : Utf8.Ascii (str what)) (hm : Yields w m P why) :
    Yields w (openssl w what >>= fun _ => m) P why := by
  intro n
  simp only [openssl, ensures_bind, ensures_nextCall, ensures_ite, ensures_pure, ensures_throw]
  exact ⟨fun _ => hm (n + 1), fun h => ⟨⟨_, rfl, hascii⟩, .inl ⟨n, by simpa using h⟩⟩⟩

/-- Wherever it starts, the code returns into `P`. -/
def Returns {α : Type} (m : Outside α) (P : α → Prop) : Prop :=
  ∀ n, Ensures m n (fun a _ => P a) (fun _ _ => False)

theorem Returns.mono {α : Type} {m : Outside α} {P Q : α → Prop} (hm : Returns m P)
    (h : ∀ a, P a → Q a) : Returns m Q := fun n =>
  Ensures.mono (hm n) (fun a _ ha => h a ha) fun _ _ => id

theorem Returns.bind {α β : Type} {m : Outside α} {f : α → Outside β} {P : α → Prop}
    {Q : β → Prop} (hm : Returns m P) (hf : ∀ a, P a → Returns (f a) Q) :
    Returns (m >>= f) Q := fun n => (hm n).bind (fun a t ha => hf a ha t) fun _ _ => False.elim

theorem returns_pure {α : Type} {a : α} {P : α → Prop} (h : P a) : Returns (pure a) P := fun _ => h

theorem returns_sqlite : Returns (sqlite w) (fun ok => ok = false → SqliteFails w) := by
  intro n
  simp only [sqlite, ensures_bind, ensures_nextCall, ensures_pure]
  exact fun h => ⟨n, h⟩

/-- A caught exception leaves an absent result. -/
theorem returns_attempt {α : Type} {m : Outside α} {P : α → Prop} {why : Prop}
    (hm : Yields w m P why) :
    Returns (attempt m) (fun o =>
      (∀ a, o = some a → P a) ∧ (o = none → OpensslFails w ∨ why)) := by
  intro n
  simp only [attempt, ensures_tryCatch, ensures_map]
  refine (hm n).mono (fun a _ ha => ⟨by simpa using ha, by simp⟩) ?_
  rintro fault t ⟨⟨what, rfl, -⟩, hwhy⟩
  exact ⟨by simp, fun _ => hwhy⟩

end CCTVWebServer
