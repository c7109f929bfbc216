import CCTVWebServer.Foundation.History
import CCTVWebServer.State

/-!
# StreamRelayer

`start` and `stop` as their callers run them side by side. A critical section is one
step, but for the `join` in `stop`, which keeps the mutex until the relay thread has
left `runLoop`. The lock in `start` is released around the inner call of `stop`.
-/

namespace CCTVWebServer.Relaying

open Foundation

/-- Where a caller is. -/
inductive Call where
  /-- Outside. -/
  | idle
  /-- Before the first section of `start(url)`. -/
  | starting (url : Bytes)
  /-- Before the section of `stop()`, which is the inner one of a `start(url)`. -/
  | stopping (restart : Option Bytes)
  /-- In `thread_.join()`. -/
  | joining (restart : Option Bytes)
  /-- Before the last section of `start(url)`, with the lock to be taken again. -/
  | finishing (url : Bytes)
  deriving DecidableEq

/-- Where `stop()` returns to. -/
def Call.afterStop : Option Bytes → Call
  | none => .idle
  | some url => .finishing url

structure System where
  running : Bool
  /-- The thread that `thread_` holds while it is joinable. -/
  thread : Option Nat
  rtspUrl : Bytes
  /-- Whoever holds `mutex_` from one step to the next. -/
  mutex : Option Nat
  /-- How many relay threads were made, and which of them are in `runLoop`. -/
  created : Nat
  relays : List Nat
  call : Nat → Call

/-- The relayer as it is constructed. -/
def System.constructed : System := ⟨false, none, [], none, 0, [], fun _ => .idle⟩

def System.setCall (s : System) (c : Nat) (call : Call) : System :=
  { s with call := Function.update s.call c call }

/-! ## Critical sections -/

/-- `std::thread(&StreamRelayer::runLoop, this)`. -/
def System.spawn (s : System) : System :=
  { s with created := s.created + 1, relays := s.created :: s.relays }

/-- `thread_ = std::thread(..)`, which terminates the process when `thread_` is joinable. -/
def assignThread (s : System) : Option System :=
  if s.thread.isSome then none else some { s.spawn with thread := some s.created }

/-- The last lines of `start`. -/
def launch (url : Bytes) (s : System) : Option System :=
  assignThread { s with rtspUrl := url, running := true }

/-- The section of `stop()`, up to the `join`. -/
def stop (c : Nat) (restart : Option Bytes) (s : System) : System :=
  if s.running then
    if s.thread.isSome then
      { s with running := false, mutex := some c }.setCall c (.joining restart)
    else { s with running := false }.setCall c (.afterStop restart)
  else s.setCall c (.afterStop restart)

/-- The end of `stop()`. -/
def joined (c : Nat) (restart : Option Bytes) (s : System) : System :=
  { s with thread := none, mutex := none }.setCall c (.afterStop restart)

/-! ## Events -/

inductive Event where
  | callStart (c : Nat) (url : Bytes)
  | callStop (c : Nat)
  /-- The first section of `start`, when the relayer runs: the lock is given up. -/
  | check (c : Nat) (url : Bytes)
  /-- The only section of `start`, when it does not. -/
  | start (c : Nat) (url : Bytes)
  | stop (c : Nat) (restart : Option Bytes)
  /-- A relay thread leaves `while (running_)`. -/
  | leave (r : Nat)
  | joined (c : Nat) (restart : Option Bytes)
  /-- The last section of `start`, after the inner `stop`. -/
  | finish (c : Nat) (url : Bytes)
  deriving DecidableEq

def Enabled (s : System) : Event → Prop
  | .callStart c _ | .callStop c => s.call c = .idle
  | .check c url => s.mutex = none ∧ s.call c = .starting url ∧ s.running = true
  | .start c url => s.mutex = none ∧ s.call c = .starting url ∧ s.running = false
  | .stop c restart => s.mutex = none ∧ s.call c = .stopping restart
  | .leave r => r ∈ s.relays ∧ s.running = false
  | .joined c restart => s.call c = .joining restart ∧ ∀ r, s.thread = some r → r ∉ s.relays
  | .finish c url => s.mutex = none ∧ s.call c = .finishing url

/-- What an event does, unless it terminates the process. -/
def perform : Event → System → Option System
  | .callStart c url, s => some (s.setCall c (.starting url))
  | .callStop c, s => some (s.setCall c (.stopping none))
  | .check c url, s => some (s.setCall c (.stopping (some url)))
  | .start c url, s => launch url (s.setCall c .idle)
  | .stop c restart, s => some (stop c restart s)
  | .leave r, s => some { s with relays := s.relays.erase r }
  | .joined c restart, s => some (joined c restart s)
  | .finish c url, s => launch url (s.setCall c .idle)

def Step (s : System) (ev : Event) (t : System) : Prop := Enabled s ev ∧ perform ev s = some t

/-- The relayer as one caller at a time sees it. -/
def System.view (s : System) : StreamRelayer := ⟨s.running, s.rtspUrl⟩

end CCTVWebServer.Relaying
