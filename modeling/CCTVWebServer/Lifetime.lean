import CCTVWebServer.Foundation.Action

/-!
# The objects behind websocket sessions

`WebSocketSession` with the references that keep its objects alive. A session is
owned by `HttpSession::onRead` until that returns, by every handler that waits for
Asio, and by the hub. One event runs at a time: the mutexes of the session and of
the hub are left out, and the session's is taken to be re-entrant, since `sendFrame`
holds it when it calls `doWrite`.
-/

namespace CCTVWebServer.Lifetime

open Foundation

abbrev Frame := List UInt8

/-- A `WebSocketSession`, with the owners of its control block. -/
structure Session where
  /-- The strong count. -/
  strong : Nat
  /-- The pointer in `HttpSession::onRead`. -/
  callers : Nat
  /-- The operations that have not completed; the handler of each holds a pointer. -/
  accepts : Nat
  reads : Nat
  writes : Nat
  writeQueue : List Frame
  isWriting : Bool
  deriving DecidableEq

/-- What there is at an address where no session has been made yet. -/
def Session.absent : Session := ⟨0, 0, 0, 0, 0, [], false⟩

/-- `std::make_shared<WebSocketSession>`, as its caller holds it. -/
def Session.made : Session := { Session.absent with strong := 1, callers := 1 }

def Session.share (o : Session) : Session := { o with strong := o.strong + 1 }

def Session.drop (o : Session) : Session := { o with strong := o.strong - 1 }

structure Heap where
  created : Nat
  session : Nat → Session
  /-- `WebSocketHub::sessions_`. -/
  sessions : List Nat

/-- Before the first upgrade. -/
def Heap.empty : Heap := ⟨0, fun _ => .absent, []⟩

def Heap.update (s : Heap) (i : Nat) (f : Session → Session) : Heap :=
  { s with session := Function.update s.session i (f (s.session i)) }

/-- What ends a program early: `std::bad_weak_ptr`, or `std::terminate`. -/
inductive Abort where
  | badWeakPtr
  | terminated
  deriving DecidableEq

abbrev Program := EStateM Abort Heap

/-! ## Pointers -/

/-- `shared_from_this`, which raises when nobody owns the object. -/
def sharedFromThis (i : Nat) : Program Unit := do
  if ((← get).session i).strong = 0 then throw .badWeakPtr
  modify (·.update i Session.share)

/-- The set gives up its pointer, if it has one. -/
def eraseSession (i : Nat) (s : Heap) : Heap :=
  if i ∈ s.sessions then { s.update i Session.drop with sessions := s.sessions.erase i } else s

/-- The pointer to register is handed over; a second one is dropped. -/
def registerSession (i : Nat) : Program Unit := do
  if i ∈ (← get).sessions then modify (·.update i Session.drop)
  else modify fun s => { s with sessions := i :: s.sessions }

/-- The pointer to unregister is handed over, and goes with the one in the set. -/
def unregisterSession (i : Nat) : Program Unit := do
  modify (eraseSession i)
  modify (·.update i Session.drop)

/-- `~WebSocketSession`. No exception may leave a destructor. -/
def destructor (i : Nat) : Program Unit :=
  tryCatch
    (do
      sharedFromThis i
      unregisterSession i)
    fun _ => throw .terminated

/-- A pointer goes out of scope, and the object with the last one. -/
def release (i : Nat) : Program Unit := do
  modify (·.update i Session.drop)
  if ((← get).session i).strong = 0 then destructor i

/-! ## Member functions -/

def start (i : Nat) : Program Unit := do
  sharedFromThis i
  modify (·.update i fun o => { o with accepts := o.accepts + 1 })

def doRead (i : Nat) : Program Unit := do
  sharedFromThis i
  modify (·.update i fun o => { o with reads := o.reads + 1 })

def onAccept (i : Nat) (ok : Bool) : Program Unit := do
  if ok then
    sharedFromThis i
    registerSession i
    doRead i

def onRead (i : Nat) (ok : Bool) : Program Unit := do
  if ok then doRead i
  else
    sharedFromThis i
    unregisterSession i

def doWrite (i : Nat) : Program Unit := do
  if ((← get).session i).writeQueue = [] then
    modify (·.update i fun o => { o with isWriting := false })
  else
    sharedFromThis i
    modify (·.update i fun o => { o with writes := o.writes + 1 })

def onWrite (i : Nat) (ok : Bool) : Program Unit := do
  if ok then
    modify (·.update i fun o => { o with writeQueue := o.writeQueue.tail })
    doWrite i
  else
    sharedFromThis i
    unregisterSession i

def sendFrame (data : Frame) (i : Nat) : Program Unit := do
  modify (·.update i fun o => { o with writeQueue := o.writeQueue ++ [data] })
  if ((← get).session i).isWriting = false then
    modify (·.update i fun o => { o with isWriting := true })
    doWrite i

/-- `sendFrame` on one session after the other. -/
def sendFrames (data : Frame) : List Nat → Program Unit
  | [] => pure ()
  | i :: sessions => do
    sendFrame data i
    sendFrames data sessions

def broadcastFrame (data : Frame) : Program Unit := do
  sendFrames data (← get).sessions

/-- The branch of `HttpSession::onRead` for an upgrade request. -/
def onUpgrade : Program Unit := do
  let i := (← get).created
  modify fun s => { s.update i fun _ => .made with created := i + 1 }
  start i

/-! ## Events -/

/-- What can happen next. A completed operation hands the error it met, if any, to its
handler. -/
inductive Event where
  | upgrade
  /-- `HttpSession::onRead` returns. -/
  | callerReturns (i : Nat)
  | accept (i : Nat) (ok : Bool)
  | read (i : Nat) (ok : Bool)
  | write (i : Nat) (ok : Bool)
  | broadcast (data : Frame)
  deriving DecidableEq

/-- An operation can only complete while it is going on. -/
def Enabled (s : Heap) : Event → Prop
  | .upgrade => True
  | .callerReturns i => 0 < (s.session i).callers
  | .accept i _ => 0 < (s.session i).accepts
  | .read i _ => 0 < (s.session i).reads
  | .write i _ => 0 < (s.session i).writes
  | .broadcast _ => True

/-- The event with its handler, whose pointer goes when it has run. -/
def perform : Event → Program Unit
  | .upgrade => onUpgrade
  | .callerReturns i => do
    modify (·.update i fun o => { o with callers := o.callers - 1 })
    release i
  | .accept i ok => do
    modify (·.update i fun o => { o with accepts := o.accepts - 1 })
    onAccept i ok
    release i
  | .read i ok => do
    modify (·.update i fun o => { o with reads := o.reads - 1 })
    onRead i ok
    release i
  | .write i ok => do
    modify (·.update i fun o => { o with writes := o.writes - 1 })
    onWrite i ok
    release i
  | .broadcast data => broadcastFrame data

/-- A step that ends without an exception. -/
def Step (s : Heap) (ev : Event) (t : Heap) : Prop :=
  Enabled s ev ∧ (perform ev).run s = .ok () t

/-! ## Updates -/

namespace Heap

variable (s : Heap) (i j : Nat) (f g : Session → Session)

@[simp] theorem session_update : (s.update i f).session i = f (s.session i) := by
  simp [update]

theorem session_update_of_ne {i j : Nat} (h : j ≠ i) : (s.update i f).session j = s.session j := by
  simp [update, h]

@[simp] theorem sessions_update : (s.update i f).sessions = s.sessions := rfl

@[simp] theorem update_id : s.update i id = s := by
  simp [update]

@[simp] theorem update_update : (s.update i f).update i g = s.update i (g ∘ f) := by
  simp [update]

@[simp] theorem update_sessions (l : List Nat) :
    ({ s with sessions := l } : Heap).update i f = { s.update i f with sessions := l } := rfl

end Heap

end CCTVWebServer.Lifetime
