import CCTVWebServer.Foundation.History
import CCTVWebServer.Text

/-!
# Broadcasting frames

`sendFrame`, `doWrite` and `onWrite` of `WebSocketSession`, and the hub, as several
threads run them. `Pump` is one session whose mutex is taken to be re-entrant: a
critical section is one step, and every other step may come between two of them.
`Hub` has the pumps of all sessions, and sends them one frame at a time. `Process` has
the mutexes of all sessions and of the hub as they are, with their owners: a thread
that asks for a mutex it owns waits for itself.
-/

namespace CCTVWebServer.Broadcast

open Foundation

abbrev Frame := Bytes

/-! ## Critical sections -/

structure Session where
  writeQueue : List Frame
  isWriting : Bool
  deriving DecidableEq

/-- A session as it is constructed. -/
def Session.new : Session := ⟨[], false⟩

def Session.push (data : Frame) (o : Session) : Session :=
  { o with writeQueue := o.writeQueue ++ [data] }

/-- The section of `onWrite`. -/
def Session.pop (o : Session) : Session := { o with writeQueue := o.writeQueue.tail }

/-- The section of `doWrite`, with the frame that is to be written. -/
def Session.front (o : Session) : Option Frame × Session :=
  match o.writeQueue with
  | [] => (none, { o with isWriting := false })
  | frame :: _ => (some frame, o)

/-- The section of `sendFrame`, with the one of `doWrite` inside it. -/
def Session.send (data : Frame) (o : Session) : Option Frame × Session :=
  let o := o.push data
  if o.isWriting then (none, o) else { o with isWriting := true }.front

/-! ## The write pump of a session -/

/-- Where a round of the pump is. It starts in a `doWrite` that has found a frame, and its
`onWrite` ends in the next call of `doWrite`. -/
inductive Round where
  /-- Before the call of `async_write`; `sendFrame` holds the mutex meanwhile. -/
  | calling (frame : Frame) (locked : Bool)
  /-- The operation is outstanding. -/
  | writing (frame : Frame)
  /-- In `onWrite`, before its section. -/
  | written
  /-- Before the section of `doWrite`. -/
  | popped
  deriving DecidableEq

structure Pump where
  session : Session
  rounds : List Round
  deriving DecidableEq

def Pump.new : Pump := ⟨.new, []⟩

/-- No `sendFrame` holds the mutex. -/
def Pump.Free (s : Pump) : Prop := ∀ r ∈ s.rounds, ∀ frame, r ≠ .calling frame true

/-- Rounds are named by their places in the list. -/
inductive PumpEvent where
  | sendFrame (data : Frame)
  | asyncWrite (k : Nat) (frame : Frame)
  /-- The operation completes, and `onWrite` is called. -/
  | complete (k : Nat) (ok : Bool)
  | pop (k : Nat)
  | doWrite (k : Nat)
  deriving DecidableEq

def Pump.Enabled (s : Pump) : PumpEvent → Prop
  | .sendFrame _ => s.Free
  | .asyncWrite k frame => ∃ locked, s.rounds[k]? = some (.calling frame locked)
  | .complete k _ => ∃ frame, s.rounds[k]? = some (.writing frame)
  | .pop k => s.Free ∧ s.rounds[k]? = some .written
  | .doWrite k => s.Free ∧ s.rounds[k]? = some .popped

def Pump.perform : PumpEvent → Pump → Pump
  | .sendFrame data, s =>
    match s.session.send data with
    | (none, o) => { s with session := o }
    | (some frame, o) => ⟨o, s.rounds ++ [.calling frame true]⟩
  | .asyncWrite k frame, s => { s with rounds := s.rounds.set k (.writing frame) }
  -- after an error, `onWrite` returns
  | .complete k ok, s =>
    { s with rounds := if ok then s.rounds.set k .written else s.rounds.eraseIdx k }
  | .pop k, s => ⟨s.session.pop, s.rounds.set k .popped⟩
  | .doWrite k, s =>
    match s.session.front with
    | (none, o) => ⟨o, s.rounds.eraseIdx k⟩
    | (some frame, o) => ⟨o, s.rounds.set k (.calling frame false)⟩

def Pump.Step (s : Pump) (ev : PumpEvent) (t : Pump) : Prop := s.Enabled ev ∧ t = Pump.perform ev s

/-! ## The hub and its pumps -/

structure Hub where
  pump : Nat → Pump
  /-- `WebSocketHub::sessions_`. -/
  sessions : List Nat
  /-- The frame that `broadcastFrame` is sending, with the sessions to come. It holds the
  mutex of the hub meanwhile. -/
  loop : Option (Frame × List Nat)

/-- Before the first session. -/
def Hub.empty : Hub := ⟨fun _ => .new, [], none⟩

inductive HubEvent where
  | registerSession (i : Nat)
  | unregisterSession (i : Nat)
  /-- The call of `broadcastFrame`; the set is gone through in some order. -/
  | broadcastFrame (data : Frame) (order : List Nat)
  | sendFrame (i : Nat) (data : Frame)
  | broadcastReturns
  /-- A step of a session's own handlers. -/
  | pump (i : Nat) (ev : PumpEvent)
  deriving DecidableEq

def Hub.Enabled (s : Hub) : HubEvent → Prop
  | .registerSession _ | .unregisterSession _ => s.loop = none
  | .broadcastFrame _ order => s.loop = none ∧ order.Perm s.sessions
  -- the `sendFrame` before has returned
  | .sendFrame i data => ∃ rest, s.loop = some (data, i :: rest) ∧ ∀ j, (s.pump j).Free
  | .broadcastReturns => ∃ data, s.loop = some (data, []) ∧ ∀ j, (s.pump j).Free
  | .pump i ev => (s.pump i).Enabled ev ∧ ∀ data, ev ≠ .sendFrame data

def Hub.advance (s : Hub) (i : Nat) (ev : PumpEvent) : Hub :=
  { s with pump := Function.update s.pump i (Pump.perform ev (s.pump i)) }

def Hub.perform : HubEvent → Hub → Hub
  | .registerSession i, s =>
    { s with sessions := if i ∈ s.sessions then s.sessions else i :: s.sessions }
  | .unregisterSession i, s => { s with sessions := s.sessions.erase i }
  | .broadcastFrame data order, s => { s with loop := some (data, order) }
  | .sendFrame i data, s =>
    { s.advance i (.sendFrame data) with loop := s.loop.map fun l => (l.1, l.2.tail) }
  | .broadcastReturns, s => { s with loop := none }
  | .pump i ev, s => s.advance i ev

def Hub.Step (s : Hub) (ev : HubEvent) (t : Hub) : Prop := s.Enabled ev ∧ t = Hub.perform ev s

/-! ## Threads and mutexes -/

inductive Mutex where
  | hub
  | session (i : Nat)
  deriving DecidableEq

/-- What `doWrite` returns to. -/
inductive Caller where
  | onWrite
  /-- `sendFrame` in the loop of `broadcastFrame`, with the sessions to come. -/
  | sendFrame (data : Frame) (rest : List Nat)
  deriving DecidableEq

/-- Where a thread is. -/
inductive Place where
  /-- In no function of a session or of the hub. -/
  | idle
  /-- Before the lock in `broadcastFrame`. -/
  | broadcastFrame (data : Frame)
  | loop (data : Frame) (rest : List Nat)
  /-- Before the lock in `sendFrame`. -/
  | sendFrame (data : Frame) (rest : List Nat) (i : Nat)
  | sendBody (data : Frame) (rest : List Nat) (i : Nat)
  /-- Before the lock in `doWrite`. -/
  | doWrite (i : Nat) (caller : Caller)
  | doWriteBody (i : Nat) (caller : Caller)
  /-- Before the lock in `onWrite`. -/
  | onWrite (i : Nat)
  | onWriteBody (i : Nat)
  /-- Before the lock in `unregisterSession`. -/
  | unregister (i : Nat)
  | unregisterBody (i : Nat)
  deriving DecidableEq

structure Process where
  place : Nat → Place
  owner : Mutex → Option Nat
  session : Nat → Session
  /-- `WebSocketHub::sessions_`. -/
  sessions : List Nat

/-- What Asio or the relay thread calls. -/
inductive Call where
  | broadcastFrame (data : Frame)
  | onWrite (i : Nat) (ok : Bool)
  | onRead (i : Nat) (ok : Bool)
  deriving DecidableEq

/-- Where a call begins. `onRead` without an error only starts the next read. -/
def Call.begin : Call → Place
  | .broadcastFrame data => .broadcastFrame data
  | .onWrite i true => .onWrite i
  | .onRead _ true => .idle
  | .onWrite i false | .onRead i false => .unregister i

inductive Event where
  | call (thread : Nat) (c : Call)
  /-- The thread goes on to its next place. -/
  | run (thread : Nat)
  deriving DecidableEq

/-- The mutex a thread asks for next. -/
def Place.asks : Place → Option Mutex
  | .broadcastFrame _ | .unregister _ => some .hub
  | .sendFrame _ _ i | .doWrite i _ | .onWrite i => some (.session i)
  | _ => none

namespace Process

variable (s : Process) (thread : Nat)

def goTo (place : Place) : Process := { s with place := Function.update s.place thread place }

def lock (m : Mutex) : Process := { s with owner := Function.update s.owner m (some thread) }

def unlock (m : Mutex) : Process := { s with owner := Function.update s.owner m none }

def update (i : Nat) (f : Session → Session) : Process :=
  { s with session := Function.update s.session i (f (s.session i)) }

/-- One step of a thread. -/
def run : Process :=
  match s.place thread with
  | .idle => s
  | .broadcastFrame data => (s.lock thread .hub).goTo thread (.loop data s.sessions)
  | .loop _ [] => (s.unlock .hub).goTo thread .idle
  | .loop data (i :: rest) => s.goTo thread (.sendFrame data rest i)
  | .sendFrame data rest i => (s.lock thread (.session i)).goTo thread (.sendBody data rest i)
  | .sendBody data rest i =>
    let s := s.update i (Session.push data)
    if (s.session i).isWriting then (s.unlock (.session i)).goTo thread (.loop data rest)
    else (s.update i fun o => { o with isWriting := true }).goTo thread
      (.doWrite i (.sendFrame data rest))
  | .doWrite i caller => (s.lock thread (.session i)).goTo thread (.doWriteBody i caller)
  | .doWriteBody i caller =>
    let s := (s.update i fun o => o.front.2).unlock (.session i)
    match caller with
    | .onWrite => s.goTo thread .idle
    | .sendFrame data rest => (s.unlock (.session i)).goTo thread (.loop data rest)
  | .onWrite i => (s.lock thread (.session i)).goTo thread (.onWriteBody i)
  | .onWriteBody i =>
    ((s.update i Session.pop).unlock (.session i)).goTo thread (.doWrite i .onWrite)
  | .unregister i => (s.lock thread .hub).goTo thread (.unregisterBody i)
  | .unregisterBody i =>
    ({ s with sessions := s.sessions.erase i }.unlock .hub).goTo thread .idle

def perform : Event → Process → Process
  | .call thread c, s => s.goTo thread c.begin
  | .run thread, s => s.run thread

/-- A thread that asks for a mutex goes on when nobody owns it. -/
def Enabled : Event → Prop
  | .call thread _ => s.place thread = .idle
  | .run thread => s.place thread ≠ .idle ∧ ∀ m ∈ (s.place thread).asks, s.owner m = none

end Process

end CCTVWebServer.Broadcast
