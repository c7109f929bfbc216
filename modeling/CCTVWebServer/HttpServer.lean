import CCTVWebServer.State

/-!
# HttpServer

The way of a descriptor through `connections_`. It starts when the constructor of
`HttpServer` has posted its accept loop. Each critical section is one step. The mutex
of the event bus is taken to be re-entrant, since `dispatch` publishes the response
while the request is being published. The kernel gives out the numbers of descriptors,
and gives them out again.
-/

namespace CCTVWebServer.HttpServer

/-! ## Writing a response -/

def statusText (statusCode : Int) : String :=
  if statusCode = 404 then "404 Not Found"
  else if statusCode = 400 then "400 Bad Request"
  else if statusCode = 401 then "401 Unauthorized"
  else if statusCode = 403 then "403 Forbidden"
  else if statusCode = 500 then "500 Internal Server Error"
  else "200 OK"

def contentType (response : Bytes) : String :=
  if (find (str "<!DOCTYPE html>") response).isSome ∨ (find (str "<html>") response).isSome then
    "text/html"
  else "application/json"

/-- The bytes that `writeResponse` writes. -/
def responseText (e : HttpResponseEvent) : Bytes :=
  if StartsWith e.body (str "HTTP/1.1") then e.body
  else
    str "HTTP/1.1 " ++ decimal e.statusCode ++ str " " ++ str (statusText e.statusCode)
      ++ str "\r\n"
      ++ str "Content-Type: " ++ str (contentType e.body) ++ str "\r\n"
      ++ str "Content-Length: " ++ decimal e.body.length ++ str "\r\n"
      ++ str "Connection: close\r\n\r\n"
      ++ e.body

/-- How a call of `write` on a non-blocking descriptor ends. -/
inductive WriteOutcome where
  /-- As many bytes at most are taken. -/
  | accepts (n : Nat) (hpos : 0 < n)
  | wouldBlock
  | fails

/-- A released descriptor. The operating system decides how each call on it ends. -/
structure Descriptor where
  outcome : Nat → WriteOutcome
  calls : Nat
  /-- The bytes taken so far. -/
  accepted : Bytes
  closed : Bool

def Descriptor.released (outcome : Nat → WriteOutcome) : Descriptor := ⟨outcome, 0, [], false⟩

/-- `write(fd, data, size)`: the number of bytes taken, or -1. -/
def Descriptor.write (data : Bytes) (d : Descriptor) : Int × Descriptor :=
  match d.outcome d.calls with
  | .accepts n _ =>
    let part := data.take n
    (part.length, { d with calls := d.calls + 1, accepted := d.accepted ++ part })
  | .wouldBlock | .fails => (-1, { d with calls := d.calls + 1 })

def Descriptor.close (d : Descriptor) : Descriptor := { d with closed := true }

/-- The end of `writeResponse`. -/
def transmit (e : HttpResponseEvent) (d : Descriptor) : Descriptor :=
  -- a failure is handled silently, and so is a short write
  let (_, d) := d.write (responseText e)
  d.close

/-! ## Connections -/

/-- Where `HttpSession` is with its connection. -/
inductive Phase where
  | reading
  /-- The socket has been handed to a `WebSocketSession`. -/
  | upgraded
  /-- The socket is closed, after a read error or with its websocket. -/
  | gone
  /-- The descriptor is released, and the request not published yet. -/
  | stored
  /-- In `publish`, before the response. -/
  | dispatching
  /-- In `writeResponse`, with the descriptor that was found. -/
  | writing (fd : Nat) (e : HttpResponseEvent)
  | closing (fd : Nat) (e : HttpResponseEvent)
  /-- `onRead` has returned. -/
  | answered (e : HttpResponseEvent)
  /-- `onRead` has returned, and nothing was written. -/
  | unanswered
  deriving DecidableEq

/-- What is done to a released descriptor. -/
inductive Use where
  | write (response : Bytes)
  | close
  deriving DecidableEq

structure Session where
  connId : Int
  /-- The descriptor of its socket. -/
  fd : Nat
  phase : Phase
  /-- What was done to its descriptor once it was released, newest first. -/
  uses : List Use
  deriving DecidableEq

structure System where
  /-- `g_nextConnId`. -/
  nextConnId : Int
  accepted : Nat
  session : Nat → Session
  /-- The connection behind an open descriptor. -/
  descriptor : Nat → Option Nat
  /-- `connections_`. -/
  connections : Int → Option Nat
  /-- A `ReplyServer` has subscribed. -/
  subscribed : Bool
  /-- The session whose thread holds the mutex of the bus. -/
  busOwner : Option Nat
  /-- How often a descriptor was used that was not open. -/
  astray : Nat

/-- The constructor of `HttpServer` has run. -/
def System.posted : System where
  nextConnId := 1
  accepted := 0
  session _ := ⟨0, 0, .gone, []⟩
  descriptor _ := none
  connections _ := none
  subscribed := false
  busOwner := none
  astray := 0

/-- The value of an `int` after an increment. -/
def increment (n : Int) : Int := (n + 1).bmod (2 ^ 32)

def System.update (s : System) (i : Nat) (f : Session → Session) : System :=
  { s with session := Function.update s.session i (f (s.session i)) }

def System.setPhase (s : System) (i : Nat) (phase : Phase) : System :=
  s.update i fun o => { o with phase := phase }

/-- A use reaches the connection behind the descriptor, if there is one. -/
def System.useDescriptor (s : System) (fd : Nat) (use : Use) : System :=
  match s.descriptor fd with
  | some i => s.update i fun o => { o with uses := use :: o.uses }
  | none => { s with astray := s.astray + 1 }

def System.free (s : System) (fd : Nat) : System :=
  { s with descriptor := Function.update s.descriptor fd none }

/-- `std::unordered_map::emplace`, which keeps an entry that is there. -/
def emplace (connections : Int → Option Nat) (connId : Int) (fd : Nat) : Int → Option Nat :=
  Function.update connections connId (some ((connections connId).getD fd))

/-! ## Critical sections -/

/-- The accept loop makes a session for a new socket. -/
def accept (fd : Nat) (s : System) : System :=
  { s with
    nextConnId := increment s.nextConnId
    accepted := s.accepted + 1
    session := Function.update s.session s.accepted ⟨s.nextConnId, fd, .reading, []⟩
    descriptor := Function.update s.descriptor fd (some s.accepted) }

/-- A socket that was not released is closed by its owner. -/
def drop (i : Nat) (s : System) : System := (s.setPhase i .gone).free (s.session i).fd

/-- `onRead` releases the descriptor into `connections_`. -/
def store (i : Nat) (s : System) : System :=
  { s.setPhase i .stored with
    connections := emplace s.connections (s.session i).connId (s.session i).fd }

/-- `onRead` publishes the request. Without a subscriber `publish` returns at once. -/
def publish (i : Nat) (s : System) : System :=
  if s.subscribed then { s.setPhase i .dispatching with busOwner := some i }
  else s.setPhase i .unanswered

/-- `writeResponse` looks for the connection of the response that `dispatch` publishes. -/
def respond (i : Nat) (e : HttpResponseEvent) (s : System) : System :=
  match s.connections e.connId with
  | none => { s.setPhase i .unanswered with busOwner := none }
  | some fd =>
    { s.setPhase i (.writing fd e) with
      connections := Function.update s.connections e.connId none }

def write (i fd : Nat) (e : HttpResponseEvent) (s : System) : System :=
  (s.useDescriptor fd (.write (responseText e))).setPhase i (.closing fd e)

/-- `writeResponse` closes the descriptor, and `publish` returns. -/
def close (i fd : Nat) (e : HttpResponseEvent) (s : System) : System :=
  { ((s.useDescriptor fd .close).free fd).setPhase i (.answered e) with busOwner := none }

/-! ## Events -/

inductive Event where
  | accept (fd : Nat)
  | drop (i : Nat)
  | upgrade (i : Nat)
  | store (i : Nat)
  /-- The constructor of `ReplyServer`. -/
  | subscribe
  | publish (i : Nat)
  | respond (i : Nat) (e : HttpResponseEvent)
  | write (i fd : Nat) (e : HttpResponseEvent)
  | close (i fd : Nat) (e : HttpResponseEvent)
  deriving DecidableEq

def Enabled (s : System) : Event → Prop
  | .accept fd => s.descriptor fd = none
  | .drop i => (s.session i).phase = .reading ∨ (s.session i).phase = .upgraded
  | .upgrade i | .store i => (s.session i).phase = .reading
  | .subscribe => s.busOwner = none ∧ s.subscribed = false
  | .publish i => s.busOwner = none ∧ (s.session i).phase = .stored
  | .respond i e => (s.session i).phase = .dispatching ∧ e.connId = (s.session i).connId
  | .write i fd e => (s.session i).phase = .writing fd e
  | .close i fd e => (s.session i).phase = .closing fd e

def perform : Event → System → System
  | .accept fd => accept fd
  | .drop i => drop i
  | .upgrade i => fun s => s.setPhase i .upgraded
  | .store i => store i
  | .subscribe => fun s => { s with subscribed := true }
  | .publish i => publish i
  | .respond i e => respond i e
  | .write i fd e => write i fd e
  | .close i fd e => close i fd e

def Step (s : System) (ev : Event) (t : System) : Prop := Enabled s ev ∧ t = perform ev s

end CCTVWebServer.HttpServer
