import CCTVWebServer.ReplyServer

/-!
# EventBus

`publish` holds the bus's mutex while it calls the handlers. The mutex is a
`std::mutex`: a thread that locks it a second time waits for itself, which is the
fault `deadlock`. The model follows one thread that has been granted the mutex, so
it starts from a state in which no other thread holds it.
-/

namespace CCTVWebServer

open Foundation

/-- Acquire the mutex of the bus. -/
def EventBus.lock (thread : Nat) : Server Unit := do
  if (← get).busOwner = some thread then throw .deadlock
  modify fun s => { s with busOwner := some thread }

def EventBus.unlock : Server Unit := modify fun s => { s with busOwner := none }

/-- `publish`: the `lock_guard` releases the mutex on a return and on an exception. -/
def EventBus.publish {α : Type} (thread : Nat) (handlers : List (α → Server Unit)) (event : α) :
    Server Unit := do
  EventBus.lock thread
  tryCatch (handlers.forM fun handler => handler event) fun fault =>
    match fault with
    | .exception what => do
      EventBus.unlock
      throw (.exception what)
    | .deadlock => throw .deadlock
  EventBus.unlock

/-- The bus as the process fills it: the constructor of a `ReplyServer` subscribes its
`dispatch` to requests, and that of an `HttpServer` its `writeResponse` to responses. -/
structure EventBus where
  replyServers : List ReplyServer
  responseHandlers : List (HttpResponseEvent → Server Unit)

def EventBus.publishResponse (bus : EventBus) (thread : Nat) (response : HttpResponseEvent) :
    Server Unit :=
  EventBus.publish thread bus.responseHandlers response

/-- What `HttpSession::onRead` publishes; `dispatch` publishes its response on the same bus. -/
def EventBus.publishRequest (w : World) (bus : EventBus) (thread : Nat) (e : HttpRequestEvent) :
    Server Unit :=
  EventBus.publish thread
    (bus.replyServers.map fun self => dispatch w (bus.publishResponse thread) self) e

end CCTVWebServer
