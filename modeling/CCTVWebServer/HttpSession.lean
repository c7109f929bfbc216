import CCTVWebServer.Foundation.Reader
import CCTVWebServer.Text

/-!
# HttpSession

The way of a websocket connection from the socket to `WebSocketSession`. What
Beast's parser takes for a complete request, and for an upgrade request, are
parameters. A session reads from its socket through a buffer of its own, and only
the socket is moved to the websocket.
-/

namespace CCTVWebServer.Upgrade

open Foundation

/-- The parts of Beast that decide about a request. -/
structure Beast where
  /-- The length of the complete request that the input starts with. -/
  complete : Bytes → Option Nat
  /-- `websocket::is_upgrade`, which `async_accept` also demands. -/
  isUpgrade : Bytes → Bool

/-- What a socket delivers from here on, in the pieces in which it arrives. -/
abbrev Socket := List Bytes

structure HttpSession where
  socket : Socket
  buffer : Bytes
  req : Bytes
  deriving DecidableEq

structure WebSocketSession where
  socket : Socket
  deriving DecidableEq

/-- A finished handshake: the request that was answered, and what the websocket reads next. -/
structure Handshake where
  request : Bytes
  input : Bytes
  deriving DecidableEq

variable (beast : Beast)

/-- `HttpSession::start`, up to the call of `onRead` without an error. -/
def HttpSession.start (socket : Socket) : Option HttpSession :=
  (readMessage beast.complete [] socket).map fun (req, buffer, socket) => ⟨socket, buffer, req⟩

/-- The branch of `HttpSession::onRead` for an upgrade request. The request and the buffer stay
behind and are destroyed with the session. -/
def HttpSession.onRead (session : HttpSession) : Option WebSocketSession :=
  if beast.isUpgrade session.req then some ⟨session.socket⟩ else none

/-- `WebSocketSession::start`, up to the call of `onAccept` without an error. The handshake
request is read from the socket; what arrived with it is kept for the frames. -/
def WebSocketSession.start (session : WebSocketSession) : Option Handshake :=
  match readMessage beast.complete [] session.socket with
  | none => none
  | some (request, buffer, socket) =>
    if beast.isUpgrade request then some ⟨request, buffer ++ socket.flatten⟩ else none

end CCTVWebServer.Upgrade
