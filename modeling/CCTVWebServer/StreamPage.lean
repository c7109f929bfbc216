import CCTVWebServer.StreamFrame
import Mathlib.Logic.Function.Basic

/-!
# The stream in the browser

`wsStream`, `videoDecoder` and the functions of `app.js` that set them. The callbacks
of every socket ever made share the two variables. A call of `close` on a socket only
asks for a callback later on, so it leaves no trace here.
-/

namespace CCTVWebServer.StreamPage

/-- A `VideoDecoder` that has been configured. -/
structure VideoDecoder where
  closed : Bool
  keyChunkRequired : Bool
  deriving DecidableEq

/-- A `WebSocket`, with what the page itself does not keep of it. -/
structure Socket where
  /-- The decoder made by the call that made the socket. -/
  decoder : Nat
  /-- Its close or its error callback has run. -/
  ended : Bool
  deriving DecidableEq

inductive ChunkType where
  | key
  | delta
  deriving DecidableEq

structure EncodedVideoChunk where
  type : ChunkType
  timestamp : Int
  data : Bytes
  deriving DecidableEq

/-- A call of `decode` that did not raise. -/
structure Decoded where
  decoder : Nat
  /-- The socket that the chunk came from. -/
  socket : Nat
  chunk : EncodedVideoChunk
  deriving DecidableEq

structure Page where
  /-- How many decoders were made, and how they stand. -/
  decoders : Nat
  decoder : Nat → VideoDecoder
  /-- How many sockets were made, and how they stand. -/
  sockets : Nat
  socket : Nat → Socket
  wsStream : Option Nat
  videoDecoder : Option Nat
  streamStatusLabel : String
  streamStatusDot : String
  decoded : List Decoded

/-- The page as it is loaded. -/
def Page.loaded : Page where
  decoders := 0
  decoder _ := ⟨true, false⟩
  sockets := 0
  socket _ := ⟨0, false⟩
  wsStream := none
  videoDecoder := none
  streamStatusLabel := "Offline"
  streamStatusDot := "status-dot"
  decoded := []

def Page.updateDecoder (s : Page) (d : Nat) (f : VideoDecoder → VideoDecoder) : Page :=
  { s with decoder := Function.update s.decoder d (f (s.decoder d)) }

def Page.setStatus (s : Page) (label dot : String) : Page :=
  { s with streamStatusLabel := label, streamStatusDot := dot }

/-! ## Functions of the page -/

def initVideoDecoder (s : Page) : Page :=
  { s with
    decoders := s.decoders + 1
    decoder := Function.update s.decoder s.decoders ⟨false, true⟩
    videoDecoder := some s.decoders }

/-- What `close` raises on a closed decoder is caught. -/
def cleanupDecoder (s : Page) : Page :=
  match s.videoDecoder with
  | none => s
  | some d => { s.updateDecoder d fun o => { o with closed := true } with videoDecoder := none }

def disconnectWebSocketStream (s : Page) : Page :=
  cleanupDecoder { s with wsStream := none }

/-- `new WebSocket`, right after `initVideoDecoder`. -/
def newWebSocket (s : Page) : Page :=
  { s with
    sockets := s.sockets + 1
    socket := Function.update s.socket s.sockets ⟨s.decoders - 1, false⟩
    wsStream := some s.sockets }

def connectWebSocketStream (s : Page) : Page :=
  newWebSocket
    (initVideoDecoder ((disconnectWebSocketStream s).setStatus "Connecting..." "status-dot"))

/-! ## Callbacks -/

def onopen (s : Page) : Page := s.setStatus "Live Stream Connected" "status-dot active"

/-- `new EncodedVideoChunk`, which takes no timestamp that a double cannot hold. -/
def encodedVideoChunk (packet : Packet) : Option EncodedVideoChunk :=
  if |packet.pts| < 2 ^ 53 then
    some ⟨if packet.isKeyFrame then .key else .delta, packet.pts, packet.payload⟩
  else none

/-- The chunk that `onmessage` makes from a message, absent when it raises before. -/
def parseMessage (data : Bytes) : Option EncodedVideoChunk :=
  readPacket data >>= encodedVideoChunk

/-- Whether `decode` takes the chunk. -/
def VideoDecoder.accepts (o : VideoDecoder) (chunk : EncodedVideoChunk) : Bool :=
  !o.closed && (!o.keyChunkRequired || chunk.type = .key)

/-- `videoDecoder.decode(chunk)` in the callback of socket `i`. -/
def decode (d i : Nat) (chunk : EncodedVideoChunk) (s : Page) : Page :=
  if (s.decoder d).accepts chunk then
    { s.updateDecoder d fun o => { o with keyChunkRequired := false } with
      decoded := ⟨d, i, chunk⟩ :: s.decoded }
  else s

/-- Every exception is caught and logged. -/
def onmessage (i : Nat) (data : Bytes) (s : Page) : Page :=
  match s.videoDecoder, parseMessage data with
  | some d, some chunk => decode d i chunk s
  | _, _ => s

def Page.endSocket (s : Page) (i : Nat) : Page :=
  { s with socket := Function.update s.socket i { s.socket i with ended := true } }

def onclose (i : Nat) (s : Page) : Page :=
  cleanupDecoder ((s.endSocket i).setStatus "Offline" "status-dot")

def onerror (i : Nat) (s : Page) : Page :=
  cleanupDecoder ((s.endSocket i).setStatus "Error" "status-dot")

/-! ## Events -/

/-- A call of the user, or a callback of the socket `i`. -/
inductive Event where
  | connect
  | disconnect
  | opened (i : Nat)
  | message (i : Nat) (data : Bytes)
  | closed (i : Nat)
  | error (i : Nat)
  deriving DecidableEq

/-- Only a socket that has been made calls back. -/
def Enabled (s : Page) : Event → Prop
  | .connect | .disconnect => True
  | .opened i | .message i _ | .closed i | .error i => i < s.sockets

def perform : Event → Page → Page
  | .connect => connectWebSocketStream
  | .disconnect => disconnectWebSocketStream
  | .opened _ => onopen
  | .message i data => onmessage i data
  | .closed i => onclose i
  | .error i => onerror i

end CCTVWebServer.StreamPage
