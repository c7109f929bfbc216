import CCTVWebServer.Foundation.LittleEndian
import CCTVWebServer.Text

/-!
# The frames of the stream

A frame as `StreamRelayer::runLoop` writes it byte by byte, and as `wsStream.onmessage`
reads it in the browser. A JavaScript number is an integer here, rounded to the
precision of a double.
-/

namespace CCTVWebServer

open Foundation

/-! ## The server -/

/-- `(val >> shift) & 0xFF`. -/
def byteAt (val : Int) (shift : Nat) : UInt8 := lowByte (val >>> shift)

def writeInt64LE (buf : Bytes) (pos : Nat) (val : Int) : Bytes :=
  (((((((buf.set pos (byteAt val 0)).set (pos + 1) (byteAt val 8)).set (pos + 2)
    (byteAt val 16)).set (pos + 3) (byteAt val 24)).set (pos + 4) (byteAt val 32)).set (pos + 5)
    (byteAt val 40)).set (pos + 6) (byteAt val 48)).set (pos + 7) (byteAt val 56)

def writeUint32LE (buf : Bytes) (pos : Nat) (val : Int) : Bytes :=
  (((buf.set pos (byteAt val 0)).set (pos + 1) (byteAt val 8)).set (pos + 2)
    (byteAt val 16)).set (pos + 3) (byteAt val 24)

/-- The fields of an `AVPacket` that a frame is made from. -/
structure AVPacket where
  flags : Nat
  pts : Int
  dts : Int
  data : Bytes

def AVPacket.size (pkt : AVPacket) : Nat := pkt.data.length

/-- `flags & AV_PKT_FLAG_KEY`. -/
def AVPacket.isKey (pkt : AVPacket) : Bool := pkt.flags &&& 0x0001 ≠ 0

/-- `wsFrame`, as it is handed to the hub. -/
def wsFrame (encPkt : AVPacket) : Bytes :=
  let wsFrame := List.replicate (1 + 8 + 8 + 4 + encPkt.size) 0
  let wsFrame := wsFrame.set 0 (if encPkt.isKey then 1 else 0)
  let wsFrame := writeInt64LE wsFrame 1 encPkt.pts
  let wsFrame := writeInt64LE wsFrame 9 encPkt.dts
  let wsFrame := writeUint32LE wsFrame 17 encPkt.size
  setAll wsFrame 21 encPkt.data

/-! ## The browser -/

/-- The double nearest to a natural number, the even one of two. -/
def toNumber (n : Nat) : Nat :=
  let ulp := 2 ^ (n.log2 - 52)
  let below := n / ulp
  let rest := n % ulp
  if 2 * rest < ulp ∨ (2 * rest = ulp ∧ below % 2 = 0) then below * ulp else (below + 1) * ulp

/-- `view.getUint8(offset)`, absent when it raises. -/
def getUint8 (view : Bytes) (offset : Nat) : Option Nat := view[offset]?.map UInt8.toNat

/-- `view.getUint32(offset, true)`. -/
def getUint32 (view : Bytes) (offset : Nat) : Option Nat :=
  if offset + 4 ≤ view.length then some (valueLE ((view.drop offset).take 4)) else none

/-- The 64-bit value is put together from two unsigned halves. -/
def getInt64 (view : Bytes) (offset : Nat) : Option Int := do
  let low ← getUint32 view offset
  let high ← getUint32 view (offset + 4)
  return toNumber (toNumber (high * 0x100000000) + low)

/-- `new Uint8Array(arrayBuffer, offset, length)`. -/
def uint8Array (arrayBuffer : Bytes) (offset length : Nat) : Option Bytes :=
  if offset + length ≤ arrayBuffer.length then some ((arrayBuffer.drop offset).take length)
  else none

/-- What `wsStream.onmessage` reads from a message. -/
structure Packet where
  isKeyFrame : Bool
  pts : Int
  dts : Int
  payload : Bytes
  deriving DecidableEq

def readPacket (arrayBuffer : Bytes) : Option Packet := do
  let flag ← getUint8 arrayBuffer 0
  let pts ← getInt64 arrayBuffer 1
  let dts ← getInt64 arrayBuffer 9
  let payloadSize ← getUint32 arrayBuffer 17
  let payload ← uint8Array arrayBuffer 21 payloadSize
  return ⟨flag = 1, pts, dts, payload⟩

end CCTVWebServer
