import CCTVWebServer.StreamFrame

/-!
# The loop of the relay thread

`StreamRelayer::runLoop`: connect to the camera, set up a decoder and an encoder, then
read packets, decode them and encode every frame again. What FFmpeg, the clock and
`running_` answer is read off a script with one entry for each round of a loop. A script
that ends stands for a run that has come so far.
-/

namespace CCTVWebServer.RunLoop

/-! ## Frames and contexts -/

/-- `AVPixelFormat`. A decoder may yield any. -/
abbrev PixelFormat := Int

/-- `AV_PIX_FMT_YUV420P`. -/
def yuv420p : PixelFormat := 0

/-- `AV_NOPTS_VALUE`. -/
def noPts : Int := -2 ^ 63

structure AVFrame where
  format : PixelFormat
  width : Int
  height : Int
  pts : Int
  data : Bytes
  deriving DecidableEq

/-- The encoder, as far as the loop looks at it. -/
structure AVCodecContext where
  width : Int
  height : Int
  pixFmt : PixelFormat
  deriving DecidableEq

/-- The parameters of `sws_getCachedContext`, which gives the context it has when they are
the same and makes a new one otherwise. -/
structure SwsContext where
  srcWidth : Int
  srcHeight : Int
  srcFormat : PixelFormat
  dstWidth : Int
  dstHeight : Int
  dstFormat : PixelFormat

/-- The encoder for a decoder of this size, which may be unknown. -/
def encCtx (decWidth decHeight : Int) : AVCodecContext where
  width := if decWidth > 0 then decWidth else 1280
  height := if decHeight > 0 then decHeight else 720
  pixFmt := yuv420p

/-- `yuvFrame` with its buffer, to which nothing has been written. -/
def yuvFrame (encCtx : AVCodecContext) : AVFrame :=
  ⟨yuv420p, encCtx.width, encCtx.height, noPts, []⟩

/-! ## The script -/

/-- A frame from `avcodec_receive_frame`, and what is answered while it is relayed. -/
structure Turn where
  frame : AVFrame
  /-- `av_gettime()`, in microseconds. -/
  time : Int
  /-- `avcodec_send_frame(..) >= 0`. -/
  accepted : Bool
  /-- What `avcodec_receive_packet` yields until it fails. -/
  packets : List AVPacket

/-- One round of the inner `while (running_)`. -/
structure Round where
  running : Bool
  /-- The `stream_index` of the packet from `av_read_frame`, absent when that fails. -/
  pkt : Option Int
  /-- `avcodec_send_packet(..) >= 0`. -/
  sent : Bool
  /-- The frames until `avcodec_receive_frame` fails. -/
  turns : List Turn

inductive MediaType where
  | video
  | other
  deriving DecidableEq

/-- One round of the outer `while (running_)`. -/
structure Attempt where
  running : Bool
  openInput : Bool
  findStreamInfo : Bool
  /-- The `codec_type` of every stream. -/
  streams : List MediaType
  findDecoder : Bool
  /-- The width and the height of the decoder, absent when it cannot be opened. -/
  openDecoder : Option (Int × Int)
  findEncoder : Bool
  openEncoder : Bool
  startTime : Int
  rounds : List Round

/-! ## The inner loops -/

/-- The connection: the frame for scaling, the frames that were passed to
`avcodec_send_frame`, and what was handed to the hub, oldest first. -/
structure Relay where
  yuvFrame : AVFrame
  submitted : List AVFrame
  broadcast : List Bytes

/-- Milliseconds since `start_time`; C++ rounds towards zero. -/
def currentTime (startTime time : Int) : Int := (time - startTime).tdiv 1000

section loops

variable (scale : SwsContext → AVFrame → Bytes) (videoStreamIdx : Int) (encCtx : AVCodecContext)
  (startTime : Int)

/-- What `sourceFrame` points to: the frame itself, or `yuvFrame` after `sws_scale`. -/
def sourceFrame (frame yuvFrame : AVFrame) : AVFrame :=
  if frame.format ≠ yuv420p then
    { yuvFrame with
      data := scale ⟨frame.width, frame.height, frame.format, encCtx.width, encCtx.height,
        yuv420p⟩ frame
      pts := frame.pts }
  else frame

/-- The body of `while (avcodec_receive_frame(..) >= 0)`. -/
def relayFrame (s : Relay) (turn : Turn) : Relay :=
  let sourceFrame := sourceFrame scale encCtx turn.frame s.yuvFrame
  let sourceFrame := { sourceFrame with pts := currentTime startTime turn.time }
  { yuvFrame := if turn.frame.format ≠ yuv420p then sourceFrame else s.yuvFrame
    submitted := s.submitted ++ [sourceFrame]
    broadcast := s.broadcast ++ if turn.accepted then turn.packets.map wsFrame else [] }

/-- The inner `while (running_)`. -/
def readLoop : List Round → Relay → Relay
  | [], s => s
  | round :: rounds, s =>
    if ¬ round.running then s
    else match round.pkt with
      | none => s
      | some streamIndex =>
        if streamIndex = videoStreamIdx then
          if round.sent then
            readLoop rounds (round.turns.foldl (relayFrame scale encCtx startTime) s)
          else readLoop rounds s
        else readLoop rounds s

end loops

/-! ## Connections -/

variable (scale : SwsContext → AVFrame → Bytes)

/-- The index of the first video stream, -1 without one. -/
def findVideoStream (i : Int) : List MediaType → Int
  | [] => -1
  | codecType :: streams =>
    if codecType = .video then i else findVideoStream (i + 1) streams

/-- From the setup of the encoder to the end of the connection. -/
def relay (videoStreamIdx decWidth decHeight startTime : Int) (rounds : List Round) : Relay :=
  let encCtx := encCtx decWidth decHeight
  readLoop scale videoStreamIdx encCtx startTime rounds ⟨yuvFrame encCtx, [], []⟩

/-- A round of the outer loop; every failure before the relaying leads to the next round. -/
def connect (a : Attempt) : Option Relay := do
  guard a.openInput
  guard a.findStreamInfo
  let videoStreamIdx := findVideoStream 0 a.streams
  guard (videoStreamIdx ≠ -1)
  guard a.findDecoder
  let (decWidth, decHeight) ← a.openDecoder
  guard a.findEncoder
  guard a.openEncoder
  return relay scale videoStreamIdx decWidth decHeight a.startTime a.rounds

/-- The outer `while (running_)`, with its connections. -/
def runLoop : List Attempt → List Relay
  | [] => []
  | a :: attempts =>
    if a.running then (connect scale a).toList ++ runLoop attempts else []

end CCTVWebServer.RunLoop
