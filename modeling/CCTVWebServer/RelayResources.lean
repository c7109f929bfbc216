import CCTVWebServer.Foundation.Resources
import CCTVWebServer.RunLoop

/-!
# What the relay thread holds

The operations of `StreamRelayer::runLoop` on what its variables point to, for the scripts of
the loop. Allocations succeed. Here a script that ends stands for a loop that ends, and a run
that has come so far is a prefix of the operations.
-/

namespace CCTVWebServer.RunLoop

open Foundation.Resources

inductive Resource where
  | network
  | options
  | inFmtCtx
  | decCtx
  | encCtx
  | swsCtx
  | yuvFrame
  | pkt
  | frame
  | encPkt
  /-- What `pkt` refers to. -/
  | pktData
  /-- What `frame` refers to. -/
  | frameData
  /-- What `encPkt` refers to. -/
  | encPktData
  deriving DecidableEq

deriving instance DecidableEq for SwsContext

/-! ## The inner loops -/

/-- The packets of one frame, and the call of `avcodec_receive_packet` that fails. -/
def packetOperations : List AVPacket → List (Op Resource)
  | [] => [Op.use Resource.encCtx, .use .encPkt]
  | _ :: packets =>
    [Op.use Resource.encCtx, .use .encPkt, .acquire .encPktData,
      -- the header, the copy of the payload and `av_packet_unref`
      .use .encPktData, .use .encPkt, .release .encPktData] ++ packetOperations packets

/-- `sws_getCachedContext`, with the context it was given before. -/
def cachedContextOperations (swsCtx : Option SwsContext) (wanted : SwsContext) :
    List (Op Resource) :=
  match swsCtx with
  | none => [Op.acquire Resource.swsCtx]
  | some context =>
    if context = wanted then [.use .swsCtx] else [.release .swsCtx, .acquire .swsCtx]

/-- The parameters for a frame. -/
def wantedContext (encCtx : AVCodecContext) (frame : AVFrame) : SwsContext :=
  ⟨frame.width, frame.height, frame.format, encCtx.width, encCtx.height, yuv420p⟩

def scaleOperations (encCtx : AVCodecContext) (swsCtx : Option SwsContext) (frame : AVFrame) :
    List (Op Resource) :=
  -- the format of the frame, the sizes, and `yuvFrame->pts`
  [Op.use Resource.frame] ++
    if frame.format ≠ yuv420p then
      [Op.use Resource.frame, .use .encCtx]
        ++ cachedContextOperations swsCtx (wantedContext encCtx frame)
        ++ [Op.use Resource.swsCtx, .use .frame, .use .frameData, .use .yuvFrame]
    else []

/-- `swsCtx` after the frame. -/
def scaledContext (encCtx : AVCodecContext) (swsCtx : Option SwsContext) (turn : Turn) :
    Option SwsContext :=
  if turn.frame.format ≠ yuv420p then some (wantedContext encCtx turn.frame) else swsCtx

/-- The body of `while (avcodec_receive_frame(..) >= 0)`, with the call before it. -/
def frameOperations (encCtx : AVCodecContext) (swsCtx : Option SwsContext) (turn : Turn) :
    List (Op Resource) :=
  [Op.use Resource.decCtx, .use .frame, .acquire .frameData]
    ++ scaleOperations encCtx swsCtx turn.frame
    ++ [Op.use (if turn.frame.format ≠ yuv420p then Resource.yuvFrame else .frame), .use .encCtx,
      .use (if turn.frame.format ≠ yuv420p then .yuvFrame else .frameData)]
    ++ (if turn.accepted then packetOperations turn.packets else [])
    ++ [Op.use Resource.frame, .release .frameData]

/-- The frames of one packet, and the call of `avcodec_receive_frame` that fails. -/
def framesOperations (encCtx : AVCodecContext) : Option SwsContext → List Turn → List (Op Resource)
  | _, [] => [Op.use Resource.decCtx, .use .frame]
  | swsCtx, turn :: turns =>
    frameOperations encCtx swsCtx turn ++
      framesOperations encCtx (scaledContext encCtx swsCtx turn) turns

/-- The end of a connection. -/
def cleanUp (swsCtx : Option SwsContext) : List (Op Resource) :=
  [Op.release Resource.pkt, .release .encPkt, .release .frame, .release .yuvFrame]
    ++ (if swsCtx.isSome then [Op.release Resource.swsCtx] else [])
    ++ [Op.release Resource.encCtx, .release .decCtx, .release .inFmtCtx]

/-- The inner `while (running_)`, to the end of the connection. -/
def readOperations (videoStreamIdx : Int) (encCtx : AVCodecContext) :
    Option SwsContext → List Round → List (Op Resource)
  | swsCtx, [] => cleanUp swsCtx
  | swsCtx, round :: rounds =>
    if ¬ round.running then cleanUp swsCtx
    else [Op.use Resource.inFmtCtx, .use .pkt] ++
      match round.pkt with
      | none => cleanUp swsCtx
      | some streamIndex =>
        if streamIndex = videoStreamIdx then
          if round.sent then
            [Op.acquire Resource.pktData, .use .pkt, .use .decCtx, .use .pktData]
              ++ framesOperations encCtx swsCtx round.turns
              ++ [Op.use Resource.pkt, .release .pktData]
              ++ readOperations videoStreamIdx encCtx
                (round.turns.foldl (scaledContext encCtx) swsCtx) rounds
          else
            [Op.acquire Resource.pktData, .use .pkt, .use .decCtx, .use .pktData, .use .pkt,
                .release .pktData]
              ++ readOperations videoStreamIdx encCtx swsCtx rounds
        else
          [Op.acquire Resource.pktData, .use .pkt, .use .pkt, .release .pktData]
            ++ readOperations videoStreamIdx encCtx swsCtx rounds

/-! ## Connections -/

/-- From the allocation of the frames and packets on. -/
def relayOperations (videoStreamIdx decWidth decHeight : Int) (rounds : List Round) :
    List (Op Resource) :=
  [Op.acquire Resource.yuvFrame, .use .encCtx, .use .yuvFrame, .acquire .pkt, .acquire .frame,
      .acquire .encPkt]
    ++ readOperations videoStreamIdx (encCtx decWidth decHeight) none rounds

/-- From the setup of the decoder on. -/
def decoderOperations (a : Attempt) : List (Op Resource) :=
  [Op.acquire Resource.decCtx, .use .inFmtCtx, .use .decCtx] ++
    match a.openDecoder with
    | none => [Op.release Resource.decCtx, .release .inFmtCtx]
    | some (decWidth, decHeight) =>
      if ¬ a.findEncoder then [Op.release Resource.decCtx, .release .inFmtCtx]
      else [Op.acquire Resource.encCtx, .use .decCtx, .use .encCtx] ++
        if ¬ a.openEncoder then [Op.release Resource.encCtx, .release .decCtx, .release .inFmtCtx]
        else relayOperations (findVideoStream 0 a.streams) decWidth decHeight a.rounds

/-- A round of the outer loop. -/
def connectOperations (a : Attempt) : List (Op Resource) :=
  -- both calls of `av_dict_set`, and `avformat_open_input`
  [Op.acquire Resource.options, .use .options, .use .options] ++
    if ¬ a.openInput then [Op.release Resource.options]
    else [Op.acquire Resource.inFmtCtx, .release .options, .use .inFmtCtx] ++
      if ¬ a.findStreamInfo then [Op.release Resource.inFmtCtx]
      else [Op.use Resource.inFmtCtx] ++
        if findVideoStream 0 a.streams = -1 then [Op.release Resource.inFmtCtx]
        else [Op.use Resource.inFmtCtx] ++
          if ¬ a.findDecoder then [Op.release Resource.inFmtCtx] else decoderOperations a

/-- The outer `while (running_)`. -/
def connectionsOperations : List Attempt → List (Op Resource)
  | [] => []
  | a :: attempts =>
    if a.running then connectOperations a ++ connectionsOperations attempts else []

/-- `StreamRelayer::runLoop`. -/
def runLoopOperations (attempts : List Attempt) : List (Op Resource) :=
  [Op.acquire Resource.network] ++ connectionsOperations attempts ++ [Op.release Resource.network]

end CCTVWebServer.RunLoop
