import CCTVWebServer.RelayResources

/-!
# The relay thread cleans up

Whatever the calls to FFmpeg answer, the relay thread touches only what it holds, loses
nothing, and has released everything of a connection before the next one begins.
-/

namespace CCTVWebServer.RunLoop

open Foundation.Resources

/-! The stages of a connection, with what is held. -/

def idle : Finset Resource := {.network}

def opening : Finset Resource := insert .options idle

def connected : Finset Resource := insert .inFmtCtx idle

def decoderReady : Finset Resource := insert .decCtx connected

def encoderReady : Finset Resource := insert .encCtx decoderReady

/-- What is held in the inner loop, with or without a context for scaling. -/
def relaying (scaled : Bool) : Finset Resource :=
  (if scaled then {.swsCtx} else ∅) ∪ {.yuvFrame, .pkt, .frame, .encPkt} ∪ encoderReady

/-- With a packet that has been read. -/
def decoding (scaled : Bool) : Finset Resource := insert .pktData (relaying scaled)

/-- With a frame of the packet. -/
def encoding (scaled : Bool) : Finset Resource := insert .frameData (decoding scaled)

/-! ## What is held -/

theorem leads_packets (packets : List AVPacket) (scaled : Bool) :
    Leads (packetOperations packets) (encoding scaled) (encoding scaled) := by
  induction packets with
  | nil => cases scaled <;> decide
  | cons pkt packets ih => exact Leads.append (by cases scaled <;> decide) ih

theorem leads_cachedContext (swsCtx : Option SwsContext) (wanted : SwsContext) :
    Leads (cachedContextOperations swsCtx wanted) (encoding swsCtx.isSome) (encoding true) := by
  have hnew : Leads [.acquire .swsCtx] (encoding false) (encoding true) := by decide
  have hsame : Leads [.use .swsCtx] (encoding true) (encoding true) := by decide
  have hother : Leads [.release .swsCtx, .acquire .swsCtx] (encoding true) (encoding true) := by
    decide
  cases swsCtx with
  | none => exact hnew
  | some context =>
    unfold cachedContextOperations
    dsimp only
    split_ifs
    · exact hsame
    · exact hother

theorem leads_scale (encCtx : AVCodecContext) (swsCtx : Option SwsContext) (turn : Turn) :
    Leads (scaleOperations encCtx swsCtx turn.frame) (encoding swsCtx.isSome)
      (encoding (scaledContext encCtx swsCtx turn).isSome) := by
  have hformat (scaled : Bool) : Leads [.use .frame] (encoding scaled) (encoding scaled) := by
    cases scaled <;> decide
  have hsizes (scaled : Bool) : Leads [.use .frame, .use .encCtx] (encoding scaled)
      (encoding scaled) := by cases scaled <;> decide
  have hscale : Leads [.use .swsCtx, .use .frame, .use .frameData, .use .yuvFrame] (encoding true)
      (encoding true) := by decide
  unfold scaleOperations scaledContext
  refine (hformat _).append ?_
  split_ifs
  · exact ((hsizes _).append (leads_cachedContext swsCtx _)).append hscale
  · rfl

theorem leads_frame (encCtx : AVCodecContext) (swsCtx : Option SwsContext) (turn : Turn) :
    Leads (frameOperations encCtx swsCtx turn) (decoding swsCtx.isSome)
      (decoding (scaledContext encCtx swsCtx turn).isSome) := by
  have hreceive (scaled : Bool) : Leads [.use .decCtx, .use .frame, .acquire .frameData]
      (decoding scaled) (encoding scaled) := by cases scaled <;> decide
  have hsend (scaled : Bool) : Leads
      [.use (if turn.frame.format ≠ yuv420p then .yuvFrame else .frame), .use .encCtx,
        .use (if turn.frame.format ≠ yuv420p then .yuvFrame else .frameData)]
      (encoding scaled) (encoding scaled) := by split_ifs <;> cases scaled <;> decide
  have hpackets (scaled : Bool) : Leads
      (if turn.accepted then packetOperations turn.packets else []) (encoding scaled)
      (encoding scaled) := by
    cases turn.accepted with
    | true => exact leads_packets turn.packets scaled
    | false => rfl
  have hunref (scaled : Bool) : Leads [.use .frame, .release .frameData] (encoding scaled)
      (decoding scaled) := by cases scaled <;> decide
  have hscaled := (hreceive _).append (leads_scale encCtx swsCtx turn)
  exact ((hscaled.append (hsend _)).append (hpackets _)).append (hunref _)

theorem leads_frames (encCtx : AVCodecContext) (swsCtx : Option SwsContext) (turns : List Turn) :
    Leads (framesOperations encCtx swsCtx turns) (decoding swsCtx.isSome)
      (decoding (turns.foldl (scaledContext encCtx) swsCtx).isSome) := by
  have hfail (scaled : Bool) : Leads [.use .decCtx, .use .frame] (decoding scaled)
      (decoding scaled) := by cases scaled <;> decide
  induction turns generalizing swsCtx with
  | nil => exact hfail _
  | cons turn turns ih => exact (leads_frame encCtx swsCtx turn).append (ih _)

theorem leads_cleanUp (swsCtx : Option SwsContext) :
    Leads (cleanUp swsCtx) (relaying swsCtx.isSome) idle := by
  unfold cleanUp
  cases swsCtx.isSome <;> decide

theorem leads_read (videoStreamIdx : Int) (encCtx : AVCodecContext) (swsCtx : Option SwsContext)
    (rounds : List Round) :
    Leads (readOperations videoStreamIdx encCtx swsCtx rounds) (relaying swsCtx.isSome)
      idle := by
  have hread (scaled : Bool) : Leads [.use .inFmtCtx, .use .pkt] (relaying scaled)
      (relaying scaled) := by cases scaled <;> decide
  have hsend (scaled : Bool) : Leads [.acquire .pktData, .use .pkt, .use .decCtx, .use .pktData]
      (relaying scaled) (decoding scaled) := by cases scaled <;> decide
  have hunref (scaled : Bool) : Leads [.use .pkt, .release .pktData] (decoding scaled)
      (relaying scaled) := by cases scaled <;> decide
  have hrefused (scaled : Bool) : Leads
      [.acquire .pktData, .use .pkt, .use .decCtx, .use .pktData, .use .pkt, .release .pktData]
      (relaying scaled) (relaying scaled) := by cases scaled <;> decide
  have hother (scaled : Bool) : Leads [.acquire .pktData, .use .pkt, .use .pkt, .release .pktData]
      (relaying scaled) (relaying scaled) := by cases scaled <;> decide
  induction rounds generalizing swsCtx with
  | nil => exact leads_cleanUp swsCtx
  | cons round rounds ih =>
    unfold readOperations
    by_cases hrunning : round.running
    case neg =>
      rw [if_pos hrunning]
      exact leads_cleanUp swsCtx
    rw [if_neg (not_not.mpr hrunning)]
    refine (hread _).append ?_
    cases round.pkt with
    | none => exact leads_cleanUp swsCtx
    | some streamIndex =>
      dsimp only
      split_ifs
      · have hframes := (hsend _).append (leads_frames encCtx swsCtx round.turns)
        exact (hframes.append (hunref _)).append (ih _)
      · exact (hrefused _).append (ih swsCtx)
      · exact (hother _).append (ih swsCtx)

theorem leads_decoder (a : Attempt) :
    Leads (decoderOperations a) connected idle := by
  have hdecoder : Leads [.acquire .decCtx, .use .inFmtCtx, .use .decCtx] connected
      decoderReady := by decide
  have hencoder : Leads [.acquire .encCtx, .use .decCtx, .use .encCtx] decoderReady
      encoderReady := by decide
  have hframes : Leads
      [.acquire .yuvFrame, .use .encCtx, .use .yuvFrame, .acquire .pkt, .acquire .frame,
        .acquire .encPkt]
      encoderReady (relaying false) := by decide
  have hrelease : Leads [.release .decCtx, .release .inFmtCtx] decoderReady idle := by decide
  have hreleaseAll : Leads [.release .encCtx, .release .decCtx, .release .inFmtCtx] encoderReady
      idle := by decide
  unfold decoderOperations
  refine hdecoder.append ?_
  cases a.openDecoder with
  | none => exact hrelease
  | some size =>
    cases a.findEncoder with
    | false => exact hrelease
    | true =>
      refine hencoder.append ?_
      cases a.openEncoder with
      | false => exact hreleaseAll
      | true => exact hframes.append (leads_read _ _ none a.rounds)

theorem leads_connect (a : Attempt) : Leads (connectOperations a) idle idle := by
  have hoptions : Leads [.acquire .options, .use .options, .use .options] idle opening := by
    decide
  have hopen : Leads [.acquire .inFmtCtx, .release .options, .use .inFmtCtx] opening
      connected := by decide
  have hfind : Leads [.use .inFmtCtx] connected connected := by decide
  have hgiveUp : Leads [.release .options] opening idle := by decide
  have hclose : Leads [.release .inFmtCtx] connected idle := by decide
  unfold connectOperations
  refine hoptions.append ?_
  cases a.openInput with
  | false => exact hgiveUp
  | true =>
    refine hopen.append ?_
    cases a.findStreamInfo with
    | false => exact hclose
    | true =>
      refine hfind.append ?_
      by_cases hstream : findVideoStream 0 a.streams = -1
      · rw [if_pos hstream]
        exact hclose
      · rw [if_neg hstream]
        refine hfind.append ?_
        cases a.findDecoder with
        | false => exact hclose
        | true => exact leads_decoder a

theorem leads_connections (attempts : List Attempt) :
    Leads (connectionsOperations attempts) idle idle := by
  induction attempts with
  | nil => rfl
  | cons a attempts ih =>
    unfold connectionsOperations
    split_ifs
    · exact (leads_connect a).append ih
    · rfl

/-! ## The packets that are broadcast -/

/-- How often the encoder gives a packet. -/
def packetsOf (ops : List (Op Resource)) : Nat := ops.count (.acquire .encPktData)

@[simp] theorem packetsOf_append (ops ops' : List (Op Resource)) :
    packetsOf (ops ++ ops') = packetsOf ops + packetsOf ops' := List.count_append

theorem packetsOf_packets (packets : List AVPacket) :
    packetsOf (packetOperations packets) = packets.length := by
  induction packets with
  | nil => decide
  | cons pkt packets ih =>
    have hone : packetsOf [.use .encCtx, .use .encPkt, .acquire .encPktData, .use .encPktData,
        .use .encPkt, .release .encPktData] = 1 := by decide
    rw [packetOperations, packetsOf_append, hone, ih, List.length_cons, Nat.add_comm]

theorem packetsOf_scale (encCtx : AVCodecContext) (swsCtx : Option SwsContext) (frame : AVFrame) :
    packetsOf (scaleOperations encCtx swsCtx frame) = 0 := by
  have hnew : packetsOf [.acquire .swsCtx] = 0 := by decide
  have hcached (wanted : SwsContext) : packetsOf (cachedContextOperations swsCtx wanted) = 0 := by
    unfold cachedContextOperations
    cases swsCtx with
    | none => exact hnew
    | some context =>
      dsimp only
      split_ifs
      · decide
      · decide
  have hformat : packetsOf [.use .frame] = 0 := by decide
  have hsizes : packetsOf [.use .frame, .use .encCtx] = 0 := by decide
  have hscale : packetsOf [.use .swsCtx, .use .frame, .use .frameData, .use .yuvFrame] = 0 := by
    decide
  unfold scaleOperations
  rw [packetsOf_append, hformat]
  split_ifs
  · rw [packetsOf_append, packetsOf_append, hsizes, hcached, hscale]
  · rfl

theorem packetsOf_frame (encCtx : AVCodecContext) (swsCtx : Option SwsContext) (turn : Turn) :
    packetsOf (frameOperations encCtx swsCtx turn) =
      if turn.accepted then turn.packets.length else 0 := by
  have hreceive : packetsOf [.use .decCtx, .use .frame, .acquire .frameData] = 0 := by decide
  have hsend : packetsOf
      [.use (if turn.frame.format ≠ yuv420p then .yuvFrame else .frame), .use .encCtx,
        .use (if turn.frame.format ≠ yuv420p then .yuvFrame else .frameData)] = 0 := by
    split_ifs <;> decide
  have hunref : packetsOf [.use .frame, .release .frameData] = 0 := by decide
  simp only [frameOperations, packetsOf_append, hreceive, packetsOf_scale, hsend, hunref]
  split_ifs
  · simp [packetsOf_packets]
  · rfl

section

variable (scale : SwsContext → AVFrame → Bytes)

theorem length_broadcast_frames (encCtx : AVCodecContext) (startTime : Int)
    (swsCtx : Option SwsContext) (turns : List Turn) (s : Relay) :
    (turns.foldl (relayFrame scale encCtx startTime) s).broadcast.length =
      s.broadcast.length + packetsOf (framesOperations encCtx swsCtx turns) := by
  induction turns generalizing s swsCtx with
  | nil => rfl
  | cons turn turns ih =>
    rw [List.foldl_cons, ih (scaledContext encCtx swsCtx turn), framesOperations,
      packetsOf_append, packetsOf_frame]
    cases haccepted : turn.accepted <;> simp [relayFrame, haccepted, Nat.add_assoc]

theorem packetsOf_cleanUp (swsCtx : Option SwsContext) : packetsOf (cleanUp swsCtx) = 0 := by
  unfold cleanUp
  cases swsCtx.isSome <;> decide

theorem length_broadcast_read (videoStreamIdx : Int) (encCtx : AVCodecContext) (startTime : Int)
    (swsCtx : Option SwsContext) (rounds : List Round) (s : Relay) :
    (readLoop scale videoStreamIdx encCtx startTime rounds s).broadcast.length =
      s.broadcast.length + packetsOf (readOperations videoStreamIdx encCtx swsCtx rounds) := by
  have hread : packetsOf [.use .inFmtCtx, .use .pkt] = 0 := by decide
  have hsend : packetsOf [.acquire .pktData, .use .pkt, .use .decCtx, .use .pktData] = 0 := by
    decide
  have hunref : packetsOf [.use .pkt, .release .pktData] = 0 := by decide
  have hrefused : packetsOf
      [.acquire .pktData, .use .pkt, .use .decCtx, .use .pktData, .use .pkt, .release .pktData] =
        0 := by decide
  have hother : packetsOf [.acquire .pktData, .use .pkt, .use .pkt, .release .pktData] = 0 := by
    decide
  induction rounds generalizing s swsCtx with
  | nil => simp [readLoop, readOperations, packetsOf_cleanUp]
  | cons round rounds ih =>
    unfold readLoop readOperations
    by_cases hrunning : round.running
    case neg => rw [if_pos hrunning, if_pos hrunning, packetsOf_cleanUp, Nat.add_zero]
    rw [if_neg (not_not.mpr hrunning), if_neg (not_not.mpr hrunning), packetsOf_append, hread,
      Nat.zero_add]
    cases round.pkt with
    | none =>
      dsimp only
      rw [packetsOf_cleanUp, Nat.add_zero]
    | some streamIndex =>
      dsimp only
      by_cases hvideo : streamIndex = videoStreamIdx
      case neg =>
        rw [if_neg hvideo, if_neg hvideo, packetsOf_append, hother, Nat.zero_add]
        exact ih swsCtx s
      rw [if_pos hvideo, if_pos hvideo]
      by_cases hsent : round.sent
      · have hframes := length_broadcast_frames scale encCtx startTime swsCtx round.turns s
        rw [if_pos hsent, if_pos hsent, ih (round.turns.foldl (scaledContext encCtx) swsCtx),
          hframes]
        simp only [packetsOf_append, hsend, hunref]
        omega
      · rw [if_neg hsent, if_neg hsent, packetsOf_append, hrefused, Nat.zero_add]
        exact ih swsCtx s

theorem packetsOf_relay (videoStreamIdx decWidth decHeight startTime : Int)
    (rounds : List Round) :
    packetsOf (relayOperations videoStreamIdx decWidth decHeight rounds) =
      (relay scale videoStreamIdx decWidth decHeight startTime rounds).broadcast.length := by
  have hframes : packetsOf [.acquire .yuvFrame, .use .encCtx, .use .yuvFrame, .acquire .pkt,
      .acquire .frame, .acquire .encPkt] = 0 := by decide
  rw [relayOperations, packetsOf_append, hframes, relay,
    length_broadcast_read scale videoStreamIdx _ startTime none]
  rfl

theorem packetsOf_connect (a : Attempt) :
    packetsOf (connectOperations a) =
      ((connect scale a).toList.flatMap Relay.broadcast).length := by
  unfold connectOperations decoderOperations
  -- a connection that fails has taken no packet
  have hnone (h : connect scale a = none) :
      0 = ((connect scale a).toList.flatMap Relay.broadcast).length := by rw [h]; rfl
  cases hopen : a.openInput with
  | false => exact hnone (by simp [connect, hopen])
  | true =>
    cases hinfo : a.findStreamInfo with
    | false => exact hnone (by simp [connect, hopen, hinfo])
    | true =>
      by_cases hstream : findVideoStream 0 a.streams = -1
      · rw [if_pos hstream]
        exact hnone (by simp [connect, hopen, hinfo, hstream])
      rw [if_neg hstream]
      cases hfind : a.findDecoder with
      | false => exact hnone (by simp [connect, hopen, hinfo, hstream, hfind])
      | true =>
        cases hdecoder : a.openDecoder with
        | none => exact hnone (by simp [connect, hopen, hinfo, hstream, hfind, hdecoder])
        | some size =>
          cases hencoder : a.findEncoder with
          | false =>
            exact hnone (by simp [connect, hopen, hinfo, hstream, hfind, hdecoder, hencoder])
          | true =>
            cases hready : a.openEncoder with
            | false =>
              exact hnone (by
                simp [connect, hopen, hinfo, hstream, hfind, hdecoder, hencoder, hready])
            | true =>
              have hsome : connect scale a = some (relay scale (findVideoStream 0 a.streams)
                  size.1 size.2 a.startTime a.rounds) := by
                simp [connect, hopen, hinfo, hstream, hfind, hdecoder, hencoder, hready]
              have hfront : packetsOf
                  ([Op.acquire Resource.options, .use .options, .use .options]
                    ++ [Op.acquire Resource.inFmtCtx, .release .options, .use .inFmtCtx]
                    ++ [Op.use Resource.inFmtCtx] ++ [Op.use Resource.inFmtCtx]
                    ++ [Op.acquire Resource.decCtx, .use .inFmtCtx, .use .decCtx]
                    ++ [Op.acquire Resource.encCtx, .use .decCtx, .use .encCtx]) = 0 := by decide
              rw [hsome, Option.toList_some, List.flatMap_singleton,
                ← packetsOf_relay scale _ _ _ a.startTime, ← Nat.zero_add (packetsOf _),
                ← hfront, ← packetsOf_append]
              rfl

theorem packetsOf_connections (attempts : List Attempt) :
    packetsOf (connectionsOperations attempts) =
      ((runLoop scale attempts).flatMap Relay.broadcast).length := by
  induction attempts with
  | nil => rfl
  | cons a attempts ih =>
    unfold connectionsOperations runLoop
    split_ifs
    · rw [packetsOf_append, ih, packetsOf_connect, List.flatMap_append, List.length_append]
    · rfl

end

/-! ## The whole thread -/

theorem leads_runLoop (attempts : List Attempt) : Leads (runLoopOperations attempts) ∅ ∅ := by
  have hinit : Leads [.acquire .network] ∅ idle := by decide
  have hdeinit : Leads [.release .network] idle ∅ := by decide
  exact (hinit.append (leads_connections attempts)).append hdeinit

/-- Whatever FFmpeg, the clock and `running_` answer: at any time the operations on everything
that the relay thread manages are rounds of an acquisition, uses and a release; between two
connections it holds nothing but the network, and when it returns nothing at all; and the encoder's
packets have been as many as the frames that were broadcast. -/
theorem relay_releases (scale : SwsContext → AVFrame → Bytes) (attempts : List Attempt) :
    (∀ ops, ops <+: runLoopOperations attempts → ∀ r, ∃ held,
      Rounds r held (ops.filter fun op => op.resource = r)) ∧
    (∀ r, Rounds r (r = Resource.network)
      (([Op.acquire Resource.network] ++ connectionsOperations attempts).filter fun op =>
        op.resource = r)) ∧
    (∀ r, Rounds r false ((runLoopOperations attempts).filter fun op => op.resource = r)) ∧
    (runLoopOperations attempts).count (.acquire .encPktData) =
      ((runLoop scale attempts).flatMap Relay.broadcast).length := by
  refine ⟨fun ops hops r => ?_, fun r => ?_, fun r => ?_, ?_⟩
  · obtain ⟨held, hheld⟩ := (leads_runLoop attempts).stopped hops
    exact ⟨_, hheld.rounds r⟩
  · have hinit : Leads [.acquire .network] ∅ idle := by decide
    have hrounds := (hinit.append (leads_connections attempts)).rounds r
    simpa [idle] using hrounds
  · simpa using (leads_runLoop attempts).rounds r
  · have hinit : packetsOf [.acquire .network] = 0 := by decide
    have hdeinit : packetsOf [.release .network] = 0 := by decide
    have hcount := packetsOf_connections scale attempts
    change packetsOf (runLoopOperations attempts) = _
    rw [runLoopOperations, packetsOf_append, packetsOf_append, hinit, hdeinit, hcount]
    omega

end CCTVWebServer.RunLoop
