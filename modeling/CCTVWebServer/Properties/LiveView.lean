import CCTVWebServer.Properties.Broadcasts
import CCTVWebServer.Properties.Encoding
import CCTVWebServer.Properties.Frames
import CCTVWebServer.Properties.Playback

/-!
# From the encoder to the screen

A packet of the encoder becomes a frame of the relay thread, goes through the hub and the
pump of a session, and comes as a message to a page. What the page decodes is the stream
itself: from the first key frame that the viewer gets on, every packet as it was encoded.
-/

namespace CCTVWebServer

open Foundation

/-! ## Packets -/

namespace RunLoop

variable {scale : SwsContext → AVFrame → Bytes}

/-- The packets of a connection, in the order of the encoder. -/
def Attempt.packets (a : Attempt) : List AVPacket :=
  ((taken (findVideoStream 0 a.streams) a.rounds).filter (·.accepted)).flatMap Turn.packets

/-- The packets of all connections of a relay thread. -/
def encoded (scale : SwsContext → AVFrame → Bytes) : List Attempt → List AVPacket
  | [] => []
  | a :: attempts =>
    if a.running then
      (if (connect scale a).isSome then a.packets else []) ++ encoded scale attempts
    else []

/-- The relay thread broadcasts every packet, in order. -/
theorem broadcast_runLoop (attempts : List Attempt) :
    (runLoop scale attempts).flatMap Relay.broadcast = (encoded scale attempts).map wsFrame := by
  induction attempts with
  | nil => rfl
  | cons a attempts ih =>
    unfold runLoop encoded
    by_cases hrunning : a.running
    · rw [if_pos hrunning, if_pos hrunning, List.flatMap_append, ih, List.map_append]
      cases hconnect : connect scale a with
      | none => rfl
      | some r =>
        obtain ⟨decWidth, decHeight, -, rfl⟩ := connect_eq_some hconnect
        simp [broadcast_relay, Attempt.packets]
    · rw [if_neg hrunning, if_neg hrunning]
      rfl

end RunLoop

/-- The timestamps are no negative numbers and fit in a double, and the size in an `int`. -/
structure AVPacket.Fits (pkt : AVPacket) : Prop where
  pts : 0 ≤ pkt.pts ∧ pkt.pts < 2 ^ 53
  dts : 0 ≤ pkt.dts ∧ pkt.dts < 2 ^ 53
  size : pkt.size < 2 ^ 31

namespace StreamPage

/-- The chunk of a packet. -/
def chunkOf (pkt : AVPacket) : EncodedVideoChunk :=
  ⟨if pkt.isKey then .key else .delta, pkt.pts, pkt.data⟩

theorem parseMessage_wsFrame {pkt : AVPacket} (h : pkt.Fits) :
    parseMessage (wsFrame pkt) = some (chunkOf pkt) := by
  have hpts : |pkt.pts| < 2 ^ 53 := by
    rw [abs_of_nonneg h.pts.1]
    exact h.pts.2
  have hdts : |pkt.dts| < 2 ^ 53 := by
    rw [abs_of_nonneg h.dts.1]
    exact h.dts.2
  have hread : readPacket (wsFrame pkt) = some ⟨pkt.isKey, pkt.pts, pkt.dts, pkt.data⟩ :=
    (readPacket_wsFrame_iff pkt h.size).mpr
      ⟨(getInt64_pts_iff pkt hpts).mpr h.pts.1, (getInt64_dts_iff pkt hdts).mpr h.dts.1⟩
  rw [parseMessage, hread]
  exact if_pos hpts

theorem chunkOf_isKey (pkt : AVPacket) : (chunkOf pkt).type = .key ↔ pkt.isKey = true := by
  unfold chunkOf
  cases pkt.isKey <;> simp

/-! ## The page -/

variable {s t : Page} {i d : Nat} {chunks : List EncodedVideoChunk} {chunk : EncodedVideoChunk}
  {events : List Event}

/-- No socket calls back but this one, and it goes on. -/
def Steady (i : Nat) : Event → Prop
  | .opened _ => True
  | .message j _ => j = i
  | _ => False

def messageData : Event → Option Bytes
  | .message _ data => some data
  | _ => none

/-- The messages that came, oldest first. -/
def messages (events : List Event) : List Bytes := (events.filterMap messageData).reverse

theorem messages_cons (ev : Event) (events : List Event) :
    messages (ev :: events) = messages events ++ (messageData ev).toList := by
  rw [messages, List.filterMap_cons]
  cases messageData ev <;> simp [messages]

/-- The chunks of a socket that were decoded, oldest first. -/
def Page.shown (s : Page) (i : Nat) : List EncodedVideoChunk :=
  ((s.decoded.filter (·.socket = i)).map (·.chunk)).reverse

/-- What a new decoder takes: it begins with a key chunk. -/
def fromKey (chunks : List EncodedVideoChunk) : List EncodedVideoChunk :=
  chunks.dropWhile (·.type ≠ .key)

theorem fromKey_append_singleton (chunks : List EncodedVideoChunk) (chunk : EncodedVideoChunk) :
    fromKey (chunks ++ [chunk]) =
      fromKey chunks ++ if fromKey chunks ≠ [] ∨ chunk.type = .key then [chunk] else [] := by
  unfold fromKey
  rw [List.dropWhile_append]
  cases hfront : chunks.dropWhile (·.type ≠ .key) with
  | nil => by_cases hkey : chunk.type = .key <;> simp [hkey]
  | cons first front => simp

/-- The page shows the socket, which has got these chunks. -/
structure Showing (i d : Nat) (chunks : List EncodedVideoChunk) (s : Page) : Prop where
  videoDecoder : s.videoDecoder = some d
  decoder : s.decoder d = ⟨false, decide (fromKey chunks = [])⟩
  shown : s.shown i = fromKey chunks

theorem Showing.accepts (h : Showing i d chunks s) :
    (s.decoder d).accepts chunk = true ↔ fromKey chunks ≠ [] ∨ chunk.type = .key := by
  rw [h.decoder]
  simp [VideoDecoder.accepts]

theorem Showing.message (h : Showing i d chunks s) (data : Bytes) :
    Showing i d (chunks ++ (parseMessage data).toList) (onmessage i data s) := by
  unfold onmessage
  rw [h.videoDecoder]
  cases hparse : parseMessage data with
  | none => simpa using h
  | some chunk =>
    rw [Option.toList_some]
    dsimp only [decode]
    by_cases haccepts : (s.decoder d).accepts chunk = true
    · have htaken := h.accepts.mp haccepts
      have hchunks := fromKey_append_singleton chunks chunk
      rw [if_pos htaken] at hchunks
      rw [if_pos haccepts]
      refine ⟨h.videoDecoder, ?_, ?_⟩
      · simp [Page.updateDecoder, h.decoder, hchunks]
      · have hshown := h.shown
        simp only [Page.shown] at hshown ⊢
        simp [hchunks, hshown]
    · have htaken := h.accepts.not.mp haccepts
      have hchunks := fromKey_append_singleton chunks chunk
      rw [if_neg htaken, List.append_nil] at hchunks
      rw [if_neg haccepts]
      exact ⟨h.videoDecoder, by rw [hchunks]; exact h.decoder, by rw [hchunks]; exact h.shown⟩

/-- A new connection has shown nothing. -/
theorem showing_connect (hs : Sound s) : Showing s.sockets s.decoders [] (perform .connect s) := by
  refine ⟨?_, ?_, ?_⟩
  · simp [perform, connectWebSocketStream, newWebSocket, initVideoDecoder, Page.setStatus,
      disconnectWebSocketStream]
  · simp [perform, connectWebSocketStream, newWebSocket, initVideoDecoder, Page.setStatus,
      disconnectWebSocketStream, fromKey]
  · have hdecoded : (perform .connect s).decoded = s.decoded := by
      simp [perform, connectWebSocketStream, newWebSocket, initVideoDecoder, Page.setStatus,
        disconnectWebSocketStream]
    have hnone : s.decoded.filter (·.socket = s.sockets) = [] := by
      rw [List.filter_eq_nil_iff]
      intro entry hentry
      have hlt := hs.logged entry hentry
      simp only [decide_eq_true_eq]
      omega
    rw [Page.shown, hdecoded, hnone]
    rfl

/-- As long as its socket goes on, the page shows what comes from it. -/
theorem showing_run (hs : Sound s) (hsteady : ∀ ev ∈ events, Steady s.sockets ev) :
    Showing s.sockets s.decoders ((messages events).filterMap parseMessage)
      (replay perform (perform .connect s) events) := by
  induction events with
  | nil => exact showing_connect hs
  | cons ev events ih =>
    obtain ⟨hev, hsteady⟩ := List.forall_mem_cons.mp hsteady
    have hshowing := ih hsteady
    rw [messages_cons, List.filterMap_append]
    cases ev with
    | opened j =>
      have hlist : (messageData (.opened j)).toList.filterMap parseMessage = [] := rfl
      rw [hlist, List.append_nil]
      exact ⟨hshowing.videoDecoder, hshowing.decoder, hshowing.shown⟩
    | message j data =>
      obtain rfl : j = s.sockets := hev
      have hlist : (messageData (.message s.sockets data)).toList.filterMap parseMessage =
          (parseMessage data).toList := by
        cases hparse : parseMessage data <;> simp [messageData, hparse]
      rw [hlist]
      exact hshowing.message data
    | _ => exact hev.elim

end StreamPage

/-! ## The whole way -/

section LiveView

open RunLoop StreamPage Broadcast

/-- Whatever the hub and all its sessions do, and however far the frames have come: what a page
has decoded of its connection are the packets of the encoder that came after the registration
of the session, from the first key frame on, each with its own timestamp and data. The relay
threads run one after the other; the messages come in the order in which they were written. -/
theorem live_view {scale : SwsContext → AVFrame → Bytes} {threads : List (List Attempt)}
    (hfits : ∀ pkt ∈ threads.flatMap (encoded scale), pkt.Fits)
    {h earlier : List HubEvent} {hub : Hub} {i : Nat} (hrun : Trace Hub.Step .empty h hub)
    (hjoins : JoinsAfter i earlier h)
    (hrelay : broadcastFrames h <+:
      threads.flatMap fun attempts => (runLoop scale attempts).flatMap Relay.broadcast)
    {history events : List StreamPage.Event}
    (hpage : EachStep StreamPage.perform .loaded StreamPage.Enabled history)
    (hsteady : ∀ ev ∈ events, Steady (replay StreamPage.perform .loaded history).sockets ev)
    (hsocket : messages events <+: writtenFrames (pumpEvents i h)) :
    let page := replay StreamPage.perform .loaded history
    (replay StreamPage.perform (StreamPage.perform .connect page) events).shown page.sockets =
      ((((threads.flatMap (encoded scale)).drop (broadcastFrames earlier).length).take
        (messages events).length).dropWhile (!·.isKey)).map chunkOf := by
  intro page
  have hsound : Sound page := hpage.invariant sound_loaded fun _ _ hs hen => sound_step hs hen
  have hframes : (threads.flatMap fun attempts =>
      (runLoop scale attempts).flatMap Relay.broadcast) =
      (threads.flatMap (encoded scale)).map wsFrame := by
    simp only [broadcast_runLoop, List.map_flatMap]
  rw [hframes] at hrelay
  -- The messages are the frames of consecutive packets.
  have hmessages : messages events =
      (((threads.flatMap (encoded scale)).drop (broadcastFrames earlier).length).take
        (messages events).length).map wsFrame := by
    have hframesFor := (framesFor_joined hrun hjoins).1
    have hwritten := hsocket.trans ((written_of_frames hrun i).trans hframesFor)
    have hdrop := hwritten.trans (hrelay.drop (broadcastFrames earlier).length)
    rw [List.prefix_iff_eq_take, ← List.map_drop, ← List.map_take] at hdrop
    exact hdrop
  have hchunks : (messages events).filterMap parseMessage =
      (((threads.flatMap (encoded scale)).drop (broadcastFrames earlier).length).take
        (messages events).length).map chunkOf := by
    generalize hseen : ((threads.flatMap (encoded scale)).drop
      (broadcastFrames earlier).length).take (messages events).length = seen at hmessages
    rw [hmessages, List.filterMap_map, ← List.filterMap_eq_map]
    refine List.filterMap_congr fun pkt hpkt => parseMessage_wsFrame (hfits pkt ?_)
    rw [← hseen] at hpkt
    exact List.mem_of_mem_drop (List.mem_of_mem_take hpkt)
  rw [(showing_run hsound hsteady).shown, hchunks, fromKey, List.dropWhile_map]
  congr 2
  funext pkt
  rw [Function.comp_apply]
  cases hkey : pkt.isKey <;> simp [chunkOf_isKey, hkey]

/-- A frame that is encoded into one packet. -/
def encodedFrame (time : Int) (pkt : AVPacket) : Turn :=
  ⟨⟨yuv420p, 640, 480, noPts, []⟩, time, true, [pkt]⟩

/-- A camera whose second frame is a key frame. -/
def keyFrameCamera : Attempt :=
  camera 640 480 [⟨true, some 0, true, [encodedFrame 40000 ⟨0, 40, 40, [7]⟩]⟩,
    ⟨true, some 0, true, [encodedFrame 80000 ⟨1, 80, 80, [8, 9]⟩]⟩]

/-- A page that is connected after the first frame. -/
theorem live_view_late :
    let scale : SwsContext → AVFrame → Bytes := fun _ _ => []
    let first := wsFrame ⟨0, 40, 40, [7]⟩
    let second := wsFrame ⟨1, 80, 80, [8, 9]⟩
    let earlier : List HubEvent := [.broadcastReturns, .broadcastFrame first []]
    let page := replay StreamPage.perform .loaded []
    let events : List StreamPage.Event := [.message 0 second, .opened 0]
    (replay StreamPage.perform (StreamPage.perform .connect page) events).shown page.sockets =
      (((([[keyFrameCamera]].flatMap (encoded scale)).drop (broadcastFrames earlier).length).take
        (messages events).length).dropWhile (!·.isKey)).map chunkOf := by
  intro scale first second earlier page events
  have hpackets : [[keyFrameCamera]].flatMap (encoded scale) =
      [⟨0, 40, 40, [7]⟩, ⟨1, 80, 80, [8, 9]⟩] := rfl
  have hfits : ∀ pkt ∈ [[keyFrameCamera]].flatMap (encoded scale), pkt.Fits := by
    rw [hpackets]
    intro pkt hpkt
    simp only [List.mem_cons, List.not_mem_nil, or_false] at hpkt
    rcases hpkt with rfl | rfl
    · exact ⟨by decide, by decide, by decide⟩
    · exact ⟨by decide, by decide, by decide⟩
  obtain ⟨hub, hrun⟩ := run_lateViewer first second
  have hrelay : broadcastFrames (lateViewer first second) <+:
      [[keyFrameCamera]].flatMap fun attempts => (runLoop scale attempts).flatMap Relay.broadcast :=
    List.prefix_rfl
  have hsocket : messages events <+:
      writtenFrames (pumpEvents 0 (lateViewer first second)) :=
    List.prefix_rfl
  have hpage : EachStep StreamPage.perform .loaded StreamPage.Enabled [] := trivial
  have hsteady : ∀ ev ∈ events, Steady page.sockets ev := by
    simp [events, Steady, page, replay, Page.loaded]
  exact live_view hfits hrun (joins_lateViewer _ second) hrelay hpage hsteady hsocket

end LiveView

end CCTVWebServer
