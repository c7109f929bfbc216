import CCTVWebServer.RunLoop
import Mathlib.Data.List.Chain

/-!
# What the encoder is given

The timestamps and the geometry of the frames of a connection. A timestamp counts whole
milliseconds, so two frames read within one get the same. A frame is scaled only when its
format is not the encoder's, so one of another size may reach the encoder as it is.
-/

namespace CCTVWebServer.RunLoop

variable {scale : SwsContext → AVFrame → Bytes} {videoStreamIdx startTime : Int}

/-! ## The frames of a connection -/

/-- The frames that the loop comes to, in order. -/
def taken (videoStreamIdx : Int) : List Round → List Turn
  | [] => []
  | round :: rounds =>
    if ¬ round.running then []
    else match round.pkt with
      | none => []
      | some streamIndex =>
        if streamIndex = videoStreamIdx ∧ round.sent then
          round.turns ++ taken videoStreamIdx rounds
        else taken videoStreamIdx rounds

section loops

variable {encCtx : AVCodecContext} {s : Relay} {turns : List Turn}

/-- Both loops together go through the frames one by one. -/
theorem readLoop_eq_foldl (rounds : List Round) (s : Relay) :
    readLoop scale videoStreamIdx encCtx startTime rounds s =
      (taken videoStreamIdx rounds).foldl (relayFrame scale encCtx startTime) s := by
  induction rounds generalizing s with
  | nil => rfl
  | cons round rounds ih =>
    unfold readLoop taken
    split
    · rfl
    · cases round.pkt with
      | none => rfl
      | some streamIndex =>
        by_cases hindex : streamIndex = videoStreamIdx <;> by_cases hsent : round.sent <;>
          simp [hindex, hsent, ih]

/-! ## Timestamps -/

/-- The timestamp depends on the reading alone, whether the frame is scaled or not. -/
theorem pts_relayFrame (s : Relay) (turn : Turn) :
    (relayFrame scale encCtx startTime s turn).submitted.map AVFrame.pts =
      s.submitted.map AVFrame.pts ++ [currentTime startTime turn.time] := by
  simp [relayFrame]

theorem pts_foldl (turns : List Turn) (s : Relay) :
    (turns.foldl (relayFrame scale encCtx startTime) s).submitted.map AVFrame.pts =
      s.submitted.map AVFrame.pts ++ turns.map (currentTime startTime ·.time) := by
  induction turns generalizing s with
  | nil => simp
  | cons turn turns ih => simp [ih, pts_relayFrame]

/-! ## Geometry -/

/-- The planes of the frame are laid out as the encoder reads them. -/
def AVFrame.Fits (frame : AVFrame) (encCtx : AVCodecContext) : Prop :=
  frame.format = encCtx.pixFmt ∧ frame.width = encCtx.width ∧ frame.height = encCtx.height

/-- Scaling never changes the geometry of `yuvFrame`. -/
theorem yuvFrame_relayFrame_fits (h : s.yuvFrame.Fits encCtx) (turn : Turn) :
    (relayFrame scale encCtx startTime s turn).yuvFrame.Fits encCtx := by
  unfold relayFrame sourceFrame
  split <;> exact h

/-- A frame of another format is replaced by `yuvFrame`, any other goes on as it is. -/
theorem submitted_relayFrame (h : s.yuvFrame.Fits encCtx) (turn : Turn) :
    ∃ f, (relayFrame scale encCtx startTime s turn).submitted = s.submitted ++ [f] ∧
      (f.Fits encCtx ↔ (turn.frame.format = yuv420p → turn.frame.Fits encCtx)) := by
  refine ⟨_, rfl, ?_⟩
  by_cases hformat : turn.frame.format = yuv420p
  · simp [sourceFrame, hformat, AVFrame.Fits]
  · simpa [sourceFrame, hformat, AVFrame.Fits] using h

theorem submitted_foldl_fits (turns : List Turn) (s : Relay) (h : s.yuvFrame.Fits encCtx) :
    (∀ f ∈ (turns.foldl (relayFrame scale encCtx startTime) s).submitted, f.Fits encCtx) ↔
      (∀ f ∈ s.submitted, f.Fits encCtx) ∧
        ∀ turn ∈ turns, turn.frame.format = yuv420p → turn.frame.Fits encCtx := by
  induction turns generalizing s with
  | nil => simp
  | cons turn turns ih =>
    obtain ⟨f, hf, hfits⟩ := submitted_relayFrame h turn
    rw [List.foldl_cons, ih _ (yuvFrame_relayFrame_fits h turn), hf, List.forall_mem_append,
      List.forall_mem_singleton, hfits, List.forall_mem_cons, and_assoc]

/-! ## What is broadcast -/

/-- The hub gets the packets of every accepted frame, in the order of the encoder. -/
theorem broadcast_foldl (turns : List Turn) (s : Relay) :
    (turns.foldl (relayFrame scale encCtx startTime) s).broadcast =
      s.broadcast ++ ((turns.filter (·.accepted)).flatMap Turn.packets).map wsFrame := by
  induction turns generalizing s with
  | nil => simp
  | cons turn turns ih =>
    rw [List.foldl_cons, ih]
    cases haccepted : turn.accepted <;> simp [relayFrame, haccepted]

end loops

/-! ## Connections -/

variable {decWidth decHeight : Int} {rounds : List Round}

/-- A connection begins with a frame of the encoder's geometry. -/
theorem yuvFrame_fits (encCtx : AVCodecContext) (h : encCtx.pixFmt = yuv420p) :
    (yuvFrame encCtx).Fits encCtx :=
  ⟨h.symm, rfl, rfl⟩

theorem connect_eq_some {a : Attempt} {r : Relay} (h : connect scale a = some r) :
    ∃ decWidth decHeight, a.openDecoder = some (decWidth, decHeight) ∧
      r = relay scale (findVideoStream 0 a.streams) decWidth decHeight a.startTime a.rounds := by
  simp only [connect, Option.bind_eq_bind, Option.bind_eq_some_iff] at h
  obtain ⟨-, -, -, -, -, -, -, -, ⟨decWidth, decHeight⟩, hopen, -, -, -, -, hr⟩ := h
  cases hr
  exact ⟨decWidth, decHeight, hopen, rfl⟩

/-- Every connection of the thread is a relay with the size of its own decoder. -/
theorem mem_runLoop {attempts : List Attempt} {r : Relay} (h : r ∈ runLoop scale attempts) :
    ∃ a ∈ attempts, ∃ decWidth decHeight, a.openDecoder = some (decWidth, decHeight) ∧
      r = relay scale (findVideoStream 0 a.streams) decWidth decHeight a.startTime a.rounds := by
  induction attempts with
  | nil => simp [runLoop] at h
  | cons a attempts ih =>
    unfold runLoop at h
    split at h
    · obtain hr | hr := List.mem_append.mp h
      · exact ⟨a, List.mem_cons_self, connect_eq_some (Option.mem_toList.mp hr)⟩
      · obtain ⟨a', ha', hr'⟩ := ih hr
        exact ⟨a', List.mem_cons_of_mem _ ha', hr'⟩
    · cases h

/-- Whatever happens, the timestamps of a connection are those of the clock. -/
theorem pts_relay :
    (relay scale videoStreamIdx decWidth decHeight startTime rounds).submitted.map AVFrame.pts =
      ((taken videoStreamIdx rounds).map Turn.time).map (currentTime startTime) := by
  simp [relay, readLoop_eq_foldl, pts_foldl]

theorem broadcast_relay :
    (relay scale videoStreamIdx decWidth decHeight startTime rounds).broadcast =
      (((taken videoStreamIdx rounds).filter (·.accepted)).flatMap Turn.packets).map wsFrame := by
  simp [relay, readLoop_eq_foldl, broadcast_foldl]

/-! ## Increasing timestamps -/

/-- What the encoder requires of the timestamps. -/
def Increasing (submitted : List AVFrame) : Prop :=
  (∀ f ∈ submitted, 0 ≤ f.pts) ∧ (submitted.map AVFrame.pts).Pairwise (· < ·)

/-- From `a` to `b` the clock passes a whole number of milliseconds since `start_time`. -/
def TickBetween (startTime a b : Int) : Prop :=
  ∃ ms : Int, a < startTime + 1000 * ms ∧ startTime + 1000 * ms ≤ b

/-- After `start_time`, rounding towards zero is rounding down. -/
theorem currentTime_of_le {time : Int} (h : startTime ≤ time) :
    currentTime startTime time = (time - startTime) / 1000 :=
  Int.tdiv_eq_ediv_of_nonneg (by omega)

theorem currentTime_lt_iff {a b : Int} (ha : startTime ≤ a) (hb : startTime ≤ b) :
    currentTime startTime a < currentTime startTime b ↔ TickBetween startTime a b := by
  rw [currentTime_of_le ha, currentTime_of_le hb]
  constructor
  · intro h
    exact ⟨(b - startTime) / 1000, by omega, by omega⟩
  · rintro ⟨ms, hlt, hle⟩
    omega

/-- No timestamp is negative once the clock is past `start_time`. -/
theorem pts_nonneg
    (hclock : ∀ time ∈ (taken videoStreamIdx rounds).map Turn.time, startTime ≤ time) :
    ∀ f ∈ (relay scale videoStreamIdx decWidth decHeight startTime rounds).submitted,
      0 ≤ f.pts := by
  intro f hf
  have hpts := List.mem_map_of_mem (f := AVFrame.pts) hf
  rw [pts_relay] at hpts
  obtain ⟨time, htime, heq⟩ := List.mem_map.mp hpts
  have hle := hclock time htime
  rw [← heq, currentTime_of_le hle]
  omega

/-- With a clock that never goes back, the timestamps increase exactly when between any two
successive frames a millisecond of the connection ends. -/
theorem increasing_iff_tickBetween
    (hclock : (startTime :: (taken videoStreamIdx rounds).map Turn.time).Pairwise (· ≤ ·)) :
    Increasing (relay scale videoStreamIdx decWidth decHeight startTime rounds).submitted ↔
      ((taken videoStreamIdx rounds).map Turn.time).IsChain (TickBetween startTime) := by
  obtain ⟨hstart, -⟩ := List.pairwise_cons.mp hclock
  rw [Increasing, and_iff_right (pts_nonneg hstart), pts_relay, ← List.isChain_iff_pairwise,
    List.isChain_map]
  exact List.IsChain.iff_of_mem_imp fun a b ha hb => currentTime_lt_iff (hstart a ha) (hstart b hb)

/-! ### Examples -/

/-- A frame of 640x480 in the format of the encoder, decoded at this time. -/
def cameraFrame (time : Int) : Turn := ⟨⟨yuv420p, 640, 480, noPts, []⟩, time, true, []⟩

/-- A camera with one video stream, whose decoder knows this size. -/
def camera (decWidth decHeight : Int) (rounds : List Round) : Attempt where
  running := true
  openInput := true
  findStreamInfo := true
  streams := [.video]
  findDecoder := true
  openDecoder := some (decWidth, decHeight)
  findEncoder := true
  openEncoder := true
  startTime := 0
  rounds := rounds

/-- Frames that are 40 milliseconds apart. -/
def steady : List Round :=
  [⟨true, some 0, true, [cameraFrame 40000]⟩, ⟨true, some 0, true, [cameraFrame 80000]⟩]

/-- A packet with two frames that are decoded half a millisecond apart. -/
def burst : List Round := [⟨true, some 0, true, [cameraFrame 400, cameraFrame 900]⟩]

theorem increasing_steady : Increasing (relay (fun _ _ => []) 0 640 480 0 steady).submitted := by
  refine (increasing_iff_tickBetween (by decide)).mpr ?_
  have htick : TickBetween 0 40000 80000 := ⟨80, by decide, by decide⟩
  simpa [steady, taken, cameraFrame] using htick

theorem burst_not_increasing :
    ∃ r, runLoop (fun _ _ => []) [camera 640 480 burst] = [r] ∧
      (0 :: (taken 0 burst).map Turn.time).Pairwise (· ≤ ·) ∧
      r.submitted.map AVFrame.pts = [0, 0] ∧ ¬ Increasing r.submitted := by
  refine ⟨_, rfl, by decide, rfl, ?_⟩
  rintro ⟨-, hlt⟩
  revert hlt
  decide

/-! ## Geometry of the frames -/

theorem fits_relay_iff :
    (∀ f ∈ (relay scale videoStreamIdx decWidth decHeight startTime rounds).submitted,
        f.Fits (encCtx decWidth decHeight)) ↔
      ∀ turn ∈ taken videoStreamIdx rounds, turn.frame.format = yuv420p →
        turn.frame.Fits (encCtx decWidth decHeight) := by
  rw [relay, readLoop_eq_foldl, submitted_foldl_fits _ _ (yuvFrame_fits _ rfl)]
  simp

/-- Every frame fits the encoder exactly when those that come in its format are of its size. -/
theorem submitted_fits_iff :
    (∀ f ∈ (relay scale videoStreamIdx decWidth decHeight startTime rounds).submitted,
        f.Fits (encCtx decWidth decHeight)) ↔
      ∀ turn ∈ taken videoStreamIdx rounds, turn.frame.format = yuv420p →
        turn.frame.width = (encCtx decWidth decHeight).width ∧
        turn.frame.height = (encCtx decWidth decHeight).height := by
  rw [fits_relay_iff]
  refine forall₂_congr fun turn _ => forall_congr' fun hformat => ?_
  exact and_iff_right hformat

/-- The decoder does not know its size yet, and the camera sends 640x480. -/
theorem unknown_size_not_fits :
    ∃ r, runLoop (fun _ _ => []) [camera 0 0 steady] = [r] ∧
      ¬ ∀ f ∈ r.submitted, f.Fits (encCtx 0 0) := by
  refine ⟨_, rfl, fun h => ?_⟩
  obtain ⟨-, hwidth, -⟩ := h _ List.mem_cons_self
  revert hwidth
  decide

theorem mem_taken {turn : Turn} (h : turn ∈ taken videoStreamIdx rounds) :
    ∃ round ∈ rounds, turn ∈ round.turns := by
  induction rounds with
  | nil => cases h
  | cons round rounds ih =>
    unfold taken at h
    grind

/-- The decoder knows the size of the frames, and the camera keeps to it. -/
def Attempt.KeepsSize (a : Attempt) : Prop :=
  ∀ decWidth decHeight, a.openDecoder = some (decWidth, decHeight) →
    0 < decWidth ∧ 0 < decHeight ∧ ∀ round ∈ a.rounds, ∀ turn ∈ round.turns,
      turn.frame.width = decWidth ∧ turn.frame.height = decHeight

/-- A camera that keeps its size is encoded in that size, connection after connection. -/
theorem runLoop_fits {attempts : List Attempt} (hsize : ∀ a ∈ attempts, a.KeepsSize) {r : Relay}
    (h : r ∈ runLoop scale attempts) :
    ∃ a ∈ attempts, ∃ decWidth decHeight, a.openDecoder = some (decWidth, decHeight) ∧
      ∀ f ∈ r.submitted, f.format = yuv420p ∧ f.width = decWidth ∧ f.height = decHeight := by
  obtain ⟨a, ha, decWidth, decHeight, hopen, rfl⟩ := mem_runLoop h
  obtain ⟨hwidth, hheight, hkeep⟩ := hsize a ha decWidth decHeight hopen
  have hctx : encCtx decWidth decHeight = ⟨decWidth, decHeight, yuv420p⟩ := by
    simp [encCtx, hwidth, hheight]
  refine ⟨a, ha, decWidth, decHeight, hopen, ?_⟩
  have hfits : ∀ f ∈ (relay scale (findVideoStream 0 a.streams) decWidth decHeight a.startTime
      a.rounds).submitted, f.Fits (encCtx decWidth decHeight) := by
    refine fits_relay_iff.mpr fun turn hturn hformat => ?_
    obtain ⟨round, hround, hmem⟩ := mem_taken hturn
    rw [hctx]
    exact ⟨hformat, hkeep round hround turn hmem⟩
  rw [hctx] at hfits
  exact hfits

end CCTVWebServer.RunLoop
