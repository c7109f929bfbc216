import CCTVWebServer.Broadcast

/-!
# The write pump

With a re-entrant mutex, a session has one round of its pump under way at most, and
`is_writing_` says whether it has one. The front of the queue stays there while it is
being written, so the frames written and the queue make up the frames sent.
-/

namespace CCTVWebServer.Broadcast

open Foundation

/-! ## Frames in a history -/

def sentFrame : PumpEvent → Option Frame
  | .sendFrame data => some data
  | _ => none

def writtenFrame : PumpEvent → Option Frame
  | .asyncWrite _ frame => some frame
  | _ => none

/-- The frames passed to `sendFrame`, oldest first. -/
def sentFrames (h : List PumpEvent) : List Frame := (h.filterMap sentFrame).reverse

/-- The frames passed to `async_write`, oldest first. -/
def writtenFrames (h : List PumpEvent) : List Frame := (h.filterMap writtenFrame).reverse

/-- A write has failed. -/
def WriteFailed (h : List PumpEvent) : Prop := ∃ k, PumpEvent.complete k false ∈ h

variable {h : List PumpEvent} {s t : Pump} {r : Round} {k : Nat} {frame data : Frame}

theorem sentFrames_cons (ev : PumpEvent) (h : List PumpEvent) :
    sentFrames (ev :: h) = sentFrames h ++ (sentFrame ev).toList := by
  rw [sentFrames, List.filterMap_cons]
  cases sentFrame ev <;> simp [sentFrames]

theorem writtenFrames_cons (ev : PumpEvent) (h : List PumpEvent) :
    writtenFrames (ev :: h) = writtenFrames h ++ (writtenFrame ev).toList := by
  rw [writtenFrames, List.filterMap_cons]
  cases writtenFrame ev <;> simp [writtenFrames]

/-! ## The invariant -/

/-- The frames that a round leaves for later: the queue, without the frame that is being
written. -/
def Round.waiting (queue : List Frame) : Round → List Frame
  | .calling _ _ | .popped => queue
  | .writing _ | .written => queue.tail

/-- While a frame is being written it is the front of the queue. -/
def Round.Holds (queue : List Frame) : Round → Prop
  | .calling frame _ => queue.head? = some frame
  | .writing _ | .written => queue ≠ []
  | .popped => True

/-- What a history and the pump after it have to do with each other. -/
inductive Pumping (h : List PumpEvent) (s : Pump) : Prop where
  /-- Nothing is under way, and everything has been written. -/
  | resting (rounds : s.rounds = []) (flag : s.session.isWriting = false)
      (queue : s.session.writeQueue = []) (frames : sentFrames h = writtenFrames h)
      (sound : ¬ WriteFailed h)
  /-- One round is under way. -/
  | working (r : Round) (rounds : s.rounds = [r]) (flag : s.session.isWriting = true)
      (holds : r.Holds s.session.writeQueue)
      (frames : sentFrames h = writtenFrames h ++ r.waiting s.session.writeQueue)
      (sound : ¬ WriteFailed h)
  /-- After an error the flag stays set, with no round to clear it. -/
  | failed (rounds : s.rounds = []) (flag : s.session.isWriting = true)
      (queue : s.session.writeQueue ≠ [])
      (frames : sentFrames h = writtenFrames h ++ s.session.writeQueue.tail)
      (broken : WriteFailed h)

theorem writeFailed_cons (ev : PumpEvent) (h : List PumpEvent) :
    WriteFailed (ev :: h) ↔ (∃ k, .complete k false = ev) ∨ WriteFailed h := by
  simp only [WriteFailed, List.mem_cons, exists_or]

/-- The only round of a list. -/
theorem eq_of_getElem?_singleton {a b : Round} (h : [a][k]? = some b) : k = 0 ∧ a = b := by
  cases k with
  | zero => exact ⟨rfl, by simpa using h⟩
  | succ k => simp at h

theorem pumping_new : Pumping [] Pump.new :=
  .resting rfl rfl rfl rfl (by simp [WriteFailed])

/-- Only a round that works can be named by an event. -/
theorem Pumping.of_round (hs : Pumping h s) (hr : s.rounds[k]? = some r) :
    k = 0 ∧ s.rounds = [r] ∧ s.session.isWriting = true ∧ r.Holds s.session.writeQueue ∧
      sentFrames h = writtenFrames h ++ r.waiting s.session.writeQueue ∧ ¬ WriteFailed h := by
  cases hs with
  | resting rounds => simp [rounds] at hr
  | failed rounds => simp [rounds] at hr
  | working r' rounds flag holds frames sound =>
    rw [rounds] at hr
    obtain ⟨rfl, rfl⟩ := eq_of_getElem?_singleton hr
    exact ⟨rfl, rounds, flag, holds, frames, sound⟩

theorem Pumping.sendFrame (hs : Pumping h s) (data : Frame) :
    Pumping (.sendFrame data :: h) (Pump.perform (.sendFrame data) s) := by
  have hfailed : WriteFailed (.sendFrame data :: h) ↔ WriteFailed h := by
    simp [writeFailed_cons]
  have hsent : sentFrames (.sendFrame data :: h) = sentFrames h ++ [data] :=
    sentFrames_cons _ _
  have hwritten : writtenFrames (.sendFrame data :: h) = writtenFrames h := rfl
  cases hs with
  | resting rounds flag queue frames sound =>
    have hsend : s.session.send data = (some data, ⟨[data], true⟩) := by
      simp [Session.send, Session.push, Session.front, flag, queue]
    refine .working (.calling data true) ?_ ?_ ?_ ?_ (hfailed.not.mpr sound)
    · simp [Pump.perform, hsend, rounds]
    · simp [Pump.perform, hsend]
    · simp [Pump.perform, hsend, Round.Holds]
    · simp [Pump.perform, hsend, Round.waiting, hsent, hwritten, frames]
  | working r rounds flag holds frames sound =>
    have hsend : s.session.send data = (none, s.session.push data) := by
      simp [Session.send, Session.push, flag]
    have hround : r.Holds (s.session.writeQueue ++ [data]) ∧
        r.waiting (s.session.writeQueue ++ [data]) = r.waiting s.session.writeQueue ++ [data] := by
      cases r with
      | calling frame locked =>
        have hhead : s.session.writeQueue.head? = some frame := holds
        exact ⟨by simp [Round.Holds, hhead], rfl⟩
      | writing frame => exact ⟨by simp [Round.Holds], List.tail_append_of_ne_nil holds⟩
      | written => exact ⟨by simp [Round.Holds], List.tail_append_of_ne_nil holds⟩
      | popped => exact ⟨trivial, rfl⟩
    refine .working r ?_ ?_ ?_ ?_ (hfailed.not.mpr sound)
    · simp [Pump.perform, hsend, rounds]
    · simp [Pump.perform, hsend, Session.push, flag]
    · simpa [Pump.perform, hsend, Session.push] using hround.1
    · simp [Pump.perform, hsend, Session.push, hsent, hwritten, frames, hround.2]
  | failed rounds flag queue frames broken =>
    have hsend : s.session.send data = (none, s.session.push data) := by
      simp [Session.send, Session.push, flag]
    refine .failed ?_ ?_ ?_ ?_ (hfailed.mpr broken)
    · simp [Pump.perform, hsend, rounds]
    · simp [Pump.perform, hsend, Session.push, flag]
    · simp [Pump.perform, hsend, Session.push]
    · simp [Pump.perform, hsend, Session.push, hsent, hwritten, frames,
        List.tail_append_of_ne_nil queue]

theorem Pumping.asyncWrite {locked : Bool} (hs : Pumping h s)
    (hr : s.rounds[k]? = some (.calling frame locked)) :
    Pumping (.asyncWrite k frame :: h) (Pump.perform (.asyncWrite k frame) s) := by
  obtain ⟨rfl, rounds, flag, holds, frames, sound⟩ := hs.of_round hr
  obtain ⟨rest, hqueue⟩ := List.head?_eq_some_iff.mp holds
  have hwritten : writtenFrames (.asyncWrite 0 frame :: h) = writtenFrames h ++ [frame] :=
    writtenFrames_cons _ _
  have hsent : sentFrames (.asyncWrite 0 frame :: h) = sentFrames h := rfl
  refine .working (.writing frame) (by simp [Pump.perform, rounds]) flag ?_ ?_ ?_
  · simp [Pump.perform, Round.Holds, hqueue]
  · rw [hsent, hwritten, frames]
    simp [Pump.perform, Round.waiting, hqueue]
  · simpa [writeFailed_cons] using sound

theorem Pumping.complete (hs : Pumping h s) (hr : s.rounds[k]? = some (.writing frame))
    (ok : Bool) : Pumping (.complete k ok :: h) (Pump.perform (.complete k ok) s) := by
  obtain ⟨rfl, rounds, flag, holds, frames, sound⟩ := hs.of_round hr
  cases ok with
  | true =>
    exact .working .written (by simp [Pump.perform, rounds]) flag holds frames
      (by simpa [writeFailed_cons] using sound)
  | false =>
    exact .failed (by simp [Pump.perform, rounds]) flag holds frames ⟨0, by simp⟩

theorem Pumping.pop (hs : Pumping h s) (hr : s.rounds[k]? = some .written) :
    Pumping (.pop k :: h) (Pump.perform (.pop k) s) := by
  obtain ⟨rfl, rounds, flag, holds, frames, sound⟩ := hs.of_round hr
  exact .working .popped (by simp [Pump.perform, rounds]) flag trivial frames
    (by simpa [writeFailed_cons] using sound)

theorem Pumping.doWrite (hs : Pumping h s) (hr : s.rounds[k]? = some .popped) :
    Pumping (.doWrite k :: h) (Pump.perform (.doWrite k) s) := by
  obtain ⟨rfl, rounds, flag, -, frames, sound⟩ := hs.of_round hr
  have hsound : ¬ WriteFailed (.doWrite 0 :: h) := by simpa [writeFailed_cons] using sound
  cases hqueue : s.session.writeQueue with
  | nil =>
    rw [Round.waiting, hqueue, List.append_nil] at frames
    exact .resting (by simp [Pump.perform, Session.front, hqueue, rounds])
      (by simp [Pump.perform, Session.front, hqueue])
      (by simp [Pump.perform, Session.front, hqueue]) frames hsound
  | cons frame rest =>
    have hfront : s.session.front = (some frame, s.session) := by simp [Session.front, hqueue]
    refine .working (.calling frame false) ?_ ?_ ?_ ?_ hsound
    · simp [Pump.perform, hfront, rounds]
    · simp [Pump.perform, hfront, flag]
    · simp [Pump.perform, hfront, Round.Holds, hqueue]
    · have hsent : sentFrames (.doWrite 0 :: h) = sentFrames h := rfl
      have hwritten : writtenFrames (.doWrite 0 :: h) = writtenFrames h := rfl
      rw [hsent, hwritten, frames]
      simp [Pump.perform, hfront, Round.waiting]

theorem Pumping.step {ev : PumpEvent} (hs : Pumping h s) (hstep : Pump.Step s ev t) :
    Pumping (ev :: h) t := by
  obtain ⟨henabled, rfl⟩ := hstep
  cases ev with
  | sendFrame data => exact hs.sendFrame data
  | asyncWrite k frame =>
    obtain ⟨locked, hr⟩ := henabled
    exact hs.asyncWrite hr
  | complete k ok =>
    obtain ⟨frame, hr⟩ := henabled
    exact hs.complete hr ok
  | pop k => exact hs.pop henabled.2
  | doWrite k => exact hs.doWrite henabled.2

theorem pumping_of_trace (hrun : Trace Pump.Step Pump.new h s) : Pumping h s :=
  hrun.invariant_history (fun _ _ _ _ hs hstep => hs.step hstep) pumping_new

/-! ## Runs -/

def Round.isWriting : Round → Bool
  | .writing _ => true
  | _ => false

/-- A call of `doWrite` has not run yet, or is on its way to `async_write`. -/
def Round.doWriteToCome : Round → Bool
  | .writing _ => false
  | _ => true

/-- After a failed write no round comes up again. -/
theorem no_write_after_failure {later : List PumpEvent} (hs : Pumping h s)
    (hfailed : WriteFailed h) (hrun : Trace Pump.Step s later t) :
    ∀ k frame, PumpEvent.asyncWrite k frame ∉ later := by
  have hboth : Pumping (later ++ h) t ∧ ∀ k frame, PumpEvent.asyncWrite k frame ∉ later := by
    induction hrun with
    | refl => exact ⟨hs, by simp⟩
    | step _ hstep ih =>
      obtain ⟨hmid, hno⟩ := ih
      refine ⟨hmid.step hstep, ?_⟩
      intro k frame hmem
      rcases List.mem_cons.mp hmem with rfl | hmem
      · obtain ⟨⟨locked, hr⟩, -⟩ := hstep
        obtain ⟨-, -, -, -, -, sound⟩ := hmid.of_round hr
        obtain ⟨j, hj⟩ := hfailed
        exact sound ⟨j, List.mem_append_right _ hj⟩
      · exact hno k frame hmem
  exact hboth.2

/-- What the pump promises after a history. -/
structure PumpSafe (h : List PumpEvent) (s : Pump) : Prop where
  /-- One `async_write` is outstanding at most. -/
  one_write : s.rounds.countP Round.isWriting ≤ 1
  /-- The frames are written in order, each once. -/
  in_order : writtenFrames h <+: sentFrames h
  /-- No frame is stranded: a write is outstanding, or a `doWrite` is to come. -/
  awake : ¬ WriteFailed h → s.session.writeQueue ≠ [] →
    ∃ r ∈ s.rounds, r.isWriting ∨ r.doWriteToCome
  /-- Behind a failed write nothing is written. -/
  silent : ∀ later k earlier, h = later ++ .complete k false :: earlier →
    ∀ j frame, PumpEvent.asyncWrite j frame ∉ later

theorem pumpSafe_of_trace (hrun : Trace Pump.Step Pump.new h s) : PumpSafe h s := by
  have hs := pumping_of_trace hrun
  constructor
  case one_write =>
    cases hs with
    | resting rounds => simp [rounds]
    | working r rounds => exact List.countP_le_length.trans (by simp [rounds])
    | failed rounds => simp [rounds]
  case in_order =>
    cases hs with
    | resting _ _ _ frames => exact frames ▸ List.prefix_rfl
    | working _ _ _ _ frames => exact frames ▸ List.prefix_append _ _
    | failed _ _ _ frames => exact frames ▸ List.prefix_append _ _
  case awake =>
    intro hno hqueue
    cases hs with
    | resting _ _ queue => exact absurd queue hqueue
    | working r rounds =>
      refine ⟨r, by simp [rounds], ?_⟩
      cases r <;> simp [Round.isWriting, Round.doWriteToCome]
    | failed _ _ _ _ broken => exact absurd broken hno
  case silent =>
    rintro later k earlier rfl
    obtain ⟨t, t', hearlier, hstep, hlater⟩ := hrun.split
    have ht' := (pumping_of_trace hearlier).step hstep
    exact no_write_after_failure ht' ⟨k, List.mem_cons_self⟩ hlater

/-- Two frames are sent, and the write of the first one fails. -/
theorem pumpSafe_after_error :
    PumpSafe [.complete 0 false, .sendFrame [2], .asyncWrite 0 [1], .sendFrame [1]]
      ⟨⟨[[1], [2]], true⟩, []⟩ :=
  pumpSafe_of_trace <|
    .step (.step (.step (.step .refl ⟨by simp [Pump.Enabled, Pump.Free, Pump.new], rfl⟩)
      ⟨⟨true, rfl⟩, rfl⟩)
      ⟨by simp [Pump.Enabled, Pump.Free, Pump.perform, Pump.new, Session.send, Session.push,
        Session.front, Session.new], rfl⟩)
      ⟨⟨[1], rfl⟩, rfl⟩

end CCTVWebServer.Broadcast
