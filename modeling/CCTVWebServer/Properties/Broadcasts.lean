import CCTVWebServer.Properties.WritePump

/-!
# What a session is sent

The hub goes through its sessions with one frame at a time, while the handlers of every
session run whenever they like. A session is sent every frame that is broadcast while it is
in the set, and its pump writes them in this order.
-/

namespace CCTVWebServer.Broadcast

open Foundation

variable {h : List HubEvent} {s t : Hub} {ev : HubEvent} {i : Nat}

/-! ## Frames in a history -/

/-- What an event is to the pump of a session. -/
def HubEvent.pumpEvent (i : Nat) : HubEvent → Option PumpEvent
  | .sendFrame j data => if j = i then some (.sendFrame data) else none
  | .pump j ev => if j = i then some ev else none
  | _ => none

/-- The history of one pump. -/
def pumpEvents (i : Nat) (h : List HubEvent) : List PumpEvent := h.filterMap (HubEvent.pumpEvent i)

def HubEvent.frame : HubEvent → Option Frame
  | .broadcastFrame data _ => some data
  | _ => none

def HubEvent.frameFor (i : Nat) : HubEvent → Option Frame
  | .broadcastFrame data order => if i ∈ order then some data else none
  | _ => none

/-- The frames that were broadcast, oldest first. -/
def broadcastFrames (h : List HubEvent) : List Frame := (h.filterMap HubEvent.frame).reverse

/-- Those that were broadcast while the session was in the set. -/
def framesFor (i : Nat) (h : List HubEvent) : List Frame :=
  (h.filterMap (HubEvent.frameFor i)).reverse

theorem pumpEvents_cons (i : Nat) (ev : HubEvent) (h : List HubEvent) :
    pumpEvents i (ev :: h) = (ev.pumpEvent i).toList ++ pumpEvents i h := by
  rw [pumpEvents, List.filterMap_cons]
  cases ev.pumpEvent i <;> rfl

theorem broadcastFrames_cons (ev : HubEvent) (h : List HubEvent) :
    broadcastFrames (ev :: h) = broadcastFrames h ++ ev.frame.toList := by
  rw [broadcastFrames, List.filterMap_cons]
  cases ev.frame <;> simp [broadcastFrames]

theorem framesFor_cons (i : Nat) (ev : HubEvent) (h : List HubEvent) :
    framesFor i (ev :: h) = framesFor i h ++ (ev.frameFor i).toList := by
  rw [framesFor, List.filterMap_cons]
  cases ev.frameFor i <;> simp [framesFor]

/-! ## The pumps of a hub -/

theorem pump_advance (s : Hub) (i j : Nat) (ev : PumpEvent) :
    (s.advance j ev).pump i = if j = i then Pump.perform ev (s.pump i) else s.pump i := by
  unfold Hub.advance
  split_ifs with hij
  · subst hij
    simp
  · simp [Function.update_of_ne (Ne.symm hij)]

/-- A step of the hub is at most one step of a pump. -/
theorem Hub.Step.pump (hstep : Hub.Step s ev t) (i : Nat) :
    match ev.pumpEvent i with
    | some e => Pump.Step (s.pump i) e (t.pump i)
    | none => t.pump i = s.pump i := by
  obtain ⟨henabled, rfl⟩ := hstep
  cases ev with
  | sendFrame j data =>
    obtain ⟨rest, -, hfree⟩ := henabled
    have hpump : (Hub.perform (.sendFrame j data) s).pump i =
        (s.advance j (.sendFrame data)).pump i := rfl
    rw [hpump, pump_advance]
    by_cases hij : j = i
    · subst hij
      simp only [HubEvent.pumpEvent, if_true]
      exact ⟨hfree j, rfl⟩
    · simp [HubEvent.pumpEvent, hij]
  | pump j e =>
    have hpump : (Hub.perform (.pump j e) s).pump i = (s.advance j e).pump i := rfl
    rw [hpump, pump_advance]
    by_cases hij : j = i
    · subst hij
      simp only [HubEvent.pumpEvent, if_true]
      exact ⟨henabled.1, rfl⟩
    · simp [HubEvent.pumpEvent, hij]
  | _ => rfl

/-- Every pump of a hub runs as a pump on its own does. -/
theorem pump_of_trace (hrun : Trace Hub.Step .empty h s) (i : Nat) :
    Trace Pump.Step .new (pumpEvents i h) (s.pump i) := by
  induction hrun with
  | refl => exact .refl
  | @step h s t ev _ hstep ih =>
    have hpump := hstep.pump i
    rw [pumpEvents_cons]
    cases hev : ev.pumpEvent i with
    | none =>
      rw [hev] at hpump
      dsimp only at hpump
      rw [hpump]
      exact ih
    | some e =>
      rw [hev] at hpump
      exact ih.step hpump

/-! ## The loop of `broadcastFrame` -/

/-- The frame that a session is still to be sent. -/
def Hub.pending (s : Hub) (i : Nat) : List Frame :=
  match s.loop with
  | some (data, rest) => if i ∈ rest then [data] else []
  | none => []

/-- The loop names no session twice, and only sessions of the set. -/
structure Hub.Sound (s : Hub) : Prop where
  sessions : s.sessions.Nodup
  loop : ∀ data rest, s.loop = some (data, rest) → rest.Nodup ∧ rest ⊆ s.sessions

theorem Hub.sound_empty : Hub.empty.Sound where
  sessions := .nil
  loop _ _ hloop := nomatch hloop

theorem Hub.Sound.step (hs : s.Sound) (hstep : Hub.Step s ev t) : t.Sound := by
  obtain ⟨henabled, rfl⟩ := hstep
  cases ev with
  | registerSession j =>
    have hnone : s.loop = none := henabled
    refine ⟨?_, fun data rest hloop => by simp [Hub.perform, hnone] at hloop⟩
    dsimp only [Hub.perform]
    split_ifs with hmem
    · exact hs.sessions
    · exact List.nodup_cons.mpr ⟨hmem, hs.sessions⟩
  | unregisterSession j =>
    have hnone : s.loop = none := henabled
    exact ⟨hs.sessions.erase j, fun data rest hloop => by simp [Hub.perform, hnone] at hloop⟩
  | broadcastFrame data order =>
    obtain ⟨-, hperm⟩ := henabled
    refine ⟨hs.sessions, fun data' rest hloop => ?_⟩
    obtain ⟨rfl, rfl⟩ : data = data' ∧ order = rest := by simpa [Hub.perform] using hloop
    exact ⟨hperm.nodup_iff.mpr hs.sessions, hperm.subset⟩
  | sendFrame j data =>
    obtain ⟨rest, hloop, -⟩ := henabled
    obtain ⟨hnodup, hsubset⟩ := hs.loop _ _ hloop
    refine ⟨hs.sessions, fun data' rest' hloop' => ?_⟩
    obtain ⟨rfl, rfl⟩ : data = data' ∧ rest = rest' := by simpa [Hub.perform, hloop] using hloop'
    exact ⟨hnodup.of_cons, fun k hk => hsubset (List.mem_cons_of_mem _ hk)⟩
  | broadcastReturns => exact ⟨hs.sessions, fun data rest hloop => by cases hloop⟩
  | pump j e => exact ⟨hs.sessions, hs.loop⟩

theorem Hub.sound_of_trace (hrun : Trace Hub.Step .empty h s) : s.Sound :=
  hrun.invariant (fun _ _ _ hs hstep => hs.step hstep) Hub.sound_empty

/-- What a session has been sent, and is still to be sent, is what was broadcast for it. -/
theorem Hub.Sound.sent_step (hs : s.Sound) (hstep : Hub.Step s ev t)
    (hsent : sentFrames (pumpEvents i h) ++ s.pending i = framesFor i h) :
    sentFrames (pumpEvents i (ev :: h)) ++ t.pending i = framesFor i (ev :: h) := by
  obtain ⟨henabled, rfl⟩ := hstep
  rw [framesFor_cons, ← hsent, pumpEvents_cons]
  cases ev with
  | registerSession j =>
    have hnone : s.loop = none := henabled
    simp [HubEvent.pumpEvent, HubEvent.frameFor, Hub.pending, Hub.perform, hnone]
  | unregisterSession j =>
    have hnone : s.loop = none := henabled
    simp [HubEvent.pumpEvent, HubEvent.frameFor, Hub.pending, Hub.perform, hnone]
  | broadcastFrame data order =>
    obtain ⟨hnone, -⟩ := henabled
    by_cases hmem : i ∈ order <;>
      simp [HubEvent.pumpEvent, HubEvent.frameFor, Hub.pending, Hub.perform, hnone, hmem]
  | sendFrame j data =>
    obtain ⟨rest, hloop, -⟩ := henabled
    obtain ⟨hnodup, -⟩ := hs.loop _ _ hloop
    by_cases hij : j = i
    · subst hij
      have hrest : j ∉ rest := (List.nodup_cons.mp hnodup).1
      simp [HubEvent.pumpEvent, HubEvent.frameFor, Hub.pending, Hub.perform, hloop, hrest,
        sentFrames_cons, sentFrame]
    · simp [HubEvent.pumpEvent, HubEvent.frameFor, Hub.pending, Hub.perform, hloop, hij,
        Ne.symm hij]
  | broadcastReturns =>
    obtain ⟨data, hloop, -⟩ := henabled
    simp [HubEvent.pumpEvent, HubEvent.frameFor, Hub.pending, Hub.perform, hloop]
  | pump j e =>
    obtain ⟨-, hno⟩ := henabled
    have hpending : (Hub.perform (.pump j e) s).pending i = s.pending i := rfl
    rw [hpending]
    by_cases hij : j = i
    · have hnone : sentFrame e = none := by
        cases e with
        | sendFrame data => exact absurd rfl (hno data)
        | _ => rfl
      simp [HubEvent.pumpEvent, HubEvent.frameFor, hij, sentFrames_cons, hnone]
    · simp [HubEvent.pumpEvent, HubEvent.frameFor, hij]

theorem sent_of_trace (hrun : Trace Hub.Step .empty h s) (i : Nat) :
    sentFrames (pumpEvents i h) ++ s.pending i = framesFor i h := by
  induction hrun with
  | refl => rfl
  | step hrun hstep ih => exact (Hub.sound_of_trace hrun).sent_step hstep ih

/-! ## Since the registration -/

theorem framesFor_append (i : Nat) (later earlier : List HubEvent) :
    framesFor i (later ++ earlier) = framesFor i earlier ++ framesFor i later := by
  simp [framesFor]

theorem broadcastFrames_append (later earlier : List HubEvent) :
    broadcastFrames (later ++ earlier) = broadcastFrames earlier ++ broadcastFrames later := by
  simp [broadcastFrames]

/-- Before its registration a session is in no loop. -/
theorem framesFor_of_unregistered (hrun : Trace Hub.Step .empty h s)
    (hnew : .registerSession i ∉ h) : i ∉ s.sessions ∧ framesFor i h = [] := by
  induction hrun with
  | refl => exact ⟨List.not_mem_nil, rfl⟩
  | @step h s t ev _ hstep ih =>
    obtain ⟨hev, hnew⟩ := not_or.mp (List.mem_cons.not.mp hnew)
    obtain ⟨hnot, hnone⟩ := ih hnew
    obtain ⟨henabled, rfl⟩ := hstep
    rw [framesFor_cons, hnone]
    cases ev with
    | registerSession j =>
      have hij : i ≠ j := fun hij => hev (by rw [hij])
      refine ⟨?_, rfl⟩
      dsimp only [Hub.perform]
      split_ifs <;> simp [hij, hnot]
    | unregisterSession j => exact ⟨fun hmem => hnot (List.mem_of_mem_erase hmem), rfl⟩
    | broadcastFrame data order =>
      have horder : i ∉ order := fun hmem => hnot (henabled.2.subset hmem)
      exact ⟨hnot, by simp [HubEvent.frameFor, horder]⟩
    | _ => exact ⟨hnot, rfl⟩

/-- While a session is in the set it is sent everything, and nothing once it is out. -/
theorem framesFor_since {later : List HubEvent} (hrun : Trace Hub.Step s later t)
    (honce : .registerSession i ∉ later) :
    framesFor i later <+: broadcastFrames later ∧
      (i ∈ t.sessions → framesFor i later = broadcastFrames later) := by
  induction hrun with
  | refl => exact ⟨List.prefix_rfl, fun _ => rfl⟩
  | @step later t u ev _ hstep ih =>
    obtain ⟨hev, honce⟩ := not_or.mp (List.mem_cons.not.mp honce)
    obtain ⟨hbegins, hall⟩ := ih honce
    obtain ⟨henabled, rfl⟩ := hstep
    rw [framesFor_cons, broadcastFrames_cons]
    cases ev with
    | registerSession j =>
      have hij : i ≠ j := fun hij => hev (by rw [hij])
      refine ⟨by simpa [HubEvent.frameFor, HubEvent.frame] using hbegins, fun hmem => ?_⟩
      have hmem' : i ∈ t.sessions := by
        dsimp only [Hub.perform] at hmem
        split_ifs at hmem
        · exact hmem
        · exact (List.mem_cons.mp hmem).resolve_left hij
      simpa [HubEvent.frameFor, HubEvent.frame] using hall hmem'
    | unregisterSession j =>
      refine ⟨by simpa [HubEvent.frameFor, HubEvent.frame] using hbegins, fun hmem => ?_⟩
      simpa [HubEvent.frameFor, HubEvent.frame] using hall (List.mem_of_mem_erase hmem)
    | broadcastFrame data order =>
      obtain ⟨-, hperm⟩ := henabled
      by_cases hmem : i ∈ t.sessions
      · have horder : i ∈ order := hperm.mem_iff.mpr hmem
        have heq : framesFor i later ++ (HubEvent.frameFor i (.broadcastFrame data order)).toList =
            broadcastFrames later ++ (HubEvent.broadcastFrame data order).frame.toList := by
          simp [HubEvent.frameFor, HubEvent.frame, horder, hall hmem]
        exact ⟨heq ▸ List.prefix_rfl, fun _ => heq⟩
      · have horder : i ∉ order := fun h => hmem (hperm.subset h)
        refine ⟨?_, fun h => absurd h hmem⟩
        simpa [HubEvent.frameFor, horder] using hbegins.trans (List.prefix_append _ _)
    | _ =>
      refine ⟨by simpa [HubEvent.frameFor, HubEvent.frame] using hbegins, fun hmem => ?_⟩
      simpa [HubEvent.frameFor, HubEvent.frame] using hall hmem

/-- The session registers once in the history. -/
structure JoinsAfter (i : Nat) (earlier h : List HubEvent) : Prop where
  split : ∃ later, h = later ++ .registerSession i :: earlier ∧ .registerSession i ∉ later
  new : .registerSession i ∉ earlier

/-- What is broadcast for a session, with the number of frames that it has missed. -/
theorem framesFor_joined {earlier : List HubEvent} (hrun : Trace Hub.Step .empty h s)
    (hjoins : JoinsAfter i earlier h) :
    framesFor i h <+: (broadcastFrames h).drop (broadcastFrames earlier).length ∧
      (i ∈ s.sessions →
        framesFor i h = (broadcastFrames h).drop (broadcastFrames earlier).length) := by
  obtain ⟨⟨later, rfl, honce⟩, hnew⟩ := hjoins
  obtain ⟨t, t', hearlier, ⟨-, rfl⟩, hlater⟩ := hrun.split
  obtain ⟨-, hnone⟩ := framesFor_of_unregistered hearlier hnew
  have hframes : framesFor i (later ++ .registerSession i :: earlier) = framesFor i later := by
    rw [framesFor_append, framesFor_cons, hnone]
    rfl
  have hbroadcast : (broadcastFrames (later ++ .registerSession i :: earlier)).drop
      (broadcastFrames earlier).length = broadcastFrames later := by
    rw [broadcastFrames_append, broadcastFrames_cons]
    simp [HubEvent.frame]
  rw [hframes, hbroadcast]
  exact framesFor_since hlater honce

/-- What a pump has written it was sent before. -/
theorem written_of_frames (hrun : Trace Hub.Step .empty h s) (i : Nat) :
    writtenFrames (pumpEvents i h) <+: framesFor i h := by
  rw [← sent_of_trace hrun i]
  exact (pumpSafe_of_trace (pump_of_trace hrun i)).in_order.trans (List.prefix_append _ _)

/-- A pump at rest has written all it was sent. -/
theorem written_eq_sent {h : List PumpEvent} {s : Pump} (hrun : Trace Pump.Step .new h s)
    (hrest : s.rounds = []) (hsound : ¬ WriteFailed h) : writtenFrames h = sentFrames h := by
  cases pumping_of_trace hrun with
  | resting _ _ _ frames => exact frames.symm
  | working r rounds =>
    rw [hrest] at rounds
    cases rounds
  | failed _ _ _ _ broken => exact absurd broken hsound

/-- However the hub and the handlers of any number of sessions interleave, and whatever writes
fail: the frames written for a session are those broadcast since its registration, in order
and without a gap. When the session is still in the set, none of its writes has failed and
nothing is under way, they are all of them. -/
theorem viewer_stream {earlier : List HubEvent} (hrun : Trace Hub.Step .empty h s)
    (hjoins : JoinsAfter i earlier h) :
    writtenFrames (pumpEvents i h) <+: (broadcastFrames h).drop (broadcastFrames earlier).length ∧
      (i ∈ s.sessions → s.loop = none → (s.pump i).rounds = [] →
        ¬ WriteFailed (pumpEvents i h) →
        writtenFrames (pumpEvents i h) =
          (broadcastFrames h).drop (broadcastFrames earlier).length) := by
  obtain ⟨hbegins, hall⟩ := framesFor_joined hrun hjoins
  refine ⟨(written_of_frames hrun i).trans hbegins, fun hmem hloop hrest hsound => ?_⟩
  have hsent := sent_of_trace hrun i
  have hpending : s.pending i = [] := by simp [Hub.pending, hloop]
  rw [hpending, List.append_nil] at hsent
  rw [written_eq_sent (pump_of_trace hrun i) hrest hsound, hsent, hall hmem]

/-- A session registers after a first frame, and is sent the second one. -/
def lateViewer (first second : Frame) : List HubEvent :=
  [.pump 0 (.asyncWrite 0 second), .sendFrame 0 second, .broadcastFrame second [0],
    .registerSession 0, .broadcastReturns, .broadcastFrame first []]

theorem joins_lateViewer (first second : Frame) :
    JoinsAfter 0 [.broadcastReturns, .broadcastFrame first []] (lateViewer first second) where
  split := ⟨[.pump 0 (.asyncWrite 0 second), .sendFrame 0 second, .broadcastFrame second [0]],
    rfl, by simp⟩
  new := by simp

theorem run_perform (hrun : Trace Hub.Step .empty h s) (ev : HubEvent) (henabled : s.Enabled ev) :
    Trace Hub.Step .empty (ev :: h) (Hub.perform ev s) :=
  hrun.step ⟨henabled, rfl⟩

theorem run_lateViewer (first second : Frame) :
    ∃ s, Trace Hub.Step .empty (lateViewer first second) s := by
  have hfree : Pump.new.Free := by simp [Pump.Free, Pump.new]
  have hfirst := run_perform .refl (.broadcastFrame first []) ⟨rfl, .nil⟩
  have hreturns := run_perform hfirst .broadcastReturns ⟨first, rfl, fun _ => hfree⟩
  have hjoins := run_perform hreturns (.registerSession 0) rfl
  have hsecond := run_perform hjoins (.broadcastFrame second [0]) ⟨rfl, .refl _⟩
  have hsends := run_perform hsecond (.sendFrame 0 second) ⟨[], rfl, fun _ => hfree⟩
  exact ⟨_, run_perform hsends (.pump 0 (.asyncWrite 0 second)) ⟨⟨true, rfl⟩, by simp⟩⟩

theorem viewer_stream_late :
    ∃ s, Trace Hub.Step .empty (lateViewer [1] [2]) s ∧
      writtenFrames (pumpEvents 0 (lateViewer [1] [2])) <+:
        (broadcastFrames (lateViewer [1] [2])).drop
          (broadcastFrames [.broadcastReturns, .broadcastFrame [1] []]).length ∧
      (0 ∈ s.sessions → s.loop = none → (s.pump 0).rounds = [] →
        ¬ WriteFailed (pumpEvents 0 (lateViewer [1] [2])) →
        writtenFrames (pumpEvents 0 (lateViewer [1] [2])) =
          (broadcastFrames (lateViewer [1] [2])).drop
            (broadcastFrames [.broadcastReturns, .broadcastFrame [1] []]).length) := by
  obtain ⟨s, hrun⟩ := run_lateViewer [1] [2]
  exact ⟨s, hrun, viewer_stream hrun (joins_lateViewer [1] [2])⟩

end CCTVWebServer.Broadcast
