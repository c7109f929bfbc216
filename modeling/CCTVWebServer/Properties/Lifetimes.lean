import CCTVWebServer.Foundation.History
import CCTVWebServer.Lifetime

/-!
# The life of a websocket session

The hub holds the sessions that were accepted and have not failed. The strong count
of a session is the number of its owners, so no handler finds an object without
one. But the destructor asks for a pointer to the object it destroys, and so no
session can end without ending the process.
-/

namespace CCTVWebServer.Lifetime

open Foundation

variable {s t : Heap} {h : List Event} {i : Nat} {ev : Event}

/-! ## Owners -/

/-- The pointers outside of the hub. -/
def Session.holders (o : Session) : Nat := o.callers + o.accepts + o.reads + o.writes

/-- The pointers to a session. -/
def Heap.owners (s : Heap) (i : Nat) : Nat :=
  (s.session i).holders + s.sessions.count i

/-- Nobody owns the session any more when the event is over: the pointer of its handler is
the last, or the last but the hub's where the handler makes the hub give up its own. -/
def DropsLast (s : Heap) : Event → Prop
  | .upgrade => False
  | .callerReturns i => s.owners i = 1
  | .accept i ok => ok = false ∧ s.owners i = 1
  | .read i ok => ok = false ∧ (s.session i).holders = 1
  | .write i ok =>
    if ok then (s.session i).writeQueue.tail = [] ∧ s.owners i = 1
    else (s.session i).holders = 1
  | .broadcast _ => False

/-- The handshake was accepted, and neither a read nor a write has failed. -/
def Live (h : List Event) (i : Nat) : Prop :=
  .accept i true ∈ h ∧ .read i false ∉ h ∧ .write i false ∉ h

/-- Nothing has happened to the session so far but that it was made. -/
def Untouched (h : List Event) (i : Nat) : Prop :=
  .accept i true ∉ h ∧ .read i false ∉ h ∧ .write i false ∉ h

/-- The event says something about another session, or nothing about the hub. -/
def Foreign (ev : Event) (i : Nat) : Prop :=
  ev ≠ .accept i true ∧ ev ≠ .read i false ∧ ev ≠ .write i false

theorem Foreign.live (hev : Foreign ev i) : Live (ev :: h) i ↔ Live h i := by
  simp [Live, hev.1.symm, hev.2.1.symm, hev.2.2.symm]

theorem Foreign.untouched (hev : Foreign ev i) : Untouched (ev :: h) i ↔ Untouched h i := by
  simp [Untouched, hev.1.symm, hev.2.1.symm, hev.2.2.symm]

/-! ## The invariant -/

/-- What holds of one session in every reachable state. -/
structure SessionSound (h : List Event) (s : Heap) (i : Nat) : Prop where
  strong : (s.session i).strong = s.owners i
  accepting : 0 < (s.session i).accepts → (s.session i).accepts = 1 ∧ Untouched h i
  accepted : 0 < (s.session i).reads + (s.session i).writes → .accept i true ∈ h
  hub : i ∈ s.sessions ↔ Live h i

structure Sound (h : List Event) (s : Heap) : Prop where
  session : ∀ i, SessionSound h s i
  fresh : ∀ i, s.created ≤ i → s.session i = .absent ∧ Untouched h i
  nodup : s.sessions.Nodup

theorem sound_empty : Sound [] Heap.empty where
  session i := ⟨rfl, by simp [Heap.empty, Session.absent], by simp [Heap.empty, Session.absent],
    by simp [Heap.empty, Live]⟩
  fresh i _ := ⟨rfl, by simp [Untouched]⟩
  nodup := by simp [Heap.empty]

/-- An event that the hub does not hear of. -/
def Silent (ev : Event) : Prop := ∀ i, Foreign ev i

theorem Sound.silent (hs : Sound h s) (hev : Silent ev) : Sound (ev :: h) s where
  session i := {
    strong := (hs.session i).strong
    accepting := fun hpos => by
      rw [(hev i).untouched]
      exact (hs.session i).accepting hpos
    accepted := fun hpos => List.mem_cons_of_mem ev ((hs.session i).accepted hpos)
    hub := by rw [(hev i).live, (hs.session i).hub] }
  fresh i hi := by
    rw [(hev i).untouched]
    exact hs.fresh i hi
  nodup := hs.nodup

/-- A step about one session leaves the others as sound as they were. -/
theorem Sound.of_session (hs : Sound h s) (hi : i < s.created) {f : Session → Session}
    {sessions : List Nat} (hhub : ∀ j, j ≠ i → sessions.count j = s.sessions.count j)
    (hnodup : sessions.Nodup) (hev : ∀ j, j ≠ i → Foreign ev j)
    (hsound : SessionSound (ev :: h) { s.update i f with sessions := sessions } i) :
    Sound (ev :: h) { s.update i f with sessions := sessions } where
  session j := by
    by_cases hj : j = i
    · rwa [hj]
    · have hsession := s.session_update_of_ne f hj
      have hsound := hs.session j
      constructor
      · simp only [Heap.owners, hsession, hhub j hj]
        exact hsound.strong
      · simp only [hsession, (hev j hj).untouched]
        exact hsound.accepting
      · simp only [hsession]
        exact fun hpos => List.mem_cons_of_mem ev (hsound.accepted hpos)
      · rw [(hev j hj).live, ← hsound.hub]
        exact List.count_pos_iff.symm.trans (by rw [hhub j hj, List.count_pos_iff])
  fresh j hj := by
    have hne : j ≠ i := by
      rintro rfl
      exact absurd hi (Nat.not_lt.mpr hj)
    have hsession := s.session_update_of_ne f hne
    rw [(hev j hne).untouched]
    exact ⟨hsession.trans (hs.fresh j hj).1, (hs.fresh j hj).2⟩
  nodup := hnodup

/-- An update that keeps the account of owners right. -/
theorem Sound.update (hs : Sound h s) (hi : i < s.created) {f : Session → Session}
    (hstrong : (f (s.session i)).strong + (s.session i).holders =
      (s.session i).strong + (f (s.session i)).holders)
    (haccepts : (f (s.session i)).accepts = (s.session i).accepts ∨ (f (s.session i)).accepts = 0)
    (haccepted : 0 < (f (s.session i)).reads + (f (s.session i)).writes →
      .accept i true ∈ h) : Sound h (s.update i f) where
  session j := by
    have hsound := hs.session j
    by_cases hj : j = i
    · subst hj
      have howners := hsound.strong
      refine ⟨?_, fun hpos => ?_, ?_, hsound.hub⟩
      · simp only [Heap.owners, Heap.session_update, Heap.sessions_update] at howners ⊢
        omega
      · rw [Heap.session_update] at hpos ⊢
        rcases haccepts with haccepts | haccepts
        · rw [haccepts] at hpos ⊢
          exact hsound.accepting hpos
        · omega
      · rw [Heap.session_update]
        exact haccepted
    · have hsession := s.session_update_of_ne f hj
      refine ⟨?_, ?_, ?_, hsound.hub⟩
      · simp only [Heap.owners, hsession, Heap.sessions_update]
        exact hsound.strong
      · simp only [hsession]
        exact hsound.accepting
      · simp only [hsession]
        exact hsound.accepted
  fresh j hj := by
    have hne : j ≠ i := by
      rintro rfl
      exact absurd hi (Nat.not_lt.mpr hj)
    rw [s.session_update_of_ne f hne]
    exact hs.fresh j hj
  nodup := hs.nodup

/-! ## Programs -/

theorem ensures_sharedFromThis {Q : Unit → Heap → Prop} {E : Abort → Heap → Prop}
    (hpos : 0 < (s.session i).strong) :
    Ensures (sharedFromThis i) s Q E ↔ Q () (s.update i Session.share) := by
  have hne : (s.session i).strong ≠ 0 := by omega
  simp [sharedFromThis, hne]

/-- The last pointer takes the process with it. -/
theorem ensures_release {Q : Unit → Heap → Prop} {E : Abort → Heap → Prop} :
    Ensures (release i) s Q E ↔
      ((s.session i).strong ≤ 1 → E .terminated (s.update i Session.drop)) ∧
      (1 < (s.session i).strong → Q () (s.update i Session.drop)) := by
  have hzero : (s.session i).strong - 1 = 0 ↔ (s.session i).strong ≤ 1 := by omega
  simp only [release, destructor, sharedFromThis, ensures_bind, ensures_modify, ensures_get,
    ensures_ite, ensures_tryCatch, ensures_throw, ensures_pure, Heap.session_update, Session.drop,
    hzero]
  constructor
  · exact fun hrun => ⟨fun hle => (hrun.1 hle).1 hle, fun hlt => hrun.2 (by omega)⟩
  · exact fun hrun => ⟨fun hle => ⟨fun _ => hrun.1 hle, fun hgt => absurd hle hgt⟩,
      fun hgt => hrun.2 (by omega)⟩

theorem ensures_doRead {Q : Unit → Heap → Prop} {E : Abort → Heap → Prop}
    (hpos : 0 < (s.session i).strong) :
    Ensures (doRead i) s Q E ↔
      Q () (s.update i fun o => { o with strong := o.strong + 1, reads := o.reads + 1 }) := by
  rw [doRead, ensures_bind, ensures_sharedFromThis hpos, ensures_modify, Heap.update_update]
  rfl

theorem ensures_doWrite {Q : Unit → Heap → Prop} {E : Abort → Heap → Prop}
    (hpos : 0 < (s.session i).strong) :
    Ensures (doWrite i) s Q E ↔
      ((s.session i).writeQueue = [] → Q () (s.update i fun o => { o with isWriting := false })) ∧
      ((s.session i).writeQueue ≠ [] →
        Q () (s.update i fun o => { o with strong := o.strong + 1, writes := o.writes + 1 })) := by
  simp only [doWrite, ensures_bind, ensures_get, ensures_ite, ensures_modify,
    ensures_sharedFromThis hpos, Heap.update_update]
  rfl

/-- The state behind `unregisterSession`, given a pointer that was just made. -/
def Heap.unregistered (s : Heap) (i : Nat) : Heap :=
  if i ∈ s.sessions then { s.update i Session.drop with sessions := s.sessions.erase i } else s

theorem ensures_unregister {Q : Unit → Heap → Prop} {E : Abort → Heap → Prop}
    (hpos : 0 < (s.session i).strong) :
    Ensures (sharedFromThis i >>= fun _ => unregisterSession i) s Q E ↔
      Q () (s.unregistered i) := by
  have hdrop : Session.drop ∘ Session.share = id := rfl
  rw [ensures_bind, ensures_sharedFromThis hpos, unregisterSession, ensures_bind, ensures_modify,
    ensures_modify, eraseSession, Heap.unregistered]
  by_cases hmem : i ∈ s.sessions
  · have hstate : ({ (s.update i Session.share).update i Session.drop with
        sessions := s.sessions.erase i } : Heap).update i Session.drop =
        { s.update i Session.drop with sessions := s.sessions.erase i } := by
      simp [Heap.update, Session.drop, Session.share]
    rw [if_pos hmem, Heap.sessions_update, if_pos hmem, hstate]
  · rw [if_neg hmem, Heap.sessions_update, if_neg hmem, Heap.update_update, hdrop, Heap.update_id]

/-! ## One step -/

/-- The pointer of the handler and the operation it belonged to make up for each other. -/
theorem SessionSound.strong_pos (hs : SessionSound h s i) (hpos : 0 < (s.session i).holders) :
    0 < (s.session i).strong := by
  rw [hs.strong, Heap.owners]
  omega

theorem Sound.created (hs : Sound h s) (hpos : 0 < (s.session i).holders) : i < s.created := by
  by_contra hle
  rw [(hs.fresh i (by omega)).1] at hpos
  simp [Session.absent, Session.holders] at hpos

/-- What a step must show: it succeeds into a sound state unless the last pointer goes. -/
def Steps (h : List Event) (s : Heap) (ev : Event) : Prop :=
  Ensures (perform ev) s (fun _ t => ¬ DropsLast s ev ∧ Sound (ev :: h) t)
    (fun fault _ => DropsLast s ev ∧ fault = .terminated)

theorem step_callerReturns (hs : Sound h s) (hen : 0 < (s.session i).callers) :
    Steps h s (.callerReturns i) := by
  have hholders : 0 < (s.session i).holders := by
    rw [Session.holders]
    omega
  have howners := (hs.session i).strong
  have hle : 1 ≤ s.owners i := by
    rw [Heap.owners]
    omega
  simp only [Steps, perform, ensures_bind, ensures_modify, ensures_release, Heap.session_update,
    Heap.update_update, DropsLast, howners]
  refine ⟨fun hlast => ⟨by omega, trivial⟩, fun hlast => ⟨by omega, ?_⟩⟩
  refine (hs.update (hs.created hholders) ?_ (.inl rfl) ?_).silent ?_
  · simp only [Function.comp, Session.drop, Session.holders]
    omega
  · exact fun hpos => (hs.session i).accepted hpos
  · exact fun j => ⟨by simp, by simp, by simp⟩

theorem step_acceptFailed (hs : Sound h s) (hen : 0 < (s.session i).accepts) :
    Steps h s (.accept i false) := by
  have hholders : 0 < (s.session i).holders := by
    rw [Session.holders]
    omega
  have howners := (hs.session i).strong
  have hle : 1 ≤ s.owners i := by
    rw [Heap.owners]
    omega
  have hone := ((hs.session i).accepting hen).1
  simp only [Steps, perform, onAccept, ensures_bind, ensures_modify, ensures_pure, ensures_release,
    Heap.session_update, Heap.update_update, DropsLast, howners, Bool.false_eq_true, if_false,
    true_and]
  refine ⟨fun hlast => ⟨by omega, trivial⟩, fun hlast => ⟨by omega, ?_⟩⟩
  refine (hs.update (hs.created hholders) ?_ (.inr ?_) ?_).silent ?_
  · simp only [Function.comp, Session.drop, Session.holders]
    omega
  · simp only [Function.comp, Session.drop]
    omega
  · exact fun hpos => (hs.session i).accepted hpos
  · exact fun j => ⟨by simp, by simp, by simp⟩

theorem step_read (hs : Sound h s) (hen : 0 < (s.session i).reads) :
    Steps h s (.read i true) := by
  have hholders : 0 < (s.session i).holders := by
    rw [Session.holders]
    omega
  have hpos := (hs.session i).strong_pos hholders
  have haccepted := (hs.session i).accepted (by omega)
  simp only [Steps, perform, onRead, ensures_bind, ensures_modify, if_true]
  rw [ensures_doRead (by simpa using hpos), ensures_release]
  simp only [Heap.session_update, Heap.update_update, DropsLast, Function.comp]
  refine ⟨fun hle => by omega, fun _ => ⟨by simp, ?_⟩⟩
  refine (hs.update (hs.created hholders) ?_ (.inl rfl) fun _ => haccepted).silent ?_
  · simp only [Function.comp, Session.drop, Session.holders]
    omega
  · exact fun j => ⟨by simp, by simp, by simp⟩

theorem step_write (hs : Sound h s) (hen : 0 < (s.session i).writes) :
    Steps h s (.write i true) := by
  have hholders : 0 < (s.session i).holders := by
    rw [Session.holders]
    omega
  have hpos := (hs.session i).strong_pos hholders
  have howners := (hs.session i).strong
  have haccepted := (hs.session i).accepted (by omega)
  have hsilent : Silent (.write i true) := fun j => ⟨by simp, by simp, by simp⟩
  simp only [Steps, perform, onWrite, ensures_bind, ensures_modify, if_true, Heap.update_update]
  rw [ensures_doWrite (by simpa using hpos)]
  simp only [ensures_release, Heap.session_update, Heap.update_update, DropsLast, Function.comp,
    if_true]
  refine ⟨fun hempty => ⟨fun hle => ?_, fun hlt => ⟨?_, ?_⟩⟩, fun hmore => ⟨?_, fun _ => ⟨?_, ?_⟩⟩⟩
  · exact ⟨⟨hempty, by omega⟩, trivial⟩
  · omega
  · refine (hs.update (hs.created hholders) ?_ (.inl rfl) fun _ => haccepted).silent hsilent
    simp only [Function.comp, Session.drop, Session.holders]
    omega
  · omega
  · exact fun hlast => hmore hlast.1
  · refine (hs.update (hs.created hholders) ?_ (.inl rfl) fun _ => haccepted).silent hsilent
    simp only [Function.comp, Session.drop, Session.holders]
    omega

theorem step_accept (hs : Sound h s) (hen : 0 < (s.session i).accepts) :
    Steps h s (.accept i true) := by
  have hholders : 0 < (s.session i).holders := by
    rw [Session.holders]
    omega
  have hpos := (hs.session i).strong_pos hholders
  have howners := (hs.session i).strong
  obtain ⟨hone, huntouched⟩ := (hs.session i).accepting hen
  have hout : i ∉ s.sessions := fun hmem => huntouched.1 ((hs.session i).hub.mp hmem).1
  have hcount : s.sessions.count i = 0 := List.count_eq_zero.mpr hout
  simp only [Steps, perform, onAccept, ensures_bind, ensures_modify, if_true]
  rw [ensures_sharedFromThis (by simpa using hpos)]
  simp only [registerSession, ensures_bind, ensures_get, ensures_ite, ensures_modify,
    Heap.update_update, Heap.sessions_update]
  refine ⟨fun hmem => absurd hmem hout, fun _ => ?_⟩
  rw [ensures_doRead (by simp [Session.share]), ensures_release]
  simp only [Heap.update_sessions, Heap.update_update, Heap.session_update, DropsLast,
    Function.comp, Session.share]
  refine ⟨fun hle => by omega, fun _ => ⟨by simp, ?_⟩⟩
  refine hs.of_session (hs.created hholders) (fun j hj => List.count_cons_of_ne hj.symm) ?_ ?_ ?_
  · exact List.nodup_cons.mpr ⟨hout, hs.nodup⟩
  · exact fun j hj => ⟨by simpa using hj.symm, by simp, by simp⟩
  · refine ⟨?_, ?_, ?_, ?_⟩
    · simp only [Heap.owners, Heap.session_update, Function.comp, Session.drop, Session.share,
        Session.holders, List.count_cons_self] at howners ⊢
      omega
    · simp only [Heap.session_update, Function.comp, Session.drop, Session.share]
      omega
    · simp
    · simp [Live, huntouched.2.1, huntouched.2.2]

/-- A failed read or write: `f` takes its operation off the account. -/
theorem step_failed (hs : Sound h s) {f : Session → Session}
    (hev : ev = .read i false ∨ ev = .write i false)
    (hholders : (f (s.session i)).holders + 1 = (s.session i).holders)
    (hstrong : (f (s.session i)).strong = (s.session i).strong)
    (haccepts : (f (s.session i)).accepts = (s.session i).accepts)
    (haccepted : .accept i true ∈ h) :
    Ensures (do sharedFromThis i; unregisterSession i; release i) (s.update i f)
      (fun _ t => (s.session i).holders ≠ 1 ∧ Sound (ev :: h) t)
      (fun fault _ => (s.session i).holders = 1 ∧ fault = .terminated) := by
  have hpos := (hs.session i).strong_pos (by omega)
  have howners := (hs.session i).strong
  have hother : ∀ j, j ≠ i → Foreign ev j := by
    rintro j hj
    rcases hev with rfl | rfl <;> exact ⟨by simp, by simp [hj.symm], by simp [hj.symm]⟩
  have hsound {g : Session → Session} {sessions : List Nat}
      (hg : (g (s.session i)).strong = (g (s.session i)).holders)
      (hkept : (g (s.session i)).accepts = (s.session i).accepts) (hout : sessions.count i = 0) :
      SessionSound (ev :: h) { s.update i g with sessions := sessions } i := by
    refine ⟨?_, fun hpos => ?_, fun _ => List.mem_cons_of_mem ev haccepted, ?_⟩
    · simp only [Heap.owners, Heap.session_update, hout, hg, Nat.add_zero]
    · simp only [Heap.session_update, hkept] at hpos
      exact absurd haccepted ((hs.session i).accepting hpos).2.1
    · have hdead : ¬ Live (ev :: h) i := by
        rintro ⟨-, hread, hwrite⟩
        rcases hev with rfl | rfl
        · exact hread (by simp)
        · exact hwrite (by simp)
      exact iff_of_false (List.count_eq_zero.mp hout) hdead
  rw [← bind_assoc, ensures_bind, ensures_unregister (by simpa [hstrong] using hpos),
    ensures_release, Heap.unregistered]
  have hcreated := hs.created (i := i) (by omega)
  by_cases hmem : i ∈ s.sessions
  · have hcount := List.count_eq_one_of_mem hs.nodup hmem
    rw [Heap.sessions_update, if_pos hmem]
    simp only [Heap.owners, hcount] at howners
    simp only [Heap.update_sessions, Heap.update_update, Heap.session_update, Function.comp,
      Session.drop, hstrong, howners]
    refine ⟨fun hle => ⟨by omega, trivial⟩, fun hlt => ⟨by omega, ?_⟩⟩
    refine hs.of_session hcreated (fun j hj => List.count_erase_of_ne hj) (hs.nodup.erase i) hother
      (hsound ?_ haccepts ?_)
    · simp only [Session.holders, Function.comp, Session.drop, hstrong] at hholders howners ⊢
      omega
    · rw [List.count_erase_self, hcount]
  · have hcount := List.count_eq_zero.mpr hmem
    rw [Heap.sessions_update, if_neg hmem]
    simp only [Heap.owners, hcount] at howners
    simp only [Heap.update_update, Heap.session_update, hstrong, howners]
    refine ⟨fun hle => ⟨by omega, trivial⟩, fun hlt => ⟨by omega, ?_⟩⟩
    refine hs.of_session hcreated (fun j _ => rfl) hs.nodup hother (hsound ?_ haccepts hcount)
    simp only [Session.holders, Function.comp, Session.drop, hstrong] at hholders howners ⊢
    omega

/-- A new session has two owners, `HttpSession::onRead` and the handler of the handshake. -/
theorem step_upgrade (hs : Sound h s) : Steps h s .upgrade := by
  obtain ⟨-, huntouched⟩ := hs.fresh s.created (Nat.le_refl _)
  have hout : s.created ∉ s.sessions := fun hmem =>
    huntouched.1 ((hs.session s.created).hub.mp hmem).1
  have hcount := List.count_eq_zero.mpr hout
  simp only [Steps, perform, onUpgrade, start, ensures_bind, ensures_get, ensures_modify]
  rw [ensures_sharedFromThis (by simp [Heap.update, Session.made])]
  refine ⟨id, Sound.silent ⟨fun j => ?_, fun j hj => ?_, hs.nodup⟩
    fun j => ⟨by simp, by simp, by simp⟩⟩
  · have hsound := hs.session j
    by_cases hj : j = s.created
    · subst hj
      refine ⟨?_, fun _ => ⟨by simp [Heap.update, Session.made, Session.absent, Session.share],
        huntouched⟩, ?_, hsound.hub⟩
      · simp [Heap.owners, Heap.update, hcount, Session.made, Session.absent, Session.share,
          Session.holders]
      · simp [Heap.update, Session.made, Session.absent, Session.share]
    · refine ⟨?_, ?_, ?_, hsound.hub⟩ <;> simp only [Heap.owners, Heap.update, ne_eq, hj,
        not_false_eq_true, Function.update_of_ne]
      · exact hsound.strong
      · exact hsound.accepting
      · exact hsound.accepted
  · have hlt : s.created + 1 ≤ j := hj
    have hne : j ≠ s.created := by omega
    simp only [Heap.update, ne_eq, hne, not_false_eq_true, Function.update_of_ne]
    exact hs.fresh j (by omega)

theorem sendFrame_sound (hs : Sound h s) (hmem : i ∈ s.sessions) (data : Frame) :
    Ensures (sendFrame data i) s (fun _ t => Sound h t ∧ t.sessions = s.sessions)
      (fun _ _ => False) := by
  have hlive := (hs.session i).hub.mp hmem
  have hcreated : i < s.created := by
    by_contra hle
    exact (hs.fresh i (by omega)).2.1 hlive.1
  have hpos : 0 < (s.session i).strong := by
    have hcount := List.count_pos_iff.mpr hmem
    rw [(hs.session i).strong, Heap.owners]
    omega
  simp only [sendFrame, ensures_bind, ensures_modify, ensures_get, ensures_ite, ensures_pure,
    Heap.session_update, Heap.update_update]
  refine ⟨fun _ => ?_, fun _ => ⟨hs.update hcreated rfl (.inl rfl) fun _ => hlive.1, rfl⟩⟩
  rw [ensures_doWrite (by simpa using hpos)]
  simp only [Heap.update_update]
  refine ⟨fun _ => ⟨hs.update hcreated rfl (.inl rfl) fun _ => hlive.1, rfl⟩,
    fun _ => ⟨hs.update hcreated ?_ (.inl rfl) fun _ => hlive.1, rfl⟩⟩
  simp only [Session.holders, Function.comp]
  omega

theorem sendFrames_sound (data : Frame) {sessions : List Nat} (hs : Sound h s)
    (hsub : ∀ i ∈ sessions, i ∈ s.sessions) :
    Ensures (sendFrames data sessions) s (fun _ t => Sound h t) (fun _ _ => False) := by
  induction sessions generalizing s with
  | nil => exact hs
  | cons i sessions ih =>
    refine (sendFrame_sound hs (hsub i (by simp)) data).bind ?_ fun _ _ => id
    rintro _ t ⟨ht, hsame⟩
    refine ih ht fun j hj => ?_
    rw [hsame]
    exact hsub j (List.mem_cons_of_mem i hj)

theorem step_broadcast (hs : Sound h s) (data : Frame) : Steps h s (.broadcast data) := by
  simp only [Steps, perform, broadcastFrame, ensures_bind, ensures_get]
  refine (sendFrames_sound data hs fun _ => id).mono ?_ fun _ _ => False.elim
  exact fun _ t ht => ⟨id, ht.silent fun j => ⟨by simp, by simp, by simp⟩⟩

theorem step_readFailed (hs : Sound h s) (hen : 0 < (s.session i).reads) :
    Steps h s (.read i false) := by
  have hstep := step_failed (f := fun o => { o with reads := o.reads - 1 }) hs (.inl rfl)
    (by simp only [Session.holders]; omega) rfl rfl ((hs.session i).accepted (by omega))
  simp only [Steps, perform, onRead, ensures_bind, ensures_modify, Bool.false_eq_true, if_false,
    DropsLast, true_and] at hstep ⊢
  exact hstep

theorem step_writeFailed (hs : Sound h s) (hen : 0 < (s.session i).writes) :
    Steps h s (.write i false) := by
  have hstep := step_failed (f := fun o => { o with writes := o.writes - 1 }) hs (.inr rfl)
    (by simp only [Session.holders]; omega) rfl rfl ((hs.session i).accepted (by omega))
  simp only [Steps, perform, onWrite, ensures_bind, ensures_modify, Bool.false_eq_true, if_false,
    DropsLast] at hstep ⊢
  exact hstep

/-- Where it can happen, an event succeeds unless it drops the last pointer to a session. -/
theorem step_spec (hs : Sound h s) (hen : Enabled s ev) : Steps h s ev := by
  cases ev with
  | upgrade => exact step_upgrade hs
  | callerReturns i => exact step_callerReturns hs hen
  | accept i ok =>
    cases ok with
    | true => exact step_accept hs hen
    | false => exact step_acceptFailed hs hen
  | read i ok =>
    cases ok with
    | true => exact step_read hs hen
    | false => exact step_readFailed hs hen
  | write i ok =>
    cases ok with
    | true => exact step_write hs hen
    | false => exact step_writeFailed hs hen
  | broadcast data => exact step_broadcast hs data

/-! ## Runs -/

theorem sound_of_run (hrun : Trace Step Heap.empty h t) : Sound h t := by
  induction hrun with
  | refl => exact sound_empty
  | step _ hl ih => exact ((step_spec ih hl.1).of_ok hl.2).2

/-- As long as no step drops the last pointer to a session, the hub holds exactly the sessions
that were accepted and have not failed. A step that drops one ends the process, and no other
step raises. -/
theorem hub_exact (hrun : Trace Step Heap.empty h t) :
    (∀ i, i ∈ t.sessions ↔ Live h i) ∧
    ∀ ev, Enabled t ev → ((∃ u, (perform ev).run t = .ok () u) ↔ ¬ DropsLast t ev) := by
  have hs := sound_of_run hrun
  refine ⟨fun i => (hs.session i).hub, fun ev hen => ?_⟩
  have hstep := step_spec hs hen
  unfold Steps at hstep
  cases hresult : (perform ev).run t with
  | ok result u =>
    have hkept := (hstep.of_ok hresult).1
    exact iff_of_true ⟨u, rfl⟩ hkept
  | error fault u =>
    have hdropped := (hstep.of_error hresult).1
    exact iff_of_false (by simp) (not_not.mpr hdropped)

/-- The heap after some events, newest first. -/
def heapAfter : List Event → Heap
  | [] => Heap.empty
  | ev :: h => finalState (perform ev) (heapAfter h)

/-- A viewer has been let in. -/
def viewing : List Event := [.accept 0 true, .callerReturns 0, .upgrade]

theorem run_viewing : Trace Step Heap.empty viewing (heapAfter viewing) :=
  .step (.step (.step .refl ⟨trivial, rfl⟩) ⟨by unfold Enabled; decide, rfl⟩)
    ⟨by unfold Enabled; decide, rfl⟩

/-- While the page is open nothing ends the process. -/
theorem hub_exact_viewing :
    (0 ∈ (heapAfter viewing).sessions ↔ Live viewing 0) ∧
    ((∃ u, (perform (.read 0 true)).run (heapAfter viewing) = .ok () u) ↔
      ¬ DropsLast (heapAfter viewing) (.read 0 true)) := by
  obtain ⟨hhub, hstep⟩ := hub_exact run_viewing
  exact ⟨hhub 0, hstep _ (by unfold Enabled; decide)⟩

/-- The viewer closes the page. The hub gives up its pointer, the handler its own, and the
destructor of the session ends the process. -/
theorem close_terminates :
    Trace Step Heap.empty viewing (heapAfter viewing) ∧
      Enabled (heapAfter viewing) (.read 0 false) ∧
      ∃ u, (perform (.read 0 false)).run (heapAfter viewing) = .error .terminated u :=
  ⟨run_viewing, by unfold Enabled; decide, _, rfl⟩

end CCTVWebServer.Lifetime
