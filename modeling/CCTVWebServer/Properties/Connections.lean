import CCTVWebServer.Foundation.History
import CCTVWebServer.HttpServer
import Mathlib.Algebra.Order.BigOperators.Group.Finset

/-!
# The life of a descriptor

A request that is published when a `ReplyServer` has subscribed, and whose connection
got an entry of its own, has its response written to its own descriptor and this
closed, once each. A request that comes earlier is lost, and its descriptor stays in
the table.
-/

namespace CCTVWebServer.HttpServer

open Foundation

variable {s t : System} {h : List Event} {ev : Event} {i : Nat}

/-! ## What is to hold -/

namespace Phase

/-- The socket or the table still has the descriptor, or `writeResponse` does. -/
def isOpen : Phase → Bool
  | .reading | .upgraded | .stored | .dispatching | .writing _ _ | .closing _ _ => true
  | .gone | .answered _ | .unanswered => false

/-- The table has the descriptor. -/
def isWaiting : Phase → Bool
  | .stored | .dispatching => true
  | _ => false

/-- The thread holds the mutex of the bus. -/
def isPublishing : Phase → Bool
  | .dispatching | .writing _ _ | .closing _ _ => true
  | _ => false

/-- The descriptor that `writeResponse` works on. -/
def target : Phase → Option Nat
  | .writing fd _ | .closing fd _ => some fd
  | _ => none

/-- What has been done to the descriptor. -/
def uses : Phase → List Use
  | .closing _ e => [.write (responseText e)]
  | .answered e => [.close, .write (responseText e)]
  | _ => []

end Phase

/-- What holds of one connection. -/
structure SessionServed (s : System) (i : Nat) : Prop where
  answered : (s.session i).phase ≠ .unanswered
  /-- Its response is written and its descriptor closed, and nothing else. -/
  uses : (s.session i).uses = (s.session i).phase.uses
  target : ∀ fd, (s.session i).phase.target = some fd → fd = (s.session i).fd
  own : (s.session i).phase.isOpen → s.descriptor (s.session i).fd = some i
  entry : (s.session i).phase.isWaiting →
    s.connections (s.session i).connId = some (s.session i).fd

/-- Every connection is served, and the table keeps nothing behind. -/
structure Served (s : System) : Prop where
  session : ∀ i, SessionServed s i
  entries : ∀ connId fd, s.connections connId = some fd →
    ∃ i, (s.session i).phase.isWaiting ∧ (s.session i).connId = connId ∧ (s.session i).fd = fd
  astray : s.astray = 0

/-- There is a subscriber to every request, and no old entry in the way of a new one. -/
def Prompt (s : System) : Event → Prop
  | .publish _ => s.subscribed = true
  | .store i => s.connections (s.session i).connId = none
  | _ => True

/-! ## The bus -/

/-- What holds in every reachable state. -/
structure Sound (s : System) : Prop where
  fresh : ∀ i, s.accepted ≤ i → (s.session i).phase = .gone
  bus : ∀ i, s.busOwner = some i ↔ (s.session i).phase.isPublishing

theorem sound_posted : Sound .posted where
  fresh i _ := rfl
  bus i := by simp [System.posted, Phase.isPublishing]

theorem Sound.lt_accepted (hs : Sound s) (hi : (s.session i).phase ≠ .gone) : i < s.accepted := by
  by_contra hle
  exact hi (hs.fresh i (Nat.le_of_not_lt hle))

/-- One connection moves on. -/
theorem Sound.of_phase (hs : Sound s) (i : Nat) (hi : i < t.accepted)
    (haccepted : s.accepted ≤ t.accepted)
    (hother : ∀ j, j ≠ i → (t.session j).phase = (s.session j).phase)
    (hbus : ∀ j, j ≠ i → (t.busOwner = some j ↔ s.busOwner = some j))
    (hself : t.busOwner = some i ↔ (t.session i).phase.isPublishing) : Sound t where
  fresh j hj := by
    have hne : j ≠ i := by omega
    rw [hother j hne, hs.fresh j (haccepted.trans hj)]
  bus j := by
    by_cases hj : j = i
    · rwa [hj]
    · rw [hbus j hj, hs.bus j, hother j hj]

section update

variable (s : System) (i j fd : Nat) (f : Session → Session) (phase : Phase) (use : Use)

@[simp] theorem session_update : (s.update i f).session i = f (s.session i) := by
  simp [System.update]

theorem session_update_of_ne {i j : Nat} (h : j ≠ i) : (s.update i f).session j = s.session j := by
  simp [System.update, h]

@[simp] theorem phase_setPhase : ((s.setPhase i phase).session i).phase = phase := by
  simp [System.setPhase]

theorem session_setPhase_of_ne {i j : Nat} (h : j ≠ i) :
    (s.setPhase i phase).session j = s.session j := session_update_of_ne s _ h

@[simp] theorem phase_useDescriptor :
    ((s.useDescriptor fd use).session j).phase = (s.session j).phase := by
  unfold System.useDescriptor
  split
  · rename_i k _
    by_cases hj : j = k
    · simp [hj]
    · rw [session_update_of_ne s _ hj]
  · rfl

@[simp] theorem accepted_useDescriptor : (s.useDescriptor fd use).accepted = s.accepted := by
  unfold System.useDescriptor
  split <;> rfl

@[simp] theorem busOwner_useDescriptor : (s.useDescriptor fd use).busOwner = s.busOwner := by
  unfold System.useDescriptor
  split <;> rfl

end update

/-- A connection that neither takes nor gives up the bus. -/
theorem Sound.setPhase (hs : Sound s) {phase : Phase} (hi : (s.session i).phase ≠ .gone)
    (hbus : phase.isPublishing = (s.session i).phase.isPublishing) :
    Sound (s.setPhase i phase) := by
  refine hs.of_phase i (hs.lt_accepted hi) le_rfl (fun j hj => ?_) (fun j _ => Iff.rfl) ?_
  · rw [session_setPhase_of_ne s phase hj]
  · rw [phase_setPhase, hbus]
    exact hs.bus i

/-- A connection that leaves the bus to the others. -/
theorem Sound.leaveBus (hs : Sound s) {phase : Phase} (hi : s.busOwner = some i)
    (hphase : phase.isPublishing = false) :
    Sound { s.setPhase i phase with busOwner := none } := by
  have hpublishing := (hs.bus i).mp hi
  have hgone : (s.session i).phase ≠ .gone := by
    intro hgone
    simp [hgone, Phase.isPublishing] at hpublishing
  refine hs.of_phase i (hs.lt_accepted hgone) le_rfl (fun j hj => ?_) (fun j hj => ?_) ?_
  · exact congrArg Session.phase (session_setPhase_of_ne s phase hj)
  · simp [hi, Ne.symm hj]
  · change none = some i ↔ ((s.setPhase i phase).session i).phase.isPublishing
    simp [hphase]

theorem Sound.useDescriptor (hs : Sound s) (fd : Nat) (use : Use) :
    Sound (s.useDescriptor fd use) where
  fresh i hi := by
    rw [phase_useDescriptor]
    exact hs.fresh i (by simpa using hi)
  bus i := by
    rw [phase_useDescriptor, busOwner_useDescriptor]
    exact hs.bus i

theorem Sound.free (hs : Sound s) (fd : Nat) : Sound (s.free fd) := ⟨hs.fresh, hs.bus⟩

theorem Sound.accept (hs : Sound s) (fd : Nat) : Sound (accept fd s) := by
  have hfresh := hs.fresh s.accepted le_rfl
  refine hs.of_phase s.accepted (Nat.lt_succ_self _) (Nat.le_succ _) (fun j hj => ?_)
    (fun j _ => Iff.rfl) ?_
  · simp [HttpServer.accept, hj]
  · simpa [HttpServer.accept, Phase.isPublishing, hfresh] using hs.bus s.accepted

theorem Sound.drop (hs : Sound s)
    (hphase : (s.session i).phase = .reading ∨ (s.session i).phase = .upgraded) :
    Sound (drop i s) := by
  have hgone : Sound (s.setPhase i .gone) := by
    rcases hphase with hphase | hphase <;>
      exact hs.setPhase (by simp [hphase]) (by rw [hphase]; rfl)
  exact hgone.free _

theorem Sound.store (hs : Sound s) (hphase : (s.session i).phase = .reading) :
    Sound (store i s) := by
  have hstored : Sound (s.setPhase i .stored) :=
    hs.setPhase (by simp [hphase]) (by rw [hphase]; rfl)
  exact ⟨hstored.fresh, hstored.bus⟩

theorem Sound.publish (hs : Sound s) (hfree : s.busOwner = none)
    (hphase : (s.session i).phase = .stored) : Sound (publish i s) := by
  have hgone : (s.session i).phase ≠ .gone := by simp [hphase]
  unfold HttpServer.publish
  split
  · refine hs.of_phase i (hs.lt_accepted hgone) le_rfl (fun j hj => ?_) (fun j hj => ?_) ?_
    · exact congrArg Session.phase (session_setPhase_of_ne s _ hj)
    · simp [hfree, Ne.symm hj]
    · change some i = some i ↔ ((s.setPhase i .dispatching).session i).phase.isPublishing
      simp [Phase.isPublishing]
  · exact hs.setPhase hgone (by rw [hphase]; rfl)

theorem Sound.respond (hs : Sound s) (hphase : (s.session i).phase = .dispatching)
    (e : HttpResponseEvent) : Sound (respond i e s) := by
  have howner : s.busOwner = some i := (hs.bus i).mpr (by rw [hphase]; rfl)
  unfold HttpServer.respond
  split
  · exact hs.leaveBus howner rfl
  · rename_i fd _
    have hwriting : Sound (s.setPhase i (.writing fd e)) :=
      hs.setPhase (by simp [hphase]) (by rw [hphase]; rfl)
    exact ⟨hwriting.fresh, hwriting.bus⟩

theorem sound_step (hs : Sound s) (hen : Enabled s ev) : Sound (perform ev s) := by
  cases ev with
  | accept fd => exact hs.accept fd
  | drop i => exact hs.drop hen
  | upgrade i =>
    have hphase : (s.session i).phase = .reading := hen
    exact hs.setPhase (by simp [hphase]) (by rw [hphase]; rfl)
  | store i => exact hs.store hen
  | subscribe => exact ⟨hs.fresh, hs.bus⟩
  | publish i => exact hs.publish hen.1 hen.2
  | respond i e => exact hs.respond hen.1 e
  | write i fd e =>
    have hphase : (s.session i).phase = .writing fd e := hen
    exact (hs.useDescriptor fd _).setPhase (by simp [hphase])
      (by rw [phase_useDescriptor, hphase]; rfl)
  | close i fd e =>
    have hphase : (s.session i).phase = .closing fd e := hen
    have howner : s.busOwner = some i := (hs.bus i).mpr (by rw [hphase]; rfl)
    have hfree := (hs.useDescriptor fd .close).free fd
    exact hfree.leaveBus (by simpa [System.free] using howner) rfl

/-! ## One step of a connection -/

theorem served_posted : Served .posted where
  session i := ⟨by simp [System.posted], rfl, by simp [System.posted, Phase.target],
    by simp [System.posted, Phase.isOpen], by simp [System.posted, Phase.isWaiting]⟩
  entries connId fd h := nomatch h
  astray := rfl

theorem SessionServed.frame (hs : SessionServed s i) (hsession : t.session i = s.session i)
    (hdescriptor : ∀ fd, s.descriptor fd = some i → t.descriptor fd = some i)
    (hconnections : (s.session i).phase.isWaiting →
      t.connections (s.session i).connId = s.connections (s.session i).connId) :
    SessionServed t i where
  answered := by
    rw [hsession]
    exact hs.answered
  uses := by
    rw [hsession]
    exact hs.uses
  target := by
    rw [hsession]
    exact hs.target
  own := by
    rw [hsession]
    exact fun hopen => hdescriptor _ (hs.own hopen)
  entry := by
    rw [hsession]
    exact fun hwaiting => (hconnections hwaiting).trans (hs.entry hwaiting)

/-- A step of one connection leaves the others as they are. -/
theorem Served.of_session (hs : Served s) (i : Nat)
    (hother : ∀ j, j ≠ i → t.session j = s.session j)
    (hdescriptor : ∀ j, j ≠ i → ∀ fd, s.descriptor fd = some j → t.descriptor fd = some j)
    (hconnections : ∀ j, j ≠ i → (s.session j).phase.isWaiting →
      t.connections (s.session j).connId = s.connections (s.session j).connId)
    (hsession : SessionServed t i)
    (hentries : ∀ connId fd, t.connections connId = some fd →
      (∃ j, j ≠ i ∧ (s.session j).phase.isWaiting ∧ (s.session j).connId = connId ∧
        (s.session j).fd = fd) ∨
      ((t.session i).phase.isWaiting ∧ (t.session i).connId = connId ∧ (t.session i).fd = fd))
    (hastray : t.astray = 0) : Served t where
  session j := by
    by_cases hj : j = i
    · rwa [hj]
    · exact (hs.session j).frame (hother j hj) (hdescriptor j hj) (hconnections j hj)
  entries connId fd hentry := by
    rcases hentries connId fd hentry with ⟨j, hj, howner⟩ | howner
    · exact ⟨j, by rwa [hother j hj]⟩
    · exact ⟨i, howner⟩
  astray := hastray

/-- The entries belong to others. -/
theorem Served.entries_ne (hs : Served s) (hi : (s.session i).phase.isWaiting = false)
    {connId : Int} {fd : Nat} (hentry : s.connections connId = some fd) :
    ∃ j, j ≠ i ∧ (s.session j).phase.isWaiting ∧ (s.session j).connId = connId ∧
      (s.session j).fd = fd := by
  obtain ⟨j, hwaiting, howner⟩ := hs.entries connId fd hentry
  refine ⟨j, ?_, hwaiting, howner⟩
  rintro rfl
  simp [hi] at hwaiting

theorem isOpen_of_isWaiting {phase : Phase} (h : phase.isWaiting) : phase.isOpen := by
  cases phase <;> simp_all [Phase.isWaiting, Phase.isOpen]

/-- No two connections wait under one number. -/
theorem Served.connId_ne (hs : Served s) {j : Nat} (hj : j ≠ i)
    (hwaiting : (s.session i).phase.isWaiting) (hwaiting' : (s.session j).phase.isWaiting) :
    (s.session j).connId ≠ (s.session i).connId := by
  intro hconnId
  have hentry := (hs.session i).entry hwaiting
  rw [← hconnId, (hs.session j).entry hwaiting', Option.some.injEq] at hentry
  have hown := (hs.session i).own (isOpen_of_isWaiting hwaiting)
  rw [← hentry, (hs.session j).own (isOpen_of_isWaiting hwaiting'), Option.some.injEq] at hown
  exact hj hown

theorem Served.accept (hs : Served s) (hsound : Sound s) {fd : Nat} (hfd : s.descriptor fd = none) :
    Served (accept fd s) := by
  have hfresh := hsound.fresh s.accepted le_rfl
  refine hs.of_session s.accepted (fun j hj => by simp [HttpServer.accept, hj])
    (fun j hj fd' hfd' => ?_) (fun _ _ _ => rfl) ?_ (fun connId fd' hentry => .inl ?_) hs.astray
  · have hne : fd' ≠ fd := by
      rintro rfl
      simp [hfd] at hfd'
    simpa [HttpServer.accept, hne] using hfd'
  · constructor <;>
      simp [HttpServer.accept, Phase.uses, Phase.target, Phase.isOpen, Phase.isWaiting]
  · exact hs.entries_ne (by simp [hfresh, Phase.isWaiting]) hentry

theorem Served.drop (hs : Served s)
    (hphase : (s.session i).phase = .reading ∨ (s.session i).phase = .upgraded) :
    Served (drop i s) := by
  have hown : s.descriptor (s.session i).fd = some i := by
    rcases hphase with hphase | hphase <;>
      exact (hs.session i).own (by rw [hphase]; rfl)
  have huses : (s.session i).uses = [] := by
    rcases hphase with hphase | hphase <;> simpa [hphase, Phase.uses] using (hs.session i).uses
  have hwaiting : (s.session i).phase.isWaiting = false := by
    rcases hphase with hphase | hphase <;> rw [hphase] <;> rfl
  have hsession : (HttpServer.drop i s).session i = { s.session i with phase := .gone } := by
    simp [HttpServer.drop, System.free, System.setPhase]
  refine hs.of_session i (fun j hj => session_setPhase_of_ne s _ hj) (fun j hj fd hfd => ?_)
    (fun _ _ _ => rfl) ?_ (fun connId fd hentry => .inl (hs.entries_ne hwaiting hentry)) hs.astray
  · have hne : fd ≠ (s.session i).fd := by
      rintro rfl
      rw [hown, Option.some.injEq] at hfd
      exact hj hfd.symm
    simpa [HttpServer.drop, System.free, System.setPhase, System.update, hne] using hfd
  · constructor <;> simp [hsession, huses, Phase.uses, Phase.target, Phase.isOpen, Phase.isWaiting]

/-- Who holds the bus, and whether somebody subscribed, is of no concern here. -/
theorem Served.of_bus (hs : Served s) (hsession : t.session = s.session)
    (hdescriptor : t.descriptor = s.descriptor) (hconnections : t.connections = s.connections)
    (hastray : t.astray = s.astray) : Served t where
  session i := (hs.session i).frame (by rw [hsession]) (by simp [hdescriptor])
    (by simp [hconnections])
  entries := by simpa [hsession, hconnections] using hs.entries
  astray := hastray.trans hs.astray

/-- A new phase that asks the same of the kernel and of the table. -/
theorem Served.setPhase (hs : Served s) {phase : Phase}
    (hsession : SessionServed (s.setPhase i phase) i)
    (hwaiting : phase.isWaiting = (s.session i).phase.isWaiting) : Served (s.setPhase i phase) := by
  refine hs.of_session i (fun j hj => session_setPhase_of_ne s phase hj) (fun _ _ _ hfd => hfd)
    (fun _ _ _ => rfl) hsession (fun connId fd hentry => ?_) hs.astray
  obtain ⟨j, howner⟩ := hs.entries connId fd hentry
  by_cases hj : j = i
  · subst hj
    refine .inr ?_
    simpa [System.setPhase, hwaiting] using howner
  · exact .inl ⟨j, hj, howner⟩

theorem Served.upgrade (hs : Served s) (hphase : (s.session i).phase = .reading) :
    Served (s.setPhase i .upgraded) := by
  have hi := hs.session i
  refine hs.setPhase ?_ (by rw [hphase]; rfl)
  have huses := hi.uses
  have hown := hi.own (by rw [hphase]; rfl)
  constructor <;>
    simp_all [System.setPhase, System.update, Phase.uses, Phase.target, Phase.isOpen,
      Phase.isWaiting]

/-- A request waits for its response exactly when no other waits under its number. -/
theorem Served.store_iff (hs : Served s) (hphase : (s.session i).phase = .reading) :
    Served (store i s) ↔ s.connections (s.session i).connId = none := by
  have hi := hs.session i
  have hown := hi.own (by rw [hphase]; rfl)
  have hsession : (store i s).session i = { s.session i with phase := .stored } := by
    simp [store, System.setPhase]
  constructor
  · intro hafter
    have hentry := (hafter.session i).entry (by rw [hsession]; rfl)
    by_contra hsome
    obtain ⟨fd, hfd⟩ := Option.ne_none_iff_exists'.mp hsome
    obtain ⟨j, hwaiting, -, hj⟩ := hs.entries _ fd hfd
    rw [hsession] at hentry
    have hsame : fd = (s.session i).fd := by simpa [store, emplace, hfd] using hentry
    have howner := (hs.session j).own (isOpen_of_isWaiting hwaiting)
    rw [hj, hsame, hown, Option.some.injEq] at howner
    subst howner
    simp [hphase, Phase.isWaiting] at hwaiting
  · intro hnone
    refine hs.of_session i (fun j hj => session_setPhase_of_ne s _ hj) (fun _ _ _ hfd => hfd)
      (fun j hj hwaiting => ?_) ?_ (fun connId fd hentry => ?_) hs.astray
    · have hentry := (hs.session j).entry hwaiting
      have hne : (s.session j).connId ≠ (s.session i).connId := by
        intro hconnId
        simp [hconnId, hnone] at hentry
      simp [store, emplace, hne]
    · have huses := hi.uses
      constructor <;> simp_all [store, emplace, System.setPhase, System.update, Phase.uses,
        Phase.target, Phase.isOpen, Phase.isWaiting]
    · by_cases hconnId : connId = (s.session i).connId
      · subst hconnId
        refine .inr ?_
        rw [hsession]
        simpa [Phase.isWaiting, store, emplace, hnone] using hentry
      · refine .inl (hs.entries_ne (by rw [hphase]; rfl) ?_)
        simpa [store, emplace, hconnId] using hentry

/-- A request is dispatched exactly when there is a subscriber. -/
theorem Served.publish_iff (hs : Served s) (hphase : (s.session i).phase = .stored) :
    Served (publish i s) ↔ s.subscribed = true := by
  have hi := hs.session i
  cases hsubscribed : s.subscribed with
  | false =>
    refine iff_of_false (fun hafter => (hafter.session i).answered ?_) (by simp)
    simp [publish, hsubscribed]
  | true =>
    refine iff_of_true ?_ rfl
    have hdispatching : Served (s.setPhase i .dispatching) := by
      refine hs.setPhase ?_ (by rw [hphase]; rfl)
      have huses := hi.uses
      have hown := hi.own (by rw [hphase]; rfl)
      have hentry := hi.entry (by rw [hphase]; rfl)
      constructor <;>
        simp_all [System.setPhase, System.update, Phase.uses, Phase.target, Phase.isOpen,
          Phase.isWaiting]
    rw [publish, if_pos hsubscribed]
    exact hdispatching.of_bus rfl rfl rfl rfl

/-- The response finds the descriptor of its own connection. -/
theorem Served.respond (hs : Served s) (hphase : (s.session i).phase = .dispatching)
    {e : HttpResponseEvent} (hconnId : e.connId = (s.session i).connId) :
    Served (respond i e s) := by
  have hi := hs.session i
  have hwaiting : (s.session i).phase.isWaiting := by rw [hphase]; rfl
  have hentry := hi.entry hwaiting
  have hown := hi.own (isOpen_of_isWaiting hwaiting)
  have huses := hi.uses
  simp only [HttpServer.respond, hconnId, hentry]
  refine hs.of_session i (fun j hj => session_setPhase_of_ne s _ hj) (fun _ _ _ hfd => hfd)
    (fun j hj hwaiting' => ?_) ?_ (fun connId fd hentry' => ?_) hs.astray
  · simp [hs.connId_ne hj hwaiting hwaiting']
  · constructor <;> simp_all [System.setPhase, System.update, Phase.uses, Phase.target,
      Phase.isOpen, Phase.isWaiting]
  · have hne : connId ≠ (s.session i).connId := by
      rintro rfl
      simp at hentry'
    have hold : s.connections connId = some fd := by simpa [hne] using hentry'
    obtain ⟨j, hwaiting', hj, hfd⟩ := hs.entries connId fd hold
    refine .inl ⟨j, ?_, hwaiting', hj, hfd⟩
    rintro rfl
    exact hne hj.symm

/-- In `writeResponse` the descriptor is the connection's own. -/
theorem SessionServed.useDescriptor (hi : SessionServed s i) {fd : Nat}
    (hopen : (s.session i).phase.isOpen) (htarget : (s.session i).phase.target = some fd)
    (use : Use) :
    s.descriptor fd = some i ∧
      s.useDescriptor fd use = s.update i fun o => { o with uses := use :: o.uses } := by
  have hown := hi.own hopen
  rw [← hi.target fd htarget] at hown
  exact ⟨hown, by simp [System.useDescriptor, hown]⟩

theorem Served.write (hs : Served s) {fd : Nat} {e : HttpResponseEvent}
    (hphase : (s.session i).phase = .writing fd e) : Served (write i fd e s) := by
  have hi := hs.session i
  have hwaiting : (s.session i).phase.isWaiting = false := by rw [hphase]; rfl
  obtain ⟨hown, huse⟩ := hi.useDescriptor (by rw [hphase]; rfl) (by rw [hphase]; rfl)
    (.write (responseText e))
  have huses := hi.uses
  have htarget := hi.target fd (by rw [hphase]; rfl)
  simp only [HttpServer.write, huse]
  refine hs.of_session i (fun j hj => ?_) (fun _ _ _ hfd => hfd) (fun _ _ _ => rfl) ?_
    (fun connId fd' hentry => .inl (hs.entries_ne hwaiting hentry)) hs.astray
  · rw [session_setPhase_of_ne _ _ hj, session_update_of_ne s _ hj]
  · constructor <;> simp_all [System.setPhase, System.update, Phase.uses, Phase.target,
      Phase.isOpen, Phase.isWaiting]

theorem Served.close (hs : Served s) {fd : Nat} {e : HttpResponseEvent}
    (hphase : (s.session i).phase = .closing fd e) : Served (close i fd e s) := by
  have hi := hs.session i
  have hwaiting : (s.session i).phase.isWaiting = false := by rw [hphase]; rfl
  obtain ⟨hown, huse⟩ := hi.useDescriptor (by rw [hphase]; rfl) (by rw [hphase]; rfl) .close
  have huses := hi.uses
  simp only [HttpServer.close, huse]
  refine hs.of_session i (fun j hj => ?_) (fun j hj fd' hfd' => ?_) (fun _ _ _ => rfl) ?_
    (fun connId fd' hentry => .inl (hs.entries_ne hwaiting hentry)) hs.astray
  · have hused := session_update_of_ne s (fun o => { o with uses := .close :: o.uses }) hj
    exact (session_setPhase_of_ne _ (.answered e) hj).trans hused
  · have hne : fd' ≠ fd := by
      rintro rfl
      rw [hown, Option.some.injEq] at hfd'
      exact hj hfd'.symm
    simpa [System.free, System.setPhase, System.update, hne] using hfd'
  · constructor <;> simp_all [System.setPhase, System.update, System.free, Phase.uses,
      Phase.target, Phase.isOpen, Phase.isWaiting]

/-- A step keeps every connection served exactly when it is prompt. -/
theorem served_step_iff (hsound : Sound s) (hs : Served s) (hen : Enabled s ev) :
    Served (perform ev s) ↔ Prompt s ev := by
  cases ev with
  | accept fd => exact iff_of_true (hs.accept hsound hen) trivial
  | drop i => exact iff_of_true (hs.drop hen) trivial
  | upgrade i => exact iff_of_true (hs.upgrade hen) trivial
  | store i => exact hs.store_iff hen
  | subscribe => exact iff_of_true (hs.of_bus rfl rfl rfl rfl) trivial
  | publish i => exact hs.publish_iff hen.2
  | respond i e => exact iff_of_true (hs.respond hen.1 hen.2) trivial
  | write i fd e => exact iff_of_true (hs.write hen) trivial
  | close i fd e => exact iff_of_true (hs.close hen) trivial

/-! ## Nothing waits for ever -/

/-- A step of a request that has been stored. -/
def IsService : Event → Prop
  | .publish _ | .respond _ _ | .write _ _ _ | .close _ _ _ => True
  | _ => False

namespace Phase

/-- The descriptor has been released. -/
def isReleased : Phase → Bool
  | .reading | .upgraded | .gone => false
  | _ => true

/-- How many steps the request has ahead of it. -/
def rank : Phase → Nat
  | .stored => 4
  | .dispatching => 3
  | .writing _ _ => 2
  | .closing _ _ => 1
  | _ => 0

end Phase

def System.work (s : System) : Nat := ∑ i ∈ Finset.range s.accepted, (s.session i).phase.rank

/-- The requests that have been stored are answered within a number of steps of their own, and
when none of them has a step left the table is empty. -/
def Drains (s : System) : Prop :=
  ∀ later u, Trace Step s later u → (∀ ev ∈ later, IsService ev) →
    later.length ≤ s.work ∧
    ((∀ ev, IsService ev → ¬ Enabled u ev) →
      (∀ connId, u.connections connId = none) ∧
      ∀ i, (s.session i).phase.isReleased → ∃ e, (u.session i).phase = .answered e)

/-- One connection moves on, and comes closer to its end. -/
structure Progress (s t : System) (i : Nat) : Prop where
  accepted : t.accepted = s.accepted
  subscribed : t.subscribed = s.subscribed
  other : ∀ j, j ≠ i → (t.session j).phase = (s.session j).phase
  rank : (t.session i).phase.rank < (s.session i).phase.rank
  released : (t.session i).phase.isReleased

theorem Progress.work_lt {i : Nat} (h : Progress s t i) (hs : Sound s) : t.work < s.work := by
  have hgone : (s.session i).phase ≠ .gone := by
    intro hgone
    simpa [hgone, Phase.rank] using h.rank
  have hle (j : Nat) : (t.session j).phase.rank ≤ (s.session j).phase.rank := by
    by_cases hj : j = i
    · exact hj ▸ h.rank.le
    · rw [h.other j hj]
  rw [System.work, System.work, h.accepted]
  exact Finset.sum_lt_sum (fun j _ => hle j)
    ⟨i, Finset.mem_range.mpr (hs.lt_accepted hgone), h.rank⟩

theorem Progress.isReleased {i j : Nat} (h : Progress s t i)
    (hj : (s.session j).phase.isReleased) : (t.session j).phase.isReleased := by
  by_cases hji : j = i
  · exact hji ▸ h.released
  · rwa [h.other j hji]

theorem progress_setPhase {phase : Phase} (hrank : phase.rank < (s.session i).phase.rank)
    (hreleased : phase.isReleased) : Progress s (s.setPhase i phase) i where
  accepted := rfl
  subscribed := rfl
  other j hj := congrArg Session.phase (session_setPhase_of_ne s phase hj)
  rank := by simpa using hrank
  released := by simpa using hreleased

/-- What becomes of the bus and of the table is not counted. -/
theorem Progress.of_session {u : System} (h : Progress s t i) (hsession : u.session = t.session)
    (haccepted : u.accepted = t.accepted) (hsubscribed : u.subscribed = t.subscribed) :
    Progress s u i where
  accepted := haccepted.trans h.accepted
  subscribed := hsubscribed.trans h.subscribed
  other j hj := by rw [hsession, h.other j hj]
  rank := by simpa [hsession] using h.rank
  released := by simpa [hsession] using h.released

@[simp] theorem subscribed_useDescriptor (s : System) (fd : Nat) (use : Use) :
    (s.useDescriptor fd use).subscribed = s.subscribed := by
  unfold System.useDescriptor
  split <;> rfl

/-- A use of the descriptor changes no phase. -/
theorem Progress.of_useDescriptor {fd : Nat} {use : Use}
    (h : Progress (s.useDescriptor fd use) t i) : Progress s t i where
  accepted := by simpa using h.accepted
  subscribed := by simpa using h.subscribed
  other j hj := by simpa using h.other j hj
  rank := by simpa using h.rank
  released := h.released

theorem progress (hen : Enabled s ev) (hev : IsService ev) : ∃ i, Progress s (perform ev s) i := by
  cases ev with
  | publish i =>
    have hphase : (s.session i).phase = .stored := hen.2
    have hmoves (phase : Phase) (hrank : phase.rank < 4) (hreleased : phase.isReleased) :
        Progress s (s.setPhase i phase) i :=
      progress_setPhase (by simpa [hphase, Phase.rank] using hrank) hreleased
    refine ⟨i, ?_⟩
    simp only [perform, publish]
    split
    · exact (hmoves .dispatching (by decide) rfl).of_session rfl rfl rfl
    · exact hmoves .unanswered (by decide) rfl
  | respond i e =>
    have hphase : (s.session i).phase = .dispatching := hen.1
    have hmoves (phase : Phase) (hrank : phase.rank < 3) (hreleased : phase.isReleased) :
        Progress s (s.setPhase i phase) i :=
      progress_setPhase (by simpa [hphase, Phase.rank] using hrank) hreleased
    refine ⟨i, ?_⟩
    simp only [perform, respond]
    split
    · exact (hmoves .unanswered (by decide) rfl).of_session rfl rfl rfl
    · exact (hmoves (.writing _ e) (by simp [Phase.rank]) rfl).of_session rfl rfl rfl
  | write i fd e =>
    have hphase : (s.session i).phase = .writing fd e := hen
    exact ⟨i, .of_useDescriptor
      (progress_setPhase (by simp [hphase, Phase.rank]) rfl)⟩
  | close i fd e =>
    have hphase : (s.session i).phase = .closing fd e := hen
    have hmoved : Progress (s.useDescriptor fd .close)
        ((s.useDescriptor fd .close).setPhase i (.answered e)) i :=
      progress_setPhase (by simp [hphase, Phase.rank]) rfl
    exact ⟨i, .of_useDescriptor (hmoved.of_session rfl rfl rfl)⟩
  | accept | drop | upgrade | store | subscribe => exact absurd hev id

/-- A request that has a step left can take it, or another one can. -/
theorem rank_of_stuck (hs : Sound s) (hstuck : ∀ ev, IsService ev → ¬ Enabled s ev) (i : Nat) :
    (s.session i).phase.rank = 0 := by
  have hidle (j : Nat) : (s.session j).phase.isPublishing = false := by
    cases hphase : (s.session j).phase with
    | dispatching =>
      exact absurd ⟨hphase, rfl⟩ (hstuck (.respond j ⟨(s.session j).connId, 200, []⟩) trivial)
    | writing fd e => exact absurd hphase (hstuck (.write j fd e) trivial)
    | closing fd e => exact absurd hphase (hstuck (.close j fd e) trivial)
    | reading | upgraded | gone | stored | answered | unanswered => rfl
  have hfree : s.busOwner = none := by
    rw [Option.eq_none_iff_forall_not_mem]
    intro j hj
    simpa [hidle j] using (hs.bus j).mp hj
  cases hphase : (s.session i).phase with
  | stored => exact absurd ⟨hfree, hphase⟩ (hstuck (.publish i) trivial)
  | dispatching | writing | closing => simpa [hphase, Phase.isPublishing] using hidle i
  | reading | upgraded | gone | answered | unanswered => rfl

/-- Steps of stored requests alone. -/
theorem service_run {later : List Event} {u : System} (hrun : Trace Step s later u)
    (hservice : ∀ ev ∈ later, IsService ev) (hsound : Sound s) (hs : Served s)
    (hsubscribed : s.subscribed = true) :
    Sound u ∧ Served u ∧ u.subscribed = true ∧ later.length + u.work ≤ s.work ∧
      ∀ i, (s.session i).phase.isReleased → (u.session i).phase.isReleased := by
  induction hrun with
  | refl => simp [hsound, hs, hsubscribed]
  | @step later t u ev _ hstep ih =>
    obtain ⟨hlast, hearlier⟩ := List.forall_mem_cons.mp hservice
    obtain ⟨hsound', hs', hsubscribed', hlength, hreleased⟩ := ih hearlier
    obtain ⟨hen, rfl⟩ := hstep
    obtain ⟨i, hprogress⟩ := progress hen hlast
    have hprompt : Prompt t ev := by
      cases ev <;> trivial
    have hwork := hprogress.work_lt hsound'
    refine ⟨sound_step hsound' hen, (served_step_iff hsound' hs' hen).mpr hprompt,
      hprogress.subscribed.trans hsubscribed', ?_,
      fun j hj => hprogress.isReleased (hreleased j hj)⟩
    rw [List.length_cons]
    omega

theorem drains (hsound : Sound s) (hs : Served s) (hsubscribed : s.subscribed = true) :
    Drains s := by
  intro later u hrun hservice
  obtain ⟨hsound', hs', -, hlength, hreleased⟩ := service_run hrun hservice hsound hs hsubscribed
  refine ⟨by omega, fun hstuck => ⟨fun connId => ?_, fun i hi => ?_⟩⟩
  · by_contra hsome
    obtain ⟨fd, hfd⟩ := Option.ne_none_iff_exists'.mp hsome
    obtain ⟨i, hwaiting, -⟩ := hs'.entries connId fd hfd
    have hrank := rank_of_stuck hsound' hstuck i
    revert hwaiting hrank
    cases (u.session i).phase <;> simp [Phase.isWaiting, Phase.rank]
  · have hrank := rank_of_stuck hsound' hstuck i
    have hanswered := (hs'.session i).answered
    have hi := hreleased i hi
    revert hrank hanswered hi
    cases (u.session i).phase <;> simp [Phase.isReleased, Phase.rank]

/-! ## The table over its whole life -/

/-- The connections are served all the way exactly when every step is prompt. Then the table does
not keep an entry for ever either, once a `ReplyServer` has subscribed. -/
theorem connections_exact (hpossible : EachStep perform .posted Enabled h) :
    (EachState perform .posted Served h ↔ EachStep perform .posted Prompt h) ∧
    (EachStep perform .posted Prompt h → (replay perform .posted h).subscribed = true →
      Drains (replay perform .posted h)) := by
  have hiff : EachState perform .posted Served h ↔ EachStep perform .posted Prompt h :=
    eachState_iff_eachStep hpossible sound_posted served_posted
      (fun _ _ hs hen => sound_step hs hen)
      (fun _ _ hsound hs hen => served_step_iff hsound hs hen)
  refine ⟨hiff, fun hprompt hsubscribed => ?_⟩
  have hsound : Sound (replay perform .posted h) :=
    hpossible.invariant sound_posted fun _ _ hs hen => sound_step hs hen
  exact drains hsound (hiff.mpr hprompt).last hsubscribed

/-- A request that comes when all constructors have run. -/
def answering : List Event :=
  [.close 0 7 ⟨1, 200, []⟩, .write 0 7 ⟨1, 200, []⟩, .respond 0 ⟨1, 200, []⟩, .publish 0, .store 0,
    .accept 7, .subscribe]

theorem connections_exact_answering :
    EachState perform .posted Served answering ↔ EachStep perform .posted Prompt answering :=
  (connections_exact (h := answering)
    ⟨rfl, rfl, ⟨rfl, rfl⟩, ⟨rfl, rfl⟩, rfl, rfl, ⟨rfl, rfl⟩, trivial⟩).1

/-- A request that comes before the constructor of `ReplyServer`. Its descriptor stays in the
table, and nobody writes to it. -/
theorem early_request_lost :
    ¬ ∀ h, EachStep perform .posted Enabled h → Served (replay perform .posted h) := by
  intro hall
  have hserved := hall [.subscribe, .publish 0, .store 0, .accept 7]
    ⟨⟨rfl, rfl⟩, ⟨rfl, rfl⟩, rfl, rfl, trivial⟩
  exact (hserved.session 0).answered rfl

end CCTVWebServer.HttpServer
