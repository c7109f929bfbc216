import CCTVWebServer.Broadcast

/-!
# Mutexes asked for twice

`sendFrame` holds the mutex of its session when it calls `doWrite`, which locks it
again. Every other path through the sessions and the hub asks only for mutexes it does
not own, in every interleaving of the threads.
-/

namespace CCTVWebServer.Broadcast

open Foundation

variable {s : Process} {thread i : Nat} {m : Mutex} {place : Place} {data : Frame}
  {rest : List Nat}

/-- No thread asks for a mutex it owns. -/
def NoSelfLock (s : Process) : Prop :=
  ∀ thread, ∀ m ∈ (s.place thread).asks, s.owner m ≠ some thread

/-- No function is being executed, and no mutex is locked. The sessions, their queues and
their flags are arbitrary. -/
structure Quiet (s : Process) : Prop where
  idle : ∀ thread, s.place thread = .idle
  free : ∀ m, s.owner m = none

/-! ## What a thread owns -/

/-- The mutexes that a thread at this place owns. -/
def Place.owned : Place → List Mutex
  | .loop _ _ | .sendFrame _ _ _ | .unregisterBody _ => [.hub]
  | .sendBody _ _ i | .doWrite i (.sendFrame _ _) | .doWriteBody i (.sendFrame _ _) =>
    [.session i, .hub]
  | .doWriteBody i .onWrite | .onWriteBody i => [.session i]
  | _ => []

/-- The owners of the mutexes are known from the places of the threads. -/
def Owned (s : Process) : Prop :=
  ∀ m thread, s.owner m = some thread ↔ m ∈ (s.place thread).owned

/-- The lock that is never granted. -/
def Place.Nested (place : Place) : Prop := ∃ i data rest, place = .doWrite i (.sendFrame data rest)

/-- Only the nested call asks for a mutex its thread owns. -/
theorem noSelfLock_iff (h : Owned s) : NoSelfLock s ↔ ∀ thread, ¬ (s.place thread).Nested := by
  constructor
  · rintro hno thread ⟨i, data, rest, hplace⟩
    refine hno thread (.session i) ?_ ?_
    · rw [hplace]
      rfl
    · rw [h, hplace]
      simp [Place.owned]
  · intro hno thread m hm howner
    rw [h] at howner
    have hthread := hno thread
    cases hplace : s.place thread with
    | doWrite j caller =>
      cases caller with
      | onWrite => simp [hplace, Place.owned] at howner
      | sendFrame data rest => exact hthread ⟨j, data, rest, hplace⟩
    | sendFrame data rest j =>
      rw [hplace] at hm howner
      obtain rfl : Mutex.session j = m := Option.some.inj hm
      simp [Place.owned] at howner
    | broadcastFrame _ | unregister _ | onWrite _ => simp [hplace, Place.owned] at howner
    | idle | loop _ _ | sendBody _ _ _ | doWriteBody _ _ | onWriteBody _ | unregisterBody _ =>
      simp [hplace, Place.asks] at hm

/-- The nested lock is not granted, since its thread owns the mutex. -/
theorem Owned.not_nested (h : Owned s) (hfree : ∀ m ∈ (s.place thread).asks, s.owner m = none) :
    ¬ (s.place thread).Nested := by
  rintro ⟨i, data, rest, hplace⟩
  have howned : s.owner (.session i) = some thread := by
    rw [h, hplace]
    exact List.mem_cons_self
  rw [hfree (.session i) (by rw [hplace]; rfl)] at howned
  cases howned

/-! ## Moves -/

/-- A thread moves to a place that owns as much. -/
theorem Owned.goTo (h : Owned s) (hsame : place.owned = (s.place thread).owned) :
    Owned (s.goTo thread place) := by
  intro m other
  by_cases hother : other = thread
  · subst hother
    simpa [Process.goTo, hsame] using h m other
  · simpa [Process.goTo, hother] using h m other

/-- A thread is granted a free mutex. -/
theorem Owned.lock (h : Owned s) (hfree : s.owner m = none)
    (hmore : place.owned = m :: (s.place thread).owned) :
    Owned ((s.lock thread m).goTo thread place) := by
  intro m' other
  have hbefore := h m' other
  by_cases hm : m' = m
  · subst hm
    by_cases hother : other = thread
    · subst hother
      simp [Process.goTo, Process.lock, hmore]
    · have hno : m' ∉ (s.place other).owned := by
        rw [← hbefore, hfree]
        simp
      simp [Process.goTo, Process.lock, hother, Ne.symm hother, hno]
  · by_cases hother : other = thread
    · subst hother
      simpa [Process.goTo, Process.lock, hm, hmore] using hbefore
    · simpa [Process.goTo, Process.lock, hm, hother] using hbefore

/-- A thread gives a mutex back. -/
theorem Owned.unlock (h : Owned s) (hless : (s.place thread).owned = m :: place.owned)
    (hm : m ∉ place.owned) : Owned ((s.unlock m).goTo thread place) := by
  have howner : s.owner m = some thread := by
    rw [h, hless]
    exact List.mem_cons_self
  intro m' other
  have hbefore := h m' other
  by_cases hm' : m' = m
  · subst hm'
    by_cases hother : other = thread
    · subst hother
      simp [Process.goTo, Process.unlock, hm]
    · have hno : m' ∉ (s.place other).owned := by
        rw [← hbefore, howner]
        simpa using Ne.symm hother
      simp [Process.goTo, Process.unlock, hother, hno]
  · by_cases hother : other = thread
    · subst hother
      simpa [Process.goTo, Process.unlock, hm', hless] using hbefore
    · simpa [Process.goTo, Process.unlock, hm', hother] using hbefore

/-! ## Steps -/

/-- Owners and places fit together, and no thread is behind the nested lock. -/
structure Sound (s : Process) : Prop where
  owned : Owned s
  outside : ∀ thread i data rest, s.place thread ≠ .doWriteBody i (.sendFrame data rest)

theorem Quiet.sound (h : Quiet s) : Sound s where
  owned m thread := by simp [h.free, h.idle, Place.owned]
  outside thread i data rest := by simp [h.idle]

/-- Where a step of a thread leads: into the section of `doWrite` only from its lock, and to
the nested lock only from a `sendFrame` that finds the flag cleared. -/
theorem place_run (s : Process) (thread : Nat) :
    ∃ place, (s.run thread).place = Function.update s.place thread place ∧
      (∀ i caller, place = .doWriteBody i caller → s.place thread = .doWrite i caller) ∧
      (place.Nested ↔ ∃ data rest i,
        s.place thread = .sendBody data rest i ∧ (s.session i).isWriting = false) := by
  cases hplace : s.place thread with
  | idle =>
    refine ⟨.idle, ?_, by simp, by simp [Place.Nested]⟩
    rw [Process.run, hplace]
    exact (Function.update_eq_self_iff.mpr hplace.symm).symm
  | loop data rest =>
    cases rest with
    | nil => exact ⟨_, by rw [Process.run, hplace]; rfl, by simp, by simp [Place.Nested]⟩
    | cons i rest => exact ⟨_, by rw [Process.run, hplace]; rfl, by simp, by simp [Place.Nested]⟩
  | sendBody data rest i =>
    cases hflag : (s.session i).isWriting with
    | true =>
      refine ⟨.loop data rest, ?_, by simp, by simp [Place.Nested, hflag]⟩
      simp [Process.run, hplace, Process.update, Session.push, hflag, Process.goTo, Process.unlock]
    | false =>
      refine ⟨.doWrite i (.sendFrame data rest), ?_, by simp, by simp [Place.Nested, hflag]⟩
      simp [Process.run, hplace, Process.update, Session.push, hflag, Process.goTo]
  | doWriteBody i caller =>
    cases caller with
    | onWrite => exact ⟨_, by rw [Process.run, hplace]; rfl, by simp, by simp [Place.Nested]⟩
    | sendFrame data rest =>
      exact ⟨_, by rw [Process.run, hplace]; rfl, by simp, by simp [Place.Nested]⟩
  | doWrite i caller =>
    exact ⟨_, by rw [Process.run, hplace]; rfl, by simp, by simp [Place.Nested]⟩
  | broadcastFrame _ | sendFrame _ _ _ | onWrite _ | onWriteBody _ | unregister _
  | unregisterBody _ =>
    exact ⟨_, by rw [Process.run, hplace]; rfl, by simp, by simp [Place.Nested]⟩

/-- A step of a thread that is granted what it asks for. -/
theorem Sound.owned_run (h : Sound s) (hfree : ∀ m ∈ (s.place thread).asks, s.owner m = none) :
    Owned (s.run thread) := by
  cases hplace : s.place thread with
  | idle => simpa [Process.run, hplace] using h.owned
  | broadcastFrame data =>
    rw [Process.run, hplace]
    exact h.owned.lock (hfree .hub (by rw [hplace]; rfl)) (by rw [hplace]; rfl)
  | loop data rest =>
    cases rest with
    | nil =>
      rw [Process.run, hplace]
      exact h.owned.unlock (by rw [hplace]; rfl) (by simp [Place.owned])
    | cons i rest =>
      rw [Process.run, hplace]
      exact h.owned.goTo (by rw [hplace]; rfl)
  | sendFrame data rest i =>
    rw [Process.run, hplace]
    exact h.owned.lock (hfree (.session i) (by rw [hplace]; rfl)) (by rw [hplace]; rfl)
  | sendBody data rest i =>
    have hpushed : Owned (s.update i (Session.push data)) := h.owned
    rw [Process.run, hplace]
    dsimp only
    split_ifs
    · refine hpushed.unlock (m := .session i) ?_ (by simp [Place.owned])
      exact congrArg Place.owned hplace
    · have hset : Owned ((s.update i (Session.push data)).update i
          fun o => { o with isWriting := true }) := h.owned
      exact hset.goTo (congrArg Place.owned hplace).symm
  | doWrite i caller =>
    have hsession : s.owner (.session i) = none := hfree _ (by rw [hplace]; rfl)
    cases caller with
    | onWrite =>
      rw [Process.run, hplace]
      exact h.owned.lock hsession (by rw [hplace]; rfl)
    | sendFrame data rest => exact absurd ⟨i, data, rest, hplace⟩ (h.owned.not_nested hfree)
  | doWriteBody i caller =>
    cases caller with
    | onWrite =>
      have hset : Owned (s.update i fun o => o.front.2) := h.owned
      rw [Process.run, hplace]
      exact hset.unlock (congrArg Place.owned hplace) (by simp [Place.owned])
    | sendFrame data rest => exact absurd hplace (h.outside thread i data rest)
  | onWrite i =>
    rw [Process.run, hplace]
    exact h.owned.lock (hfree (.session i) (by rw [hplace]; rfl)) (by rw [hplace]; rfl)
  | onWriteBody i =>
    have hset : Owned (s.update i Session.pop) := h.owned
    rw [Process.run, hplace]
    exact hset.unlock (congrArg Place.owned hplace) (by simp [Place.owned])
  | unregister i =>
    rw [Process.run, hplace]
    exact h.owned.lock (hfree .hub (by rw [hplace]; rfl)) (by rw [hplace]; rfl)
  | unregisterBody i =>
    have hset : Owned { s with sessions := s.sessions.erase i } := h.owned
    rw [Process.run, hplace]
    exact hset.unlock (congrArg Place.owned hplace) (by simp [Place.owned])

/-- A `sendFrame` that has its mutex finds the flag set. -/
def FindsFlag (s : Process) : Event → Prop
  | .call _ _ => True
  | .run thread => ∀ data rest i, s.place thread = .sendBody data rest i →
      (s.session i).isWriting = true

theorem Call.owned_begin (c : Call) : c.begin.owned = [] := by
  cases c with
  | broadcastFrame data => rfl
  | onWrite i ok => cases ok <;> rfl
  | onRead i ok => cases ok <;> rfl

theorem Call.begin_ne_doWrite (c : Call) (i : Nat) (caller : Caller) :
    c.begin ≠ .doWrite i caller ∧ c.begin ≠ .doWriteBody i caller := by
  cases c with
  | broadcastFrame data => simp [Call.begin]
  | onWrite i ok => cases ok <;> simp [Call.begin]
  | onRead i ok => cases ok <;> simp [Call.begin]

theorem Sound.perform {ev : Event} (h : Sound s) (henabled : s.Enabled ev) :
    Sound (Process.perform ev s) := by
  cases ev with
  | call thread c =>
    have hidle : s.place thread = .idle := henabled
    refine ⟨h.owned.goTo (by rw [c.owned_begin, hidle]; rfl), ?_⟩
    intro other i data rest
    by_cases hother : other = thread
    · subst hother
      simpa [Process.perform, Process.goTo] using (c.begin_ne_doWrite i _).2
    · simpa [Process.perform, Process.goTo, hother] using h.outside other i data rest
  | run thread =>
    refine ⟨h.owned_run henabled.2, ?_⟩
    obtain ⟨place, hplaces, hsection, -⟩ := place_run s thread
    intro other i data rest hat
    rw [Process.perform, hplaces] at hat
    by_cases hother : other = thread
    · subst hother
      have hlock := hsection i _ (by simpa using hat)
      exact h.owned.not_nested henabled.2 ⟨i, data, rest, hlock⟩
    · exact h.outside other i data rest (by simpa [hother] using hat)

/-- A step keeps the threads from locking twice exactly when it is not the one of a
`sendFrame` that finds the flag cleared. -/
theorem noSelfLock_perform_iff {ev : Event} (h : Sound s) (hno : NoSelfLock s)
    (henabled : s.Enabled ev) : NoSelfLock (Process.perform ev s) ↔ FindsFlag s ev := by
  rw [noSelfLock_iff h.owned] at hno
  rw [noSelfLock_iff (h.perform henabled).owned]
  cases ev with
  | call thread c =>
    refine iff_of_true (fun other => ?_) trivial
    by_cases hother : other = thread
    · subst hother
      rintro ⟨i, data, rest, hplace⟩
      simp only [Process.perform, Process.goTo, Function.update_self] at hplace
      exact (c.begin_ne_doWrite i _).1 hplace
    · simpa [Process.perform, Process.goTo, hother] using hno other
  | run thread =>
    obtain ⟨place, hplaces, -, hnested⟩ := place_run s thread
    have hflag : FindsFlag s (.run thread) ↔ ¬ place.Nested := by
      rw [hnested]
      simp [FindsFlag]
    rw [hflag, Process.perform, hplaces]
    constructor
    · intro hall
      simpa using hall thread
    · intro hplace other
      by_cases hother : other = thread
      · subst hother
        simpa using hplace
      · simpa [hother] using hno other

/-- From any sessions with any queues and flags, and for any calls that the threads make, no
thread asks for a mutex it owns as long as every `sendFrame` finds the flag of its session
set, and no longer. -/
theorem noSelfLock_iff_findsFlag (hquiet : Quiet s) (h : List Event)
    (hrun : EachStep Process.perform s Process.Enabled h) :
    EachState Process.perform s NoSelfLock h ↔ EachStep Process.perform s FindsFlag h := by
  have hstart : NoSelfLock s := by
    rw [noSelfLock_iff hquiet.sound.owned]
    rintro thread ⟨i, data, rest, hplace⟩
    rw [hquiet.idle] at hplace
    cases hplace
  exact eachState_iff_eachStep hrun hquiet.sound hstart (fun _ _ hs hev => hs.perform hev)
    fun _ _ hs hno hev => noSelfLock_perform_iff hs hno hev

/-- The hub with one viewer, to whom nothing has been sent. -/
def oneViewer : Process := ⟨fun _ => .idle, fun _ => none, fun _ => .new, [0]⟩

/-- The first frame of the camera, up to the second lock. -/
def firstBroadcast : List Event :=
  [.run 0, .run 0, .run 0, .run 0, .call 0 (.broadcastFrame [1])]

theorem oneViewer_quiet : Quiet oneViewer := ⟨fun _ => rfl, fun _ => rfl⟩

theorem firstBroadcast_enabled :
    EachStep Process.perform oneViewer Process.Enabled firstBroadcast := by
  refine ⟨⟨by decide, ?_⟩, ⟨by decide, ?_⟩, ⟨by decide, ?_⟩, ⟨by decide, ?_⟩, rfl, trivial⟩
  · rintro m ⟨⟩
  · rintro m ⟨⟩
    rfl
  · rintro m ⟨⟩
  · rintro m ⟨⟩
    rfl

theorem noSelfLock_iff_findsFlag_firstBroadcast :
    EachState Process.perform oneViewer NoSelfLock firstBroadcast ↔
      EachStep Process.perform oneViewer FindsFlag firstBroadcast :=
  noSelfLock_iff_findsFlag oneViewer_quiet _ firstBroadcast_enabled

/-- Broadcasting to a new session, the thread locks the mutex of the session twice. -/
theorem firstBroadcast_selfLocks :
    Quiet oneViewer ∧ EachStep Process.perform oneViewer Process.Enabled firstBroadcast ∧
      ¬ EachState Process.perform oneViewer NoSelfLock firstBroadcast :=
  ⟨oneViewer_quiet, firstBroadcast_enabled, fun h => h.last 0 (.session 0) rfl rfl⟩

end CCTVWebServer.Broadcast
