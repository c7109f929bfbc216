import CCTVWebServer.ReplyServer
import CCTVWebServer.StreamRelayer

/-!
# The life of the relay thread

The relayer runs exactly when it has one thread in `runLoop`, and this thread relays
the url of the last `start`. A `start` that takes its lock again after the inner
`stop` does not look whether another one was quicker, and then it assigns a thread
that nobody has joined.
-/

namespace CCTVWebServer.Relaying

open Foundation

variable {s t : System} {h : List Event} {ev : Event} {c r : Nat} {url : Bytes}

/-- The relayer runs when the caller comes back from the inner `stop`. -/
def FindsRunning (s : System) (ev : Event) : Prop :=
  (∃ c url, ev = .finish c url) ∧ s.running = true

/-- The caller starts the relay of `url`. -/
def Starts (url : Bytes) (ev : Event) : Prop := ∃ c, ev = .start c url ∨ ev = .finish c url

def Stops (ev : Event) : Prop := ∃ c restart, ev = .stop c restart

/-- No other `start` and no `stop` comes after the `start` of `url`. -/
def LastStarts (h : List Event) (url : Bytes) : Prop :=
  Since (fun ev => ¬ Stops ev ∧ ∀ url, ¬ Starts url ev) (Starts url) h

/-! ## The invariant -/

/-- What the thread, the flag and the mutex can be together. -/
inductive Phase (s : System) : Prop where
  | stopped (hmutex : s.mutex = none) (hrunning : s.running = false) (hthread : s.thread = none)
      (hrelays : s.relays = [])
  | relaying (r : Nat) (hmutex : s.mutex = none) (hrunning : s.running = true)
      (hthread : s.thread = some r) (hrelays : s.relays = [r])
  | joining (c r : Nat) (hmutex : s.mutex = some c) (hrunning : s.running = false)
      (hthread : s.thread = some r) (hrelays : s.relays = [r] ∨ s.relays = [])

structure Sound (s : System) : Prop where
  phase : Phase s
  holder : ∀ c, s.mutex = some c ↔ ∃ restart, s.call c = .joining restart

theorem sound_constructed : Sound .constructed where
  phase := .stopped rfl rfl rfl rfl
  holder c := by simp [System.constructed]

namespace Phase

theorem running_iff (hs : Phase s) (hfree : s.mutex = none) :
    s.running = true ↔ ∃ r, s.thread = some r ∧ s.relays = [r] := by
  cases hs with
  | stopped _ hrunning hthread _ => simp [hrunning, hthread]
  | relaying r _ hrunning hthread hrelays => simp [hrunning, hthread, hrelays]
  | joining c r hmutex => simp [hfree] at hmutex

theorem length_le_one (hs : Phase s) : s.relays.length ≤ 1 := by
  cases hs with
  | stopped _ _ _ hrelays => simp [hrelays]
  | relaying r _ _ _ hrelays => simp [hrelays]
  | joining c r _ _ _ hrelays => rcases hrelays with hrelays | hrelays <;> simp [hrelays]

/-- Outside of `join` the thread is joinable while the relayer runs. -/
theorem isSome_thread (hs : Phase s) (hfree : s.mutex = none) :
    s.thread.isSome = s.running := by
  cases hs with
  | stopped _ hrunning hthread _ => simp [hrunning, hthread]
  | relaying r _ hrunning hthread _ => simp [hrunning, hthread]
  | joining c r hmutex => simp [hfree] at hmutex

/-- A step of the callers alone. -/
theorem setCall (hs : Phase s) (c : Nat) (call : Call) : Phase (s.setCall c call) := by
  cases hs with
  | stopped hmutex hrunning hthread hrelays => exact .stopped hmutex hrunning hthread hrelays
  | relaying r hmutex hrunning hthread hrelays =>
    exact .relaying r hmutex hrunning hthread hrelays
  | joining c r hmutex hrunning hthread hrelays =>
    exact .joining c r hmutex hrunning hthread hrelays

end Phase

theorem Call.afterStop_ne_joining (restart restart' : Option Bytes) :
    Call.afterStop restart ≠ .joining restart' := by
  cases restart <;> simp [Call.afterStop]

/-- A caller that is not in `join`, and does not go there. -/
theorem Sound.setCall (hs : Sound s) {call : Call} (hold : ∀ restart, s.call c ≠ .joining restart)
    (hnew : ∀ restart, call ≠ .joining restart) : Sound (s.setCall c call) where
  phase := hs.phase.setCall c call
  holder c' := by
    rw [System.setCall, hs.holder c']
    by_cases hc : c' = c
    · subst hc
      simp [hold, hnew]
    · simp [hc]

/-! ## Sections -/

/-- A launch terminates the process exactly when the relayer runs already. -/
theorem launch_eq_some_iff (hs : Sound s) (hfree : s.mutex = none) :
    (∃ t, launch url s = some t) ↔ s.running = false := by
  have hthread := hs.phase.isSome_thread hfree
  cases hrunning : s.running <;> simp [launch, assignThread, hthread, hrunning]

theorem Sound.launch (hs : Sound s) (hfree : s.mutex = none) (h : launch url s = some t) :
    Sound t := by
  have hrunning := (launch_eq_some_iff hs hfree).mp ⟨t, h⟩
  cases hs.phase with
  | stopped hmutex _ hthread hrelays =>
    obtain rfl : _ = t := by simpa [Relaying.launch, assignThread, hthread] using h
    exact ⟨.relaying s.created hmutex rfl rfl (by simp [System.spawn, hrelays]), hs.holder⟩
  | relaying r _ hrunning' => simp [hrunning] at hrunning'
  | joining c r hmutex => simp [hfree] at hmutex

theorem Sound.stop (hs : Sound s) {restart : Option Bytes} (hfree : s.mutex = none)
    (hcall : s.call c = .stopping restart) : Sound (stop c restart s) := by
  cases hs.phase with
  | stopped hmutex hrunning hthread hrelays =>
    rw [Relaying.stop, hrunning]
    exact hs.setCall (by simp [hcall]) (Call.afterStop_ne_joining restart)
  | relaying r hmutex hrunning hthread hrelays =>
    simp only [Relaying.stop, hrunning, hthread, Option.isSome_some, if_true]
    refine ⟨.joining c r rfl rfl rfl (.inl hrelays), fun c' => ?_⟩
    by_cases hc : c' = c
    · subst hc
      simp [System.setCall]
    · have hother := hs.holder c'
      simp only [hfree, reduceCtorEq, false_iff] at hother
      simpa [System.setCall, hc, Ne.symm hc] using hother
  | joining c r hmutex => simp [hfree] at hmutex

theorem Sound.leave (hs : Sound s) (hmem : r ∈ s.relays) (hrunning : s.running = false) :
    Sound { s with relays := s.relays.erase r } where
  phase := by
    cases hs.phase with
    | stopped _ _ _ hrelays => simp [hrelays] at hmem
    | relaying r _ hrunning' => simp [hrunning] at hrunning'
    | joining c r' hmutex _ hthread hrelays =>
      refine .joining c r' hmutex hrunning hthread (.inr ?_)
      rcases hrelays with hrelays | hrelays
      · obtain rfl : r = r' := by simpa [hrelays] using hmem
        simp [hrelays]
      · simp [hrelays] at hmem
  holder := hs.holder

theorem Sound.joined (hs : Sound s) {restart : Option Bytes} (hcall : s.call c = .joining restart)
    (hleft : ∀ r, s.thread = some r → r ∉ s.relays) : Sound (joined c restart s) := by
  have hmutex := (hs.holder c).mpr ⟨restart, hcall⟩
  cases hs.phase with
  | stopped hfree => simp [hfree] at hmutex
  | relaying r hfree => simp [hfree] at hmutex
  | joining c' r _ hrunning hthread hrelays =>
    have hempty : s.relays = [] := by
      have hr := hleft r hthread
      rcases hrelays with hrelays | hrelays
      · simp [hrelays] at hr
      · exact hrelays
    refine ⟨.stopped rfl hrunning rfl hempty, fun c' => ?_⟩
    by_cases hc : c' = c
    · subst hc
      simp [Relaying.joined, System.setCall, Call.afterStop_ne_joining]
    · have hother := hs.holder c'
      rw [hmutex, Option.some.injEq] at hother
      simpa [Relaying.joined, System.setCall, hc, Ne.symm hc] using hother

/-! ## Steps -/

theorem sound_step (hs : Sound s) (hstep : Step s ev t) : Sound t := by
  obtain ⟨hen, hperform⟩ := hstep
  cases ev with
  | callStart c url | callStop c =>
    obtain rfl := Option.some.inj hperform
    have hcall : s.call c = .idle := hen
    exact hs.setCall (by simp [hcall]) (by simp)
  | check c url =>
    obtain rfl := Option.some.inj hperform
    exact hs.setCall (by simp [hen.2.1]) (by simp)
  | start c url =>
    have hidle : Sound (s.setCall c .idle) := hs.setCall (by simp [hen.2.1]) (by simp)
    exact hidle.launch hen.1 hperform
  | stop c restart =>
    obtain rfl := Option.some.inj hperform
    exact hs.stop hen.1 hen.2
  | leave r =>
    obtain rfl := Option.some.inj hperform
    exact hs.leave hen.1 hen.2
  | joined c restart =>
    obtain rfl := Option.some.inj hperform
    exact hs.joined hen.1 hen.2
  | finish c url =>
    have hidle : Sound (s.setCall c .idle) := hs.setCall (by simp [hen.2]) (by simp)
    exact hidle.launch hen.1 hperform

/-- The process survives an event unless that starts a second relay. -/
theorem perform_isSome_iff (hs : Sound s) (hen : Enabled s ev) :
    (∃ t, perform ev s = some t) ↔ ¬ FindsRunning s ev := by
  cases ev with
  | callStart c url | callStop c | check c url | stop c restart | leave r | joined c restart =>
    exact iff_of_true ⟨_, rfl⟩ (by simp [FindsRunning])
  | start c url =>
    have hidle : Sound (s.setCall c .idle) := hs.setCall (by simp [hen.2.1]) (by simp)
    exact iff_of_true ((launch_eq_some_iff hidle hen.1).mpr hen.2.2) (by simp [FindsRunning])
  | finish c url =>
    have hidle : Sound (s.setCall c .idle) := hs.setCall (by simp [hen.2]) (by simp)
    exact (launch_eq_some_iff hidle hen.1).trans (by simp [FindsRunning, System.setCall])

theorem sound_of_run (hrun : Trace Step .constructed h t) : Sound t :=
  hrun.invariant (fun _ _ _ hs hstep => sound_step hs hstep) sound_constructed

/-! ## The sequential relayer -/

/-- What an event is to the relayer as one caller at a time sees it. -/
def effect : Event → StreamRelayer → StreamRelayer
  | .start _ url | .finish _ url => StreamRelayer.start url
  | .stop _ _ => StreamRelayer.stop
  | _ => id

theorem view_launch (h : launch url s = some t) : t.view = StreamRelayer.start url s.view := by
  unfold launch assignThread at h
  split at h
  · simp at h
  · rw [← Option.some.inj h]
    rfl

theorem view_step (hstep : Step s ev t) : t.view = effect ev s.view := by
  obtain ⟨hen, hperform⟩ := hstep
  cases ev with
  | callStart | callStop | check | leave | joined =>
    obtain rfl := Option.some.inj hperform
    rfl
  | start c url | finish c url => exact view_launch (s := s.setCall c .idle) hperform
  | stop c restart =>
    obtain rfl := Option.some.inj hperform
    simp only [effect, stop]
    split
    · split <;> rfl
    · simp_all [System.view, System.setCall, StreamRelayer.stop]

theorem lastStarts_iff (hrun : Trace Step .constructed h t) :
    LastStarts h url ↔ t.running = true ∧ t.rtspUrl = url := by
  induction hrun with
  | refl => simp [LastStarts, System.constructed]
  | @step h s t ev _ hstep ih =>
    have hview := view_step hstep
    have hrunning : t.running = (effect ev s.view).running := congrArg StreamRelayer.running hview
    have hurl : t.rtspUrl = (effect ev s.view).rtspUrl := congrArg StreamRelayer.rtspUrl hview
    unfold LastStarts at ih ⊢
    rw [since_cons, ih, hrunning, hurl]
    cases ev <;> simp [Starts, Stops, effect, System.view, StreamRelayer.start, StreamRelayer.stop]

/-! ## The relayer over its whole life -/

/-- As long as no caller finds the relayer running when it comes back from its inner `stop`, the
process survives. Then the relayer runs exactly when its one thread does, and it relays
the url of the last `start`, unless a `stop` came after it. -/
theorem relayer_exact (hrun : Trace Step .constructed h t) :
    (t.mutex = none → (t.running = true ↔ ∃ r, t.thread = some r ∧ t.relays = [r])) ∧
    t.relays.length ≤ 1 ∧
    (∀ url, LastStarts h url ↔ t.running = true ∧ t.rtspUrl = url) ∧
    ∀ ev, Enabled t ev → ((∃ u, perform ev t = some u) ↔ ¬ FindsRunning t ev) := by
  have hs := sound_of_run hrun
  exact ⟨hs.phase.running_iff, hs.phase.length_le_one, fun url => lastStarts_iff hrun,
    fun ev hen => perform_isSome_iff hs hen⟩

/-- The relayer after some events, newest first. -/
def systemAfter : List Event → System
  | [] => .constructed
  | ev :: h => (perform ev (systemAfter h)).getD (systemAfter h)

/-- A caller has started a relay, and starts another one. Its inner `stop` is over. -/
def restarting : List Event :=
  [.joined 0 (some [2]), .leave 0, .stop 0 (some [2]), .check 0 [2], .callStart 0 [2],
    .start 0 [1], .callStart 0 [1]]

theorem run_restarting : Trace Step .constructed restarting (systemAfter restarting) :=
  .step (.step (.step (.step (.step (.step (.step .refl
    ⟨rfl, rfl⟩) ⟨⟨rfl, rfl, rfl⟩, rfl⟩) ⟨rfl, rfl⟩) ⟨⟨rfl, rfl, rfl⟩, rfl⟩) ⟨⟨rfl, rfl⟩, rfl⟩)
    ⟨⟨List.mem_cons_self .., rfl⟩, rfl⟩) ⟨⟨rfl, fun _ _ => List.not_mem_nil⟩, rfl⟩

/-- Nobody comes in between, and the second url is relayed. -/
theorem relayer_exact_restarting :
    (systemAfter (.finish 0 [2] :: restarting)).relays.length ≤ 1 ∧
    (LastStarts (.finish 0 [2] :: restarting) [2] ↔
      (systemAfter (.finish 0 [2] :: restarting)).running = true ∧
      (systemAfter (.finish 0 [2] :: restarting)).rtspUrl = [2]) := by
  have hfinish : Step (systemAfter restarting) (.finish 0 [2])
      (systemAfter (.finish 0 [2] :: restarting)) := ⟨⟨rfl, rfl⟩, rfl⟩
  obtain ⟨-, hlength, hurl, -⟩ := relayer_exact (run_restarting.step hfinish)
  exact ⟨hlength, hurl [2]⟩

/-- Another caller starts a relay of its own before the first one takes its lock again. -/
def overtaken : List Event := .start 1 [3] :: .callStart 1 [3] :: restarting

theorem overtaken_terminates :
    Trace Step .constructed overtaken (systemAfter overtaken) ∧
      Enabled (systemAfter overtaken) (.finish 0 [2]) ∧
      perform (.finish 0 [2]) (systemAfter overtaken) = none :=
  ⟨.step (.step run_restarting ⟨rfl, rfl⟩) ⟨⟨rfl, rfl, rfl⟩, rfl⟩, ⟨rfl, rfl⟩, rfl⟩

end CCTVWebServer.Relaying
