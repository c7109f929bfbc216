import CCTVWebServer.Properties.Relays

/-!
# Callers of the relayer that take turns

In the server all calls of `start` and `stop` come from `dispatch`, which runs under the mutex
of the event bus, so no call begins while another one is under way. Such calls never meet the
gap in `start`: they are atomic, they return, and the process survives them.
-/

namespace CCTVWebServer.Relaying

open Foundation

variable {s t : System} {h : List Event} {ev : Event} {c : Nat}

/-- A call begins. -/
def IsCall : Event → Prop
  | .callStart _ _ | .callStop _ => True
  | _ => False

/-- A step of callers that take turns. -/
def TurnStep (s : System) (ev : Event) (t : System) : Prop :=
  Step s ev t ∧ (IsCall ev → ∀ c, s.call c = .idle)

/-- The calls, as if each of them were a single step. -/
def request : Event → StreamRelayer → StreamRelayer
  | .callStart _ url => StreamRelayer.start url
  | .callStop _ => StreamRelayer.stop
  | _ => id

/-- What a caller is still going to do. -/
def Call.pending : Call → StreamRelayer → StreamRelayer
  | .starting url | .stopping (some url) | .joining (some url) | .finishing url =>
    StreamRelayer.start url
  | .stopping none => StreamRelayer.stop
  | .idle | .joining none => id

/-- It is the caller's turn: the others are outside, the relayer is stopped when the caller comes
back from its inner `stop`, and when it is done the calls will have had their effects. -/
structure TurnOf (c : Nat) (h : List Event) (s : System) : Prop where
  others : ∀ d, d ≠ c → s.call d = .idle
  stopped : ∀ url, s.call c = .finishing url → s.running = false
  pending : (s.call c).pending s.view = h.foldr request ⟨false, []⟩

theorem turnOf_constructed : TurnOf 0 [] .constructed where
  others _ _ := rfl
  stopped _ h := nomatch h
  pending := rfl

theorem TurnOf.eq_of_ne_idle (hs : TurnOf c h s) {d : Nat} (hd : s.call d ≠ .idle) : d = c := by
  by_contra hne
  exact hd (hs.others d hne)

/-! ## Steps -/

/-- A call begins when its caller and all others are outside. -/
theorem TurnOf.begin (hs : TurnOf c h s) (hidle : ∀ d, s.call d = .idle) {call : Call} {d : Nat}
    (hcall : ∀ url, call ≠ .finishing url) (hpending : call.pending s.view = request ev s.view) :
    TurnOf d (ev :: h) (s.setCall d call) where
  others d' hd' := by simp [System.setCall, hd', hidle d']
  stopped url hfinishing := by
    simp only [System.setCall, Function.update_self] at hfinishing
    exact absurd hfinishing (hcall url)
  pending := by
    have hview : s.view = h.foldr request ⟨false, []⟩ := by
      have hpending := hs.pending
      rwa [hidle c] at hpending
    simp only [System.setCall, Function.update_self]
    rw [List.foldr_cons, ← hview]
    exact hpending

/-- A section of the caller whose turn it is. -/
theorem TurnOf.go (hs : TurnOf c h s) {call : Call} (hcall : t.call = Function.update s.call c call)
    (hstopped : ∀ url, call = .finishing url → t.running = false)
    (hpending : call.pending t.view = (s.call c).pending s.view) (hev : request ev = id) :
    TurnOf c (ev :: h) t where
  others d hd := by simp [hcall, hd, hs.others d hd]
  stopped url hfinishing := by
    rw [hcall, Function.update_self] at hfinishing
    exact hstopped url hfinishing
  pending := by
    rw [hcall, Function.update_self, hpending, hs.pending, List.foldr_cons, hev]
    rfl

theorem call_launch {url : Bytes} (h : launch url s = some t) : t.call = s.call := by
  unfold launch assignThread at h
  split at h
  · cases h
  · rw [← Option.some.inj h]
    rfl

theorem Sound.running_of_joining (hs : Sound s) {restart : Option Bytes}
    (hcall : s.call c = .joining restart) : s.running = false := by
  have hmutex := (hs.holder c).mpr ⟨restart, hcall⟩
  cases hs.phase with
  | stopped _ hrunning => exact hrunning
  | relaying _ hfree => simp [hfree] at hmutex
  | joining _ _ _ hrunning => exact hrunning

theorem TurnOf.step (hs : TurnOf c h s) (hsound : Sound s) (hstep : TurnStep s ev t) :
    ∃ d, (¬ IsCall ev → d = c) ∧ TurnOf d (ev :: h) t := by
  obtain ⟨⟨hen, hperform⟩, hidle⟩ := hstep
  cases ev with
  | callStart d url =>
    obtain rfl := Option.some.inj hperform
    exact ⟨d, fun hev => absurd trivial hev, hs.begin (hidle trivial) (by simp) rfl⟩
  | callStop d =>
    obtain rfl := Option.some.inj hperform
    exact ⟨d, fun hev => absurd trivial hev, hs.begin (hidle trivial) (by simp) rfl⟩
  | check d url =>
    obtain rfl := Option.some.inj hperform
    have hcall := hen.2.1
    obtain rfl := hs.eq_of_ne_idle (by rw [hcall]; simp)
    exact ⟨d, fun _ => rfl, hs.go rfl (by simp) (by rw [hcall]; rfl) rfl⟩
  | start d url =>
    have hcall := hen.2.1
    obtain rfl := hs.eq_of_ne_idle (by rw [hcall]; simp)
    refine ⟨d, fun _ => rfl, hs.go (call_launch hperform) (by simp) ?_ rfl⟩
    rw [view_launch hperform, hcall]
    rfl
  | finish d url =>
    have hcall := hen.2
    obtain rfl := hs.eq_of_ne_idle (by rw [hcall]; simp)
    refine ⟨d, fun _ => rfl, hs.go (call_launch hperform) (by simp) ?_ rfl⟩
    rw [view_launch hperform, hcall]
    rfl
  | leave r =>
    obtain rfl := Option.some.inj hperform
    exact ⟨c, fun _ => rfl, ⟨hs.others, hs.stopped, hs.pending⟩⟩
  | joined d restart =>
    obtain rfl := Option.some.inj hperform
    have hcall := hen.1
    obtain rfl := hs.eq_of_ne_idle (by rw [hcall]; simp)
    have hrunning := hsound.running_of_joining hcall
    refine ⟨d, fun _ => rfl, hs.go rfl (fun _ _ => hrunning) ?_ rfl⟩
    rw [hcall]
    cases restart <;> rfl
  | stop d restart =>
    obtain rfl := Option.some.inj hperform
    have hcall := hen.2
    obtain rfl := hs.eq_of_ne_idle (by rw [hcall]; simp)
    refine ⟨d, fun _ => rfl, ?_⟩
    unfold stop
    cases hrunning : s.running with
    | false =>
      refine hs.go rfl (fun _ _ => hrunning) ?_ rfl
      rw [hcall]
      cases restart with
      | some url => rfl
      | none => simp [Call.afterStop, Call.pending, System.view, System.setCall,
          StreamRelayer.stop, hrunning]
    | true =>
      cases s.thread.isSome with
      | false =>
        refine hs.go rfl (fun _ _ => rfl) ?_ rfl
        rw [hcall]
        cases restart <;> rfl
      | true =>
        refine hs.go rfl (by simp) ?_ rfl
        rw [hcall]
        cases restart <;> rfl

/-! ## Every call returns -/

/-- How many sections the caller has ahead of it, the end of the relay thread apart. -/
def Call.rank : Call → Nat
  | .idle => 0
  | .starting _ => 5
  | .stopping (some _) => 4
  | .stopping none => 3
  | .joining (some _) => 2
  | .joining none | .finishing _ => 1

/-- With the relay threads that are to leave their loop. -/
def work (c : Nat) (s : System) : Nat :=
  (s.call c).rank + if s.running then 0 else s.relays.length

theorem TurnOf.work_le (hs : TurnOf c h s) (hsound : Sound s) : work c s ≤ 5 := by
  unfold work
  cases hsound.phase with
  | stopped _ hrunning _ hrelays =>
    rw [hrelays]
    cases hcall : s.call c with
    | stopping restart | joining restart => cases restart <;> simp [Call.rank, hrunning]
    | _ => simp [Call.rank, hrunning]
  | relaying r _ hrunning =>
    cases hcall : s.call c with
    | stopping restart | joining restart => cases restart <;> simp [Call.rank, hrunning]
    | _ => simp [Call.rank, hrunning]
  | joining d r hmutex hrunning _ hrelays =>
    obtain ⟨restart, hcall⟩ := (hsound.holder d).mp hmutex
    obtain rfl := hs.eq_of_ne_idle (by rw [hcall]; simp)
    rw [hcall]
    rcases hrelays with hrelays | hrelays <;> rw [hrelays] <;> cases restart <;>
      simp [Call.rank, hrunning]

theorem work_launch {url : Bytes} (h : launch url (s.setCall c .idle) = some t) :
    work c t = 0 := by
  have hcall : t.call c = .idle := by simp [call_launch h, System.setCall]
  have hrunning : t.running = true := congrArg StreamRelayer.running (view_launch h)
  simp [work, hcall, hrunning, Call.rank]

theorem work_stop (hs : Sound s) (hfree : s.mutex = none) {restart : Option Bytes}
    (hcall : s.call c = .stopping restart) : work c (stop c restart s) < work c s := by
  cases hs.phase with
  | stopped _ hrunning _ hrelays =>
    cases restart <;>
      simp [work, stop, System.setCall, Call.afterStop, Call.rank, hcall, hrunning, hrelays]
  | relaying r _ hrunning hthread hrelays =>
    cases restart <;>
      simp [work, stop, System.setCall, Call.rank, hcall, hrunning, hthread, hrelays]
  | joining d r hmutex => simp [hfree] at hmutex

theorem work_joined (hs : Sound s) {restart : Option Bytes} (hcall : s.call c = .joining restart)
    (hleft : ∀ r, s.thread = some r → r ∉ s.relays) :
    work c (joined c restart s) < work c s := by
  have hrunning := hs.running_of_joining hcall
  have hmutex := (hs.holder c).mpr ⟨restart, hcall⟩
  cases hs.phase with
  | stopped hfree => simp [hfree] at hmutex
  | relaying r hfree => simp [hfree] at hmutex
  | joining d r _ _ hthread hrelays =>
    have hrelays : s.relays = [] := by
      rcases hrelays with hrelays | hrelays
      · exact absurd (by simp [hrelays]) (hleft r hthread)
      · exact hrelays
    cases restart <;>
      simp [work, joined, System.setCall, Call.afterStop, Call.rank, hcall, hrunning, hrelays]

/-- Every section and every end of a relay thread brings the caller closer to its return. -/
theorem TurnOf.work_lt (hs : TurnOf c h s) (hsound : Sound s) (hstep : Step s ev t)
    (hev : ¬ IsCall ev) : work c t < work c s := by
  obtain ⟨hen, hperform⟩ := hstep
  cases ev with
  | callStart | callStop => exact absurd trivial hev
  | check d url =>
    obtain rfl := Option.some.inj hperform
    obtain ⟨-, hcall, hrunning⟩ := hen
    obtain rfl := hs.eq_of_ne_idle (by rw [hcall]; simp)
    simp [work, System.setCall, Call.rank, hcall, hrunning]
  | start d url =>
    have hcall := hen.2.1
    obtain rfl := hs.eq_of_ne_idle (by rw [hcall]; simp)
    rw [work_launch hperform, work, hcall]
    simp [Call.rank]
  | finish d url =>
    have hcall := hen.2
    obtain rfl := hs.eq_of_ne_idle (by rw [hcall]; simp)
    rw [work_launch hperform, work, hcall]
    simp [Call.rank]
  | stop d restart =>
    obtain rfl := Option.some.inj hperform
    have hcall := hen.2
    obtain rfl := hs.eq_of_ne_idle (by rw [hcall]; simp)
    exact work_stop hsound hen.1 hcall
  | leave r =>
    obtain rfl := Option.some.inj hperform
    obtain ⟨hmem, hrunning⟩ := hen
    have hlength := List.length_erase_of_mem hmem
    have hpos := List.length_pos_of_mem hmem
    simp only [work, hrunning, Bool.false_eq_true, if_false]
    omega
  | joined d restart =>
    obtain rfl := Option.some.inj hperform
    have hcall := hen.1
    obtain rfl := hs.eq_of_ne_idle (by rw [hcall]; simp)
    exact work_joined hsound hcall hen.2

/-- As long as a call is under way, its caller or the relay thread has a step. -/
theorem TurnOf.idle_of_stuck (hs : TurnOf c h s) (hsound : Sound s)
    (hstuck : ∀ ev, ¬ IsCall ev → ¬ Enabled s ev) (d : Nat) : s.call d = .idle := by
  by_contra hcall
  obtain rfl := hs.eq_of_ne_idle hcall
  have hfree (hjoining : ∀ restart, s.call d ≠ .joining restart) : s.mutex = none := by
    rw [Option.eq_none_iff_forall_not_mem]
    intro d' hd'
    obtain ⟨restart, hd⟩ := (hsound.holder d').mp hd'
    obtain rfl := hs.eq_of_ne_idle (by rw [hd]; simp)
    exact hjoining restart hd
  cases hphase : s.call d with
  | idle => exact hcall hphase
  | starting url =>
    have hmutex := hfree (by simp [hphase])
    cases hrunning : s.running with
    | true => exact hstuck (.check d url) id ⟨hmutex, hphase, hrunning⟩
    | false => exact hstuck (.start d url) id ⟨hmutex, hphase, hrunning⟩
  | stopping restart => exact hstuck (.stop d restart) id ⟨hfree (by simp [hphase]), hphase⟩
  | finishing url => exact hstuck (.finish d url) id ⟨hfree (by simp [hphase]), hphase⟩
  | joining restart =>
    have hrunning := hsound.running_of_joining hphase
    by_cases hleft : ∀ r, s.thread = some r → r ∉ s.relays
    · exact hstuck (.joined d restart) id ⟨hphase, hleft⟩
    · simp only [not_forall, not_not] at hleft
      obtain ⟨r, -, hmem⟩ := hleft
      exact hstuck (.leave r) id ⟨hmem, hrunning⟩

/-! ## Runs -/

theorem turnOf_run (hrun : Trace TurnStep .constructed h s) : Sound s ∧ ∃ c, TurnOf c h s := by
  refine hrun.invariant_history (I := fun h s => Sound s ∧ ∃ c, TurnOf c h s) ?_
    ⟨sound_constructed, 0, turnOf_constructed⟩
  rintro h s ev t ⟨hsound, c, hs⟩ hstep
  obtain ⟨d, -, ht⟩ := hs.step hsound hstep
  exact ⟨sound_step hsound hstep.1, d, ht⟩

/-- The rest of a call, with no other one beginning. -/
theorem TurnOf.rest (hs : TurnOf c h s) (hsound : Sound s) {later : List Event}
    (hrun : Trace Step s later t) (hlater : ∀ ev ∈ later, ¬ IsCall ev) :
    Sound t ∧ TurnOf c (later ++ h) t ∧ later.length + work c t ≤ work c s := by
  induction hrun with
  | refl => exact ⟨hsound, hs, by simp⟩
  | @step later t u ev _ hl ih =>
    obtain ⟨hev, hlater⟩ := List.forall_mem_cons.mp hlater
    obtain ⟨hsound', ht, hlength⟩ := ih hlater
    obtain ⟨d, hd, hu⟩ := ht.step hsound' ⟨hl, fun hcall => absurd hcall hev⟩
    obtain rfl := hd hev
    have hwork := ht.work_lt hsound' hl hev
    refine ⟨sound_step hsound' hl, hu, ?_⟩
    rw [List.length_cons]
    omega

/-- Whatever callers that take turns do, and whenever the relay threads end: every step can be
taken and none ends the process; a call returns after five steps of its own and of the relay
thread at most; and between the calls the relayer is as if each call had been a single step, with
one relay thread when it runs and none when it does not. -/
theorem turns_exact (hrun : Trace TurnStep .constructed h s) :
    (∀ ev, Enabled s ev → ∃ t, perform ev s = some t) ∧
    (∀ later t, Trace Step s later t → (∀ ev ∈ later, ¬ IsCall ev) →
      later.length ≤ 5 ∧ ((∀ ev, ¬ IsCall ev → ¬ Enabled t ev) → ∀ c, t.call c = .idle)) ∧
    ((∀ c, s.call c = .idle) →
      s.view = h.foldr request ⟨false, []⟩ ∧ s.relays.length = (if s.running then 1 else 0) ∧
        s.thread = s.relays.head?) := by
  obtain ⟨hsound, c, hs⟩ := turnOf_run hrun
  refine ⟨fun ev hen => ?_, fun later t hlater hrest => ?_, fun hidle => ?_⟩
  · rw [perform_isSome_iff hsound hen]
    rintro ⟨⟨d, url, rfl⟩, hrunning⟩
    have hcall := hen.2
    obtain rfl := hs.eq_of_ne_idle (by rw [hcall]; simp)
    rw [hs.stopped url hcall] at hrunning
    cases hrunning
  · obtain ⟨hsound', ht, hlength⟩ := hs.rest hsound hlater hrest
    have hwork := hs.work_le hsound
    exact ⟨by omega, fun hstuck => ht.idle_of_stuck hsound' hstuck⟩
  · have hpending := hs.pending
    rw [hidle c] at hpending
    refine ⟨hpending, ?_⟩
    cases hsound.phase with
    | stopped _ hrunning hthread hrelays => simp [hrunning, hthread, hrelays]
    | relaying r _ hrunning hthread hrelays => simp [hrunning, hthread, hrelays]
    | joining d r hmutex =>
      obtain ⟨restart, hcall⟩ := (hsound.holder d).mp hmutex
      rw [hidle d] at hcall
      cases hcall

/-- A caller starts a relay and then another one, and the relay of the first has ended. -/
theorem turns_exact_restarting :
    let s := systemAfter restarting
    (∀ ev, Enabled s ev → ∃ t, perform ev s = some t) ∧
    (∀ later t, Trace Step s later t → (∀ ev ∈ later, ¬ IsCall ev) →
      later.length ≤ 5 ∧ ((∀ ev, ¬ IsCall ev → ¬ Enabled t ev) → ∀ c, t.call c = .idle)) ∧
    ((∀ c, s.call c = .idle) →
      s.view = restarting.foldr request ⟨false, []⟩ ∧
        s.relays.length = (if s.running then 1 else 0) ∧ s.thread = s.relays.head?) := by
  have hsection {s t : System} {ev : Event} (hstep : Step s ev t) (hev : ¬ IsCall ev) :
      TurnStep s ev t := ⟨hstep, fun hcall => absurd hcall hev⟩
  have hidle (c : Nat) : (systemAfter [.start 0 [1], .callStart 0 [1]]).call c = .idle := by
    change Function.update (Function.update (fun _ => Call.idle) 0 (.starting [1])) 0 .idle c = _
    rw [Function.update_idem, Function.update_eq_self_iff.mpr rfl]
  exact turns_exact (.step (.step (.step (.step (.step (.step (.step .refl
    ⟨⟨rfl, rfl⟩, fun _ _ => rfl⟩) (hsection ⟨⟨rfl, rfl, rfl⟩, rfl⟩ id))
    ⟨⟨rfl, rfl⟩, fun _ => hidle⟩)
    (hsection ⟨⟨rfl, rfl, rfl⟩, rfl⟩ id)) (hsection ⟨⟨rfl, rfl⟩, rfl⟩ id))
    (hsection ⟨⟨List.mem_cons_self .., rfl⟩, rfl⟩ id))
    (hsection ⟨⟨rfl, fun _ _ => List.not_mem_nil⟩, rfl⟩ id))

end CCTVWebServer.Relaying
