import CCTVWebServer.EventBus
import CCTVWebServer.Reference
import CCTVWebServer.Specification.TwoRuns

/-!
# The mutex of the event bus

`dispatch` runs inside `publish` and publishes its response on the same bus. The
nested call asks for the mutex its thread holds, so the only requests that do not
deadlock are those that nobody answers.
-/

namespace CCTVWebServer

open Foundation

variable {w : World} {bus : EventBus} {thread : Nat} {s : State} {e : HttpRequestEvent}

/-- No lock is asked for by the thread that holds it. -/
def LocksOnce (w : World) (bus : EventBus) (thread : Nat) (s : State) (e : HttpRequestEvent) :
    Prop :=
  ∀ t, (bus.publishRequest w thread e).run s ≠ .error .deadlock t

/-- The nested publication never gets the mutex. -/
theorem run_publishResponse_of_owner (hs : s.busOwner = some thread) (r : HttpResponseEvent) :
    (bus.publishResponse thread r).run s = .error .deadlock s := by
  simp only [EventBus.publishResponse, EventBus.publish, EventBus.lock, EStateM.run_bind,
    EStateM.run_get, hs, if_true]
  rfl

theorem endpoints_busOwner (hjson : w.json.Documented) (e : HttpRequestEvent) (s : State) :
    Ensures (endpoints w e) s (fun _ t => t.busOwner = s.busOwner) (fun _ _ => True) := by
  refine (endpoints_spec hjson e s).mono ?_ fun _ _ _ => trivial
  rintro (_ | r) t hanswered
  · obtain ⟨⟨n, rfl⟩, -⟩ := hanswered
    rfl
  · obtain ⟨eff, ⟨n, rfl⟩, -⟩ := hanswered
    exact effect_apply_busOwner eff

/-- A dispatch by the thread that holds the bus deadlocks, unless an exception escapes
before anything is published. -/
theorem run_dispatch_of_owner (hjson : w.json.Documented) (bus : EventBus) (self : ReplyServer)
    (hs : s.busOwner = some thread) :
    (¬ Escapes w self s e ∧
      ∃ t, (dispatch w (bus.publishResponse thread) self e).run s = .error .deadlock t) ∨
    (Escapes w self s e ∧
      ∃ what t, (dispatch w (bus.publishResponse thread) self e).run s =
        .error (.exception what) t) := by
  have hpublish (r : HttpResponseEvent) (t : State) (fault : Fault) (u : State)
      (ht : t.busOwner = some thread)
      (herror : (bus.publishResponse thread r).run t = .error fault u) : fault = .deadlock := by
    rw [run_publishResponse_of_owner ht] at herror
    cases herror
    rfl
  rw [run_dispatch_eq hpublish self
    ((endpoints_busOwner hjson e s).mono (fun _ _ h => h.trans hs) fun _ _ => id), EStateM.run_bind]
  have hspec := respond_spec hjson self e s
  cases hrun : (respond w self e).run s with
  | ok r t =>
    left
    obtain ⟨⟨eff, ⟨n, rfl⟩, -⟩, -⟩ := hspec.of_ok hrun
    refine ⟨fun hescapes => ?_, _, run_publishResponse_of_owner ?_ r⟩
    · obtain ⟨what, u, herror⟩ := hescapes.run_respond hjson
      rw [hrun] at herror
      cases herror
    · exact (effect_apply_busOwner eff).trans hs
  | error fault t =>
    right
    obtain ⟨-, ⟨what, rfl⟩, hescapes⟩ := hspec.of_error hrun
    exact ⟨hescapes, what, t, rfl⟩

/-- Publishing a request deadlocks, unless there is no reply server, or the first one lets
an exception escape before it publishes. -/
theorem locksOnce_iff (hjson : w.json.Documented) (bus : EventBus) (thread : Nat)
    (hs : s.busOwner = none) (e : HttpRequestEvent) :
    LocksOnce w bus thread s e ↔
      ∀ self rest, bus.replyServers = self :: rest → Escapes w self s e := by
  have hlock : (EventBus.lock thread).run s = .ok () { s with busOwner := some thread } := by
    simp only [EventBus.lock, EStateM.run_bind, EStateM.run_get, hs]
    rfl
  unfold LocksOnce EventBus.publishRequest EventBus.publish
  simp only [EStateM.run_bind, hlock, run_tryCatch]
  cases hservers : bus.replyServers with
  | nil =>
    constructor
    · intro _ self rest h
      cases h
    · intro _ t h
      cases h
  | cons self rest =>
    simp only [List.map_cons, List.forM, EStateM.run_bind]
    rcases run_dispatch_of_owner (s := { s with busOwner := some thread }) (e := e)
      hjson bus self rfl with ⟨hstays, t, hrun⟩ | ⟨hescapes, what, t, hrun⟩
    · simp only [hrun]
      constructor
      · intro h
        exact absurd rfl (h t)
      · intro h
        exact absurd ((h self rest rfl).setOwner (some thread)) hstays
    · simp only [hrun]
      constructor
      · intro _ self' rest' heq
        cases heq
        have hback := hescapes.setOwner s.busOwner
        exact hback
      · intro _ u h
        cases h

/-- The bus of the running process. -/
def Reference.eventBus : EventBus := ⟨[.controller], [record]⟩

theorem locksOnce_iff_reference :
    LocksOnce Reference.world Reference.eventBus 0 Reference.start Reference.loginAdmin ↔
      ∀ self rest, Reference.eventBus.replyServers = self :: rest →
        Escapes Reference.world self Reference.start Reference.loginAdmin :=
  locksOnce_iff Reference.json_documented _ _ rfl _

/-- A request without a session is answered 401, and the answer is never published. -/
theorem listUsers_not_locksOnce :
    Reachable Reference.world Reference.dbPath Reference.masterSecret Reference.start ∧
      Reference.start.busOwner = none ∧
      ¬ LocksOnce Reference.world Reference.eventBus 0 Reference.start
        (Reference.get "/api/users" []) :=
  ⟨Reference.start_reachable, rfl, fun h => h _ rfl⟩

end CCTVWebServer
