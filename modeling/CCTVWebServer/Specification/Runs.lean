import CCTVWebServer.Foundation.History
import CCTVWebServer.Specification.Routing

/-!
# Runs of the server

A run starts with `init` on a new database file. From then on requests are
dispatched one after the other, each however it ends, and at any time the process
may be started again on the file it left.
-/

namespace CCTVWebServer

open Foundation

variable {w : World} {s t : State}

/-- One dispatched request, with what was published for it. -/
structure Exchange where
  request : HttpRequestEvent
  published : List HttpResponseEvent

/-- The request was answered, and with status 200. -/
def Exchange.Ok (x : Exchange) : Prop := ∃ r, x.published = [r] ∧ r.statusCode = 200

/-- The state `t` that the dispatch of one request leaves. -/
def Served (w : World) (s : State) (x : Exchange) (t : State) : Prop :=
  ∃ self : ReplyServer, t = finalState (dispatch w record self x.request) s ∧
    t.published = s.published ++ x.published

/-- The responses that the dispatch of a request publishes. -/
def responses (w : World) (self : ReplyServer) (s : State) (e : HttpRequestEvent) :
    List HttpResponseEvent :=
  (finalState (dispatch w record self e) s).published.drop s.published.length

/-- Every request can be dispatched in every state. -/
theorem served_dispatch (hjson : w.json.Documented) (self : ReplyServer) (e : HttpRequestEvent)
    (s : State) :
    Served w s ⟨e, responses w self s e⟩ (finalState (dispatch w record self e) s) := by
  refine ⟨self, rfl, ?_⟩
  have hspec := dispatch_spec hjson self e s
  unfold responses finalState
  cases hrun : (dispatch w record self e).run s with
  | ok _ t =>
    obtain ⟨eff, r, ⟨n, rfl⟩, -⟩ := hspec.of_ok hrun
    simp
  | error fault t =>
    obtain ⟨⟨eff, ⟨n, rfl⟩, -⟩, -⟩ := hspec.of_error hrun
    simp [effect_apply_published]

theorem Served.responses_eq {x : Exchange} (h : Served w s x t) :
    ∃ self, x = ⟨x.request, responses w self s x.request⟩ ∧
      t = finalState (dispatch w record self x.request) s := by
  obtain ⟨self, rfl, hpublished⟩ := h
  refine ⟨self, ?_, rfl⟩
  rw [responses, hpublished, List.drop_left]

theorem responses_of_ok (hjson : w.json.Documented) {self : ReplyServer} {e : HttpRequestEvent}
    {r : HttpResponseEvent} (hrun : (respond w self e).run s = .ok r t) :
    responses w self s e = [r] := by
  obtain ⟨⟨eff, ⟨n, rfl⟩, -⟩, -⟩ := (respond_spec hjson self e s).of_ok hrun
  simp only [responses, finalState, dispatch_record, EStateM.run_bind, hrun]
  simp [record, effect_apply_published]

theorem responses_of_error (hjson : w.json.Documented) {self : ReplyServer} {e : HttpRequestEvent}
    {fault : Fault} (hrun : (respond w self e).run s = .error fault t) :
    responses w self s e = [] := by
  obtain ⟨⟨eff, ⟨n, rfl⟩, -⟩, -⟩ := (respond_spec hjson self e s).of_error hrun
  simp only [responses, finalState, dispatch_record, EStateM.run_bind, hrun]
  simp [effect_apply_published]

/-- The state differs by one effect, besides the traffic. -/
def Wrote (w : World) (s : State) (eff : Effect) (t : State) : Prop :=
  ∃ n p, t = { eff.apply w s with calls := n, published := p }

/-- Every exchange has one effect, together with the response that goes with it. When an
exception escaped, nothing was published, and a 500 would have gone with the effect. -/
theorem Served.effect (hjson : w.json.Documented) {x : Exchange} (h : Served w s x t) :
    ∃ eff r, Wrote w s eff t ∧ Answer w s x.request eff r ∧
      (x.published = [r] ∨ x.published = [] ∧ r.statusCode = 500) := by
  obtain ⟨self, ht, hpublished⟩ := h
  have hspec := dispatch_spec hjson self x.request s
  unfold finalState at ht
  cases hrun : (dispatch w record self x.request).run s with
  | ok _ u =>
    obtain ⟨eff, r, ⟨n, rfl⟩, hanswer, -⟩ := hspec.of_ok hrun
    rw [hrun] at ht
    subst ht
    exact ⟨eff, r, ⟨n, _, rfl⟩, hanswer, .inl (List.append_cancel_left hpublished).symm⟩
  | error fault u =>
    obtain ⟨⟨eff, ⟨n, rfl⟩, hanswer⟩, -⟩ := hspec.of_error hrun
    rw [hrun] at ht
    subst ht
    have hnil : s.published ++ [] = s.published ++ x.published := by
      rw [← hpublished, List.append_nil]
      exact (effect_apply_published eff).symm
    exact ⟨eff, ⟨0, 500, []⟩, ⟨n, _, rfl⟩, hanswer _ rfl,
      .inr ⟨(List.append_cancel_left hnil).symm, rfl⟩⟩

/-! ## Starting the process -/

/-- The users table after `bootstrapAdmin`. -/
def Bootstrapped (w : World) (key : Bytes) (old new : UsersTable) : Prop :=
  (∃ row, AdminRow w key row ∧ old.insert row = some new) ∨
    (new = old ∧ (SqliteFails w ∨ old.find (w.userKey (str "admin")) ≠ none))

/-- The process after `init`. -/
def Started (w : World) (file : DatabaseFile) (dbPath masterSecret : Bytes) (t : State) : Prop :=
  ∃ users n, Bootstrapped w (w.sha256Digest masterSecret) file.users users ∧
    t = { State.started n with
      dbPath := dbPath
      key := w.sha256Digest masterSecret
      users := users
      rtspConfig := file.rtspConfig }

theorem executeQuery_id_spec (sql : Bytes) (s : State) :
    Ensures (executeQuery w sql id) s (fun _ t => Idle s t) (fun _ _ => True) := by
  simp only [executeQuery, ensures_bind, outside, ensures_focus, ensures_nextCall, ensures_ite,
    ensures_modify, ensures_throw]
  exact ⟨fun _ => ⟨s.calls + 1, rfl⟩, fun _ => trivial⟩

theorem init_spec (stored : Bytes → DatabaseFile) (dbPath masterSecret : Bytes) (n : Nat) :
    Ensures (init w stored dbPath masterSecret) (State.started n)
      (fun _ t => Started w (stored dbPath) dbPath masterSecret t) (fun _ _ => True) := by
  simp only [init, ensures_bind, outside, ensures_focus, ensures_nextCall, ensures_ite,
    ensures_modify, ensures_throw]
  refine ⟨fun _ => trivial, fun _ => ?_⟩
  refine (deriveKey_yields masterSecret _).mono ?_ fun _ _ _ => trivial
  rintro _ m rfl
  refine (executeQuery_id_spec _ _).mono ?_ fun _ _ => id
  rintro _ u hu
  refine (executeQuery_id_spec _ u).mono ?_ fun _ _ => id
  rintro _ v hv
  obtain ⟨k, rfl⟩ := hu.trans hv
  refine (bootstrapAdmin_spec _).mono ?_ fun _ _ _ => trivial
  rintro _ t (⟨row, hrow, users, m, hins, rfl⟩ | ⟨⟨m, rfl⟩, hwhy⟩)
  · exact ⟨users, m, .inl ⟨row, hrow, hins⟩, rfl⟩
  · exact ⟨_, m, .inr ⟨rfl, hwhy⟩, rfl⟩

/-! ## Runs -/

/-- What can happen to a server. -/
inductive Label where
  | request (x : Exchange)
  | restart

/-- One step: a request, or a start of the process on the tables it finds. -/
inductive Transition (w : World) (dbPath masterSecret : Bytes) : State → Label → State → Prop where
  | request {s t : State} {x : Exchange} (h : Served w s x t) :
      Transition w dbPath masterSecret s (.request x) t
  | restart {s t : State} {n : Nat}
      (h : (init w (fun _ => ⟨s.users, s.rtspConfig⟩) dbPath masterSecret).run (State.started n) =
        .ok () t) : Transition w dbPath masterSecret s .restart t

/-- The process has been started on a new database file. -/
def Fresh (w : World) (dbPath masterSecret : Bytes) (s : State) : Prop :=
  ∃ n, (init w (fun _ => DatabaseFile.new) dbPath masterSecret).run (State.started n) = .ok () s

def Reachable (w : World) (dbPath masterSecret : Bytes) (t : State) : Prop :=
  ∃ s h, Fresh w dbPath masterSecret s ∧ Trace (Transition w dbPath masterSecret) s h t

end CCTVWebServer
