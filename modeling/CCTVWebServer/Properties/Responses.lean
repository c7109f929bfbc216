import CCTVWebServer.Reference

/-!
# Every request is answered

Whether the dispatch of a request publishes one response, to the connection that
asked, and whether an exception can leave it. Both fail on inputs that a client
can send, and both conditions below are exact.
-/

namespace CCTVWebServer

open Foundation

variable {w : World} {self : ReplyServer} {s : State} {e : HttpRequestEvent}

/-! ## The connection that asked -/

/-- When the dispatch returns, it has published one response, with the sender's id. -/
def AnswersSender (w : World) (self : ReplyServer) (s : State) (e : HttpRequestEvent) : Prop :=
  ∀ t, (dispatch w record self e).run s = .ok () t →
    ∃ r, t.published = s.published ++ [r] ∧ r.connId = e.connId

theorem run_dispatch_record {r : HttpResponseEvent} {t : State}
    (h : (respond w self e).run s = .ok r t) :
    (dispatch w record self e).run s = .ok () { t with published := t.published ++ [r] } := by
  rw [dispatch_record, EStateM.run_bind, h]
  rfl

/-- The answer of a registered handler is published as it is. -/
theorem HandlerGives.run_dispatch (hjson : w.json.Documented) (hthrough : FallsThrough w s e)
    {r : HttpResponseEvent} (h : HandlerGives self e (.ok r)) :
    ∃ t, (dispatch w record self e).run s = .ok () t ∧ t.published = s.published ++ [r] := by
  obtain ⟨t, hrun⟩ := hthrough.run_respond self
  rw [h.run_fallbackEvent] at hrun
  obtain ⟨⟨eff, ⟨n, rfl⟩, -⟩, -⟩ := (respond_spec hjson self e s).of_ok hrun
  exact ⟨_, run_dispatch_record hrun, by simp only [effect_apply_published]⟩

/-- The response goes back to the sender exactly when the request does not fall through to
a registered handler, or that handler copies the id of the request. -/
theorem answersSender_iff (hjson : w.json.Documented) (self : ReplyServer) (s : State)
    (e : HttpRequestEvent) :
    AnswersSender w self s e ↔
      (FallsThrough w s e → ∀ r, HandlerGives self e (.ok r) → r.connId = e.connId) := by
  constructor
  · intro h hthrough r hgives
    obtain ⟨t, hrun, hpublished⟩ := hgives.run_dispatch hjson hthrough
    obtain ⟨r', hpublished', hconn⟩ := h t hrun
    have hsame : [r] = [r'] := List.append_cancel_left (hpublished.symm.trans hpublished')
    rwa [List.singleton_inj.mp hsame]
  · intro h t hrun
    obtain ⟨eff, r, ⟨n, rfl⟩, -, hconn⟩ := (dispatch_spec hjson self e s).of_ok hrun
    refine ⟨r, rfl, ?_⟩
    rcases hconn with hconn | ⟨hthrough, hgives⟩
    · exact hconn
    · exact h hthrough r hgives

theorem answersSender_iff_reference :
    AnswersSender Reference.world .controller Reference.start Reference.loginAdmin ↔
      (FallsThrough Reference.world Reference.start Reference.loginAdmin →
        ∀ r, HandlerGives .controller Reference.loginAdmin (.ok r) → r.connId = 1) :=
  answersSender_iff Reference.json_documented _ _ _

/-- The handler that the controller installs answers connection 0. -/
theorem health_not_answersSender :
    Reachable Reference.world Reference.dbPath Reference.masterSecret Reference.start ∧
      ¬ AnswersSender Reference.world .controller Reference.start
        (Reference.get "/health" []) := by
  refine ⟨Reference.start_reachable, fun h => ?_⟩
  obtain ⟨r, hpublished, hconn⟩ := h _ rfl
  have hr : [⟨0, 200, str "OK"⟩] = [r] := hpublished
  rw [← List.singleton_inj.mp hr] at hconn
  exact absurd hconn (by decide)

/-! ## Exceptions -/

/-- The `try` block of the dispatch raises. -/
def Raises (w : World) (s : State) (e : HttpRequestEvent) : Prop :=
  ¬ ServesFile w e ∧ ∃ fault t, (endpoints w e).run s = .error fault t

/-- The dispatch returns with one response published, which reports an error when the `try`
block raised. -/
def Contained (w : World) (self : ReplyServer) (s : State) (e : HttpRequestEvent) : Prop :=
  ∃ r t, (dispatch w record self e).run s = .ok () t ∧ t.published = s.published ++ [r] ∧
    (Raises w s e → r.statusCode = 500)

theorem Raises.statusCode (hjson : w.json.Documented) (h : Raises w s e) {r : HttpResponseEvent}
    {t : State} (hrun : (respond w self e).run s = .ok r t) : r.statusCode = 500 := by
  obtain ⟨hfile, fault, u, hraises⟩ := h
  obtain ⟨-, what, rfl, -⟩ := (endpoints_spec hjson e s).of_error hraises
  simp only [respond, staticReply_eq_none.mpr hfile, endpointEvent, EStateM.run_bind, run_tryCatch,
    hraises, ← bind_pure_comp] at hrun
  by_cases hvalid : Utf8.valid what = true
  · obtain ⟨body, hreply⟩ := run_reply_of_valid (e := e) hjson hvalid u
    rw [hreply] at hrun
    cases hrun
    rfl
  · obtain ⟨text, hreply⟩ := run_reply_of_invalid (e := e) hjson hvalid u
    rw [hreply] at hrun
    cases hrun

theorem Unreportable.run_dispatch (hjson : w.json.Documented) (self : ReplyServer)
    (h : Unreportable w s e) :
    ∃ what t, (dispatch w record self e).run s = .error (.exception what) t := by
  obtain ⟨what, t, hrun⟩ := h.run_respond hjson self
  exact ⟨what, t, by rw [dispatch_record, EStateM.run_bind, hrun]⟩

/-- With handlers that do not throw, an exception escapes exactly when the parser rejects
the body and quotes bytes that are not well-formed UTF-8. -/
theorem contained_iff (hjson : w.json.Documented)
    (hhandlers : ∀ url handler, self.handlers.lookup url = some handler →
      ∀ e, ∃ r, handler e = .ok r) (s : State) (e : HttpRequestEvent) :
    Contained w self s e ↔ ¬ Unreportable w s e := by
  constructor
  · rintro ⟨r, t, hrun, -⟩ hbad
    obtain ⟨what, u, herror⟩ := hbad.run_dispatch hjson self
    rw [hrun] at herror
    cases herror
  · intro hgood
    have hspec := respond_spec hjson self e s
    cases hrun : (respond w self e).run s with
    | ok r t =>
      obtain ⟨⟨eff, ⟨n, rfl⟩, -⟩, -⟩ := hspec.of_ok hrun
      exact ⟨r, _, run_dispatch_record hrun, by simp only [effect_apply_published],
        fun h => h.statusCode hjson hrun⟩
    | error fault t =>
      rcases (hspec.of_error hrun).2.2 with hbad | ⟨-, what, handler, hlookup, herror⟩
      · exact absurd hbad hgood
      · obtain ⟨r, hr⟩ := hhandlers _ handler hlookup e
        rw [hr] at herror
        cases herror

theorem controller_returns (url : Bytes) (handler : Handler)
    (h : ReplyServer.controller.handlers.lookup url = some handler) (e : HttpRequestEvent) :
    ∃ r, handler e = .ok r := by
  by_cases hurl : url = str "/health"
  · subst hurl
    cases h
    exact ⟨_, rfl⟩
  · rw [ReplyServer.controller, ReplyServer.addReplyer, AList.lookup_insert_ne hurl] at h
    cases h

theorem contained_iff_reference :
    Contained Reference.world .controller Reference.start Reference.loginAdmin ↔
      ¬ Unreportable Reference.world Reference.start Reference.loginAdmin :=
  contained_iff Reference.json_documented controller_returns _ _

/-- A login whose body is the byte 0xFF ends in an exception that leaves the dispatch. -/
theorem login_not_contained :
    Reachable Reference.world Reference.dbPath Reference.masterSecret Reference.start ∧
      ¬ Contained Reference.world .controller Reference.start
        (Reference.post "/api/login" [0xFF] []) := by
  refine ⟨Reference.start_reachable, ?_⟩
  rintro ⟨r, t, hrun, -⟩
  have hbad : Unreportable Reference.world Reference.start
      (Reference.post "/api/login" [0xFF] []) :=
    ⟨.inr (.inl ⟨rfl, rfl⟩), _, rfl, by decide⟩
  obtain ⟨what, u, herror⟩ := hbad.run_dispatch Reference.json_documented .controller
  rw [hrun] at herror
  cases herror

end CCTVWebServer
