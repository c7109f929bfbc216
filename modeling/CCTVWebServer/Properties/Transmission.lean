import CCTVWebServer.HttpServer
import CCTVWebServer.ReplyServer

/-!
# The bytes of a response

`writeResponse` puts a body into an envelope of its own, unless the handlers have
built one with `makeHttpResponse`, and hands the bytes to one call of `write`. The
envelope repeats the status code, and one call may take less than the whole.
-/

namespace CCTVWebServer.HttpServer

/-! ## The envelope -/

/-- The status codes of the server, with their standard reason phrases. -/
def reasonPhrases : List (Int × String) :=
  [(200, "OK"), (400, "Bad Request"), (401, "Unauthorized"), (403, "Forbidden"),
    (404, "Not Found"), (500, "Internal Server Error")]

/-- The text is a response with this status line, some headers and this body. -/
def FramedAs (text : Bytes) (statusCode : Int) (reason : String) (body : Bytes) : Prop :=
  ∃ headers, text = str "HTTP/1.1 " ++ decimal statusCode ++ str " " ++ str reason ++ str "\r\n"
    ++ headers ++ str "\r\n" ++ body

theorem framedAs_makeHttpResponse (statusCode : Int) (reason : String) (mime body : Bytes) :
    FramedAs (makeHttpResponse statusCode reason mime body) statusCode reason body :=
  ⟨str "Content-Type: " ++ mime ++ str "\r\n" ++ str "Content-Length: " ++ decimal body.length
    ++ str "\r\n" ++ str "Connection: close\r\n", by
    simp only [makeHttpResponse, List.append_assoc, List.append_nil]⟩

theorem FramedAs.length_lt {text body : Bytes} {statusCode : Int} {reason : String}
    (h : FramedAs text statusCode reason body) : body.length < text.length := by
  have hstart : (str "HTTP/1.1 ").length = 9 := by decide
  obtain ⟨headers, rfl⟩ := h
  simp only [List.length_append, hstart]
  omega

/-- The envelope is that of `makeHttpResponse`, with the code repeated in the reason phrase. -/
theorem responseText_eq_makeHttpResponse {e : HttpResponseEvent}
    (hraw : ¬ StartsWith e.body (str "HTTP/1.1")) :
    responseText e = makeHttpResponse e.statusCode (statusText e.statusCode)
      (str (contentType e.body)) e.body := by
  have hend : str "Connection: close\r\n\r\n" = str "Connection: close\r\n" ++ str "\r\n" := by
    decide
  simp only [responseText, if_neg hraw, makeHttpResponse, hend, List.append_assoc,
    List.append_nil]

/-- No standard reason phrase starts as the text of `writeResponse` does. -/
theorem statusText_append_ne {code : Int} {reason : String} (h : (code, reason) ∈ reasonPhrases)
    (a b : Bytes) : str (statusText code) ++ a ≠ str reason ++ b := by
  have hheads : ∀ r ∈ reasonPhrases, (str (statusText r.1)).head? ≠ (str r.2).head? ∧
      str (statusText r.1) ≠ [] ∧ str r.2 ≠ [] := by
    decide
  obtain ⟨hhead, hstatus, hreason⟩ := hheads _ h
  intro heq
  have hsame := congrArg List.head? heq
  rw [List.head?_append_of_ne_nil _ hstatus, List.head?_append_of_ne_nil _ hreason] at hsame
  exact hhead hsame

/-- Whatever the body, what `writeResponse` sends is not a response with the code, its reason
phrase and the body, and so not the bytes of `makeHttpResponse`. -/
theorem responseText_not_framedAs (connId code : Int) (reason : String) (body : Bytes)
    (h : (code, reason) ∈ reasonPhrases) :
    ¬ FramedAs (responseText ⟨connId, code, body⟩) code reason body ∧
      responseText ⟨connId, code, body⟩ ≠
        makeHttpResponse code reason (str (contentType body)) body := by
  have hframed : ¬ FramedAs (responseText ⟨connId, code, body⟩) code reason body := by
    by_cases hraw : StartsWith body (str "HTTP/1.1")
    · intro hframed
      have hlength := hframed.length_lt
      rw [responseText, if_pos hraw] at hlength
      exact absurd hlength (lt_irrefl _)
    · rintro ⟨headers, heq⟩
      rw [responseText_eq_makeHttpResponse hraw] at heq
      simp only [makeHttpResponse, List.append_assoc, List.append_cancel_left_eq] at heq
      exact statusText_append_ne h _ _ heq
  refine ⟨hframed, fun heq => hframed ?_⟩
  rw [heq]
  exact framedAs_makeHttpResponse code reason _ body

theorem responseText_not_framedAs_notFound :
    ¬ FramedAs (responseText ⟨1, 404, str "no such page"⟩) 404 "Not Found" (str "no such page") ∧
      responseText ⟨1, 404, str "no such page"⟩ ≠
        makeHttpResponse 404 "Not Found" (str (contentType (str "no such page")))
          (str "no such page") :=
  responseText_not_framedAs 1 404 "Not Found" (str "no such page") (by simp [reasonPhrases])

/-- The handler of `/health` is answered with the code twice in the status line. -/
theorem health_not_framed :
    (∃ handler, ReplyServer.controller.handlers.lookup (str "/health") = some handler ∧
      ∀ e, handler e = .ok ⟨0, 200, str "OK"⟩) ∧
    responseText ⟨0, 200, str "OK"⟩ =
      str "HTTP/1.1 200 200 OK\r\nContent-Type: application/json\r\n"
        ++ str "Content-Length: 2\r\nConnection: close\r\n\r\nOK" ∧
    responseText ⟨0, 200, str "OK"⟩ ≠
      makeHttpResponse 200 "OK" (str (contentType (str "OK"))) (str "OK") :=
  ⟨⟨_, rfl, fun _ => rfl⟩, by decide, by decide⟩

/-! ## The write -/

/-- Unless a call of the transmission fails hard, the whole response has been taken when the
descriptor is closed. -/
def SentWhole (e : HttpResponseEvent) (outcome : Nat → WriteOutcome) : Prop :=
  let d := transmit e (.released outcome)
  (∀ k < d.calls, outcome k ≠ .fails) → d.closed = true ∧ d.accepted = responseText e

@[simp] theorem Descriptor.calls_write (data : Bytes) (d : Descriptor) :
    (d.write data).2.calls = d.calls + 1 := by
  unfold Descriptor.write
  cases d.outcome d.calls <;> rfl

/-- `writeResponse` calls once and closes. -/
theorem transmit_calls (e : HttpResponseEvent) (outcome : Nat → WriteOutcome) :
    (transmit e (.released outcome)).calls = 1 ∧ (transmit e (.released outcome)).closed = true :=
  ⟨Descriptor.calls_write _ _, rfl⟩

/-- What the client gets is what that one call takes. -/
theorem transmit_accepted (e : HttpResponseEvent) (outcome : Nat → WriteOutcome) :
    (transmit e (.released outcome)).accepted =
      match outcome 0 with
      | .accepts n _ => (responseText e).take n
      | .wouldBlock | .fails => [] := by
  simp only [transmit, Descriptor.close, Descriptor.write, Descriptor.released]
  cases outcome 0 <;> rfl

theorem responseText_ne_nil (e : HttpResponseEvent) : responseText e ≠ [] := by
  have hstart : (str "HTTP/1.1").length = 8 := by decide
  intro hnil
  by_cases hraw : StartsWith e.body (str "HTTP/1.1")
  · have hlength := hraw.length_le
    rw [responseText, if_pos hraw] at hnil
    rw [hnil, hstart] at hlength
    exact absurd hlength (by decide)
  · rw [responseText_eq_makeHttpResponse hraw] at hnil
    have hframed := framedAs_makeHttpResponse e.statusCode (statusText e.statusCode)
      (str (contentType e.body)) e.body
    rw [hnil] at hframed
    exact absurd hframed.length_lt (Nat.not_lt_zero _)

/-- A response is sent whole exactly when the first call fails hard or takes all of it. -/
theorem sentWhole_iff (e : HttpResponseEvent) (outcome : Nat → WriteOutcome) :
    SentWhole e outcome ↔
      outcome 0 = .fails ∨ ∃ n hpos, outcome 0 = .accepts n hpos ∧ (responseText e).length ≤ n := by
  obtain ⟨hcalls, hclosed⟩ := transmit_calls e outcome
  have haccepted := transmit_accepted e outcome
  have hfirst : (∀ k < 1, outcome k ≠ .fails) ↔ outcome 0 ≠ .fails := by simp
  simp only [SentWhole, hcalls, hclosed, true_and, hfirst]
  cases hout : outcome 0 with
  | fails => simp
  | wouldBlock =>
    simp only [hout] at haccepted
    simp only [haccepted, ne_eq, reduceCtorEq, not_false_eq_true, forall_const, false_and,
      exists_false, or_false, iff_false]
    exact (responseText_ne_nil e).symm
  | accepts n hpos =>
    simp only [hout] at haccepted
    rw [haccepted, List.take_eq_self_iff]
    constructor
    · intro h
      exact .inr ⟨n, hpos, rfl, h WriteOutcome.noConfusion⟩
    · rintro (hfails | ⟨m, hm, heq, hle⟩) -
      · cases hfails
      · cases heq
        exact hle

/-- A response of which the first call takes one byte: the client gets that byte. -/
theorem short_write_not_sentWhole :
    (transmit ⟨0, 200, str "OK"⟩ (.released fun _ => .accepts 1 Nat.one_pos)).accepted = str "H" ∧
      ¬ SentWhole ⟨0, 200, str "OK"⟩ fun _ => .accepts 1 Nat.one_pos := by
  refine ⟨by decide, fun h => ?_⟩
  have hwhole := (h fun _ _ => WriteOutcome.noConfusion).2
  exact absurd hwhole (by decide)

end CCTVWebServer.HttpServer
