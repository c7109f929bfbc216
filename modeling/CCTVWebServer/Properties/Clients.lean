import CCTVWebServer.Properties.Browsers
import CCTVWebServer.Properties.Connections

/-!
# The clients of the server

The connections of `HttpServer` and the dispatch of `ReplyServer` put together. Any number of
clients are served at the same time, and still their requests take effect one after the
other: there is one order of all requests, and every client reads the answer of the server
to its own request at its place in this order.
-/

namespace CCTVWebServer

open Foundation HttpServer

variable {w : World} {dbPath masterSecret : Bytes}

/-! ## The front of the server -/

/-- The connections, the server behind them, and what the sessions have read. -/
structure Front where
  system : System
  server : State
  request : Nat → Option HttpRequestEvent
  /-- The sessions whose request has been dispatched with the exchange, newest first. -/
  log : List (Nat × Exchange)

/-- The accept loop has been posted. -/
def Front.posted (s : State) : Front := ⟨.posted, s, fun _ => none, []⟩

/-- A prompt step. A request is stored under the number of its session, and it is dispatched
where its response is looked up. The response is the only one and has the number. -/
inductive Front.Step (w : World) (dbPath masterSecret : Bytes) : Front → HttpServer.Event →
    Front → Prop where
  | store {f : Front} {i : Nat} {e : HttpRequestEvent} (hen : Enabled f.system (.store i))
      (hprompt : Prompt f.system (.store i)) (hconnId : e.connId = (f.system.session i).connId) :
      Step w dbPath masterSecret f (.store i)
        { f with
          system := HttpServer.store i f.system
          request := Function.update f.request i (some e) }
  | respond {f : Front} {i : Nat} {e : HttpRequestEvent} {r : HttpResponseEvent} {t : State}
      (hen : Enabled f.system (.respond i r)) (hread : f.request i = some e)
      (hserver : StepOf w .controller dbPath masterSecret f.server (.request ⟨e, [r]⟩) t) :
      Step w dbPath masterSecret f (.respond i r)
        { f with
          system := HttpServer.respond i r f.system
          server := t
          log := (i, ⟨e, [r]⟩) :: f.log }
  | other {f : Front} {ev : HttpServer.Event} (hen : Enabled f.system ev)
      (hprompt : Prompt f.system ev) (hstore : ∀ i, ev ≠ .store i)
      (hrespond : ∀ i r, ev ≠ .respond i r) :
      Step w dbPath masterSecret f ev { f with system := perform ev f.system }

/-! ## Responses and phases -/

/-- The response of a request that has been dispatched. -/
def HttpServer.Phase.response : Phase → Option HttpResponseEvent
  | .writing _ e | .closing _ e | .answered e => some e
  | _ => none

variable {sys : System} {i : Nat} {r : HttpResponseEvent}

theorem response_setPhase (phase : Phase)
    (h : phase.response = (sys.session i).phase.response) (j : Nat) :
    ((sys.setPhase i phase).session j).phase.response = (sys.session j).phase.response := by
  by_cases hj : j = i
  · subst hj
    rw [phase_setPhase, h]
  · rw [session_setPhase_of_ne sys phase hj]

/-- Only the lookup of a response changes which response a session has. -/
theorem response_perform (hs : Sound sys) {ev : HttpServer.Event} (hen : Enabled sys ev)
    (hrespond : ∀ i r, ev ≠ .respond i r) (j : Nat) :
    ((perform ev sys).session j).phase.response = (sys.session j).phase.response := by
  cases ev with
  | accept fd =>
    by_cases hj : j = sys.accepted
    · subst hj
      have hgone := hs.fresh sys.accepted le_rfl
      simp [perform, HttpServer.accept, hgone, Phase.response]
    · simp [perform, HttpServer.accept, hj]
  | drop i =>
    have hnone : (sys.session i).phase.response = none := by
      rcases hen with hphase | hphase <;> rw [hphase] <;> rfl
    exact response_setPhase .gone hnone.symm j
  | upgrade i =>
    have hphase : (sys.session i).phase = .reading := hen
    exact response_setPhase .upgraded (by rw [hphase]; rfl) j
  | store i =>
    have hphase : (sys.session i).phase = .reading := hen
    exact response_setPhase .stored (by rw [hphase]; rfl) j
  | subscribe => rfl
  | publish i =>
    have hphase : (sys.session i).phase = .stored := hen.2
    simp only [perform, HttpServer.publish]
    split
    · exact response_setPhase .dispatching (by rw [hphase]; rfl) j
    · exact response_setPhase .unanswered (by rw [hphase]; rfl) j
  | respond i r => exact absurd rfl (hrespond i r)
  | write i fd e =>
    have hphase : (sys.session i).phase = .writing fd e := hen
    have hbefore (k : Nat) : ((sys.useDescriptor fd (.write (responseText e))).session k).phase =
        (sys.session k).phase := by simp
    rw [← hbefore j]
    exact response_setPhase (.closing fd e) (by rw [hbefore, hphase]; rfl) j
  | close i fd e =>
    have hphase : (sys.session i).phase = .closing fd e := hen
    have hbefore (k : Nat) : (((sys.useDescriptor fd .close).free fd).session k).phase =
        (sys.session k).phase := phase_useDescriptor sys k fd .close
    rw [← hbefore j]
    exact response_setPhase (.answered e) (by rw [hbefore, hphase]; rfl) j

/-- The session of a response that is looked up has it, since its entry is in the table. -/
theorem response_respond (hs : HttpServer.Served sys) (hen : Enabled sys (.respond i r))
    (j : Nat) :
    ((HttpServer.respond i r sys).session j).phase.response =
      if j = i then some r else (sys.session j).phase.response := by
  obtain ⟨hphase, hconnId⟩ := hen
  have hentry := (hs.session i).entry (by rw [hphase]; rfl)
  simp only [HttpServer.respond, hconnId, hentry]
  by_cases hj : j = i
  · subst hj
    simp only [if_true]
    exact congrArg Phase.response (phase_setPhase sys j _)
  · rw [if_neg hj]
    exact congrArg (fun o => o.phase.response) (session_setPhase_of_ne sys _ hj)

/-! ## The order of the requests -/

/-- What holds of every front that is reached: the log is a run of the server, and the
sessions with a response are those in it, each once and with its own request. -/
structure Front.Sound (w : World) (dbPath masterSecret : Bytes) (s : State) (f : Front) :
    Prop where
  sound : HttpServer.Sound f.system
  served : HttpServer.Served f.system
  run : Trace (StepOf w .controller dbPath masterSecret) s
    (f.log.map fun entry => .request entry.2) f.server
  once : (f.log.map Prod.fst).Nodup
  logged : ∀ i x, (i, x) ∈ f.log → f.request i = some x.request ∧
    ∃ r, x.published = [r] ∧ (f.system.session i).phase.response = some r
  responded : ∀ i r, (f.system.session i).phase.response = some r →
    ∃ e, (i, ⟨e, [r]⟩) ∈ f.log

variable {s : State} {f g : Front} {ev : HttpServer.Event}

theorem Front.sound_posted (s : State) :
    Front.Sound w dbPath masterSecret s (Front.posted s) where
  sound := HttpServer.sound_posted
  served := served_posted
  run := .refl
  once := List.nodup_nil
  logged _ _ h := absurd h List.not_mem_nil
  responded i r h := by
    cases h

/-- The system alone takes the step. -/
theorem Front.Step.system (h : Front.Step w dbPath masterSecret f ev g) :
    Enabled f.system ev ∧ Prompt f.system ev ∧ g.system = perform ev f.system := by
  cases h with
  | store hen hprompt => exact ⟨hen, hprompt, rfl⟩
  | respond hen => exact ⟨hen, trivial, rfl⟩
  | other hen hprompt => exact ⟨hen, hprompt, rfl⟩

theorem Front.Sound.step (hf : Front.Sound w dbPath masterSecret s f)
    (h : Front.Step w dbPath masterSecret f ev g) : Front.Sound w dbPath masterSecret s g := by
  obtain ⟨hen, hprompt, hsystem⟩ := h.system
  have hsound : HttpServer.Sound g.system := hsystem ▸ sound_step hf.sound hen
  have hserved : HttpServer.Served g.system :=
    hsystem ▸ (served_step_iff hf.sound hf.served hen).mpr hprompt
  cases h with
  | @store i e _ _ hconnId =>
    have hsame := response_perform hf.sound hen (by simp)
    have hreading : (f.system.session i).phase = .reading := hen
    refine ⟨hsound, hserved, hf.run, hf.once, fun j x hx => ?_, fun j r hr => ?_⟩
    · obtain ⟨hrequest, r, hr, hresponse⟩ := hf.logged j x hx
      have hj : j ≠ i := by
        rintro rfl
        rw [hreading] at hresponse
        cases hresponse
      refine ⟨by simpa [hj] using hrequest, r, hr, (hsame j).trans hresponse⟩
    · exact hf.responded j r ((hsame j).symm.trans hr)
  | @respond i e r t _ hread hserver =>
    have hgives := response_respond hf.served hen
    have hnew : i ∉ f.log.map Prod.fst := by
      intro hmem
      obtain ⟨⟨j, x⟩, hx, rfl⟩ := List.mem_map.mp hmem
      obtain ⟨-, r', -, hresponse⟩ := hf.logged _ x hx
      rw [hen.1] at hresponse
      cases hresponse
    refine ⟨hsound, hserved, hf.run.step hserver, List.nodup_cons.mpr ⟨hnew, hf.once⟩,
      fun j x hx => ?_, fun j r' hr => ?_⟩
    · rcases List.mem_cons.mp hx with heq | hold
      · obtain ⟨rfl, rfl⟩ := Prod.mk.inj heq
        exact ⟨hread, r, rfl, by simpa using hgives j⟩
      · have hj : j ≠ i := fun hji => hnew (List.mem_map.mpr ⟨(j, x), hold, hji⟩)
        obtain ⟨hrequest, r', hr, hresponse⟩ := hf.logged j x hold
        exact ⟨hrequest, r', hr, by simpa [hj, hresponse] using hgives j⟩
    · have hj := (hgives j).symm.trans hr
      by_cases hji : j = i
      · rw [if_pos hji] at hj
        obtain rfl := Option.some.inj hj
        exact ⟨e, hji ▸ List.mem_cons_self⟩
      · rw [if_neg hji] at hj
        obtain ⟨e', he'⟩ := hf.responded j r' hj
        exact ⟨e', List.mem_cons_of_mem _ he'⟩
  | other _ _ hstore hrespond =>
    have hsame := response_perform hf.sound hen hrespond
    refine ⟨hsound, hserved, hf.run, hf.once, fun j x hx => ?_, fun j r hr => ?_⟩
    · obtain ⟨hrequest, r, hr, hresponse⟩ := hf.logged j x hx
      exact ⟨hrequest, r, hr, (hsame j).trans hresponse⟩
    · exact hf.responded j r ((hsame j).symm.trans hr)

/-- The order of the requests is kept, and further requests come after it. -/
theorem Front.log_grows {h : List HttpServer.Event}
    (hrun : Trace (Front.Step w dbPath masterSecret) f h g) :
    ∃ newer, g.log = newer ++ f.log := by
  induction hrun with
  | refl => exact ⟨[], rfl⟩
  | step _ hl ih =>
    obtain ⟨newer, hlog⟩ := ih
    cases hl with
    | @respond i e r t => exact ⟨(i, ⟨e, [r]⟩) :: newer, by rw [hlog]; rfl⟩
    | store => exact ⟨newer, hlog⟩
    | other => exact ⟨newer, hlog⟩

/-- What a client that has been answered reads. -/
def ReadsAnswer (w : World) (e : HttpRequestEvent) (r : HttpResponseEvent) : Prop :=
  ∃ response mime, Http.read (responseText r) = some (response, []) ∧
    r.statusCode = response.status ∧ Content w e mime response.body

theorem Front.Sound.reads (hjson : w.json.Documented)
    (hf : Front.Sound w dbPath masterSecret s f) {i : Nat} {x : Exchange}
    (hx : (i, x) ∈ f.log) {r : HttpResponseEvent} (hr : x.published = [r]) :
    ReadsAnswer w x.request r := by
  obtain ⟨later, earlier, hsplit⟩ := List.append_of_mem hx
  have hrun := hf.run
  rw [hsplit, List.map_append, List.map_cons] at hrun
  obtain ⟨t, t', -, ⟨hpublished, -⟩, -⟩ := hrun.split
  have hmem : r ∈ responses w .controller t x.request := by
    rw [← hpublished, hr]
    exact List.mem_singleton_self r
  obtain ⟨response, h⟩ := responses_enveloped hjson t x.request r hmem
  obtain ⟨mime, cookies, hcontent, -⟩ := h.header
  exact ⟨response, mime, h.read, h.status, hcontent⟩

/-- At any time, whatever the clients, the loop and the threads do: the requests that were
dispatched are a run of the server, one after the other and each once. A client that has been
answered reads the answer to its own request in this run, written once, to its own descriptor.
What is dispatched later comes later in the run. -/
theorem clients_served (hjson : w.json.Documented) {h : List HttpServer.Event}
    (hrun : Trace (Front.Step w dbPath masterSecret) (Front.posted s) h f) :
    Trace (StepOf w .controller dbPath masterSecret) s
        (f.log.map fun entry => .request entry.2) f.server ∧
      (f.log.map Prod.fst).Nodup ∧
      (∀ i r, (f.system.session i).phase = .answered r →
        ∃ e, f.request i = some e ∧ (i, ⟨e, [r]⟩) ∈ f.log ∧
          (f.system.session i).uses = [.close, .write (responseText r)] ∧ ReadsAnswer w e r) ∧
      ∀ later g, Trace (Front.Step w dbPath masterSecret) f later g →
        ∃ newer, g.log = newer ++ f.log ∧
          ∀ i x, (i, x) ∈ newer → (f.system.session i).phase.response = none := by
  have hsound : Front.Sound w dbPath masterSecret s f :=
    hrun.invariant (fun _ _ _ hf hl => hf.step hl) (Front.sound_posted s)
  refine ⟨hsound.run, hsound.once, fun i r hphase => ?_, fun later g hlater => ?_⟩
  · obtain ⟨e, hlogged⟩ := hsound.responded i r (by rw [hphase]; rfl)
    have huses := (hsound.served.session i).uses
    rw [hphase] at huses
    exact ⟨e, (hsound.logged i _ hlogged).1, hlogged, huses, hsound.reads hjson hlogged rfl⟩
  · obtain ⟨newer, hlog⟩ := Front.log_grows hlater
    have hsound' : Front.Sound w dbPath masterSecret s g :=
      hlater.invariant (fun _ _ _ hf hl => hf.step hl) hsound
    refine ⟨newer, hlog, fun i x hx => ?_⟩
    by_contra hsome
    obtain ⟨r, hr⟩ := Option.ne_none_iff_exists'.mp hsome
    obtain ⟨e, hold⟩ := hsound.responded i r hr
    have honce := hsound'.once
    rw [hlog, List.map_append, List.nodup_append] at honce
    exact honce.2.2 i (List.mem_map.mpr ⟨_, hx, rfl⟩) i (List.mem_map.mpr ⟨_, hold, rfl⟩) rfl

namespace Reference

/-- What the server publishes when bob registers. -/
def welcome : HttpResponseEvent :=
  ⟨1, 200, ((responses world .controller start registerBob).map (·.body)).headD []⟩

theorem published_welcome : [welcome] = responses world .controller start registerBob := by
  decide +kernel

/-- The steps of a client behind the descriptor 7, newest first. -/
def visit : List HttpServer.Event :=
  [.close 0 7 welcome, .write 0 7 welcome, .respond 0 welcome, .publish 0, .store 0, .accept 7,
    .subscribe]

/-- The front after the visit. -/
def visited : Front where
  system := replay perform .posted visit
  server := registered
  request := Function.update (fun _ => none) 0 (some registerBob)
  log := [(0, ⟨registerBob, [welcome]⟩)]

theorem visit_run : Trace (Front.Step world dbPath masterSecret) (Front.posted start) visit
    visited := by
  have hserver : StepOf world .controller dbPath masterSecret start
      (.request ⟨registerBob, [welcome]⟩) registered := ⟨published_welcome, rfl⟩
  have hother {f : Front} {ev : HttpServer.Event} (hen : Enabled f.system ev)
      (hprompt : Prompt f.system ev) (hev : (∀ i, ev ≠ .store i) ∧ ∀ i r, ev ≠ .respond i r) :
      Front.Step world dbPath masterSecret f ev { f with system := perform ev f.system } :=
    .other hen hprompt hev.1 hev.2
  refine .step (.step (.step (.step (.step (.step (.step .refl
    (hother ⟨rfl, rfl⟩ trivial ?_)) (hother rfl trivial ?_)) (.store rfl rfl rfl))
    (hother ⟨rfl, rfl⟩ rfl ?_)) (.respond ⟨rfl, rfl⟩ rfl hserver)) (hother rfl trivial ?_))
    (hother rfl trivial ?_)
  all_goals simp

end Reference

/-- Bob's browser is told that he has registered. -/
theorem clients_served_reference :
    let f := Reference.visited
    Trace (StepOf Reference.world .controller Reference.dbPath Reference.masterSecret)
        Reference.start (f.log.map fun entry => .request entry.2) f.server ∧
      (f.log.map Prod.fst).Nodup ∧
      (∀ i r, (f.system.session i).phase = .answered r →
        ∃ e, f.request i = some e ∧ (i, ⟨e, [r]⟩) ∈ f.log ∧
          (f.system.session i).uses = [.close, .write (responseText r)] ∧
          ReadsAnswer Reference.world e r) ∧
      ∀ later g, Trace (Front.Step Reference.world Reference.dbPath Reference.masterSecret) f
          later g →
        ∃ newer, g.log = newer ++ f.log ∧
          ∀ i x, (i, x) ∈ newer → (f.system.session i).phase.response = none :=
  clients_served Reference.json_documented Reference.visit_run

end CCTVWebServer
