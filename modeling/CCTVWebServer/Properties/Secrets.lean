import CCTVWebServer.Properties.Refinement

/-!
# What the responses do not depend on

Two servers on different databases, with different master secrets and different random
bytes, cannot be told apart by their responses, tokens apart. It is read off the portal.
-/

namespace CCTVWebServer

open Foundation

variable {w w' : World} {s s' t t' : State} {p p' q q' : Portal} {e : HttpRequestEvent}
  {self : ReplyServer} {dbPath dbPath' masterSecret masterSecret' : Bytes}

/-! ## Tokens -/

/-- The answer does not depend on the token, or hands it over with a new session. -/
def ShowsToken (p : Portal) (e : HttpRequestEvent) (a : Bytes → Portal.Answer) : Prop :=
  (∀ token token', a token = a token') ∨
    ∃ body userId, ∀ token, a token = .ok (loginResponse e.connId body token,
      { p with session := Function.update p.session token (some userId) })

theorem showsToken_const (a : Portal.Answer) : ShowsToken p e (fun _ => a) := .inl fun _ _ => rfl

theorem showsToken_bind {α : Type} (x : Except Bytes α) {f : Bytes → α → Portal.Answer}
    (h : ∀ v, ShowsToken p e (fun token => f token v)) :
    ShowsToken p e (fun token => x >>= f token) := by
  cases x with
  | error what => exact .inl fun _ _ => rfl
  | ok v => exact h v

theorem showsToken_ite {c : Prop} [Decidable c] {a b : Bytes → Portal.Answer}
    (ha : ShowsToken p e a) (hb : ShowsToken p e b) :
    ShowsToken p e (fun token => if c then a token else b token) := by
  by_cases hc : c
  · simpa only [if_pos hc] using ha
  · simpa only [if_neg hc] using hb

theorem Portal.login_token (p : Portal) (e : HttpRequestEvent) :
    ShowsToken p e (fun token => p.login w token e) := by
  refine showsToken_bind _ fun json => ?_
  refine showsToken_bind _ fun id => ?_
  refine showsToken_bind _ fun password => ?_
  cases p.members.find id with
  | none => exact showsToken_const _
  | some m =>
  refine showsToken_ite (showsToken_const _) ?_
  refine showsToken_ite (showsToken_const _) ?_
  refine showsToken_ite (showsToken_const _) ?_
  unfold Portal.answer
  cases w.json.dump (messageJson "Success") with
  | error what => exact .inl fun _ _ => rfl
  | ok body => exact .inr ⟨body, id, fun _ => rfl⟩

/-- The token shows in the response to a login and nowhere else. -/
theorem Portal.serve_token (p : Portal) (self : ReplyServer) (e : HttpRequestEvent) :
    (∀ token token', p.serve w self token e = p.serve w self token' e) ∨
      ∃ body, ∀ token, (p.serve w self token e).1 = [loginResponse e.connId body token] := by
  unfold Portal.serve Portal.endpoints
  cases staticReply w e with
  | some r => exact .inl fun _ _ => rfl
  | none =>
  by_cases hregister : e.url = str "/api/register" ∧ e.method = str "POST"
  · exact .inl fun _ _ => by simp only [if_pos hregister]
  by_cases hlogin : e.url = str "/api/login" ∧ e.method = str "POST"
  · simp only [if_neg hregister, if_pos hlogin]
    rcases p.login_token (w := w) e with hsame | ⟨body, userId, hopens⟩
    · exact .inl fun token token' => congrArg (p.publish w e) (hsame token token')
    · exact .inr ⟨body, fun token => congrArg (fun a => (p.publish w e a).1) (hopens token)⟩
  · exact .inl fun _ _ => by simp only [if_neg hregister, if_neg hlogin]

/-! ## Secrets and random bytes -/

/-- Two worlds with the same JSON library, the same files and the same password hash. -/
structure SameService (w w' : World) : Prop where
  json : w.json = w'.json
  readFile : w.readFile = w'.readFile
  pbkdf2 : w.pbkdf2 = w'.pbkdf2

theorem SameService.serve (h : SameService w w') : Portal.serve w = Portal.serve w' := by
  obtain ⟨json, readFile, sha256Digest, pbkdf2⟩ := w
  obtain ⟨json', readFile', sha256Digest', pbkdf2'⟩ := w'
  obtain ⟨rfl, rfl, rfl⟩ := h
  rfl

theorem SameService.opened (h : SameService w w') : Portal.opened w = Portal.opened w' := by
  have hhash : w.passwordHash = w'.passwordHash := by
    funext password salt
    simp only [World.passwordHash, h.pbkdf2]
  simp only [Portal.opened, hhash]

theorem SameService.portal_run (h : SameService w w') {history : List Label}
    (hrun : Trace (Portal.Step w' self) p history q) :
    Trace (Portal.Step w self) p history q := by
  refine hrun.mono fun p l q hl => ?_
  cases hl with
  | request htoken hserve =>
    rw [← h.serve] at hserve
    exact .request htoken hserve
  | restart => exact .restart

/-- The same input to two servers: a request, for which they issue the same token if they both
issue one, or a restart. -/
inductive Paired : Label → Label → Prop where
  | request {e : HttpRequestEvent} {published published' : List HttpResponseEvent}
      (htoken : ∀ connId body token token', published = [loginResponse connId body token] →
        published' = [loginResponse connId body token'] → token = token') :
      Paired (.request ⟨e, published⟩) (.request ⟨e, published'⟩)
  | restart : Paired .restart .restart

/-- A portal has one step for an input and a token. -/
theorem Portal.Step.unique {l l' : Label} (hl : Portal.Step w self p l q)
    (hl' : Portal.Step w self p l' q') (hpaired : Paired l l') : l = l' ∧ q = q' := by
  cases hpaired with
  | @request e published published' htoken =>
    cases hl with
    | @request _ _ token _ hserve =>
    cases hl' with
    | @request _ _ token' _ hserve' =>
    rcases p.serve_token (w := w) self e with hsame | ⟨body, hopens⟩
    · have hboth := (hserve.symm.trans (hsame token token')).trans hserve'
      obtain ⟨rfl, rfl⟩ := Prod.mk.inj hboth
      exact ⟨rfl, rfl⟩
    · have hpublished := hopens token
      have hpublished' := hopens token'
      rw [hserve] at hpublished
      rw [hserve'] at hpublished'
      have hsame := htoken _ _ _ _ hpublished hpublished'
      subst hsame
      obtain ⟨rfl, rfl⟩ := Prod.mk.inj (hserve.symm.trans hserve')
      exact ⟨rfl, rfl⟩
  | restart =>
    cases hl
    cases hl'
    exact ⟨rfl, rfl⟩

/-- A step of a server whose handlers are those of `self`. -/
def StepOf (w : World) (self : ReplyServer) (dbPath masterSecret : Bytes) (s : State)
    (l : Label) (t : State) : Prop :=
  match l with
  | .request x => x.published = responses w self s x.request ∧
      t = finalState (dispatch w record self x.request) s
  | .restart => Transition w dbPath masterSecret s .restart t

theorem StepOf.transition (hjson : w.json.Documented) {l : Label}
    (h : StepOf w self dbPath masterSecret s l t) : Transition w dbPath masterSecret s l t := by
  cases l with
  | request x =>
    obtain ⟨hpublished, rfl⟩ := h
    have hserved := served_dispatch hjson self x.request s
    rw [← hpublished] at hserved
    exact .request hserved
  | restart => exact h

theorem StepOf.realizes (hw : w.Dependable) (hs : Reachable w dbPath masterSecret s)
    (h : Carries w s p) {l : Label} (hl : StepOf w self dbPath masterSecret s l t) :
    ∃ q, Portal.Step w self p l q ∧ Carries w t q := by
  cases l with
  | request x =>
    obtain ⟨e, published⟩ := x
    obtain ⟨hpublished, rfl⟩ := hl
    obtain ⟨q, hq, hcarries⟩ := dispatch_realizes hw hs h self e
    dsimp only at hpublished
    rw [hpublished]
    exact ⟨q, hq, hcarries⟩
  | restart =>
    cases hl with
    | restart hinit => exact ⟨_, .restart, h.restart hw hs hinit⟩

/-- The portal behind a run of a server. -/
theorem StepOf.run (hw : w.Dependable) (hs : Reachable w dbPath masterSecret s)
    (h : Carries w s p) {history : List Label}
    (hrun : Trace (StepOf w self dbPath masterSecret) s history t) :
    ∃ q, Trace (Portal.Step w self) p history q ∧ Carries w t q := by
  have hsim : ∀ u l v p, Reachable w dbPath masterSecret u ∧ Carries w u p →
      StepOf w self dbPath masterSecret u l v →
      ∃ q, Portal.Step w self p l q ∧ Reachable w dbPath masterSecret v ∧ Carries w v q := by
    rintro u l v p ⟨hreach, hcarries⟩ hl
    obtain ⟨q, hq, hcarries'⟩ := hl.realizes hw hreach hcarries
    exact ⟨q, hq, hreach.trans (.step .refl (hl.transition hw.json)), hcarries'⟩
  obtain ⟨q, hq, -, hcarries⟩ := hrun.forward hsim ⟨hs, h⟩
  exact ⟨q, hq, hcarries⟩

theorem Portal.run_unique {h h' : List Label} (hrun : Trace (Portal.Step w self) p h q)
    (hrun' : Trace (Portal.Step w self) p h' q') (hpaired : List.Forall₂ Paired h h') :
    h = h' ∧ q = q' := by
  induction hpaired generalizing q q' with
  | nil =>
    cases hrun
    cases hrun'
    exact ⟨rfl, rfl⟩
  | cons hl _ ih =>
    cases hrun with
    | step hbefore hstep =>
    cases hrun' with
    | step hbefore' hstep' =>
    obtain ⟨rfl, rfl⟩ := ih hbefore hbefore'
    obtain ⟨rfl, rfl⟩ := hstep.unique hstep' hl
    exact ⟨rfl, rfl⟩

/-- Two servers on new databases, with any paths, master secrets, keys, digests and ciphers,
publish the same responses to the same requests and restarts, as long as they issue the same
tokens. -/
theorem secrets_unobservable (hw : w.Dependable) (hw' : w'.Dependable) (hsame : SameService w w')
    (hs : Fresh w dbPath masterSecret s) (hs' : Fresh w' dbPath' masterSecret' s')
    {h h' : List Label} (hrun : Trace (StepOf w self dbPath masterSecret) s h t)
    (hrun' : Trace (StepOf w' self dbPath' masterSecret') s' h' t')
    (hpaired : List.Forall₂ Paired h h') : h = h' := by
  obtain ⟨q, hq, -⟩ := StepOf.run hw ⟨s, [], hs, .refl⟩ (hs.carries hw) hrun
  obtain ⟨q', hq', -⟩ := StepOf.run hw' ⟨s', [], hs', .refl⟩ (hs'.carries hw') hrun'
  rw [← hsame.opened] at hq'
  exact (Portal.run_unique hq (hsame.portal_run hq') hpaired).1

theorem loginResponse_token {connId : Int} {body token token' : Bytes}
    (h : loginResponse connId body token = loginResponse connId body token') : token = token' := by
  simpa [loginResponse, makeHttpResponse, sessionHeader] using h

/-- Other random bytes, with the same tokens. -/
def Reference.redrawn : World :=
  { Reference.world with draw := fun n _ => UInt8.ofNat (n + 16) }

/-- The state of a server with another file and another master secret. -/
def Reference.elsewhere : List HttpRequestEvent → State
  | [] => finalState (init redrawn (fun _ => DatabaseFile.new) (str "other.db") otherSecret)
      (State.started 0)
  | e :: requests => finalState (dispatch redrawn record .controller e) (elsewhere requests)

theorem Reference.redrawn_dependable : Reference.redrawn.Dependable where
  json := Reference.json_documented
  gcm := ⟨Reference.gcm_documented.tag_length, Reference.gcm_documented.open_seal⟩
  sha256 := Reference.sha256_injective
  sqlite := Reference.sqlite_ok
  openssl := Reference.openssl_ok

/-- Bob registers and the admin logs in at two servers with different keys. -/
theorem secrets_unobservable_reference :
    let e := Reference.registerBob
    let e' := Reference.loginAdmin
    let x (w : World) (after : List HttpRequestEvent → State) :=
      Exchange.mk e (responses w .controller (after []) e)
    let x' (w : World) (after : List HttpRequestEvent → State) :=
      Exchange.mk e' (responses w .controller (after [e]) e')
    [Label.request (x' Reference.world (Reference.after Reference.world)),
        .request (x Reference.world (Reference.after Reference.world))] =
      [.request (x' Reference.redrawn Reference.elsewhere),
        .request (x Reference.redrawn Reference.elsewhere)] := by
  have hpublished : responses Reference.world .controller (Reference.after Reference.world [])
      Reference.registerBob = responses Reference.redrawn .controller
      (Reference.elsewhere []) Reference.registerBob := by decide +kernel
  have hpublished' : responses Reference.world .controller
      (Reference.after Reference.world [Reference.registerBob]) Reference.loginAdmin =
      responses Reference.redrawn .controller
      (Reference.elsewhere [Reference.registerBob]) Reference.loginAdmin := by
    decide +kernel
  have htokens {published published' : List HttpResponseEvent} (hsame : published = published')
      (connId : Int) (body token token' : Bytes)
      (h : published = [loginResponse connId body token])
      (h' : published' = [loginResponse connId body token']) : token = token' := by
    rw [← hsame, h, List.singleton_inj] at h'
    exact loginResponse_token h'
  have hstep (requests : List HttpRequestEvent) (e : HttpRequestEvent) :
      StepOf Reference.world .controller Reference.dbPath Reference.masterSecret
        (Reference.after Reference.world requests)
        (.request ⟨e, responses Reference.world .controller
          (Reference.after Reference.world requests) e⟩)
        (Reference.after Reference.world (e :: requests)) := ⟨rfl, rfl⟩
  have hstep' (requests : List HttpRequestEvent) (e : HttpRequestEvent) :
      StepOf Reference.redrawn .controller (str "other.db") Reference.otherSecret
        (Reference.elsewhere requests)
        (.request ⟨e, responses Reference.redrawn .controller (Reference.elsewhere requests) e⟩)
        (Reference.elsewhere (e :: requests)) := ⟨rfl, rfl⟩
  have hfresh : Fresh Reference.world Reference.dbPath Reference.masterSecret
      (Reference.after Reference.world []) := ⟨0, rfl⟩
  have hfresh' : Fresh Reference.redrawn (str "other.db") Reference.otherSecret
      (Reference.elsewhere []) := ⟨0, rfl⟩
  exact secrets_unobservable Reference.dependable Reference.redrawn_dependable ⟨rfl, rfl, rfl⟩
    hfresh hfresh' (.step (.step .refl (hstep _ _)) (hstep _ _))
    (.step (.step .refl (hstep' _ _)) (hstep' _ _))
    (.cons (.request (htokens hpublished')) (.cons (.request (htokens hpublished)) .nil))

end CCTVWebServer
