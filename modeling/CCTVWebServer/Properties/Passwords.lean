import CCTVWebServer.Foundation.Parallel
import CCTVWebServer.Properties.Secrets

/-!
# Passwords

Two servers get the same requests and restarts, but the passwords in the bodies differ.
As long as the logins have the same outcome, every response is the same: a password shows
in nothing but the outcome of a login.
-/

namespace CCTVWebServer

open Foundation

variable {w w' : World} {s s' t t' : State} {p p' q q' : Portal} {e : HttpRequestEvent}
  {body : Bytes} {dbPath dbPath' masterSecret masterSecret' : Bytes}

/-! ## What may differ -/

/-- The values differ in the text under `password` at most, and it is empty in both or in
none. -/
structure FormsAlike (w : World) (json json' : Json) : Prop where
  field : ∀ key, key ≠ "password" → Portal.text w json key = Portal.text w json' key
  password : Parallel (fun a b : Bytes => a = [] ↔ b = []) (Portal.text w json "password")
    (Portal.text w json' "password")

def BodiesAlike (w : World) (body body' : Bytes) : Prop :=
  Parallel (FormsAlike w) (Portal.parse w body) (Portal.parse w body')

/-- The same input, passwords apart. The outcome of a login is the same. -/
inductive PasswordsApart (w : World) : Label → Label → Prop where
  | request {e : HttpRequestEvent} {body : Bytes} {published published' : List HttpResponseEvent}
      (hbody : BodiesAlike w e.body body)
      (hlogin : Post e "/api/login" → published = published') :
      PasswordsApart w (.request ⟨e, published⟩) (.request ⟨{ e with body := body }, published'⟩)
  | restart : PasswordsApart w .restart .restart

/-- What a step shows. -/
def Label.published : Label → List HttpResponseEvent
  | .request x => x.published
  | .restart => []

/-- The members differ in the password at most. -/
structure ShownAlike (m m' : Member) : Prop where
  userId : m.userId = m'.userId
  username : m.username = m'.username
  admin : m.admin = m'.admin
  approved : m.approved = m'.approved
  active : m.active = m'.active

/-- The portals differ in the passwords of members at most. -/
structure PortalsAlike (p p' : Portal) : Prop where
  members : Table.Matches ShownAlike p.members p'.members
  session : p.session = p'.session
  camera : p.camera = p'.camera
  onAir : p.onAir = p'.onAir

/-- The same response or the same error, with portals that are alike. -/
abbrev AnswersAlike : Portal.Answer → Portal.Answer → Prop :=
  Parallel fun x x' => x.1 = x'.1 ∧ PortalsAlike x.2 x'.2

theorem BodiesAlike.refl (w : World) (body : Bytes) : BodiesAlike w body body := by
  refine .same (fun json => ?_) _
  have hpassword := Parallel.same (R := fun a b : Bytes => a = [] ↔ b = []) (fun _ => Iff.rfl)
    (Portal.text w json "password")
  exact ⟨fun _ _ => rfl, hpassword⟩

theorem ShownAlike.refl (m : Member) : ShownAlike m m := ⟨rfl, rfl, rfl, rfl, rfl⟩

theorem PortalsAlike.refl (p : Portal) : PortalsAlike p p where
  members := List.forall₂_same.mpr fun m _ => .refl m
  session := rfl
  camera := rfl
  onAir := rfl

theorem PortalsAlike.update (h : PortalsAlike p p') {userId : Bytes} {f g : Member → Member}
    (hf : ∀ m, (f m).userId = m.userId) (hg : ∀ m, (g m).userId = m.userId)
    (hshown : ∀ m m', ShownAlike m m' → ShownAlike (f m) (g m')) :
    PortalsAlike (p.update userId f hf) (p'.update userId g hg) where
  members := h.members.update Function.injective_id (fun _ _ hm => hm.userId) hf hg
    fun m m' _ hm => hshown m m' hm
  session := h.session
  camera := h.camera
  onAir := h.onAir

theorem PortalsAlike.caller (h : PortalsAlike p p') (cookies : Bytes) :
    Option.Rel ShownAlike (p.caller cookies) (p'.caller cookies) := by
  unfold Portal.caller
  rw [h.session]
  cases p'.session (getSessionToken cookies) with
  | none => exact .none
  | some userId =>
    exact h.members.find Function.injective_id (fun _ _ hm => hm.userId) userId

/-- The listing does not show passwords. -/
theorem PortalsAlike.listed (h : PortalsAlike p p') :
    p.members.rows.map (fun m => m.record.toJson) =
      p'.members.rows.map fun m => m.record.toJson := by
  have hmembers := h.members
  unfold Table.Matches at hmembers
  generalize p.members.rows = members at hmembers ⊢
  generalize p'.members.rows = members' at hmembers ⊢
  induction hmembers with
  | nil => rfl
  | @cons m m' rows rows' hm _ ih =>
    have hrecord : m.record.toJson = m'.record.toJson := by
      simp only [Member.record, Member.role, UserRecord.toJson, hm.userId, hm.username, hm.admin,
        hm.approved, hm.active]
    rw [List.map_cons, List.map_cons, ih, hrecord]

/-! ## Endpoints -/

section Endpoints

theorem alike_answer (h : PortalsAlike p p') (statusCode : Int) (statusText : String)
    (json : Json) (extraHeaders : Bytes) :
    AnswersAlike (p.answer w e statusCode statusText json extraHeaders)
      (p'.answer w { e with body := body } statusCode statusText json extraHeaders) :=
  .bind_same fun _ => .ok ⟨rfl, h⟩

theorem alike_form {f g : Json → Portal.Answer} (hbody : BodiesAlike w e.body body)
    (hfg : ∀ json json', FormsAlike w json json' → AnswersAlike (f json) (g json')) :
    AnswersAlike (Portal.parse w e.body >>= f) (Portal.parse w body >>= g) :=
  hbody.bind hfg

theorem FormsAlike.text {json json' : Json} (hform : FormsAlike w json json') {key : String}
    (hkey : key ≠ "password") {f g : Bytes → Portal.Answer}
    (hfg : ∀ v, AnswersAlike (f v) (g v)) :
    AnswersAlike (Portal.text w json key >>= f) (Portal.text w json' key >>= g) := by
  rw [hform.field key hkey]
  exact .bind_same hfg

theorem alike_register (h : PortalsAlike p p') (hbody : BodiesAlike w e.body body) :
    AnswersAlike (p.register w e) (p'.register w { e with body := body }) := by
  refine alike_form hbody fun json json' hform => ?_
  refine hform.text (by decide) fun id => ?_
  refine hform.text (by decide) fun username => ?_
  refine hform.password.bind fun password password' hempty => ?_
  refine .ite (by rw [hempty]) (alike_answer h _ _ _ _) ?_
  have hinsert := h.members.insert Function.injective_id (fun _ _ hm => hm.userId)
    (⟨rfl, rfl, rfl, rfl, rfl⟩ : ShownAlike
      ⟨id, username, w.passwordHash password id, false, false, true⟩
      ⟨id, username, w.passwordHash password' id, false, false, true⟩)
  generalize p.members.insert ⟨id, username, w.passwordHash password id, false, false, true⟩ =
    members at hinsert ⊢
  generalize p'.members.insert ⟨id, username, w.passwordHash password' id, false, false, true⟩ =
    members' at hinsert ⊢
  cases hinsert with
  | none => exact alike_answer h _ _ _ _
  | @some members members' hmatch =>
    have hnext : PortalsAlike { p with members := members } { p' with members := members' } :=
      ⟨hmatch, h.session, h.camera, h.onAir⟩
    exact alike_answer hnext _ _ _ _

theorem alike_logout (h : PortalsAlike p p') :
    AnswersAlike (p.logout w e) (p'.logout w { e with body := body }) := by
  have hnext : PortalsAlike
      { p with session := Function.update p.session (getSessionToken e.cookies) none }
      { p' with session := Function.update p'.session (getSessionToken e.cookies) none } :=
    ⟨h.members, by rw [h.session], h.camera, h.onAir⟩
  exact alike_answer hnext _ _ _ _

theorem alike_me (h : PortalsAlike p p') {m m' : Member} (hm : ShownAlike m m') :
    AnswersAlike (p.me w m e) (p'.me w m' { e with body := body }) := by
  unfold Portal.me Member.role
  rw [hm.userId, hm.username, hm.admin]
  exact alike_answer h _ _ _ _

theorem alike_updateProfile (h : PortalsAlike p p') {m m' : Member} (hm : ShownAlike m m')
    (hbody : BodiesAlike w e.body body) :
    AnswersAlike (p.updateProfile w m e) (p'.updateProfile w m' { e with body := body }) := by
  refine alike_form hbody fun json json' hform => ?_
  refine hform.text (by decide) fun username => ?_
  refine hform.password.bind fun password password' _ => ?_
  refine .ite Iff.rfl (alike_answer h _ _ _ _) ?_
  rw [hm.userId]
  refine alike_answer (h.update _ _ fun m m' hshown => ?_) _ _ _ _
  exact ⟨hshown.userId, rfl, hshown.admin, hshown.approved, hshown.active⟩

theorem alike_listUsers (h : PortalsAlike p p') :
    AnswersAlike (p.listUsers w e) (p'.listUsers w { e with body := body }) := by
  unfold Portal.listUsers
  rw [h.listed]
  exact alike_answer h _ _ _ _

theorem alike_approve (h : PortalsAlike p p') (hbody : BodiesAlike w e.body body) :
    AnswersAlike (p.approve w e) (p'.approve w { e with body := body }) := by
  refine alike_form hbody fun json json' hform => ?_
  refine hform.text (by decide) fun targetId => ?_
  refine alike_answer (h.update _ _ fun m m' hm => ?_) _ _ _ _
  exact ⟨hm.userId, hm.username, hm.admin, rfl, hm.active⟩

theorem alike_evict (h : PortalsAlike p p') (hbody : BodiesAlike w e.body body) :
    AnswersAlike (p.evict w e) (p'.evict w { e with body := body }) := by
  refine alike_form hbody fun json json' hform => ?_
  refine hform.text (by decide) fun targetId => ?_
  refine .ite Iff.rfl (alike_answer h _ _ _ _) ?_
  have hupdate : PortalsAlike (p.update targetId Member.evict Member.userId_evict)
      (p'.update targetId Member.evict Member.userId_evict) :=
    h.update _ _ fun m m' hm => ⟨hm.userId, hm.username, hm.admin, hm.approved, rfl⟩
  have hnext : PortalsAlike
      { p.update targetId Member.evict Member.userId_evict with
        session := fun token => (p.session token).filter (· ≠ targetId) }
      { p'.update targetId Member.evict Member.userId_evict with
        session := fun token => (p'.session token).filter (· ≠ targetId) } :=
    ⟨hupdate.members, by rw [h.session], h.camera, h.onAir⟩
  exact alike_answer hnext _ _ _ _

theorem alike_getRtsp (h : PortalsAlike p p') :
    AnswersAlike (p.getRtsp w e) (p'.getRtsp w { e with body := body }) := by
  unfold Portal.getRtsp
  rw [h.camera]
  exact alike_answer h _ _ _ _

theorem alike_saveRtsp (h : PortalsAlike p p') (hbody : BodiesAlike w e.body body) :
    AnswersAlike (p.saveRtsp w e) (p'.saveRtsp w { e with body := body }) := by
  refine alike_form hbody fun json json' hform => ?_
  refine hform.text (by decide) fun name => ?_
  refine hform.text (by decide) fun url => ?_
  refine .ite Iff.rfl (alike_answer h _ _ _ _) ?_
  have hnext : PortalsAlike { p with camera := some (name, url), onAir := some url }
      { p' with camera := some (name, url), onAir := some url } := ⟨h.members, h.session, rfl, rfl⟩
  exact alike_answer hnext _ _ _ _

theorem alike_stopRtsp (h : PortalsAlike p p') :
    AnswersAlike (p.stopRtsp w e) (p'.stopRtsp w { e with body := body }) := by
  have hnext : PortalsAlike { p with onAir := none } { p' with onAir := none } :=
    ⟨h.members, h.session, h.camera, rfl⟩
  exact alike_answer hnext _ _ _ _

theorem alike_option_ite {c : Prop} [Decidable c] {a a' b b' : Option Portal.Answer}
    (ha : Option.Rel AnswersAlike a a') (hb : Option.Rel AnswersAlike b b') :
    Option.Rel AnswersAlike (if c then a else b) (if c then a' else b') := by
  split_ifs
  · exact ha
  · exact hb

theorem alike_memberEndpoints (h : PortalsAlike p p') {m m' : Member} (hm : ShownAlike m m')
    (hbody : BodiesAlike w e.body body) :
    Option.Rel AnswersAlike (p.memberEndpoints w m e)
      (p'.memberEndpoints w m' { e with body := body }) := by
  unfold Portal.memberEndpoints Portal.adminEndpoints
  rw [hm.admin]
  refine alike_option_ite (.some (alike_logout h)) ?_
  refine alike_option_ite (.some (alike_me h hm)) ?_
  refine alike_option_ite (.some (alike_updateProfile h hm hbody)) ?_
  refine alike_option_ite (.some (alike_answer h _ _ _ _)) ?_
  refine alike_option_ite (.some (alike_listUsers h)) ?_
  refine alike_option_ite (.some (alike_approve h hbody)) ?_
  refine alike_option_ite (.some (alike_evict h hbody)) ?_
  refine alike_option_ite (.some (alike_getRtsp h)) ?_
  refine alike_option_ite (.some (alike_saveRtsp h hbody)) ?_
  exact alike_option_ite (.some (alike_stopRtsp h)) .none

/-- The installed handler does not read the body. -/
theorem controller_body {url : Bytes} {handler : Handler}
    (h : ReplyServer.controller.handlers.lookup url = some handler) (e : HttpRequestEvent)
    (body : Bytes) : handler { e with body := body } = handler e := by
  by_cases hurl : url = str "/health"
  · subst hurl
    cases h
    rfl
  · rw [ReplyServer.controller, ReplyServer.addReplyer, AList.lookup_insert_ne hurl] at h
    cases h

theorem PortalsAlike.publish (h : PortalsAlike p p') {a a' : Portal.Answer}
    (ha : AnswersAlike a a') :
    (p.publish w e a).1 = (p'.publish w { e with body := body } a').1 ∧
      PortalsAlike (p.publish w e a).2 (p'.publish w { e with body := body } a').2 := by
  cases ha with
  | ok hx => exact ⟨congrArg (fun r => [r]) hx.1, hx.2⟩
  | error what =>
    have hanswer : AnswersAlike (p.answer w e 500 "Internal Server Error" (errorJson what))
        (p'.answer w { e with body := body } 500 "Internal Server Error" (errorJson what)) :=
      alike_answer h _ _ _ _
    unfold Portal.publish
    dsimp only
    generalize p.answer w e 500 "Internal Server Error" (errorJson what) = a at hanswer ⊢
    generalize p'.answer w { e with body := body } 500 "Internal Server Error"
      (errorJson what) = a' at hanswer ⊢
    cases hanswer with
    | ok hx => exact ⟨congrArg (fun r => [r]) hx.1, h⟩
    | error _ => exact ⟨rfl, h⟩

theorem PortalsAlike.fallback (h : PortalsAlike p p') :
    p.fallback w .controller e = p'.fallback w .controller { e with body := body } := by
  have hanswer : AnswersAlike (p.answer w e 404 "Not Found" (errorJson (str "Not Found")))
      (p'.answer w { e with body := body } 404 "Not Found" (errorJson (str "Not Found"))) :=
    alike_answer h _ _ _ _
  unfold Portal.fallback
  dsimp only
  generalize p.answer w e 404 "Not Found" (errorJson (str "Not Found")) = a at hanswer ⊢
  generalize p'.answer w { e with body := body } 404 "Not Found"
    (errorJson (str "Not Found")) = a' at hanswer ⊢
  cases hhandler : ReplyServer.controller.handlers.lookup e.url with
  | some handler =>
    have hbody : handler { e with body := body } = handler e := controller_body hhandler e body
    dsimp only
    rw [hbody]
  | none =>
    cases hanswer with
    | ok hx => exact congrArg (fun r => [r]) hx.1
    | error _ => rfl

end Endpoints

/-! ## Logins -/

/-- An answer that leaves the portal alone and does not say 200. -/
def Refused (p : Portal) (a : Portal.Answer) : Prop :=
  ∀ r q, a = .ok (r, q) → q = p ∧ r.statusCode ≠ 200

/-- A login is refused, or it opens a session. -/
def LoginAnswer (w : World) (p : Portal) (token : Bytes) (e : HttpRequestEvent)
    (a : Portal.Answer) : Prop :=
  Refused p a ∨ ∃ json id body, Portal.parse w e.body = .ok json ∧
    Portal.text w json "id" = .ok id ∧ w.json.dump (messageJson "Success") = .ok body ∧
    a = .ok (loginResponse e.connId body token,
      { p with session := Function.update p.session token (some id) })

theorem refused_error (what : Bytes) : Refused p (.error what) := fun _ _ h => by cases h

theorem refused_answer {statusCode : Int} (hstatus : statusCode ≠ 200) (statusText : String)
    (json : Json) : Refused p (p.answer w e statusCode statusText json) := by
  intro r q h
  unfold Portal.answer at h
  cases hbody : w.json.dump json with
  | error what =>
    rw [hbody] at h
    cases h
  | ok body =>
    rw [hbody] at h
    cases h
    exact ⟨rfl, hstatus⟩

theorem Refused.publish {a : Portal.Answer} (ha : Refused p a) :
    (p.publish w e a).2 = p ∧ ∀ r ∈ (p.publish w e a).1, r.statusCode ≠ 200 := by
  unfold Portal.publish
  cases a with
  | ok x =>
    obtain ⟨r, q⟩ := x
    obtain ⟨rfl, hstatus⟩ := ha r q rfl
    exact ⟨rfl, by simpa using hstatus⟩
  | error what =>
    have hanswer := refused_answer (w := w) (p := p) (e := e) (by decide : (500 : Int) ≠ 200)
      "Internal Server Error" (errorJson what)
    dsimp only
    generalize p.answer w e 500 "Internal Server Error" (errorJson what) = a at hanswer ⊢
    cases a with
    | ok x => exact ⟨rfl, by simpa using (hanswer x.1 x.2 rfl).2⟩
    | error _ => exact ⟨rfl, by simp⟩

theorem loginAnswer_bind {α : Type} {token : Bytes} {x : Except Bytes α}
    {f : α → Portal.Answer} (h : ∀ v, x = .ok v → LoginAnswer w p token e (f v)) :
    LoginAnswer w p token e (x >>= f) := by
  cases x with
  | error what => exact .inl (refused_error what)
  | ok v => exact h v rfl

theorem Portal.login_answer (w : World) (p : Portal) (token : Bytes) (e : HttpRequestEvent) :
    LoginAnswer w p token e (p.login w token e) := by
  have hrefused (json : Json) : LoginAnswer w p token e (p.answer w e 401 "Unauthorized" json) :=
    .inl (refused_answer (by decide) _ _)
  refine loginAnswer_bind fun json hjson => ?_
  refine loginAnswer_bind fun id hid => ?_
  refine loginAnswer_bind fun password _ => ?_
  cases p.members.find id with
  | none => exact hrefused _
  | some m =>
  dsimp only
  by_cases hactive : m.active = false
  · rw [if_pos hactive]
    exact hrefused _
  rw [if_neg hactive]
  by_cases happroved : m.approved = false
  · rw [if_pos happroved]
    exact hrefused _
  rw [if_neg happroved]
  by_cases hpassword : w.passwordHash password id ≠ m.passwordHash
  · rw [if_pos hpassword]
    exact hrefused _
  rw [if_neg hpassword]
  exact loginAnswer_bind fun body hbody => .inr ⟨json, id, body, hjson, hid, hbody, rfl⟩

/-- Two logins with the same outcome leave portals alike. -/
theorem PortalsAlike.login (h : PortalsAlike p p') (hbody : BodiesAlike w e.body body)
    {token token' : Bytes}
    (hsame : (p.publish w e (p.login w token e)).1 = (p'.publish w { e with body := body }
      (p'.login w token' { e with body := body })).1) :
    PortalsAlike (p.publish w e (p.login w token e)).2 (p'.publish w { e with body := body }
      (p'.login w token' { e with body := body })).2 := by
  rcases p.login_answer w token e with hrefused | ⟨json, id, text, hjson, hid, htext, hopen⟩
  · rcases p'.login_answer w token' { e with body := body } with
      hrefused' | ⟨_, _, _, -, -, -, hopen⟩
    · rw [hrefused.publish.1, hrefused'.publish.1]
      exact h
    · rw [hopen] at hsame
      have hstatus := hrefused.publish (w := w) (e := e) |>.2
      rw [hsame] at hstatus
      exact absurd rfl (hstatus _ (List.mem_singleton_self _))
  · rcases p'.login_answer w token' { e with body := body } with
      hrefused | ⟨json', id', text', hjson', hid', htext', hopen'⟩
    · rw [hopen] at hsame
      have hstatus := hrefused.publish (w := w) (e := { e with body := body }) |>.2
      rw [← hsame] at hstatus
      exact absurd rfl (hstatus _ (List.mem_singleton_self _))
    · have hform : FormsAlike w json json' := by
        have hparsed := hbody
        unfold BodiesAlike at hparsed
        rw [hjson, hjson'] at hparsed
        cases hparsed with
        | ok hform => exact hform
      have hids : id = id' := by
        rw [hform.field "id" (by decide), hid'] at hid
        exact (Except.ok.inj hid).symm
      have htexts : text = text' := Except.ok.inj (htext.symm.trans htext')
      subst hids htexts
      rw [hopen, hopen'] at hsame ⊢
      have htoken : token = token' := loginResponse_token (List.singleton_inj.mp hsame)
      subst htoken
      exact ⟨h.members, by rw [Portal.publish, Portal.publish, h.session], h.camera, h.onAir⟩

/-! ## Runs -/

/-- A request is answered alike and leaves the portals alike, if it is no login or the login has
the same outcome. -/
theorem PortalsAlike.serve (h : PortalsAlike p p') (hbody : BodiesAlike w e.body body)
    (token token' : Bytes)
    (hlogin : Post e "/api/login" → (p.serve w .controller token e).1 =
      (p'.serve w .controller token' { e with body := body }).1) :
    (p.serve w .controller token e).1 =
        (p'.serve w .controller token' { e with body := body }).1 ∧
      PortalsAlike (p.serve w .controller token e).2
        (p'.serve w .controller token' { e with body := body }).2 := by
  have hstatic : staticReply w { e with body := body } = staticReply w e := rfl
  unfold Portal.serve at hlogin ⊢
  rw [hstatic] at hlogin ⊢
  cases hreply : staticReply w e with
  | some r => exact ⟨rfl, h⟩
  | none =>
  rw [hreply] at hlogin
  dsimp only at hlogin ⊢
  by_cases hregister : e.url = str "/api/register" ∧ e.method = str "POST"
  · simp only [Portal.endpoints, if_pos hregister]
    exact h.publish (alike_register h hbody)
  by_cases hpost : e.url = str "/api/login" ∧ e.method = str "POST"
  · simp only [Portal.endpoints, if_neg hregister, if_pos hpost] at hlogin ⊢
    exact ⟨hlogin hpost, h.login hbody (hlogin hpost)⟩
  have hendpoints : Option.Rel AnswersAlike (p.endpoints w token e)
      (p'.endpoints w token' { e with body := body }) := by
    simp only [Portal.endpoints, if_neg hregister, if_neg hpost]
    refine alike_option_ite ?_ .none
    have hcaller := h.caller e.cookies
    generalize p.caller e.cookies = m at hcaller ⊢
    generalize p'.caller e.cookies = m' at hcaller ⊢
    cases hcaller with
    | none => exact .some (alike_answer h _ _ _ _)
    | some hshown => exact alike_memberEndpoints h hshown hbody
  generalize p.endpoints w token e = a at hendpoints ⊢
  generalize p'.endpoints w token' { e with body := body } = a' at hendpoints ⊢
  cases hendpoints with
  | none => exact ⟨h.fallback, h⟩
  | some ha => exact h.publish ha

theorem PortalsAlike.step (h : PortalsAlike p p') {l l' : Label}
    (hl : Portal.Step w .controller p l q) (hl' : Portal.Step w .controller p' l' q')
    (hinput : PasswordsApart w l l') : l.published = l'.published ∧ PortalsAlike q q' := by
  cases hinput with
  | @request e body published published' hbody hlogin =>
    cases hl with
    | @request _ _ token _ hserve =>
    cases hl' with
    | @request _ _ token' _ hserve' =>
    dsimp only at hserve hserve'
    have hpair := h.serve hbody token token' fun hpost => by
      rw [hserve, hserve']
      exact hlogin hpost
    rw [hserve, hserve'] at hpair
    exact hpair
  | restart =>
    cases hl
    cases hl'
    exact ⟨rfl, h.members, rfl, h.camera, rfl⟩

theorem PortalsAlike.run (h : PortalsAlike p p') {history history' : List Label}
    (hrun : Trace (Portal.Step w .controller) p history q)
    (hrun' : Trace (Portal.Step w .controller) p' history' q')
    (hinputs : List.Forall₂ (PasswordsApart w) history history') :
    history.map Label.published = history'.map Label.published ∧ PortalsAlike q q' := by
  induction hinputs generalizing q q' with
  | nil =>
    cases hrun
    cases hrun'
    exact ⟨rfl, h⟩
  | cons hinput _ ih =>
    cases hrun with
    | step hbefore hstep =>
    cases hrun' with
    | step hbefore' hstep' =>
    obtain ⟨hpublished, halike⟩ := ih hbefore hbefore'
    obtain ⟨hlast, hnext⟩ := halike.step hstep hstep' hinput
    exact ⟨by rw [List.map_cons, List.map_cons, hlast, hpublished], hnext⟩

/-- Two new servers get the same requests and restarts, but for the passwords in the bodies.
If every login has the same outcome at both, every request has the same responses. -/
theorem passwords_unobservable (hw : w.Dependable) (hw' : w'.Dependable)
    (hsame : SameService w w') (hs : Fresh w dbPath masterSecret s)
    (hs' : Fresh w' dbPath' masterSecret' s') {h h' : List Label}
    (hrun : Trace (StepOf w .controller dbPath masterSecret) s h t)
    (hrun' : Trace (StepOf w' .controller dbPath' masterSecret') s' h' t')
    (hinputs : List.Forall₂ (PasswordsApart w) h h') :
    h.map Label.published = h'.map Label.published := by
  obtain ⟨q, hq, -⟩ := StepOf.run hw ⟨s, [], hs, .refl⟩ (hs.carries hw) hrun
  obtain ⟨q', hq', -⟩ := StepOf.run hw' ⟨s', [], hs', .refl⟩ (hs'.carries hw') hrun'
  rw [← hsame.opened] at hq'
  exact ((PortalsAlike.refl _).run hq (hsame.portal_run hq') hinputs).1

/-- Bob registers with one password or another, and the admin logs in and lists the users. -/
theorem passwords_unobservable_reference :
    let registerAs (password : String) := { Reference.registerBob with
      body := Reference.body [("id", "bob"), ("username", "Bob"), ("password", password)] }
    let list := Reference.get "/api/users" (Reference.cookie 0x34)
    let x (password : String) (requests : List HttpRequestEvent) (e : HttpRequestEvent) :=
      Label.request ⟨e, responses Reference.world .controller
        (Reference.after Reference.world (requests ++ [registerAs password])) e⟩
    let y (password : String) := Label.request ⟨registerAs password,
      responses Reference.world .controller (Reference.after Reference.world [])
        (registerAs password)⟩
    ([x "pw" [Reference.loginAdmin] list, x "pw" [] Reference.loginAdmin, y "pw"].map
      Label.published) =
      [x "other" [Reference.loginAdmin] list, x "other" [] Reference.loginAdmin, y "other"].map
        Label.published := by
  intro registerAs list x y
  have hlogin : responses Reference.world .controller
      (Reference.after Reference.world [registerAs "pw"]) Reference.loginAdmin =
      responses Reference.world .controller
        (Reference.after Reference.world [registerAs "other"]) Reference.loginAdmin := by
    decide +kernel
  have hpasswords : BodiesAlike Reference.world (registerAs "pw").body
      (registerAs "other").body := by
    have hforms : FormsAlike Reference.world
        (.object [(str "id", .string (str "bob")), (str "username", .string (str "Bob")),
          (str "password", .string (str "pw"))])
        (.object [(str "id", .string (str "bob")), (str "username", .string (str "Bob")),
          (str "password", .string (str "other"))]) := by
      refine ⟨fun key hkey => ?_, .ok (by decide)⟩
      have hne : (str key == str "password") = false := by simpa using hkey
      simp only [Portal.text, Reference.world, Reference.json, Reference.value, List.lookup_cons,
        hne]
    exact .ok hforms
  have hstep (requests : List HttpRequestEvent) (e : HttpRequestEvent) :
      StepOf Reference.world .controller Reference.dbPath Reference.masterSecret
        (Reference.after Reference.world requests)
        (.request ⟨e, responses Reference.world .controller
          (Reference.after Reference.world requests) e⟩)
        (Reference.after Reference.world (e :: requests)) := ⟨rfl, rfl⟩
  have hfresh : Fresh Reference.world Reference.dbPath Reference.masterSecret
      (Reference.after Reference.world []) := ⟨0, rfl⟩
  exact passwords_unobservable Reference.dependable Reference.dependable ⟨rfl, rfl, rfl⟩
    hfresh hfresh (.step (.step (.step .refl (hstep _ _)) (hstep _ _)) (hstep _ _))
    (.step (.step (.step .refl (hstep _ _)) (hstep _ _)) (hstep _ _))
    (.cons (.request (.refl _ _) (fun h => by cases h.1))
      (.cons (.request (.refl _ _) (fun _ => hlogin))
      (.cons (.request hpasswords (fun h => by cases h.1)) .nil)))

end CCTVWebServer
