import CCTVWebServer.Reference
import CCTVWebServer.Specification.TwoRuns

/-!
# Callers who are not admins

What the request of such a caller can change, and what it can learn. Nothing here
depends on how the state was reached.
-/

namespace CCTVWebServer

open Foundation

variable {w : World} {s t : State} {e : HttpRequestEvent}

/-! ## Integrity -/

/-- The states that the request of a non-admin may lead to, up to the response: at most one
write, to what the request is about. -/
inductive Permitted (w : World) (s : State) (e : HttpRequestEvent) : State → Prop where
  | nothing : Permitted w s e s
  | register {userId : Bytes} {row : UserRow} {users : UsersTable}
      (post : Post e "/api/register") (hid : field w e "id" = some userId)
      (hfree : s.users.find (w.userKey userId) = none) (hkey : row.userIdHash = w.userKey userId)
      (hrole : row.role.val = str "user") (happroved : row.isApproved = 0)
      (hactive : row.isActive = 1) (hinsert : s.users.insert row = some users) :
      Permitted w s e { s with users := users }
  | login {userId password token : Bytes} {row : UserRow} (post : Post e "/api/login")
      (hid : field w e "id" = some userId) (hpassword : field w e "password" = some password)
      (hrow : s.users.find (w.userKey userId) = some row)
      (hverified : w.passwordHash password userId = row.passwordHash.val) :
      Permitted w s e { s with activeSessions := s.activeSessions.insert token userId }
  | logout (post : Post e "/api/logout") :
      Permitted w s e
        { s with activeSessions := s.activeSessions.erase (getSessionToken e.cookies) }
  | updateProfile {usernameEnc : SqlText} {passwordHash : Option SqlText}
      (post : Post e "/api/user/update") (hcaller : callerId s e ≠ []) :
      Permitted w s e { s with
        users := s.users.update (w.userKey (callerId s e))
          (UserRow.updateProfile usernameEnc passwordHash)
          (UserRow.userIdHash_updateProfile _ _) }

/-- Without an admin behind it, an effect is one of the permitted ones. -/
theorem Answer.permitted {eff : Effect} {r : HttpResponseEvent} (h : Answer w s e eff r)
    (hadmin : ¬ AdminCaller w s e) : Permitted w s e (eff.apply w s) := by
  cases h with
  | quiet => exact .nothing
  | @register userId _ _ row _ post hid _ _ _ hrow hfree =>
    cases hinsert : s.users.insert row with
    | none =>
      rw [Table.insert_eq_none, hrow.userIdHash] at hinsert
      exact absurd hfree hinsert
    | some users =>
      simp only [Effect.apply, hinsert, Option.getD_some]
      exact .register post hid hfree hrow.userIdHash hrow.role hrow.isApproved hrow.isActive hinsert
  | login post hid hpassword hfetched _ _ hhash =>
    obtain ⟨row, openId, openName, hrow, -, -, rfl⟩ := hfetched
    exact .login post hid hpassword hrow hhash
  | logout post => exact .logout post
  | updateProfile post hcaller => exact .updateProfile post hcaller
  | approve _ h => exact absurd h hadmin
  | evict _ h => exact absurd h hadmin
  | relay _ h => exact absurd h hadmin

/-- A request whose cookie does not resolve to an admin makes at most one write, and that
one to what it is about. -/
theorem dispatch_permitted (hjson : w.json.Documented) (self : ReplyServer)
    (hadmin : ¬ AdminCaller w s e) :
    ∃ u n published, Permitted w s e u ∧
      finalState (dispatch w record self e) s = { u with calls := n, published := published } := by
  have hspec := dispatch_spec hjson self e s
  unfold finalState
  cases hrun : (dispatch w record self e).run s with
  | ok _ t =>
    obtain ⟨eff, r, ⟨n, rfl⟩, hanswer, -⟩ := hspec.of_ok hrun
    exact ⟨_, n, _, hanswer.permitted hadmin, rfl⟩
  | error fault t =>
    obtain ⟨⟨eff, ⟨n, rfl⟩, hanswer⟩, -⟩ := hspec.of_error hrun
    exact ⟨_, n, _, (hanswer ⟨0, 500, []⟩ rfl).permitted hadmin, rfl⟩

/-- Right after the start nobody has a session. -/
theorem Reference.not_adminCaller (e : HttpRequestEvent) :
    ¬ AdminCaller Reference.world Reference.start e := by
  have hnone : callerId Reference.start e = [] := by
    show (if getSessionToken e.cookies = [] then [] else _) = []
    split_ifs <;> rfl
  exact fun h => h.1 hnone

theorem dispatch_permitted_reference :
    ∃ u n published, Permitted Reference.world Reference.start Reference.loginAdmin u ∧
      finalState (dispatch Reference.world record .controller Reference.loginAdmin)
        Reference.start = { u with calls := n, published := published } :=
  dispatch_permitted Reference.json_documented _ (Reference.not_adminCaller _)

/-! ## Confidentiality -/

/-- The states agree on what the request is about: the session of the presented token, the
row of the caller, and the row of the id that a registration or a login names. They may
differ in everything else that the process stores. The database has one key, and the same
calls to the libraries fail. -/
structure LooksAlike (w : World) (e : HttpRequestEvent) (s t : State) : Prop where
  key : s.key = t.key
  failures : Aligned w s.calls t.calls
  session : s.activeSessions.lookup (getSessionToken e.cookies) =
    t.activeSessions.lookup (getSessionToken e.cookies)
  caller : s.users.find (w.userKey (callerId s e)) = t.users.find (w.userKey (callerId s e))
  named : Post e "/api/register" ∨ Post e "/api/login" →
    ∀ userId, field w e "id" = some userId →
      s.users.find (w.userKey userId) = t.users.find (w.userKey userId)

/-- The response to a non-admin does not depend on what the request is not about. -/
theorem responses_upToToken (hjson : w.json.Documented) (self : ReplyServer)
    (hadmin : ¬ AdminCaller w s e) (h : LooksAlike w e s t) :
    List.Forall₂ UpToToken (responses w self s e) (responses w self t e) := by
  have hagree : EndAlike UpToToken (respond w self e) (respond w self e) s t := by
    have halike : Alike w {k | s.users.find k = t.users.find k} (getSessionToken e.cookies) s t :=
      ⟨h.key, h.failures, fun _ => id, h.session⟩
    exact agree_respond self hadmin h.named h.caller halike
  unfold EndAlike Agree at hagree
  cases hs : (respond w self e).run s <;> cases ht : (respond w self e).run t <;>
    simp only [hs, ht] at hagree
  · rw [responses_of_ok hjson hs, responses_of_ok hjson ht]
    exact .cons hagree.1 .nil
  · rw [responses_of_error hjson hs, responses_of_error hjson ht]
    exact .nil

/-- The state of a process that relays a camera. -/
def Reference.relaying : State :=
  { Reference.start with
    rtspConfig := RtspTable.empty.insert (bindText (str "front door")) (bindText (str "rtsp://cam"))
    relayer := ⟨true, str "rtsp://cam"⟩ }

theorem responses_upToToken_reference :
    List.Forall₂ UpToToken
      (responses Reference.world .controller Reference.start Reference.loginAdmin)
      (responses Reference.world .controller Reference.relaying Reference.loginAdmin) :=
  responses_upToToken Reference.json_documented _ (Reference.not_adminCaller _)
    ⟨rfl, Aligned.refl _, rfl, rfl, fun _ _ _ => rfl⟩

end CCTVWebServer
