import CCTVWebServer.Reference
import CCTVWebServer.Specification.Accounts

/-!
# Who a request is treated as

After any run the user of a token can be told from the history: the last login
that issued it, unless a logout or an eviction has come since. Nothing else in the
dispatch protects an account that is not approved or no longer active.
-/

namespace CCTVWebServer

open Foundation

variable {w : World} {s t : State} {x : Exchange} {h : List Exchange}
  {dbPath masterSecret token userId : Bytes}

/-- Failures of the libraries included, a session is open between the login and the first
logout or eviction that was answered 200. -/
theorem authenticated_iff_reports (hjson : w.json.Documented)
    (hsha : Function.Injective w.sha256Digest) (hs : Reachable w dbPath masterSecret s)
    (hempty : s.activeSessions = ∅) (hrun : Trace (ServedFresh w) s h t) (e : HttpRequestEvent) :
    Authenticated t e userId ↔
      Since (fun y => ¬ Reports w y (.logout (getSessionToken e.cookies)) ∧
          ¬ Reports w y (.evict userId))
        (fun y => ∃ password, Reports w y (.login userId password (getSessionToken e.cookies)))
        h := by
  have hnone (token : Bytes) : (s.registry w).session token = none := by
    simp only [State.registry, hempty]
    rfl
  rw [(hs.of_served (served_of_fresh hrun)).authenticated_iff hjson hsha, ← sessionOpen_events]
  exact Registry.session_iff (freshStep_run hjson hsha hrun) hnone _ _

/-- The request is a logout that presents the token, however it was answered. -/
def PresentsLogout (token : Bytes) (x : Exchange) : Prop :=
  Post x.request "/api/logout" ∧ getSessionToken x.request.cookies = token

/-- A logout that presents a token in use is answered 200. -/
theorem PresentsLogout.reports (hjson : w.json.Documented) (hopenssl : ¬ OpensslFails w)
    (hpresents : PresentsLogout token x) (hx : Served w s x t)
    (hsession : Authenticated s x.request userId) : Reports w x (.logout token) := by
  obtain ⟨post, rfl⟩ := hpresents
  refine .logout post (hx.logout_ok hjson hopenssl post ?_)
  rw [hsession.2]
  exact hsession.1

/-- Without failures it makes no difference how the logouts were answered. -/
theorem since_logout_iff (hjson : w.json.Documented) (hsha : Function.Injective w.sha256Digest)
    (hopenssl : ¬ OpensslFails w) (hs : Reachable w dbPath masterSecret s)
    (hempty : s.activeSessions = ∅) (hrun : Trace (ServedFresh w) s h t) :
    Since (fun y => ¬ Reports w y (.logout token) ∧ ¬ Reports w y (.evict userId))
        (fun y => ∃ password, Reports w y (.login userId password token)) h ↔
      Since (fun y => ¬ PresentsLogout token y ∧ ¬ Reports w y (.evict userId))
        (fun y => ∃ password, Reports w y (.login userId password token)) h := by
  induction hrun with
  | refl => simp
  | @step h t u x hrun hx ih =>
    rw [since_cons, since_cons, ← ih]
    refine or_congr_right (and_congr_left fun hsince => and_congr_left fun _ => not_congr ?_)
    constructor
    · rintro ⟨⟩
      exact ⟨by assumption, rfl⟩
    · rintro ⟨post, rfl⟩
      have hsession := (authenticated_iff_reports hjson hsha hs hempty hrun x.request).mpr hsince
      exact PresentsLogout.reports hjson hopenssl ⟨post, rfl⟩ hx.1 hsession

/-- A request is treated as one of a user exactly when a login issued its token to the user
and neither a logout has presented the token since nor the user been evicted; and then the
user's account is approved and active. -/
theorem authenticated_iff_history (hjson : w.json.Documented)
    (hsha : Function.Injective w.sha256Digest) (hopenssl : ¬ OpensslFails w)
    (hs : Reachable w dbPath masterSecret s) (hempty : s.activeSessions = ∅)
    (hrun : Trace (ServedFresh w) s h t) (e : HttpRequestEvent) (userId : Bytes) :
    (Authenticated t e userId ↔
      Since (fun y => ¬ PresentsLogout (getSessionToken e.cookies) y ∧
          ¬ Reports w y (.evict userId))
        (fun y => ∃ password, Reports w y (.login userId password (getSessionToken e.cookies)))
        h) ∧
    (Authenticated t e userId →
      ∃ row, t.users.find (w.userKey userId) = some row ∧
        row.isApproved = 1 ∧ row.isActive = 1) := by
  have ht := hs.of_served (served_of_fresh hrun)
  constructor
  · rw [authenticated_iff_reports hjson hsha hs hempty hrun e]
    exact since_logout_iff hjson hsha hopenssl hs hempty hrun
  · intro hauth
    obtain ⟨row, hrow, -, hflags⟩ := ht.session_user hjson hsha
      ((ht.authenticated_iff hjson hsha).mp hauth)
    exact ⟨row, hrow, hflags⟩

/-- After the first login of the admin, the request of a page that presents its token. -/
theorem authenticated_iff_history_reference :
    let e := Reference.get "/api/user/me" (Reference.cookie 0x64)
    let t := Reference.loggedIn
    (Authenticated t e (str "admin") ↔
      Since (fun y => ¬ PresentsLogout (getSessionToken e.cookies) y ∧
          ¬ Reports Reference.world y (.evict (str "admin")))
        (fun y => ∃ password, Reports Reference.world y
          (.login (str "admin") password (getSessionToken e.cookies)))
        [Reference.exchange Reference.start Reference.loginAdmin]) ∧
    (Authenticated t e (str "admin") →
      ∃ row, t.users.find (Reference.world.userKey (str "admin")) = some row ∧
        row.isApproved = 1 ∧ row.isActive = 1) :=
  authenticated_iff_history Reference.json_documented Reference.sha256_injective
    Reference.openssl_ok Reference.start_reachable rfl
    (.step .refl ⟨Reference.served _ _, fun _ _ _ _ => rfl⟩) _ _

end CCTVWebServer
