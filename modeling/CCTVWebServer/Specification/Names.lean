import CCTVWebServer.Specification.Accounts

/-!
# The usernames that were stored

Beside the state of a run goes a ghost: for every account the last username that an
answered request has stored for it. The users table has a row for exactly these
accounts, and seals that username in it. So what the two queries over the table
return can be told from the ghost.
-/

namespace CCTVWebServer

open Foundation

variable {w : World} {s t : State} {x : Exchange} {dbPath masterSecret : Bytes}

/-! ## The ghost -/

/-- The exchange stores a username for a user: a registration for the id it names, a profile
update for the caller. -/
inductive StoresName (w : World) (s : State) (x : Exchange) : Bytes → Bytes → Prop where
  | register {userId username : Bytes} (post : Post x.request "/api/register")
      (hid : field w x.request "id" = some userId)
      (hname : field w x.request "username" = some username) (hok : x.Ok) :
      StoresName w s x userId username
  | update {username : Bytes} (post : Post x.request "/api/user/update")
      (hname : field w x.request "username" = some username) (hok : x.Ok) :
      StoresName w s x (callerId s x.request) username

/-- The last username stored for each account. -/
abbrev Names := Bytes → Option Bytes

/-- The account there is from the start, with its username. -/
def bootstrappedNames : Names :=
  fun userId => if userId = str "admin" then some (str "Administrator") else none

/-- What a step from `s` does to the ghost. -/
inductive NamesStep (w : World) (s : State) (names : Names) : Label → Names → Prop where
  | stored {x : Exchange} {userId username : Bytes} (h : StoresName w s x userId username) :
      NamesStep w s names (.request x) (Function.update names userId (some username))
  | kept {x : Exchange} (h : ∀ userId username, ¬ StoresName w s x userId username) :
      NamesStep w s names (.request x) names
  | restart : NamesStep w s names .restart names

/-- A step of the server together with its ghost. -/
def NamedStep (w : World) (dbPath masterSecret : Bytes) (p : State × Names) (l : Label)
    (q : State × Names) : Prop :=
  Transition w dbPath masterSecret p.1 l q.1 ∧ NamesStep w p.1 p.2 l q.2

/-- The ghost does not get in the way of a run. -/
theorem exists_namedRun {h : List Label} (names : Names)
    (hrun : Trace (Transition w dbPath masterSecret) s h t) :
    ∃ names', Trace (NamedStep w dbPath masterSecret) (s, names) h (t, names') := by
  induction hrun with
  | refl => exact ⟨names, .refl⟩
  | @step h t u l _ hl ih =>
    obtain ⟨names', hnamed⟩ := ih
    have hnext : ∃ names'', NamesStep w t names' l names'' := by
      cases l with
      | restart => exact ⟨_, .restart⟩
      | request x =>
        by_cases hstores : ∃ userId username, StoresName w t x userId username
        · obtain ⟨userId, username, hstores⟩ := hstores
          exact ⟨_, .stored hstores⟩
        · exact ⟨_, .kept fun userId username h => hstores ⟨userId, username, h⟩⟩
    obtain ⟨names'', hnext⟩ := hnext
    exact ⟨names'', hnamed.step ⟨hl, hnext⟩⟩

theorem transition_of_named {h : List Label} {p q : State × Names}
    (hrun : Trace (NamedStep w dbPath masterSecret) p h q) :
    Trace (Transition w dbPath masterSecret) p.1 h q.1 := by
  induction hrun with
  | refl => exact .refl
  | step _ hl ih => exact ih.step hl.1

theorem StoresName.post {userId username : Bytes} (h : StoresName w s x userId username) :
    Post x.request "/api/register" ∨ Post x.request "/api/user/update" := by
  cases h with
  | register post => exact .inl post
  | update post => exact .inr post

theorem StoresName.ok {userId username : Bytes} (h : StoresName w s x userId username) : x.Ok := by
  cases h <;> assumption

/-- An exchange stores one username for one user. -/
theorem StoresName.unique {userId userId' username username' : Bytes}
    (h : StoresName w s x userId username) (h' : StoresName w s x userId' username') :
    userId = userId' ∧ username = username' := by
  cases h with
  | register post hid hname =>
    cases h' with
    | register _ hid' hname' =>
      exact ⟨Option.some.inj (hid.symm.trans hid'), Option.some.inj (hname.symm.trans hname')⟩
    | update post' => exact absurd (post.unique post') (by decide)
  | update post hname =>
    cases h' with
    | register post' => exact absurd (post.unique post') (by decide)
    | update _ hname' => exact ⟨rfl, Option.some.inj (hname.symm.trans hname')⟩

theorem NamesStep.of_stores {names names' : Names} {userId username : Bytes}
    (h : NamesStep w s names (.request x) names') (hstores : StoresName w s x userId username) :
    names' = Function.update names userId (some username) := by
  cases h with
  | stored hstores' =>
    obtain ⟨rfl, rfl⟩ := hstores.unique hstores'
    rfl
  | kept hnone => exact absurd hstores (hnone _ _)

theorem NamesStep.of_not_stores {names names' : Names}
    (h : NamesStep w s names (.request x) names')
    (hnone : ∀ userId username, ¬ StoresName w s x userId username) : names' = names := by
  cases h with
  | stored hstores => exact absurd hstores (hnone _ _)
  | kept => rfl

/-! ## The table agrees with the ghost -/

/-- The table has a row for the accounts of the ghost and no others, with the username sealed
in it. -/
def NamesMatch (w : World) (s : State) (names : Names) : Prop :=
  ∀ userId, (names userId = none → s.users.find (w.userKey userId) = none) ∧
    ∀ username, names userId = some username →
      ∃ row, s.users.find (w.userKey userId) = some row ∧
        w.Seals s.key username row.usernameEnc.val

variable {names names' : Names}

/-- Rows that appear under the same keys with the same username match the same ghost. -/
theorem NamesMatch.of_find (h : NamesMatch w s names) (hkey : t.key = s.key)
    (hfind : ∀ k, (t.users.find k).map UserRow.usernameEnc =
      (s.users.find k).map UserRow.usernameEnc) : NamesMatch w t names := by
  intro userId
  have hsame := hfind (w.userKey userId)
  refine ⟨fun hnone => ?_, fun username hname => ?_⟩
  · rw [(h userId).1 hnone] at hsame
    simpa using hsame
  · obtain ⟨row, hrow, hseals⟩ := (h userId).2 username hname
    rw [hrow] at hsame
    obtain ⟨row', hrow', henc⟩ := Option.map_eq_some_iff.mp hsame
    rw [hkey]
    exact ⟨row', hrow', by rwa [henc]⟩

theorem map_usernameEnc_update {users : UsersTable} {k : SqlText} {f : UserRow → UserRow}
    (hf : ∀ row, (f row).userIdHash = row.userIdHash)
    (hname : ∀ row, (f row).usernameEnc = row.usernameEnc) (k' : SqlText) :
    ((users.update k f hf).find k').map UserRow.usernameEnc =
      (users.find k').map UserRow.usernameEnc := by
  rw [Table.find_update]
  split_ifs with hk
  · subst hk
    simp [Function.comp_def, hname]
  · rfl

/-- The row of a registration is the account's, under the username it was given. -/
theorem NamesMatch.register (hsha : Function.Injective w.sha256Digest) (h : NamesMatch w s names)
    {userId username password : Bytes} {row : UserRow}
    (hrow : RegisteredRow w s.key userId username password row)
    (hfree : s.users.find (w.userKey userId) = none) :
    NamesMatch w ((Effect.register row).apply w s)
      (Function.update names userId (some username)) := by
  obtain ⟨users, hinsert⟩ : ∃ users, s.users.insert row = some users := by
    refine Option.ne_none_iff_exists'.mp fun hnone => ?_
    rw [Table.insert_eq_none, hrow.userIdHash] at hnone
    exact hnone hfree
  intro userId'
  simp only [Effect.apply, hinsert, Option.getD_some, Table.find_insert hinsert, hrow.userIdHash,
    World.userKey_inj hsha]
  by_cases huser : userId' = userId
  · subst huser
    refine ⟨by simp, fun username' hname => ?_⟩
    rw [Function.update_self, Option.some.injEq] at hname
    subst hname
    exact ⟨row, if_pos rfl, hrow.usernameEnc⟩
  · simp only [Function.update_of_ne huser, if_neg huser]
    exact h userId'

/-- A profile update seals the new username in the row of the caller. -/
theorem NamesMatch.updateProfile (hsha : Function.Injective w.sha256Digest)
    (h : NamesMatch w s names) {userId username encUsername : Bytes} (hash : Option SqlText)
    (hseals : w.Seals s.key username encUsername)
    (hrow : s.users.find (w.userKey userId) ≠ none) :
    NamesMatch w ((Effect.updateProfile userId (bindText encUsername) hash).apply w s)
      (Function.update names userId (some username)) := by
  intro userId'
  simp only [Effect.apply, Table.find_update, World.userKey_inj hsha]
  by_cases huser : userId' = userId
  · subst huser
    obtain ⟨row, hrow⟩ := Option.ne_none_iff_exists'.mp hrow
    refine ⟨by simp, fun username' hname => ?_⟩
    rw [Function.update_self, Option.some.injEq] at hname
    subst hname
    rw [if_pos rfl, hrow]
    exact ⟨_, rfl, hseals.bindText⟩
  · simp only [Function.update_of_ne huser, if_neg huser]
    exact h userId'

/-- No other request stores a username. -/
theorem Answer.not_storesName {eff : Effect} {r : HttpResponseEvent}
    (hanswer : Answer w s x.request eff r)
    (hpublished : x.published = [r] ∨ x.published = [] ∧ r.statusCode = 500)
    (hregister : ∀ row, eff ≠ .register row)
    (hupdate : ∀ userId enc hash, eff ≠ .updateProfile userId enc hash) (userId username : Bytes) :
    ¬ StoresName w s x userId username := by
  intro hstores
  have hpost {url : String} (post : Post x.request url) :
      url = "/api/register" ∨ url = "/api/user/update" :=
    hstores.post.imp post.unique post.unique
  cases hanswer with
  | quiet refused =>
    obtain ⟨r', hr', hstatus⟩ := hstores.ok
    have haccount : AccountPost x.request :=
      hstores.post.imp id fun h => .inr (.inr (.inl h))
    rcases hpublished with hr | ⟨hnil, -⟩
    · cases hr.symm.trans hr'
      exact refused haccount hstatus
    · cases hnil.symm.trans hr'
  | register => exact hregister _ rfl
  | updateProfile => exact hupdate _ _ _ rfl
  | login post => exact absurd (hpost post) (by decide)
  | logout post => exact absurd (hpost post) (by decide)
  | approve post => exact absurd (hpost post) (by decide)
  | evict post => exact absurd (hpost post) (by decide)
  | relay hurl =>
    rcases hstores.post with post | post <;> rcases hurl with hurl | hurl <;>
      exact absurd (str_inj.mp (post.1.symm.trans hurl)) (by decide)

/-- The effect of an exchange and the ghost keep step. -/
theorem Answer.namesMatch (hsha : Function.Injective w.sha256Digest) {eff : Effect}
    {r : HttpResponseEvent} (hanswer : Answer w s x.request eff r)
    (hpublished : x.published = [r] ∨ x.published = [] ∧ r.statusCode = 500)
    (hcaller : callerId s x.request ≠ [] →
      s.users.find (w.userKey (callerId s x.request)) ≠ none)
    (hstep : NamesStep w s names (.request x) names') (h : NamesMatch w s names) :
    NamesMatch w (eff.apply w s) names' := by
  have hok (hr : r.statusCode = 200) : x.Ok := by
    rcases hpublished with hpublished | ⟨-, hstatus⟩
    · exact ⟨r, hpublished, hr⟩
    · omega
  have hnone := hanswer.not_storesName hpublished
  cases hanswer with
  | register post hid hname _ _ hrow hfree hstatus =>
    rw [hstep.of_stores (.register post hid hname (hok hstatus))]
    exact h.register hsha hrow hfree
  | updateProfile post hid hname _ _ hseals hstatus =>
    rw [hstep.of_stores (.update post hname (hok hstatus))]
    exact h.updateProfile hsha _ hseals (hcaller hid)
  | approve =>
    rw [hstep.of_not_stores (hnone (by simp) (by simp))]
    exact h.of_find rfl fun k => map_usernameEnc_update UserRow.userIdHash_approve (fun _ => rfl) k
  | evict =>
    rw [hstep.of_not_stores (hnone (by simp) (by simp))]
    exact h.of_find rfl fun k => map_usernameEnc_update UserRow.userIdHash_evict (fun _ => rfl) k
  | _ =>
    rw [hstep.of_not_stores (hnone (by simp) (by simp))]
    exact h.of_find rfl fun _ => rfl

theorem NamedStep.namesMatch (hjson : w.json.Documented)
    (hsha : Function.Injective w.sha256Digest) {l : Label} {p q : State × Names}
    (hp : Reachable w dbPath masterSecret p.1) (hstep : NamedStep w dbPath masterSecret p l q)
    (hadmin : p.1.users.find (w.userKey (str "admin")) ≠ none) (h : NamesMatch w p.1 p.2) :
    NamesMatch w q.1 q.2 := by
  obtain ⟨s, names⟩ := p
  obtain ⟨t, names'⟩ := q
  obtain ⟨hl, hnames⟩ := hstep
  cases hl with
  | request hx =>
    obtain ⟨eff, r, ⟨n, published, rfl⟩, hanswer, hpublished⟩ := hx.effect hjson
    refine (hanswer.namesMatch hsha hpublished (fun hid => ?_) hnames h).of_find rfl fun _ => rfl
    obtain ⟨row, hrow, -⟩ := hp.session_user hjson hsha (callerId_ne_nil hid)
    simp [hrow]
  | restart hx =>
    cases hnames
    have hkey := (Transition.tableSound hjson hsha (.restart hx)
      (hp.tableSound hjson hsha)).1.trans (hp.tableSound hjson hsha).1.symm
    obtain ⟨users, n, hboot, rfl⟩ := Started.of_run hx
    rcases hboot with ⟨row, hrow, hinsert⟩ | ⟨rfl, -⟩
    · have hfree := Table.find_of_insert hinsert
      rw [hrow.userIdHash] at hfree
      exact absurd hfree hadmin
    · exact h.of_find hkey fun _ => rfl

end CCTVWebServer
