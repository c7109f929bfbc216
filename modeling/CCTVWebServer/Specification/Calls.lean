import CCTVWebServer.Specification.Success

/-!
# Which calls decide

The contracts so far say why a function may fail. Here is when: the calls it makes
are known in advance, it succeeds when all of them do, and gives up at the first
that does not. So the outcome of a request can be told from the pattern of
failures that lies ahead.
-/

namespace CCTVWebServer

open Foundation

variable {w : World} {s t : State} {e : HttpRequestEvent}

/-! ## Patterns of failures -/

inductive Library where
  | openssl
  | sqlite
  deriving DecidableEq

def World.callOk (w : World) : Library → Nat → Bool
  | .openssl => w.opensslOk
  | .sqlite => w.sqliteOk

/-- Calls to these libraries, the first of them the `n`-th of the process, all succeed. -/
def AllOk (w : World) (n : Nat) : List Library → Prop
  | [] => True
  | call :: calls => w.callOk call n = true ∧ AllOk w (n + 1) calls

instance decidableAllOk (w : World) : ∀ n calls, Decidable (AllOk w n calls)
  | _, [] => instDecidableTrue
  | n, call :: calls =>
    have := decidableAllOk w (n + 1) calls
    inferInstanceAs (Decidable (w.callOk call n = true ∧ AllOk w (n + 1) calls))

theorem allOk_append {n : Nat} {a b : List Library} :
    AllOk w n (a ++ b) ↔ AllOk w n a ∧ AllOk w (n + a.length) b := by
  induction a generalizing n with
  | nil => simp [AllOk]
  | cons call a ih =>
    have hlength : n + 1 + a.length = n + (call :: a).length := by
      simp only [List.length_cons]
      omega
    simp only [List.cons_append, AllOk, ih, and_assoc, hlength]

theorem not_allOk_of_left {n : Nat} {a b : List Library} (h : ¬ AllOk w n a) :
    ¬ AllOk w n (a ++ b) := fun hab => h (allOk_append.mp hab).1

/-- The number of the first of these calls that fails. -/
def firstFailure (w : World) : Nat → List Library → Option Nat
  | _, [] => none
  | n, call :: calls => if w.callOk call n then firstFailure w (n + 1) calls else some n

theorem firstFailure_eq_none {n : Nat} {calls : List Library} :
    firstFailure w n calls = none ↔ AllOk w n calls := by
  induction calls generalizing n with
  | nil => simp [firstFailure, AllOk]
  | cons call calls ih =>
    unfold firstFailure AllOk
    split
    · rename_i hok
      rw [ih, and_iff_right hok]
    · rename_i hfail
      exact iff_of_false (Option.some_ne_none n) fun h => hfail h.1

theorem not_allOk_of_firstFailure {n m : Nat} {calls : List Library}
    (h : firstFailure w n calls = some m) : ¬ AllOk w n calls := by
  intro hok
  rw [firstFailure_eq_none.mpr hok] at h
  cases h

theorem firstFailure_append {n : Nat} {a b : List Library} :
    firstFailure w n (a ++ b) = (firstFailure w n a).or (firstFailure w (n + a.length) b) := by
  induction a generalizing n with
  | nil => rfl
  | cons call a ih =>
    have hlength : n + 1 + a.length = n + (call :: a).length := by
      simp only [List.length_cons]
      omega
    simp only [List.cons_append, firstFailure, ih, hlength]
    split <;> rfl

theorem firstFailure_append_left {n m : Nat} {a : List Library}
    (h : firstFailure w n a = some m) (b : List Library) :
    firstFailure w n (a ++ b) = some m := by
  rw [firstFailure_append, h, Option.some_or]

theorem firstFailure_append_right {n : Nat} {a : List Library} (h : AllOk w n a)
    (b : List Library) : firstFailure w n (a ++ b) = firstFailure w (n + a.length) b := by
  rw [firstFailure_append, firstFailure_eq_none.mpr h, Option.none_or]

/-- An exception whose text is ASCII, as every message about a failed call is. -/
def AsciiException (fault : Fault) : Prop := ∃ what, fault = .exception what ∧ Utf8.Ascii what

/-! ## Code that only calls -/

/-- Wherever it starts, the code makes these calls: it returns into `P` behind the last of
them, or raises at the first that fails. -/
def Uses {α : Type} (w : World) (m : Outside α) (calls : List Library) (P : α → Prop) : Prop :=
  ∀ n, Ensures m n (fun a k => AllOk w n calls ∧ k = n + calls.length ∧ P a)
    (fun fault _ => ¬ AllOk w n calls ∧ AsciiException fault)

/-- The same, with the number of the call behind which the code raises. -/
def Counts {α : Type} (w : World) (m : Outside α) (calls : List Library) (P : α → Prop) : Prop :=
  ∀ n, Ensures m n (fun a k => AllOk w n calls ∧ k = n + calls.length ∧ P a)
    (fun fault k => ∃ j, firstFailure w n calls = some j ∧ k = j + 1 ∧ AsciiException fault)

theorem Counts.uses {α : Type} {m : Outside α} {calls : List Library} {P : α → Prop}
    (hm : Counts w m calls P) : Uses w m calls P := by
  intro n
  refine (hm n).mono (fun _ _ h => h) ?_
  rintro fault _ ⟨j, hfail, -, hascii⟩
  exact ⟨not_allOk_of_firstFailure hfail, hascii⟩

theorem Counts.bind {α β : Type} {m : Outside α} {f : α → Outside β} {a b : List Library}
    {P : α → Prop} {Q : β → Prop} (hm : Counts w m a P) (hf : ∀ x, P x → Counts w (f x) b Q) :
    Counts w (m >>= f) (a ++ b) Q := by
  intro n
  refine (hm n).bind ?_ fun fault k ⟨j, hfail, h⟩ => ⟨j, firstFailure_append_left hfail b, h⟩
  rintro x _ ⟨hok, rfl, hx⟩
  refine (hf x hx (n + a.length)).mono ?_ fun fault k ⟨j, hfail, h⟩ =>
    ⟨j, (firstFailure_append_right hok b).trans hfail, h⟩
  rintro y _ ⟨hok', rfl, hy⟩
  exact ⟨allOk_append.mpr ⟨hok, hok'⟩, by rw [List.length_append, Nat.add_assoc], hy⟩

theorem counts_pure {α : Type} {a : α} {P : α → Prop} (h : P a) : Counts w (pure a) [] P :=
  fun _ => ⟨trivial, rfl, h⟩

theorem counts_openssl {what : String} (hascii : Utf8.Ascii (str what)) :
    Counts w (openssl w what) [.openssl] (fun _ => True) := by
  intro n
  simp only [openssl, ensures_bind, ensures_nextCall, ensures_ite, ensures_pure, ensures_throw,
    AllOk, firstFailure, World.callOk]
  exact ⟨fun h => ⟨⟨h, trivial⟩, rfl, trivial⟩, fun h => ⟨n, if_neg h, rfl, _, rfl, hascii⟩⟩

/-- Code behind a call to OpenSSL. -/
theorem Counts.after_openssl {α : Type} {what : String} {m : Outside α} {calls : List Library}
    {P : α → Prop} (hascii : Utf8.Ascii (str what)) (hm : Counts w m calls P) :
    Counts w (openssl w what >>= fun _ => m) (.openssl :: calls) P :=
  (counts_openssl hascii).bind fun _ _ => hm

theorem sha256_counts (plaintext : Bytes) :
    Counts w (sha256 w plaintext) [.openssl, .openssl] (fun hash => hash = w.sha256Hex plaintext) :=
  .after_openssl (by decide) (.after_openssl (by decide) (counts_pure rfl))

theorem sha256_uses (plaintext : Bytes) :
    Uses w (sha256 w plaintext) [.openssl, .openssl] (fun hash => hash = w.sha256Hex plaintext) :=
  (sha256_counts plaintext).uses

theorem randBytes_counts (length : Nat) {what : String} (hascii : Utf8.Ascii (str what)) :
    Counts w (randBytes w length what) [.openssl] (fun bytes => bytes.length = length) := by
  intro n
  simp only [randBytes, ensures_bind, ensures_nextCall, ensures_ite, ensures_pure, ensures_throw,
    AllOk, firstFailure, World.callOk]
  exact ⟨fun h => ⟨⟨h, trivial⟩, rfl, by simp⟩, fun h => ⟨n, if_neg h, rfl, _, rfl, hascii⟩⟩

/-- The calls of one encryption. -/
def encryptCalls : List Library := List.replicate 8 .openssl

/-- The calls of one decryption. -/
def decryptCalls : List Library := List.replicate 6 .openssl

theorem encryptAES256GCM_counts (plaintext : Bytes) {key : Bytes} (hkey : key.length = 32) :
    Counts w (encryptAES256GCM w plaintext key) encryptCalls
      (fun text => w.Seals key plaintext text) := by
  unfold encryptAES256GCM
  rw [if_neg (not_not.mpr hkey)]
  refine .after_openssl (by decide) ?_
  refine (randBytes_counts 12 (by decide)).bind fun iv hiv => ?_
  refine .after_openssl (by decide) ?_
  refine .after_openssl (by decide) ?_
  refine .after_openssl (by decide) ?_
  refine .after_openssl (by decide) ?_
  refine .after_openssl (by decide) ?_
  refine .after_openssl (by decide) ?_
  exact counts_pure ⟨hkey, iv, hiv, by simp only [toHex_append]⟩

theorem encryptAES256GCM_uses (plaintext : Bytes) {key : Bytes} (hkey : key.length = 32) :
    Uses w (encryptAES256GCM w plaintext key) encryptCalls
      (fun text => w.Seals key plaintext text) :=
  (encryptAES256GCM_counts plaintext hkey).uses

/-- A key of another length is refused before the first call. -/
theorem encryptAES256GCM_refuses (plaintext : Bytes) {key : Bytes} (hkey : key.length ≠ 32)
    (n : Nat) :
    Ensures (encryptAES256GCM w plaintext key) n (fun _ _ => False)
      (fun fault k => k = n ∧ AsciiException fault) := by
  unfold encryptAES256GCM
  rw [if_pos hkey]
  exact ⟨rfl, _, rfl, by decide⟩

theorem decryptAES256GCM_uses {text key plaintext : Bytes}
    (hopened : w.opened key text = some plaintext) :
    Uses w (decryptAES256GCM w text key) decryptCalls (fun opened => opened = plaintext) := by
  obtain ⟨⟨hkey, hlength, hdata⟩, hopen⟩ :
      (key.length = 32 ∧ (12 + 16) * 2 ≤ text.length ∧ 12 + 16 ≤ (fromHex text).length) ∧
        w.gcmOpen key ((fromHex text).take 12) (((fromHex text).drop 12).take 16)
          ((fromHex text).drop 28) = some plaintext := by
    dsimp only [World.opened] at hopened
    split_ifs at hopened with h
    exact ⟨h, hopened⟩
  refine Counts.uses ?_
  unfold decryptAES256GCM
  rw [if_neg (not_not.mpr hkey), if_neg (by omega), if_neg (by omega)]
  dsimp only
  rw [hopen]
  refine .after_openssl (by decide) ?_
  refine .after_openssl (by decide) ?_
  refine .after_openssl (by decide) ?_
  refine .after_openssl (by decide) ?_
  refine .after_openssl (by decide) ?_
  refine .after_openssl (by decide) ?_
  exact counts_pure rfl

/-! ## The server -/

/-- The state after some calls. -/
def State.skip (s : State) (n : Nat) : State := { s with calls := s.calls + n }

@[simp] theorem State.calls_skip (s : State) (n : Nat) : (s.skip n).calls = s.calls + n := rfl

@[simp] theorem State.key_skip (s : State) (n : Nat) : (s.skip n).key = s.key := rfl

@[simp] theorem State.users_skip (s : State) (n : Nat) : (s.skip n).users = s.users := rfl

@[simp] theorem State.rtspConfig_skip (s : State) (n : Nat) :
    (s.skip n).rtspConfig = s.rtspConfig := rfl

@[simp] theorem State.relayer_skip (s : State) (n : Nat) : (s.skip n).relayer = s.relayer := rfl

@[simp] theorem State.skip_skip (s : State) (m n : Nat) : (s.skip m).skip n = s.skip (m + n) := by
  simp only [State.skip, Nat.add_assoc]

theorem idle_skip (s : State) (n : Nat) : Idle s (s.skip n) := ⟨_, rfl⟩

/-- Code that calls, with the code that follows it. -/
theorem Uses.run {α β : Type} {m : Outside α} {calls : List Library} {P : α → Prop}
    (hm : Uses w m calls P) {f : α → Server β} {Q : β → State → Prop} {E : Fault → State → Prop}
    (hE : ∀ fault t, ¬ AllOk w s.calls calls → Idle s t → AsciiException fault → E fault t)
    (hQ : ∀ a, AllOk w s.calls calls → P a → Ensures (f a) (s.skip calls.length) Q E) :
    Ensures (outside m >>= f) s Q E := by
  rw [ensures_bind, outside, ensures_focus]
  refine (hm s.calls).mono ?_ fun fault n h => hE fault _ h.1 ⟨n, rfl⟩ h.2
  rintro a _ ⟨hok, rfl, ha⟩
  exact hQ a hok ha

/-- Code that is given the key of the database. -/
theorem Uses.run_key {α β : Type} {m : Bytes → Outside α} {calls : List Library} {P : α → Prop}
    {key : Bytes} (hm : Uses w (m key) calls P) (hkey : s.key = key) {f : α → Server β}
    {Q : β → State → Prop} {E : Fault → State → Prop}
    (hE : ∀ fault t, ¬ AllOk w s.calls calls → Idle s t → AsciiException fault → E fault t)
    (hQ : ∀ a, AllOk w s.calls calls → P a → Ensures (f a) (s.skip calls.length) Q E) :
    Ensures (get >>= fun t => outside (m t.key) >>= f) s Q E := by
  rw [ensures_bind, ensures_get, hkey]
  exact hm.run hE hQ

/-- The code raises, and the `m`-th call was the last. -/
def BreaksOff (m : Nat) (fault : Fault) (t : State) : Prop :=
  t.calls = m + 1 ∧ ∃ what, fault = .exception what

/-- The code raises behind the first of these calls that fails, or behind one that `R` tells. -/
def FailsBy (w : World) (n : Nat) (calls : List Library) (R : Nat → Prop) (fault : Fault)
    (t : State) : Prop :=
  ∃ m, (firstFailure w n calls = some m ∨ R m) ∧ BreaksOff m fault t

section FailsBy

variable {n : Nat} {a b : List Library} {R : Nat → Prop} {fault : Fault}

/-- What fails by the calls themselves, in front of others. -/
theorem FailsBy.left (h : FailsBy w n a (fun _ => False) fault t) :
    FailsBy w n (a ++ b) R fault t := by
  obtain ⟨m, hfail | hno, hbreaks⟩ := h
  · exact ⟨m, .inl (firstFailure_append_left hfail b), hbreaks⟩
  · exact hno.elim

/-- What fails behind calls that succeed. -/
theorem FailsBy.behind (hok : AllOk w n a) (h : FailsBy w (n + a.length) b R fault t) :
    FailsBy w n (a ++ b) R fault t := by
  obtain ⟨m, hfail | hother, hbreaks⟩ := h
  · exact ⟨m, .inl ((firstFailure_append_right hok b).trans hfail), hbreaks⟩
  · exact ⟨m, .inr hother, hbreaks⟩

theorem FailsBy.imp {R' : Nat → Prop} (h : FailsBy w n a R fault t) (hR : ∀ m, R m → R' m) :
    FailsBy w n a R' fault t := by
  obtain ⟨m, hwhy, hbreaks⟩ := h
  exact ⟨m, hwhy.imp_right (hR m), hbreaks⟩

end FailsBy

/-- Code that counts its calls, with the code that follows it. -/
theorem Counts.run {α β : Type} {m : Outside α} {calls : List Library} {P : α → Prop}
    (hm : Counts w m calls P) {f : α → Server β} {Q : β → State → Prop} {E : Fault → State → Prop}
    (hE : ∀ fault t, FailsBy w s.calls calls (fun _ => False) fault t → E fault t)
    (hQ : ∀ a, AllOk w s.calls calls → P a → Ensures (f a) (s.skip calls.length) Q E) :
    Ensures (outside m >>= f) s Q E := by
  rw [ensures_bind, outside, ensures_focus]
  refine (hm s.calls).mono ?_ ?_
  · rintro a _ ⟨hok, rfl, ha⟩
    exact hQ a hok ha
  · rintro fault _ ⟨j, hfail, rfl, what, hfault, -⟩
    exact hE fault _ ⟨j, .inl hfail, rfl, what, hfault⟩

theorem Counts.run_key {α β : Type} {m : Bytes → Outside α} {calls : List Library}
    {P : α → Prop} {key : Bytes} (hm : Counts w (m key) calls P) (hkey : s.key = key)
    {f : α → Server β} {Q : β → State → Prop} {E : Fault → State → Prop}
    (hE : ∀ fault t, FailsBy w s.calls calls (fun _ => False) fault t → E fault t)
    (hQ : ∀ a, AllOk w s.calls calls → P a → Ensures (f a) (s.skip calls.length) Q E) :
    Ensures (get >>= fun t => outside (m t.key) >>= f) s Q E := by
  rw [ensures_bind, ensures_get, hkey]
  exact hm.run hE hQ

/-- A step of SQLite, with the code that follows it. -/
theorem run_sqlite {β : Type} {f : Bool → Server β} {Q : β → State → Prop}
    {E : Fault → State → Prop}
    (hno : ¬ AllOk w s.calls [.sqlite] → Ensures (f false) (s.skip 1) Q E)
    (hyes : AllOk w s.calls [.sqlite] → Ensures (f true) (s.skip 1) Q E) :
    Ensures (outside (sqlite w) >>= f) s Q E := by
  simp only [AllOk, World.callOk, and_true] at hno hyes
  rw [ensures_bind, outside, ensures_focus]
  simp only [sqlite, ensures_bind, ensures_nextCall, ensures_pure]
  cases h : w.sqliteOk s.calls with
  | false => exact hno (by simp [h])
  | true => exact hyes h

/-- A decryption of a text that opens, an exception being caught. -/
theorem run_decrypt_uses {β : Type} {text key plaintext : Bytes} {f : Option Bytes → Server β}
    (hopened : w.opened key text = some plaintext) (hkey : s.key = key) {Q : β → State → Prop}
    {E : Fault → State → Prop}
    (hno : ∀ t, ¬ AllOk w s.calls decryptCalls → Idle s t → Ensures (f none) t Q E)
    (hyes : AllOk w s.calls decryptCalls →
      Ensures (f (some plaintext)) (s.skip decryptCalls.length) Q E) :
    Ensures (get >>= fun t => outside (attempt (decryptAES256GCM w text t.key)) >>= f) s Q E := by
  rw [ensures_bind, ensures_get, hkey, ensures_bind, outside, ensures_focus]
  simp only [attempt, ensures_tryCatch, ensures_map]
  refine (decryptAES256GCM_uses hopened s.calls).mono ?_ ?_
  · rintro _ _ ⟨hok, rfl, rfl⟩
    exact hyes hok
  · rintro _ n ⟨hno', what, rfl, -⟩
    exact hno _ hno' ⟨n, rfl⟩

/-- A decryption of any text: it gives a plaintext when there is one and all calls succeed. -/
theorem run_decrypt_ends {β : Type} {text key : Bytes} {f : Option Bytes → Server β}
    (hkey : s.key = key) {Q : β → State → Prop} {E : Fault → State → Prop}
    (hno : ∀ t, (∀ plaintext, w.opened key text = some plaintext → ¬ AllOk w s.calls decryptCalls) →
      Idle s t → Ensures (f none) t Q E)
    (hyes : ∀ plaintext, w.opened key text = some plaintext → AllOk w s.calls decryptCalls →
      Ensures (f (some plaintext)) (s.skip decryptCalls.length) Q E) :
    Ensures (get >>= fun t => outside (attempt (decryptAES256GCM w text t.key)) >>= f) s Q E := by
  cases hopened : w.opened key text with
  | none =>
    refine run_decrypt hkey fun opened t ht hread => ?_
    cases opened with
    | none => exact hno t (by simp [hopened]) ht
    | some plaintext => exact absurd (hopened.symm.trans (hread.1 plaintext rfl)) (by simp)
  | some plaintext =>
    exact run_decrypt_uses hopened hkey (fun t hfails => hno t fun _ _ => hfails)
      (hyes plaintext hopened)

/-! ## The lookup of an account -/

/-- The context for a digest cannot be created. -/
def ContextFails (w : World) (n : Nat) : Prop := ¬ AllOk w n [.openssl]

/-- The context for a digest can be created, but the digest fails. -/
def DigestFails (w : World) (n : Nat) : Prop := AllOk w n [.openssl] ∧ ¬ AllOk w (n + 1) [.openssl]

/-- The exception of `sha256`. -/
def DigestFault (w : World) (n : Nat) (fault : Fault) : Prop :=
  (ContextFails w n ∧ fault = .exception (str "Failed to create EVP_MD_CTX")) ∨
    (DigestFails w n ∧ fault = .exception (str "SHA256 digest failed"))

theorem sha256_ends (plaintext : Bytes) (n : Nat) :
    Ensures (sha256 w plaintext) n
      (fun hash k => AllOk w n [.openssl, .openssl] ∧ hash = w.sha256Hex plaintext ∧ k = n + 2)
      (fun fault _ => DigestFault w n fault) := by
  simp only [sha256, openssl, ensures_bind, ensures_nextCall, ensures_ite, ensures_pure,
    ensures_throw, DigestFault, ContextFails, DigestFails, AllOk, World.callOk, and_true]
  refine ⟨fun hcontext => ⟨fun hdigest => ⟨⟨hcontext, hdigest⟩, rfl⟩, fun hdigest => ?_⟩, ?_⟩
  · exact .inr ⟨hcontext, hdigest⟩
  · exact .inl

/-- The calls of `getUser` for a user with a row. -/
def lookupCalls : List Library :=
  [Library.openssl, Library.openssl] ++
    ([Library.sqlite] ++ ([Library.sqlite] ++ (decryptCalls ++ decryptCalls)))

theorem DigestFault.not_allOk {n : Nat} {fault : Fault} (h : DigestFault w n fault) :
    ¬ AllOk w n lookupCalls := by
  rcases h with ⟨hcontext, -⟩ | ⟨hdigest, -⟩
  · exact fun hall => hcontext ⟨hall.1, trivial⟩
  · exact fun hall => hdigest.2 ⟨hall.2.1, trivial⟩

theorem DigestFault.ascii {n : Nat} {fault : Fault} (h : DigestFault w n fault) :
    AsciiException fault := by
  rcases h with ⟨-, rfl⟩ | ⟨-, rfl⟩
  · exact ⟨_, rfl, by decide⟩
  · exact ⟨_, rfl, by decide⟩

/-- A user is found exactly when the row can be read and all calls succeed. Otherwise the caller
keeps the role of the record it handed over. -/
theorem getUser_ends (userId : Bytes) (outUser : UserRecord) (s : State) :
    Ensures (getUser w userId outUser) s
      (fun result t => AllOk w s.calls [.openssl, .openssl] ∧
        ((∃ user, Fetched w s userId user ∧ AllOk w s.calls lookupCalls ∧ result = (true, user) ∧
          t = s.skip lookupCalls.length) ∨
        ((∀ user, Fetched w s userId user → ¬ AllOk w s.calls lookupCalls) ∧ result.1 = false ∧
          result.2.role = outUser.role ∧ Idle s t)))
      (fun fault t => DigestFault w s.calls fault ∧ Idle s t) := by
  simp only [lookupCalls, allOk_append]
  rw [getUser, ensures_bind, outside, ensures_focus]
  refine (sha256_ends userId s.calls).mono ?_ fun fault n hfault => ⟨hfault, n, rfl⟩
  rintro _ _ ⟨hhash, rfl, rfl⟩
  change Ensures _ (s.skip 2) _ _
  have hlate {t : State} (ht : Idle (s.skip 2) t) : Idle s t := (idle_skip s 2).trans ht
  refine run_sqlite (fun hno => ⟨hhash, .inr ⟨fun _ _ h => hno h.2.1, rfl, rfl, ?_⟩⟩) ?_
  · exact hlate (idle_skip _ _)
  intro hprepare
  refine run_sqlite (fun hno => ⟨hhash, .inr ⟨fun _ _ h => hno h.2.2.1, rfl, rfl, ?_⟩⟩) ?_
  · exact hlate ((idle_skip _ _).trans (idle_skip _ _))
  intro hstep
  simp only [not_true_eq_false, reduceIte]
  rw [ensures_bind, ensures_get]
  have hkey : bindText (w.sha256Hex userId) = w.userKey userId := rfl
  simp only [State.skip_skip, State.users_skip, hkey]
  cases hrow : s.users.find (w.userKey userId) with
  | none =>
    refine ⟨hhash, .inr ⟨?_, rfl, rfl, idle_skip _ _⟩⟩
    rintro user ⟨row, _, _, hfound, -⟩
    cases hrow.symm.trans hfound
  | some row =>
    -- A row that is read has both columns open, so a closed one leaves the user unread.
    refine run_decrypt_ends (by rfl) (fun t hno ht => ?_) fun openId hid hopenId => ?_
    · refine ⟨hhash, .inr ⟨?_, rfl, rfl, (idle_skip _ _).trans ht⟩⟩
      rintro user ⟨row', openId, _, hfound, hid, -⟩ hall
      cases hrow.symm.trans hfound
      exact hno openId hid hall.2.2.2.1
    refine run_decrypt_ends (by rfl) (fun t hno ht => ?_) fun openName hname hopenName => ?_
    · refine ⟨hhash, .inr ⟨?_, rfl, rfl, (idle_skip _ _).trans ((idle_skip _ _).trans ht)⟩⟩
      rintro user ⟨row', _, openName, hfound, -, hname, -⟩ hall
      cases hrow.symm.trans hfound
      exact hno openName hname hall.2.2.2.2
    refine ⟨hhash, .inl ⟨_, ⟨row, openId, openName, hrow, hid, hname, rfl⟩, ?_, rfl, ?_⟩⟩
    · exact ⟨hhash, hprepare, hstep, hopenId, hopenName⟩
    · simp [decryptCalls]

/-- A stored user is found when all calls succeed. -/
theorem getUser_uses {userId : Bytes} {user : UserRecord} (h : Fetched w s userId user)
    (outUser : UserRecord) :
    Ensures (getUser w userId outUser) s
      (fun result t =>
        (AllOk w s.calls lookupCalls ∧ result = (true, user) ∧ t = s.skip lookupCalls.length) ∨
        (¬ AllOk w s.calls lookupCalls ∧ Idle s t ∧ result.2.role = outUser.role))
      (fun fault t => ¬ AllOk w s.calls lookupCalls ∧ Idle s t ∧ AsciiException fault) := by
  refine (getUser_ends userId outUser s).mono ?_ fun fault t hfault =>
    ⟨hfault.1.not_allOk, hfault.2, hfault.1.ascii⟩
  rintro result t ⟨-, ⟨user', hfetched, hok, rfl, rfl⟩ | ⟨hno, -, hrole, ht⟩⟩
  · cases h.unique hfetched
    exact .inl ⟨hok, rfl, rfl⟩
  · exact .inr ⟨hno user h, ht, hrole⟩

end CCTVWebServer
