import CCTVWebServer.Reference

/-!
# The session cookie among other cookies

A browser joins its cookies with `"; "`. `getSessionToken` looks for the text
`SessionID=` wherever it stands, so another cookie that contains this text in its
name or value comes before the session cookie. The condition under which the token
is found is exact.
-/

namespace CCTVWebServer

open Foundation

/-! ## Cookie headers -/

structure Cookie where
  name : Bytes
  value : Bytes
  deriving DecidableEq

def Cookie.text (c : Cookie) : Bytes := c.name ++ str "=" ++ c.value

def cookieHeader (cookies : List Cookie) : Bytes :=
  List.intercalate (str "; ") (cookies.map Cookie.text)

def sessionName : Bytes := str "SessionID"

/-- A character of a token: visible, and no delimiter. -/
def TokenChar (b : UInt8) : Prop :=
  0x21 ≤ b ∧ b ≤ 0x7E ∧ b ∉ str "\"(),/:;<=>?@[\\]\x7b\x7d"

instance : DecidablePred TokenChar := fun b =>
  inferInstanceAs (Decidable (0x21 ≤ b ∧ b ≤ 0x7E ∧ b ∉ str "\"(),/:;<=>?@[\\]\x7b\x7d"))

/-- What a browser sends: the names are tokens, no value contains a semicolon, and there is
one session cookie at most. -/
structure WellFormedCookies (cookies : List Cookie) : Prop where
  names : ∀ c ∈ cookies, c.name ≠ [] ∧ ∀ b ∈ c.name, TokenChar b
  values : ∀ c ∈ cookies, (0x3B : UInt8) ∉ c.value
  session : cookies.countP (·.name = sessionName) ≤ 1

/-- The value of the session cookie, empty when there is none. -/
def sessionValue (cookies : List Cookie) : Bytes :=
  ((cookies.find? fun c => c.name = sessionName).map Cookie.value).getD []

/-! ## Searching -/

section find

variable {needle text : Bytes} {separator : UInt8}

/-- A text without the separator that stands in front of a longer one ends before it. -/
theorem prefix_append_separator (h : separator ∉ needle) (a b : Bytes) :
    needle <+: a ++ separator :: b ↔ needle <+: a := by
  constructor
  · intro hprefix
    refine List.prefix_of_prefix_length_le hprefix (List.prefix_append _ _) ?_
    by_contra hlong
    have hlonger : a ++ [separator] <+: needle := by
      refine List.prefix_of_prefix_length_le ?_ hprefix ?_
      · exact ⟨b, by simp⟩
      · simp only [List.length_append, List.length_singleton]
        omega
    exact h (hlonger.subset (by simp))
  · exact fun hprefix => hprefix.trans (List.prefix_append _ _)

/-- Nothing is found across a separator. -/
theorem find_append_separator (hne : needle ≠ []) (h : separator ∉ needle) (a b : Bytes) :
    find needle (a ++ separator :: b) =
      (find needle a).or ((find needle b).map (· + (a.length + 1))) := by
  induction a with
  | nil =>
    have hno : ¬ needle <+: separator :: b := by
      have hempty := (prefix_append_separator h [] b).not
      rw [List.nil_append] at hempty
      rw [hempty, List.prefix_nil]
      exact hne
    simp [find, hne, hno]
  | cons x a ih =>
    have hhere := prefix_append_separator h (x :: a) b
    rw [List.cons_append] at hhere ⊢
    simp only [find, hhere, ih]
    split_ifs with hprefix
    · rfl
    · cases find needle a with
      | some pos => rfl
      | none =>
        simp only [Option.none_or, Option.map_none, Option.map_map, List.length_cons]
        congr 1

theorem find_prefix (needle text : Bytes) : find needle (needle ++ text) = some 0 := by
  cases h : needle ++ text with
  | nil => simp [find, (List.append_eq_nil_iff.mp h).1]
  | cons b rest =>
    rw [find, if_pos]
    exact h ▸ List.prefix_append _ _

theorem find_eq_some {pos : Nat} (h : find needle text = some pos) :
    needle <+: text.drop pos := by
  induction text generalizing pos with
  | nil =>
    unfold find at h
    split_ifs at h with hempty
    simp [hempty]
  | cons b rest ih =>
    unfold find at h
    split_ifs at h with hprefix
    · cases h
      exact hprefix
    · obtain ⟨k, hk, rfl⟩ := Option.map_eq_some_iff.mp h
      exact ih hk

/-- The first semicolon ends the part without one. -/
theorem find_semicolon (text : Bytes) :
    (match find (str ";") text with
      | none => text
      | some pos => text.take pos) = text.takeWhile (· ≠ 0x3B) := by
  have hsemicolon : str ";" = [0x3B] := by decide
  rw [hsemicolon]
  induction text with
  | nil => rfl
  | cons b rest ih =>
    by_cases hb : b = 0x3B
    · subst hb
      simp [find]
    · have hno : ¬ [0x3B] <+: b :: rest := by
        rw [List.singleton_prefix_cons_iff]
        exact fun h => hb h.symm
      rw [find, if_neg hno, List.takeWhile_cons_of_pos (by simpa using hb), ← ih]
      cases find [0x3B] rest <;> rfl

theorem takeWhile_append_semicolon (a b : Bytes) :
    (a ++ 0x3B :: b).takeWhile (· ≠ 0x3B) = a.takeWhile (· ≠ 0x3B) := by
  induction a with
  | nil => rfl
  | cons x a ih => simp only [List.cons_append, List.takeWhile_cons, ih]

end find

/-! ## The parser -/

/-- What stands behind the first `SessionID=` of a text, up to a semicolon. -/
def afterName (text : Bytes) : Option Bytes :=
  (find (str "SessionID=") text).map fun pos => (text.drop (pos + 10)).takeWhile (· ≠ 0x3B)

theorem getSessionToken_eq (header : Bytes) :
    getSessionToken header = (afterName header).getD [] := by
  unfold getSessionToken afterName
  cases find (str "SessionID=") header with
  | none => rfl
  | some pos =>
    have hcut := find_semicolon (header.drop (pos + 10))
    simp only [findFrom, Option.map_some, Option.getD_some]
    rw [← hcut]
    cases find (str ";") (header.drop (pos + 10)) with
    | none => rfl
    | some k => simp

/-- The part in front of a semicolon is searched first. -/
theorem afterName_append (a b : Bytes) :
    afterName (a ++ 0x3B :: b) = (afterName a).or (afterName b) := by
  have hname : str "SessionID=" ≠ [] := by decide
  have hkept : (0x3B : UInt8) ∉ str "SessionID=" := by decide
  have hfind := find_append_separator hname hkept a b
  have hlength : (str "SessionID=").length = 10 := by decide
  unfold afterName
  rw [hfind]
  cases ha : find (str "SessionID=") a with
  | none =>
    simp only [Option.none_or, Option.map_none, Option.map_map]
    congr 1
    funext pos
    have hdrop : (a ++ 0x3B :: b).drop (pos + (a.length + 1) + 10) = b.drop (pos + 10) := by
      have hfront : pos + (a.length + 1) + 10 = (a ++ [0x3B]).length + (pos + 10) := by
        simp only [List.length_append, List.length_singleton]
        omega
      have hsplit : a ++ 0x3B :: b = (a ++ [0x3B]) ++ b := by simp
      rw [hfront, hsplit, ← List.drop_drop, List.drop_left]
    simp only [Function.comp_apply, hdrop]
  | some pos =>
    have hlong := (find_eq_some ha).length_le
    rw [hlength, List.length_drop] at hlong
    simp only [Option.some_or, Option.map_some, Option.some.injEq]
    rw [List.drop_append_of_le_length (by omega)]
    exact takeWhile_append_semicolon _ _

theorem afterName_space (text : Bytes) : afterName (0x20 :: text) = afterName text := by
  have hno : ¬ str "SessionID=" <+: 0x20 :: text := by
    intro h
    obtain ⟨rest, hrest⟩ := h
    exact absurd (List.cons.inj hrest).1 (by decide)
  unfold afterName
  rw [find, if_neg hno, Option.map_map]
  rfl

/-- The header is searched cookie by cookie. -/
theorem afterName_cookieHeader (cookies : List Cookie) :
    afterName (cookieHeader cookies) = cookies.findSome? fun c => afterName c.text := by
  have hjoin : str "; " = [0x3B, 0x20] := by decide
  induction cookies with
  | nil => rfl
  | cons c rest ih =>
    cases rest with
    | nil =>
      have hone : cookieHeader [c] = c.text := by simp [cookieHeader]
      simp [hone]
    | cons c' rest =>
      have hheader : cookieHeader (c :: c' :: rest) =
          c.text ++ 0x3B :: 0x20 :: cookieHeader (c' :: rest) := by
        simp [cookieHeader, hjoin, List.intercalate_cons_cons]
      rw [hheader, afterName_append, afterName_space, ih, List.findSome?_cons (a := c)]
      cases afterName c.text <;> rfl

/-- A cookie that contains `SessionID=` ends at its end. -/
theorem afterName_text {c : Cookie} (hname : (0x3B : UInt8) ∉ c.name)
    (hvalue : (0x3B : UInt8) ∉ c.value) :
    afterName c.text = (find (str "SessionID=") c.text).map fun pos => c.text.drop (pos + 10) := by
  have htext : (0x3B : UInt8) ∉ c.text := by
    have hequals : (0x3B : UInt8) ∉ str "=" := by decide
    simp [Cookie.text, hname, hvalue, hequals]
  unfold afterName
  congr 1
  funext pos
  rw [List.takeWhile_eq_self_iff]
  intro b hb
  simpa using fun h0 : b = 0x3B => htext (h0 ▸ List.mem_of_mem_drop hb)

/-- The session cookie yields its value. -/
theorem afterName_session {c : Cookie} (hname : c.name = sessionName)
    (hvalue : (0x3B : UInt8) ∉ c.value) : afterName c.text = some c.value := by
  have hsession : (0x3B : UInt8) ∉ c.name := by
    rw [hname]
    decide
  have htext : c.text = str "SessionID=" ++ c.value := by
    rw [Cookie.text, hname]
    rfl
  rw [afterName_text hsession hvalue, htext, find_prefix, Option.map_some, Nat.zero_add]
  rfl

/-! ## When the token is found -/

/-- A cookie that is not the session cookie is the first to contain `SessionID=`, and what
stands behind it is not the wanted value. -/
def Misled (cookies : List Cookie) : Prop :=
  ∃ front c rest pos, cookies = front ++ c :: rest ∧
    (∀ c' ∈ front, find (str "SessionID=") c'.text = none) ∧ c.name ≠ sessionName ∧
    find (str "SessionID=") c.text = some pos ∧ c.text.drop (pos + 10) ≠ sessionValue cookies

theorem sessionValue_of_mem {cookies : List Cookie} {c : Cookie} (hc : c ∈ cookies)
    (hname : c.name = sessionName) (h : cookies.countP (·.name = sessionName) ≤ 1) :
    sessionValue cookies = c.value := by
  obtain ⟨front, rest, rfl⟩ := List.append_of_mem hc
  have hfront : ∀ c' ∈ front, c'.name ≠ sessionName := by
    simp only [List.countP_append, List.countP_cons, hname, decide_true, if_true] at h
    have hzero : front.countP (·.name = sessionName) = 0 := by omega
    simpa using hzero
  have hnone : front.find? (fun c => c.name = sessionName) = none := by
    simpa using hfront
  rw [sessionValue, List.find?_append, hnone, Option.none_or, List.find?_cons_of_pos (by simpa)]
  rfl

/-- The parser returns the value of the session cookie, or nothing without one, exactly when
no other cookie misleads it. -/
theorem getSessionToken_cookieHeader_iff (cookies : List Cookie) (h : WellFormedCookies cookies) :
    getSessionToken (cookieHeader cookies) = sessionValue cookies ↔ ¬ Misled cookies := by
  have hplain : ∀ c ∈ cookies, afterName c.text =
      (find (str "SessionID=") c.text).map fun pos => c.text.drop (pos + 10) := by
    intro c hc
    refine afterName_text (fun hmem => ?_) (h.values c hc)
    exact absurd ((h.names c hc).2 _ hmem) (by decide)
  rw [getSessionToken_eq, afterName_cookieHeader]
  constructor
  · rintro heq ⟨front, c, rest, pos, rfl, hfront, -, hpos, hother⟩
    refine hother (Eq.trans ?_ heq)
    have hnone : front.findSome? (fun c => afterName c.text) = none := by
      rw [List.findSome?_eq_none_iff]
      intro c' hc'
      rw [hplain c' (List.mem_append_left _ hc'), hfront c' hc']
      rfl
    rw [List.findSome?_append, hnone, Option.none_or, List.findSome?_cons,
      hplain c (by simp), hpos]
    rfl
  · intro hmisled
    cases hfound : cookies.findSome? fun c => afterName c.text with
    | none =>
      -- without an occurrence there is no session cookie
      have hsession : cookies.find? (fun c => c.name = sessionName) = none := by
        rw [List.find?_eq_none]
        intro c hc hname
        have hafter := List.findSome?_eq_none_iff.mp hfound c hc
        rw [afterName_session (by simpa using hname) (h.values c hc)] at hafter
        cases hafter
      rw [sessionValue, hsession]
      rfl
    | some token =>
      obtain ⟨front, c, rest, rfl, hc, hfront⟩ := List.findSome?_eq_some_iff.mp hfound
      have hmem : c ∈ front ++ c :: rest := by simp
      by_cases hname : c.name = sessionName
      · rw [afterName_session hname (h.values c hmem)] at hc
        rw [sessionValue_of_mem hmem hname h.session, ← Option.some.inj hc]
        rfl
      · rw [hplain c hmem] at hc
        obtain ⟨pos, hpos, rfl⟩ := Option.map_eq_some_iff.mp hc
        by_contra hother
        refine hmisled ⟨front, c, rest, pos, rfl, fun c' hc' => ?_, hname, hpos, hother⟩
        have hafter := hfront c' hc'
        rw [hplain c' (List.mem_append_left _ hc')] at hafter
        simpa using hafter

/-- The cookies of a browser in which another page left a cookie of its own. -/
def browserCookies (other : Bytes) : List Cookie :=
  [⟨other, str "none"⟩, ⟨sessionName, List.replicate 32 0x64⟩]

theorem browserCookies_wellFormed {other : Bytes} (hne : other ≠ [])
    (hother : other.all (fun b => decide (TokenChar b))) (hname : other ≠ sessionName) :
    WellFormedCookies (browserCookies other) where
  names := by
    have htoken : sessionName.all fun b => decide (TokenChar b) := by decide
    simp only [List.all_eq_true, decide_eq_true_eq] at hother htoken
    intro c hc
    rcases List.mem_pair.mp hc with rfl | rfl
    · exact ⟨hne, hother⟩
    · exact ⟨by decide, htoken⟩
  values := by
    have hnone : (0x3B : UInt8) ∉ str "none" := by decide
    have htoken : (0x3B : UInt8) ∉ List.replicate 32 (0x64 : UInt8) := by decide
    intro c hc
    rcases List.mem_pair.mp hc with rfl | rfl
    · exact hnone
    · exact htoken
  session := by simp [browserCookies, hname]

theorem getSessionToken_cookieHeader_iff_theme :
    getSessionToken (cookieHeader (browserCookies (str "theme"))) =
      sessionValue (browserCookies (str "theme")) ↔ ¬ Misled (browserCookies (str "theme")) :=
  getSessionToken_cookieHeader_iff _
    (browserCookies_wellFormed (by decide) (by decide) (by decide))

/-- Behind a cookie whose name ends in `SessionID`, the token of the login is not found. -/
theorem otherSessionID_hides_token :
    WellFormedCookies (browserCookies (str "OtherSessionID")) ∧
      Reachable Reference.world Reference.dbPath Reference.masterSecret Reference.loggedIn ∧
      Reference.loggedIn.activeSessions.lookup
        (sessionValue (browserCookies (str "OtherSessionID"))) = some (str "admin") ∧
      getSessionToken (cookieHeader (browserCookies (str "OtherSessionID"))) ≠
        sessionValue (browserCookies (str "OtherSessionID")) := by
  refine ⟨browserCookies_wellFormed (by decide) (by decide) (by decide), ?_, ?_, ?_⟩
  · exact ⟨_, _, Reference.start_fresh, .step .refl (.request (Reference.served _ _))⟩
  · decide +kernel
  · decide

end CCTVWebServer
