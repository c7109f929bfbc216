import CCTVWebServer.Foundation.Http
import CCTVWebServer.HttpServer
import CCTVWebServer.Specification.Refinement

/-!
# What a client makes of a response

Every response event, written as `writeResponse` writes it, is the text of a well-formed
response: the status code of the event, three fixed header fields, and one more that sets
or removes the session cookie. Nothing that a request or the database contains gets into
the header.
-/

namespace CCTVWebServer

open Foundation

variable {w : World} {e : HttpRequestEvent} {r : HttpResponseEvent}

/-! ## Text -/

/-- A literal of ASCII characters. -/
theorem str_eq_ascii {s : String} (h : ∀ c ∈ s.toList, c.toNat < 128) : str s = Http.ascii s := by
  have hchars (l : List Char) (hl : ∀ c ∈ l, c.toNat < 128) :
      l.utf8Encode.data.toList = l.map fun c => UInt8.ofNat c.toNat := by
    induction l with
    | nil => rfl
    | cons c l ih =>
      obtain ⟨hc, hl⟩ := List.forall_mem_cons.mp hl
      have hsize : c.utf8Size = 1 := by
        have hval : c.val.toNat < 128 := hc
        have hbound : c.val.toNat ≤ (127 : UInt32).toNat := Nat.le_of_lt_succ hval
        rw [Char.utf8Size_eq_one_iff, UInt32.le_iff_toNat_le]
        exact hbound
      rw [List.utf8Encode_cons, List.utf8Encode_singleton,
        String.utf8EncodeChar_eq_singleton hsize, ByteArray.toList_data_append, ih hl,
        List.toList_data_toByteArray]
      rfl
  calc str s = (String.ofList s.toList).toByteArray.data.toList := by
        rw [String.ofList_toList]
        rfl
    _ = Http.ascii s := by rw [String.toByteArray_ofList, hchars _ h, Http.ascii]

theorem decimal_eq_digits (n : Nat) : decimal n = Decimal.digits n := by
  have hdigits : ∀ c ∈ (toString n).toList, c.toNat < 128 := by
    intro c hc
    rw [Nat.toString_eq_ofList_toDigits, String.toList_ofList] at hc
    have hdigit := Nat.isDigit_of_mem_toDigits (by decide) (by decide) hc
    have hbound := (Decimal.toNat_of_isDigit hdigit).2
    omega
  have hint : toString (n : Int) = toString n := rfl
  rw [decimal, hint, str_eq_ascii hdigits, Http.ascii, Decimal.digits,
    Nat.toString_eq_ofList_toDigits, String.toList_ofList]

/-! ## Headers -/

/-- The status codes of the server. -/
def statusCodes : List Nat := [200, 400, 401, 403, 404, 500]

/-- The header that a response of some content has. -/
def headerFields (mime : String) (body : Bytes) (cookies : List Http.Field) : List Http.Field :=
  ⟨Http.ascii "Content-Type", Http.ascii mime⟩ ::
    ⟨Http.ascii "Content-Length", Decimal.digits body.length⟩ ::
    ⟨Http.ascii "Connection", Http.ascii "close"⟩ :: cookies

def setsSession (token : Bytes) : Http.Field :=
  ⟨Http.ascii "Set-Cookie", Http.ascii "SessionID=" ++ token ++ Http.ascii "; Path=/; HttpOnly"⟩

def endsSession : Http.Field :=
  ⟨Http.ascii "Set-Cookie",
    Http.ascii "SessionID=; Path=/; Expires=Thu, 01 Jan 1970 00:00:00 GMT"⟩

/-- The cookies that come with a response: the token of a login, the removal of it with a
logout, and none with anything else. -/
inductive BringsCookies (w : World) (e : HttpRequestEvent) (r : HttpResponseEvent) :
    List Http.Field → Prop where
  | none (h : r.statusCode = 200 → ¬ Post e "/api/login" ∧ ¬ Post e "/api/logout") :
      BringsCookies w e r []
  | login {body token : Bytes} (post : Post e "/api/login") (htoken : IsToken token)
      (hbody : w.json.dump (messageJson "Success") = .ok body)
      (h : r = loginResponse e.connId body token) : BringsCookies w e r [setsSession token]
  | logout (post : Post e "/api/logout") (hok : r.statusCode = 200) :
      BringsCookies w e r [endsSession]

/-- The content of a response, with its type. -/
inductive Content (w : World) (e : HttpRequestEvent) : String → Bytes → Prop where
  | json {json : Json} {body : Bytes} (h : w.json.dump json = .ok body) :
      Content w e "application/json" body
  | file {mime : String} (hmime : mime ∈ ["text/html", "text/css", "application/javascript"]) :
      Content w e mime (readStaticFile w e.url)
  | health : Content w e "application/json" (str "OK")

/-- The bytes written for the event are those of a response with its status code, of some
content and with a cookie at most. -/
structure Envelope (w : World) (e : HttpRequestEvent) (r : HttpResponseEvent)
    (response : Http.Response) : Prop where
  text : HttpServer.responseText r = response.text
  status : r.statusCode = response.status
  code : response.status ∈ statusCodes
  reason : Http.carriageReturn ∉ response.reason
  header : ∃ mime cookies, Content w e mime response.body ∧ BringsCookies w e r cookies ∧
    response.fields = headerFields mime response.body cookies

def Enveloped (w : World) (e : HttpRequestEvent) (r : HttpResponseEvent) : Prop :=
  ∃ response, Envelope w e r response

/-! ## The header is well formed -/

theorem Content.mime {mime : String} {body : Bytes} (h : Content w e mime body) :
    mime ∈ ["application/json", "text/html", "text/css", "application/javascript"] := by
  cases h with
  | json => simp
  | file hmime => exact List.mem_cons_of_mem _ hmime
  | health => simp

theorem wellFormed_contentType : ∀ mime ∈
    ["application/json", "text/html", "text/css", "application/javascript"],
    (⟨Http.ascii "Content-Type", Http.ascii mime⟩ : Http.Field).WellFormed := by
  decide +kernel

theorem isToken_names : Http.IsToken (Http.ascii "Content-Length") ∧
    Http.IsToken (Http.ascii "Set-Cookie") := by
  decide +kernel

/-- A number is no blank and no line end. -/
theorem wellFormed_digits (n : Nat) :
    (⟨Http.ascii "Content-Length", Decimal.digits n⟩ : Http.Field).WellFormed where
  name := isToken_names.1
  value hmem := absurd (Decimal.isDigit_of_mem_digits hmem) (by decide)
  head b hb hblank := by
    have hdigit := Decimal.isDigit_of_mem_digits (List.mem_of_mem_head? hb)
    rcases hblank with rfl | rfl
    · exact absurd hdigit (by decide)
    · exact absurd hdigit (by decide)
  last b hb hblank := by
    have hdigit := Decimal.isDigit_of_mem_digits (List.mem_of_mem_getLast? hb)
    rcases hblank with rfl | rfl
    · exact absurd hdigit (by decide)
    · exact absurd hdigit (by decide)

theorem hexDigit_ne : ∀ n < 16, hexDigit n ≠ Http.carriageReturn ∧ hexDigit n ≠ 0x3B := by decide

theorem IsToken.not_mem {token : Bytes} (h : IsToken token) :
    Http.carriageReturn ∉ token ∧ 0x3B ∉ token := by
  constructor
  · intro hmem
    obtain ⟨n, hn, heq⟩ := h.2 _ hmem
    exact (hexDigit_ne n hn).1 heq.symm
  · intro hmem
    obtain ⟨n, hn, heq⟩ := h.2 _ hmem
    exact (hexDigit_ne n hn).2 heq.symm

theorem wellFormed_setsSession {token : Bytes} (h : IsToken token) :
    (setsSession token).WellFormed where
  name := isToken_names.2
  value := by
    have hname : Http.carriageReturn ∉ Http.ascii "SessionID=" := by decide
    have hpath : Http.carriageReturn ∉ Http.ascii "; Path=/; HttpOnly" := by decide
    simp [setsSession, hname, hpath, h.not_mem.1]
  head b hb := by
    have hfirst : (setsSession token).value.head? = some 0x53 := rfl
    cases hfirst.symm.trans hb
    decide
  last b hb := by
    have hfinal : (setsSession token).value.getLast? = some 0x79 := by
      rw [setsSession, List.getLast?_append]
      rfl
    cases hfinal.symm.trans hb
    decide

theorem BringsCookies.wellFormed {cookies : List Http.Field} (h : BringsCookies w e r cookies) :
    ∀ f ∈ cookies, f.WellFormed := by
  intro f hf
  cases h with
  | none => cases hf
  | login _ htoken =>
    obtain rfl := List.mem_singleton.mp hf
    exact wellFormed_setsSession htoken
  | logout =>
    obtain rfl := List.mem_singleton.mp hf
    decide +kernel

theorem BringsCookies.name {cookies : List Http.Field} (h : BringsCookies w e r cookies) :
    ∀ f ∈ cookies, f.name = Http.ascii "Set-Cookie" := by
  intro f hf
  cases h with
  | none => cases hf
  | login => rw [List.mem_singleton.mp hf, setsSession]
  | logout => rw [List.mem_singleton.mp hf, endsSession]

/-- No cookie is taken for the length of the body. -/
theorem contentLength_headerFields {cookies : List Http.Field}
    (hname : ∀ f ∈ cookies, f.name = Http.ascii "Set-Cookie") (mime : String) (body : Bytes) :
    Http.values "Content-Length" (headerFields mime body cookies) =
      [Decimal.digits body.length] := by
  have hothers : cookies.filter (fun f =>
      f.name.map Http.lower = (Http.ascii "Content-Length").map Http.lower) = [] := by
    refine List.filter_eq_nil_iff.mpr fun f hf => ?_
    rw [hname f hf]
    decide
  have htype : decide ((Http.ascii "Content-Type").map Http.lower =
      (Http.ascii "Content-Length").map Http.lower) = false := by decide
  have hconnection : decide ((Http.ascii "Connection").map Http.lower =
      (Http.ascii "Content-Length").map Http.lower) = false := by decide
  simp only [Http.values, headerFields, List.filter_cons, htype, hconnection, hothers,
    decide_true, if_true, List.map_cons, List.map_nil, Bool.false_eq_true, if_false]

theorem Envelope.wellFormed {response : Http.Response} (h : Envelope w e r response) :
    response.WellFormed := by
  obtain ⟨mime, cookies, hcontent, hcookies, hfields⟩ := h.header
  refine ⟨?_, h.reason, ?_, ?_⟩
  · have hcodes : ∀ code ∈ statusCodes, 100 ≤ code ∧ code ≤ 999 := by decide
    exact hcodes _ h.code
  · rw [hfields]
    intro f hf
    rcases List.mem_cons.mp hf with rfl | hf
    · exact wellFormed_contentType mime hcontent.mime
    rcases List.mem_cons.mp hf with rfl | hf
    · exact wellFormed_digits _
    rcases List.mem_cons.mp hf with rfl | hf
    · decide +kernel
    · exact hcookies.wellFormed f hf
  · rw [hfields, contentLength_headerFields hcookies.name]

/-- The client reads the response and nothing else. -/
theorem Envelope.read {response : Http.Response} (h : Envelope w e r response) :
    Http.read (HttpServer.responseText r) = some (response, []) := by
  have hread := Http.read_text h.wellFormed []
  rwa [List.append_nil, ← h.text] at hread

/-! ## Responses of the endpoints -/

/-- The lines that carry some cookies. -/
def cookieLines (cookies : List Http.Field) : Bytes := cookies.flatMap Http.Field.text

theorem makeHttpResponse_eq {code : Nat} {reason mime : String} {body : Bytes}
    {cookies : List Http.Field} (hreason : str reason = Http.ascii reason)
    (hmime : str mime = Http.ascii mime) :
    makeHttpResponse code reason (str mime) body (cookieLines cookies) =
      (⟨code, Http.ascii reason, headerFields mime body cookies, body⟩ : Http.Response).text := by
  have h1 : str "HTTP/1.1 " = Http.ascii "HTTP/1.1 " := by decide
  have h2 : str " " = Http.ascii " " := by decide
  have h3 : str "\r\n" = Http.lineEnd := by decide
  have h4 : str "Content-Type: " = Http.ascii "Content-Type" ++ Http.ascii ": " := by decide
  have h5 : str "Content-Length: " = Http.ascii "Content-Length" ++ Http.ascii ": " := by decide
  have h6 : str "Connection: close\r\n" = Http.ascii "Connection" ++ Http.ascii ": " ++
      Http.ascii "close" ++ Http.lineEnd := by decide
  simp only [makeHttpResponse, Http.Response.text, headerFields, cookieLines, List.flatMap_cons,
    Http.Field.text, h1, h2, h3, h4, h5, h6, hreason, hmime, decimal_eq_digits, List.append_assoc]

/-- A response that `makeHttpResponse` built is sent as it is. -/
theorem enveloped_makeHttpResponse {connId : Int} {code : Nat} {reason mime : String}
    {body : Bytes} {cookies : List Http.Field} (hcode : code ∈ statusCodes)
    (hreason : str reason = Http.ascii reason ∧ Http.carriageReturn ∉ Http.ascii reason)
    (hcontent : Content w e mime body) (hcookies : BringsCookies w e ⟨connId, code,
      makeHttpResponse code reason (str mime) body (cookieLines cookies)⟩ cookies) :
    Enveloped w e ⟨connId, code, makeHttpResponse code reason (str mime) body
      (cookieLines cookies)⟩ := by
  have hmime : str mime = Http.ascii mime := by
    have hmimes : ∀ mime ∈
        ["application/json", "text/html", "text/css", "application/javascript"],
        str mime = Http.ascii mime := by decide
    exact hmimes mime hcontent.mime
  have hraw : StartsWith (makeHttpResponse code reason (str mime) body (cookieLines cookies))
      (str "HTTP/1.1") := by
    have hversion : str "HTTP/1.1 " = str "HTTP/1.1" ++ str " " := by decide
    simp only [makeHttpResponse, hversion, List.append_assoc]
    exact List.prefix_append _ _
  refine ⟨⟨code, Http.ascii reason, headerFields mime body cookies, body⟩, ?_, rfl, hcode,
    hreason.2, mime, cookies, hcontent, hcookies, rfl⟩
  rw [HttpServer.responseText, if_pos hraw, makeHttpResponse_eq hreason.1 hmime]

theorem enveloped_reply {code : Nat} {reason : String} (json : Json) {cookies : List Http.Field}
    (hcode : code ∈ statusCodes)
    (hreason : str reason = Http.ascii reason ∧ Http.carriageReturn ∉ Http.ascii reason)
    (hcookies : ∀ body, w.json.dump json = .ok body → BringsCookies w e ⟨e.connId, code,
      makeHttpResponse code reason (str "application/json") body (cookieLines cookies)⟩ cookies) :
    Gives (reply w e code reason json (cookieLines cookies)) (Enveloped w e) := by
  intro s
  unfold reply dump
  cases hbody : w.json.dump json with
  | ok body => exact enveloped_makeHttpResponse hcode hreason (.json hbody) (hcookies body hbody)
  | error what => trivial

/-- A reply without a cookie, which is no success of a login or a logout. -/
theorem enveloped_plain {code : Nat} {reason : String} (json : Json) (hcode : code ∈ statusCodes)
    (hreason : str reason = Http.ascii reason ∧ Http.carriageReturn ∉ Http.ascii reason)
    (hplain : code ≠ 200 ∨ ¬ Post e "/api/login" ∧ ¬ Post e "/api/logout") :
    Gives (reply w e code reason json) (Enveloped w e) := by
  have hnone : cookieLines [] = [] := rfl
  rw [← hnone]
  refine enveloped_reply json hcode hreason fun body _ => .none fun hok => ?_
  rcases hplain with hne | hother
  · exact absurd (Int.ofNat_inj.mp hok) hne
  · exact hother

/-- A refusal. -/
theorem enveloped_refusal {code : Nat} {reason : String} (json : Json)
    (hcode : code ∈ statusCodes ∧ code ≠ 200)
    (hreason : str reason = Http.ascii reason ∧ Http.carriageReturn ∉ Http.ascii reason) :
    Gives (reply w e code reason json) (Enveloped w e) :=
  enveloped_plain json hcode.1 hreason (.inl hcode.2)

theorem enveloped_login (post : Post e "/api/login") : Gives (login w e) (Enveloped w e) := by
  refine gives_bind fun json => gives_bind fun id => gives_bind fun password =>
    gives_bind fun found => ?_
  obtain ⟨found, user⟩ := found
  refine gives_ite (fun _ => enveloped_refusal _ (by decide) (by decide)) fun _ => ?_
  refine gives_ite (fun _ => enveloped_refusal _ (by decide) (by decide)) fun _ => ?_
  refine gives_bind fun hash => ?_
  refine gives_ite (fun _ => enveloped_refusal _ (by decide) (by decide)) fun _ s => ?_
  refine generateSessionToken_isToken.run fun token t _ htoken => ?_
  refine gives_bind (fun _ => ?_) t
  have hheader : sessionHeader token = cookieLines [setsSession token] := by
    have h1 : str "Set-Cookie: SessionID=" = Http.ascii "Set-Cookie" ++ Http.ascii ": " ++
        Http.ascii "SessionID=" := by decide
    have h2 : str "; Path=/; HttpOnly\r\n" = Http.ascii "; Path=/; HttpOnly" ++ Http.lineEnd := by
      decide
    simp only [sessionHeader, cookieLines, setsSession, Http.Field.text, List.flatMap_cons,
      List.flatMap_nil, h1, h2, List.append_assoc, List.append_nil]
  rw [hheader]
  refine enveloped_reply _ (by decide) (by decide) fun body hbody => ?_
  exact .login post htoken hbody (by rw [loginResponse, hheader]; rfl)

theorem enveloped_logout (post : Post e "/api/logout") : Gives (logout w e) (Enveloped w e) := by
  have hheader : str "Set-Cookie: SessionID=; Path=/; Expires=Thu, 01 Jan 1970 00:00:00 GMT\r\n" =
      cookieLines [endsSession] := by decide
  have hreply : Gives (reply w e 200 "OK" (messageJson "Success") (cookieLines [endsSession]))
      (Enveloped w e) :=
    enveloped_reply _ (by decide) (by decide) fun _ _ => .logout post rfl
  unfold logout
  rw [hheader]
  exact gives_ite (fun _ => gives_bind fun _ => hreply) fun _ => hreply

/-- The requests that neither log in nor out. -/
abbrev KeepsCookies (e : HttpRequestEvent) : Prop :=
  ¬ Post e "/api/login" ∧ ¬ Post e "/api/logout"

theorem keepsCookies_of_url {url : String} (hurl : e.url = str url)
    (hne : url ≠ "/api/login" ∧ url ≠ "/api/logout") : KeepsCookies e := by
  refine ⟨fun post => hne.1 ?_, fun post => hne.2 ?_⟩
  · exact str_inj.mp (hurl.symm.trans post.1)
  · exact str_inj.mp (hurl.symm.trans post.1)

theorem enveloped_register (hkeeps : KeepsCookies e) : Gives (register w e) (Enveloped w e) := by
  refine gives_bind fun json => gives_bind fun id => gives_bind fun username =>
    gives_bind fun password => ?_
  refine gives_ite (fun _ => enveloped_refusal _ (by decide) (by decide)) fun _ => ?_
  refine gives_bind fun done => ?_
  exact gives_ite (fun _ => enveloped_plain _ (by decide) (by decide) (.inr hkeeps))
    fun _ => enveloped_refusal _ (by decide) (by decide)

theorem enveloped_updateProfile (hkeeps : KeepsCookies e) (callerId : Bytes) :
    Gives (updateProfile w e callerId) (Enveloped w e) := by
  refine gives_bind fun json => gives_bind fun username => gives_bind fun password => ?_
  refine gives_ite (fun _ => enveloped_refusal _ (by decide) (by decide)) fun _ => ?_
  refine gives_bind fun done => ?_
  exact gives_ite (fun _ => enveloped_plain _ (by decide) (by decide) (.inr hkeeps))
    fun _ => enveloped_refusal _ (by decide) (by decide)

theorem enveloped_approve (hkeeps : KeepsCookies e) : Gives (approve w e) (Enveloped w e) := by
  refine gives_bind fun json => gives_bind fun targetId => gives_bind fun done => ?_
  exact gives_ite (fun _ => enveloped_plain _ (by decide) (by decide) (.inr hkeeps))
    fun _ => enveloped_refusal _ (by decide) (by decide)

theorem enveloped_evict (hkeeps : KeepsCookies e) : Gives (evict w e) (Enveloped w e) := by
  refine gives_bind fun json => gives_bind fun targetId => ?_
  refine gives_ite (fun _ => enveloped_refusal _ (by decide) (by decide)) fun _ => ?_
  refine gives_bind fun done => ?_
  refine gives_ite (fun _ => gives_bind fun _ => ?_)
    fun _ => enveloped_refusal _ (by decide) (by decide)
  exact enveloped_plain _ (by decide) (by decide) (.inr hkeeps)

theorem enveloped_saveRtsp (hkeeps : KeepsCookies e) : Gives (saveRtsp w e) (Enveloped w e) := by
  refine gives_bind fun json => gives_bind fun name => gives_bind fun url => ?_
  refine gives_ite (fun _ => enveloped_refusal _ (by decide) (by decide)) fun _ => ?_
  refine gives_bind fun _ => gives_bind fun done => ?_
  refine gives_ite (fun _ => gives_bind fun _ => ?_)
    fun _ => enveloped_refusal _ (by decide) (by decide)
  exact enveloped_plain _ (by decide) (by decide) (.inr hkeeps)

/-- A response, if there is one. -/
def EnvelopedIf (w : World) (e : HttpRequestEvent) (o : Option HttpResponseEvent) : Prop :=
  ∀ r ∈ o, Enveloped w e r

theorem enveloped_some {m : Server HttpResponseEvent} (h : Gives m (Enveloped w e)) :
    Gives (some <$> m) (EnvelopedIf w e) := by
  refine Gives.map fun s => (h s).mono (fun r t hr r' hr' => ?_) fun _ _ => id
  obtain rfl := Option.some.inj hr'
  exact hr

theorem enveloped_adminEndpoints (hkeeps : KeepsCookies e) :
    Gives (adminEndpoints w e) (EnvelopedIf w e) := by
  have hplain (json : Json) : Gives (reply w e 200 "OK" json) (Enveloped w e) :=
    enveloped_plain _ (by decide) (by decide) (.inr hkeeps)
  have hlist : Gives (listUsers w e) (Enveloped w e) := gives_bind fun _ => hplain _
  have hget : Gives (getRtsp w e) (Enveloped w e) := gives_bind fun _ => hplain _
  have hstop : Gives (stopRtsp w e) (Enveloped w e) := gives_bind fun _ => hplain _
  refine gives_ite (fun _ => enveloped_some hlist) fun _ => ?_
  refine gives_ite (fun _ => enveloped_some (enveloped_approve hkeeps)) fun _ => ?_
  refine gives_ite (fun _ => enveloped_some (enveloped_evict hkeeps)) fun _ => ?_
  refine gives_ite (fun _ => enveloped_some hget) fun _ => ?_
  refine gives_ite (fun _ => enveloped_some (enveloped_saveRtsp hkeeps)) fun _ => ?_
  exact gives_ite (fun _ => enveloped_some hstop) fun _ => gives_pure fun _ hr => by cases hr

theorem enveloped_userEndpoints (hlogin : ¬ Post e "/api/login") (callerId : Bytes)
    (callerUser : UserRecord) :
    Gives (userEndpoints w e callerId callerUser) (EnvelopedIf w e) := by
  refine gives_ite (fun post => enveloped_some (enveloped_logout post)) fun hlogout => ?_
  have hkeeps : KeepsCookies e := ⟨hlogin, hlogout⟩
  refine gives_ite (fun _ => enveloped_some ?_) fun _ => ?_
  · exact enveloped_plain _ (by decide) (by decide) (.inr hkeeps)
  refine gives_ite (fun _ => enveloped_some (enveloped_updateProfile hkeeps callerId)) fun _ => ?_
  refine gives_ite (fun _ => enveloped_some ?_) fun _ => enveloped_adminEndpoints hkeeps
  exact enveloped_refusal _ (by decide) (by decide)

theorem enveloped_endpoints : Gives (endpoints w e) (EnvelopedIf w e) := by
  refine gives_ite (fun post => enveloped_some (enveloped_register ?_)) fun _ => ?_
  · exact keepsCookies_of_url post.1 (by decide)
  refine gives_ite (fun post => enveloped_some (enveloped_login post)) fun hlogin => ?_
  refine gives_bind fun s => ?_
  refine gives_ite (fun _ => enveloped_some (enveloped_refusal _ (by decide) (by decide)))
    fun _ => ?_
  exact gives_bind fun found => enveloped_userEndpoints hlogin _ _

/-! ## All responses -/

theorem enveloped_file (hkeeps : KeepsCookies e) {mime : String}
    (hmime : mime ∈ ["text/html", "text/css", "application/javascript"]) :
    Enveloped w e
      ⟨e.connId, 200, makeHttpResponse 200 "OK" (str mime) (readStaticFile w e.url)⟩ := by
  have hnone : cookieLines [] = [] := rfl
  rw [← hnone]
  exact enveloped_makeHttpResponse (by decide) (by decide) (.file hmime) (.none fun _ => hkeeps)

theorem enveloped_staticReply (h : staticReply w e = some r) : Enveloped w e r := by
  have hkeeps : KeepsCookies e := by
    have hserves : ServesFile w e := by
      by_contra hno
      rw [staticReply_eq_none.mpr hno] at h
      cases h
    rcases hserves.1 with hurl | hurl | hurl | hurl
    all_goals exact keepsCookies_of_url hurl (by decide)
  unfold staticReply at h
  dsimp only at h
  split_ifs at h
  all_goals
    obtain rfl := Option.some.inj h
    exact enveloped_file hkeeps (by decide)

/-- The answer of the installed handler is wrapped by `writeResponse`, which repeats the code. -/
theorem enveloped_health (hurl : e.url = str "/health") : Enveloped w e ⟨0, 200, str "OK"⟩ := by
  refine ⟨⟨200, Http.ascii "200 OK", headerFields "application/json" (str "OK") [], str "OK"⟩,
    ?_, rfl, by decide, by decide, _, _, .health, .none fun _ => ?_, rfl⟩
  · decide
  · exact keepsCookies_of_url hurl (by decide)

theorem enveloped_respond : Gives (respond w .controller e) (Enveloped w e) := by
  unfold respond
  cases hstatic : staticReply w e with
  | some r => exact gives_pure (enveloped_staticReply hstatic)
  | none =>
  have hanswer : Gives (endpointEvent w e) (EnvelopedIf w e) := by
    refine Gives.tryCatch enveloped_endpoints fun fault => ?_
    cases fault with
    | «exception» what => exact enveloped_some (enveloped_refusal _ (by decide) (by decide))
    | deadlock => exact gives_throw _ _
  refine hanswer.bind fun o ho => ?_
  cases o with
  | some r => exact gives_pure (ho r rfl)
  | none =>
  dsimp only
  unfold fallbackEvent
  cases hhandler : ReplyServer.controller.handlers.lookup e.url with
  | some handler =>
    by_cases hurl : e.url = str "/health"
    · rw [hurl] at hhandler
      cases hhandler
      exact gives_pure (enveloped_health hurl)
    · rw [ReplyServer.controller, ReplyServer.addReplyer, AList.lookup_insert_ne hurl] at hhandler
      cases hhandler
  | none => exact enveloped_refusal _ (by decide) (by decide)

end CCTVWebServer
