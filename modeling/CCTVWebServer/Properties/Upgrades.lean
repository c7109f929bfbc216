import CCTVWebServer.HttpSession
import CCTVWebServer.Foundation.Http

/-!
# The upgrade to a websocket

`HttpSession` consumes the upgrade request and hands over a socket from which it can
never be read again, without the request and without what is left in its buffer.
`WebSocketSession` waits for a handshake request on that socket. So the handshake
is not the one the client sent.
-/

namespace CCTVWebServer.Upgrade

open Foundation

variable {beast : Beast} {socket : Socket} {request following : Bytes}

/-- The request and what follows it, cut up in any way. -/
structure Sends (beast : Beast) (socket : Socket) (request following : Bytes) : Prop where
  complete : beast.complete request = some request.length
  isUpgrade : beast.isUpgrade request = true
  stream : socket.flatten = request ++ following

/-- The session hands over what it has not read, and keeps what it has read too much. -/
theorem Sends.start (hframing : Framing beast.complete) (h : Sends beast socket request following) :
    ∃ session, HttpSession.start beast socket = some session ∧ session.req = request ∧
      session.buffer ++ session.socket.flatten = following ∧
      session.onRead beast = some ⟨session.socket⟩ := by
  have hstream : [] ++ socket.flatten = request ++ following := h.stream
  obtain ⟨left, rest, hread, hrest⟩ := readMessage_of_complete hframing h.complete hstream
  refine ⟨⟨rest, left, request⟩, by rw [HttpSession.start, hread]; rfl, rfl, hrest, ?_⟩
  rw [HttpSession.onRead, if_pos h.isUpgrade]

/-- All that a handshake is made from comes from the socket. -/
theorem length_handshake {session : WebSocketSession} {handshake : Handshake}
    (h : session.start beast = some handshake) :
    handshake.request.length + handshake.input.length = session.socket.flatten.length := by
  unfold WebSocketSession.start at h
  cases hread : readMessage beast.complete [] session.socket with
  | none => simp [hread] at h
  | some result =>
    obtain ⟨message, left, rest⟩ := result
    simp only [hread] at h
    split_ifs at h
    obtain rfl := Option.some.inj h
    have hstream := append_of_readMessage hread
    rw [List.nil_append] at hstream
    simp only [← hstream, List.length_append]

/-- However an upgrade request and the bytes behind it arrive, the connection is handed over,
and the handshake is not performed on that request with those bytes to come. -/
theorem handover_loses (hframing : Framing beast.complete)
    (h : Sends beast socket request following) :
    ∃ session websocket, HttpSession.start beast socket = some session ∧
      session.onRead beast = some websocket ∧
      websocket.start beast ≠ some ⟨request, following⟩ := by
  obtain ⟨session, hstart, -, hrest, hhanded⟩ := h.start hframing
  refine ⟨session, _, hstart, hhanded, fun hhandshake => ?_⟩
  have hlength := length_handshake hhandshake
  have hrest := congrArg List.length hrest
  have hpos := (hframing.bounds request _ h.complete).1
  simp only [List.length_append] at hlength hrest
  omega

/-! ## A viewer that connects -/

/-- The length of a head with its blank line. -/
def headLength : Bytes → Option Nat
  | [] => none
  | b :: rest =>
    if str "\r\n\r\n" <+: b :: rest then some 4 else (headLength rest).map (· + 1)

theorem headLength_bounds {input : Bytes} {n : Nat} (h : headLength input = some n) :
    4 ≤ n ∧ n ≤ input.length := by
  induction input generalizing n with
  | nil => cases h
  | cons b rest ih =>
    unfold headLength at h
    split_ifs at h with hblank
    · obtain rfl := Option.some.inj h
      exact ⟨Nat.le_refl 4, hblank.length_le⟩
    · obtain ⟨m, hm, rfl⟩ := Option.map_eq_some_iff.mp h
      obtain ⟨hpos, hle⟩ := ih hm
      rw [List.length_cons]
      omega

theorem headLength_framing : Framing headLength where
  bounds input n h := ⟨by have := headLength_bounds h; omega, (headLength_bounds h).2⟩
  extend input n more h := by
    induction input generalizing n with
    | nil => cases h
    | cons b rest ih =>
      have hmore : b :: rest <+: b :: (rest ++ more) := List.prefix_append (b :: rest) more
      unfold headLength at h
      rw [List.cons_append, headLength]
      split_ifs at h with hblank
      · rw [if_pos (hblank.trans hmore), h]
      · obtain ⟨m, hm, rfl⟩ := Option.map_eq_some_iff.mp h
        -- A blank line that begins here would have to end within the input.
        have hlong := headLength_bounds hm
        have hshort : ¬ str "\r\n\r\n" <+: b :: (rest ++ more) := by
          intro hprefix
          refine hblank (List.prefix_of_prefix_length_le hprefix hmore ?_)
          have hfour : (str "\r\n\r\n").length = 4 := by decide
          rw [hfour, List.length_cons]
          omega
        rw [if_neg hshort, ih m hm, Option.map_some]

/-- The method, the version and the header fields of a request. -/
structure Head where
  method : Bytes
  version : Bytes
  fields : List Http.Field

def readHead (request : Bytes) : Option Head := do
  let (line, rest) ← Http.readLine request
  let (fields, _) ← Http.readFields rest.length rest
  match line.splitOn Http.space with
  | [method, _, version] => some ⟨method, version, fields⟩
  | _ => none

/-- The tokens of `http::token_list`, cut at the commas. A part that is more than a token with
blanks around it ends the list behind its first token. -/
def tokens : List Bytes → List Bytes
  | [] => []
  | part :: parts =>
    let text := part.dropWhile fun b => Http.IsBlank b
    let token := text.takeWhile fun b => Http.IsTokenByte b
    let more := if ∀ b ∈ text.drop token.length, Http.IsBlank b then tokens parts else []
    if token = [] then more else token :: more

/-- The first field of the name lists the token. Case does not count. -/
def Head.lists (head : Head) (name token : String) : Prop :=
  (Http.ascii token).map Http.lower ∈
    (tokens (((Http.values name head.fields).headD []).splitOn 0x2C)).map (·.map Http.lower)

/-- `websocket::is_upgrade`. The parser takes no version above 1.1. -/
def Head.IsUpgrade (head : Head) : Prop :=
  head.version = str "HTTP/1.1" ∧ head.method = str "GET" ∧
    head.lists "Connection" "upgrade" ∧ head.lists "Upgrade" "websocket"

instance (head : Head) : Decidable head.IsUpgrade :=
  inferInstanceAs (Decidable (_ = _ ∧ _ = _ ∧ _ ∈ _ ∧ _ ∈ _))

/-- Beast, for requests without a body. -/
def headsOnly : Beast where
  complete := headLength
  isUpgrade request := (readHead request).any fun head => head.IsUpgrade

/-- What a browser sends for the `WebSocket` of `connectWebSocketStream`. -/
def upgradeRequest : Bytes :=
  str "GET /ws HTTP/1.1\r\n" ++
  str "Host: localhost:8080\r\n" ++
  str "Connection: keep-alive, Upgrade\r\n" ++
  str "Upgrade: websocket\r\n" ++
  str "Sec-WebSocket-Version: 13\r\n" ++
  str "Sec-WebSocket-Key: dGhlIHNhbXBsZSBub25jZQ==\r\n" ++
  str "\r\n"

theorem sends_upgradeRequest : Sends headsOnly [upgradeRequest] upgradeRequest [] where
  complete := by decide +kernel
  isUpgrade := by decide +kernel
  stream := by simp

theorem handover_loses_upgradeRequest :
    ∃ session websocket, HttpSession.start headsOnly [upgradeRequest] = some session ∧
      session.onRead headsOnly = some websocket ∧
      websocket.start headsOnly ≠ some ⟨upgradeRequest, []⟩ :=
  handover_loses headLength_framing sends_upgradeRequest

/-- A browser sends its request and waits for the answer. The handshake waits for a request. -/
theorem handshake_waits :
    Sends headsOnly [upgradeRequest] upgradeRequest [] ∧
      ∃ session, HttpSession.start headsOnly [upgradeRequest] = some session ∧
        session.onRead headsOnly = some ⟨[]⟩ ∧
        WebSocketSession.start headsOnly ⟨[]⟩ = none :=
  ⟨sends_upgradeRequest, ⟨[], [], upgradeRequest⟩, by decide +kernel, by decide +kernel, rfl⟩

end CCTVWebServer.Upgrade
