import CCTVWebServer.State

/-!
# WebSocketSession and WebSocketHub

The way of a viewer: `HttpSession::onRead` hands the socket of an upgrade request to
a new `WebSocketSession`, which accepts the handshake and registers with the hub.
The hub sends every frame of the camera to the sessions it holds. The HTTP API and
this path share nothing but the process.
-/

namespace CCTVWebServer

/-- A websocket session. The program has only the object, here its number; the upgrade
request and the state of the server at that time say who opened it. -/
structure WebSocketSession where
  object : Nat
  request : HttpRequestEvent
  server : State

/-- `sessions_`, a set of objects. -/
structure WebSocketHub where
  sessions : List WebSocketSession

namespace WebSocketHub

def registerSession (session : WebSocketSession) (hub : WebSocketHub) : WebSocketHub :=
  if session.object ∈ hub.sessions.map (·.object) then hub else ⟨session :: hub.sessions⟩

def unregisterSession (session : WebSocketSession) (hub : WebSocketHub) : WebSocketHub :=
  ⟨hub.sessions.filter fun other => other.object ≠ session.object⟩

/-- The sessions `broadcastFrame` calls `sendFrame` on, one after the other. -/
def broadcastFrame (hub : WebSocketHub) : List WebSocketSession := hub.sessions

end WebSocketHub

/-- The server with its viewers: those whose handshake is going on, and the hub. -/
structure Site where
  server : State
  pending : List WebSocketSession
  hub : WebSocketHub
  /-- The number of websocket sessions created so far. -/
  created : Nat

namespace Site

/-- A process without viewers. -/
def started (server : State) : Site := ⟨server, [], ⟨[]⟩, 0⟩

/-- `HttpSession::onRead` on an upgrade request: its cookie is not looked at. -/
def onUpgrade (site : Site) (e : HttpRequestEvent) : Site :=
  { site with
    pending := ⟨site.created, e, site.server⟩ :: site.pending
    created := site.created + 1 }

/-- `WebSocketSession::onAccept`; after an error the session is dropped. -/
def onAccept (site : Site) (session : WebSocketSession) (ok : Bool) : Site :=
  { site with
    pending := site.pending.filter fun other => other.object ≠ session.object
    hub := if ok then site.hub.registerSession session else site.hub }

/-- `WebSocketSession::onRead` and `onWrite` on an error. -/
def onError (site : Site) (session : WebSocketSession) : Site :=
  { site with hub := site.hub.unregisterSession session }

/-- Everyone who receives frames, or is about to. -/
def viewers (site : Site) : List WebSocketSession := site.pending ++ site.hub.sessions

theorem mem_viewers_onUpgrade {site : Site} {e : HttpRequestEvent} {v : WebSocketSession}
    (h : v ∈ (site.onUpgrade e).viewers) :
    v = ⟨site.created, e, site.server⟩ ∨ v ∈ site.viewers := by
  simpa [viewers, onUpgrade, or_assoc] using h

theorem mem_viewers_onAccept {site : Site} {session v : WebSocketSession} {ok : Bool}
    (hpending : session ∈ site.pending) (h : v ∈ (site.onAccept session ok).viewers) :
    v ∈ site.viewers := by
  simp only [viewers, onAccept, List.mem_append, List.mem_filter] at h ⊢
  rcases h with h | h
  · exact .inl h.1
  · cases ok with
    | false => exact .inr h
    | true =>
      simp only [if_true, WebSocketHub.registerSession] at h
      split_ifs at h
      · exact .inr h
      · rcases List.mem_cons.mp h with rfl | h
        · exact .inl hpending
        · exact .inr h

theorem mem_viewers_onError {site : Site} {session v : WebSocketSession}
    (h : v ∈ (site.onError session).viewers) : v ∈ site.viewers := by
  simp only [viewers, onError, WebSocketHub.unregisterSession, List.mem_append,
    List.mem_filter] at h ⊢
  exact h.imp_right And.left

end Site

end CCTVWebServer
