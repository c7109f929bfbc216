import CCTVWebServer.Foundation.History
import CCTVWebServer.StreamPage

/-!
# Sockets and decoders

A connection shows its own stream as long as no callback of an earlier socket comes
late. Such a callback ends the decoder of the connection that replaced it, and a late
message is decoded by it.
-/

namespace CCTVWebServer.StreamPage

open Foundation

variable {s : Page} {event : Event} {history : List Event}

/-- The socket of the page has neither closed nor failed. -/
def Live (s : Page) : Prop := ∃ i, s.wsStream = some i ∧ (s.socket i).ended = false

/-- The live socket is shown by its own decoder, and every chunk was decoded by the decoder
of the socket that it came from. -/
structure OwnDecoder (s : Page) : Prop where
  decoder : ∀ i, s.wsStream = some i → (s.socket i).ended = false →
    s.videoDecoder = some (s.socket i).decoder ∧ (s.decoder (s.socket i).decoder).closed = false
  decoded : ∀ entry ∈ s.decoded, entry.decoder = (s.socket entry.socket).decoder

/-- The message goes to the decoder that there is. -/
def Decodes (s : Page) (data : Bytes) : Prop :=
  ∃ d chunk, s.videoDecoder = some d ∧ parseMessage data = some chunk ∧
    (s.decoder d).accepts chunk

/-- A callback of a socket that is not the one of the page finds nothing to end or to
decode. -/
def Timely (s : Page) : Event → Prop
  | .connect | .disconnect | .opened _ => True
  | .message i data => s.wsStream = some i ∨ ¬ Decodes s data
  | .closed i | .error i => s.wsStream = some i ∨ ¬ Live s

/-! ## The invariant -/

/-- What holds of the page after any events. -/
structure Sound (s : Page) : Prop where
  shown : ∀ d, s.videoDecoder = some d → ∃ i, s.wsStream = some i ∧ (s.socket i).ended = false ∧
    (s.socket i).decoder = d ∧ (s.decoder d).closed = false
  current : ∀ i, s.wsStream = some i → i < s.sockets
  paired : s.decoders = s.sockets
  own : ∀ i < s.sockets, (s.socket i).decoder = i
  logged : ∀ entry ∈ s.decoded, entry.socket < s.sockets

theorem sound_loaded : Sound .loaded where
  shown _ h := nomatch h
  current _ h := nomatch h
  paired := rfl
  own i hi := absurd hi (Nat.not_lt_zero i)
  logged entry h := by simp [Page.loaded] at h

theorem ownDecoder_loaded : OwnDecoder .loaded where
  decoder _ h := nomatch h
  decoded entry h := by simp [Page.loaded] at h

/-! ## Ending a decoder -/

section cleanup

variable (s)

@[simp] theorem videoDecoder_cleanupDecoder : (cleanupDecoder s).videoDecoder = none := by
  unfold cleanupDecoder
  split <;> simp_all

@[simp] theorem decoders_cleanupDecoder : (cleanupDecoder s).decoders = s.decoders := by
  unfold cleanupDecoder
  split <;> rfl

@[simp] theorem sockets_cleanupDecoder : (cleanupDecoder s).sockets = s.sockets := by
  unfold cleanupDecoder
  split <;> rfl

@[simp] theorem socket_cleanupDecoder : (cleanupDecoder s).socket = s.socket := by
  unfold cleanupDecoder
  split <;> rfl

@[simp] theorem wsStream_cleanupDecoder : (cleanupDecoder s).wsStream = s.wsStream := by
  unfold cleanupDecoder
  split <;> rfl

@[simp] theorem decoded_cleanupDecoder : (cleanupDecoder s).decoded = s.decoded := by
  unfold cleanupDecoder
  split <;> rfl

end cleanup

/-- A page without a decoder says nothing about the decoders there were. -/
theorem Sound.cleanupDecoder (hcurrent : ∀ i, s.wsStream = some i → i < s.sockets)
    (hpaired : s.decoders = s.sockets) (hown : ∀ i < s.sockets, (s.socket i).decoder = i)
    (hlogged : ∀ entry ∈ s.decoded, entry.socket < s.sockets) :
    Sound (StreamPage.cleanupDecoder s) where
  shown d h := by simp at h
  current := by simpa using hcurrent
  paired := by simpa using hpaired
  own := by simpa using hown
  logged := by simpa using hlogged

theorem Sound.disconnect (hs : Sound s) : Sound (disconnectWebSocketStream s) :=
  .cleanupDecoder (by simp) hs.paired hs.own hs.logged

theorem OwnDecoder.disconnect (hown : OwnDecoder s) :
    OwnDecoder (disconnectWebSocketStream s) where
  decoder i hi := by simp [disconnectWebSocketStream] at hi
  decoded := by simpa [disconnectWebSocketStream] using hown.decoded

/-! ## A new connection -/

/-- A socket and its decoder, made one after the other. -/
def openStream (s : Page) : Page := newWebSocket (initVideoDecoder s)

@[simp] theorem videoDecoder_openStream (s : Page) :
    (openStream s).videoDecoder = some s.decoders := rfl

@[simp] theorem wsStream_openStream (s : Page) : (openStream s).wsStream = some s.sockets := rfl

@[simp] theorem sockets_openStream (s : Page) : (openStream s).sockets = s.sockets + 1 := rfl

@[simp] theorem socket_openStream_self (s : Page) :
    (openStream s).socket s.sockets = ⟨s.decoders, false⟩ := by
  simp [openStream, newWebSocket, initVideoDecoder]

theorem socket_openStream {i : Nat} (hi : i < s.sockets) :
    (openStream s).socket i = s.socket i := by
  simp [openStream, newWebSocket, initVideoDecoder, Nat.ne_of_lt hi]

@[simp] theorem decoder_openStream_self (s : Page) :
    (openStream s).decoder s.decoders = ⟨false, true⟩ := by
  simp [openStream, newWebSocket, initVideoDecoder]

theorem Sound.openStream (hs : Sound s) : Sound (openStream s) where
  shown d h := by
    rw [videoDecoder_openStream] at h
    obtain rfl := Option.some.inj h
    exact ⟨s.sockets, rfl, by simp⟩
  current i h := by
    rw [wsStream_openStream] at h
    obtain rfl := Option.some.inj h
    exact Nat.lt_succ_self _
  paired := by simp [StreamPage.openStream, newWebSocket, initVideoDecoder, hs.paired]
  own i hi := by
    rcases Nat.lt_succ_iff_lt_or_eq.mp (sockets_openStream s ▸ hi) with hi | rfl
    · rw [socket_openStream hi]
      exact hs.own i hi
    · simpa using hs.paired
  logged entry h := Nat.lt_succ_of_lt (hs.logged entry h)

theorem OwnDecoder.openStream (hs : Sound s) (hown : OwnDecoder s) :
    OwnDecoder (openStream s) where
  decoder i h _ := by
    rw [wsStream_openStream] at h
    obtain rfl := Option.some.inj h
    exact ⟨by rw [videoDecoder_openStream, socket_openStream_self], by simp⟩
  decoded entry h := by
    rw [socket_openStream (hs.logged entry h)]
    exact hown.decoded entry h

theorem Sound.setStatus (hs : Sound s) (label dot : String) : Sound (s.setStatus label dot) :=
  ⟨hs.shown, hs.current, hs.paired, hs.own, hs.logged⟩

theorem ownDecoder_setStatus (s : Page) (label dot : String) :
    OwnDecoder (s.setStatus label dot) ↔ OwnDecoder s :=
  ⟨fun h => ⟨h.decoder, h.decoded⟩, fun h => ⟨h.decoder, h.decoded⟩⟩

/-! ## The end of a socket -/

@[simp] theorem decoder_endSocket (s : Page) (i j : Nat) :
    ((s.endSocket i).socket j).decoder = (s.socket j).decoder := by
  by_cases hj : j = i
  · subst hj
    simp [Page.endSocket]
  · simp [Page.endSocket, hj]

@[simp] theorem ended_endSocket (s : Page) (i j : Nat) :
    ((s.endSocket i).socket j).ended = false ↔ j ≠ i ∧ (s.socket j).ended = false := by
  by_cases hj : j = i
  · subst hj
    simp [Page.endSocket]
  · simp [Page.endSocket, hj]

/-- `onclose` and `onerror` differ in what they tell the user alone. -/
def endStream (i : Nat) (s : Page) : Page := cleanupDecoder (s.endSocket i)

theorem onclose_eq (i : Nat) (s : Page) :
    onclose i s = (endStream i s).setStatus "Offline" "status-dot" := by
  simp only [onclose, endStream, cleanupDecoder, Page.setStatus, Page.endSocket]
  split <;> rfl

theorem onerror_eq (i : Nat) (s : Page) :
    onerror i s = (endStream i s).setStatus "Error" "status-dot" := by
  simp only [onerror, endStream, cleanupDecoder, Page.setStatus, Page.endSocket]
  split <;> rfl

theorem Sound.endStream (hs : Sound s) (i : Nat) : Sound (endStream i s) :=
  .cleanupDecoder hs.current hs.paired (fun j hj => by simpa using hs.own j hj) hs.logged

/-- The end of a socket leaves a live one without its decoder, unless it is that one. -/
theorem ownDecoder_endStream_iff (hown : OwnDecoder s) (i : Nat) :
    OwnDecoder (endStream i s) ↔ s.wsStream = some i ∨ ¬ Live s := by
  constructor
  · intro hafter
    by_contra hlate
    rw [not_or, not_not] at hlate
    obtain ⟨hother, j, hj, hlive⟩ := hlate
    have hne : j ≠ i := by
      rintro rfl
      exact hother hj
    have hshown := hafter.decoder j (by simpa [endStream, Page.endSocket] using hj)
      (by simpa [endStream] using ⟨hne, hlive⟩)
    simp [endStream] at hshown
  · intro htimely
    refine ⟨fun j hj hlive => ?_, fun entry hentry => ?_⟩
    · have hj : s.wsStream = some j := by simpa [endStream, Page.endSocket] using hj
      have hlive : j ≠ i ∧ (s.socket j).ended = false := by simpa [endStream] using hlive
      rcases htimely with hi | hnone
      · rw [hi, Option.some.injEq] at hj
        exact absurd hj.symm hlive.1
      · exact absurd ⟨j, hj, hlive.2⟩ hnone
    · simpa [endStream] using hown.decoded entry (by simpa [endStream, Page.endSocket] using hentry)

/-! ## Messages -/

/-- The page after a chunk was decoded. -/
def Page.record (s : Page) (entry : Decoded) : Page :=
  { s.updateDecoder entry.decoder fun o => { o with keyChunkRequired := false } with
    decoded := entry :: s.decoded }

@[simp] theorem closed_record (s : Page) (entry : Decoded) (d : Nat) :
    ((s.record entry).decoder d).closed = (s.decoder d).closed := by
  by_cases hd : d = entry.decoder
  · subst hd
    simp [Page.record, Page.updateDecoder]
  · simp [Page.record, Page.updateDecoder, hd]

theorem onmessage_of_not_decodes {data : Bytes} (h : ¬ Decodes s data) (i : Nat) :
    onmessage i data s = s := by
  unfold onmessage
  split
  · rename_i d chunk hd hchunk
    have hraises : ¬ (s.decoder d).accepts chunk := fun haccepts =>
      h ⟨d, chunk, hd, hchunk, haccepts⟩
    exact if_neg hraises
  · rfl

/-- A message that is decoded leaves an entry, and nothing else that matters. -/
theorem onmessage_of_decodes {data : Bytes} (h : Decodes s data) (i : Nat) :
    ∃ d chunk, s.videoDecoder = some d ∧ onmessage i data s = s.record ⟨d, i, chunk⟩ := by
  obtain ⟨d, chunk, hd, hchunk, haccepts⟩ := h
  exact ⟨d, chunk, hd, by simp [onmessage, hd, hchunk, decode, haccepts, Page.record]⟩

theorem Sound.record (hs : Sound s) {entry : Decoded} (h : entry.socket < s.sockets) :
    Sound (s.record entry) where
  shown d hd := by
    obtain ⟨i, hi, hlive, hdecoder, hclosed⟩ := hs.shown d hd
    exact ⟨i, hi, hlive, hdecoder, by simpa using hclosed⟩
  current := hs.current
  paired := hs.paired
  own := hs.own
  logged := List.forall_mem_cons.mpr ⟨h, hs.logged⟩

/-- The decoder that is shown belongs to the socket of the page. -/
theorem ownDecoder_record_iff (hs : Sound s) (hown : OwnDecoder s) {entry : Decoded}
    (hshown : s.videoDecoder = some entry.decoder) (hsocket : entry.socket < s.sockets) :
    OwnDecoder (s.record entry) ↔ s.wsStream = some entry.socket := by
  obtain ⟨i, hi, hlive, hdecoder, -⟩ := hs.shown _ hshown
  have hpair := hs.own i (hs.current i hi)
  constructor
  · intro hafter
    have hentry := hafter.decoded entry (List.mem_cons_self ..)
    change entry.decoder = (s.socket entry.socket).decoder at hentry
    rw [hs.own _ hsocket, ← hdecoder, hpair] at hentry
    rw [hi, hentry]
  · intro hcurrent
    obtain rfl : i = entry.socket := by simpa [hi] using hcurrent
    refine ⟨fun j hj hlive => ?_, List.forall_mem_cons.mpr ⟨hdecoder.symm, hown.decoded⟩⟩
    rw [closed_record]
    exact hown.decoder j hj hlive

/-! ## One step -/

theorem sound_step (hs : Sound s) (hen : Enabled s event) : Sound (perform event s) := by
  cases event with
  | connect => exact (hs.disconnect.setStatus _ _).openStream
  | disconnect => exact hs.disconnect
  | opened i => exact hs.setStatus _ _
  | message i data =>
    by_cases hdecodes : Decodes s data
    · obtain ⟨d, chunk, -, heq⟩ := onmessage_of_decodes hdecodes i
      rw [perform, heq]
      exact hs.record hen
    · rwa [perform, onmessage_of_not_decodes hdecodes i]
  | closed i =>
    rw [perform, onclose_eq]
    exact (hs.endStream i).setStatus _ _
  | error i =>
    rw [perform, onerror_eq]
    exact (hs.endStream i).setStatus _ _

theorem ownDecoder_step_iff (hs : Sound s) (hown : OwnDecoder s) (hen : Enabled s event) :
    OwnDecoder (perform event s) ↔ Timely s event := by
  cases event with
  | connect =>
    have hready := (ownDecoder_setStatus _ "Connecting..." "status-dot").mpr hown.disconnect
    exact iff_of_true (.openStream (hs.disconnect.setStatus _ _) hready) trivial
  | disconnect => exact iff_of_true hown.disconnect trivial
  | opened i => exact iff_of_true ((ownDecoder_setStatus s _ _).mpr hown) trivial
  | message i data =>
    by_cases hdecodes : Decodes s data
    · obtain ⟨d, chunk, hd, heq⟩ := onmessage_of_decodes hdecodes i
      simp only [perform, heq, Timely, hdecodes, not_true, or_false]
      exact ownDecoder_record_iff hs hown hd hen
    · simp only [perform, onmessage_of_not_decodes hdecodes i, Timely, hdecodes]
      simpa using hown
  | closed i =>
    rw [perform, onclose_eq, ownDecoder_setStatus]
    exact ownDecoder_endStream_iff hown i
  | error i =>
    rw [perform, onerror_eq, ownDecoder_setStatus]
    exact ownDecoder_endStream_iff hown i

/-! ## Runs -/

/-- The live socket always has its own decoder, exactly when every callback of an earlier socket
found nothing to end or to decode. -/
theorem ownDecoder_iff_timely (h : EachStep perform .loaded Enabled history) :
    EachState perform .loaded OwnDecoder history ↔ EachStep perform .loaded Timely history :=
  eachState_iff_eachStep h sound_loaded ownDecoder_loaded
    (fun _ _ hs hen => sound_step hs hen) (fun _ _ hs hown hen => ownDecoder_step_iff hs hown hen)

/-- The user comes back after the first connection has ended. -/
theorem ownDecoder_iff_timely_reconnect :
    EachState perform .loaded OwnDecoder [.connect, .closed 0, .disconnect, .connect] ↔
      EachStep perform .loaded Timely [.connect, .closed 0, .disconnect, .connect] :=
  ownDecoder_iff_timely ⟨trivial, Nat.zero_lt_one, trivial, trivial, trivial⟩

/-- The close callback of the first socket comes after the second call of `connect`. -/
theorem late_close_ends_decoder :
    ¬ ∀ history, EachStep perform .loaded Enabled history →
      OwnDecoder (replay perform .loaded history) := by
  intro hall
  have hown := hall [.closed 0, .connect, .connect]
    ⟨Nat.zero_lt_two, trivial, trivial, trivial⟩
  have hshown := (hown.decoder 1 rfl rfl).1
  revert hshown
  decide

end CCTVWebServer.StreamPage
