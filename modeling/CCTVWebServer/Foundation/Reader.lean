import Mathlib.Tactic

/-!
# Messages read from a stream

A stream arrives in pieces of any size. `readMessage` collects pieces in a buffer
until a complete message is in front of it, and leaves in the buffer what came
after the message. `Framing` says what a test for complete messages must obey.
-/

namespace Foundation

variable {α : Type}

/-- The test finds non-empty messages, and does not change its mind when more arrives. -/
structure Framing (complete : List α → Option Nat) : Prop where
  bounds : ∀ input n, complete input = some n → 0 < n ∧ n ≤ input.length
  extend : ∀ input n more, complete input = some n → complete (input ++ more) = some n

/-- The first message, what is left in the buffer, and the pieces that have not been read. -/
def readMessage (complete : List α → Option Nat) (buffer : List α) :
    List (List α) → Option (List α × List α × List (List α))
  | [] => (complete buffer).map fun n => (buffer.take n, buffer.drop n, [])
  | piece :: pieces =>
    match complete buffer with
    | some n => some (buffer.take n, buffer.drop n, piece :: pieces)
    | none => readMessage complete (buffer ++ piece) pieces

variable {complete : List α → Option Nat} {buffer : List α} {pieces : List (List α)}

/-- Nothing is lost: the message, the buffer and the pieces make up the stream. -/
theorem append_of_readMessage {message left : List α} {rest : List (List α)}
    (h : readMessage complete buffer pieces = some (message, left, rest)) :
    message ++ (left ++ rest.flatten) = buffer ++ pieces.flatten := by
  induction pieces generalizing buffer with
  | nil =>
    obtain ⟨n, -, heq⟩ := Option.map_eq_some_iff.mp h
    simp only [Prod.mk.injEq] at heq
    obtain ⟨rfl, rfl, rfl⟩ := heq
    simp
  | cons piece pieces ih =>
    unfold readMessage at h
    cases hn : complete buffer with
    | some n =>
      simp only [hn, Option.some.injEq, Prod.mk.injEq] at h
      obtain ⟨rfl, rfl, rfl⟩ := h
      rw [← List.append_assoc, List.take_append_drop]
    | none =>
      simp only [hn] at h
      rw [ih h, List.flatten_cons, List.append_assoc]

/-- A complete message at the front of the stream is found as soon as the test finds one. -/
theorem cut_of_complete (hframing : Framing complete) {message following later : List α} {n : Nat}
    (hmessage : complete message = some message.length)
    (hstream : buffer ++ later = message ++ following) (hn : complete buffer = some n) :
    buffer.take n = message ∧ buffer.drop n ++ later = following := by
  obtain ⟨-, hle⟩ := hframing.bounds buffer n hn
  have hwhole := hframing.extend buffer n later hn
  rw [hstream, hframing.extend message _ following hmessage] at hwhole
  obtain rfl := Option.some.inj hwhole
  have htake := congrArg (List.take message.length) hstream
  have hdrop := congrArg (List.drop message.length) hstream
  rw [List.take_append_of_le_length hle, List.take_left] at htake
  rw [List.drop_append_of_le_length hle, List.drop_left] at hdrop
  exact ⟨htake, hdrop⟩

/-- However the stream arrives, the message in front of it is read, and nothing else. -/
theorem readMessage_of_complete (hframing : Framing complete) {message following : List α}
    (hmessage : complete message = some message.length)
    (hstream : buffer ++ pieces.flatten = message ++ following) :
    ∃ left rest, readMessage complete buffer pieces = some (message, left, rest) ∧
      left ++ rest.flatten = following := by
  induction pieces generalizing buffer with
  | nil =>
    have hbuffer : buffer = message ++ following := by simpa using hstream
    have hn : complete buffer = some message.length := by
      rw [hbuffer]
      exact hframing.extend message _ following hmessage
    obtain ⟨htake, hdrop⟩ := cut_of_complete hframing hmessage hstream hn
    refine ⟨_, _, ?_, hdrop⟩
    rw [readMessage, hn, Option.map_some, htake]
  | cons piece pieces ih =>
    cases hn : complete buffer with
    | some n =>
      obtain ⟨htake, hdrop⟩ := cut_of_complete hframing hmessage hstream hn
      refine ⟨_, _, ?_, hdrop⟩
      simp only [readMessage, hn, htake]
    | none =>
      simp only [readMessage, hn]
      refine ih ?_
      rw [← hstream, List.flatten_cons, List.append_assoc]

end Foundation
