import Mathlib.Tactic

/-!
# Well-formed UTF-8

A recogniser of the UTF-8 encoding form. Its state is the list of ranges the next
continuation bytes must lie in, empty between two characters. Bytes below `0x80`
are exactly the bytes that keep it between characters, so text may be wrapped in
ASCII, or have ASCII bytes replaced by ASCII text, without a change of verdict.
-/

namespace Foundation.Utf8

/-- The range of a continuation byte. -/
abbrev Range := UInt8 × UInt8

/-- An unrestricted continuation byte. -/
def tail : Range := (0x80, 0xBF)

/-- The continuation bytes a first byte asks for, if it may start a character. -/
def lead (b : UInt8) : Option (List Range) :=
  if b < 0x80 then some []
  else if 0xC2 ≤ b ∧ b ≤ 0xDF then some [tail]
  else if b = 0xE0 then some [(0xA0, 0xBF), tail]
  else if b = 0xED then some [(0x80, 0x9F), tail]
  else if 0xE1 ≤ b ∧ b ≤ 0xEF then some [tail, tail]
  else if b = 0xF0 then some [(0x90, 0xBF), tail, tail]
  else if 0xF1 ≤ b ∧ b ≤ 0xF3 then some [tail, tail, tail]
  else if b = 0xF4 then some [(0x80, 0x8F), tail, tail]
  else none

/-- Recognise the rest of a text when the continuation bytes `pending` are due. -/
def accepts : List Range → List UInt8 → Bool
  | [], [] => true
  | _ :: _, [] => false
  | [], b :: bs =>
    match lead b with
    | some pending => accepts pending bs
    | none => false
  | (lo, hi) :: pending, b :: bs => decide (lo ≤ b ∧ b ≤ hi) && accepts pending bs

/-- The text is a sequence of encoded characters. -/
def valid (text : List UInt8) : Bool := accepts [] text

/-- Every byte is below `0x80`. -/
def Ascii (text : List UInt8) : Prop := ∀ b ∈ text, b < 0x80

instance (text : List UInt8) : Decidable (Ascii text) :=
  List.decidableBAll (fun b => b < 0x80) text

theorem Ascii.append {a b : List UInt8} (ha : Ascii a) (hb : Ascii b) : Ascii (a ++ b) := by
  intro c hc
  rcases List.mem_append.mp hc with h | h
  · exact ha c h
  · exact hb c h

theorem accepts_ascii_cons {b : UInt8} (hb : b < 0x80) (text : List UInt8) :
    accepts [] (b :: text) = accepts [] text := by
  simp [accepts, lead, hb]

theorem accepts_ascii_append {a : List UInt8} (ha : Ascii a) (text : List UInt8) :
    accepts [] (a ++ text) = accepts [] text := by
  induction a with
  | nil => rfl
  | cons b a ih =>
    rw [List.cons_append, accepts_ascii_cons (ha b (by simp)),
      ih fun c hc => ha c (List.mem_cons_of_mem b hc)]

theorem valid_of_ascii {a : List UInt8} (ha : Ascii a) : valid a := by
  have h := accepts_ascii_append ha []
  rw [List.append_nil] at h
  exact h.trans rfl

/-- The ranges a recogniser can be waiting for lie above the ASCII bytes. -/
def Pending (pending : List Range) : Prop := ∀ r ∈ pending, 0x80 ≤ r.1

theorem pending_lead {b : UInt8} {pending : List Range} (h : lead b = some pending) :
    Pending pending := by
  unfold lead at h
  split_ifs at h <;> cases h <;> simp [Pending, tail]

/-- No range due after a first byte contains an ASCII byte. -/
theorem not_le_of_ascii {lo b : UInt8} (hlo : 0x80 ≤ lo) (hb : b < 0x80) : ¬ lo ≤ b :=
  fun h => UInt8.not_le.mpr hb (UInt8.le_trans hlo h)

/-- Replace bytes by `f` of them, where `f` keeps the bytes from `0x80` on and
turns an ASCII byte into ASCII text that is not empty. -/
theorem accepts_flatMap {f : UInt8 → List UInt8} (hkeep : ∀ b, ¬ b < 0x80 → f b = [b])
    (hascii : ∀ b, b < 0x80 → Ascii (f b) ∧ f b ≠ []) (text rest : List UInt8)
    (hrest : Ascii rest) {pending : List Range} (hp : Pending pending) :
    accepts pending (text.flatMap f ++ rest) = accepts pending text := by
  induction text generalizing pending with
  | nil =>
    cases pending with
    | nil => simpa [accepts, valid] using valid_of_ascii hrest
    | cons r pending =>
      cases rest with
      | nil => rfl
      | cons c rest =>
        have hno : ¬ r.1 ≤ c := not_le_of_ascii (hp r (by simp)) (hrest c (by simp))
        simp [accepts, hno]
  | cons b text ih =>
    rw [List.flatMap_cons, List.append_assoc]
    by_cases hb : b < 0x80
    · obtain ⟨ha, hne⟩ := hascii b hb
      cases pending with
      | nil =>
        rw [accepts_ascii_append ha, accepts_ascii_cons hb]
        exact ih (by simp [Pending])
      | cons r pending =>
        -- An ASCII byte where a continuation byte is due is an error on both sides.
        have hr : 0x80 ≤ r.1 := hp r (by simp)
        obtain ⟨c, cs, hcs⟩ := List.exists_cons_of_ne_nil hne
        have hc : c < 0x80 := ha c (by simp [hcs])
        simp [hcs, accepts, not_le_of_ascii hr hc, not_le_of_ascii hr hb]
    · rw [hkeep b hb, List.singleton_append]
      cases pending with
      | nil =>
        cases hl : lead b with
        | none => simp [accepts, hl]
        | some pending =>
          simp only [accepts, hl]
          exact ih (pending_lead hl)
      | cons r pending =>
        simp only [accepts]
        rw [ih fun r' hr' => hp r' (List.mem_cons_of_mem r hr')]

/-- Text between ASCII texts, with its ASCII bytes rewritten, is well formed exactly
when the text itself is. -/
theorem valid_wrapped {f : UInt8 → List UInt8} (hkeep : ∀ b, ¬ b < 0x80 → f b = [b])
    (hascii : ∀ b, b < 0x80 → Ascii (f b) ∧ f b ≠ []) {front text back : List UInt8}
    (hfront : Ascii front) (hback : Ascii back) :
    valid (front ++ text.flatMap f ++ back) = valid text := by
  unfold valid
  rw [List.append_assoc, accepts_ascii_append hfront]
  exact accepts_flatMap hkeep hascii text back hback (by simp [Pending])

end Foundation.Utf8
