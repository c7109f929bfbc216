import Mathlib.Tactic

/-!
# String literals

The value of a string literal in single quotes, as a script that is not in strict mode
reads it: UTF-16 units, with every escape sequence of the language.
-/

namespace Foundation.Script

abbrev quote : UInt16 := 0x27
abbrev backslash : UInt16 := 0x5C
abbrev lineFeed : UInt16 := 0x0A
abbrev carriageReturn : UInt16 := 0x0D

/-! ## Escape sequences -/

def octalDigit (c : UInt16) : Option Nat :=
  if 0x30 ≤ c ∧ c ≤ 0x37 then some (c.toNat - 0x30) else none

def hexDigit (c : UInt16) : Option Nat :=
  if 0x30 ≤ c ∧ c ≤ 0x39 then some (c.toNat - 0x30)
  else if 0x41 ≤ c ∧ c ≤ 0x46 then some (c.toNat - 0x41 + 10)
  else if 0x61 ≤ c ∧ c ≤ 0x66 then some (c.toNat - 0x61 + 10)
  else none

/-- At most `n` further octal digits. -/
def octalDigits : Nat → Nat → List UInt16 → Nat × List UInt16
  | 0, value, s => (value, s)
  | _ + 1, value, [] => (value, [])
  | n + 1, value, c :: s =>
    match octalDigit c with
    | some d => octalDigits n (8 * value + d) s
    | none => (value, c :: s)

/-- Exactly `n` further hexadecimal digits. -/
def hexDigits : Nat → Nat → List UInt16 → Option (Nat × List UInt16)
  | 0, value, s => some (value, s)
  | _ + 1, _, [] => none
  | n + 1, value, c :: s => (hexDigit c).bind fun d => hexDigits n (16 * value + d) s

/-- Hexadecimal digits up to the closing brace. -/
def bracedDigits : Nat → List UInt16 → Option (Nat × List UInt16)
  | _, [] => none
  | value, c :: s =>
    if c = 0x7D then some (value, s)
    else (hexDigit c).bind fun d => bracedDigits (16 * value + d) s

/-- The units of a code point. -/
def utf16 (value : Nat) : List UInt16 :=
  if value < 0x10000 then [UInt16.ofNat value]
  else [UInt16.ofNat (0xD800 + (value - 0x10000) / 0x400),
    UInt16.ofNat (0xDC00 + (value - 0x10000) % 0x400)]

/-- A unit that stands for itself or for a control character. -/
def singleEscape (c : UInt16) : UInt16 :=
  if c = 0x62 then 0x08
  else if c = 0x74 then 0x09
  else if c = 0x6E then 0x0A
  else if c = 0x76 then 0x0B
  else if c = 0x66 then 0x0C
  else if c = 0x72 then 0x0D
  else c

def hexEscape (n : Nat) (s : List UInt16) : Option (List UInt16 × List UInt16) :=
  (hexDigits n 0 s).map fun result => ([UInt16.ofNat result.1], result.2)

def unicodeEscape : List UInt16 → Option (List UInt16 × List UInt16)
  | [] => none
  | c :: s =>
    if c = 0x7B then
      if s.head? = some 0x7D then none
      else (bracedDigits 0 s).bind fun result =>
        if result.1 ≤ 0x10FFFF then some (utf16 result.1, result.2) else none
    else hexEscape 4 (c :: s)

/-- What stands behind a backslash: the units it gives, and the rest. A line that is continued
gives none. -/
def escape : List UInt16 → Option (List UInt16 × List UInt16)
  | [] => none
  | c :: s =>
    if c = 0x78 then hexEscape 2 s
    else if c = 0x75 then unicodeEscape s
    else if c = carriageReturn then some ([], if s.head? = some lineFeed then s.tail else s)
    else if c = lineFeed ∨ c = 0x2028 ∨ c = 0x2029 then some ([], s)
    else match octalDigit c with
      | some d =>
        let result := octalDigits (if d ≤ 3 then 2 else 1) d s
        some ([UInt16.ofNat result.1], result.2)
      | none => some ([singleEscape c], s)

/-! An escape sequence gives no more units than stand behind its backslash. -/

theorem length_octalDigits (n value : Nat) (s : List UInt16) :
    (octalDigits n value s).2.length ≤ s.length := by
  fun_induction octalDigits n value s with
  | case1 | case2 | case4 => simp
  | case3 n value c s d _ ih => exact ih.trans (by simp)

theorem length_hexDigits {n value : Nat} {s : List UInt16} {result : Nat × List UInt16}
    (h : hexDigits n value s = some result) : result.2.length + n ≤ s.length := by
  induction n generalizing value s with
  | zero =>
    obtain rfl := Option.some.inj h
    simp
  | succ n ih =>
    cases s with
    | nil => simp [hexDigits] at h
    | cons c s =>
      obtain ⟨d, -, h⟩ := Option.bind_eq_some_iff.mp h
      have hrest := ih h
      simp only [List.length_cons]
      omega

theorem length_bracedDigits {value : Nat} {s : List UInt16} {result : Nat × List UInt16}
    (h : bracedDigits value s = some result) : result.2.length + 1 ≤ s.length := by
  induction s generalizing value with
  | nil => simp [bracedDigits] at h
  | cons c s ih =>
    rw [bracedDigits] at h
    split_ifs at h
    · obtain rfl := Option.some.inj h
      simp
    · obtain ⟨d, -, h⟩ := Option.bind_eq_some_iff.mp h
      exact (ih h).trans (by simp)

theorem length_utf16 (value : Nat) : (utf16 value).length ≤ 2 := by
  unfold utf16
  split_ifs <;> simp

theorem length_hexEscape {n : Nat} {s : List UInt16} {result : List UInt16 × List UInt16}
    (h : hexEscape n s = some result) : result.1.length + result.2.length + n ≤ s.length + 1 := by
  obtain ⟨digits, hdigits, rfl⟩ := Option.map_eq_some_iff.mp h
  have hrest := length_hexDigits hdigits
  simp only [List.length_singleton]
  omega

theorem length_unicodeEscape {s : List UInt16} {result : List UInt16 × List UInt16}
    (h : unicodeEscape s = some result) : result.1.length + result.2.length ≤ s.length := by
  cases s with
  | nil => simp [unicodeEscape] at h
  | cons c s =>
    rw [unicodeEscape] at h
    split_ifs at h
    · obtain ⟨digits, hdigits, h⟩ := Option.bind_eq_some_iff.mp h
      split_ifs at h
      obtain rfl := Option.some.inj h
      have hrest := length_bracedDigits hdigits
      have hunits := length_utf16 digits.1
      simp only [List.length_cons]
      omega
    · have hrest := length_hexEscape h
      omega

theorem length_escape {s : List UInt16} {result : List UInt16 × List UInt16}
    (h : escape s = some result) : result.1.length + result.2.length ≤ s.length := by
  cases s with
  | nil => simp [escape] at h
  | cons c s =>
    rw [escape] at h
    split_ifs at h
    · have hrest := length_hexEscape h
      simp only [List.length_cons]
      omega
    · have hrest := length_unicodeEscape h
      simp only [List.length_cons]
      omega
    · obtain rfl := Option.some.inj h
      simp only [List.length_nil, List.length_cons, List.length_tail]
      omega
    · obtain rfl := Option.some.inj h
      simp only [List.length_nil, List.length_cons]
      omega
    · obtain rfl := Option.some.inj h
      simp only [List.length_nil, List.length_cons]
      omega
    · cases hdigit : octalDigit c with
      | some d =>
        rw [hdigit] at h
        obtain rfl := Option.some.inj h
        have hrest := length_octalDigits (if d ≤ 3 then 2 else 1) d s
        simp only [List.length_nil, List.length_cons]
        omega
      | none =>
        rw [hdigit] at h
        obtain rfl := Option.some.inj h
        simp only [List.length_nil, List.length_cons]
        omega

/-! ## Literals -/

/-- The value of a literal whose opening quote has been read, and what follows its closing
quote. A line does not end in a literal. -/
def literal : List UInt16 → Option (List UInt16 × List UInt16)
  | [] => none
  | c :: s =>
    if c = quote then some ([], s)
    else if c = lineFeed ∨ c = carriageReturn then none
    else if c = backslash then
      match _h : escape s with
      | none => none
      | some escaped =>
        (literal escaped.2).map fun result => (escaped.1 ++ result.1, result.2)
    else (literal s).map fun result => (c :: result.1, result.2)
termination_by s => s.length
decreasing_by
  · have hrest := length_escape ‹_›
    simp only [List.length_cons]
    omega
  · simp

/-- No unit of the text means something else in a literal. -/
def Verbatim (s : List UInt16) : Prop :=
  ∀ c ∈ s, c ≠ quote ∧ c ≠ backslash ∧ c ≠ lineFeed ∧ c ≠ carriageReturn

instance Verbatim.decidable (s : List UInt16) : Decidable (Verbatim s) := List.decidableBAll _ s

theorem literal_verbatim {s : List UInt16} (h : Verbatim s) (rest : List UInt16) :
    literal (s ++ quote :: rest) = some (s, rest) := by
  induction s with
  | nil => simp [literal]
  | cons c s ih =>
    obtain ⟨⟨hquote, hbackslash, hlf, hcr⟩, hs⟩ := List.forall_mem_cons.mp h
    rw [List.cons_append, literal, if_neg hquote, if_neg (by simp [hlf, hcr]), if_neg hbackslash,
      ih hs, Option.map_some]

/-- A literal is longer than its value, and by its closing quote alone only if it is verbatim. -/
theorem literal_length {s : List UInt16} {result : List UInt16 × List UInt16}
    (h : literal s = some result) :
    result.1.length + result.2.length + 1 ≤ s.length ∧
      (s.length = result.1.length + result.2.length + 1 →
        s = result.1 ++ quote :: result.2 ∧ Verbatim result.1) := by
  fun_induction literal s generalizing result with
  | case1 => cases h
  | case2 s =>
    obtain rfl := Option.some.inj h
    simp [Verbatim]
  | case3 => cases h
  | case4 => cases h
  | case5 s escaped hescape _ _ ih =>
    obtain ⟨tail, htail, rfl⟩ := Option.map_eq_some_iff.mp h
    have hunits := length_escape hescape
    have hrest := (ih htail).1
    simp only [List.length_append, List.length_cons]
    exact ⟨by omega, fun _ => by omega⟩
  | case6 c s hquote hline hbackslash ih =>
    obtain ⟨tail, htail, rfl⟩ := Option.map_eq_some_iff.mp h
    obtain ⟨hle, heq⟩ := ih htail
    simp only [List.length_cons]
    refine ⟨by omega, fun hlength => ?_⟩
    obtain ⟨hs, hverbatim⟩ := heq (by omega)
    rw [not_or] at hline
    exact ⟨by rw [List.cons_append, ← hs],
      List.forall_mem_cons.mpr ⟨⟨hquote, hbackslash, hline⟩, hverbatim⟩⟩

end Foundation.Script
