import Mathlib.Tactic

/-!
# Decimal numbers

Natural numbers as runs of ASCII digits. `readDigits` takes the digits at the front of
a text, `readNat` reads a text that is nothing but digits. What is written is read back.
-/

namespace Foundation.Decimal

def IsDigit (b : UInt8) : Prop := 0x30 ≤ b ∧ b ≤ 0x39

instance : DecidablePred IsDigit := fun b => inferInstanceAs (Decidable (0x30 ≤ b ∧ b ≤ 0x39))

/-- The digits of a number. -/
def digits (n : Nat) : List UInt8 := (Nat.toDigits 10 n).map fun c => UInt8.ofNat c.toNat

/-- The number that more digits make of `n`. -/
def value (n : Nat) (text : List UInt8) : Nat :=
  text.foldl (fun n b => 10 * n + (b.toNat - 0x30)) n

/-- The digits at the front of a text, and the rest. -/
def readDigits : List UInt8 → List UInt8 × List UInt8
  | [] => ([], [])
  | b :: text =>
    if IsDigit b then (b :: (readDigits text).1, (readDigits text).2) else ([], b :: text)

/-- The number a text of digits stands for. -/
def readNat (text : List UInt8) : Option Nat :=
  match readDigits text with
  | (b :: run, []) => some (value 0 (b :: run))
  | _ => none

/-! ## Writing -/

theorem toNat_of_isDigit {c : Char} (h : c.isDigit) : 48 ≤ c.toNat ∧ c.toNat ≤ 57 := by
  simp only [Char.isDigit, Bool.and_eq_true, decide_eq_true_eq, UInt32.le_iff_toNat_le] at h
  exact h

theorem isDigit_ofNat {c : Char} (h : c.isDigit) :
    IsDigit (UInt8.ofNat c.toNat) ∧ (UInt8.ofNat c.toNat).toNat = c.toNat := by
  obtain ⟨hlow, hhigh⟩ := toNat_of_isDigit h
  have hbyte : (UInt8.ofNat c.toNat).toNat = c.toNat := by
    rw [UInt8.toNat_ofNat']
    omega
  refine ⟨⟨?_, ?_⟩, hbyte⟩
  · rw [UInt8.le_iff_toNat_le, hbyte]
    exact hlow
  · rw [UInt8.le_iff_toNat_le, hbyte]
    exact hhigh

theorem isDigit_of_mem_digits {n : Nat} {b : UInt8} (h : b ∈ digits n) : IsDigit b := by
  obtain ⟨c, hc, rfl⟩ := List.mem_map.mp h
  exact (isDigit_ofNat (Nat.isDigit_of_mem_toDigits (by decide) (by decide) hc)).1

theorem digits_ne_nil (n : Nat) : digits n ≠ [] := by
  intro h
  exact Nat.toDigits_ne_nil (List.map_eq_nil_iff.mp h)

/-! ## Reading back -/

theorem value_map {cs : List Char} (h : ∀ c ∈ cs, c.isDigit) (n : Nat) :
    value n (cs.map fun c => UInt8.ofNat c.toNat) = Nat.ofDigitChars 10 cs n := by
  unfold value
  rw [Nat.ofDigitChars_eq_foldl, List.foldl_map]
  refine List.foldl_ext _ _ n fun m c hc => ?_
  rw [(isDigit_ofNat (h c hc)).2]
  rfl

theorem value_digits (n : Nat) : value 0 (digits n) = n := by
  have hdigits : ∀ c ∈ Nat.toDigits 10 n, c.isDigit := fun c hc =>
    Nat.isDigit_of_mem_toDigits (by decide) (by decide) hc
  rw [digits, value_map hdigits, Nat.ofDigitChars_ten_toDigits]

/-- The digits end where something else begins. -/
theorem readDigits_append {run rest : List UInt8} (hrun : ∀ b ∈ run, IsDigit b)
    (hrest : ∀ b ∈ rest.head?, ¬ IsDigit b) : readDigits (run ++ rest) = (run, rest) := by
  induction run with
  | nil =>
    cases rest with
    | nil => rfl
    | cons b rest => rw [List.nil_append, readDigits, if_neg (hrest b rfl)]
  | cons b run ih =>
    obtain ⟨hb, hrun⟩ := List.forall_mem_cons.mp hrun
    rw [List.cons_append, readDigits, if_pos hb, ih hrun]

theorem readDigits_spec (text : List UInt8) :
    text = (readDigits text).1 ++ (readDigits text).2 ∧
      (∀ b ∈ (readDigits text).1, IsDigit b) ∧
      ∀ b ∈ (readDigits text).2.head?, ¬ IsDigit b := by
  induction text with
  | nil => simp [readDigits]
  | cons b text ih =>
    obtain ⟨happend, hdigits, hrest⟩ := ih
    by_cases hb : IsDigit b
    · rw [readDigits, if_pos hb]
      exact ⟨congrArg (b :: ·) happend, List.forall_mem_cons.mpr ⟨hb, hdigits⟩, hrest⟩
    · rw [readDigits, if_neg hb]
      refine ⟨rfl, by simp, fun c hc => ?_⟩
      obtain rfl := Option.some.inj hc
      exact hb

theorem readDigits_digits (n : Nat) {rest : List UInt8} (hrest : ∀ b ∈ rest.head?, ¬ IsDigit b) :
    readDigits (digits n ++ rest) = (digits n, rest) :=
  readDigits_append (fun _ => isDigit_of_mem_digits) hrest

theorem readNat_digits (n : Nat) : readNat (digits n) = some n := by
  have hread : readDigits (digits n ++ []) = (digits n, []) := readDigits_digits n (by simp)
  rw [List.append_nil] at hread
  cases hdigits : digits n with
  | nil => exact absurd hdigits (digits_ne_nil n)
  | cons b run =>
    rw [hdigits] at hread
    rw [readNat, hread]
    dsimp only
    rw [← hdigits, value_digits]

end Foundation.Decimal
