import Mathlib.Tactic

/-!
# Numbers as bytes

The little-endian bytes of an integer, of any width, and the number that bytes
denote. An integer that does not fit is reduced, a negative one to its two's
complement. `setAll` writes bytes into a buffer one after the other.
-/

namespace Foundation

/-! ## Digits -/

/-- The lowest byte of an integer. -/
def lowByte (v : Int) : UInt8 := UInt8.ofNat (v % 256).toNat

/-- The `n` lowest bytes, the lowest first. -/
def bytesLE : Nat → Int → List UInt8
  | 0, _ => []
  | n + 1, v => lowByte v :: bytesLE n (v / 256)

/-- The number whose lowest byte comes first. -/
def valueLE : List UInt8 → Nat
  | [] => 0
  | b :: bytes => b.toNat + 256 * valueLE bytes

@[simp] theorem length_bytesLE (n : Nat) (v : Int) : (bytesLE n v).length = n := by
  induction n generalizing v with
  | zero => rfl
  | succ n ih => rw [bytesLE, List.length_cons, ih]

theorem toNat_lowByte (v : Int) : ((lowByte v).toNat : Int) = v % 256 := by
  have hnonneg := Int.emod_nonneg v (by decide : (256 : Int) ≠ 0)
  have hlt := Int.emod_lt_of_pos v (by decide : (0 : Int) < 256)
  rw [lowByte, UInt8.toNat_ofNat']
  omega

/-- What is read back is the integer up to a multiple of the size of the field. -/
theorem valueLE_bytesLE (n : Nat) (v : Int) : (valueLE (bytesLE n v) : Int) = v % 256 ^ n := by
  induction n generalizing v with
  | zero => simp [bytesLE, valueLE]
  | succ n ih =>
    have hdiv : v / 256 / 256 ^ n = v / (256 * 256 ^ n) :=
      Int.ediv_ediv_of_nonneg (by decide)
    rw [bytesLE, valueLE, Nat.cast_add, Nat.cast_mul, ih, toNat_lowByte, pow_succ']
    simp only [Int.emod_def, hdiv, Nat.cast_ofNat]
    ring

/-- The bytes of a number in two parts. -/
theorem bytesLE_add (m n : Nat) (v : Int) :
    bytesLE (m + n) v = bytesLE m v ++ bytesLE n (v / 256 ^ m) := by
  induction m generalizing v with
  | zero => simp [bytesLE]
  | succ m ih =>
    have hdiv : v / 256 / 256 ^ m = v / 256 ^ (m + 1) := by
      rw [Int.ediv_ediv_of_nonneg (by decide), pow_succ']
    rw [Nat.succ_add, bytesLE, bytesLE, ih, hdiv, List.cons_append]

/-! ## Buffers -/

/-- Write bytes from a position on. -/
def setAll (buffer : List UInt8) (pos : Nat) : List UInt8 → List UInt8
  | [] => buffer
  | b :: bytes => setAll (buffer.set pos b) (pos + 1) bytes

/-- Writing as many bytes as there were replaces them. -/
theorem setAll_append (front old back bytes : List UInt8) (h : old.length = bytes.length) :
    setAll (front ++ (old ++ back)) front.length bytes = front ++ (bytes ++ back) := by
  induction bytes generalizing front old with
  | nil => rw [List.length_eq_zero_iff.mp h]; rfl
  | cons b bytes ih =>
    obtain ⟨o, old, rfl⟩ := List.exists_cons_of_length_eq_add_one h
    have hset : (front ++ (o :: old ++ back)).set front.length b =
        (front ++ [b]) ++ (old ++ back) := by
      simp
    have hlength : front.length + 1 = (front ++ [b]).length := by simp
    rw [setAll, hset, hlength, ih (front ++ [b]) old (by simpa using h)]
    simp

end Foundation
