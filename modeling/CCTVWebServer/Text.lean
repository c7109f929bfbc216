import Mathlib.Data.List.TakeWhile
import Mathlib.Tactic

/-!
# Byte strings

The server's `std::string` values are byte strings. `str` gives the bytes of a
literal of the source, and the searches are those the handlers use.
-/

namespace CCTVWebServer

/-- A `std::string`. -/
abbrev Bytes := List UInt8

/-- The bytes of a string literal. -/
def str (s : String) : Bytes := s.toUTF8.data.toList

/-- A statement about all bytes, to be checked on the 256 of them. -/
theorem forall_byte {P : UInt8 → Prop} (h : ∀ n : Fin 256, P (UInt8.ofFin n)) (b : UInt8) :
    P b := by
  simpa using h b.toFin

@[simp] theorem str_inj {a b : String} : str a = str b ↔ a = b := by
  constructor
  · intro h
    exact String.toByteArray_inj.mp (ByteArray.ext (Array.toList_inj.mp h))
  · rintro rfl
    rfl

/-- The text of a number written to a stream. -/
def decimal (n : Int) : Bytes := str (toString n)

/-- `std::string::find`: the first position at which `needle` occurs. -/
def find (needle : Bytes) : Bytes → Option Nat
  | [] => if needle = [] then some 0 else none
  | b :: rest =>
    if needle <+: b :: rest then some 0 else (find needle rest).map (· + 1)

/-- `std::string::find` from a position on. -/
def findFrom (needle text : Bytes) (pos : Nat) : Option Nat :=
  (find needle (text.drop pos)).map (· + pos)

/-- `text.rfind(start, 0) == 0`. -/
abbrev StartsWith (text start : Bytes) : Prop := start <+: text

/-- What is left of a string that is passed on as `c_str()`. -/
def cstr (text : Bytes) : Bytes := text.takeWhile (· ≠ 0)

theorem cstr_of_not_mem {text : Bytes} (h : 0 ∉ text) : cstr text = text := by
  rw [cstr, List.takeWhile_eq_self_iff]
  intro b hb
  simpa using fun h0 : b = 0 => h (h0 ▸ hb)

theorem not_mem_cstr (text : Bytes) : (0 : UInt8) ∉ cstr text := by
  intro h
  simpa using List.mem_takeWhile_imp h

end CCTVWebServer
