import CCTVWebServer.Text
import CCTVWebServer.Foundation.Utf8

/-!
# The interface of nlohmann::json

The JSON library is not part of the repository. It enters the model as the three
functions the handlers call, `parse`, `value` and `dump`, together with what its
documentation says of them: a parse error quotes the bytes it stopped at, and
only control characters are escaped in the quotation; `value` raises on anything
but an object, and on a field of another type; `dump` raises when a string is not
well-formed UTF-8. The messages of `value` and `dump` are ASCII.
-/

namespace CCTVWebServer

open Foundation

/-- A JSON value. A number is kept as its text. -/
inductive Json where
  | null
  | boolean (b : Bool)
  | number (text : Bytes)
  | string (s : Bytes)
  | array (items : List Json)
  | object (fields : List (Bytes × Json))

namespace Json

mutual

/-- Every string in the value is well-formed UTF-8. -/
def wellEncoded : Json → Bool
  | null => true
  | boolean _ => true
  | number _ => true
  | string s => Utf8.valid s
  | array items => itemsWellEncoded items
  | object fields => fieldsWellEncoded fields

def itemsWellEncoded : List Json → Bool
  | [] => true
  | item :: items => item.wellEncoded && itemsWellEncoded items

def fieldsWellEncoded : List (Bytes × Json) → Bool
  | [] => true
  | (name, value) :: fields =>
    Utf8.valid name && value.wellEncoded && fieldsWellEncoded fields

end

end Json

/-- The parts of a parse error's message: what it quotes of the input, and the text around it. -/
structure ParseError where
  lead : Bytes
  lastRead : Bytes
  trail : Bytes

/-- A quoted byte: control characters are written as `<U+00XX>`. -/
def escapeControl (b : UInt8) : Bytes :=
  if b ≤ 0x1F then
    str "<U+00" ++ [if b < 0x10 then 0x30 else 0x31,
      if b % 0x10 < 10 then 0x30 + b % 0x10 else 0x37 + b % 0x10] ++ str ">"
  else [b]

/-- The text of `what()`. -/
def ParseError.what (e : ParseError) : Bytes :=
  e.lead ++ e.lastRead.flatMap escapeControl ++ e.trail

/-- The functions of the library; on an error, `value` and `dump` give its `what()`. -/
structure Nlohmann where
  parse : Bytes → Except ParseError Json
  value : Json → Bytes → Bytes → Except Bytes Bytes
  dump : Json → Except Bytes Bytes

/-- What the documentation of the library promises. -/
structure Nlohmann.Documented (json : Nlohmann) : Prop where
  parse_quotes : ∀ body err, json.parse body = .error err →
    Utf8.Ascii err.lead ∧ err.lastRead <:+: body ∧ Utf8.Ascii err.trail
  value_absent : ∀ fields key fallback, fields.lookup key = none →
    json.value (.object fields) key fallback = .ok fallback
  value_string : ∀ fields key fallback s, fields.lookup key = some (.string s) →
    json.value (.object fields) key fallback = .ok s
  value_type : ∀ fields key fallback v, fields.lookup key = some v → (∀ s, v ≠ .string s) →
    ∃ what, json.value (.object fields) key fallback = .error what ∧ Utf8.Ascii what
  value_object : ∀ j key fallback, (∀ fields, j ≠ .object fields) →
    ∃ what, json.value j key fallback = .error what ∧ Utf8.Ascii what
  dump_ok : ∀ j, j.wellEncoded → ∃ text, json.dump j = .ok text
  dump_raises : ∀ j, ¬ j.wellEncoded → ∃ what, json.dump j = .error what ∧ Utf8.Ascii what

/-- Characters that a string shows without an escape. -/
def Plain (text : Bytes) : Prop := ∀ b ∈ text, 0x20 ≤ b ∧ b < 0x7F ∧ b ≠ 0x22 ∧ b ≠ 0x5C

instance (text : Bytes) : Decidable (Plain text) :=
  List.decidableBAll (fun b => 0x20 ≤ b ∧ b < 0x7F ∧ b ≠ 0x22 ∧ b ≠ 0x5C) text

/-- What the documentation promises of the text of an object with one string: there are no
blanks around the name and the value, and plain characters stand for themselves. -/
def Nlohmann.DumpsPlain (json : Nlohmann) : Prop :=
  ∀ name text, Plain name → Plain text →
    json.dump (.object [(name, .string text)]) =
      .ok (str "\x7b\"" ++ name ++ str "\":\"" ++ text ++ str "\"\x7d")

theorem escapeControl_keep {b : UInt8} (hb : ¬ b < 0x80) : escapeControl b = [b] := by
  have h : ¬ b ≤ 0x1F := fun h => hb (UInt8.lt_of_le_of_lt h (by decide))
  simp [escapeControl, h]

theorem escapeControl_ascii : ∀ b : UInt8, b < 0x80 →
    Utf8.Ascii (escapeControl b) ∧ escapeControl b ≠ [] :=
  forall_byte (by decide +kernel)

/-- The message of a parse error is well-formed UTF-8 exactly when the quoted bytes are. -/
theorem Nlohmann.Documented.valid_what {json : Nlohmann} (hjson : json.Documented) {body : Bytes}
    {err : ParseError} (h : json.parse body = .error err) :
    Utf8.valid err.what = Utf8.valid err.lastRead := by
  obtain ⟨hlead, -, htrail⟩ := hjson.parse_quotes body err h
  exact Utf8.valid_wrapped (fun b hb => escapeControl_keep hb) escapeControl_ascii hlead htrail

/-- A failing field access raises an ASCII message. -/
theorem Nlohmann.Documented.value_error {json : Nlohmann} (hjson : json.Documented) {j : Json}
    {key fallback what : Bytes} (h : json.value j key fallback = .error what) :
    Utf8.Ascii what := by
  by_cases hobj : ∃ fields, j = .object fields
  · obtain ⟨fields, rfl⟩ := hobj
    cases hl : fields.lookup key with
    | none => simp [hjson.value_absent fields key fallback hl] at h
    | some v =>
      by_cases hs : ∃ s, v = .string s
      · obtain ⟨s, rfl⟩ := hs
        simp [hjson.value_string fields key fallback s hl] at h
      · obtain ⟨w, hw, ha⟩ := hjson.value_type fields key fallback v hl
          fun s hv => hs ⟨s, hv⟩
        rw [hw] at h
        cases h
        exact ha
  · obtain ⟨w, hw, ha⟩ := hjson.value_object j key fallback fun fields hj => hobj ⟨fields, hj⟩
    rw [hw] at h
    cases h
    exact ha

/-- A failing serialisation raises an ASCII message. -/
theorem Nlohmann.Documented.dump_error {json : Nlohmann} (hjson : json.Documented) {j : Json}
    {what : Bytes} (h : json.dump j = .error what) : Utf8.Ascii what := by
  by_cases hj : j.wellEncoded
  · obtain ⟨text, ht⟩ := hjson.dump_ok j hj
    rw [ht] at h
    cases h
  · obtain ⟨w, hw, ha⟩ := hjson.dump_raises j hj
    rw [hw] at h
    cases h
    exact ha

end CCTVWebServer
