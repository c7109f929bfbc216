import CCTVWebServer.Foundation.Decimal
import Mathlib.Data.List.DropRight

/-!
# HTTP responses

A response as a client reads it off a connection: a status line, header fields, an
empty line, and as many bytes of body as `Content-Length` says, or all of them without
one. A response that is well formed and written out is read back whole, and nothing
behind it is touched.
-/

namespace Foundation.Http

abbrev carriageReturn : UInt8 := 0x0D
abbrev lineFeed : UInt8 := 0x0A
abbrev space : UInt8 := 0x20
abbrev colon : UInt8 := 0x3A

def lineEnd : List UInt8 := [carriageReturn, lineFeed]

/-- The bytes of an ASCII text. -/
def ascii (text : String) : List UInt8 := text.toList.map fun c => UInt8.ofNat c.toNat

structure Field where
  name : List UInt8
  value : List UInt8
  deriving DecidableEq

structure Response where
  status : Nat
  reason : List UInt8
  fields : List Field
  body : List UInt8
  deriving DecidableEq

/-! ## Reading -/

/-- A line without its end, and what follows it. -/
def readLine : List UInt8 → Option (List UInt8 × List UInt8)
  | [] => none
  | b :: input =>
    if b = carriageReturn ∧ input.head? = some lineFeed then some ([], input.tail)
    else (readLine input).map fun line => (b :: line.1, line.2)

/-- `HTTP/1.1`, three digits and the reason, a space in front of each of the last two. -/
def readStatusLine (line : List UInt8) : Option (Nat × List UInt8) := do
  let rest ← (ascii "HTTP/1.1 ").isPrefixOf? line
  match Decimal.readDigits rest with
  | (code, b :: reason) =>
    if code.length = 3 ∧ b = space then some (Decimal.value 0 code, reason) else none
  | (_, []) => none

def IsBlank (b : UInt8) : Prop := b = space ∨ b = 0x09

instance : DecidablePred IsBlank := fun b => inferInstanceAs (Decidable (b = space ∨ b = 0x09))

/-- A text without the blanks around it. -/
def trim (text : List UInt8) : List UInt8 :=
  (text.dropWhile fun b => IsBlank b).rdropWhile fun b => IsBlank b

/-- A visible character that is no delimiter. -/
def IsTokenByte (b : UInt8) : Prop :=
  0x21 ≤ b ∧ b ≤ 0x7E ∧ b ∉ ascii "\"(),/:;<=>?@[\\]\x7b\x7d"

instance : DecidablePred IsTokenByte := fun b =>
  inferInstanceAs (Decidable (0x21 ≤ b ∧ b ≤ 0x7E ∧ b ∉ ascii "\"(),/:;<=>?@[\\]\x7b\x7d"))

def IsToken (text : List UInt8) : Prop := text ≠ [] ∧ ∀ b ∈ text, IsTokenByte b

instance : DecidablePred IsToken := fun text =>
  inferInstanceAs (Decidable (text ≠ [] ∧ ∀ b ∈ text, IsTokenByte b))

/-- A name, a colon and a value. -/
def readField (line : List UInt8) : Option Field :=
  match line.dropWhile (· ≠ colon) with
  | [] => none
  | _ :: value =>
    let name := line.takeWhile (· ≠ colon)
    if IsToken name then some ⟨name, trim value⟩ else none

/-- The fields up to the empty line, and what follows it. -/
def readFields : Nat → List UInt8 → Option (List Field × List UInt8)
  | 0, _ => none
  | fuel + 1, input => do
    let (line, rest) ← readLine input
    if line = [] then some ([], rest)
    else
      let field ← readField line
      let (fields, rest) ← readFields fuel rest
      some (field :: fields, rest)

def lower (b : UInt8) : UInt8 := if 0x41 ≤ b ∧ b ≤ 0x5A then b + 0x20 else b

/-- The values of the fields of a name. Case does not count. -/
def values (name : String) (fields : List Field) : List (List UInt8) :=
  (fields.filter fun f => f.name.map lower = (ascii name).map lower).map (·.value)

/-- A response at the front of the input, and what follows it. -/
def read (input : List UInt8) : Option (Response × List UInt8) := do
  let (line, input) ← readLine input
  let (status, reason) ← readStatusLine line
  let (fields, input) ← readFields input.length input
  match values "Content-Length" fields with
  | [] => some (⟨status, reason, fields, input⟩, [])
  | text :: more =>
    if more = [] then
      let length ← Decimal.readNat text
      if length ≤ input.length then
        some (⟨status, reason, fields, input.take length⟩, input.drop length)
      else none
    else none

/-! ## Writing -/

def Field.text (f : Field) : List UInt8 := f.name ++ ascii ": " ++ f.value ++ lineEnd

def Response.text (r : Response) : List UInt8 :=
  ascii "HTTP/1.1 " ++ Decimal.digits r.status ++ ascii " " ++ r.reason ++ lineEnd
    ++ r.fields.flatMap Field.text ++ lineEnd ++ r.body

/-- The name is a token, and the value stays on its line and has no blanks around it. -/
structure Field.WellFormed (f : Field) : Prop where
  name : IsToken f.name
  value : carriageReturn ∉ f.value
  head : ∀ b ∈ f.value.head?, ¬ IsBlank b
  last : ∀ b ∈ f.value.getLast?, ¬ IsBlank b

instance (f : Field) : Decidable f.WellFormed :=
  decidable_of_iff (IsToken f.name ∧ carriageReturn ∉ f.value ∧
      f.value.head?.all (¬ IsBlank ·) = true ∧ f.value.getLast?.all (¬ IsBlank ·) = true) <| by
    simp only [Option.all_eq_true, decide_eq_true_eq]
    exact ⟨fun ⟨hname, hvalue, hhead, hlast⟩ => ⟨hname, hvalue, hhead, hlast⟩,
      fun h => ⟨h.name, h.value, h.head, h.last⟩⟩

structure Response.WellFormed (r : Response) : Prop where
  status : 100 ≤ r.status ∧ r.status ≤ 999
  reason : carriageReturn ∉ r.reason
  fields : ∀ f ∈ r.fields, f.WellFormed
  length : values "Content-Length" r.fields = [Decimal.digits r.body.length]

/-! ## Reading back -/

theorem readLine_append {line : List UInt8} (h : carriageReturn ∉ line) (rest : List UInt8) :
    readLine (line ++ lineEnd ++ rest) = some (line, rest) := by
  induction line with
  | nil => rfl
  | cons b line ih =>
    rw [List.mem_cons, not_or] at h
    have hno : ¬ (b = carriageReturn ∧ (line ++ lineEnd ++ rest).head? = some lineFeed) :=
      fun hend => h.1 hend.1.symm
    rw [List.cons_append, List.cons_append, readLine, if_neg hno, ih h.2, Option.map_some]

theorem isPrefixOf?_append (start rest : List UInt8) :
    start.isPrefixOf? (start ++ rest) = some rest := by
  induction start with
  | nil => cases rest <;> rfl
  | cons b start ih => simp [List.isPrefixOf?, ih]

theorem length_digits {n : Nat} (h : 100 ≤ n ∧ n ≤ 999) : (Decimal.digits n).length = 3 := by
  have hle : (Nat.toDigits 10 n).length ≤ 3 ↔ n < 10 ^ 3 :=
    Nat.length_toDigits_le_iff (by decide) (by decide)
  have hlt : (Nat.toDigits 10 n).length ≤ 2 ↔ n < 10 ^ 2 :=
    Nat.length_toDigits_le_iff (by decide) (by decide)
  rw [Decimal.digits, List.length_map]
  omega

theorem readStatusLine_text {status : Nat} (h : 100 ≤ status ∧ status ≤ 999)
    (reason : List UInt8) :
    readStatusLine (ascii "HTTP/1.1 " ++ Decimal.digits status ++ ascii " " ++ reason) =
      some (status, reason) := by
  have hspace : ascii " " = [space] := by decide
  have hnext : ∀ b ∈ (space :: reason).head?, ¬ Decimal.IsDigit b := by
    intro b hb
    cases hb
    decide
  have hline : ascii "HTTP/1.1 " ++ Decimal.digits status ++ ascii " " ++ reason =
      ascii "HTTP/1.1 " ++ (Decimal.digits status ++ space :: reason) := by
    simp [hspace]
  unfold readStatusLine
  rw [hline, isPrefixOf?_append]
  simp only [Option.bind_eq_bind, Option.bind_some, Decimal.readDigits_digits status hnext,
    length_digits h, Decimal.value_digits, and_self, if_true]

theorem trim_space (text : List UInt8) : trim (space :: text) = trim text := by
  unfold trim
  rw [List.dropWhile_cons_of_pos (by decide)]

theorem trim_eq {text : List UInt8} (hhead : ∀ b ∈ text.head?, ¬ IsBlank b)
    (hlast : ∀ b ∈ text.getLast?, ¬ IsBlank b) : trim text = text := by
  have hfront : text.dropWhile (fun b => IsBlank b) = text := by
    cases text with
    | nil => rfl
    | cons b text => exact List.dropWhile_cons_of_neg (by simpa using hhead b rfl)
  unfold trim
  rw [hfront, List.rdropWhile_eq_self_iff]
  intro hne
  have hb := hlast (text.getLast hne) (List.getLast?_eq_some_getLast hne)
  simpa using hb

theorem IsToken.not_mem {name : List UInt8} (h : IsToken name) {b : UInt8}
    (hb : ¬ IsTokenByte b) : b ∉ name := fun hmem => hb (h.2 b hmem)

/-- The first colon ends a name. -/
theorem readField_text {f : Field} (h : f.WellFormed) :
    readField (f.name ++ ascii ": " ++ f.value) = some f := by
  have hcolon : ascii ": " = [colon, space] := by decide
  have hname : ∀ b ∈ f.name, decide (b ≠ colon) = true := by
    intro b hb
    rw [decide_eq_true_eq]
    rintro rfl
    exact h.name.not_mem (by decide) hb
  have hdrop : (f.name ++ ascii ": " ++ f.value).dropWhile (· ≠ colon) =
      colon :: space :: f.value := by
    rw [List.append_assoc, hcolon, List.dropWhile_append_of_pos hname]
    rfl
  have htake : (f.name ++ ascii ": " ++ f.value).takeWhile (· ≠ colon) = f.name := by
    rw [List.append_assoc, hcolon, List.takeWhile_append_of_pos hname]
    simp
  unfold readField
  rw [hdrop, htake]
  dsimp only
  rw [if_pos h.name, trim_space, trim_eq h.head h.last]

theorem Field.WellFormed.line {f : Field} (h : f.WellFormed) :
    carriageReturn ∉ f.name ++ ascii ": " ++ f.value ∧ f.name ++ ascii ": " ++ f.value ≠ [] := by
  have hname : carriageReturn ∉ f.name := h.name.not_mem (by decide)
  have hcolon : carriageReturn ∉ ascii ": " := by decide
  constructor
  · simp [hname, hcolon, h.value]
  · simp [h.name.1]

theorem readFields_text {fields : List Field} (h : ∀ f ∈ fields, f.WellFormed) {fuel : Nat}
    (hfuel : fields.length < fuel) (rest : List UInt8) :
    readFields fuel (fields.flatMap Field.text ++ lineEnd ++ rest) = some (fields, rest) := by
  induction fields generalizing fuel with
  | nil =>
    cases fuel with
    | zero => omega
    | succ fuel =>
      have hline : readLine (lineEnd ++ rest) = some ([], rest) := rfl
      simp [readFields, hline]
  | cons f fields ih =>
    cases fuel with
    | zero => omega
    | succ fuel =>
      obtain ⟨hf, hfields⟩ := List.forall_mem_cons.mp h
      have hline : readLine ((f :: fields).flatMap Field.text ++ lineEnd ++ rest) =
          some (f.name ++ ascii ": " ++ f.value, fields.flatMap Field.text ++ lineEnd ++ rest) := by
        rw [← readLine_append hf.line.1, List.flatMap_cons, Field.text]
        simp only [List.append_assoc]
      rw [List.length_cons] at hfuel
      rw [readFields, hline]
      simp only [Option.bind_eq_bind, Option.bind_some, if_neg hf.line.2, readField_text hf,
        ih hfields (by omega : fields.length < fuel)]

theorem length_flatMap_text (fields : List Field) :
    fields.length ≤ (fields.flatMap Field.text).length := by
  induction fields with
  | nil => simp
  | cons f fields ih =>
    have hend : lineEnd.length = 2 := rfl
    simp only [List.flatMap_cons, List.length_cons, List.length_append, Field.text, hend]
    omega

/-- What a well-formed response is written as is read back as that response, and what follows
it is left. -/
theorem read_text {r : Response} (h : r.WellFormed) (rest : List UInt8) :
    read (r.text ++ rest) = some (r, rest) := by
  have hline : readLine (r.text ++ rest) =
      some (ascii "HTTP/1.1 " ++ Decimal.digits r.status ++ ascii " " ++ r.reason,
        r.fields.flatMap Field.text ++ lineEnd ++ (r.body ++ rest)) := by
    have hstart : carriageReturn ∉
        ascii "HTTP/1.1 " ++ Decimal.digits r.status ++ ascii " " ++ r.reason := by
      have hversion : carriageReturn ∉ ascii "HTTP/1.1 " := by decide
      have hspace : carriageReturn ∉ ascii " " := by decide
      have hdigits : carriageReturn ∉ Decimal.digits r.status := fun hb =>
        absurd (Decimal.isDigit_of_mem_digits hb) (by decide)
      simp [hversion, hspace, hdigits, h.reason]
    rw [← readLine_append hstart, Response.text]
    simp only [List.append_assoc]
  have hroom : r.fields.length <
      (r.fields.flatMap Field.text ++ lineEnd ++ (r.body ++ rest)).length := by
    have hfields := length_flatMap_text r.fields
    have hend : lineEnd.length = 2 := rfl
    simp only [List.length_append, hend]
    omega
  have hfields := readFields_text h.fields hroom (r.body ++ rest)
  have hbody : r.body.length ≤ (r.body ++ rest).length := by simp
  unfold read
  rw [hline]
  simp only [Option.bind_eq_bind, Option.bind_some, readStatusLine_text h.status, hfields,
    h.length, Decimal.readNat_digits, if_true, if_pos hbody, List.take_left, List.drop_left]

end Foundation.Http
