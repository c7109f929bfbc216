import CCTVWebServer.Reference
import CCTVWebServer.Specification.Calls

/-!
# The stored text of an encrypted value

`encryptAES256GCM` writes hexadecimal text, and `decryptAES256GCM` reads text with
`strtol`, two characters at a time. What is written is read back. The reader also
takes texts that are never written: a byte has a second spelling exactly when it is
below 0x10 or above 0xF0.
-/

namespace CCTVWebServer

open Foundation

variable {w : World} {key text : Bytes} {a b : UInt8}

/-! ## Digits -/

/-- A digit that `std::hex` writes. -/
def LowerHexDigit (c : UInt8) : Prop := (0x30 ≤ c ∧ c ≤ 0x39) ∨ (0x61 ≤ c ∧ c ≤ 0x66)

instance : DecidablePred LowerHexDigit := fun c =>
  inferInstanceAs (Decidable ((0x30 ≤ c ∧ c ≤ 0x39) ∨ (0x61 ≤ c ∧ c ≤ 0x66)))

def lowerCase (c : UInt8) : UInt8 := if 0x41 ≤ c ∧ c ≤ 0x5A then c + 0x20 else c

/-- Pairs of hexadecimal digits, of either case. -/
def HexText (text : Bytes) : Prop := text.length % 2 = 0 ∧ ∀ c ∈ text, (digitValue c).isSome

theorem lowerHexDigit_byte (b : UInt8) :
    LowerHexDigit (hexDigit (b.toNat / 16)) ∧ LowerHexDigit (hexDigit (b.toNat % 16)) := by
  revert b
  exact forall_byte (by decide +kernel)

theorem lowerHexDigit_of_mem_toHex {data : Bytes} {c : UInt8} (h : c ∈ toHex data) :
    LowerHexDigit c := by
  induction data with
  | nil => cases h
  | cons b data ih =>
    rw [toHex_cons, List.mem_cons, List.mem_cons] at h
    rcases h with rfl | rfl | h
    · exact (lowerHexDigit_byte b).1
    · exact (lowerHexDigit_byte b).2
    · exact ih h

/-- A digit is not taken for white space or a sign, and has a lower-case form. -/
theorem digit_byte (c : UInt8) :
    ∀ d ∈ digitValue c, d < 16 ∧ lowerCase c = hexDigit d ∧ isSpace c = false ∧
      c ≠ 0x2D ∧ c ≠ 0x2B := by
  revert c
  exact forall_byte (by decide +kernel)

theorem digitValue_lt {c : UInt8} {d : Nat} (h : digitValue c = some d) : d < 16 :=
  (digit_byte c d h).1

/-! ## What `strtol` makes of a pair -/

theorem digitsValue_singleton_lt (b : UInt8) : digitsValue 0 [b] < 16 := by
  simp only [digitsValue]
  cases h : digitValue b with
  | none => simp
  | some d =>
    have hd := digitValue_lt h
    simp only
    omega

theorem digitsValue_pair_lt (h : ¬ ((digitValue a).isSome ∧ (digitValue b).isSome)) :
    digitsValue 0 [a, b] < 16 := by
  cases ha : digitValue a with
  | none => simp [digitsValue, ha]
  | some d =>
    have hd := digitValue_lt ha
    cases hb : digitValue b with
    | none =>
      simp only [digitsValue, ha, hb]
      omega
    | some e => simp [ha, hb] at h

/-- Without a pair of digits, what is read has one digit at most, and maybe a sign. -/
theorem strtol16_pair_of_not_digits (h : ¬ ((digitValue a).isSome ∧ (digitValue b).isSome)) :
    -16 < strtol16 [a, b] ∧ strtol16 [a, b] < 16 := by
  have hsingle := digitsValue_singleton_lt b
  have hpair := digitsValue_pair_lt h
  by_cases hspace : isSpace a
  · by_cases hspace' : isSpace b
    · simp [strtol16, hspace, hspace']
    · simp only [strtol16, List.dropWhile, hspace, hspace']
      split_ifs
      · simp [dropHexMark, digitsValue]
      · simp [dropHexMark, digitsValue]
      · simp only [dropHexMark]
        omega
  · simp only [strtol16, List.dropWhile, hspace]
    split_ifs <;> simp only [dropHexMark] <;> omega

theorem strtol16_singleton (a : UInt8) : 0 ≤ strtol16 [a] ∧ strtol16 [a] < 16 := by
  have hsingle := digitsValue_singleton_lt a
  by_cases hspace : isSpace a
  · simp [strtol16, hspace]
  · simp only [strtol16, List.dropWhile, hspace]
    split_ifs
    · simp [dropHexMark, digitsValue]
    · simp [dropHexMark, digitsValue]
    · simp only [dropHexMark]
      omega

theorem strtol16_digits {d e : Nat} (ha : digitValue a = some d) (hb : digitValue b = some e) :
    strtol16 [a, b] = (16 * d + e : Nat) := by
  obtain ⟨-, -, hspace, hminus, hplus⟩ := digit_byte a d ha
  simp only [strtol16, List.dropWhile, hspace, hminus, hplus, if_false, dropHexMark, digitsValue,
    ha, hb]
  omega

theorem toNat_toByte (n : Int) : ((toByte n).toNat : Int) = n % 256 := by
  have hlt : (n % 256).toNat < 2 ^ 8 := by omega
  rw [toByte, UInt8.toNat_ofNat_of_lt' hlt]
  omega

/-- The two digits of the byte that is read are the pair itself, in lower case. -/
theorem toHex_pair (ha : (digitValue a).isSome) (hb : (digitValue b).isSome) :
    toHex [toByte (strtol16 [a, b])] = [lowerCase a, lowerCase b] := by
  obtain ⟨d, hd⟩ := Option.isSome_iff_exists.mp ha
  obtain ⟨e, he⟩ := Option.isSome_iff_exists.mp hb
  obtain ⟨hdlt, hda, -⟩ := digit_byte a d hd
  obtain ⟨helt, hea, -⟩ := digit_byte b e he
  have hbyte := toNat_toByte (strtol16 [a, b])
  rw [strtol16_digits hd he] at hbyte ⊢
  have hhigh : (toByte (16 * d + e : Nat)).toNat / 16 = d := by omega
  have hlow : (toByte (16 * d + e : Nat)).toNat % 16 = e := by omega
  rw [toHex_cons, hhigh, hlow, hda, hea]
  rfl

/-! ## Texts that are read alike -/

theorem hexText_cons_cons :
    HexText (a :: b :: text) ↔ ((digitValue a).isSome ∧ (digitValue b).isSome) ∧ HexText text := by
  simp only [HexText, List.length_cons, List.forall_mem_cons]
  constructor
  · rintro ⟨hlength, ha, hb, hrest⟩
    exact ⟨⟨ha, hb⟩, by omega, hrest⟩
  · rintro ⟨⟨ha, hb⟩, hlength, hrest⟩
    exact ⟨by omega, ha, hb, hrest⟩

theorem not_hexText_singleton : ¬ HexText [a] := fun h => absurd h.1 Nat.one_ne_zero

/-- A text of digits is the spelling of the bytes it is read as. -/
theorem toHex_fromHex (h : HexText text) : toHex (fromHex text) = text.map lowerCase := by
  fun_induction fromHex text with
  | case1 => rfl
  | case2 a => exact absurd h not_hexText_singleton
  | case3 a b rest ih =>
    obtain ⟨⟨ha, hb⟩, hrest⟩ := hexText_cons_cons.mp h
    have hpair := toHex_pair ha hb
    rw [toHex_cons] at hpair ⊢
    obtain ⟨hhigh, hlow, -⟩ : _ ∧ _ ∧ _ := by simpa using hpair
    rw [ih hrest, hhigh, hlow]
    rfl

/-- The bytes that only a pair of digits is read as. -/
def OneSpelling (b : UInt8) : Prop := 0x10 ≤ b ∧ b ≤ 0xF0

theorem not_oneSpelling {n : Int} (hlo : -16 < n) (hhi : n < 16) : ¬ OneSpelling (toByte n) := by
  rintro ⟨hge, hle⟩
  have hbyte := toNat_toByte n
  have hge' : 16 ≤ (toByte n).toNat := UInt8.le_iff_toNat_le.mp hge
  have hle' : (toByte n).toNat ≤ 240 := UInt8.le_iff_toNat_le.mp hle
  omega

theorem hexText_of_oneSpelling (h : ∀ b ∈ fromHex text, OneSpelling b) : HexText text := by
  fun_induction fromHex text with
  | case1 => exact ⟨rfl, List.forall_mem_nil _⟩
  | case2 a =>
    obtain ⟨hlo, hhi⟩ := strtol16_singleton a
    exact absurd (h _ (List.mem_singleton_self _)) (not_oneSpelling (by omega) hhi)
  | case3 a b rest ih =>
    obtain ⟨hfirst, hrest⟩ := List.forall_mem_cons.mp h
    refine hexText_cons_cons.mpr ⟨?_, ih hrest⟩
    by_contra hdigits
    obtain ⟨hlo, hhi⟩ := strtol16_pair_of_not_digits hdigits
    exact not_oneSpelling hlo hhi hfirst

/-- A space in front of one digit, or a minus sign. -/
def otherSpelling (b : UInt8) : Bytes :=
  if b < 0x10 then [0x20, hexDigit b.toNat] else [0x2D, hexDigit (256 - b.toNat)]

theorem otherSpelling_byte (b : UInt8) :
    ¬ (0x10 ≤ b ∧ b ≤ 0xF0) → ∃ c ∈ [0x20, 0x2D], ∃ d : UInt8, otherSpelling b = [c, d] ∧
      toByte (strtol16 [c, d]) = b := by
  unfold otherSpelling
  intro h
  split_ifs with hlow
  · refine ⟨0x20, by simp, _, rfl, ?_⟩
    revert b
    exact forall_byte (by decide +kernel)
  · refine ⟨0x2D, by simp, _, rfl, ?_⟩
    revert b
    exact forall_byte (by decide +kernel)

theorem fromHex_toHex_append (data : Bytes) (text : Bytes) :
    fromHex (toHex data ++ text) = data ++ fromHex text := by
  induction data with
  | nil => rfl
  | cons b data ih =>
    rw [toHex_cons, List.cons_append, List.cons_append, fromHex, ih, (hexDigits_byte b).1]
    rfl

/-- A byte without one spelling gives the whole text another one. -/
theorem exists_other_spelling {data : Bytes} (hb : b ∈ data) (hspelling : ¬ OneSpelling b) :
    ∃ text, fromHex text = data ∧ text.length = 2 * data.length ∧ ¬ HexText text := by
  obtain ⟨front, back, rfl⟩ := List.append_of_mem hb
  obtain ⟨c, hc, d, -, hread⟩ := otherSpelling_byte b hspelling
  refine ⟨toHex front ++ c :: d :: toHex back, ?_, ?_, ?_⟩
  · rw [fromHex_toHex_append, fromHex, hread, fromHex_toHex]
  · simp only [List.length_append, List.length_cons, length_toHex]
    omega
  · intro htext
    have hdigit : (digitValue c).isSome := htext.2 c (by simp)
    rcases List.mem_pair.mp hc with rfl | rfl
    · exact absurd hdigit (by decide)
    · exact absurd hdigit (by decide)

/-! ## The round trip -/

/-- What OpenSSL documents of GCM: a ciphertext is as long as its plaintext. -/
def World.GcmKeepsLength (w : World) : Prop :=
  ∀ key iv plaintext, (w.gcmSeal key iv plaintext).2.length = plaintext.length

/-- `text` holds `plaintext` in the stored format. -/
structure Stores (w : World) (key plaintext text : Bytes) : Prop where
  digits : ∀ c ∈ text, LowerHexDigit c
  length : text.length = 2 * (28 + plaintext.length)
  /-- Binding the text as a NUL-terminated string keeps it. -/
  bound : (bindText text).val = text
  decrypts : ∀ n, AllOk w n decryptCalls →
    (decryptAES256GCM w text key).run n = .ok plaintext (n + decryptCalls.length)

/-- Code that calls returns when its calls succeed. -/
theorem Uses.run_ok {α : Type} {m : Outside α} {calls : List Library} {P : α → Prop}
    (hm : Uses w m calls P) {n : Nat} (hok : AllOk w n calls) :
    ∃ a, m.run n = .ok a (n + calls.length) ∧ P a := by
  have hspec := hm n
  cases hrun : m.run n with
  | ok a k =>
    obtain ⟨-, rfl, ha⟩ := hspec.of_ok hrun
    exact ⟨a, rfl, ha⟩
  | error fault k => exact absurd hok (hspec.of_error hrun).1

theorem Stores.of_seals (hgcm : w.GcmDocumented) (hsize : w.GcmKeepsLength)
    {plaintext : Bytes} (h : w.Seals key plaintext text) : Stores w key plaintext text where
  digits := by
    obtain ⟨-, iv, -, rfl⟩ := h
    intro c hc
    exact lowerHexDigit_of_mem_toHex hc
  length := by
    obtain ⟨-, iv, hiv, rfl⟩ := h
    simp only [length_toHex, List.length_append, hiv, hgcm.tag_length, hsize key iv plaintext]
  bound := bindText_val (not_mem_of_seals h)
  decrypts := by
    intro n hok
    obtain ⟨_, hrun, rfl⟩ := (decryptAES256GCM_uses (opened_of_seals hgcm h)).run_ok hok
    exact hrun

/-- Encryption returns when its calls succeed, and the text it returns stores the plaintext.
The source passes lengths as an `int`, hence the bound. -/
theorem encryptAES256GCM_stores (hgcm : w.GcmDocumented) (hsize : w.GcmKeepsLength)
    (hkey : key.length = 32) (plaintext : Bytes) (_hint : plaintext.length < 2 ^ 31 - 16)
    (n : Nat) :
    (AllOk w n encryptCalls → ∃ text n', (encryptAES256GCM w plaintext key).run n = .ok text n') ∧
      ∀ text n', (encryptAES256GCM w plaintext key).run n = .ok text n' →
        Stores w key plaintext text := by
  have huses := encryptAES256GCM_uses (w := w) plaintext hkey
  constructor
  · intro hok
    obtain ⟨text, hrun, -⟩ := huses.run_ok hok
    exact ⟨text, _, hrun⟩
  · intro text n' hrun
    obtain ⟨-, -, hseals⟩ := (huses n).of_ok hrun
    exact .of_seals hgcm hsize hseals

theorem reference_keepsLength : Reference.world.GcmKeepsLength := fun _ _ plaintext =>
  Reference.length_mask _ plaintext

/-- The id of the first account, as `bootstrapAdmin` encrypts it. -/
theorem encryptAES256GCM_stores_admin :
    ∃ text n', (encryptAES256GCM Reference.world (str "admin") Reference.key).run 10 = .ok text n' ∧
      Stores Reference.world Reference.key (str "admin") text := by
  have hkey : Reference.key.length = 32 := by decide +kernel
  obtain ⟨hreturns, hstores⟩ := encryptAES256GCM_stores Reference.gcm_documented
    reference_keepsLength hkey (str "admin") (by decide) 10
  obtain ⟨text, n', hrun⟩ := hreturns (by decide)
  exact ⟨text, n', hrun, hstores text n' hrun⟩

/-! ## Altered texts -/

/-- The bytes are an IV, a tag and a ciphertext that belong together under the key. -/
def Authentic (w : World) (key data : Bytes) : Prop :=
  28 ≤ data.length ∧ (w.gcmOpen key (data.take 12) ((data.drop 12).take 16) (data.drop 28)).isSome

/-- The text is long enough, the calls to OpenSSL succeed, and the bytes the text is read as
are authentic. -/
def Passes (w : World) (key text : Bytes) (n : Nat) : Prop :=
  (12 + 16) * 2 ≤ text.length ∧ AllOk w n decryptCalls ∧ Authentic w key (fromHex text)

/-- At this text: a plaintext is returned only for the spelling, in either case, of an
authentic IV, tag and ciphertext, and anything but pairs of digits raises. -/
structure ReadsFormat (w : World) (key text : Bytes) (n : Nat) : Prop where
  returns : ∀ plaintext n', (decryptAES256GCM w text key).run n = .ok plaintext n' →
    HexText text ∧ ∃ iv tag ciphertext, iv.length = 12 ∧ tag.length = 16 ∧
      w.gcmOpen key iv tag ciphertext = some plaintext ∧
      text.map lowerCase = toHex (iv ++ tag ++ ciphertext)
  raises : ¬ HexText text → ∃ what n',
    (decryptAES256GCM w text key).run n = .error (.exception what) n'

theorem opened_of_passes {n : Nat} (hkey : key.length = 32) (h : Passes w key text n) :
    ∃ plaintext, w.opened key text = some plaintext := by
  obtain ⟨hlength, -, hdata, hopen⟩ := h
  rw [World.opened, if_pos ⟨hkey, hlength, hdata⟩]
  exact Option.isSome_iff_exists.mp hopen

/-- `decryptAES256GCM` returns exactly the texts that pass, however they are spelled. -/
theorem decryptAES256GCM_run (hkey : key.length = 32) (n : Nat) :
    (Passes w key text n → ∃ plaintext n', (decryptAES256GCM w text key).run n = .ok plaintext n') ∧
      (¬ Passes w key text n → ∃ what n',
        (decryptAES256GCM w text key).run n = .error (.exception what) n') := by
  constructor
  · intro h
    obtain ⟨plaintext, hopened⟩ := opened_of_passes hkey h
    obtain ⟨_, hrun, -⟩ := (decryptAES256GCM_uses hopened).run_ok h.2.1
    exact ⟨_, _, hrun⟩
  · intro h
    have hspec := decryptAES256GCM_yields (w := w) text key n
    cases hrun : (decryptAES256GCM w text key).run n with
    | error fault n' =>
      obtain ⟨⟨what, rfl, -⟩, -⟩ := hspec.of_error hrun
      exact ⟨what, n', rfl⟩
    | ok plaintext n' =>
      have hopened := hspec.of_ok hrun
      obtain ⟨hok, -⟩ := (decryptAES256GCM_uses hopened n).of_ok hrun
      dsimp only [World.opened] at hopened
      split_ifs at hopened with hlength
      exact absurd ⟨hlength.2.1, hok, hlength.2.2, Option.isSome_iff_exists.mpr ⟨_, hopened⟩⟩ h

theorem ReadsFormat.of_hexText {n : Nat} (h : HexText text) : ReadsFormat w key text n where
  returns := by
    intro plaintext n' hrun
    have hopened := (decryptAES256GCM_yields (w := w) text key n).of_ok hrun
    dsimp only [World.opened] at hopened
    split_ifs at hopened with hlength
    refine ⟨h, _, _, _, ?_, ?_, hopened, ?_⟩
    · rw [List.length_take]
      omega
    · rw [List.length_take, List.length_drop]
      omega
    · have hsplit : (fromHex text).drop 28 = ((fromHex text).drop 12).drop 16 := by
        rw [List.drop_drop]
      rw [List.append_assoc, hsplit, List.take_append_drop, List.take_append_drop,
        toHex_fromHex h]
  raises := fun hno => absurd h hno

theorem readsFormat_iff (hkey : key.length = 32) (text : Bytes) (n : Nat) :
    ReadsFormat w key text n ↔ HexText text ∨ ¬ Passes w key text n := by
  constructor
  · intro h
    by_contra hno
    obtain ⟨hdigits, hpasses⟩ := not_or.mp hno
    obtain ⟨plaintext, n', hrun⟩ := (decryptAES256GCM_run hkey n).1 (not_not.mp hpasses)
    exact hdigits (h.returns plaintext n' hrun).1
  · rintro (hdigits | hpasses)
    · exact .of_hexText hdigits
    · obtain ⟨what, n', hrun⟩ := (decryptAES256GCM_run hkey n).2 hpasses
      refine ⟨fun plaintext k hok => ?_, fun _ => ⟨what, n', hrun⟩⟩
      rw [hrun] at hok
      cases hok

/-- Of an authentic IV, tag and ciphertext, another spelling is taken exactly when one of the
bytes has one. -/
theorem readsFormat_spellings_iff (hkey : key.length = 32) {n : Nat} (hok : AllOk w n decryptCalls)
    {data : Bytes} (hauthentic : Authentic w key data) :
    (∀ text, fromHex text = data → ReadsFormat w key text n) ↔ ∀ b ∈ data, OneSpelling b := by
  constructor
  · intro h b hb
    by_contra hspelling
    obtain ⟨text, rfl, hlength, hdigits⟩ := exists_other_spelling hb hspelling
    have hpasses : Passes w key text n := by
      have hdata := hauthentic.1
      exact ⟨by omega, hok, hauthentic⟩
    rcases (readsFormat_iff hkey text n).mp (h text rfl) with hhex | hno
    · exact hdigits hhex
    · exact hno hpasses
  · rintro h text rfl
    exact .of_hexText (hexText_of_oneSpelling h)

/-- When the calls succeed, the decryption keeps to its format exactly when no byte of an
authentic IV, tag and ciphertext is below 0x10 or above 0xF0; and so for each of them. -/
theorem decryptAES256GCM_readsFormat_iff (w : World) (hkey : key.length = 32) (n : Nat) :
    ((∀ text, ReadsFormat w key text n) ↔ (AllOk w n decryptCalls →
        ∀ data, Authentic w key data → ∀ b ∈ data, OneSpelling b)) ∧
      ∀ data, AllOk w n decryptCalls → Authentic w key data →
        ((∀ text, fromHex text = data → ReadsFormat w key text n) ↔
          ∀ b ∈ data, OneSpelling b) := by
  refine ⟨⟨fun h hok data hauthentic => ?_, fun h text => ?_⟩,
    fun data hok hauthentic => readsFormat_spellings_iff hkey hok hauthentic⟩
  · exact (readsFormat_spellings_iff hkey hok hauthentic).mp fun text _ => h text
  · by_cases hpasses : Passes w key text n
    · obtain ⟨-, hok, hauthentic⟩ := hpasses
      exact .of_hexText (hexText_of_oneSpelling (h hok _ hauthentic))
    · exact (readsFormat_iff hkey text n).mpr (.inr hpasses)

theorem decryptAES256GCM_readsFormat_iff_reference :
    ((∀ text, ReadsFormat Reference.world Reference.key text 0) ↔
        (AllOk Reference.world 0 decryptCalls → ∀ data,
          Authentic Reference.world Reference.key data → ∀ b ∈ data, OneSpelling b)) ∧
      ∀ data, AllOk Reference.world 0 decryptCalls → Authentic Reference.world Reference.key data →
        ((∀ text, fromHex text = data → ReadsFormat Reference.world Reference.key text 0) ↔
          ∀ b ∈ data, OneSpelling b) :=
  decryptAES256GCM_readsFormat_iff Reference.world (by decide +kernel) 0

/-- The stored id of the first account, and the same with a space for its first digit. -/
def storedAdmin : Bytes :=
  let sealed := Reference.gcmSeal Reference.key (List.replicate 12 11) (str "admin")
  toHex (List.replicate 12 11 ++ sealed.1 ++ sealed.2)

def alteredAdmin : Bytes := 0x20 :: storedAdmin.tail

/-- The altered text is taken for the stored one. -/
theorem alteredAdmin_not_readsFormat :
    Reference.world.Seals Reference.key (str "admin") storedAdmin ∧ alteredAdmin ≠ storedAdmin ∧
      (decryptAES256GCM Reference.world alteredAdmin Reference.key).run 0 = .ok (str "admin") 6 ∧
      ¬ ReadsFormat Reference.world Reference.key alteredAdmin 0 := by
  have hopened : Reference.world.opened Reference.key alteredAdmin = some (str "admin") := by
    decide +kernel
  have hok : AllOk Reference.world 0 decryptCalls := by decide
  obtain ⟨_, hrun, rfl⟩ := (decryptAES256GCM_uses hopened).run_ok hok
  refine ⟨⟨by decide +kernel, _, List.length_replicate, rfl⟩, by decide +kernel, hrun, ?_⟩
  intro h
  have hdigit : (digitValue 0x20).isSome := (h.returns _ _ hrun).1.2 _ (List.mem_cons_self)
  exact absurd hdigit (by decide)

end CCTVWebServer
