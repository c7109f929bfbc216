import CCTVWebServer.World

/-!
# CryptoHelper

The helpers over OpenSSL and the hexadecimal text they store their results in.
A sealed text is the hexadecimal image of the IV, the tag and the ciphertext.
-/

namespace CCTVWebServer

open Foundation

/-! ## Hexadecimal text -/

/-- A digit written with `std::hex`. -/
def hexDigit (n : Nat) : UInt8 := if n < 10 then 0x30 + UInt8.ofNat n else 0x57 + UInt8.ofNat n

def toHex (data : Bytes) : Bytes :=
  data.flatMap fun b => [hexDigit (b.toNat / 16), hexDigit (b.toNat % 16)]

/-- `isspace` in the C locale. -/
def isSpace (b : UInt8) : Bool := b = 0x20 || (0x09 ≤ b && b ≤ 0x0D)

/-- The value of a digit in base 16. -/
def digitValue (b : UInt8) : Option Nat :=
  if 0x30 ≤ b ∧ b ≤ 0x39 then some (b.toNat - 0x30)
  else if 0x41 ≤ b ∧ b ≤ 0x46 then some (b.toNat - 0x37)
  else if 0x61 ≤ b ∧ b ≤ 0x66 then some (b.toNat - 0x57)
  else none

/-- The number the leading digits denote, 0 without digits. -/
def digitsValue (acc : Nat) : Bytes → Nat
  | [] => acc
  | b :: rest =>
    match digitValue b with
    | some d => digitsValue (acc * 16 + d) rest
    | none => acc

/-- Drop `0x` or `0X` when a digit follows. -/
def dropHexMark : Bytes → Bytes
  | a :: x :: d :: rest =>
    if a = 0x30 ∧ (x = 0x78 ∨ x = 0x58) ∧ (digitValue d).isSome then d :: rest
    else a :: x :: d :: rest
  | text => text

/-- `strtol(text, NULL, 16)`: white space, an optional sign, an optional `0x`, digits. -/
def strtol16 (text : Bytes) : Int :=
  match text.dropWhile isSpace with
  | [] => 0
  | b :: rest =>
    if b = 0x2D then - (digitsValue 0 (dropHexMark rest) : Int)
    else if b = 0x2B then digitsValue 0 (dropHexMark rest)
    else digitsValue 0 (dropHexMark (b :: rest))

/-- The conversion of a `long` to an `unsigned char`. -/
def toByte (n : Int) : UInt8 := UInt8.ofNat (n % 256).toNat

/-- Two characters at a time; a last odd character is read alone. -/
def fromHex : Bytes → Bytes
  | [] => []
  | [a] => [toByte (strtol16 [a])]
  | a :: b :: rest => toByte (strtol16 [a, b]) :: fromHex rest

/-- Both digits of a byte are read back, and neither ends a C string. -/
theorem hexDigits_byte (b : UInt8) :
    toByte (strtol16 [hexDigit (b.toNat / 16), hexDigit (b.toNat % 16)]) = b ∧
      hexDigit (b.toNat / 16) ≠ 0 ∧ hexDigit (b.toNat % 16) ≠ 0 := by
  revert b
  exact forall_byte (by decide +kernel)

theorem toHex_cons (b : UInt8) (data : Bytes) :
    toHex (b :: data) = hexDigit (b.toNat / 16) :: hexDigit (b.toNat % 16) :: toHex data := rfl

theorem toHex_append (a b : Bytes) : toHex (a ++ b) = toHex a ++ toHex b :=
  List.flatMap_append

@[simp] theorem length_toHex (data : Bytes) : (toHex data).length = 2 * data.length := by
  induction data with
  | nil => rfl
  | cons b data ih => simp only [toHex_cons, List.length_cons, ih]; omega

@[simp] theorem fromHex_toHex (data : Bytes) : fromHex (toHex data) = data := by
  induction data with
  | nil => rfl
  | cons b data ih => rw [toHex_cons, fromHex, ih, (hexDigits_byte b).1]

theorem toHex_injective : Function.Injective toHex :=
  Function.LeftInverse.injective fromHex_toHex

theorem not_mem_toHex (data : Bytes) : (0 : UInt8) ∉ toHex data := by
  induction data with
  | nil => exact List.not_mem_nil
  | cons b data ih =>
    simp [toHex_cons, ih, (hexDigits_byte b).2.1.symm, (hexDigits_byte b).2.2.symm]

/-! ## The helpers -/

variable (w : World)

/-- `RAND_bytes` of a given length. -/
def randBytes (length : Nat) (what : String) : Outside Bytes := do
  let n ← nextCall
  if w.opensslOk n then pure ((List.range length).map (w.draw n))
  else throw (.exception (str what))

/-- The 32 bytes of the digest are the key. -/
def deriveKey (secret : Bytes) : Outside Bytes := do
  openssl w "Failed to create EVP_MD_CTX"
  -- init, update and final fail with one text
  openssl w "SHA256 digest failed in key derivation"
  return w.sha256Digest secret

def encryptAES256GCM (plaintext key : Bytes) : Outside Bytes := do
  if key.length ≠ 32 then
    throw (.exception (str "AES-256-GCM key size must be 32 bytes"))
  openssl w "Failed to create EVP_CIPHER_CTX"
  let iv ← randBytes w 12 "Failed to generate random GCM IV"
  openssl w "Failed to init GCM encrypt context"
  openssl w "Failed to set GCM IV length"
  openssl w "Failed to set GCM key and IV"
  openssl w "Failed to encrypt update in GCM"
  openssl w "Failed to encrypt final in GCM"
  openssl w "Failed to get GCM auth tag"
  let (tag, ciphertext) := w.gcmSeal key iv plaintext
  return toHex iv ++ toHex tag ++ toHex ciphertext

def decryptAES256GCM (hexCiphertext key : Bytes) : Outside Bytes := do
  if key.length ≠ 32 then
    throw (.exception (str "AES-256-GCM key size must be 32 bytes"))
  if hexCiphertext.length < (12 + 16) * 2 then
    throw (.exception (str "Ciphertext hex is too short for GCM format"))
  let data := fromHex hexCiphertext
  if data.length < 12 + 16 then
    throw (.exception (str "Decoded GCM buffer is too short"))
  let iv := data.take 12
  let tag := (data.drop 12).take 16
  let ciphertext := data.drop 28
  openssl w "Failed to create EVP_CIPHER_CTX"
  openssl w "Failed to init GCM decrypt context"
  openssl w "Failed to set GCM IV length"
  openssl w "Failed to set GCM key and IV"
  openssl w "Failed to decrypt update in GCM"
  openssl w "Failed to set GCM tag"
  match w.gcmOpen key iv tag ciphertext with
  | some plaintext => return plaintext
  | none => throw (.exception (str "AES-GCM decryption tag verification failed (tampered data)"))

def sha256 (plaintext : Bytes) : Outside Bytes := do
  openssl w "Failed to create EVP_MD_CTX"
  openssl w "SHA256 digest failed"
  return toHex (w.sha256Digest plaintext)

def hashPasswordPBKDF2 (password salt : Bytes) : Outside Bytes := do
  openssl w "PBKDF2 password hashing failed"
  return toHex (w.pbkdf2 password salt)

/-! ## What they compute -/

/-- The text `sha256` returns. -/
def World.sha256Hex (plaintext : Bytes) : Bytes := toHex (w.sha256Digest plaintext)

/-- The text `hashPasswordPBKDF2` returns. -/
def World.passwordHash (password salt : Bytes) : Bytes := toHex (w.pbkdf2 password salt)

/-- `text` is what `encryptAES256GCM` stores for `plaintext` under some IV. -/
def World.Seals (key plaintext text : Bytes) : Prop :=
  key.length = 32 ∧ ∃ iv : Bytes, iv.length = 12 ∧
    text = toHex (iv ++ (w.gcmSeal key iv plaintext).1 ++ (w.gcmSeal key iv plaintext).2)

/-- The plaintext of a stored text, if it is authentic. -/
def World.opened (key text : Bytes) : Option Bytes :=
  let data := fromHex text
  if key.length = 32 ∧ (12 + 16) * 2 ≤ text.length ∧ 12 + 16 ≤ data.length then
    w.gcmOpen key (data.take 12) ((data.drop 12).take 16) (data.drop 28)
  else none

/-- What OpenSSL documents of GCM: tags have 16 bytes, and opening inverts sealing. -/
structure World.GcmDocumented (w : World) : Prop where
  tag_length : ∀ key iv plaintext, (w.gcmSeal key iv plaintext).1.length = 16
  open_seal : ∀ key iv plaintext,
    w.gcmOpen key iv (w.gcmSeal key iv plaintext).1 (w.gcmSeal key iv plaintext).2 = some plaintext

variable {w}

theorem not_mem_of_seals {key plaintext text : Bytes} (h : w.Seals key plaintext text) :
    (0 : UInt8) ∉ text := by
  obtain ⟨-, iv, -, rfl⟩ := h
  exact not_mem_toHex _

/-- A sealed text opens to its plaintext. -/
theorem opened_of_seals (hgcm : w.GcmDocumented) {key plaintext text : Bytes}
    (h : w.Seals key plaintext text) : w.opened key text = some plaintext := by
  obtain ⟨hkey, iv, hiv, rfl⟩ := h
  have htag := hgcm.tag_length key iv plaintext
  have hlen : (12 + 16) * 2 ≤
      (toHex (iv ++ (w.gcmSeal key iv plaintext).1 ++ (w.gcmSeal key iv plaintext).2)).length := by
    simp only [length_toHex, List.length_append, hiv, htag]
    omega
  have hdata : 12 + 16 ≤
      (iv ++ (w.gcmSeal key iv plaintext).1 ++ (w.gcmSeal key iv plaintext).2).length := by
    simp only [List.length_append, hiv, htag]
    omega
  have hrest : (iv ++ ((w.gcmSeal key iv plaintext).1 ++ (w.gcmSeal key iv plaintext).2)).drop 28 =
      (w.gcmSeal key iv plaintext).2 := by
    rw [← List.append_assoc, List.drop_left' (by simp [hiv, htag])]
  rw [World.opened, fromHex_toHex, if_pos ⟨hkey, hlen, hdata⟩, List.append_assoc,
    List.take_left' hiv, List.drop_left' hiv, List.take_left' htag, hrest]
  exact hgcm.open_seal key iv plaintext

theorem sha256_yields (plaintext : Bytes) :
    Yields w (sha256 w plaintext) (fun hash => hash = w.sha256Hex plaintext) False := by
  refine .after_openssl (by decide) ?_
  exact .after_openssl (by decide) (yields_pure rfl)

theorem hashPasswordPBKDF2_yields (password salt : Bytes) :
    Yields w (hashPasswordPBKDF2 w password salt)
      (fun hash => hash = w.passwordHash password salt) False :=
  .after_openssl (by decide) (yields_pure rfl)

theorem randBytes_yields (length : Nat) (what : String)
    (hascii : Utf8.Ascii (str what)) :
    Yields w (randBytes w length what) (fun bytes => bytes.length = length) False := by
  intro n
  simp only [randBytes, ensures_bind, ensures_nextCall, ensures_ite, ensures_pure, ensures_throw]
  exact ⟨fun _ => by simp, fun h => ⟨⟨_, rfl, hascii⟩, .inl ⟨n, by simpa using h⟩⟩⟩

theorem encryptAES256GCM_yields (plaintext key : Bytes) :
    Yields w (encryptAES256GCM w plaintext key) (fun text => w.Seals key plaintext text)
      (key.length ≠ 32) := by
  unfold encryptAES256GCM
  split_ifs with hkey
  · exact yields_throw_bind (by decide) hkey
  refine .after_openssl (by decide) ?_
  refine (randBytes_yields 12 _ (by decide)).bind False.elim fun iv hiv => ?_
  refine .after_openssl (by decide) ?_
  refine .after_openssl (by decide) ?_
  refine .after_openssl (by decide) ?_
  refine .after_openssl (by decide) ?_
  refine .after_openssl (by decide) ?_
  refine .after_openssl (by decide) ?_
  exact yields_pure ⟨not_not.mp hkey, iv, hiv, by simp only [toHex_append]⟩

theorem decryptAES256GCM_yields (text key : Bytes) :
    Yields w (decryptAES256GCM w text key) (fun plaintext => w.opened key text = some plaintext)
      (w.opened key text = none) := by
  unfold decryptAES256GCM
  by_cases hkey : key.length ≠ 32
  · rw [if_pos hkey]
    exact yields_throw_bind (by decide) (if_neg fun h => hkey h.1)
  by_cases hlen : text.length < (12 + 16) * 2
  · rw [if_neg hkey, if_pos hlen]
    exact yields_throw_bind (by decide) (if_neg fun h => absurd h.2.1 (by omega))
  by_cases hdata : (fromHex text).length < 12 + 16
  · rw [if_neg hkey, if_neg hlen, if_pos hdata]
    exact yields_throw_bind (by decide) (if_neg fun h => absurd h.2.2 (by omega))
  rw [if_neg hkey, if_neg hlen, if_neg hdata]
  have hopened : w.opened key text = w.gcmOpen key ((fromHex text).take 12)
      (((fromHex text).drop 12).take 16) ((fromHex text).drop 28) :=
    if_pos ⟨by omega, by omega, by omega⟩
  rw [hopened]
  refine .after_openssl (by decide) ?_
  refine .after_openssl (by decide) ?_
  refine .after_openssl (by decide) ?_
  refine .after_openssl (by decide) ?_
  refine .after_openssl (by decide) ?_
  refine .after_openssl (by decide) ?_
  cases w.gcmOpen key ((fromHex text).take 12) (((fromHex text).drop 12).take 16)
      ((fromHex text).drop 28) with
  | some plaintext => exact yields_pure rfl
  | none => exact yields_throw (by decide) rfl

theorem deriveKey_yields (secret : Bytes) :
    Yields w (deriveKey w secret) (fun key => key = w.sha256Digest secret) False := by
  refine .after_openssl (by decide) ?_
  exact .after_openssl (by decide) (yields_pure rfl)

end CCTVWebServer
