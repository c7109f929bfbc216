import CCTVWebServer.StreamFrame

/-!
# Frames from server to browser

The server writes signed timestamps, the browser reads them as unsigned. A frame
comes back as it was sent exactly when neither of its timestamps is negative.
-/

namespace CCTVWebServer

open Foundation

/-! ## Writing -/

theorem writeInt64LE_eq (buf : Bytes) (pos : Nat) (val : Int) :
    writeInt64LE buf pos val = setAll buf pos (bytesLE 8 val) := by
  simp [writeInt64LE, setAll, bytesLE, byteAt, Int.shiftRight_eq_div_pow,
    Int.ediv_ediv_of_nonneg, Nat.add_assoc]

theorem writeUint32LE_eq (buf : Bytes) (pos : Nat) (val : Int) :
    writeUint32LE buf pos val = setAll buf pos (bytesLE 4 val) := by
  simp [writeUint32LE, setAll, bytesLE, byteAt, Int.shiftRight_eq_div_pow,
    Int.ediv_ediv_of_nonneg, Nat.add_assoc]

/-- A field is written behind those that are there already. -/
theorem setAll_field (front old back bytes : Bytes) {pos : Nat} (hpos : front.length = pos)
    (hold : old.length = bytes.length) :
    setAll (front ++ (old ++ back)) pos bytes = (front ++ bytes) ++ back := by
  rw [← hpos, setAll_append front old back bytes hold, List.append_assoc]

/-- The fields of a frame, one after the other. -/
theorem wsFrame_eq (pkt : AVPacket) :
    wsFrame pkt = [if pkt.isKey then 1 else 0] ++ bytesLE 8 pkt.pts ++ bytesLE 8 pkt.dts ++
      bytesLE 4 pkt.size ++ pkt.data := by
  have hflag (flag : UInt8) : (List.replicate (1 + 8 + 8 + 4 + pkt.size) 0).set 0 flag =
      [flag] ++ (List.replicate 8 0 ++ (List.replicate 8 0 ++ (List.replicate 4 0 ++
        (List.replicate pkt.size 0 ++ [])))) := by
    have hlength : 1 + 8 + 8 + 4 + pkt.size = 8 + (8 + (4 + pkt.size)) + 1 := by omega
    rw [hlength, List.replicate_succ, List.set_cons_zero, List.append_nil,
      List.replicate_append_replicate, List.replicate_append_replicate,
      List.replicate_append_replicate, List.singleton_append]
  simp only [wsFrame, writeInt64LE_eq, writeUint32LE_eq]
  rw [hflag, setAll_field _ _ _ _ (by rfl) (by simp), setAll_field _ _ _ _ (by simp) (by simp),
    setAll_field _ _ _ _ (by simp) (by simp),
    setAll_field _ _ _ _ (by simp) (by simp [AVPacket.size]), List.append_nil]

theorem length_wsFrame (pkt : AVPacket) : (wsFrame pkt).length = 21 + pkt.size := by
  simp only [wsFrame_eq, List.length_append, length_bytesLE, List.length_singleton, AVPacket.size]

/-! ## Reading -/

theorem toNumber_of_lt {n : Nat} (h : n < 2 ^ 53) : toNumber n = n := by
  have hlog : n.log2 - 52 = 0 := by
    rcases Nat.eq_zero_or_pos n with rfl | hpos
    · rfl
    · have hlog := (Nat.log2_lt (by omega)).mpr h
      omega
  simp [toNumber, hlog, Nat.mod_one]

theorem getUint32_field (front bytes back : Bytes) {offset : Nat} (hoffset : front.length = offset)
    (hbytes : bytes.length = 4) :
    getUint32 (front ++ (bytes ++ back)) offset = some (valueLE bytes) := by
  rw [getUint32, if_pos (by simp [← hoffset, hbytes]), ← hoffset, List.drop_left,
    List.take_left' hbytes]

/-- The two halves of a timestamp, as the browser reads them. -/
theorem getInt64_field (front back : Bytes) (v : Int) {offset : Nat}
    (hoffset : front.length = offset) :
    getInt64 (front ++ (bytesLE 8 v ++ back)) offset =
      some (toNumber (toNumber (valueLE (bytesLE 4 (v / 256 ^ 4)) * 0x100000000) +
        valueLE (bytesLE 4 v)) : Int) := by
  have hlow := getUint32_field front (bytesLE 4 v) (bytesLE 4 (v / 256 ^ 4) ++ back) hoffset
    (length_bytesLE 4 v)
  have hoffset' : (front ++ bytesLE 4 v).length = offset + 4 := by simp [hoffset]
  have hhigh := getUint32_field (front ++ bytesLE 4 v) (bytesLE 4 (v / 256 ^ 4)) back hoffset'
    (length_bytesLE 4 _)
  rw [List.append_assoc] at hhigh
  rw [bytesLE_add 4 4, List.append_assoc, getInt64, hlow, hhigh]
  rfl

/-- A timestamp that is not negative is read as it was written, and a negative one never. -/
theorem getInt64_eq_iff (front back : Bytes) {v : Int} (hv : |v| < 2 ^ 53) {offset : Nat}
    (hoffset : front.length = offset) :
    getInt64 (front ++ (bytesLE 8 v ++ back)) offset = some v ↔ 0 ≤ v := by
  rw [getInt64_field front back v hoffset, Option.some.injEq]
  refine ⟨fun heq => heq ▸ Int.natCast_nonneg _, fun hnonneg => ?_⟩
  rw [abs_of_nonneg hnonneg] at hv
  have hlow := valueLE_bytesLE 4 v
  have hhigh := valueLE_bytesLE 4 (v / 256 ^ 4)
  norm_num at hlow hhigh hv
  have hsum : valueLE (bytesLE 4 (v / 4294967296)) * 4294967296 + valueLE (bytesLE 4 v) =
      v.toNat := by omega
  have hexact := toNumber_of_lt (n := valueLE (bytesLE 4 (v / 4294967296)) * 4294967296) (by omega)
  norm_num
  rw [hexact, hsum, toNumber_of_lt (by omega)]
  omega

theorem uint8Array_field (front bytes : Bytes) {offset : Nat} (hoffset : front.length = offset) :
    uint8Array (front ++ bytes) offset bytes.length = some bytes := by
  rw [uint8Array, if_pos (by simp [← hoffset]), ← hoffset, List.drop_left, List.take_length]

/-- The size field announces the bytes that follow it. -/
theorem getUint32_size (front : Bytes) (pkt : AVPacket) {offset : Nat}
    (hoffset : front.length = offset) (hsize : pkt.size < 2 ^ 31) :
    getUint32 (front ++ (bytesLE 4 pkt.size ++ pkt.data)) offset = some pkt.size := by
  have hvalue := valueLE_bytesLE 4 pkt.size
  rw [getUint32_field front _ _ hoffset (length_bytesLE 4 _)]
  norm_num at hvalue hsize
  rw [Option.some.injEq]
  omega

/-- The timestamps decide alone whether a frame comes back as it was sent. -/
theorem readPacket_wsFrame_iff (pkt : AVPacket) (hsize : pkt.size < 2 ^ 31) :
    readPacket (wsFrame pkt) = some ⟨pkt.isKey, pkt.pts, pkt.dts, pkt.data⟩ ↔
      getInt64 (wsFrame pkt) 1 = some pkt.pts ∧ getInt64 (wsFrame pkt) 9 = some pkt.dts := by
  have hflag : getUint8 (wsFrame pkt) 0 = some (if pkt.isKey then 1 else 0) := by
    rw [wsFrame_eq]
    cases pkt.isKey <;> rfl
  have hpayloadSize : getUint32 (wsFrame pkt) 17 = some pkt.size := by
    rw [wsFrame_eq, List.append_assoc]
    exact getUint32_size _ pkt (by simp) hsize
  have hpayload : uint8Array (wsFrame pkt) 21 pkt.size = some pkt.data := by
    rw [wsFrame_eq]
    exact uint8Array_field _ pkt.data (by simp)
  rcases hpts : getInt64 (wsFrame pkt) 1 with _ | pts
  · simp [readPacket, hflag, hpts]
  rcases hdts : getInt64 (wsFrame pkt) 9 with _ | dts
  · simp [readPacket, hflag, hpts, hdts]
  · cases hkey : pkt.isKey <;>
      simp [readPacket, hflag, hpts, hdts, hpayloadSize, hpayload, hkey]

theorem getInt64_pts_iff (pkt : AVPacket) (hpts : |pkt.pts| < 2 ^ 53) :
    getInt64 (wsFrame pkt) 1 = some pkt.pts ↔ 0 ≤ pkt.pts := by
  rw [wsFrame_eq, List.append_assoc, List.append_assoc, List.append_assoc]
  exact getInt64_eq_iff _ _ hpts (by simp)

theorem getInt64_dts_iff (pkt : AVPacket) (hdts : |pkt.dts| < 2 ^ 53) :
    getInt64 (wsFrame pkt) 9 = some pkt.dts ↔ 0 ≤ pkt.dts := by
  rw [wsFrame_eq, List.append_assoc, List.append_assoc]
  exact getInt64_eq_iff _ _ hdts (by simp)

/-! ## The round trip -/

/-- The length is always right, the contents for timestamps that are not negative. -/
theorem frame_roundTrip_iff (pkt : AVPacket) (hpts : |pkt.pts| < 2 ^ 53)
    (hdts : |pkt.dts| < 2 ^ 53) (hsize : pkt.size < 2 ^ 31) :
    ((wsFrame pkt).length = 21 + pkt.size ∧
      readPacket (wsFrame pkt) = some ⟨pkt.isKey, pkt.pts, pkt.dts, pkt.data⟩) ↔
    0 ≤ pkt.pts ∧ 0 ≤ pkt.dts := by
  rw [readPacket_wsFrame_iff pkt hsize, getInt64_pts_iff pkt hpts, getInt64_dts_iff pkt hdts]
  exact and_iff_right (length_wsFrame pkt)

theorem frame_roundTrip_iff_keyFrame :
    ((wsFrame ⟨1, 40000, 39000, [7, 8]⟩).length = 21 + 2 ∧
      readPacket (wsFrame ⟨1, 40000, 39000, [7, 8]⟩) = some ⟨true, 40000, 39000, [7, 8]⟩) ↔
    (0 : Int) ≤ 40000 ∧ (0 : Int) ≤ 39000 :=
  frame_roundTrip_iff ⟨1, 40000, 39000, [7, 8]⟩ (by decide) (by decide) (by decide)

/-- A clock stepped back by a microsecond below the epoch of the stream. -/
theorem frame_negative_pts :
    ¬ ∀ pkt : AVPacket, |pkt.pts| < 2 ^ 53 → |pkt.dts| < 2 ^ 53 → pkt.size < 2 ^ 31 →
      (wsFrame pkt).length = 21 + pkt.size ∧
        readPacket (wsFrame pkt) = some ⟨pkt.isKey, pkt.pts, pkt.dts, pkt.data⟩ := by
  intro hall
  have hread := (hall ⟨1, -1, 0, [7]⟩ (by decide) (by decide) (by decide)).2
  revert hread
  decide

end CCTVWebServer
