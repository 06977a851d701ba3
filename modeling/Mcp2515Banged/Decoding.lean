import Mcp2515Banged.Handler

/-!
# What the receive decoder keeps and what it yields

`mcp2515_hw_rx` decodes the 14-byte image of a receive buffer into a `can_frame`. For every
image it yields a well-formed frame: the length is clamped to 8 before it is used as a copy
length, the copy reads only the bytes the length covers, the error flag is never set, and a
standard frame carries an 11-bit identifier. Nothing the controller defines is lost: encoding
the decoded frame with `mcp2515_hw_tx` gives back the header bits and data bytes of the image,
with the remote bit moved between `SRR` and the `DLC` register as the format requires.

## Main results

* `mcp2515HwTxBuf_mcp2515HwRxDecode` — the transmit image of a decoded frame repeats the
  fields of the receive image
* `mcp2515HwRxDecode_wellFormed` — every image decodes to a well-formed frame, and a decoded
  frame adds at most 8 to `rx_bytes`
-/

namespace Mcp2515Banged

/-! ## Fields of numbers -/

/-- The transmit fields of the 29 bits of a decoded extended image. -/
theorem ext_image_fields {B1 B2 B3 B4 : Nat} (h1 : B1 < 256) (h2 : B2 < 256) (h3 : B3 < 256)
    (h4 : B4 < 256) :
    B2 % 4 * 65536 + B3 * 256 + B4 + (B1 * 8 + B2 / 32) * 2 ^ 18 < 2 ^ 29 ∧
    (B2 % 4 * 65536 + B3 * 256 + B4 + (B1 * 8 + B2 / 32) * 2 ^ 18) / 2 ^ 18 / 8 % 256 = B1 ∧
    (B2 % 4 * 65536 + B3 * 256 + B4 + (B1 * 8 + B2 / 32) * 2 ^ 18) / 2 ^ 18 % 8 * 32 + 1 * 8 +
      (B2 % 4 * 65536 + B3 * 256 + B4 + (B1 * 8 + B2 / 32) * 2 ^ 18) / 65536 % 4 =
      B2 / 32 * 32 + 8 + B2 % 4 ∧
    (B2 % 4 * 65536 + B3 * 256 + B4 + (B1 * 8 + B2 / 32) * 2 ^ 18) / 256 % 256 = B3 ∧
    (B2 % 4 * 65536 + B3 * 256 + B4 + (B1 * 8 + B2 / 32) * 2 ^ 18) % 256 = B4 := by
  have hM : B4 < 2 ^ 8 := h4
  have hL : B4 + B3 * 2 ^ 8 < 2 ^ 16 := by omega
  have hX : B4 + B3 * 2 ^ 8 + B2 % 4 * 2 ^ 16 < 2 ^ 18 := by omega
  have hS : B2 / 32 < 2 ^ 3 := by omega
  refine ⟨by omega, ?_⟩
  rw [show B2 % 4 * 65536 + B3 * 256 + B4 + (B1 * 8 + B2 / 32) * 2 ^ 18 =
    B4 + B3 * 2 ^ 8 + B2 % 4 * 2 ^ 16 + (B2 / 32 + B1 * 2 ^ 3) * 2 ^ 18 by omega,
    show (65536 : Nat) = 2 ^ 16 from rfl, show (256 : Nat) = 2 ^ 8 from rfl]
  obtain ⟨hX1, hX2⟩ := div_mod_add_mul (s := B2 / 32 + B1 * 2 ^ 3) hX
  obtain ⟨hL1, hL2⟩ := div_mod_add_mul (s := B2 % 4) hL
  obtain ⟨hM1, hM2⟩ := div_mod_add_mul (s := B3) hM
  have hS1 : (B2 / 32 + B1 * 2 ^ 3) / 8 = B1 := (div_mod_add_mul hS).1
  have hS2 : (B2 / 32 + B1 * 2 ^ 3) % 8 = B2 / 32 := (div_mod_add_mul hS).2
  have h16 : (B4 + B3 * 2 ^ 8 + B2 % 4 * 2 ^ 16 + (B2 / 32 + B1 * 2 ^ 3) * 2 ^ 18) % 2 ^ 16 =
      B4 + B3 * 2 ^ 8 := by
    rw [← Nat.mod_mod_of_dvd _ (show 2 ^ 16 ∣ 2 ^ 18 by decide), hX2, hL2]
  refine ⟨?_, ?_, ?_, ?_⟩
  · rw [hX1, hS1]; exact Nat.mod_eq_of_lt h1
  · rw [hX1, hS2, ← Nat.mod_mul_right_div_self, show 2 ^ 16 * 4 = 2 ^ 18 from rfl, hX2, hL1]
  · rw [← Nat.mod_mul_right_div_self, show 2 ^ 8 * 2 ^ 8 = 2 ^ 16 from rfl, h16, hM1]
  · rw [← Nat.mod_mod_of_dvd _ (show 2 ^ 8 ∣ 2 ^ 16 by decide), h16, hM2]

/-- The transmit fields of the 11 bits of a decoded standard image. -/
theorem std_image_fields {B1 B2 : Nat} (h1 : B1 < 256) (h2 : B2 < 256) :
    B1 * 8 + B2 / 32 < 2 ^ 29 ∧ (B1 * 8 + B2 / 32) % 2 ^ 11 / 8 % 256 = B1 ∧
    (B1 * 8 + B2 / 32) % 2 ^ 11 % 8 * 32 + 0 * 8 + (B1 * 8 + B2 / 32) / 65536 % 4 = B2 / 32 * 32 := by
  have hS : B2 / 32 < 2 ^ 3 := by omega
  refine ⟨by omega, ?_⟩
  rw [show B1 * 8 + B2 / 32 = B2 / 32 + B1 * 2 ^ 3 by omega,
    Nat.mod_eq_of_lt (show B2 / 32 + B1 * 2 ^ 3 < 2 ^ 11 by omega),
    Nat.div_eq_of_lt (show B2 / 32 + B1 * 2 ^ 3 < 65536 by omega)]
  have hS1 : (B2 / 32 + B1 * 2 ^ 3) / 8 = B1 := (div_mod_add_mul hS).1
  have hS2 : (B2 / 32 + B1 * 2 ^ 3) % 8 = B2 / 32 := (div_mod_add_mul hS).2
  rw [hS1, hS2, Nat.mod_eq_of_lt h1]
  exact ⟨rfl, rfl⟩

/-- The bits 3 and 7..5 of two numbers with the same bits 7..5 and 3. -/
theorem sidl_bits {T B : Nat} (h32 : T / 32 = B / 32) (h8 : T / 8 % 2 = B / 8 % 2) :
    ∀ k ∈ [3, 5, 6, 7], T / 2 ^ k % 2 = B / 2 ^ k % 2 := by
  intro k hk
  simp only [List.mem_cons, List.mem_singleton, List.not_mem_nil, or_false] at hk
  rcases hk with rfl | rfl | rfl | rfl
  · exact h8
  · exact congrArg (· % 2) h32
  · show T / (32 * 2) % 2 = B / (32 * 2) % 2
    rw [← Nat.div_div_eq_div_mul, ← Nat.div_div_eq_div_mul, h32]
  · show T / (32 * 4) % 2 = B / (32 * 4) % 2
    rw [← Nat.div_div_eq_div_mul, ← Nat.div_div_eq_div_mul, h32]

/-- Numbers equal modulo `2 ^ m` have the same bits below `m`. -/
theorem div_pow_mod_two_eq_of_mod {T D m : Nat} (h : T % 2 ^ m = D % 2 ^ m) :
    ∀ k < m, T / 2 ^ k % 2 = D / 2 ^ k % 2 := by
  intro k hk
  have hd : 2 ^ k * 2 ∣ 2 ^ m := by
    rw [← Nat.pow_succ]
    exact Nat.pow_dvd_pow 2 hk
  rw [← Nat.mod_mul_right_div_self, ← Nat.mod_mul_right_div_self D, ← Nat.mod_mod_of_dvd T hd,
    ← Nat.mod_mod_of_dvd D hd, h]

/-- The length nibble and bit 6 of an encoded `DLC` byte. -/
theorem dlc_fields {T D r : Nat} (hT : T = r * 64 + D % 16) (hr : r < 2) :
    (∀ k < 4, T / 2 ^ k % 2 = D / 2 ^ k % 2) ∧ T / 64 % 2 = r :=
  ⟨div_pow_mod_two_eq_of_mod (by omega), by omega⟩

/-! ## Encoding a decoded frame -/

theorem getLsbD_eq_of_div {x y : BitVec 8} {k : Nat} (h : x.toNat / 2 ^ k % 2 = y.toNat / 2 ^ k % 2) :
    x.getLsbD k = y.getLsbD k := by
  simp only [← BitVec.testBit_toNat, Nat.testBit_to_div_mod, h]

theorem getLsbD_eq_decide (x : BitVec 8) (k : Nat) :
    x.getLsbD k = decide (x.toNat / 2 ^ k % 2 = 1) := by
  rw [← BitVec.testBit_toNat, Nat.testBit_to_div_mod]

section DecodedImage

variable (b : Nat → BitVec 8) (n : Nat)

/-- The transmit fields of a decoded standard image (`IDE` clear): `SIDH`, bits 7..5 of `SIDL`
with `IDE` clear, and the remote flag from `SRR`. -/
theorem mcp2515HwTxBuf_decode_std (hide : (b 2).toNat / 8 % 2 = 0) :
    (mcp2515HwTxBuf (mcp2515HwRxDecode b) n 1).toNat = (b 1).toNat ∧
    (mcp2515HwTxBuf (mcp2515HwRxDecode b) n 2).toNat = (b 2).toNat / 32 * 32 ∧
    (mcp2515HwRxDecode b).canId.toNat / 2 ^ 30 % 2 = (b 2).toNat / 16 % 2 := by
  have hid : (mcp2515HwRxDecode b).canId.toNat = 0 * 2 ^ 31 + (b 2).toNat / 16 % 2 * 2 ^ 30 +
      ((b 1).toNat * 8 + (b 2).toNat / 32) := by
    rw [toNat_mcp2515HwRxDecode_canId_of_not_ide b hide, Nat.zero_mul, Nat.zero_add]
  obtain ⟨hx, s1, s2⟩ := std_image_fields (b 1).isLt (b 2).isLt
  obtain ⟨e31, e30, -, e29⟩ := flags_fields (by decide) (Nat.mod_lt _ (by decide)) hx hid
  have e11 : (mcp2515HwRxDecode b).canId.toNat % 2 ^ 11 =
      ((b 1).toNat * 8 + (b 2).toNat / 32) % 2 ^ 11 := by
    rw [← Nat.mod_mod_of_dvd _ (show 2 ^ 11 ∣ 2 ^ 29 by decide), e29]
  refine ⟨?_, ?_, e30⟩
  · rw [toNat_mcp2515HwTxBuf_sidh, txSid, if_neg (by rw [e31]; decide), e11, s1]
  · rw [toNat_mcp2515HwTxBuf_sidl, txSid, if_neg (by rw [e31]; decide), e11, e31, e29, s2]

/-- The transmit fields of a decoded extended image (`IDE` set): `SIDH`, `SIDL` with `IDE`
set, `EID8`, `EID0`, and the remote flag from bit 6 of `DLC`. -/
theorem mcp2515HwTxBuf_decode_ext (hide : (b 2).toNat / 8 % 2 = 1) :
    (mcp2515HwTxBuf (mcp2515HwRxDecode b) n 1).toNat = (b 1).toNat ∧
    (mcp2515HwTxBuf (mcp2515HwRxDecode b) n 2).toNat = (b 2).toNat / 32 * 32 + 8 + (b 2).toNat % 4 ∧
    (mcp2515HwTxBuf (mcp2515HwRxDecode b) n 3).toNat = (b 3).toNat ∧
    (mcp2515HwTxBuf (mcp2515HwRxDecode b) n 4).toNat = (b 4).toNat ∧
    (mcp2515HwRxDecode b).canId.toNat / 2 ^ 30 % 2 = (b 5).toNat / 64 % 2 := by
  have hid : (mcp2515HwRxDecode b).canId.toNat = 1 * 2 ^ 31 + (b 5).toNat / 64 % 2 * 2 ^ 30 +
      ((b 2).toNat % 4 * 65536 + (b 3).toNat * 256 + (b 4).toNat +
        ((b 1).toNat * 8 + (b 2).toNat / 32) * 2 ^ 18) := by
    rw [toNat_mcp2515HwRxDecode_canId_of_ide b hide, Nat.one_mul]
  obtain ⟨hx, x1, x2, x3, x4⟩ := ext_image_fields (b 1).isLt (b 2).isLt (b 3).isLt (b 4).isLt
  obtain ⟨e31, e30, -, e29⟩ := flags_fields (by decide) (Nat.mod_lt _ (by decide)) hx hid
  refine ⟨?_, ?_, ?_, ?_, e30⟩
  · rw [toNat_mcp2515HwTxBuf_sidh, txSid, if_pos e31, e29, x1]
  · rw [toNat_mcp2515HwTxBuf_sidl, txSid, if_pos e31, e29, e31, x2]
  · rw [toNat_mcp2515HwTxBuf_eid8, e29, x3]
  · rw [toNat_mcp2515HwTxBuf_eid0, e29, x4]

end DecodedImage

/-- Encoding the decoded frame gives back the fields of the receive image: `SIDH`, bits 7..5
and `IDE` of `SIDL`, the length nibble and the data bytes it covers; for an extended image
also the two identifier bits of `SIDL` and `EID8`, `EID0`. The remote request, bit 6 of `DLC`
on the bus for both formats, comes back from bit 6 of `DLC` of an extended image and from
`SRR` of a standard one. -/
theorem mcp2515HwTxBuf_mcp2515HwRxDecode (b : Nat → BitVec 8) (n : Nat)
    (hdlc : (b 5 &&& rxbdlcLenMask).toNat ≤ 8) :
    mcp2515HwTxBuf (mcp2515HwRxDecode b) n 1 = b 1 ∧
    (∀ k ∈ [3, 5, 6, 7], (mcp2515HwTxBuf (mcp2515HwRxDecode b) n 2).getLsbD k = (b 2).getLsbD k) ∧
    (∀ k < 4, (mcp2515HwTxBuf (mcp2515HwRxDecode b) n 5).getLsbD k = (b 5).getLsbD k) ∧
    (∀ i < (b 5 &&& rxbdlcLenMask).toNat,
      mcp2515HwTxBuf (mcp2515HwRxDecode b) n (6 + i) = b (6 + i)) ∧
    (mcp2515HwTxBuf (mcp2515HwRxDecode b) n 5).getLsbD 6 =
      (if (b 2).getLsbD 3 then (b 5).getLsbD 6 else (b 2).getLsbD 4) ∧
    ((b 2).getLsbD 3 = true →
      (∀ k < 2, (mcp2515HwTxBuf (mcp2515HwRxDecode b) n 2).getLsbD k = (b 2).getLsbD k) ∧
      mcp2515HwTxBuf (mcp2515HwRxDecode b) n 3 = b 3 ∧
      mcp2515HwTxBuf (mcp2515HwRxDecode b) n 4 = b 4) := by
  have hl : (b 5 &&& rxbdlcLenMask).toNat = (b 5).toNat % 16 := toNat_and_rxbdlcLenMask _
  have hd : (mcp2515HwRxDecode b).canDlc.toNat = (b 5).toNat % 16 := by
    show (getCanDlc (b 5 &&& rxbdlcLenMask)).toNat = _
    rw [getCanDlc_of_le hdlc, hl]
  have hdat : ∀ i < (b 5 &&& rxbdlcLenMask).toNat, mcp2515HwTxBuf (mcp2515HwRxDecode b) n (6 + i) =
      b (6 + i) := by
    intro i hi
    rw [hl] at hi
    rw [mcp2515HwTxBuf_dat _ n (by simp [txbdatOff]), if_pos (by simp only [txbdatOff]; omega)]
    have hi' : i < (getCanDlc (b rxbdlcOff &&& rxbdlcLenMask)).toNat := hd ▸ hi
    simp only [txbdatOff, Nat.add_sub_cancel_left, CanFrame.byte, dif_pos (show i < 8 by omega),
      mcp2515HwRxDecode_data, if_pos hi', rxbdatOff]
  have h5 := toNat_mcp2515HwTxBuf_dlc (mcp2515HwRxDecode b) n (by omega)
  rw [hd] at h5
  obtain ⟨hlow, h6⟩ := dlc_fields h5 (Nat.mod_lt _ (by decide))
  rcases Nat.mod_two_eq_zero_or_one ((b 2).toNat / 8) with hide | hide
  · obtain ⟨h1, h2, e30⟩ := mcp2515HwTxBuf_decode_std b n hide
    have h3b : (b 2).getLsbD 3 = false := by rw [getLsbD_eq_decide]; simp [hide]
    refine ⟨BitVec.eq_of_toNat_eq h1, fun k hk => getLsbD_eq_of_div (sidl_bits (by omega)
      (by omega) k hk), fun k hk => getLsbD_eq_of_div (hlow k hk), hdat, ?_,
      fun h => absurd h (by simp [h3b])⟩
    rw [if_neg (by simp [h3b]), getLsbD_eq_decide, getLsbD_eq_decide]
    simp only [Nat.reducePow, h6.trans e30]
  · obtain ⟨h1, h2, h3, h4, e30⟩ := mcp2515HwTxBuf_decode_ext b n hide
    have h3b : (b 2).getLsbD 3 = true := by rw [getLsbD_eq_decide]; simp [hide]
    refine ⟨BitVec.eq_of_toNat_eq h1, fun k hk => getLsbD_eq_of_div (sidl_bits (by omega)
      (by omega) k hk), fun k hk => getLsbD_eq_of_div (hlow k hk), hdat, ?_,
      fun _ => ⟨fun k hk => getLsbD_eq_of_div (div_pow_mod_two_eq_of_mod
        (show (mcp2515HwTxBuf (mcp2515HwRxDecode b) n 2).toNat % 2 ^ 2 = (b 2).toNat % 2 ^ 2 by
          rw [h2]; omega) k hk),
        BitVec.eq_of_toNat_eq h3, BitVec.eq_of_toNat_eq h4⟩⟩
    rw [if_pos h3b, getLsbD_eq_decide, getLsbD_eq_decide]
    simp only [Nat.reducePow, h6.trans e30]

theorem mcp2515HwTxBuf_mcp2515HwRxDecode_eights :
    ((8 : BitVec 8) &&& rxbdlcLenMask).toNat ≤ 8 ∧
    mcp2515HwTxBuf (mcp2515HwRxDecode fun _ => 8) 0 1 = 8 ∧
    (∀ k ∈ [3, 5, 6, 7],
      (mcp2515HwTxBuf (mcp2515HwRxDecode fun _ => 8) 0 2).getLsbD k = (8 : BitVec 8).getLsbD k) ∧
    (∀ k < 4,
      (mcp2515HwTxBuf (mcp2515HwRxDecode fun _ => 8) 0 5).getLsbD k = (8 : BitVec 8).getLsbD k) ∧
    (∀ i < ((8 : BitVec 8) &&& rxbdlcLenMask).toNat,
      mcp2515HwTxBuf (mcp2515HwRxDecode fun _ => 8) 0 (6 + i) = 8) ∧
    (mcp2515HwTxBuf (mcp2515HwRxDecode fun _ => 8) 0 5).getLsbD 6 =
      (if (8 : BitVec 8).getLsbD 3 then (8 : BitVec 8).getLsbD 6 else (8 : BitVec 8).getLsbD 4) ∧
    ((8 : BitVec 8).getLsbD 3 = true →
      (∀ k < 2,
        (mcp2515HwTxBuf (mcp2515HwRxDecode fun _ => 8) 0 2).getLsbD k = (8 : BitVec 8).getLsbD k) ∧
      mcp2515HwTxBuf (mcp2515HwRxDecode fun _ => 8) 0 3 = 8 ∧
      mcp2515HwTxBuf (mcp2515HwRxDecode fun _ => 8) 0 4 = 8) :=
  ⟨by decide, mcp2515HwTxBuf_mcp2515HwRxDecode (fun _ => 8) 0 (by decide)⟩

/-! ## Well-formedness of a decoded frame -/

theorem toNat_getCanDlc (i : BitVec 8) : (getCanDlc i).toNat = min i.toNat 8 := by
  unfold getCanDlc canFrameMaxDataLen
  split
  · omega
  · rw [Nat.min_eq_right (by omega)]
    rfl

/-- The decoder reads the header bytes 1 to 5 of the image and the data bytes the decoded
length covers, and nothing else. -/
theorem mcp2515HwRxDecode_congr {b b' : Nat → BitVec 8} (hh : ∀ k, 1 ≤ k → k ≤ 5 → b' k = b k)
    (hd : ∀ i < (mcp2515HwRxDecode b).canDlc.toNat, b' (6 + i) = b (6 + i)) :
    mcp2515HwRxDecode b' = mcp2515HwRxDecode b := by
  simp only [mcp2515HwRxDecode, rxbsidlOff, rxbeid8Off, rxbeid0Off, rxbsidhOff, rxbdlcOff,
    rxbdatOff, hh 1 le_rfl (by decide), hh 2 (by decide) (by decide), hh 3 (by decide) (by decide),
    hh 4 (by decide) (by decide), hh 5 (by decide) le_rfl, CanFrame.mk.injEq, true_and]
  funext i
  split
  · exact hd i.val ‹_›
  · rfl

/-- The identifier of a decoded frame: the extended flag `a`, the remote flag `c` and 29 bits
of identifier, of which only 11 for a standard frame. -/
theorem toNat_mcp2515HwRxDecode_canId (b : Nat → BitVec 8) :
    ∃ a c x, a < 2 ∧ c < 2 ∧ x < 2 ^ 29 ∧ (a = 0 → x < 2 ^ 11) ∧
      (mcp2515HwRxDecode b).canId.toNat = a * 2 ^ 31 + c * 2 ^ 30 + x := by
  have hb1 := (b 1).isLt
  have hb2 := (b 2).isLt
  rcases Nat.mod_two_eq_zero_or_one ((b 2).toNat / 8) with hide | hide
  · refine ⟨0, (b 2).toNat / 16 % 2, (b 1).toNat * 8 + (b 2).toNat / 32, by decide,
      Nat.mod_lt _ (by decide), by omega, fun _ => by omega, ?_⟩
    rw [toNat_mcp2515HwRxDecode_canId_of_not_ide b hide]
    omega
  · refine ⟨1, (b 5).toNat / 64 % 2, _, by decide, Nat.mod_lt _ (by decide),
      (ext_image_fields hb1 hb2 (b 3).isLt (b 4).isLt).1, fun h => absurd h (by decide), ?_⟩
    rw [toNat_mcp2515HwRxDecode_canId_of_ide b hide, Nat.one_mul]

/-- A received frame adds its length, at most 8, to `rx_bytes`; a dropped one adds nothing. -/
theorem mcp2515HwRx_rxBytes (alloc : Bool) (n : Fin 2) (s : Sys) :
    s.priv.stats.rxBytes ≤ (mcp2515HwRx alloc n s).priv.stats.rxBytes ∧
    (mcp2515HwRx alloc n s).priv.stats.rxBytes ≤ s.priv.stats.rxBytes + 8 := by
  unfold mcp2515HwRx
  split
  · have := getCanDlc_le ((s.ctrl.rxb n).image rxbdlcOff &&& rxbdlcLenMask)
    simp only [Ctrl.readRxb, mcp2515HwRxDecode_canDlc]
    omega
  · exact ⟨le_rfl, Nat.le_add_right _ _⟩

/-- Every receive image, whatever its length nibble and identifier bits, decodes to a
well-formed frame: the length is the nibble clamped to 8, the data copy reads only the bytes
6 to `5 + can_dlc` of the 14-byte image, the error flag is clear, and the identifier has 11
bits in a standard frame and 29 in an extended one. A decoded frame adds at most 8 to
`rx_bytes`. -/
theorem mcp2515HwRxDecode_wellFormed (b : Nat → BitVec 8) :
    (mcp2515HwRxDecode b).canDlc.toNat = min (b 5 &&& rxbdlcLenMask).toNat 8 ∧
    (mcp2515HwRxDecode b).canDlc.toNat ≤ 8 ∧
    (∀ b' : Nat → BitVec 8,
      (∀ k, 1 ≤ k → k < 6 + (mcp2515HwRxDecode b).canDlc.toNat → b' k = b k) →
      mcp2515HwRxDecode b' = mcp2515HwRxDecode b) ∧
    6 + (mcp2515HwRxDecode b).canDlc.toNat ≤ 14 ∧
    hasFlag (mcp2515HwRxDecode b).canId canErrFlag = false ∧
    (hasFlag (mcp2515HwRxDecode b).canId canEffFlag = false →
      ((mcp2515HwRxDecode b).canId &&& canEffMask).toNat < 2 ^ 11) ∧
    (hasFlag (mcp2515HwRxDecode b).canId canEffFlag = true →
      ((mcp2515HwRxDecode b).canId &&& canEffMask).toNat < 2 ^ 29) ∧
    ∀ (alloc : Bool) (n : Fin 2) (s : Sys),
      s.priv.stats.rxBytes ≤ (mcp2515HwRx alloc n s).priv.stats.rxBytes ∧
      (mcp2515HwRx alloc n s).priv.stats.rxBytes ≤ s.priv.stats.rxBytes + 8 := by
  have hle : (mcp2515HwRxDecode b).canDlc.toNat ≤ 8 := getCanDlc_le _
  obtain ⟨a, c, x, ha, hc, hx, hs, hE⟩ := toNat_mcp2515HwRxDecode_canId b
  obtain ⟨e31, -, e29, em⟩ := flags_fields ha hc hx hE
  refine ⟨toNat_getCanDlc _, hle, fun b' h => mcp2515HwRxDecode_congr
    (fun k h1 h5 => h k h1 (by omega)) (fun i hi => h (6 + i) (by omega) (by omega)), by omega,
    ?_, fun h => ?_, fun _ => ?_, mcp2515HwRx_rxBytes⟩
  · rw [hasFlag_canErrFlag, e29]
    rfl
  · rw [hasFlag_canEffFlag, e31, decide_eq_false_iff_not] at h
    rw [toNat_and_canEffMask, em]
    exact hs (by omega)
  · rw [toNat_and_canEffMask]
    exact Nat.mod_lt _ (by decide)

end Mcp2515Banged
