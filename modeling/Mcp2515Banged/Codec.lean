import Mcp2515Banged.Registers

/-!
# The frame codec of `mcp2515_hw_tx` and `mcp2515_hw_rx`

`mcp2515_hw_tx` packs a `struct can_frame` into the byte image of a transmit buffer: the
load instruction, `SIDH`, `SIDL` (low standard-identifier bits, the extended-identifier enable
bit 3 and the top two extended bits), `EID8`, `EID0`, the length register with the remote bit
at bit 6, then the data bytes. `mcp2515_hw_rx` reads a receive image back into a frame. The
two layouts differ in one place: a standard frame's remote request arrives in the `SRR` bit 4
of `SIDL`, an extended frame's in bit 6 of the length register.

Proofs go through `BitVec.toNat`: every mask, shift and disjoint `|||` of the source becomes
`%`, `/`, `*` and `+`, which `omega` decides. Facts about a single byte are checked by
`decide` over its 256 values.

## Main definitions

* `CanFrame` — `struct can_frame`
* `mcp2515HwTxBuf` — the transmit image `buf` of `mcp2515_hw_tx`
* `mcp2515HwRxDecode` — the frame `mcp2515_hw_rx` builds from a receive image
* `RxImageOf` — the controller's mapping of a transmit image onto the receive image
* `RecoversFrame` — what decoding must give back of a sent frame

## Main results

* `mcp2515HwRxDecode_of_rxImageOf` — decoding the receive image of a frame's transmit image
  gives back its flags, identifier, length and data
-/

namespace Mcp2515Banged

/-! ## Bit fields as arithmetic -/

section BitFields

variable {w : Nat}

/-- A disjoint `|||` adds: `y` fits below the low zero bits of `x`. -/
theorem toNat_or_of_lt {x y : BitVec w} (k : Nat) (hx : x.toNat % 2 ^ k = 0)
    (hy : y.toNat < 2 ^ k) : (x ||| y).toNat = x.toNat + y.toNat := by
  rw [BitVec.toNat_or]
  obtain ⟨a, ha⟩ : ∃ a, x.toNat = 2 ^ k * a :=
    ⟨x.toNat / 2 ^ k, (Nat.mul_div_cancel' (Nat.dvd_of_mod_eq_zero hx)).symm⟩
  rw [ha, ← Nat.mul_add_lt_is_or hy]

/-- A low mask is a remainder. -/
theorem land_eq_mod (n k m : Nat) (h : m = 2 ^ k - 1) : n &&& m = n % 2 ^ k := by
  subst h
  exact Nat.and_pow_two_sub_one_eq_mod n k

/-- Testing one flag bit, as the source writes `x & FLAG`, reads bit `k` of the value. -/
theorem and_twoPow_ne_zero (x : BitVec w) {k : Nat} (hk : k < w) :
    (x &&& BitVec.twoPow w k != 0) = decide (x.toNat / 2 ^ k % 2 = 1) := by
  rw [BitVec.and_twoPow, ← BitVec.testBit_toNat, Nat.testBit_to_div_mod]
  by_cases h : x.toNat / 2 ^ k % 2 = 1
  · have : BitVec.twoPow w k ≠ 0 := by
      intro h0
      have := congrArg BitVec.toNat h0
      rw [BitVec.toNat_twoPow, Nat.mod_eq_of_lt (Nat.pow_lt_pow_right (by decide) hk)] at this
      simp at this
    simpa [h] using this
  · simp [h]

/-- The fields `x / 2 ^ k` and `x % 2 ^ k` of `l + s * 2 ^ k` with `l < 2 ^ k`. -/
theorem div_mod_add_mul {l s k : Nat} (hl : l < 2 ^ k) :
    (l + s * 2 ^ k) / 2 ^ k = s ∧ (l + s * 2 ^ k) % 2 ^ k = l := by
  have hk := Nat.two_pow_pos k
  constructor
  · rw [Nat.add_mul_div_right _ _ hk, Nat.div_eq_of_lt hl, Nat.zero_add]
  · rw [Nat.add_mul_mod_self_right, Nat.mod_eq_of_lt hl]

/-- The flag bits and the identifier of `E = a * 2 ^ 31 + c * 2 ^ 30 + x` with `x < 2 ^ 29`. -/
theorem flags_fields {a c x E : Nat} (ha : a < 2) (hc : c < 2) (hx : x < 2 ^ 29)
    (hE : E = a * 2 ^ 31 + c * 2 ^ 30 + x) :
    E / 2 ^ 31 % 2 = a ∧ E / 2 ^ 30 % 2 = c ∧ E / 2 ^ 29 % 2 = 0 ∧ E % 2 ^ 29 = x := by
  obtain ⟨hd, hm⟩ := div_mod_add_mul (s := 4 * a + 2 * c) hx
  rw [show E = x + (4 * a + 2 * c) * 2 ^ 29 by omega]
  rw [show 2 ^ 31 = 2 ^ 29 * 4 from rfl, show 2 ^ 30 = 2 ^ 29 * 2 from rfl,
    ← Nat.div_div_eq_div_mul, ← Nat.div_div_eq_div_mul, hd, hm]
  omega

end BitFields

/-! ## Frames -/

/-- A classical CAN frame, `struct can_frame`: identifier with its flag bits, data length code
`can_dlc`, and eight data bytes. -/
structure CanFrame where
  canId : BitVec 32
  canDlc : BitVec 8
  data : Fin 8 → BitVec 8

/-- Data byte `i` of a frame, as `memcpy` reads it (0 past the eight bytes). -/
def CanFrame.byte (f : CanFrame) (i : Nat) : BitVec 8 := if h : i < 8 then f.data ⟨i, h⟩ else 0

/-- The source's test of a flag in an identifier, `can_id & FLAG`. -/
def hasFlag (canId flag : BitVec 32) : Bool := canId &&& flag != 0

theorem hasFlag_canEffFlag (x : BitVec 32) :
    hasFlag x canEffFlag = decide (x.toNat / 2 ^ 31 % 2 = 1) :=
  and_twoPow_ne_zero x (k := 31) (by decide)

theorem hasFlag_canRtrFlag (x : BitVec 32) :
    hasFlag x canRtrFlag = decide (x.toNat / 2 ^ 30 % 2 = 1) :=
  and_twoPow_ne_zero x (k := 30) (by decide)

theorem hasFlag_canErrFlag (x : BitVec 32) :
    hasFlag x canErrFlag = decide (x.toNat / 2 ^ 29 % 2 = 1) :=
  and_twoPow_ne_zero x (k := 29) (by decide)

theorem toNat_and_canEffMask (x : BitVec 32) : (x &&& canEffMask).toNat = x.toNat % 2 ^ 29 := by
  simp [canEffMask, land_eq_mod _ 29 0x1FFFFFFF rfl]

theorem toNat_and_canSffMask (x : BitVec 32) : (x &&& canSffMask).toNat = x.toNat % 2 ^ 11 := by
  simp [canSffMask, land_eq_mod _ 11 0x7FF rfl]

/-! ## The transmit image -/

/-- The image `mcp2515_hw_tx` builds in its stack buffer `buf` for transmit buffer
`txBufIdx`. Only the first `6 + can_dlc` bytes are written and sent; the model reads the
unwritten rest as 0. -/
def mcp2515HwTxBuf (frame : CanFrame) (txBufIdx : Nat) : Nat → BitVec 8 :=
  let exide : BitVec 32 := if hasFlag frame.canId canEffFlag then 1 else 0
  let sid : BitVec 32 :=
    if exide != 0 then (frame.canId &&& canEffMask) >>> 18 else frame.canId &&& canSffMask
  let eid : BitVec 32 := frame.canId &&& canEffMask
  let rtr : BitVec 32 := if hasFlag frame.canId canRtrFlag then 1 else 0
  fun k =>
    if k = txbctrlOff then instructionLoadTxb txBufIdx
    else if k = txbsidhOff then (sid >>> sidhShift).setWidth 8
    else if k = txbsidlOff then
      (((sid &&& sidlSidMask) <<< sidlSidShift) ||| (exide <<< sidlExideShift) |||
        ((eid >>> sidlEidShift) &&& sidlEidMask)).setWidth 8
    else if k = txbeid8Off then getByte eid 1
    else if k = txbeid0Off then getByte eid 0
    else if k = txbdlcOff then ((rtr <<< dlcRtrShift) ||| frame.canDlc.setWidth 32).setWidth 8
    else if k < txbdatOff + frame.canDlc.toNat then frame.byte (k - txbdatOff)
    else 0

section TxImage

variable (frame : CanFrame) (n : Nat)

/-- The standard-identifier field `sid` of `mcp2515_hw_tx`, as a number. -/
def txSid (e : Nat) : Nat := if e / 2 ^ 31 % 2 = 1 then e % 2 ^ 29 / 2 ^ 18 else e % 2 ^ 11

theorem toNat_txSid (x : BitVec 32) :
    (if ((if hasFlag x canEffFlag then 1 else 0 : BitVec 32) != 0) = true then
      (x &&& canEffMask) >>> 18 else x &&& canSffMask).toNat = txSid x.toNat := by
  rw [txSid, hasFlag_canEffFlag]
  by_cases h : x.toNat / 2 ^ 31 % 2 = 1
  · simp only [h, decide_True, if_true, bne_iff_ne, ne_eq]
    rw [if_pos (by decide), BitVec.toNat_ushiftRight, toNat_and_canEffMask, Nat.shiftRight_eq_div_pow]
  · simp only [h, decide_False, if_false, bne_self_eq_false, Bool.false_eq_true]
    exact toNat_and_canSffMask x

theorem mcp2515HwTxBuf_ctrl : mcp2515HwTxBuf frame n txbctrlOff = instructionLoadTxb n := rfl

theorem toNat_mcp2515HwTxBuf_sidh :
    (mcp2515HwTxBuf frame n 1).toNat = txSid frame.canId.toNat / 8 % 256 := by
  simp only [mcp2515HwTxBuf, txbctrlOff, txbsidhOff, if_neg (show (1 : Nat) ≠ 0 by decide), if_true]
  rw [BitVec.toNat_setWidth, BitVec.toNat_ushiftRight, toNat_txSid, Nat.shiftRight_eq_div_pow]
  rfl

theorem toNat_mcp2515HwTxBuf_sidl :
    (mcp2515HwTxBuf frame n 2).toNat =
      txSid frame.canId.toNat % 8 * 32 + frame.canId.toNat / 2 ^ 31 % 2 * 8 +
        frame.canId.toNat % 2 ^ 29 / 65536 % 4 := by
  simp only [mcp2515HwTxBuf, txbctrlOff, txbsidhOff, txbsidlOff, sidlSidMask, sidlSidShift,
    sidlExideShift, sidlEidShift, sidlEidMask, if_neg (show (2 : Nat) ≠ 0 by decide),
    if_neg (show (2 : Nat) ≠ 1 by decide), if_true]
  set sid := (if ((if hasFlag frame.canId canEffFlag then 1 else 0 : BitVec 32) != 0) = true then
      (frame.canId &&& canEffMask) >>> 18 else frame.canId &&& canSffMask) with hsid
  have hs : sid.toNat = txSid frame.canId.toNat := toNat_txSid frame.canId
  set exide : BitVec 32 := if hasFlag frame.canId canEffFlag then 1 else 0
  have hx : exide.toNat = frame.canId.toNat / 2 ^ 31 % 2 := by
    simp only [exide, hasFlag_canEffFlag]
    split_ifs with h <;> simp_all
  have h1 : ((sid &&& 7) <<< 5).toNat = sid.toNat % 8 * 32 := by
    simp [Nat.shiftLeft_eq, land_eq_mod _ 3 7 rfl]; omega
  have h2 : (exide <<< 3).toNat = exide.toNat * 8 := by
    simp [Nat.shiftLeft_eq]; omega
  have h3 : (((frame.canId &&& canEffMask) >>> 16) &&& 3).toNat =
      frame.canId.toNat % 2 ^ 29 / 65536 % 4 := by
    rw [BitVec.toNat_and, BitVec.toNat_ushiftRight, toNat_and_canEffMask, Nat.shiftRight_eq_div_pow]
    simp [land_eq_mod _ 2 3 rfl]
  have hx1 : exide.toNat ≤ 1 := by omega
  have h12 := toNat_or_of_lt 5 (x := (sid &&& 7) <<< 5) (y := exide <<< 3)
    (by simp only [h1, Nat.reducePow]; omega) (by simp only [h2, Nat.reducePow]; omega)
  rw [BitVec.toNat_setWidth, toNat_or_of_lt 2 (by simp only [h12, h1, h2, Nat.reducePow]; omega)
    (by simp only [h3, Nat.reducePow]; omega), h12, h1, h2, h3, hs, hx]
  simp only [Nat.reducePow] at hx1 hx ⊢
  omega

theorem toNat_mcp2515HwTxBuf_eid8 :
    (mcp2515HwTxBuf frame n 3).toNat = frame.canId.toNat % 2 ^ 29 / 256 % 256 := by
  simp only [mcp2515HwTxBuf, txbctrlOff, txbsidhOff, txbsidlOff, txbeid8Off, getByte,
    if_neg (show (3 : Nat) ≠ 0 by decide), if_neg (show (3 : Nat) ≠ 1 by decide),
    if_neg (show (3 : Nat) ≠ 2 by decide), if_true]
  rw [BitVec.toNat_setWidth, BitVec.toNat_and, BitVec.toNat_ushiftRight, toNat_and_canEffMask,
    Nat.shiftRight_eq_div_pow]
  simp [land_eq_mod _ 8 255 rfl]

theorem toNat_mcp2515HwTxBuf_eid0 :
    (mcp2515HwTxBuf frame n 4).toNat = frame.canId.toNat % 2 ^ 29 % 256 := by
  simp only [mcp2515HwTxBuf, txbctrlOff, txbsidhOff, txbsidlOff, txbeid8Off, txbeid0Off, getByte,
    if_neg (show (4 : Nat) ≠ 0 by decide), if_neg (show (4 : Nat) ≠ 1 by decide),
    if_neg (show (4 : Nat) ≠ 2 by decide), if_neg (show (4 : Nat) ≠ 3 by decide), if_true]
  rw [BitVec.toNat_setWidth, BitVec.toNat_and, BitVec.toNat_ushiftRight, toNat_and_canEffMask]
  simp [land_eq_mod _ 8 255 rfl]

theorem toNat_mcp2515HwTxBuf_dlc (h : frame.canDlc.toNat < 64) :
    (mcp2515HwTxBuf frame n 5).toNat =
      frame.canId.toNat / 2 ^ 30 % 2 * 64 + frame.canDlc.toNat := by
  simp only [mcp2515HwTxBuf, txbctrlOff, txbsidhOff, txbsidlOff, txbeid8Off, txbeid0Off,
    txbdlcOff, dlcRtrShift, if_neg (show (5 : Nat) ≠ 0 by decide), if_true,
    if_neg (show (5 : Nat) ≠ 1 by decide), if_neg (show (5 : Nat) ≠ 2 by decide),
    if_neg (show (5 : Nat) ≠ 3 by decide), if_neg (show (5 : Nat) ≠ 4 by decide)]
  set rtr : BitVec 32 := if hasFlag frame.canId canRtrFlag then 1 else 0
  have hr : rtr.toNat = frame.canId.toNat / 2 ^ 30 % 2 := by
    simp only [rtr, hasFlag_canRtrFlag]
    split_ifs with h <;> simp_all
  have h6 : (rtr <<< 6).toNat = rtr.toNat * 64 := by
    simp [Nat.shiftLeft_eq]; omega
  have hd : (frame.canDlc.setWidth 32).toNat = frame.canDlc.toNat := by
    simp; omega
  rw [BitVec.toNat_setWidth, toNat_or_of_lt 6 (by simp only [h6, Nat.reducePow]; omega)
    (by simp only [hd, Nat.reducePow]; omega), h6, hd, hr]
  simp only [Nat.reducePow]
  omega

theorem mcp2515HwTxBuf_dat {k : Nat} (hk : txbdatOff ≤ k) :
    mcp2515HwTxBuf frame n k =
      if k < txbdatOff + frame.canDlc.toNat then frame.byte (k - txbdatOff) else 0 := by
  simp only [txbdatOff] at hk
  simp only [mcp2515HwTxBuf, txbctrlOff, txbsidhOff, txbsidlOff, txbeid8Off, txbeid0Off,
    txbdlcOff, txbdatOff]
  rw [if_neg (by omega), if_neg (by omega), if_neg (by omega), if_neg (by omega),
    if_neg (by omega), if_neg (by omega)]

end TxImage

/-! ## The receive decoder -/

/-- The frame `mcp2515_hw_rx` fills in from the receive image `buf` that
`mcp2515_hw_rx_frame` read (the frame comes zeroed from `alloc_can_skb`). -/
def mcp2515HwRxDecode (buf : Nat → BitVec 8) : CanFrame :=
  let canId : BitVec 32 :=
    if buf rxbsidlOff &&& rxbsidlIde != 0 then
      let id := canEffFlag |||
        (setByte (buf rxbsidlOff &&& rxbsidlEid) 2 ||| setByte (buf rxbeid8Off) 1 |||
          setByte (buf rxbeid0Off) 0 |||
          ((((buf rxbsidhOff).setWidth 32 <<< rxbsidhShift) |||
            ((buf rxbsidlOff).setWidth 32 >>> rxbsidlShift)) <<< 18))
      if buf rxbdlcOff &&& rxbdlcRtr != 0 then id ||| canRtrFlag else id
    else
      let id := ((buf rxbsidhOff).setWidth 32 <<< rxbsidhShift) |||
        ((buf rxbsidlOff).setWidth 32 >>> rxbsidlShift)
      if buf rxbsidlOff &&& rxbsidlSrr != 0 then id ||| canRtrFlag else id
  let canDlc := getCanDlc (buf rxbdlcOff &&& rxbdlcLenMask)
  { canId, canDlc, data := fun i => if i.val < canDlc.toNat then buf (rxbdatOff + i.val) else 0 }

section RxImage

variable (buf : Nat → BitVec 8)

theorem and_rxbsidlIde (x : BitVec 8) : (x &&& rxbsidlIde != 0) = decide (x.toNat / 8 % 2 = 1) :=
  and_twoPow_ne_zero x (k := 3) (by decide)

theorem and_rxbsidlSrr (x : BitVec 8) : (x &&& rxbsidlSrr != 0) = decide (x.toNat / 16 % 2 = 1) :=
  and_twoPow_ne_zero x (k := 4) (by decide)

theorem and_rxbdlcRtr (x : BitVec 8) : (x &&& rxbdlcRtr != 0) = decide (x.toNat / 64 % 2 = 1) :=
  and_twoPow_ne_zero x (k := 6) (by decide)

theorem toNat_and_rxbdlcLenMask (x : BitVec 8) : (x &&& rxbdlcLenMask).toNat = x.toNat % 16 := by
  simp [rxbdlcLenMask, land_eq_mod _ 4 15 rfl]

/-- The standard identifier `(SIDH << 3) | (SIDL >> 5)`. -/
theorem toNat_rxSid (b1 b2 : BitVec 8) :
    ((b1.setWidth 32 <<< rxbsidhShift) ||| (b2.setWidth 32 >>> rxbsidlShift)).toNat =
      b1.toNat * 8 + b2.toNat / 32 := by
  have h1 : (b1.setWidth 32 <<< 3).toNat = b1.toNat * 8 := by
    simp [Nat.shiftLeft_eq]; omega
  have h2 : (b2.setWidth 32 >>> 5).toNat = b2.toNat / 32 := by
    simp [Nat.shiftRight_eq_div_pow]; omega
  rw [rxbsidhShift, rxbsidlShift, toNat_or_of_lt 3 (by simp only [h1, Nat.reducePow]; omega)
    (by simp only [h2, Nat.reducePow]; omega), h1, h2]

/-- `SET_BYTE(val, byte)` as a number: the byte times `2 ^ (8 * byte)`. -/
theorem toNat_setByte (b : BitVec 8) {k : Nat} (hk : k < 4) :
    (setByte b k).toNat = b.toNat * 2 ^ (k * 8) := by
  have hb := b.isLt
  have h255 : (b.setWidth 32 &&& 0xff).toNat = b.toNat := by
    rw [BitVec.toNat_and, BitVec.toNat_setWidth, Nat.mod_eq_of_lt (by omega)]
    exact Nat.and_pow_two_sub_one_of_lt_two_pow (n := 8) hb
  rw [setByte, BitVec.toNat_shiftLeft, h255, Nat.shiftLeft_eq, Nat.mod_eq_of_lt]
  have : 2 ^ (k * 8) ≤ 2 ^ 24 := Nat.pow_le_pow_right (by decide) (by omega)
  calc b.toNat * 2 ^ (k * 8) < 2 ^ 8 * 2 ^ 24 := Nat.mul_lt_mul_of_lt_of_le hb this (Nat.two_pow_pos _)
    _ = 2 ^ 32 := rfl

/-- The 29-bit extended identifier the decoder assembles from `SIDL`, `EID8`, `EID0` and the
standard fields. -/
theorem toNat_rxEid (b1 b2 b3 b4 : BitVec 8) :
    (setByte (b2 &&& rxbsidlEid) 2 ||| setByte b3 1 ||| setByte b4 0 |||
      (((b1.setWidth 32 <<< rxbsidhShift) ||| (b2.setWidth 32 >>> rxbsidlShift)) <<< 18)).toNat =
      b2.toNat % 4 * 65536 + b3.toNat * 256 + b4.toNat + (b1.toNat * 8 + b2.toNat / 32) * 2 ^ 18 := by
  have hA : (setByte (b2 &&& rxbsidlEid) 2).toNat = b2.toNat % 4 * 65536 := by
    rw [toNat_setByte _ (by decide), BitVec.toNat_and, show rxbsidlEid.toNat = 3 from rfl,
      land_eq_mod _ 2 3 rfl]
    rfl
  have hB : (setByte b3 1).toNat = b3.toNat * 256 := toNat_setByte _ (by decide)
  have hC : (setByte b4 0).toNat = b4.toNat := by rw [toNat_setByte _ (by decide)]; simp
  have h1 := b1.isLt; have h2 := b2.isLt; have h3 := b3.isLt; have h4 := b4.isLt
  have hD : ((((b1.setWidth 32 <<< rxbsidhShift) ||| (b2.setWidth 32 >>> rxbsidlShift)) <<< 18)).toNat
      = (b1.toNat * 8 + b2.toNat / 32) * 2 ^ 18 := by
    rw [BitVec.toNat_shiftLeft, toNat_rxSid, Nat.shiftLeft_eq, Nat.mod_eq_of_lt]
    omega
  have hAB := toNat_or_of_lt 16 (x := setByte (b2 &&& rxbsidlEid) 2) (y := setByte b3 1)
    (by rw [hA]; omega) (by rw [hB]; omega)
  have hABC := toNat_or_of_lt 8 (x := setByte (b2 &&& rxbsidlEid) 2 ||| setByte b3 1)
    (y := setByte b4 0) (by rw [hAB, hA, hB]; omega) (by rw [hC]; omega)
  rw [BitVec.or_comm, toNat_or_of_lt 18 (by rw [hD]; omega)
    (by rw [hABC, hAB, hA, hB, hC]; omega), hD, hABC, hAB, hA, hB, hC]
  omega

theorem toNat_or_canRtrFlag {x : BitVec 32} (hx : x.toNat < 2 ^ 30) :
    (x ||| canRtrFlag).toNat = x.toNat + 2 ^ 30 := by
  rw [BitVec.or_comm, toNat_or_of_lt 30 (by decide) hx]
  simp [canRtrFlag]; omega

theorem toNat_canEffFlag_or {x : BitVec 32} (hx : x.toNat < 2 ^ 31) :
    (canEffFlag ||| x).toNat = 2 ^ 31 + x.toNat := by
  rw [toNat_or_of_lt 31 (by decide) hx]
  simp [canEffFlag]

/-- An extended receive image (`IDE` set) decodes to the extended flag, the remote bit 6 of
the length register and the 29-bit identifier. -/
theorem toNat_mcp2515HwRxDecode_canId_of_ide (h : (buf 2).toNat / 8 % 2 = 1) :
    (mcp2515HwRxDecode buf).canId.toNat =
      2 ^ 31 + (buf 5).toNat / 64 % 2 * 2 ^ 30 +
        ((buf 2).toNat % 4 * 65536 + (buf 3).toNat * 256 + (buf 4).toNat +
          ((buf 1).toNat * 8 + (buf 2).toNat / 32) * 2 ^ 18) := by
  have hlt : (buf 2).toNat % 4 * 65536 + (buf 3).toNat * 256 + (buf 4).toNat +
      ((buf 1).toNat * 8 + (buf 2).toNat / 32) * 2 ^ 18 < 2 ^ 29 := by
    have := (buf 1).isLt; have := (buf 2).isLt; have := (buf 3).isLt; have := (buf 4).isLt
    omega
  have hid : (buf 2 &&& rxbsidlIde != 0) = true := by rw [and_rxbsidlIde]; simpa using h
  have he := toNat_rxEid (buf 1) (buf 2) (buf 3) (buf 4)
  simp only [mcp2515HwRxDecode, rxbsidlOff, rxbeid8Off, rxbeid0Off, rxbsidhOff, rxbdlcOff, hid,
    if_true, and_rxbdlcRtr]
  generalize (buf 2).toNat % 4 * 65536 + (buf 3).toNat * 256 + (buf 4).toNat +
      ((buf 1).toNat * 8 + (buf 2).toNat / 32) * 2 ^ 18 = e at he hlt ⊢
  generalize setByte (buf 2 &&& rxbsidlEid) 2 ||| setByte (buf 3) 1 ||| setByte (buf 4) 0 |||
    ((buf 1).setWidth 32 <<< rxbsidhShift ||| (buf 2).setWidth 32 >>> rxbsidlShift) <<< 18 = x at he ⊢
  by_cases hr : (buf 5).toNat / 64 % 2 = 1
  · rw [if_pos (by simpa using hr), BitVec.or_assoc,
      toNat_canEffFlag_or (by rw [toNat_or_canRtrFlag (by omega)]; omega),
      toNat_or_canRtrFlag (by omega), he, hr]
    omega
  · rw [if_neg (by simpa using hr), toNat_canEffFlag_or (by omega), he]
    omega

/-- A standard receive image (`IDE` clear) decodes to the 11-bit identifier and the `SRR`
bit 4 of `SIDL` as remote flag. -/
theorem toNat_mcp2515HwRxDecode_canId_of_not_ide (h : (buf 2).toNat / 8 % 2 = 0) :
    (mcp2515HwRxDecode buf).canId.toNat =
      (buf 2).toNat / 16 % 2 * 2 ^ 30 + ((buf 1).toNat * 8 + (buf 2).toNat / 32) := by
  have hs := toNat_rxSid (buf 1) (buf 2)
  have hlt : (buf 1).toNat * 8 + (buf 2).toNat / 32 < 2 ^ 11 := by
    have := (buf 1).isLt; have := (buf 2).isLt
    simp only [Nat.reducePow] at *; omega
  have hid : (buf 2 &&& rxbsidlIde != 0) = false := by rw [and_rxbsidlIde]; simp [h]
  simp only [mcp2515HwRxDecode, rxbsidlOff, rxbsidhOff, hid, Bool.false_eq_true, if_false,
    and_rxbsidlSrr]
  by_cases hr : (buf 2).toNat / 16 % 2 = 1
  · rw [if_pos (by simpa using hr), toNat_or_canRtrFlag (by rw [hs]; omega), hs, hr]
    omega
  · rw [if_neg (by simpa using hr), hs]
    omega

theorem mcp2515HwRxDecode_canDlc :
    (mcp2515HwRxDecode buf).canDlc = getCanDlc (buf rxbdlcOff &&& rxbdlcLenMask) := rfl

theorem mcp2515HwRxDecode_data (i : Fin 8) :
    (mcp2515HwRxDecode buf).data i =
      if i.val < (getCanDlc (buf rxbdlcOff &&& rxbdlcLenMask)).toNat then buf (rxbdatOff + i.val)
      else 0 := rfl

end RxImage

/-! ## Round trip through the controller -/

/-- The controller's mapping of the transmitted image `t` of a frame onto the receive image
`b` of the same frame: the transmitted registers from 1 on carry over, except that for a
standard frame (`IDE`, bit 3 of `t[2]`, clear) the `SRR` bit 4 of `b[2]` takes the remote
bit 6 of `t[5]`. -/
def RxImageOf (t : List (BitVec 8)) (b : Nat → BitVec 8) : Prop :=
  (∀ k, 1 ≤ k → k < t.length → k ≠ rxbsidlOff → b k = t.getD k 0) ∧
  if t.getD txbsidlOff 0 &&& rxbsidlIde != 0 then b rxbsidlOff = t.getD txbsidlOff 0
  else b rxbsidlOff &&& ~~~rxbsidlSrr = t.getD txbsidlOff 0 &&& ~~~rxbsidlSrr ∧
    (b rxbsidlOff &&& rxbsidlSrr != 0) = (t.getD txbdlcOff 0 &&& rxbdlcRtr != 0)

instance (t : List (BitVec 8)) (b : Nat → BitVec 8) : Decidable (RxImageOf t b) :=
  inferInstanceAs (Decidable ((∀ k, 1 ≤ k → k < t.length → k ≠ rxbsidlOff → b k = t.getD k 0) ∧ _))

/-- Clearing `SRR` keeps the bits above it and the `IDE` bit. -/
theorem toNat_and_not_srr (x : BitVec 8) :
    (x &&& ~~~rxbsidlSrr).toNat / 32 = x.toNat / 32 ∧
      (x &&& ~~~rxbsidlSrr).toNat / 8 % 2 = x.toNat / 8 % 2 := by
  revert x; decide


/-- The extended identifier fields of the transmit image put back together. -/
theorem ext_fields (e : Nat) (he : e < 2 ^ 29) :
    (e / 2 ^ 18 % 8 * 32 + 1 * 8 + e / 65536 % 4) % 4 * 65536 + e / 256 % 256 * 256 + e % 256 +
      (e / 2 ^ 18 / 8 % 256 * 8 + (e / 2 ^ 18 % 8 * 32 + 1 * 8 + e / 65536 % 4) / 32) * 2 ^ 18
      = e := by
  simp only [Nat.reducePow] at *
  omega

/-- The standard identifier fields of the transmit image put back together. -/
theorem std_fields (s : Nat) (hs : s < 2 ^ 11) :
    s / 8 % 256 * 8 + (s % 8 * 32 + 0 * 8 + 0) / 32 = s := by
  simp only [Nat.reducePow] at *
  omega

theorem mod_two_eq_of_iff {a c : Nat} (h : a % 2 = 1 ↔ c % 2 = 1) : a % 2 = c % 2 := by
  rcases Nat.mod_two_eq_zero_or_one a with ha | ha <;>
    rcases Nat.mod_two_eq_zero_or_one c with hc | hc <;> simp_all

/-- The flag bits and the identifier of `flags * 2 ^ 30 + id` with `id < 2 ^ 29`. -/
theorem canId_fields (E : Nat) :
    let x := E / 2 ^ 31 % 2 * 2 ^ 31 + E / 2 ^ 30 % 2 * 2 ^ 30 + E % 2 ^ 29
    x / 2 ^ 31 % 2 = E / 2 ^ 31 % 2 ∧ x % 2 ^ 29 = E % 2 ^ 29 ∧ x / 2 ^ 30 % 2 = E / 2 ^ 30 % 2 ∧
      x / 2 ^ 29 % 2 = 0 := by
  intro x
  obtain ⟨h31, h30, h29, hid⟩ := flags_fields (x := E % 2 ^ 29) (E := x) (Nat.mod_lt _ (by decide))
    (Nat.mod_lt _ (by decide)) (Nat.mod_lt _ (by decide)) rfl
  exact ⟨h31, hid, h30, h29⟩

/-- What a decoded frame `d` keeps of a sent frame `f`: the extended flag, the identifier
bits, the remote flag, no error flag, the length and the first `can_dlc` data bytes. -/
structure RecoversFrame (f d : CanFrame) : Prop where
  effFlag : hasFlag d.canId canEffFlag = hasFlag f.canId canEffFlag
  canId : d.canId &&& canEffMask = f.canId &&& canEffMask
  rtrFlag : hasFlag d.canId canRtrFlag = hasFlag f.canId canRtrFlag
  errFlag : hasFlag d.canId canErrFlag = false
  canDlc : d.canDlc = f.canDlc
  data : ∀ i : Fin 8, i.val < f.canDlc.toNat → d.data i = f.data i

instance (f d : CanFrame) : Decidable (RecoversFrame f d) :=
  decidable_of_iff (hasFlag d.canId canEffFlag = hasFlag f.canId canEffFlag ∧
      d.canId &&& canEffMask = f.canId &&& canEffMask ∧
      hasFlag d.canId canRtrFlag = hasFlag f.canId canRtrFlag ∧
      hasFlag d.canId canErrFlag = false ∧ d.canDlc = f.canDlc ∧
      ∀ i : Fin 8, i.val < f.canDlc.toNat → d.data i = f.data i)
    ⟨fun ⟨a, b, c, d, e, g⟩ => ⟨a, b, c, d, e, g⟩, fun ⟨a, b, c, d, e, g⟩ => ⟨a, b, c, d, e, g⟩⟩

section RoundTrip

variable (f : CanFrame) (n : Nat) (b : Nat → BitVec 8)

theorem mcp2515HwTxBuf_rtr_bit (hdlc : f.canDlc.toNat ≤ 8) :
    (mcp2515HwTxBuf f n 5).toNat / 64 % 2 = f.canId.toNat / 2 ^ 30 % 2 := by
  rw [toNat_mcp2515HwTxBuf_dlc f n (by omega)]
  omega

/-- The receive image of the first `m ≥ 6` bytes of an image `t`, at the numeric offsets of
the decoder. -/
theorem rxImageOf_range_iff (t b : Nat → BitVec 8) {m : Nat} (hm : 6 ≤ m) :
    RxImageOf ((List.range m).map t) b ↔ (∀ k, 1 ≤ k → k < m → k ≠ 2 → b k = t k) ∧
      if (t 2).toNat / 8 % 2 = 1 then b 2 = t 2
      else b 2 &&& ~~~rxbsidlSrr = t 2 &&& ~~~rxbsidlSrr ∧
        ((b 2).toNat / 16 % 2 = 1 ↔ (t 5).toNat / 64 % 2 = 1) := by
  have hget : ∀ k, k < m → ((List.range m).map t).getD k 0 = t k := fun k hk => by
    simp [List.getD_eq_getElem?_getD, hk]
  simp only [RxImageOf, List.length_map, List.length_range, rxbsidlOff, txbsidlOff, txbdlcOff,
    hget 2 (by omega), hget 5 (by omega), and_rxbsidlIde, and_rxbsidlSrr, and_rxbdlcRtr,
    decide_eq_true_eq, decide_eq_decide]
  constructor <;> rintro ⟨h1, h2⟩ <;> refine ⟨fun k hk1 hk2 hk3 => ?_, h2⟩
  · rw [h1 k hk1 hk2 hk3, hget k hk2]
  · rw [h1 k hk1 hk2 hk3, hget k hk2]

/-- An extended frame comes back with the extended flag, its remote bit and its 29 bits. -/
theorem toNat_canId_of_rxImageOf_ext (hdlc : f.canDlc.toNat ≤ 8)
    (hx : f.canId.toNat / 2 ^ 31 % 2 = 1) (hb : RxImageOf ((List.range (txbdatOff + f.canDlc.toNat)).map (mcp2515HwTxBuf f n)) b) :
    (mcp2515HwRxDecode b).canId.toNat =
      2 ^ 31 + f.canId.toNat / 2 ^ 30 % 2 * 2 ^ 30 + f.canId.toNat % 2 ^ 29 := by
  obtain ⟨hcopy, hsidl⟩ := (rxImageOf_range_iff _ _ (by unfold txbdatOff; omega)).1 hb
  have ht2 := toNat_mcp2515HwTxBuf_sidl f n
  rw [txSid, if_pos hx, hx] at ht2
  have h2 : (mcp2515HwTxBuf f n 2).toNat / 8 % 2 = 1 := by rw [ht2]; omega
  rw [if_pos h2] at hsidl
  rw [toNat_mcp2515HwRxDecode_canId_of_ide b (by rw [hsidl]; exact h2), hsidl,
    hcopy 1 (by decide) (by unfold txbdatOff; omega) (by decide), hcopy 3 (by decide) (by unfold txbdatOff; omega) (by decide),
    hcopy 4 (by decide) (by unfold txbdatOff; omega) (by decide), hcopy 5 (by decide) (by unfold txbdatOff; omega) (by decide),
    mcp2515HwTxBuf_rtr_bit f n hdlc, toNat_mcp2515HwTxBuf_sidh, txSid, if_pos hx, ht2,
    toNat_mcp2515HwTxBuf_eid8, toNat_mcp2515HwTxBuf_eid0, ext_fields _ (Nat.mod_lt _ (by decide))]

/-- A standard frame comes back with its remote bit (moved to `SRR`) and its 11 bits. -/
theorem toNat_canId_of_rxImageOf_std (hdlc : f.canDlc.toNat ≤ 8)
    (hx : f.canId.toNat / 2 ^ 31 % 2 = 0) (hs : f.canId.toNat % 2 ^ 29 < 2 ^ 11)
    (hb : RxImageOf ((List.range (txbdatOff + f.canDlc.toNat)).map (mcp2515HwTxBuf f n)) b) :
    (mcp2515HwRxDecode b).canId.toNat = f.canId.toNat / 2 ^ 30 % 2 * 2 ^ 30 + f.canId.toNat % 2 ^ 29 := by
  obtain ⟨hcopy, hsidl⟩ := (rxImageOf_range_iff _ _ (by unfold txbdatOff; omega)).1 hb
  have ht2 := toNat_mcp2515HwTxBuf_sidl f n
  have h29 : f.canId.toNat % 2 ^ 29 / 65536 % 4 = 0 := by omega
  have h11 : f.canId.toNat % 2 ^ 29 = f.canId.toNat % 2 ^ 11 := by omega
  rw [txSid, if_neg (by omega), hx, h29] at ht2
  have h2 : (mcp2515HwTxBuf f n 2).toNat / 8 % 2 = 0 := by rw [ht2]; omega
  rw [if_neg (by omega)] at hsidl
  obtain ⟨hlow, hsrr⟩ := hsidl
  replace hsrr := mod_two_eq_of_iff hsrr
  have hk := toNat_and_not_srr (b 2)
  have hk' := toNat_and_not_srr (mcp2515HwTxBuf f n 2)
  rw [hlow] at hk
  rw [toNat_mcp2515HwRxDecode_canId_of_not_ide b (by omega), hsrr, hcopy 1 (by decide)
      (by unfold txbdatOff; omega) (by decide), show (b 2).toNat / 32 = (mcp2515HwTxBuf f n 2).toNat / 32 by omega,
    mcp2515HwTxBuf_rtr_bit f n hdlc, toNat_mcp2515HwTxBuf_sidh, txSid, if_neg (by omega), ht2, h11,
    std_fields _ (Nat.mod_lt _ (by decide))]

/-- Decoding the receive image of a frame's transmit image gives back the frame: its extended
flag, identifier bits, remote flag, length and data, and no error flag. The bound on a
standard identifier is the precondition; an extended one always fits its 29 bits. -/
theorem mcp2515HwRxDecode_of_rxImageOf (hdlc : f.canDlc.toNat ≤ 8)
    (hstd : hasFlag f.canId canEffFlag = false → (f.canId &&& canEffMask).toNat < 2 ^ 11)
    (hb : RxImageOf ((List.range (txbdatOff + f.canDlc.toNat)).map (mcp2515HwTxBuf f n)) b) :
    RecoversFrame f (mcp2515HwRxDecode b) := by
  have hid : (mcp2515HwRxDecode b).canId.toNat =
      f.canId.toNat / 2 ^ 31 % 2 * 2 ^ 31 + f.canId.toNat / 2 ^ 30 % 2 * 2 ^ 30 +
        f.canId.toNat % 2 ^ 29 := by
    rcases Nat.mod_two_eq_zero_or_one (f.canId.toNat / 2 ^ 31) with hx | hx
    · have hs := hstd (by rw [hasFlag_canEffFlag, hx]; decide)
      rw [toNat_and_canEffMask] at hs
      rw [toNat_canId_of_rxImageOf_std f n b hdlc hx hs hb, hx]
      omega
    · rw [toNat_canId_of_rxImageOf_ext f n b hdlc hx hb, hx]
      omega
  obtain ⟨hcopy, -⟩ := (rxImageOf_range_iff _ _ (by unfold txbdatOff; omega)).1 hb
  obtain ⟨h31, h29, h30, herr⟩ := canId_fields f.canId.toNat
  have h5 := toNat_mcp2515HwTxBuf_dlc f n (by omega)
  have hlen : (b rxbdlcOff &&& rxbdlcLenMask).toNat = f.canDlc.toNat := by
    rw [toNat_and_rxbdlcLenMask, rxbdlcOff, hcopy 5 (by decide) (by unfold txbdatOff; omega) (by decide), h5]
    omega
  have hdlc' : (mcp2515HwRxDecode b).canDlc = f.canDlc := by
    rw [mcp2515HwRxDecode_canDlc, getCanDlc_of_le (by omega)]
    exact BitVec.eq_of_toNat_eq hlen
  refine ⟨?_, ?_, ?_, ?_, hdlc', fun i hi => ?_⟩
  · simp only [hasFlag_canEffFlag, hid, h31]
  · apply BitVec.eq_of_toNat_eq
    rw [toNat_and_canEffMask, toNat_and_canEffMask, hid, h29]
  · simp only [hasFlag_canRtrFlag, hid, h30]
  · simp only [hasFlag_canErrFlag, hid, herr]; decide
  · rw [mcp2515HwRxDecode_data, ← mcp2515HwRxDecode_canDlc, hdlc', if_pos hi, rxbdatOff,
      hcopy (6 + i.val) (by omega) (by unfold txbdatOff; omega) (by omega),
      mcp2515HwTxBuf_dat f n (by unfold txbdatOff; omega), if_pos (by unfold txbdatOff; omega)]
    simp [CanFrame.byte, txbdatOff]

end RoundTrip

end Mcp2515Banged
