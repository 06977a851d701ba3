import Mcp2515Banged.Transport
import Mcp2515Banged.Codec

/-!
# Register access and the mailbox transfers

The register routines of the driver load the head of `spi_tx_buf`, pull chip select low, run
`mcp2515_spi_trans`, wait a microsecond and raise chip select. The mailbox routines
(`mcp2515_hw_tx_frame`, the request to send of `mcp2515_hw_tx`, `mcp2515_hw_rx_frame`) and the
reset instruction of `mcp2515_hw_reset` call `mcp2515_spi_trans` with chip select untouched.

## Main definitions

* `csTrans` — the chip-select framing shared by the four register routines
* `mcp2515ReadReg`, `mcp2515Read2regs`, `mcp2515WriteReg`, `mcp2515WriteBits`
* `mcp2515HwTx`, `mcp2515HwRxFrame`, `mcp2515HwReset`, `mcp2515HwProbe`
* `edgesDeselected`, `csHighGaps` — the framing observations of a line history

## Main results

* `framing_mcp2515HwProbe` — for every data-in, the probe clocks the eight edges of `RESET`
  with chip select high, and leaves no time between the two register reads when the reset's
  check passes
* `mcp2515HwTx_roundTrip` — `mcp2515_hw_tx` sends the transmit image and the request to
  send, and the receive image of that transmit image decodes to the frame
-/

namespace Mcp2515Banged

/-! ## Lines and delays -/

/-- `gpio_set_value(line, v)`. -/
def gpioSetValue (l : Line) (v : Bool) (s : Link) : Link := { s with trace := s.trace ++ [.set l v] }

/-- `udelay(us)`. -/
def udelay (us : Nat) (s : Link) : Link := { s with trace := s.trace ++ [.delay us] }

/-- `mdelay(ms)`. -/
def mdelay (ms : Nat) (s : Link) : Link := udelay (1000 * ms) s

/-- `MCP251X_OST_DELAY_MS`: the oscillator start-up wait. -/
def mcp251xOstDelayMs : Nat := 5

/-- The assignments `priv->spi_tx_buf[i] = bytes[i]` that precede a transfer. -/
def loadTxBuf (bytes : List (BitVec 8)) (s : Link) : Link :=
  { s with spiTxBuf := fun i => if i < bytes.length then bytes.getD i 0 else s.spiTxBuf i }

/-! ## The register routines -/

section Routines

variable (din : DataIn)

/-- Chip select low, `mcp2515_spi_trans(priv, len)`, `udelay(1)`, chip select high. -/
def csTrans (len : Nat) (s : Link) : Link :=
  gpioSetValue .cs true (udelay 1 (mcp2515SpiTrans din len (gpioSetValue .cs false s)))

/-- `mcp2515_read_reg`: `READ reg` framed over three bytes, the third byte read back. -/
def mcp2515ReadReg (reg : BitVec 8) (s : Link) : BitVec 8 × Link :=
  let s := csTrans din 3 (loadTxBuf [instructionRead, reg] s)
  (s.spiRxBuf 2, s)

/-- `mcp2515_read_2regs`: `READ reg` framed over four bytes, the last two read back. -/
def mcp2515Read2regs (reg : BitVec 8) (s : Link) : (BitVec 8 × BitVec 8) × Link :=
  let s := csTrans din 4 (loadTxBuf [instructionRead, reg] s)
  ((s.spiRxBuf 2, s.spiRxBuf 3), s)

/-- `mcp2515_write_reg`: `WRITE reg val` framed. -/
def mcp2515WriteReg (reg val : BitVec 8) (s : Link) : Link :=
  csTrans din 3 (loadTxBuf [instructionWrite, reg, val] s)

/-- `mcp2515_write_bits`: `BIT MODIFY reg mask val` framed. -/
def mcp2515WriteBits (reg mask val : BitVec 8) (s : Link) : Link :=
  csTrans din 4 (loadTxBuf [instructionBitModify, reg, mask, val] s)

/-- `mcp2515_hw_sleep`: request sleep mode. -/
def mcp2515HwSleep (s : Link) : Link := mcp2515WriteReg din canctrl canctrlReqopSleep s

/-! ## The mailbox routines -/

/-- `mcp2515_hw_tx_frame`: `memcpy(spi_tx_buf, buf, TXBDAT_OFF + len)` and one transfer of
those bytes. The mailbox index is unused by the source. -/
def mcp2515HwTxFrame (buf : Nat → BitVec 8) (len : Nat) (s : Link) : Link :=
  mcp2515SpiTrans din (txbdatOff + len)
    { s with spiTxBuf := fun i => if i < txbdatOff + len then buf i else s.spiTxBuf i }

/-- `mcp2515_hw_tx`: load the transmit image into mailbox `txBufIdx`, then request to send it. -/
def mcp2515HwTx (frame : CanFrame) (txBufIdx : Nat) (s : Link) : Link :=
  let s := mcp2515HwTxFrame din (mcp2515HwTxBuf frame txBufIdx) frame.canDlc.toNat s
  mcp2515SpiTrans din 1 (loadTxBuf [instructionRts (1 <<< txBufIdx)] s)

/-- `mcp2515_hw_rx_frame`: `READ RX BUFFER bufIdx` over a whole receive buffer, and the
copy of `spi_rx_buf` into the caller's `buf`. -/
def mcp2515HwRxFrame (bufIdx : Nat) (s : Link) : (Nat → BitVec 8) × Link :=
  let s := mcp2515SpiTrans din spiTransferBufLen (loadTxBuf [instructionReadRxb bufIdx] s)
  (fun i => if i < spiTransferBufLen then s.spiRxBuf i else 0, s)

/-- The failure codes of the driver's routines. -/
inductive Errno
  | enodev
  | ebusy
  | eopnotsupp
  deriving DecidableEq, Repr

/-- `mcp2515_hw_reset`: wait, send `RESET`, wait, and check that `CANSTAT` reports
configuration mode. The source's test of the transfer's result is dead: `mcp2515_spi_trans`
always returns 0. -/
def mcp2515HwReset (s : Link) : Except Errno Unit × Link :=
  let s := mdelay mcp251xOstDelayMs s
  let s := mcp2515SpiTrans din 1 (loadTxBuf [instructionReset] s)
  let s := mdelay mcp251xOstDelayMs s
  let (reg, s) := mcp2515ReadReg din canstat s
  (if reg &&& canctrlReqopMask != canctrlReqopConf then .error .enodev else .ok (), s)

/-- `mcp2515_hw_probe`: reset, then check the power-up default of `CANCTRL`. -/
def mcp2515HwProbe (s : Link) : Except Errno Unit × Link :=
  match mcp2515HwReset din s with
  | (.error e, s) => (.error e, s)
  | (.ok (), s) =>
    let (ctrl, s) := mcp2515ReadReg din canctrl s
    (if ctrl &&& 0x17 != 0x07 then .error .enodev else .ok (), s)

end Routines

/-! ## Transfer bookkeeping -/

section Bookkeeping

variable (din : DataIn) (len : Nat) (s : Link)

@[simp] theorem xfers_mcp2515SpiTrans :
    (mcp2515SpiTrans din len s).xfers = s.xfers ++ [(List.range len).map s.spiTxBuf] :=
  (mcp2515SpiTrans_spec din len s).choose_spec.2.2.2.2

@[simp] theorem spiTxBuf_mcp2515SpiTrans : (mcp2515SpiTrans din len s).spiTxBuf = s.spiTxBuf :=
  (mcp2515SpiTrans_spec din len s).choose_spec.2.2.2.1

/-- `mcp2515_hw_tx` hands `mcp2515_spi_trans` the first `6 + can_dlc` bytes of the transmit
image, then the request to send of its mailbox alone. -/
theorem xfers_mcp2515HwTx (f : CanFrame) (n : Nat) :
    (mcp2515HwTx din f n s).xfers = s.xfers ++
      [(List.range (txbdatOff + f.canDlc.toNat)).map (mcp2515HwTxBuf f n),
        [instructionRts (1 <<< n)]] := by
  simp only [mcp2515HwTx, mcp2515HwTxFrame, loadTxBuf, xfers_mcp2515SpiTrans,
    List.append_assoc, List.singleton_append]
  congr 2
  exact List.map_congr_left fun i hi => if_pos (List.mem_range.1 hi)

end Bookkeeping

/-! ## Chip-select framing -/

/-- The rising clock edges of a history that come while chip select is high, `hi` being its
level at the start. -/
def edgesDeselected : List LineEvent → Bool → Nat
  | [], _ => 0
  | .set .cs v :: h, _ => edgesDeselected h v
  | .set .clk true :: h, hi => hi.toNat + edgesDeselected h hi
  | _ :: h, hi => edgesDeselected h hi

/-- The time chip select stays high between each of its rising edges and the next falling
edge, in order: `g` is the delay since the last rise, `none` while chip select is low. -/
def csHighGaps : List LineEvent → Option Nat → List Nat
  | [], _ => []
  | .set .cs true :: h, g => csHighGaps h (some (g.getD 0))
  | .set .cs false :: h, some d => d :: csHighGaps h none
  | .delay us :: h, some d => csHighGaps h (some (d + us))
  | _ :: h, g => csHighGaps h g

@[simp] theorem trace_loadTxBuf (bytes : List (BitVec 8)) (s : Link) :
    (loadTxBuf bytes s).trace = s.trace := rfl

@[simp] theorem trace_mdelay (ms : Nat) (s : Link) :
    (mdelay ms s).trace = s.trace ++ [.delay (1000 * ms)] := rfl

theorem edgesDeselected_delay (us : Nat) (h : List LineEvent) (hi : Bool) :
    edgesDeselected (.delay us :: h) hi = edgesDeselected h hi := rfl

theorem csHighGaps_delay_none (us : Nat) (h : List LineEvent) :
    csHighGaps (.delay us :: h) none = csHighGaps h none := rfl

/-- Whole bytes of bit cycles clock eight edges a byte, deselected when chip select is high,
and leave chip select alone. -/
theorem edgesDeselected_byteCycles_append (l : List Nat) (tx : Nat → BitVec 8) (v : Nat → Bool)
    (h : List LineEvent) (hi : Bool) :
    edgesDeselected (l.flatMap (byteCycles tx v) ++ h) hi =
      8 * l.length * hi.toNat + edgesDeselected h hi := by
  induction l with
  | nil => simp
  | cons b l ih =>
    have hbit : ∀ k h, edgesDeselected (bitCycle (topBit (tx b)) k ++ h) hi =
        hi.toNat + edgesDeselected h hi := by
      intro k h
      simp [bitCycle, edgesDeselected]
    simp only [List.flatMap_cons, byteCycles, List.range_succ, List.range_zero,
      List.flatMap_append, List.flatMap_singleton, List.flatMap_nil, List.nil_append,
      List.append_assoc, hbit, ih, List.length_cons]
    cases hi <;> simp; omega

theorem csHighGaps_byteCycles_append (l : List Nat) (tx : Nat → BitVec 8) (v : Nat → Bool)
    (h : List LineEvent) (g : Option Nat) :
    csHighGaps (l.flatMap (byteCycles tx v) ++ h) g = csHighGaps h g := by
  induction l with
  | nil => rfl
  | cons b l ih =>
    have hbit : ∀ k h, csHighGaps (bitCycle (topBit (tx b)) k ++ h) g = csHighGaps h g := by
      intro k h
      cases g <;> simp [bitCycle, csHighGaps]
    simp only [List.flatMap_cons, byteCycles, List.range_succ, List.range_zero,
      List.flatMap_append, List.flatMap_singleton, List.flatMap_nil, List.nil_append,
      List.append_assoc, hbit, ih]

/-- The events of a register routine: chip select low, `len` bytes of bit cycles, the 1 us
delay, chip select high. -/
def csEvents (len : Nat) (tx : Nat → BitVec 8) (v : Nat → Bool) : List LineEvent :=
  .set .cs false :: ((List.range len).flatMap (byteCycles tx v) ++ [.delay 1, .set .cs true])

theorem trace_csTrans (din : DataIn) (len : Nat) (s : Link) :
    ∃ v, (csTrans din len s).trace = s.trace ++ csEvents len s.spiTxBuf v := by
  obtain ⟨v, htr, -⟩ := mcp2515SpiTrans_spec din len (gpioSetValue .cs false s)
  simp only [gpioSetValue] at htr
  exact ⟨v, by simp [csTrans, csEvents, gpioSetValue, udelay, htr]⟩

theorem edgesDeselected_csEvents (len : Nat) (tx : Nat → BitVec 8) (v : Nat → Bool)
    (rest : List LineEvent) (hi : Bool) :
    edgesDeselected (csEvents len tx v ++ rest) hi = edgesDeselected rest true := by
  simp [csEvents, edgesDeselected, edgesDeselected_byteCycles_append]

/-- A register routine ends the gap chip select was high for before it, and starts a new one
when it raises chip select. -/
theorem csHighGaps_csEvents (len : Nat) (tx : Nat → BitVec 8) (v : Nat → Bool)
    (rest : List LineEvent) (g : Option Nat) :
    csHighGaps (csEvents len tx v ++ rest) g = g.toList ++ csHighGaps rest (some 0) := by
  cases g <;> simp [csEvents, csHighGaps, csHighGaps_byteCycles_append]

/-- The events of `mcp2515_hw_reset`: the start-up wait, the eight bit cycles of `RESET`, the
wait after it, and the `CANSTAT` read. -/
theorem trace_mcp2515HwReset (din : DataIn) (s : Link) : ∃ tx₁ v₁ tx₂ v₂,
    (mcp2515HwReset din s).2.trace = s.trace ++ .delay 5000 ::
      ((List.range 1).flatMap (byteCycles tx₁ v₁) ++ .delay 5000 :: csEvents 3 tx₂ v₂) := by
  obtain ⟨v₁, h₁, -⟩ := mcp2515SpiTrans_spec din 1
    (loadTxBuf [instructionReset] (mdelay mcp251xOstDelayMs s))
  obtain ⟨v₂, h₂⟩ := trace_csTrans din 3 (loadTxBuf [instructionRead, canstat]
    (mdelay mcp251xOstDelayMs (mcp2515SpiTrans din 1 (loadTxBuf [instructionReset]
      (mdelay mcp251xOstDelayMs s)))))
  refine ⟨(loadTxBuf [instructionReset] (mdelay mcp251xOstDelayMs s)).spiTxBuf, v₁,
    (loadTxBuf [instructionRead, canstat] (mdelay mcp251xOstDelayMs (mcp2515SpiTrans din 1
      (loadTxBuf [instructionReset] (mdelay mcp251xOstDelayMs s))))).spiTxBuf, v₂, ?_⟩
  simp only [mcp2515HwReset, mcp2515ReadReg]
  rw [h₂, trace_loadTxBuf, trace_mdelay, h₁]
  simp [mcp251xOstDelayMs]

/-- The events of `mcp2515_hw_probe`: those of the reset, then the `CANCTRL` read when the
reset's check passed. -/
theorem trace_mcp2515HwProbe (din : DataIn) (s : Link) : ∃ tx₁ v₁ tx₂ v₂ tx₃ v₃,
    (mcp2515HwProbe din s).2.trace = s.trace ++ .delay 5000 ::
      ((List.range 1).flatMap (byteCycles tx₁ v₁) ++ .delay 5000 :: (csEvents 3 tx₂ v₂ ++
        if (mcp2515HwReset din s).1.isOk then csEvents 3 tx₃ v₃ else [])) := by
  obtain ⟨tx₁, v₁, tx₂, v₂, h⟩ := trace_mcp2515HwReset din s
  unfold mcp2515HwProbe
  rcases hr : mcp2515HwReset din s with ⟨r, s'⟩
  rw [hr] at h
  cases r with
  | error e => exact ⟨tx₁, v₁, tx₂, v₂, tx₂, v₂, by simpa [Except.isOk, Except.toBool] using h⟩
  | ok u =>
    obtain ⟨v₃, h₃⟩ := trace_csTrans din 3 (loadTxBuf [instructionRead, canctrl] s')
    refine ⟨tx₁, v₁, tx₂, v₂, (loadTxBuf [instructionRead, canctrl] s').spiTxBuf, v₃, ?_⟩
    simp only [mcp2515ReadReg]
    rw [h₃, trace_loadTxBuf, h]
    simp [Except.isOk, Except.toBool]

/-- For every data-in, the probe from an empty history with chip select high clocks exactly
the eight edges of `RESET` while deselected; and chip select stays high for no time at all
between the `CANSTAT` and `CANCTRL` reads, which happen exactly when the reset's check
passes. -/
theorem framing_mcp2515HwProbe (din : DataIn) (tx rx : Nat → BitVec 8)
    (xf : List (List (BitVec 8))) :
    edgesDeselected (mcp2515HwProbe din ⟨tx, rx, [], xf⟩).2.trace true = 8 ∧
    csHighGaps (mcp2515HwProbe din ⟨tx, rx, [], xf⟩).2.trace none =
      if (mcp2515HwReset din ⟨tx, rx, [], xf⟩).1.isOk then [0] else [] := by
  obtain ⟨tx₁, v₁, tx₂, v₂, tx₃, v₃, h⟩ := trace_mcp2515HwProbe din ⟨tx, rx, [], xf⟩
  rw [h, List.nil_append]
  split
  · rw [← List.append_nil (csEvents 3 tx₃ v₃)]
    simp only [edgesDeselected_delay, edgesDeselected_byteCycles_append, edgesDeselected_csEvents,
      csHighGaps_delay_none, csHighGaps_byteCycles_append, csHighGaps_csEvents]
    simp [edgesDeselected, csHighGaps]
  · simp only [edgesDeselected_delay, edgesDeselected_byteCycles_append, edgesDeselected_csEvents,
      csHighGaps_delay_none, csHighGaps_byteCycles_append, csHighGaps_csEvents, List.append_nil]
    simp [edgesDeselected, csHighGaps]

/-- The probe, on a chip whose `CANSTAT` reads `0x80` and whose `CANCTRL` reads 0: chip select
starts high (the probe requests it with `GPIOF_OUT_INIT_HIGH`), the eight clock edges of the
`RESET` byte come with chip select high, and chip select falls for the `CANCTRL` read at the
instant it rose after the `CANSTAT` read. -/
theorem mcp2515HwProbe_reset_deselected :
    edgesDeselected (mcp2515HwProbe (fun h => decide (h.countP (fun e => e matches .get _ _) = 24))
      ⟨fun _ => 0, fun _ => 0, [], []⟩).2.trace true = 8 ∧
    0 ∈ csHighGaps (mcp2515HwProbe (fun h => decide (h.countP (fun e => e matches .get _ _) = 24))
      ⟨fun _ => 0, fun _ => 0, [], []⟩).2.trace none := by
  obtain ⟨h8, hg⟩ := framing_mcp2515HwProbe
    (fun h => decide (h.countP (fun e => e matches .get _ _) = 24)) (fun _ => 0) (fun _ => 0) []
  refine ⟨h8, ?_⟩
  rw [hg, if_pos (by decide)]
  exact List.mem_singleton_self 0

/-! ## Transmit and receive images -/

/-- `mcp2515_hw_tx` transfers the `6 + can_dlc` bytes of a transmit image that starts with
`INSTRUCTION_LOAD_TXB(n)`, then `INSTRUCTION_RTS(1 << n)` alone; and the receive image the
controller makes of that transmit image decodes back to the frame. -/
theorem mcp2515HwTx_roundTrip (din : DataIn) (f : CanFrame) (n : Nat) (s : Link)
    (hdlc : f.canDlc.toNat ≤ 8)
    (hstd : hasFlag f.canId canEffFlag = false → (f.canId &&& canEffMask).toNat < 2 ^ 11) :
    ∃ t : List (BitVec 8),
      (mcp2515HwTx din f n s).xfers = s.xfers ++ [t, [instructionRts (1 <<< n)]] ∧
      t.length = txbdatOff + f.canDlc.toNat ∧ t.head? = some (instructionLoadTxb n) ∧
      ∀ b, RxImageOf t b → RecoversFrame f (mcp2515HwRxDecode b) := by
  refine ⟨_, xfers_mcp2515HwTx din s f n, by simp, ?_,
    fun b hb => mcp2515HwRxDecode_of_rxImageOf f n b hdlc hstd hb⟩
  rw [List.head?_map, List.head?_range, if_neg (by unfold txbdatOff; omega)]
  exact congrArg some (mcp2515HwTxBuf_ctrl f n)

/-- The standard frame `0x123` with the two data bytes `AA BB`, sent from mailbox 0. -/
theorem mcp2515HwTx_roundTrip_std :
    (BitVec.toNat (2 : BitVec 8) ≤ 8 ∧
      (hasFlag 0x123 canEffFlag = false → ((0x123 : BitVec 32) &&& canEffMask).toNat < 2 ^ 11)) ∧
    ∃ t : List (BitVec 8),
      (mcp2515HwTx (fun _ => false) ⟨0x123, 2, fun i => if i.val = 0 then 0xAA else 0xBB⟩ 0
        ⟨fun _ => 0, fun _ => 0, [], []⟩).xfers = [t, [instructionRts (1 <<< 0)]] ∧
      t.length = txbdatOff + 2 ∧ t.head? = some (instructionLoadTxb 0) ∧
      ∀ b, RxImageOf t b →
        RecoversFrame ⟨0x123, 2, fun i => if i.val = 0 then 0xAA else 0xBB⟩ (mcp2515HwRxDecode b) :=
  ⟨⟨by decide, by decide⟩, mcp2515HwTx_roundTrip (fun _ => false)
    ⟨0x123, 2, fun i => if i.val = 0 then 0xAA else 0xBB⟩ 0 ⟨fun _ => 0, fun _ => 0, [], []⟩
    (by decide) (by decide)⟩

end Mcp2515Banged
