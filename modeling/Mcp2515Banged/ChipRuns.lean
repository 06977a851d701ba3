import Mcp2515Banged.Chip

/-!
# Runs of the line-level routines against the chip

The driver's routines, run one after another against the controller of `Mcp2515Banged.Chip`,
starting with chip select high. The register routines reach the chip as instruction `0x00`,
because each byte leaves the driver as eight copies of its top bit; the mailbox transfers and
`RESET` are clocked with chip select high and ignored. So the chip keeps its register file
whatever data-in shows, and it never drives data-in while the driver samples it: every
sample is the level the board holds the undriven line at, as if no chip were there.

## Main definitions

* `Chip.Mute`, `Chip.Ready` — the chip leaving data-in undriven, and ahead of a byte that will
  not make it answer
* `Chip.Silent` — a stretch of line history after which the chip is idle with its registers
* `LineOp`, `lineRun` — the line-level routines of the driver and runs of them

## Main results

* `lineRun_silent` — every run keeps the chip idle with its register file, for any data-in
* `lineRun_chip_unconnected` — every run against the chip is the run against the bare line
-/

namespace Mcp2515Banged

/-! ## A chip that does not answer -/

/-- The chip leaves data-in undriven: it is not selected, or the first byte of its
transaction, as far as it has come in, is clear. -/
def Chip.Mute (d : Chip) : Prop := d.csHigh = true ∨ ∀ b ∈ d.bits.take 8, b = false

/-- The chip ahead of a byte whose top bit is `o`: not selected, or selected with a clear first
byte that is either complete or continued by `o = false`. -/
def Chip.Ready (o : Bool) (d : Chip) : Prop :=
  d.csHigh = true ∨ (∀ b ∈ d.bits.take 8, b = false) ∧ (8 ≤ d.bits.length ∨ o = false)

/-- The first whole byte of a sample stream is made of its first eight samples. -/
theorem bytesOfBits_eq_cons {bits : List Bool} {x : BitVec 8} {xs : List (BitVec 8)}
    (h : bytesOfBits bits = x :: xs) :
    ∃ b0 b1 b2 b3 b4 b5 b6 b7 rest, bits = b0 :: b1 :: b2 :: b3 :: b4 :: b5 :: b6 :: b7 :: rest ∧
      x = byteOfBits [b0, b1, b2, b3, b4, b5, b6, b7] := by
  unfold bytesOfBits at h
  split at h
  · exact ⟨_, _, _, _, _, _, _, _, _, rfl, (List.cons.inj h).1.symm⟩
  · cases h

/-- A mute chip leaves data-in at the board's level. -/
theorem Chip.miso_of_mute {d : Chip} (h : d.Mute) (fl : Bool) : d.miso fl = fl := by
  unfold Chip.miso
  split
  · next ins a _ heq =>
    rcases h with h | h
    · simp [h]
    · obtain ⟨b0, b1, b2, b3, b4, b5, b6, b7, rest, hb, rfl⟩ := bytesOfBits_eq_cons heq
      simp only [hb, List.take, List.mem_cons, List.not_mem_nil, or_false, forall_eq_or_imp,
        forall_eq] at h
      obtain ⟨rfl, rfl, rfl, rfl, rfl, rfl, rfl, rfl⟩ := h
      have h0 : (byteOfBits [false, false, false, false, false, false, false, false] ==
        instructionRead) = false := by decide
      simp [h0]
  · rfl

/-- Appending levels to a clear first byte keeps it clear, when the byte is complete or the
levels are low. -/
theorem take_eight_append_replicate {bits : List Bool} {o : Bool}
    (hb : ∀ b ∈ bits.take 8, b = false) (ho : 8 ≤ bits.length ∨ o = false) (m : Nat) :
    ∀ b ∈ (bits ++ List.replicate m o).take 8, b = false := by
  intro b hm
  rw [List.take_append_eq_append_take, List.mem_append] at hm
  rcases hm with hm | hm
  · exact hb b hm
  · rcases ho with ho | rfl
    · simp [Nat.sub_eq_zero_of_le ho] at hm
    · exact List.eq_of_mem_replicate (List.mem_of_mem_take hm)

/-! ## The chip over bit cycles -/

/-- A chip that is not selected ignores every event but chip select falling. -/
theorem Chip.step_deselected {d : Chip} (hc : d.csHigh = true) {e : LineEvent}
    (he : e ≠ .set .cs false) :
    (d.step e).csHigh = true ∧ (d.step e).regs = d.regs ∧ (d.step e).bits = d.bits := by
  unfold Chip.step
  split <;> simp_all

theorem Chip.run_deselected {d : Chip} (hc : d.csHigh = true) {h : List LineEvent}
    (hh : LineEvent.set .cs false ∉ h) :
    (d.run h).csHigh = true ∧ (d.run h).regs = d.regs ∧ (d.run h).bits = d.bits := by
  induction h generalizing d with
  | nil => exact ⟨hc, rfl, rfl⟩
  | cons e h ih =>
    rw [List.mem_cons, not_or] at hh
    obtain ⟨h1, h2, h3⟩ := Chip.step_deselected hc (Ne.symm hh.1)
    obtain ⟨g1, g2, g3⟩ := ih h1 hh.2
    exact ⟨g1, g2.trans h2, g3.trans h3⟩

/-- Bit cycles, selected or not: a selected chip appends the driven level once per cycle. -/
theorem Chip.run_bitCycles_any (d : Chip) (o : Bool) (w : Nat → Bool) (l : List Nat) :
    (d.run (l.flatMap fun k => bitCycle o (w k))).csHigh = d.csHigh ∧
    (d.run (l.flatMap fun k => bitCycle o (w k))).regs = d.regs ∧
    (d.run (l.flatMap fun k => bitCycle o (w k))).bits =
      if d.csHigh then d.bits else d.bits ++ List.replicate l.length o := by
  cases hc : d.csHigh
  · simpa using run_bitCycles d hc o w l
  · simpa using Chip.run_deselected hc (h := l.flatMap fun k => bitCycle o (w k))
      (by simp [bitCycle])

/-- The rising edge of a bit cycle, before the sample: a selected chip appends the level. -/
theorem Chip.run_rise (d : Chip) (o : Bool) :
    (d.run [.set .clk false, .set .mosi o, .set .clk true]).csHigh = d.csHigh ∧
    (d.run [.set .clk false, .set .mosi o, .set .clk true]).bits =
      if d.csHigh then d.bits else d.bits ++ [o] := by
  cases hc : d.csHigh <;> simp [Chip.step, hc]

/-- A ready chip stays mute through the rising edges of its byte. -/
theorem Chip.Ready.mute_rise {d : Chip} {o : Bool} (hr : d.Ready o) (w : Nat → Bool)
    (l : List Nat) :
    ((d.run (l.flatMap fun k => bitCycle o (w k))).run
      [.set .clk false, .set .mosi o, .set .clk true]).Mute := by
  obtain ⟨h1, -, h3⟩ := Chip.run_bitCycles_any d o w l
  obtain ⟨g1, g3⟩ := Chip.run_rise (d.run (l.flatMap fun k => bitCycle o (w k))) o
  rcases hr with hc | ⟨hb, ho⟩
  · exact .inl (by rw [g1, h1, hc])
  · right
    rw [g3, h1, h3]
    split
    · simp_all
    · rw [List.append_assoc, ← List.replicate_succ']
      exact take_eight_append_replicate hb ho _

/-- After a whole byte a ready chip is ready for any byte. -/
theorem Chip.Ready.byte {d : Chip} {o : Bool} (hr : d.Ready o) (w : Nat → Bool) (o' : Bool) :
    (d.run ((List.range 8).flatMap fun k => bitCycle o (w k))).Ready o' := by
  obtain ⟨h1, -, h3⟩ := Chip.run_bitCycles_any d o w (List.range 8)
  cases hc : d.csHigh
  · obtain hc' | ⟨hb, ho⟩ := hr
    · exact absurd hc' (by simp [hc])
    · right
      rw [h3, hc, if_neg Bool.false_ne_true]
      exact ⟨take_eight_append_replicate hb ho 8, .inl (by simp)⟩
  · exact .inl (h1.trans hc)

/-! ## Silence over a stretch of history -/

/-- From history `h` to history `h'` the chip came back to idle with its registers as they
were. -/
def Chip.Silent (c : Chip) (h h' : List LineEvent) : Prop :=
  (c.run h').csHigh = true ∧ (c.run h').regs = (c.run h).regs

section Silence

variable {c : Chip} {h h' h'' : List LineEvent}

theorem Chip.Silent.refl (hc : (c.run h).csHigh = true) : c.Silent h h := ⟨hc, rfl⟩

theorem Chip.Silent.trans (h₁ : c.Silent h h') (h₂ : c.Silent h' h'') : c.Silent h h'' :=
  ⟨h₂.1, h₂.2.trans h₁.2⟩

theorem Chip.silent_mdelay {s : Link} (hc : (c.run s.trace).csHigh = true) (ms : Nat) :
    c.Silent s.trace (mdelay ms s).trace :=
  ⟨by simpa [mdelay, udelay] using hc, by simp [mdelay, udelay]⟩

end Silence

@[simp] theorem Chip.csHigh_step_csRise (d : Chip) : (d.step (.set .cs true)).csHigh = true := by
  by_cases hc : d.csHigh <;> simp [Chip.step, hc]

theorem spiTxBuf_loadTxBuf_zero (x : BitVec 8) (xs : List (BitVec 8)) (s : Link) :
    (loadTxBuf (x :: xs) s).spiTxBuf 0 = x := by
  simp [loadTxBuf]

/-- The link `mcp2515_hw_reset` leaves is the one its `CANSTAT` read leaves. -/
theorem mcp2515HwReset_snd (din : DataIn) (s : Link) :
    (mcp2515HwReset din s).2 = (mcp2515ReadReg din canstat (mdelay mcp251xOstDelayMs
      (mcp2515SpiTrans din 1 (loadTxBuf [instructionReset] (mdelay mcp251xOstDelayMs s))))).2 :=
  rfl

/-! ## The routines keep the chip's registers, whatever data-in shows -/

section Routines

variable (c : Chip) (din : DataIn)

/-- A register routine's framing, its first byte with the top bit clear, brings an idle chip
back to idle with its registers. -/
theorem csTrans_silent (len : Nat) (s : Link) (hc : (c.run s.trace).csHigh = true)
    (h0 : topBit (s.spiTxBuf 0) = false) : c.Silent s.trace (csTrans din len s).trace := by
  have hregs := regs_run_csTrans (c.run s.trace) din len s hc h0
  obtain ⟨v, hv⟩ := trace_csTrans din len s
  rw [hv, List.drop_left] at hregs
  rw [hv]
  exact ⟨by simp [csEvents], by simpa using hregs⟩

/-- A transfer with chip select left high passes an idle chip by. -/
theorem mcp2515SpiTrans_silent (len : Nat) (s : Link) (hc : (c.run s.trace).csHigh = true) :
    c.Silent s.trace (mcp2515SpiTrans din len s).trace := by
  obtain ⟨v, htr, -⟩ := mcp2515SpiTrans_spec din len s
  obtain ⟨h1, h2, -⟩ := Chip.run_deselected hc
    (h := (List.range len).flatMap (byteCycles s.spiTxBuf v)) (by simp [byteCycles, bitCycle])
  unfold Chip.Silent
  rw [htr, Chip.run_append]
  exact ⟨h1, h2⟩

variable (s : Link) (hc : (c.run s.trace).csHigh = true)
include hc

theorem mcp2515ReadReg_silent (reg : BitVec 8) :
    c.Silent s.trace (mcp2515ReadReg din reg s).2.trace :=
  csTrans_silent c din 3 (loadTxBuf [instructionRead, reg] s) hc
    (by rw [spiTxBuf_loadTxBuf_zero]; decide)

theorem mcp2515Read2regs_silent (reg : BitVec 8) :
    c.Silent s.trace (mcp2515Read2regs din reg s).2.trace :=
  csTrans_silent c din 4 (loadTxBuf [instructionRead, reg] s) hc
    (by rw [spiTxBuf_loadTxBuf_zero]; decide)

theorem mcp2515WriteReg_silent (reg val : BitVec 8) :
    c.Silent s.trace (mcp2515WriteReg din reg val s).trace :=
  csTrans_silent c din 3 (loadTxBuf [instructionWrite, reg, val] s) hc
    (by rw [spiTxBuf_loadTxBuf_zero]; decide)

theorem mcp2515WriteBits_silent (reg mask val : BitVec 8) :
    c.Silent s.trace (mcp2515WriteBits din reg mask val s).trace :=
  csTrans_silent c din 4 (loadTxBuf [instructionBitModify, reg, mask, val] s) hc
    (by rw [spiTxBuf_loadTxBuf_zero]; decide)

theorem mcp2515HwTxFrame_silent (buf : Nat → BitVec 8) (len : Nat) :
    c.Silent s.trace (mcp2515HwTxFrame din buf len s).trace :=
  mcp2515SpiTrans_silent c din (txbdatOff + len)
    { s with spiTxBuf := fun i => if i < txbdatOff + len then buf i else s.spiTxBuf i } hc

theorem mcp2515HwTx_silent (frame : CanFrame) (txBufIdx : Nat) :
    c.Silent s.trace (mcp2515HwTx din frame txBufIdx s).trace :=
  have h₁ := mcp2515HwTxFrame_silent c din s hc (mcp2515HwTxBuf frame txBufIdx) frame.canDlc.toNat
  h₁.trans (mcp2515SpiTrans_silent c din 1 (loadTxBuf [instructionRts (1 <<< txBufIdx)]
    (mcp2515HwTxFrame din (mcp2515HwTxBuf frame txBufIdx) frame.canDlc.toNat s)) h₁.1)

theorem mcp2515HwRxFrame_silent (bufIdx : Nat) :
    c.Silent s.trace (mcp2515HwRxFrame din bufIdx s).2.trace :=
  mcp2515SpiTrans_silent c din spiTransferBufLen (loadTxBuf [instructionReadRxb bufIdx] s) hc

theorem mcp2515HwReset_silent : c.Silent s.trace (mcp2515HwReset din s).2.trace := by
  have h₁ := Chip.silent_mdelay hc mcp251xOstDelayMs
  have h₂ := mcp2515SpiTrans_silent c din 1
    (loadTxBuf [instructionReset] (mdelay mcp251xOstDelayMs s)) h₁.1
  have h₃ := Chip.silent_mdelay h₂.1 mcp251xOstDelayMs
  rw [mcp2515HwReset_snd]
  exact h₁.trans (h₂.trans (h₃.trans (mcp2515ReadReg_silent c din (mdelay mcp251xOstDelayMs
    (mcp2515SpiTrans din 1 (loadTxBuf [instructionReset] (mdelay mcp251xOstDelayMs s)))) h₃.1
    canstat)))

theorem mcp2515HwProbe_silent : c.Silent s.trace (mcp2515HwProbe din s).2.trace := by
  have h₁ := mcp2515HwReset_silent c din s hc
  unfold mcp2515HwProbe
  split
  · next heq => rwa [heq] at h₁
  · next s' heq =>
    rw [heq] at h₁
    exact h₁.trans (mcp2515ReadReg_silent c din s' h₁.1 canctrl)

end Routines

/-! ## Runs of routines -/

/-- A call of one of the driver's routines that drive the lines. -/
inductive LineOp
  | readReg (reg : BitVec 8)
  | read2regs (reg : BitVec 8)
  | writeReg (reg val : BitVec 8)
  | writeBits (reg mask val : BitVec 8)
  | hwSleep
  | hwTx (frame : CanFrame) (txBufIdx : Nat)
  | hwRxFrame (bufIdx : Nat)
  | hwReset
  | hwProbe

/-- The link after one routine. What a routine returns is computed from the samples its
transfers took, which the link's history records. -/
def LineOp.run (din : DataIn) (s : Link) : LineOp → Link
  | .readReg reg => (mcp2515ReadReg din reg s).2
  | .read2regs reg => (mcp2515Read2regs din reg s).2
  | .writeReg reg val => mcp2515WriteReg din reg val s
  | .writeBits reg mask val => mcp2515WriteBits din reg mask val s
  | .hwSleep => mcp2515HwSleep din s
  | .hwTx frame txBufIdx => mcp2515HwTx din frame txBufIdx s
  | .hwRxFrame bufIdx => (mcp2515HwRxFrame din bufIdx s).2
  | .hwReset => (mcp2515HwReset din s).2
  | .hwProbe => (mcp2515HwProbe din s).2

/-- The link after the routines of `ops`, in order. -/
def lineRun (din : DataIn) (ops : List LineOp) (s : Link) : Link := ops.foldl (LineOp.run din) s

@[simp] theorem lineRun_nil (din : DataIn) (s : Link) : lineRun din [] s = s := rfl

@[simp] theorem lineRun_cons (din : DataIn) (op : LineOp) (ops : List LineOp) (s : Link) :
    lineRun din (op :: ops) s = lineRun din ops (op.run din s) := rfl

/-- One routine brings an idle chip back to idle with its registers. -/
theorem LineOp.run_silent (c : Chip) (din : DataIn) (op : LineOp) (s : Link)
    (hc : (c.run s.trace).csHigh = true) : c.Silent s.trace (op.run din s).trace := by
  cases op with
  | readReg reg => exact mcp2515ReadReg_silent c din s hc reg
  | read2regs reg => exact mcp2515Read2regs_silent c din s hc reg
  | writeReg reg val => exact mcp2515WriteReg_silent c din s hc reg val
  | writeBits reg mask val => exact mcp2515WriteBits_silent c din s hc reg mask val
  | hwSleep => exact mcp2515WriteReg_silent c din s hc canctrl canctrlReqopSleep
  | hwTx frame txBufIdx => exact mcp2515HwTx_silent c din s hc frame txBufIdx
  | hwRxFrame bufIdx => exact mcp2515HwRxFrame_silent c din s hc bufIdx
  | hwReset => exact mcp2515HwReset_silent c din s hc
  | hwProbe => exact mcp2515HwProbe_silent c din s hc

/-- Every run of the driver's routines against a chip that starts idle, whatever data-in
shows, brings the chip back to idle after each routine with its register file as it was. -/
theorem lineRun_silent (c : Chip) (din : DataIn) (ops : List LineOp) (s : Link)
    (hc : (c.run s.trace).csHigh = true) : c.Silent s.trace (lineRun din ops s).trace := by
  induction ops generalizing s with
  | nil => exact Chip.Silent.refl hc
  | cons op ops ih =>
    have h := LineOp.run_silent c din op s hc
    exact h.trans (ih _ h.1)

/-- A chip with every register at its reset value 0, idle. -/
def idleChip : Chip := ⟨fun _ => 0, true, false, false, []⟩

/-- A link with empty buffers and no history. -/
def emptyLink : Link := ⟨fun _ => 0, fun _ => 0, [], []⟩

theorem lineRun_silent_probeThenWrite :
    (idleChip.run emptyLink.trace).csHigh = true ∧
      idleChip.Silent emptyLink.trace
        (lineRun (idleChip.dataIn fun _ => true) [.hwProbe, .writeReg canctrl 0x80,
          .readReg canctrl] emptyLink).trace :=
  ⟨rfl, lineRun_silent idleChip _ _ emptyLink rfl⟩

/-! ## The chip never drives a sample -/

section Unconnected

variable (c : Chip) (float : DataIn)

/-- One bit cycle shifts in the same sample from two data-in lines that agree after its
rising edge. -/
theorem shiftBit_congr {din din' : DataIn} {x : BitVec 8} {st : BitVec 8 × List LineEvent}
    (h : din (st.2 ++ [.set .clk false, .set .mosi (topBit x), .set .clk true]) =
      din' (st.2 ++ [.set .clk false, .set .mosi (topBit x), .set .clk true])) :
    shiftBit din x st = shiftBit din' x st := by
  simp only [shiftBit, h]

/-- The inner loop against a ready chip samples the bare line. -/
theorem shiftBit_iterate_dataIn (x d : BitVec 8) (h : List LineEvent)
    (hr : (c.run h).Ready (topBit x)) (m : Nat) :
    (shiftBit (c.dataIn float) x)^[m] (d, h) = (shiftBit float x)^[m] (d, h) := by
  induction m with
  | zero => rw [Function.iterate_zero_apply, Function.iterate_zero_apply]
  | succ m ih =>
    rw [Function.iterate_succ_apply', Function.iterate_succ_apply', ih]
    apply shiftBit_congr
    rw [shiftBit_iterate_trace]
    simp only [Chip.dataIn, Chip.run_append]
    exact Chip.miso_of_mute (hr.mute_rise _ (List.range m)) _

/-- The outer loop against a ready chip is the loop against the bare line. -/
theorem spiTransLoop_dataIn (i n : Nat) (s : Link)
    (hr : (c.run s.trace).Ready (topBit (s.spiTxBuf i))) :
    spiTransLoop (c.dataIn float) i n s = spiTransLoop float i n s := by
  induction n generalizing i s with
  | zero => rw [spiTransLoop, spiTransLoop]
  | succ n ih =>
    rw [spiTransLoop, spiTransLoop, shiftBit_iterate_dataIn c float _ 0 _ hr 8]
    apply ih
    rw [shiftBit_iterate_trace, Chip.run_append]
    exact hr.byte _ _

theorem mcp2515SpiTrans_dataIn (len : Nat) (s : Link)
    (hr : (c.run s.trace).Ready (topBit (s.spiTxBuf 0))) :
    mcp2515SpiTrans (c.dataIn float) len s = mcp2515SpiTrans float len s :=
  spiTransLoop_dataIn c float 0 len _ hr

/-- A register routine's framing from an idle chip, its first byte with the top bit clear,
samples the bare line. -/
theorem csTrans_dataIn (len : Nat) (s : Link) (hc : (c.run s.trace).csHigh = true)
    (h0 : topBit (s.spiTxBuf 0) = false) :
    csTrans (c.dataIn float) len s = csTrans float len s := by
  rw [csTrans, csTrans, mcp2515SpiTrans_dataIn c float len (gpioSetValue .cs false s)
    (.inr ⟨by simp [gpioSetValue, Chip.step_csFall hc], .inr h0⟩)]

variable (s : Link) (hc : (c.run s.trace).csHigh = true)
include hc

theorem mcp2515ReadReg_dataIn (reg : BitVec 8) :
    mcp2515ReadReg (c.dataIn float) reg s = mcp2515ReadReg float reg s := by
  rw [mcp2515ReadReg, mcp2515ReadReg,
    csTrans_dataIn c float 3 (loadTxBuf [instructionRead, reg] s) hc
      (by rw [spiTxBuf_loadTxBuf_zero]; decide)]

theorem mcp2515Read2regs_dataIn (reg : BitVec 8) :
    mcp2515Read2regs (c.dataIn float) reg s = mcp2515Read2regs float reg s := by
  rw [mcp2515Read2regs, mcp2515Read2regs,
    csTrans_dataIn c float 4 (loadTxBuf [instructionRead, reg] s) hc
      (by rw [spiTxBuf_loadTxBuf_zero]; decide)]

theorem mcp2515WriteReg_dataIn (reg val : BitVec 8) :
    mcp2515WriteReg (c.dataIn float) reg val s = mcp2515WriteReg float reg val s :=
  csTrans_dataIn c float 3 (loadTxBuf [instructionWrite, reg, val] s) hc
    (by rw [spiTxBuf_loadTxBuf_zero]; decide)

theorem mcp2515WriteBits_dataIn (reg mask val : BitVec 8) :
    mcp2515WriteBits (c.dataIn float) reg mask val s = mcp2515WriteBits float reg mask val s :=
  csTrans_dataIn c float 4 (loadTxBuf [instructionBitModify, reg, mask, val] s) hc
    (by rw [spiTxBuf_loadTxBuf_zero]; decide)

theorem mcp2515HwTxFrame_dataIn (buf : Nat → BitVec 8) (len : Nat) :
    mcp2515HwTxFrame (c.dataIn float) buf len s = mcp2515HwTxFrame float buf len s :=
  mcp2515SpiTrans_dataIn c float (txbdatOff + len)
    { s with spiTxBuf := fun i => if i < txbdatOff + len then buf i else s.spiTxBuf i } (.inl hc)

theorem mcp2515HwTx_dataIn (frame : CanFrame) (txBufIdx : Nat) :
    mcp2515HwTx (c.dataIn float) frame txBufIdx s = mcp2515HwTx float frame txBufIdx s := by
  have h₁ := mcp2515HwTxFrame_silent c float s hc (mcp2515HwTxBuf frame txBufIdx)
    frame.canDlc.toNat
  rw [mcp2515HwTx, mcp2515HwTx, mcp2515HwTxFrame_dataIn c float s hc,
    mcp2515SpiTrans_dataIn c float 1 (loadTxBuf [instructionRts (1 <<< txBufIdx)]
      (mcp2515HwTxFrame float (mcp2515HwTxBuf frame txBufIdx) frame.canDlc.toNat s)) (.inl h₁.1)]

theorem mcp2515HwRxFrame_dataIn (bufIdx : Nat) :
    mcp2515HwRxFrame (c.dataIn float) bufIdx s = mcp2515HwRxFrame float bufIdx s := by
  rw [mcp2515HwRxFrame, mcp2515HwRxFrame,
    mcp2515SpiTrans_dataIn c float _ (loadTxBuf [instructionReadRxb bufIdx] s) (.inl hc)]

theorem mcp2515HwReset_dataIn : mcp2515HwReset (c.dataIn float) s = mcp2515HwReset float s := by
  have h₁ := Chip.silent_mdelay hc mcp251xOstDelayMs
  have h₂ := mcp2515SpiTrans_silent c float 1
    (loadTxBuf [instructionReset] (mdelay mcp251xOstDelayMs s)) h₁.1
  have h₃ := Chip.silent_mdelay h₂.1 mcp251xOstDelayMs
  simp only [mcp2515HwReset]
  rw [mcp2515SpiTrans_dataIn c float 1 (loadTxBuf [instructionReset] (mdelay mcp251xOstDelayMs s))
    (.inl h₁.1), mcp2515ReadReg_dataIn c float (mdelay mcp251xOstDelayMs
      (mcp2515SpiTrans float 1 (loadTxBuf [instructionReset] (mdelay mcp251xOstDelayMs s)))) h₃.1]

theorem mcp2515HwProbe_dataIn : mcp2515HwProbe (c.dataIn float) s = mcp2515HwProbe float s := by
  have h₁ := mcp2515HwReset_silent c float s hc
  unfold mcp2515HwProbe
  rw [mcp2515HwReset_dataIn c float s hc]
  split
  · rfl
  · next s' heq =>
    rw [heq] at h₁
    rw [mcp2515ReadReg_dataIn c float s' h₁.1]

end Unconnected

/-- One routine against an idle chip is the routine against the bare line. -/
theorem LineOp.run_dataIn (c : Chip) (float : DataIn) (op : LineOp) (s : Link)
    (hc : (c.run s.trace).csHigh = true) : op.run (c.dataIn float) s = op.run float s := by
  cases op with
  | readReg reg => exact congrArg Prod.snd (mcp2515ReadReg_dataIn c float s hc reg)
  | read2regs reg => exact congrArg Prod.snd (mcp2515Read2regs_dataIn c float s hc reg)
  | writeReg reg val => exact mcp2515WriteReg_dataIn c float s hc reg val
  | writeBits reg mask val => exact mcp2515WriteBits_dataIn c float s hc reg mask val
  | hwSleep => exact mcp2515WriteReg_dataIn c float s hc canctrl canctrlReqopSleep
  | hwTx frame txBufIdx => exact mcp2515HwTx_dataIn c float s hc frame txBufIdx
  | hwRxFrame bufIdx => exact congrArg Prod.snd (mcp2515HwRxFrame_dataIn c float s hc bufIdx)
  | hwReset => exact congrArg Prod.snd (mcp2515HwReset_dataIn c float s hc)
  | hwProbe => exact congrArg Prod.snd (mcp2515HwProbe_dataIn c float s hc)

/-- The driver cannot tell the chip from an empty socket. Against a chip that starts idle,
whatever level the board holds the undriven data-in line at, every run of the driver's
routines is the run with that line alone: the same history, with every data-in sample the
board's level, and so the same bytes in `spi_rx_buf` and the same results of the reset and
the probe. -/
theorem lineRun_chip_unconnected (c : Chip) (float : DataIn) (ops : List LineOp) (s : Link)
    (hc : (c.run s.trace).csHigh = true) : lineRun (c.dataIn float) ops s = lineRun float ops s := by
  induction ops generalizing s with
  | nil => rw [lineRun_nil, lineRun_nil]
  | cons op ops ih =>
    rw [lineRun_cons, lineRun_cons, LineOp.run_dataIn c float op s hc]
    exact ih _ (LineOp.run_silent c float op s hc).1

theorem lineRun_chip_unconnected_pullUp :
    (idleChip.run emptyLink.trace).csHigh = true ∧
      lineRun (idleChip.dataIn fun _ => true) [.hwProbe, .writeReg canctrl 0x80, .readReg canctrl]
        emptyLink =
      lineRun (fun _ => true) [.hwProbe, .writeReg canctrl 0x80, .readReg canctrl] emptyLink :=
  ⟨rfl, lineRun_chip_unconnected idleChip _ _ emptyLink rfl⟩

end Mcp2515Banged
