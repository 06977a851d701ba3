import Mcp2515Banged.RegisterAccess

/-!
# The controller at the other end of the lines

The MCP2515 as an SPI slave in mode 1,1: it takes data-out on each rising clock edge while
chip select is low, drives data-in ahead of the driver's sample, and executes the bytes of a
transaction when chip select rises. `READ a` shifts out `R[a], R[a+1], …` after the address
byte, `WRITE a d…` stores the data bytes from `a` on, `BIT MODIFY a m v` stores
`(R[a] & ~m) | (v & m)`; other bytes leave the registers alone.

Run against this chip, the register routines never change a register: each byte leaves the
driver as eight copies of its top bit (`Mcp2515Banged.Transport`), and the top bit of
`READ`, `WRITE` and `BIT MODIFY` is clear, so every transaction reaches the chip as
instruction `0x00`.

## Main definitions

* `Chip`, `Chip.step`, `Chip.run` — the controller as a machine over line events
* `Chip.dataIn` — the data-in level after a history, the chip's where it drives the line and
  the board's where it does not
* `execute` — the register effect of one transaction

## Main results

* `regs_run_csTrans` — a framed transfer whose first byte has its top bit clear changes no
  register
* `regs_run_registerRoutines` — the four register routines leave the register file as it was
-/

namespace Mcp2515Banged

/-! ## Bytes of a transaction -/

/-- A byte from eight samples, most significant first, as a shift register fills. -/
def byteOfBits (bs : List Bool) : BitVec 8 :=
  bs.foldl (fun x b => (x <<< 1) ||| (if b then (1 : BitVec 8) else 0)) 0

/-- The whole bytes of a sample stream; a trailing partial byte is dropped. -/
def bytesOfBits : List Bool → List (BitVec 8)
  | b0 :: b1 :: b2 :: b3 :: b4 :: b5 :: b6 :: b7 :: rest =>
    byteOfBits [b0, b1, b2, b3, b4, b5, b6, b7] :: bytesOfBits rest
  | _ => []

@[simp] theorem bytesOfBits_replicate_append (x : Bool) (rest : List Bool) :
    bytesOfBits (List.replicate 8 x ++ rest) =
      (if x then 0xFF else 0) :: bytesOfBits rest := by
  cases x <;> rfl

/-- `WRITE a d₀ d₁ …`: `R[a + i] := dᵢ`. -/
def writeSeq (regs : BitVec 8 → BitVec 8) (a : BitVec 8) : List (BitVec 8) → BitVec 8 → BitVec 8
  | [] => regs
  | d :: ds => writeSeq (Function.update regs a d) (a + 1) ds

/-- The register effect of the bytes of one transaction. -/
def execute (regs : BitVec 8 → BitVec 8) : List (BitVec 8) → BitVec 8 → BitVec 8
  | ins :: a :: rest =>
    if ins = instructionWrite then writeSeq regs a rest
    else if ins = instructionBitModify then
      match rest with
      | m :: v :: _ => Function.update regs a ((regs a &&& ~~~m) ||| (v &&& m))
      | _ => regs
    else regs
  | _ => regs

/-- Instruction `0x00` is none of the chip's register instructions. -/
theorem execute_zero_cons (regs : BitVec 8 → BitVec 8) (rest : List (BitVec 8)) :
    execute regs (0 :: rest) = regs := by
  cases rest <;> simp [execute, instructionWrite, instructionBitModify]

/-! ## The chip -/

/-- The controller's side of the link: its registers, the levels it last saw on chip select,
clock and data-out, and the data-out samples of the open transaction. -/
structure Chip where
  regs : BitVec 8 → BitVec 8
  csHigh : Bool
  clk : Bool
  mosi : Bool
  bits : List Bool

/-- The data-in level: in `READ a`, data-out sample `j ≥ 16` is answered with bit `7 - j % 8`
of `R[a + j / 8 - 2]`; otherwise the chip leaves its output undriven and the line shows
`float`, the level the board holds it at. -/
def Chip.miso (c : Chip) (float : Bool) : Bool :=
  match bytesOfBits c.bits with
  | ins :: a :: _ =>
    let j := c.bits.length - 1
    if !c.csHigh && ins == instructionRead && decide (16 ≤ j) then
      (c.regs (a + BitVec.ofNat 8 (j / 8 - 2))).getLsbD (7 - j % 8)
    else float
  | _ => float

/-- The chip's response to one line event of the driver. -/
def Chip.step (c : Chip) : LineEvent → Chip
  | .set .cs true =>
    if c.csHigh then c
    else { c with csHigh := true, regs := execute c.regs (bytesOfBits c.bits), bits := [] }
  | .set .cs false => if c.csHigh then { c with csHigh := false, bits := [] } else c
  | .set .clk v =>
    if !c.clk && v && !c.csHigh then { c with clk := v, bits := c.bits ++ [c.mosi] }
    else { c with clk := v }
  | .set .mosi v => { c with mosi := v }
  | _ => c

/-- The chip after a history of line events. -/
def Chip.run (c : Chip) (h : List LineEvent) : Chip := h.foldl Chip.step c

/-- The chip as the data-in line of the driver: its level after the history so far, on a
line that shows `float` where the chip does not drive it. -/
def Chip.dataIn (c : Chip) (float : DataIn) : DataIn := fun h => (c.run h).miso (float h)

@[simp] theorem Chip.run_nil (c : Chip) : c.run [] = c := rfl

@[simp] theorem Chip.run_append (c : Chip) (h h' : List LineEvent) :
    c.run (h ++ h') = (c.run h).run h' := List.foldl_append _ _ _ _

@[simp] theorem Chip.run_cons (c : Chip) (e : LineEvent) (h : List LineEvent) :
    c.run (e :: h) = (c.step e).run h := rfl

theorem Chip.step_csFall {c : Chip} (hc : c.csHigh = true) :
    c.step (.set .cs false) = { c with csHigh := false, bits := [] } := by
  simp [Chip.step, hc]

theorem Chip.step_csRise {c : Chip} (hc : c.csHigh = false) :
    c.step (.set .cs true) =
      { c with csHigh := true, regs := execute c.regs (bytesOfBits c.bits), bits := [] } := by
  simp [Chip.step, hc]

@[simp] theorem Chip.step_delay (c : Chip) (us : Nat) : c.step (.delay us) = c := rfl

/-! ## Register routines against the chip -/

section Transactions

variable (c : Chip)

/-- One bit cycle while selected appends the driven level to the samples. -/
theorem run_bitCycle (hc : c.csHigh = false) (o b : Bool) :
    c.run (bitCycle o b) = { c with clk := true, mosi := o, bits := c.bits ++ [o] } := by
  simp [bitCycle, Chip.step, hc]

/-- Bit cycles driving a level `o` while selected append one `o` each, and change nothing else
that matters. -/
theorem run_bitCycles (hc : c.csHigh = false) (o : Bool) (w : Nat → Bool) (l : List Nat) :
    (c.run (l.flatMap fun k => bitCycle o (w k))).csHigh = false ∧
    (c.run (l.flatMap fun k => bitCycle o (w k))).regs = c.regs ∧
    (c.run (l.flatMap fun k => bitCycle o (w k))).bits = c.bits ++ List.replicate l.length o := by
  induction l generalizing c with
  | nil => simp [hc]
  | cons k l ih =>
    obtain ⟨h1, h2, h3⟩ := ih { c with clk := true, mosi := o, bits := c.bits ++ [o] } hc
    rw [List.flatMap_cons, Chip.run_append, run_bitCycle c hc]
    exact ⟨h1, h2, by rw [h3, List.length_cons, List.replicate_succ]; simp⟩

theorem run_byteCycles (hc : c.csHigh = false) (tx : Nat → BitVec 8) (v : Nat → Bool)
    (l : List Nat) :
    (c.run (l.flatMap (byteCycles tx v))).csHigh = false ∧
    (c.run (l.flatMap (byteCycles tx v))).regs = c.regs ∧
    (c.run (l.flatMap (byteCycles tx v))).bits =
      c.bits ++ l.flatMap fun i => List.replicate 8 (topBit (tx i)) := by
  induction l generalizing c with
  | nil => simp [hc]
  | cons i l ih =>
    obtain ⟨g1, g2, g3⟩ := run_bitCycles c hc (topBit (tx i)) (fun k => v (8 * i + k)) (List.range 8)
    obtain ⟨h1, h2, h3⟩ := ih _ g1
    simp only [List.flatMap_cons, Chip.run_append, byteCycles]
    exact ⟨h1, h2.trans g2, by rw [h3, g3, List.length_range, List.append_assoc]⟩

/-- The bytes the chip takes from a transfer: byte `i` arrives as eight copies of its top
bit. -/
theorem bytesOfBits_flatMap_replicate (f : Nat → Bool) (l : List Nat) :
    bytesOfBits (l.flatMap fun i => List.replicate 8 (f i)) =
      l.map fun i => if f i then 0xFF else 0 := by
  induction l with
  | nil => rfl
  | cons i l ih => rw [List.flatMap_cons, bytesOfBits_replicate_append, ih]; rfl

/-- A framed transfer from an idle chip whose first byte has its top bit clear reaches the
chip as instruction `0x00` and changes no register, whatever data-in shows. -/
theorem regs_run_csTrans (din : DataIn) (len : Nat) (s : Link) (hc : c.csHigh = true)
    (h0 : topBit (s.spiTxBuf 0) = false) :
    (c.run ((csTrans din len s).trace.drop s.trace.length)).regs = c.regs := by
  obtain ⟨v, htr, -⟩ := mcp2515SpiTrans_spec din len (gpioSetValue .cs false s)
  simp only [gpioSetValue] at htr
  obtain ⟨h1, h2, h3⟩ := run_byteCycles { c with csHigh := false, bits := [] } rfl
    s.spiTxBuf v (List.range len)
  simp only [csTrans, gpioSetValue, udelay, htr, List.append_assoc, List.drop_left,
    List.singleton_append, Chip.run_cons, Chip.step_csFall hc, Chip.run_append, Chip.step_delay,
    Chip.step_csRise h1, Chip.run_nil, h2, h3, List.nil_append, bytesOfBits_flatMap_replicate]
  rcases len with _ | len
  · rfl
  · rw [List.range_succ_eq_map, List.map_cons, h0, if_neg Bool.false_ne_true, execute_zero_cons]

/-- The register routines' form of `regs_run_csTrans`: the instruction byte is loaded first. -/
theorem regs_run_csTrans_loadTxBuf (din : DataIn) (len : Nat) (ins : BitVec 8)
    (bytes : List (BitVec 8)) (s : Link) (hc : c.csHigh = true) (h0 : topBit ins = false) :
    (c.run ((csTrans din len (loadTxBuf (ins :: bytes) s)).trace.drop s.trace.length)).regs =
      c.regs :=
  regs_run_csTrans c din len (loadTxBuf (ins :: bytes) s) hc (by simpa [loadTxBuf] using h0)

/-- The four register routines, run against an idle chip with any data-in, leave its register
file as it was: `READ`, `WRITE` and `BIT MODIFY` all reach it as instruction `0x00`. -/
theorem regs_run_registerRoutines (din : DataIn) (s : Link) (hc : c.csHigh = true)
    (a m v : BitVec 8) :
    (c.run ((mcp2515ReadReg din a s).2.trace.drop s.trace.length)).regs = c.regs ∧
    (c.run ((mcp2515Read2regs din a s).2.trace.drop s.trace.length)).regs = c.regs ∧
    (c.run ((mcp2515WriteReg din a v s).trace.drop s.trace.length)).regs = c.regs ∧
    (c.run ((mcp2515WriteBits din a m v s).trace.drop s.trace.length)).regs = c.regs := by
  have hr : topBit instructionRead = false := by decide
  exact ⟨regs_run_csTrans_loadTxBuf c din 3 _ _ s hc hr,
    regs_run_csTrans_loadTxBuf c din 4 _ _ s hc hr,
    regs_run_csTrans_loadTxBuf c din 3 _ _ s hc (by decide),
    regs_run_csTrans_loadTxBuf c din 4 _ _ s hc (by decide)⟩

end Transactions

/-- Writing `0x80` to `CANCTRL` (address `0x0f`) of an idle chip whose registers are all 0
leaves `CANCTRL` at 0, whatever level the undriven data-in line shows. -/
theorem mcp2515WriteReg_canctrl_unchanged (float : DataIn) :
    ((⟨fun _ => 0, true, true, true, []⟩ : Chip).run
      (mcp2515WriteReg (Chip.dataIn ⟨fun _ => 0, true, true, true, []⟩ float) 0x0f 0x80
        ⟨fun _ => 0, fun _ => 0, [], []⟩).trace).regs 0x0f = 0 := by
  have h := congrFun (regs_run_registerRoutines ⟨fun _ => 0, true, true, true, []⟩
    (Chip.dataIn ⟨fun _ => 0, true, true, true, []⟩ float) ⟨fun _ => 0, fun _ => 0, [], []⟩ rfl
    0x0f 0 0x80).2.2.1 0x0f
  simp only [List.length_nil, List.drop_zero] at h
  exact h

end Mcp2515Banged
