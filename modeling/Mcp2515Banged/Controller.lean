import Mathlib.Tactic.FinCases
import Mcp2515Banged.Chip

/-!
# The controller at the level of register transactions

The interrupt handler talks to the MCP2515 in whole transactions: `mcp2515_read_2regs`,
`mcp2515_write_bits`, `mcp2515_write_reg` and `READ RX BUFFER n` of `mcp2515_hw_rx_frame`,
each atomic. Between them the controller takes frames from the bus, raises error flags and
finishes transmissions. The register effect of `WRITE` and `BIT MODIFY` is `execute` of
`Mcp2515Banged.Chip`; `READ RX BUFFER n` hands over buffer `n` and clears its full flag.

Receive buffers use the rollover `mcp2515_setup` asks for (`BUKT` in `RXBCTRL(0)`): a frame
goes to `RXB0` while `RX0IF` is clear, else to `RXB1` while `RX1IF` is clear, else it is lost
and sets `RX1OVR` and `ERRIF`.

Frames carry a ghost identity, and the controller keeps, as ghost state, the order of
arrivals and of acceptances into each buffer.

This level rests on a premise the line level does not give: that each routine of
`Mcp2515Banged.RegisterAccess` is the transaction it is written to be, a `WRITE` or
`BIT MODIFY` reaching the register file whole and a read returning the register's content.
`Mcp2515Banged.Chip` shows that on the wire every instruction reaches the chip as `0x00`, so
that it neither executes a write nor answers a read; the results at this level are about the
driver's logic under the premise. `BIT MODIFY` here
changes every bit its mask names; on the chip the bits of `EFLG` other than `RX0OVR` and
`RX1OVR` are read-only and follow the error counters alone.

## Main definitions

* `Ctrl` — registers, receive buffers and the ghost logs of the controller
* `CtrlEvent`, `Ctrl.event` — what the controller does on its own
* `Ctrl.writeBits`, `Ctrl.writeReg`, `Ctrl.readRxb` — the handler's transactions
-/

namespace Mcp2515Banged

/-- The full flag of receive buffer `n`: `CANINTF_RX0IF` or `CANINTF_RX1IF`. -/
def canintfRxif (n : Fin 2) : BitVec 8 := if n = 0 then canintfRx0if else canintfRx1if

/-- The transmit-complete flag of mailbox `n`: `CANINTF_TX0IF`, `CANINTF_TX1IF`, `CANINTF_TX2IF`. -/
def canintfTxif (n : Fin 3) : BitVec 8 :=
  if n = 0 then canintfTx0if else if n = 1 then canintfTx1if else canintfTx2if

/-- A frame in a receive buffer: its ghost identity and the 14-byte image the buffer read
returns. -/
structure RxFrame where
  id : Nat
  image : Nat → BitVec 8

/-- The controller: its register file, its two receive buffers, and (ghost) every arrival and
the arrivals each buffer accepted, in order. -/
structure Ctrl where
  regs : BitVec 8 → BitVec 8
  rxb : Fin 2 → RxFrame
  arrived : List Nat
  accepted : Fin 2 → List Nat

/-- What the controller does on its own between two transactions of the handler. -/
inductive CtrlEvent
  /-- A frame is received from the bus. -/
  | arrive (x : Nat) (image : Nat → BitVec 8)
  /-- An error counter crosses a limit or a buffer overflows: `EFLG` bits and `ERRIF` rise. -/
  | errorFlags (bits : BitVec 8)
  /-- Mailbox `n` finishes its transmission. -/
  | txDone (n : Fin 3)
  /-- The controller reports an operation mode in `CANSTAT`. -/
  | mode (v : BitVec 8)

/-- Raise `bits` in register `a`. -/
def setBits (regs : BitVec 8 → BitVec 8) (a bits : BitVec 8) : BitVec 8 → BitVec 8 :=
  Function.update regs a (regs a ||| bits)

/-- The buffer an arriving frame goes to under rollover, if any. -/
def Ctrl.rxTarget (c : Ctrl) : Option (Fin 2) :=
  if c.regs canintf &&& canintfRx0if = 0 then some 0
  else if c.regs canintf &&& canintfRx1if = 0 then some 1
  else none

/-- One event of the controller. -/
def Ctrl.event (c : Ctrl) : CtrlEvent → Ctrl
  | .arrive x image =>
    match c.rxTarget with
    | some n =>
      { regs := setBits c.regs canintf (canintfRxif n)
        rxb := Function.update c.rxb n ⟨x, image⟩
        arrived := c.arrived ++ [x]
        accepted := Function.update c.accepted n (c.accepted n ++ [x]) }
    | none =>
      { c with regs := setBits (setBits c.regs eflg eflgRx1ovr) canintf canintfErrif
               arrived := c.arrived ++ [x] }
  | .errorFlags bits => { c with regs := setBits (setBits c.regs eflg bits) canintf canintfErrif }
  | .txDone n => { c with regs := setBits c.regs canintf (canintfTxif n) }
  | .mode v => { c with regs := Function.update c.regs canstat v }

/-- A sequence of controller events. -/
def Ctrl.events (c : Ctrl) (es : List CtrlEvent) : Ctrl := es.foldl Ctrl.event c

@[simp] theorem Ctrl.events_nil (c : Ctrl) : c.events [] = c := rfl

@[simp] theorem Ctrl.events_cons (c : Ctrl) (e : CtrlEvent) (es : List CtrlEvent) :
    c.events (e :: es) = (c.event e).events es := rfl

/-! ## Transactions of the driver -/

/-- The registers after the `RESET` instruction: configuration mode in `CANSTAT` and
`CANCTRL` (`0x80`, `0x87`), every other register the driver uses 0. -/
def resetRegs : BitVec 8 → BitVec 8 := fun a =>
  if a = canstat then canctrlReqopConf else if a = canctrl then 0x87 else 0

/-- `RESET`: the registers return to their reset values. -/
def Ctrl.reset (c : Ctrl) : Ctrl := { c with regs := resetRegs }

/-- `BIT MODIFY reg mask val`. -/
def Ctrl.writeBits (c : Ctrl) (reg mask val : BitVec 8) : Ctrl :=
  { c with regs := execute c.regs [instructionBitModify, reg, mask, val] }

/-- `WRITE reg val`. -/
def Ctrl.writeReg (c : Ctrl) (reg val : BitVec 8) : Ctrl :=
  { c with regs := execute c.regs [instructionWrite, reg, val] }

/-- `READ RX BUFFER n`: the frame of buffer `n`, whose full flag the controller then clears. -/
def Ctrl.readRxb (c : Ctrl) (n : Fin 2) : RxFrame × Ctrl :=
  (c.rxb n, { c with regs := Function.update c.regs canintf (c.regs canintf &&& ~~~canintfRxif n) })

theorem execute_bitModify (regs : BitVec 8 → BitVec 8) (a m v : BitVec 8) :
    execute regs [instructionBitModify, a, m, v] =
      Function.update regs a ((regs a &&& ~~~m) ||| (v &&& m)) := by
  simp [execute, instructionWrite, instructionBitModify]

theorem execute_write (regs : BitVec 8 → BitVec 8) (a v : BitVec 8) :
    execute regs [instructionWrite, a, v] = Function.update regs a v := by
  simp [execute, writeSeq]

@[simp] theorem Ctrl.writeBits_regs (c : Ctrl) (reg mask val : BitVec 8) :
    (c.writeBits reg mask val).regs =
      Function.update c.regs reg ((c.regs reg &&& ~~~mask) ||| (val &&& mask)) :=
  execute_bitModify _ _ _ _

@[simp] theorem Ctrl.writeBits_rxb (c : Ctrl) (reg mask val : BitVec 8) :
    (c.writeBits reg mask val).rxb = c.rxb := rfl

@[simp] theorem Ctrl.writeBits_accepted (c : Ctrl) (reg mask val : BitVec 8) :
    (c.writeBits reg mask val).accepted = c.accepted := rfl

@[simp] theorem Ctrl.writeBits_arrived (c : Ctrl) (reg mask val : BitVec 8) :
    (c.writeBits reg mask val).arrived = c.arrived := rfl

@[simp] theorem Ctrl.writeReg_regs (c : Ctrl) (reg val : BitVec 8) :
    (c.writeReg reg val).regs = Function.update c.regs reg val :=
  execute_write _ _ _

@[simp] theorem Ctrl.writeReg_rxb (c : Ctrl) (reg val : BitVec 8) :
    (c.writeReg reg val).rxb = c.rxb := rfl

@[simp] theorem Ctrl.writeReg_accepted (c : Ctrl) (reg val : BitVec 8) :
    (c.writeReg reg val).accepted = c.accepted := rfl

@[simp] theorem Ctrl.readRxb_fst (c : Ctrl) (n : Fin 2) : (c.readRxb n).1 = c.rxb n := rfl

@[simp] theorem Ctrl.readRxb_rxb (c : Ctrl) (n : Fin 2) : (c.readRxb n).2.rxb = c.rxb := rfl

@[simp] theorem Ctrl.readRxb_accepted (c : Ctrl) (n : Fin 2) :
    (c.readRxb n).2.accepted = c.accepted := rfl

@[simp] theorem Ctrl.readRxb_arrived (c : Ctrl) (n : Fin 2) :
    (c.readRxb n).2.arrived = c.arrived := rfl

/-! ## Receive flags -/

/-- Receive buffer `n` holds a frame the handler has not read: its flag is up. -/
def Ctrl.rxFull (c : Ctrl) (n : Fin 2) : Bool := c.regs canintf &&& canintfRxif n != 0

/-- Testing a one-bit mask reads that bit. -/
theorem and_twoPow_ne_zero_eq_getLsbD (x : BitVec 8) {k : Nat} (hk : k < 8) :
    (x &&& BitVec.twoPow 8 k != 0) = x.getLsbD k := by
  rw [BitVec.and_twoPow]
  split
  · next h =>
    simp only [h, bne_iff_ne, ne_eq]
    intro h0
    have := congrArg (fun y => y.getLsbD k) h0
    simp [BitVec.getLsbD_twoPow, hk] at this
  · next h => simp_all

theorem canintfRxif_eq_twoPow (n : Fin 2) : canintfRxif n = BitVec.twoPow 8 n := by
  fin_cases n <;> decide

theorem Ctrl.rxFull_eq (c : Ctrl) (n : Fin 2) : c.rxFull n = (c.regs canintf).getLsbD n := by
  rw [Ctrl.rxFull, canintfRxif_eq_twoPow, and_twoPow_ne_zero_eq_getLsbD _ (by omega)]

theorem Ctrl.rxFull_of_rxTarget {c : Ctrl} {n : Fin 2} (h : c.rxTarget = some n) :
    c.rxFull n = false := by
  unfold Ctrl.rxTarget at h
  fin_cases n <;> simp only [Ctrl.rxFull, canintfRxif] <;> split_ifs at h <;> simp_all

/-- What one event does to receive buffer `n`: nothing, or, when the buffer was empty, it
takes the arriving frame. -/
theorem Ctrl.event_buffer (c : Ctrl) (e : CtrlEvent) (n : Fin 2) :
    ((c.event e).rxFull n = c.rxFull n ∧ (c.event e).accepted n = c.accepted n ∧
      (c.event e).rxb n = c.rxb n) ∨
    (c.rxFull n = false ∧ (c.event e).rxFull n = true ∧
      (c.event e).accepted n = c.accepted n ++ [((c.event e).rxb n).id]) := by
  have hne : canintf ≠ eflg := by decide
  cases e with
  | arrive x image =>
    simp only [Ctrl.event]
    split
    · next m hm =>
      by_cases hmn : m = n
      · subst hmn
        refine .inr ⟨Ctrl.rxFull_of_rxTarget hm, ?_, by simp⟩
        fin_cases m <;> simp [Ctrl.rxFull_eq, setBits, canintfRxif, canintfRx0if, canintfRx1if]
      · refine .inl ⟨?_, by simp [Function.update_noteq (Ne.symm hmn)],
          by simp [Function.update_noteq (Ne.symm hmn)]⟩
        fin_cases m <;> fin_cases n <;>
          simp_all [Ctrl.rxFull_eq, setBits, canintfRxif, canintfRx0if, canintfRx1if]
    · exact .inl ⟨by fin_cases n <;> simp [Ctrl.rxFull_eq, setBits, hne, canintfErrif], rfl, rfl⟩
  | errorFlags bits =>
    exact .inl ⟨by fin_cases n <;> simp [Ctrl.event, Ctrl.rxFull_eq, setBits, hne, canintfErrif],
      rfl, rfl⟩
  | txDone k =>
    refine .inl ⟨?_, rfl, rfl⟩
    fin_cases n <;> fin_cases k <;>
      simp [Ctrl.event, Ctrl.rxFull_eq, setBits, canintfTxif, canintfTx0if, canintfTx1if, canintfTx2if]
  | mode v =>
    exact .inl ⟨by simp [Ctrl.event, Ctrl.rxFull_eq, show canintf ≠ canstat by decide], rfl, rfl⟩

/-- Events never empty a receive buffer. -/
theorem Ctrl.rxFull_events {c : Ctrl} {n : Fin 2} (es : List CtrlEvent) (h : c.rxFull n = true) :
    (c.events es).rxFull n = true := by
  induction es generalizing c with
  | nil => exact h
  | cons e es ih =>
    exact ih (by rcases c.event_buffer e n with ⟨h1, -⟩ | ⟨h1, -⟩ <;> simp_all)

/-- Reading buffer `n` empties it and leaves the other flag as it was. -/
theorem Ctrl.readRxb_rxFull (c : Ctrl) (n m : Fin 2) :
    (c.readRxb n).2.rxFull m = (c.rxFull m && decide (m ≠ n)) := by
  simp only [Ctrl.rxFull_eq, Ctrl.readRxb, Function.update_same, canintfRxif_eq_twoPow]
  fin_cases n <;> fin_cases m <;> simp

/-- `BIT MODIFY` of `CANINTF` with a mask that spares the receive flags, or of another
register, leaves both receive flags as they were. -/
theorem Ctrl.writeBits_rxFull (c : Ctrl) (reg mask : BitVec 8) (n : Fin 2)
    (h : reg = canintf → mask.getLsbD n = false) :
    (c.writeBits reg mask 0).rxFull n = c.rxFull n := by
  simp only [Ctrl.rxFull_eq, Ctrl.writeBits_regs]
  by_cases hr : canintf = reg
  · subst hr
    simp [h rfl, show (n : Nat) < 8 by omega]
  · rw [Function.update_noteq hr]

theorem Ctrl.writeReg_rxFull (c : Ctrl) (reg val : BitVec 8) (n : Fin 2) (h : reg ≠ canintf) :
    (c.writeReg reg val).rxFull n = c.rxFull n := by
  simp only [Ctrl.rxFull_eq, Ctrl.writeReg_regs, Function.update_noteq (Ne.symm h)]

end Mcp2515Banged
