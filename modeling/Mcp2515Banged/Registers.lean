import Mathlib.Data.BitVec

/-!
# The MCP2515 register map and the CAN constants of the driver

The instruction bytes, register addresses and bit masks of `mcp2515-banged.c`, as the
source's macros define them, together with the few constants the driver takes from the
Linux CAN headers (identifier flags, error classes, controller states). Registers and
wire bytes are `BitVec 8` (the source's `u8`); identifiers are `BitVec 32` (`canid_t`).

## Main definitions

* `instructionLoadTxb`, `instructionReadRxb`, `instructionRts` — the parametrised
  instruction macros
* `txbctrl`, `rxbctrl` — mailbox register addresses, `base + 0x10 * n + offset`
* `CanState` — the controller states of `linux/can/netlink.h`, with their enum values
* `getCanDlc` — the data length sanitiser of `linux/can/dev.h`
-/

namespace Mcp2515Banged

/-! ## SPI instruction set -/

def instructionWrite : BitVec 8 := 0x02
def instructionRead : BitVec 8 := 0x03
def instructionBitModify : BitVec 8 := 0x05
def instructionReset : BitVec 8 := 0xC0

/-- `INSTRUCTION_LOAD_TXB(n)`: load transmit buffer `n`, starting at its `SIDH`. -/
def instructionLoadTxb (n : Nat) : BitVec 8 := BitVec.ofNat 8 (0x40 + 2 * n)

/-- `INSTRUCTION_READ_RXB(n)`: read receive buffer `n`, starting at its `SIDH`. -/
def instructionReadRxb (n : Nat) : BitVec 8 := if n = 0 then 0x90 else 0x94

/-- `INSTRUCTION_RTS(n)`: request to send the buffers of the mask `n`. -/
def instructionRts (n : Nat) : BitVec 8 := 0x80 ||| (BitVec.ofNat 8 n &&& 0x07)

/-! ## Registers and their bits -/

def canstat : BitVec 8 := 0x0e
def canctrl : BitVec 8 := 0x0f
def canctrlReqopMask : BitVec 8 := 0xe0
def canctrlReqopConf : BitVec 8 := 0x80
def canctrlReqopListenOnly : BitVec 8 := 0x60
def canctrlReqopLoopback : BitVec 8 := 0x40
def canctrlReqopSleep : BitVec 8 := 0x20
def canctrlReqopNormal : BitVec 8 := 0x00

def cnf1 : BitVec 8 := 0x2a
def cnf1SjwShift : Nat := 6
def cnf2 : BitVec 8 := 0x29
def cnf2Btlmode : BitVec 8 := 0x80
def cnf2Sam : BitVec 8 := 0x40
def cnf2Ps1Shift : Nat := 3
def cnf3 : BitVec 8 := 0x28
def cnf3Phseg2Mask : BitVec 8 := 0x07

def caninte : BitVec 8 := 0x2b
def caninteErrie : BitVec 8 := 0x20
def caninteTx2ie : BitVec 8 := 0x10
def caninteTx1ie : BitVec 8 := 0x08
def caninteTx0ie : BitVec 8 := 0x04
def caninteRx1ie : BitVec 8 := 0x02
def caninteRx0ie : BitVec 8 := 0x01

def canintf : BitVec 8 := 0x2c
def canintfErrif : BitVec 8 := 0x20
def canintfTx2if : BitVec 8 := 0x10
def canintfTx1if : BitVec 8 := 0x08
def canintfTx0if : BitVec 8 := 0x04
def canintfRx1if : BitVec 8 := 0x02
def canintfRx0if : BitVec 8 := 0x01
def canintfRx : BitVec 8 := canintfRx0if ||| canintfRx1if
def canintfTx : BitVec 8 := canintfTx2if ||| canintfTx1if ||| canintfTx0if
def canintfErr : BitVec 8 := canintfErrif

def eflg : BitVec 8 := 0x2d
def eflgEwarn : BitVec 8 := 0x01
def eflgRxwar : BitVec 8 := 0x02
def eflgTxwar : BitVec 8 := 0x04
def eflgRxep : BitVec 8 := 0x08
def eflgTxep : BitVec 8 := 0x10
def eflgTxbo : BitVec 8 := 0x20
def eflgRx0ovr : BitVec 8 := 0x40
def eflgRx1ovr : BitVec 8 := 0x80

/-- `TXBCTRL(n)`: the control register of transmit buffer `n`. -/
def txbctrl (n : Nat) : BitVec 8 := BitVec.ofNat 8 (n * 0x10 + 0x30)

/-- `RXBCTRL(n)`: the control register of receive buffer `n`. -/
def rxbctrl (n : Nat) : BitVec 8 := BitVec.ofNat 8 (n * 0x10 + 0x60)

def rxbctrlBukt : BitVec 8 := 0x04
def rxbctrlRxm0 : BitVec 8 := 0x20
def rxbctrlRxm1 : BitVec 8 := 0x40

/-! ## Mailbox image layout

Offsets into the byte image of a mailbox transfer: byte 0 carries the instruction, and the
header registers follow in chip order. -/

def txbctrlOff : Nat := 0
def txbsidhOff : Nat := 1
def txbsidlOff : Nat := 2
def txbeid8Off : Nat := 3
def txbeid0Off : Nat := 4
def txbdlcOff : Nat := 5
def txbdatOff : Nat := 6
def sidhShift : Nat := 3
def sidlSidMask : BitVec 32 := 7
def sidlSidShift : Nat := 5
def sidlExideShift : Nat := 3
def sidlEidShift : Nat := 16
def sidlEidMask : BitVec 32 := 3
def dlcRtrShift : Nat := 6

def rxbctrlOff : Nat := 0
def rxbsidhOff : Nat := 1
def rxbsidlOff : Nat := 2
def rxbeid8Off : Nat := 3
def rxbeid0Off : Nat := 4
def rxbdlcOff : Nat := 5
def rxbdatOff : Nat := 6
def rxbsidhShift : Nat := 3
def rxbsidlIde : BitVec 8 := 0x08
def rxbsidlSrr : BitVec 8 := 0x10
def rxbsidlEid : BitVec 8 := 3
def rxbsidlShift : Nat := 5
def rxbdlcLenMask : BitVec 8 := 0x0f
def rxbdlcRtr : BitVec 8 := 0x40

def canFrameMaxDataLen : Nat := 8

/-- `SPI_TRANSFER_BUF_LEN`: the largest transfer, a whole receive buffer. -/
def spiTransferBufLen : Nat := 6 + canFrameMaxDataLen

/-- `GET_BYTE(val, byte)`: byte number `byte` of `val`. -/
def getByte (val : BitVec 32) (byte : Nat) : BitVec 8 := ((val >>> (byte * 8)) &&& 0xff).setWidth 8

/-- `SET_BYTE(val, byte)`: the byte `val` placed at byte number `byte`. -/
def setByte (val : BitVec 8) (byte : Nat) : BitVec 32 := (val.setWidth 32 &&& 0xff) <<< (byte * 8)

/-! ## Constants of the Linux CAN headers -/

/-- Modelled from the spec: the `can_id` flags and masks of `linux/can.h`, which the source
includes and does not contain; the values are the header's. -/
def canEffFlag : BitVec 32 := 0x80000000
def canRtrFlag : BitVec 32 := 0x40000000
def canErrFlag : BitVec 32 := 0x20000000
def canSffMask : BitVec 32 := 0x000007FF
def canEffMask : BitVec 32 := 0x1FFFFFFF

/-- Modelled from the spec: the error classes of `linux/can/error.h` that the interrupt
handler reports. -/
def canErrCrtl : BitVec 32 := 0x04
def canErrBusoff : BitVec 32 := 0x40
def canErrCrtlRxOverflow : BitVec 8 := 0x01
def canErrCrtlRxWarning : BitVec 8 := 0x04
def canErrCrtlTxWarning : BitVec 8 := 0x08
def canErrCrtlRxPassive : BitVec 8 := 0x10
def canErrCrtlTxPassive : BitVec 8 := 0x20

/-- Modelled from the spec: the controller mode bits of `linux/can/netlink.h`. -/
def canCtrlmodeLoopback : Nat := 0x01
def canCtrlmodeListenonly : Nat := 0x02
def canCtrlmode3Samples : Nat := 0x04

/-- Modelled from the spec: `enum can_state` of `linux/can/netlink.h`. The interrupt handler
compares states by their enum values, so the order of the constructors matters. -/
inductive CanState
  | errorActive
  | errorWarning
  | errorPassive
  | busOff
  | stopped
  | sleeping
  deriving DecidableEq, Repr

/-- The enum value of a state. -/
def CanState.toNat : CanState → Nat
  | .errorActive => 0
  | .errorWarning => 1
  | .errorPassive => 2
  | .busOff => 3
  | .stopped => 4
  | .sleeping => 5

/-- Modelled from the spec: `get_can_dlc` of `linux/can/dev.h` clamps a length nibble to
the largest data length, 8. -/
def getCanDlc (i : BitVec 8) : BitVec 8 := if i.toNat ≤ canFrameMaxDataLen then i else 8

theorem getCanDlc_le (i : BitVec 8) : (getCanDlc i).toNat ≤ 8 := by
  unfold getCanDlc canFrameMaxDataLen
  split <;> simp_all

theorem getCanDlc_of_le {i : BitVec 8} (h : i.toNat ≤ 8) : getCanDlc i = i := by
  simp [getCanDlc, canFrameMaxDataLen, h]

/-- The interrupt sources `mcp2515_set_normal_mode` enables in `CANINTE`. -/
def caninteEnabled : BitVec 8 :=
  caninteErrie ||| caninteTx2ie ||| caninteTx1ie ||| caninteTx0ie ||| caninteRx1ie ||| caninteRx0ie

/-- The interrupt sources `mcp2515_set_normal_mode` enables are exactly the flags the
interrupt handler keeps after masking. -/
theorem caninteEnabled_eq_canintf_mask : caninteEnabled = canintfRx ||| canintfTx ||| canintfErr := by
  decide

end Mcp2515Banged
