import Mcp2515Banged.Controller

/-!
# The interrupt handler `mcp2515_can_ist`

One pass of the handler's loop reads `CANINTF` and `EFLG` in one transaction, empties the
receive buffers whose flags it read, clears the error and transmit flags it read and the
`EFLG` bits it read, derives the new controller state from `EFLG`, reports errors when it
read `ERRIF`, latches bus-off when restart is disabled, and otherwise either stops (nothing
was pending) or completes a transmission and goes round again.

A pass is a function of the driver state and of what the world does during the pass: the
controller events before each transaction, and the outcome of each allocation. Every
interleaving of controller events with the pass's transactions is one `PassEnv`.

## Main definitions

* `Priv` — the fields of `mcp2515_priv` and of its `net_device` that the driver changes
* `Sys` — controller, driver and ghost logs
* `mcp2515HwRx`, `mcp2515ErrorSkb` — receive one buffer, report one error frame
* `istRx`, `istClear`, `istErrors`, `istEnd` — the four parts of a pass, in source order
* `istPass`, `mcp2515CanIst` — one pass, and one invocation, of the handler
-/

namespace Mcp2515Banged

/-- The counters of `net->stats` the driver changes. Each counter is the number of increments
the driver made (the byte counters the sum of what it added): the source's `unsigned long`
holds that number modulo `2 ^ BITS_PER_LONG`, so a fact about a counter's value in the kernel
is the fact modulo the word size. -/
structure NetStats where
  rxPackets : Nat
  rxBytes : Nat
  rxDropped : Nat
  rxErrors : Nat
  rxOverErrors : Nat
  txPackets : Nat
  txBytes : Int
  txErrors : Nat
  txDropped : Nat
  deriving DecidableEq, Repr

/-- The counters of `priv->can.can_stats` the driver changes. -/
structure CanStats where
  errorWarning : Nat
  errorPassive : Nat
  deriving DecidableEq, Repr

/-- The bit timing of `priv->can.bittiming` that `mcp2515_do_set_bittiming` programs. -/
structure Bittiming where
  propSeg : BitVec 32
  phaseSeg1 : BitVec 32
  phaseSeg2 : BitVec 32
  sjw : BitVec 32
  brp : BitVec 32
  deriving DecidableEq, Repr

/-- The driver state: `mcp2515_priv` with its `can_priv`, and the parts of the
`net_device` the driver changes (statistics, transmit queue, candev and interrupt
registration). The supplies `priv->power` and `priv->transceiver` stay `NULL` (the probe's
`devm_regulator_get` calls are commented out), so `mcp2515_power_enable` switches nothing and
has no field here. -/
structure Priv where
  state : CanState
  restartMs : Nat
  ctrlmode : Nat
  bittiming : Bittiming
  forceQuit : Bool
  txSkb : Option Nat
  txLen : Int
  restartTx : Bool
  afterSuspend : Nat
  queueStopped : Bool
  candevOpen : Bool
  irqRegistered : Bool
  stats : NetStats
  canStats : CanStats
  deriving DecidableEq, Repr

/-- A socket buffer passed up the stack by `netif_rx_ni` or `can_get_echo_skb`: a received
frame (with the buffer it came from), an error frame, or the echo of a sent frame. -/
inductive Delivery
  | frame (n : Fin 2) (id : Nat)
  | error (canId : BitVec 32) (data1 : BitVec 8)
  | echo
  deriving DecidableEq, Repr

/-- A register transaction of the handler, with what a read returned. -/
inductive Txn
  | read2regs (reg v1 v2 : BitVec 8)
  | writeBits (reg mask val : BitVec 8)
  | writeReg (reg val : BitVec 8)
  | readRxb (n : Fin 2)
  | readReg (reg v : BitVec 8)
  | reset
  deriving DecidableEq, Repr

/-- The calls on `priv->wq`, which the driver never creates (the
`alloc_workqueue` of `mcp2515_open` is commented out): each dereferences the `NULL` pointer. -/
inductive NullWqCall
  /-- `queue_work(priv->wq, &priv->tx_work)` in `mcp2515_hard_start_xmit`. -/
  | queueTxWork
  /-- `queue_work(priv->wq, &priv->restart_work)` in `mcp2515_do_set_mode`. -/
  | queueRestartWork
  /-- `destroy_workqueue(priv->wq)` in `mcp2515_stop`. -/
  | destroyWorkqueue
  deriving DecidableEq, Repr

/-- Ghost logs: what went up the stack, the frame left in its buffer at each failed
allocation, every transaction, in order, and the call on the missing work queue that ended
the run, if one did. -/
structure Ghost where
  delivered : List Delivery
  drops : List Nat
  txns : List Txn
  oops : Option NullWqCall

/-- The whole system: controller, driver, ghost logs. -/
structure Sys where
  ctrl : Ctrl
  priv : Priv
  ghost : Ghost

/-! ## Transactions and effects -/

namespace Sys

/-- Controller events between two transactions. -/
def events (s : Sys) (es : List CtrlEvent) : Sys := { s with ctrl := s.ctrl.events es }

/-- `mcp2515_read_2regs(priv, reg, &v1, &v2)`. -/
def read2regs (s : Sys) (reg : BitVec 8) : (BitVec 8 × BitVec 8) × Sys :=
  ((s.ctrl.regs reg, s.ctrl.regs (reg + 1)),
    { s with ghost.txns := s.ghost.txns ++ [.read2regs reg (s.ctrl.regs reg) (s.ctrl.regs (reg + 1))] })

/-- `mcp2515_write_bits(priv, reg, mask, val)`. -/
def writeBits (s : Sys) (reg mask val : BitVec 8) : Sys :=
  { s with ctrl := s.ctrl.writeBits reg mask val, ghost.txns := s.ghost.txns ++ [.writeBits reg mask val] }

/-- `mcp2515_write_reg(priv, reg, val)`. -/
def writeReg (s : Sys) (reg val : BitVec 8) : Sys :=
  { s with ctrl := s.ctrl.writeReg reg val, ghost.txns := s.ghost.txns ++ [.writeReg reg val] }

/-- `mcp2515_read_reg(priv, reg)`. -/
def readReg (s : Sys) (reg : BitVec 8) : BitVec 8 × Sys :=
  (s.ctrl.regs reg, { s with ghost.txns := s.ghost.txns ++ [.readReg reg (s.ctrl.regs reg)] })

/-- The `RESET` instruction of `mcp2515_hw_reset`. -/
def reset (s : Sys) : Sys := { s with ctrl := s.ctrl.reset, ghost.txns := s.ghost.txns ++ [.reset] }

/-- `mcp2515_hw_sleep(priv)`. -/
def mcp2515HwSleep (s : Sys) : Sys := s.writeReg canctrl canctrlReqopSleep

/-- `netif_rx_ni` and `can_get_echo_skb`: a buffer goes up the stack. -/
def deliver (s : Sys) (d : Delivery) : Sys := { s with ghost.delivered := s.ghost.delivered ++ [d] }

@[simp] theorem events_ctrl (s : Sys) (es : List CtrlEvent) : (s.events es).ctrl = s.ctrl.events es :=
  rfl

@[simp] theorem events_nil (s : Sys) : s.events [] = s := rfl

@[simp] theorem events_priv (s : Sys) (es : List CtrlEvent) : (s.events es).priv = s.priv := rfl

@[simp] theorem events_ghost (s : Sys) (es : List CtrlEvent) : (s.events es).ghost = s.ghost := rfl

@[simp] theorem read2regs_fst (s : Sys) (reg : BitVec 8) :
    (s.read2regs reg).1 = (s.ctrl.regs reg, s.ctrl.regs (reg + 1)) := rfl

@[simp] theorem read2regs_ctrl (s : Sys) (reg : BitVec 8) : (s.read2regs reg).2.ctrl = s.ctrl := rfl

@[simp] theorem read2regs_priv (s : Sys) (reg : BitVec 8) : (s.read2regs reg).2.priv = s.priv := rfl

@[simp] theorem read2regs_delivered (s : Sys) (reg : BitVec 8) :
    (s.read2regs reg).2.ghost.delivered = s.ghost.delivered := rfl

@[simp] theorem read2regs_txns (s : Sys) (reg : BitVec 8) :
    (s.read2regs reg).2.ghost.txns =
      s.ghost.txns ++ [.read2regs reg (s.ctrl.regs reg) (s.ctrl.regs (reg + 1))] := rfl

@[simp] theorem writeBits_ctrl (s : Sys) (reg mask val : BitVec 8) :
    (s.writeBits reg mask val).ctrl = s.ctrl.writeBits reg mask val := rfl

@[simp] theorem writeBits_priv (s : Sys) (reg mask val : BitVec 8) :
    (s.writeBits reg mask val).priv = s.priv := rfl

@[simp] theorem writeBits_delivered (s : Sys) (reg mask val : BitVec 8) :
    (s.writeBits reg mask val).ghost.delivered = s.ghost.delivered := rfl

@[simp] theorem writeBits_txns (s : Sys) (reg mask val : BitVec 8) :
    (s.writeBits reg mask val).ghost.txns = s.ghost.txns ++ [.writeBits reg mask val] := rfl

@[simp] theorem writeReg_ctrl (s : Sys) (reg val : BitVec 8) :
    (s.writeReg reg val).ctrl = s.ctrl.writeReg reg val := rfl

@[simp] theorem writeReg_priv (s : Sys) (reg val : BitVec 8) : (s.writeReg reg val).priv = s.priv :=
  rfl

@[simp] theorem writeReg_delivered (s : Sys) (reg val : BitVec 8) :
    (s.writeReg reg val).ghost.delivered = s.ghost.delivered := rfl

@[simp] theorem writeReg_txns (s : Sys) (reg val : BitVec 8) :
    (s.writeReg reg val).ghost.txns = s.ghost.txns ++ [.writeReg reg val] := rfl

@[simp] theorem readReg_fst (s : Sys) (reg : BitVec 8) : (s.readReg reg).1 = s.ctrl.regs reg := rfl

@[simp] theorem readReg_ctrl (s : Sys) (reg : BitVec 8) : (s.readReg reg).2.ctrl = s.ctrl := rfl

@[simp] theorem readReg_priv (s : Sys) (reg : BitVec 8) : (s.readReg reg).2.priv = s.priv := rfl

@[simp] theorem readReg_txns (s : Sys) (reg : BitVec 8) :
    (s.readReg reg).2.ghost.txns = s.ghost.txns ++ [.readReg reg (s.ctrl.regs reg)] := rfl

@[simp] theorem reset_priv (s : Sys) : s.reset.priv = s.priv := rfl

@[simp] theorem mcp2515HwSleep_eq (s : Sys) : s.mcp2515HwSleep = s.writeReg canctrl canctrlReqopSleep :=
  rfl

@[simp] theorem deliver_ctrl (s : Sys) (d : Delivery) : (s.deliver d).ctrl = s.ctrl := rfl

@[simp] theorem deliver_priv (s : Sys) (d : Delivery) : (s.deliver d).priv = s.priv := rfl

@[simp] theorem deliver_delivered (s : Sys) (d : Delivery) :
    (s.deliver d).ghost.delivered = s.ghost.delivered ++ [d] := rfl

@[simp] theorem deliver_txns (s : Sys) (d : Delivery) : (s.deliver d).ghost.txns = s.ghost.txns :=
  rfl

end Sys

/-- `mcp2515_hw_rx(priv, n)`: with a socket buffer, read buffer `n` and pass its frame up;
without one, count a drop and return, leaving the buffer unread. -/
def mcp2515HwRx (alloc : Bool) (n : Fin 2) (s : Sys) : Sys :=
  if alloc then
    let (f, c) := s.ctrl.readRxb n
    let frame := mcp2515HwRxDecode f.image
    { s with ctrl := c
             priv.stats.rxPackets := s.priv.stats.rxPackets + 1
             priv.stats.rxBytes := s.priv.stats.rxBytes + frame.canDlc.toNat
             ghost.delivered := s.ghost.delivered ++ [.frame n f.id]
             ghost.txns := s.ghost.txns ++ [.readRxb n] }
  else
    { s with priv.stats.rxDropped := s.priv.stats.rxDropped + 1
             ghost.drops := s.ghost.drops ++ [(s.ctrl.rxb n).id] }

/-- `mcp2515_error_skb(net, can_id, data1)`: an error frame `CAN_ERR_FLAG | can_id` with
`data[1] = data1`, when one can be allocated. -/
def mcp2515ErrorSkb (alloc : Bool) (canId : BitVec 32) (data1 : BitVec 8) (s : Sys) : Sys :=
  if alloc then s.deliver (.error (canErrFlag ||| canId) data1) else s

/-- The new state of an `EFLG` value, with the error class and detail it reports, in the
source's order of precedence. -/
def newStateOf (eflag : BitVec 8) : CanState × BitVec 32 × BitVec 8 :=
  if eflag &&& eflgTxbo != 0 then (.busOff, canErrBusoff, 0)
  else if eflag &&& eflgTxep != 0 then (.errorPassive, canErrCrtl, canErrCrtlTxPassive)
  else if eflag &&& eflgRxep != 0 then (.errorPassive, canErrCrtl, canErrCrtlRxPassive)
  else if eflag &&& eflgTxwar != 0 then (.errorWarning, canErrCrtl, canErrCrtlTxWarning)
  else if eflag &&& eflgRxwar != 0 then (.errorWarning, canErrCrtl, canErrCrtlRxWarning)
  else (.errorActive, 0, 0)

/-- The `switch` on the old state that counts entries into warning and passive, falling
through from error-active to error-warning. -/
def updateCanStats (state newState : CanState) (cs : CanStats) : CanStats :=
  let passive (cs : CanStats) : CanStats :=
    if 2 ≤ newState.toNat ∧ newState.toNat ≤ 3 then { cs with errorPassive := cs.errorPassive + 1 }
    else cs
  match state with
  | .errorActive =>
    passive (if 1 ≤ newState.toNat ∧ newState.toNat ≤ 3 then
      { cs with errorWarning := cs.errorWarning + 1 } else cs)
  | .errorWarning => passive cs
  | _ => cs

/-- The overflow counters of the `ERRIF` branch: one receive error per overflow bit. -/
def countOverflows (eflag : BitVec 8) (st : NetStats) : NetStats :=
  let one (bit : BitVec 8) (st : NetStats) : NetStats :=
    if eflag &&& bit != 0 then
      { st with rxOverErrors := st.rxOverErrors + 1, rxErrors := st.rxErrors + 1 }
    else st
  one eflgRx1ovr (one eflgRx0ovr st)

/-- The transmit-complete branch: count the frame, echo it if one was in flight, wake the
queue. -/
def txComplete (s : Sys) : Sys :=
  let s := { s with priv.stats.txPackets := s.priv.stats.txPackets + 1
                    priv.stats.txBytes := s.priv.stats.txBytes + (s.priv.txLen - 1) }
  let s := if s.priv.txLen ≠ 0 then { s.deliver .echo with priv.txLen := 0 } else s
  { s with priv.queueStopped := false }

/-- What the world does during one pass: controller events before each transaction, and the
outcomes of the receive and error-frame allocations. -/
structure PassEnv where
  beforeRead : List CtrlEvent
  beforeRx0 : List CtrlEvent
  allocRx0 : Bool
  beforeRx1 : List CtrlEvent
  allocRx1 : Bool
  beforeClear : List CtrlEvent
  beforeEflg : List CtrlEvent
  allocErr : Bool

/-- The flags the handler keeps after masking. -/
def intfMask : BitVec 8 := canintfRx ||| canintfTx ||| canintfErr

/-- The receive part of a pass: each buffer whose flag was read is emptied. -/
def istRx (env : PassEnv) (intf : BitVec 8) (s : Sys) : Sys :=
  let s := s.events env.beforeRx0
  let s := if intf &&& canintfRx0if != 0 then mcp2515HwRx env.allocRx0 0 s else s
  let s := s.events env.beforeRx1
  if intf &&& canintfRx1if != 0 then mcp2515HwRx env.allocRx1 1 s else s

/-- The `CANINTF` bits a pass clears: the error and transmit flags it read. -/
def clearIntfOf (intf : BitVec 8) : BitVec 8 :=
  if intf &&& (canintfErr ||| canintfTx) != 0 then 0 ||| (intf &&& (canintfErr ||| canintfTx))
  else 0

/-- The clearing part of a pass: the error and transmit flags read, then the `EFLG` bits read. -/
def istClear (env : PassEnv) (intf eflag : BitVec 8) (s : Sys) : Sys :=
  let s := s.events env.beforeClear
  let s := if clearIntfOf intf != 0 then s.writeBits canintf (clearIntfOf intf) 0 else s
  let s := s.events env.beforeEflg
  if eflag != 0 then s.writeBits eflg eflag 0 else s

/-- The state part of a pass: new state and its statistics, and, when `ERRIF` was read, the
overflow counters and one error frame. -/
def istErrors (env : PassEnv) (intf eflag : BitVec 8) (s : Sys) : Sys :=
  let (newState, canId, data1) := newStateOf eflag
  let s := { s with priv.canStats := updateCanStats s.priv.state newState s.priv.canStats
                    priv.state := newState }
  if intf &&& canintfErrif != 0 then
    if eflag &&& (eflgRx0ovr ||| eflgRx1ovr) != 0 then
      mcp2515ErrorSkb env.allocErr (canId ||| canErrCrtl) (data1 ||| canErrCrtlRxOverflow)
        { s with priv.stats := countOverflows eflag s.priv.stats }
    else mcp2515ErrorSkb env.allocErr canId data1 s
  else s

/-- The end of a pass: the bus-off latch when restart is disabled, the exit when nothing was
pending, else transmit completion; and whether the loop goes round again. -/
def istEnd (intf : BitVec 8) (s : Sys) : Sys × Bool :=
  if s.priv.state = .busOff ∧ s.priv.restartMs = 0 then
    ({ s with priv.forceQuit := true }.mcp2515HwSleep, false)
  else if intf = 0 then (s, false)
  else (if intf &&& canintfTx != 0 then txComplete s else s, true)

/-- One pass of the loop of `mcp2515_can_ist`, and whether the loop goes round again. -/
def istPass (env : PassEnv) (s : Sys) : Sys × Bool :=
  let ((intf, eflag), s) := (s.events env.beforeRead).read2regs canintf
  let intf := intf &&& intfMask
  istEnd intf (istErrors env intf eflag (istClear env intf eflag (istRx env intf s)))

/-- One invocation of `mcp2515_can_ist` over the passes it is given: the state, and whether
the handler has returned (`false`: still in its loop when the passes ran out). -/
def mcp2515CanIst : List PassEnv → Sys → Sys × Bool
  | [], s => (s, s.priv.forceQuit)
  | env :: envs, s =>
    if s.priv.forceQuit then (s, true)
    else
      match istPass env s with
      | (s', true) => mcp2515CanIst envs s'
      | (s', false) => (s', true)

/-! ## What each part of a pass changes -/

/-- The `CANINTF` and `EFLG` values a pass reads. -/
def passRead (env : PassEnv) (s : Sys) : BitVec 8 × BitVec 8 :=
  ((s.events env.beforeRead).read2regs canintf).1

/-- A pass is its four parts applied to what it read. -/
theorem istPass_eq (env : PassEnv) (s : Sys) : istPass env s =
    istEnd ((passRead env s).1 &&& intfMask) (istErrors env ((passRead env s).1 &&& intfMask)
      (passRead env s).2 (istClear env ((passRead env s).1 &&& intfMask) (passRead env s).2
        (istRx env ((passRead env s).1 &&& intfMask)
          ((s.events env.beforeRead).read2regs canintf).2))) := rfl

theorem passRead_eq (env : PassEnv) (s : Sys) :
    passRead env s = ((s.ctrl.events env.beforeRead).regs canintf,
      (s.ctrl.events env.beforeRead).regs eflg) := by
  simp only [passRead, Sys.read2regs_fst, Sys.events_ctrl, show canintf + 1 = eflg by decide]

section HwRx

variable (a : Bool) (n : Fin 2) (s : Sys)

@[simp] theorem mcp2515HwRx_state : (mcp2515HwRx a n s).priv.state = s.priv.state := by
  cases a <;> rfl

@[simp] theorem mcp2515HwRx_restartMs : (mcp2515HwRx a n s).priv.restartMs = s.priv.restartMs := by
  cases a <;> rfl

@[simp] theorem mcp2515HwRx_forceQuit : (mcp2515HwRx a n s).priv.forceQuit = s.priv.forceQuit := by
  cases a <;> rfl

@[simp] theorem mcp2515HwRx_rxOverErrors :
    (mcp2515HwRx a n s).priv.stats.rxOverErrors = s.priv.stats.rxOverErrors := by
  cases a <;> rfl

@[simp] theorem mcp2515HwRx_rxErrors :
    (mcp2515HwRx a n s).priv.stats.rxErrors = s.priv.stats.rxErrors := by
  cases a <;> rfl

theorem mcp2515HwRx_txns :
    (mcp2515HwRx a n s).ghost.txns = s.ghost.txns ++ if a then [.readRxb n] else [] := by
  cases a <;> simp [mcp2515HwRx]

theorem mcp2515HwRx_delivered : (mcp2515HwRx a n s).ghost.delivered =
    s.ghost.delivered ++ if a then [.frame n (s.ctrl.rxb n).id] else [] := by
  cases a <;> simp [mcp2515HwRx]

end HwRx

section Parts

variable (env : PassEnv) (intf eflag : BitVec 8) (s : Sys)

/-- What controller events and every `mcp2515_hw_rx` keep, the receive part keeps. -/
theorem istRx_preserves {P : Sys → Prop} (he : ∀ t es, P t → P (t.events es))
    (hr : ∀ a n t, P t → P (mcp2515HwRx a n t)) (hs : P s) : P (istRx env intf s) := by
  have hite : ∀ (c : Bool) a n t, P t → P (if c then mcp2515HwRx a n t else t) := by
    intro c a n t h
    cases c
    exacts [h, hr a n t h]
  exact hite _ _ _ _ (he _ _ (hite _ _ _ _ (he _ _ hs)))

/-- The receive part changes only the receive counters. -/
theorem istRx_priv_errors : (istRx env intf s).priv.state = s.priv.state ∧
    (istRx env intf s).priv.stats.rxOverErrors = s.priv.stats.rxOverErrors ∧
    (istRx env intf s).priv.stats.rxErrors = s.priv.stats.rxErrors := by
  unfold istRx
  split <;> split <;> simp

theorem istRx_txns : ∃ l, (istRx env intf s).ghost.txns = s.ghost.txns ++ l ∧
    ∀ t ∈ l, ∃ k, t = .readRxb k :=
  istRx_preserves env intf s (P := fun t => ∃ l, t.ghost.txns = s.ghost.txns ++ l ∧
      ∀ x ∈ l, ∃ k, x = .readRxb k) (fun _ _ h => h)
    (fun a n t ⟨l, hl, hk⟩ => ⟨l ++ if a then [.readRxb n] else [],
      by rw [mcp2515HwRx_txns, hl, List.append_assoc], fun x hx => by
        rcases List.mem_append.1 hx with hx | hx
        · exact hk x hx
        · cases a <;> simp at hx
          exact ⟨n, hx⟩⟩) ⟨[], (List.append_nil _).symm, by simp⟩

theorem istRx_restartMs : (istRx env intf s).priv.restartMs = s.priv.restartMs := by
  unfold istRx
  split <;> split <;> simp

theorem istClear_priv : (istClear env intf eflag s).priv = s.priv := by
  unfold istClear
  split <;> split <;> rfl

theorem istClear_delivered : (istClear env intf eflag s).ghost.delivered = s.ghost.delivered := by
  unfold istClear
  split <;> split <;> rfl

theorem istClear_txns : (istClear env intf eflag s).ghost.txns = s.ghost.txns ++
    ((if clearIntfOf intf != 0 then [.writeBits canintf (clearIntfOf intf) 0] else []) ++
      if eflag != 0 then [.writeBits eflg eflag 0] else []) := by
  unfold istClear
  split <;> split <;> simp_all

theorem istErrors_ctrl : (istErrors env intf eflag s).ctrl = s.ctrl := by
  unfold istErrors mcp2515ErrorSkb
  dsimp only
  split <;> (try split) <;> (try split) <;> rfl

theorem istErrors_txns : (istErrors env intf eflag s).ghost.txns = s.ghost.txns := by
  unfold istErrors mcp2515ErrorSkb
  dsimp only
  split <;> (try split) <;> (try split) <;> rfl

theorem istErrors_delivered : (istErrors env intf eflag s).ghost.delivered = s.ghost.delivered ∨
    ∃ canId data1, (istErrors env intf eflag s).ghost.delivered =
      s.ghost.delivered ++ [.error canId data1] := by
  unfold istErrors mcp2515ErrorSkb
  dsimp only
  split <;> (try split) <;> (try split) <;> simp

/-- The state part sets the state `EFLG` gives and leaves the restart setting alone. -/
theorem istErrors_state : (istErrors env intf eflag s).priv.state = (newStateOf eflag).1 ∧
    (istErrors env intf eflag s).priv.restartMs = s.priv.restartMs := by
  rcases hns : newStateOf eflag with ⟨ns, c, d⟩
  simp only [istErrors, hns, mcp2515ErrorSkb]
  split <;> (try split) <;> (try split) <;> exact ⟨rfl, rfl⟩

/-- The end of a pass leaves the state and the receive error counters alone. -/
theorem istEnd_priv_errors : (istEnd intf s).1.priv.state = s.priv.state ∧
    (istEnd intf s).1.priv.stats.rxOverErrors = s.priv.stats.rxOverErrors ∧
    (istEnd intf s).1.priv.stats.rxErrors = s.priv.stats.rxErrors := by
  unfold istEnd txComplete
  dsimp only
  split <;> (try split) <;> (try split) <;> (try split) <;> exact ⟨rfl, rfl, rfl⟩

theorem istEnd_ctrl : (istEnd intf s).1.ctrl = s.ctrl ∨
    (istEnd intf s).1.ctrl = s.ctrl.writeReg canctrl canctrlReqopSleep := by
  unfold istEnd txComplete
  dsimp only
  split <;> (try split) <;> (try split) <;> (try split) <;> simp

theorem istEnd_txns : (istEnd intf s).1.ghost.txns = s.ghost.txns ∨
    (istEnd intf s).1.ghost.txns = s.ghost.txns ++ [.writeReg canctrl canctrlReqopSleep] := by
  unfold istEnd txComplete
  dsimp only
  split <;> (try split) <;> (try split) <;> (try split) <;> simp

theorem istEnd_delivered : (istEnd intf s).1.ghost.delivered = s.ghost.delivered ∨
    (istEnd intf s).1.ghost.delivered = s.ghost.delivered ++ [.echo] := by
  unfold istEnd txComplete
  dsimp only
  split <;> (try split) <;> (try split) <;> (try split) <;> simp

/-- A pass that ends the handler's loop with `force_quit` clear read no pending flag. -/
theorem intf_eq_zero_of_istEnd (h2 : (istEnd intf s).2 = false)
    (hq : (istEnd intf s).1.priv.forceQuit = false) : intf = 0 := by
  unfold istEnd at h2 hq
  by_cases hb : s.priv.state = .busOff ∧ s.priv.restartMs = 0
  · rw [if_pos hb] at hq
    simp at hq
  · rw [if_neg hb] at h2
    by_cases hi : intf = 0
    · exact hi
    · rw [if_neg hi] at h2
      simp at h2

theorem istRx_forceQuit : (istRx env intf s).priv.forceQuit = s.priv.forceQuit := by
  unfold istRx
  split <;> split <;> simp

theorem istErrors_forceQuit : (istErrors env intf eflag s).priv.forceQuit = s.priv.forceQuit := by
  unfold istErrors mcp2515ErrorSkb
  dsimp only
  split <;> (try split) <;> (try split) <;> rfl

theorem txComplete_forceQuit : (txComplete s).priv.forceQuit = s.priv.forceQuit := by
  unfold txComplete
  dsimp only
  split <;> rfl

/-- The end of a pass sets `force_quit` only by the bus-off latch. -/
theorem istEnd_forceQuit (h : (istEnd intf s).1.priv.forceQuit = true) :
    s.priv.forceQuit = true ∨ (istEnd intf s).1.priv.state = .busOff := by
  unfold istEnd at h ⊢
  split
  · next hb => exact .inr hb.1
  · split at h
    · contradiction
    · split at h
      · exact .inl h
      · split at h
        · exact .inl (txComplete_forceQuit s ▸ h)
        · exact .inl h

/-- A pass sets `force_quit` only by the bus-off latch. -/
theorem istPass_forceQuit (h : (istPass env s).1.priv.forceQuit = true) :
    s.priv.forceQuit = true ∨ (istPass env s).1.priv.state = .busOff := by
  rw [istPass_eq] at h ⊢
  refine (istEnd_forceQuit _ _ h).imp_left fun h => ?_
  simpa [istErrors_forceQuit, istClear_priv, istRx_forceQuit] using h

end Parts

/-! ## What the handler leaves alone -/

/-- From `s` to `t` the fields the handler does not own stayed: the frame in the transmit slot,
the candev and interrupt registrations and the fault record; the queue was at most woken. -/
def Sys.HandlerKeeps (s t : Sys) : Prop :=
  t.priv.txSkb = s.priv.txSkb ∧ t.priv.candevOpen = s.priv.candevOpen ∧
    t.priv.irqRegistered = s.priv.irqRegistered ∧ t.ghost.oops = s.ghost.oops ∧
    (t.priv.queueStopped = true → s.priv.queueStopped = true)

theorem Sys.HandlerKeeps.refl (s : Sys) : s.HandlerKeeps s := ⟨rfl, rfl, rfl, rfl, id⟩

theorem Sys.HandlerKeeps.trans {s t u : Sys} (h₁ : s.HandlerKeeps t) (h₂ : t.HandlerKeeps u) :
    s.HandlerKeeps u :=
  ⟨h₂.1.trans h₁.1, h₂.2.1.trans h₁.2.1, h₂.2.2.1.trans h₁.2.2.1, h₂.2.2.2.1.trans h₁.2.2.2.1,
    fun h => h₁.2.2.2.2 (h₂.2.2.2.2 h)⟩

section Keeps

variable (env : PassEnv) (intf eflag : BitVec 8) (s : Sys)

theorem handlerKeeps_istRx : s.HandlerKeeps (istRx env intf s) :=
  istRx_preserves env intf s (P := s.HandlerKeeps) (fun _ _ h => h)
    (fun a _ _ h => h.trans (by cases a <;> exact Sys.HandlerKeeps.refl _))
    (Sys.HandlerKeeps.refl s)

theorem handlerKeeps_istClear : s.HandlerKeeps (istClear env intf eflag s) := by
  unfold istClear
  split <;> split <;> exact Sys.HandlerKeeps.refl _

theorem handlerKeeps_istErrors : s.HandlerKeeps (istErrors env intf eflag s) := by
  unfold istErrors mcp2515ErrorSkb
  dsimp only
  split <;> (try split) <;> (try split) <;> exact Sys.HandlerKeeps.refl _

/-- The end of a pass wakes the queue on a transmit completion and keeps the rest. -/
theorem handlerKeeps_istEnd : s.HandlerKeeps (istEnd intf s).1 := by
  unfold istEnd txComplete
  dsimp only
  split <;> (try split) <;> (try split) <;> (try split) <;>
    exact ⟨rfl, rfl, rfl, rfl, by simp⟩

/-- A pass keeps the frame in the transmit slot, the registrations and the fault record, and
can only wake the queue. -/
theorem handlerKeeps_istPass : s.HandlerKeeps (istPass env s).1 := by
  set i := (passRead env s).1 &&& intfMask
  set e := (passRead env s).2
  set s₁ := ((s.events env.beforeRead).read2regs canintf).2
  have h₁ : s.HandlerKeeps s₁ := Sys.HandlerKeeps.refl s
  have h₂ := handlerKeeps_istRx env i s₁
  have h₃ := handlerKeeps_istClear env i e (istRx env i s₁)
  have h₄ := handlerKeeps_istErrors env i e (istClear env i e (istRx env i s₁))
  rw [istPass_eq]
  exact h₁.trans (h₂.trans (h₃.trans (h₄.trans (handlerKeeps_istEnd i _))))

end Keeps

/-- An invocation of the handler with `force_quit` set returns at once. -/
theorem mcp2515CanIst_of_forceQuit (envs : List PassEnv) {s : Sys} (h : s.priv.forceQuit = true) :
    mcp2515CanIst envs s = (s, true) := by
  cases envs <;> simp [mcp2515CanIst, h]

/-- An invocation that returns with `force_quit` clear ends with a pass that left the loop. -/
theorem mcp2515CanIst_last_pass {envs : List PassEnv} {s s' : Sys}
    (h : mcp2515CanIst envs s = (s', true)) (hq : s'.priv.forceQuit = false) :
    ∃ env s₀, istPass env s₀ = (s', false) := by
  induction envs generalizing s with
  | nil =>
    simp only [mcp2515CanIst, Prod.mk.injEq] at h
    obtain ⟨rfl, h⟩ := h
    simp [h] at hq
  | cons env envs ih =>
    unfold mcp2515CanIst at h
    split at h
    · obtain ⟨rfl, -⟩ := Prod.mk.inj h
      simp_all
    · split at h
      · exact ih h
      · next hp => exact ⟨env, s, by rw [hp, (Prod.mk.inj h).1]⟩

/-- What every pass that starts with `force_quit` clear keeps, an invocation of the handler
keeps. -/
theorem mcp2515CanIst_preserves {P : Sys → Prop}
    (hp : ∀ env s, s.priv.forceQuit = false → P s → P (istPass env s).1) (envs : List PassEnv)
    {s : Sys} (hs : P s) : P (mcp2515CanIst envs s).1 := by
  induction envs generalizing s with
  | nil => exact hs
  | cons env envs ih =>
    unfold mcp2515CanIst
    split
    · exact hs
    · next hq =>
      have h := hp env s (Bool.eq_false_iff.mpr hq) hs
      split
      · next heq => exact ih (by rw [heq] at h; exact h)
      · next heq => rw [heq] at h; exact h

theorem handlerKeeps_mcp2515CanIst (envs : List PassEnv) (s : Sys) :
    s.HandlerKeeps (mcp2515CanIst envs s).1 :=
  mcp2515CanIst_preserves (P := s.HandlerKeeps)
    (fun env t _ h => h.trans (handlerKeeps_istPass env t)) envs (Sys.HandlerKeeps.refl s)

/-! ## Runs at the level of the handler -/

/-- The states reached from `s₀` by controller events at any moment and by passes of the
handler whenever `force_quit` is clear, the condition of its loop. Each invocation of
`mcp2515_can_ist` is a run of such passes; events inside a pass come with its `PassEnv`. -/
inductive HandlerReach (s₀ : Sys) : Sys → Prop
  | init : HandlerReach s₀ s₀
  | event {s : Sys} (e : CtrlEvent) : HandlerReach s₀ s → HandlerReach s₀ (s.events [e])
  | pass {s : Sys} (env : PassEnv) :
      HandlerReach s₀ s → s.priv.forceQuit = false → HandlerReach s₀ (istPass env s).1

/-- An invocation of the handler is a run of passes. -/
theorem handlerReach_mcp2515CanIst {s₀ s : Sys} (envs : List PassEnv) (hs : HandlerReach s₀ s) :
    HandlerReach s₀ (mcp2515CanIst envs s).1 :=
  mcp2515CanIst_preserves (P := HandlerReach s₀) (fun env _ hq h => h.pass env hq) envs hs

/-- A pass during which the controller does nothing and every allocation succeeds. -/
def PassEnv.quiet : PassEnv := ⟨[], [], true, [], true, [], [], true⟩

/-- A driver just opened, error-active with restart disabled, in front of a controller with
every register 0 and empty buffers, before any traffic. -/
def quietSys : Sys :=
  ⟨⟨fun _ => 0, fun _ => ⟨0, fun _ => 0⟩, [], fun _ => []⟩,
    ⟨.errorActive, 0, 0, ⟨1, 1, 1, 1, 1⟩, false, none, 0, false, 0, false, true, true,
      ⟨0, 0, 0, 0, 0, 0, 0, 0, 0⟩, ⟨0, 0⟩⟩, ⟨[], [], [], none⟩⟩

end Mcp2515Banged
