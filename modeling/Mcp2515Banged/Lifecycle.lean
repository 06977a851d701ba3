import Mcp2515Banged.Interrupts

/-!
# Open, stop, transmit and restart

The network-device operations of the driver at the level of register transactions:
`mcp2515_open` with each of its error paths, `mcp2515_stop`, `mcp2515_hard_start_xmit` and
`mcp2515_do_set_mode`. Together with invocations of the interrupt handler and controller
events they make up the runs of the whole driver.

The work queue `priv->wq` is never created (its `alloc_workqueue` in `mcp2515_open` is
commented out, and the transmit and restart work handlers are compiled out). A valid frame
handed to `mcp2515_hard_start_xmit` and a restart by `mcp2515_do_set_mode` end in
`queue_work(priv->wq, …)`, and `mcp2515_stop` in `destroy_workqueue(priv->wq)`: each
dereferences the `NULL` pointer. The run ends there, in the state the call left before the
fault; `mcp2515_stop` never reaches its register writes, `mcp2515_clean`, the power-off or
`CAN_STATE_STOPPED`, and leaves the interrupt registered. `ndo_open` is only called on a
device that is down. Controller events inside an operation are given before each register
read, the only points where they change what the driver does.

## Main definitions

* `mcp2515Clean`, `mcp2515HardStartXmit`, `mcp2515DoSetMode`, `mcp2515Stop` — the transmit
  slot, restart and stop, each with the fault it ends in
* `Sys.mcp2515SetNormalMode` — the wait for normal mode, over the `jiffies` values it reads
* `Sys.mcp2515Open` — the start of a session
* `DriverOp`, `driverStep`, `driverRun` — runs of the whole driver, ended by a fault
* `Sys.SlotInv`, `Sys.NoFrameInFlight` — the transmit slot and its counters over a run

## Main results

* `busOff_latch_until_open` — bus-off with restart disabled latches `force_quit`, and every
  invocation of the handler returns at once until the next call of `mcp2515_open`; the slot
  is empty in every state of a run but the fault of `mcp2515_hard_start_xmit`
* `driverRun_queueStopped_eq_txBusy` — the queue is stopped exactly when the slot is occupied,
  which happens only at that fault
* `driverRun_txBytes_neg_txPackets` — `tx_bytes` is minus `tx_packets` over every run
-/

namespace Mcp2515Banged

/-- Modelled from the spec: `enum can_mode` of `linux/can/netlink.h`. -/
inductive CanMode
  | stop
  | start
  | sleep
  deriving DecidableEq, Repr

/-- Modelled from the spec: `netdev_tx_t` of `linux/netdevice.h`. -/
inductive NetdevTx
  | ok
  | busy
  deriving DecidableEq, Repr

def afterSuspendRestart : Nat := 8

/-! ## The transmit slot -/

/-- The transmit slot holds a frame: `priv->tx_skb || priv->tx_len`. -/
def Priv.txBusy (p : Priv) : Bool := p.txSkb.isSome || p.txLen != 0

/-- `mcp2515_clean(net)`: a frame in the slot is freed and counted once as a transmit
error. -/
def mcp2515Clean (p : Priv) : Priv :=
  let p := if p.txBusy then { p with stats.txErrors := p.stats.txErrors + 1 } else p
  { p with txSkb := none, txLen := 0 }

/-- `mcp2515_hard_start_xmit(skb, net)`; `invalid` is the verdict of
`can_dropped_invalid_skb`, which frees the buffer and counts it in `tx_dropped`. A valid frame
stops the queue and fills the slot, and `queue_work` faults. -/
def mcp2515HardStartXmit (skb : Nat) (invalid : Bool) (p : Priv) :
    Except NullWqCall NetdevTx × Priv :=
  if p.txBusy then (.ok .busy, p)
  else if invalid then (.ok .ok, { p with stats.txDropped := p.stats.txDropped + 1 })
  else (.error .queueTxWork, { p with queueStopped := true, txSkb := some skb })

/-- `mcp2515_do_set_mode(net, mode)`: `CAN_MODE_START` frees the slot, reports error-active and
asks for a restart, and `queue_work` faults; other modes are refused. -/
def mcp2515DoSetMode (mode : CanMode) (p : Priv) : Except NullWqCall (Except Errno Unit) × Priv :=
  match mode with
  | .start =>
    let p := { mcp2515Clean p with state := .errorActive, restartTx := true }
    (.error .queueRestartWork,
      if p.restartMs = 0 then { p with afterSuspend := afterSuspendRestart } else p)
  | _ => (.ok (.error .eopnotsupp), p)

/-- `mcp2515_stop(net)`: `close_candev`, `force_quit = 1`, and `destroy_workqueue`, which
faults. -/
def mcp2515Stop (p : Priv) : Except NullWqCall Unit × Priv :=
  (.error .destroyWorkqueue, { p with candevOpen := false, forceQuit := true })

/-- The call on the missing work queue where a driver call faulted, if it did. -/
def faultOf {α : Type} : Except NullWqCall α → Option NullWqCall
  | .ok _ => none
  | .error c => some c

/-- The state after a driver call that returned or faulted, leaving the fields `rp.2`. -/
def Sys.afterCall {α : Type} (s : Sys) (rp : Except NullWqCall α × Priv) : Sys :=
  { s with priv := rp.2, ghost.oops := faultOf rp.1 }

section AfterCall

variable {α : Type} (s : Sys) (rp : Except NullWqCall α × Priv)

@[simp] theorem afterCall_priv : (s.afterCall rp).priv = rp.2 := rfl

@[simp] theorem afterCall_ctrl : (s.afterCall rp).ctrl = s.ctrl := rfl

@[simp] theorem afterCall_delivered : (s.afterCall rp).ghost.delivered = s.ghost.delivered := rfl

@[simp] theorem afterCall_drops : (s.afterCall rp).ghost.drops = s.ghost.drops := rfl

@[simp] theorem afterCall_oops : (s.afterCall rp).ghost.oops = faultOf rp.1 := rfl

end AfterCall

@[simp] theorem faultOf_ok {α : Type} (a : α) : faultOf (.ok a : Except NullWqCall α) = none :=
  rfl

@[simp] theorem faultOf_error {α : Type} (c : NullWqCall) :
    faultOf (.error c : Except NullWqCall α) = some c := rfl

theorem mcp2515Clean_eq (p : Priv) : mcp2515Clean p = { p with
    txSkb := none, txLen := 0,
    stats.txErrors := if p.txBusy then p.stats.txErrors + 1 else p.stats.txErrors } := by
  unfold mcp2515Clean
  split <;> simp_all

@[simp] theorem mcp2515Clean_forceQuit (p : Priv) : (mcp2515Clean p).forceQuit = p.forceQuit := by
  unfold mcp2515Clean
  split <;> rfl

@[simp] theorem mcp2515HardStartXmit_forceQuit (skb : Nat) (invalid : Bool) (p : Priv) :
    (mcp2515HardStartXmit skb invalid p).2.forceQuit = p.forceQuit := by
  unfold mcp2515HardStartXmit
  split <;> (try split) <;> rfl

@[simp] theorem mcp2515HardStartXmit_state (skb : Nat) (invalid : Bool) (p : Priv) :
    (mcp2515HardStartXmit skb invalid p).2.state = p.state := by
  unfold mcp2515HardStartXmit
  split <;> (try split) <;> rfl

@[simp] theorem mcp2515DoSetMode_forceQuit (mode : CanMode) (p : Priv) :
    (mcp2515DoSetMode mode p).2.forceQuit = p.forceQuit := by
  cases mode
  case start => simp only [mcp2515DoSetMode]; split <;> simp
  all_goals rfl

/-! ## Register routines of a session -/

namespace Sys

/-- `mcp2515_hw_reset(priv)`: `RESET`, then, after the controller's events, the check that
`CANSTAT` shows configuration mode. -/
def mcp2515HwReset (es : List CtrlEvent) (s : Sys) : Except Errno Unit × Sys :=
  let (reg, s) := (s.reset.events es).readReg canstat
  (if reg &&& canctrlReqopMask != canctrlReqopConf then .error .enodev else .ok (), s)

/-- `mcp2515_do_set_bittiming(net)`, computing in the width of `struct can_bittiming` and
truncating to the register. -/
def mcp2515DoSetBittiming (s : Sys) : Sys :=
  let bt := s.priv.bittiming
  let s := s.writeReg cnf1 (((bt.sjw - 1) <<< cnf1SjwShift ||| (bt.brp - 1)).setWidth 8)
  let s := s.writeReg cnf2 ((cnf2Btlmode.setWidth 32 |||
    (if s.priv.ctrlmode &&& canCtrlmode3Samples ≠ 0 then cnf2Sam.setWidth 32 else 0) |||
    (bt.phaseSeg1 - 1) <<< cnf2Ps1Shift ||| (bt.propSeg - 1)).setWidth 8)
  s.writeBits cnf3 cnf3Phseg2Mask ((bt.phaseSeg2 - 1).setWidth 8)

/-- `mcp2515_setup(net, priv)`, which always returns 0. -/
def mcp2515Setup (s : Sys) : Sys :=
  let s := s.mcp2515DoSetBittiming
  let s := s.writeReg (rxbctrl 0) (rxbctrlBukt ||| rxbctrlRxm0 ||| rxbctrlRxm1)
  s.writeReg (rxbctrl 1) (rxbctrlRxm0 ||| rxbctrlRxm1)

@[simp] theorem mcp2515HwReset_priv (es : List CtrlEvent) (s : Sys) :
    (s.mcp2515HwReset es).2.priv = s.priv := rfl

@[simp] theorem mcp2515Setup_priv (s : Sys) : s.mcp2515Setup.priv = s.priv := rfl

theorem mcp2515Setup_ghost (s : Sys) :
    s.mcp2515Setup.ghost = { s.ghost with txns := s.mcp2515Setup.ghost.txns } := rfl

end Sys

/-- What `mcp2515_set_normal_mode` sees while it waits for normal mode: `jiffies` when it
sets its deadline, then for each round of its loop the controller's events before the
`CANSTAT` read and `jiffies` after `schedule()`. -/
structure NormalModeEnv (w : Nat) where
  start : BitVec w
  polls : List (List CtrlEvent × BitVec w)

/-- `time_after(a, b)`: `b - a` is negative as a signed `long`. -/
def timeAfter {w : Nat} (a b : BitVec w) : Bool := (b - a).msb

/-- The loop of `mcp2515_set_normal_mode` over the rounds given; `none` while it still
waits. -/
def normalModeWait {w : Nat} (timeout : BitVec w) :
    List (List CtrlEvent × BitVec w) → Sys → Option (Except Errno Unit × Sys)
  | [], _ => none
  | (es, j) :: polls, s =>
    let (reg, s) := (s.events es).readReg canstat
    if reg &&& canctrlReqopMask != 0 then
      if timeAfter j timeout then some (.error .ebusy, s) else normalModeWait timeout polls s
    else some (.ok (), s)

/-- The wait changes no field of the driver, and of the ghost logs only the transactions. -/
theorem normalModeWait_frame {w : Nat} {timeout : BitVec w}
    {polls : List (List CtrlEvent × BitVec w)} {s s' : Sys} {r : Except Errno Unit}
    (h : normalModeWait timeout polls s = some (r, s')) :
    s'.priv = s.priv ∧ s'.ghost = { s.ghost with txns := s'.ghost.txns } := by
  induction polls generalizing s with
  | nil => cases h
  | cons p polls ih =>
    simp only [normalModeWait] at h
    split at h
    · split at h
      · cases h; exact ⟨rfl, rfl⟩
      · obtain ⟨hp, hg⟩ := ih h
        exact ⟨hp, hg⟩
    · cases h; exact ⟨rfl, rfl⟩

/-- `mcp2515_set_normal_mode(net)` with `HZ = hz` on a `w`-bit `unsigned long`. -/
def Sys.mcp2515SetNormalMode {w : Nat} (hz : BitVec w) (env : NormalModeEnv w) (s : Sys) :
    Option (Except Errno Unit × Sys) :=
  let s := s.writeReg caninte caninteEnabled
  let r :=
    if s.priv.ctrlmode &&& canCtrlmodeLoopback ≠ 0 then
      some (.ok (), s.writeReg canctrl canctrlReqopLoopback)
    else if s.priv.ctrlmode &&& canCtrlmodeListenonly ≠ 0 then
      some (.ok (), s.writeReg canctrl canctrlReqopListenOnly)
    else normalModeWait (env.start + hz) env.polls (s.writeReg canctrl canctrlReqopNormal)
  r.map fun
    | (.ok (), s) => (.ok (), { s with priv.state := .errorActive })
    | (.error e, s) => (.error e, s)

/-- Entering normal mode changes only the state, and that only on success, and of the ghost
logs only the transactions. -/
theorem mcp2515SetNormalMode_frame {w : Nat} {hz : BitVec w} {env : NormalModeEnv w}
    {s s' : Sys} {r : Except Errno Unit} (h : s.mcp2515SetNormalMode hz env = some (r, s')) :
    s'.priv = (if r.isOk then { s.priv with state := .errorActive } else s.priv) ∧
      s'.ghost = { s.ghost with txns := s'.ghost.txns } := by
  simp only [Sys.mcp2515SetNormalMode, Option.map_eq_some'] at h
  obtain ⟨⟨r₀, s₀⟩, h₀, h⟩ := h
  have hf : s₀.priv = s.priv ∧ s₀.ghost = { s.ghost with txns := s₀.ghost.txns } := by
    split at h₀
    · cases h₀; exact ⟨rfl, rfl⟩
    · split at h₀
      · cases h₀; exact ⟨rfl, rfl⟩
      · obtain ⟨hp, hg⟩ := normalModeWait_frame h₀
        exact ⟨hp, hg⟩
  rcases r₀ with e | ⟨⟩ <;> cases h <;> exact ⟨by simp [hf.1, Except.isOk, Except.toBool], hf.2⟩

/-! ## Open and stop -/

/-- What the world does during `mcp2515_open`: the results of `open_candev` and
`request_threaded_irq`, the controller's events before the `CANSTAT` read of the reset, and
the wait for normal mode. -/
structure OpenEnv (w : Nat) where
  openCandev : Except Errno Unit
  requestIrq : Except Errno Unit
  afterReset : List CtrlEvent
  normal : NormalModeEnv w

namespace Sys

/-- `mcp2515_open_clean(net)`. -/
def mcp2515OpenClean (s : Sys) : Sys :=
  { { s with priv.irqRegistered := false }.mcp2515HwSleep with priv.candevOpen := false }

@[simp] theorem mcp2515OpenClean_priv (s : Sys) : s.mcp2515OpenClean.priv =
    { s.priv with irqRegistered := false, candevOpen := false } := rfl

theorem mcp2515OpenClean_ghost (s : Sys) : s.mcp2515OpenClean.ghost =
    { s.ghost with txns := s.ghost.txns ++ [.writeReg canctrl canctrlReqopSleep] } := rfl

/-- `mcp2515_open(net)`; `none` while the wait for normal mode still waits. -/
def mcp2515Open {w : Nat} (hz : BitVec w) (env : OpenEnv w) (s : Sys) :
    Option (Except Errno Unit × Sys) :=
  match env.openCandev with
  | .error e => some (.error e, s)
  | .ok () =>
    let s := { s with priv.candevOpen := true, priv.forceQuit := false, priv.txSkb := none,
                      priv.txLen := 0 }
    match env.requestIrq with
    | .error e => some (.error e, { s with priv.candevOpen := false })
    | .ok () =>
      match { s with priv.irqRegistered := true }.mcp2515HwReset env.afterReset with
      | (.error e, s) => some (.error e, s.mcp2515OpenClean)
      | (.ok (), s) =>
        (s.mcp2515Setup.mcp2515SetNormalMode hz env.normal).map fun
          | (.error e, s) => (.error e, s.mcp2515OpenClean)
          | (.ok (), s) => (.ok (), { s with priv.queueStopped := false })

/-- What `mcp2515_open` does. Of the ghost logs it extends only the transactions. On success:
the device open, the handler registered, `force_quit` clear, the slot empty, the queue awake,
error-active. On failure: nothing, when `open_candev` fails; otherwise the device closed,
`force_quit` clear and the slot empty, with no registration of the handler made by this call
left behind. -/
theorem mcp2515Open_frame {w : Nat} {hz : BitVec w} {env : OpenEnv w} {s s' : Sys}
    {r : Except Errno Unit} (h : s.mcp2515Open hz env = some (r, s')) :
    s'.ghost = { s.ghost with txns := s'.ghost.txns } ∧
    ((r.isOk = true ∧ s'.priv = { s.priv with
        state := .errorActive, forceQuit := false, txSkb := none, txLen := 0, candevOpen := true,
        irqRegistered := true, queueStopped := false }) ∨
    (r.isOk = false ∧ (s' = s ∨ s'.priv = { s.priv with
        forceQuit := false, txSkb := none, txLen := 0, candevOpen := false,
        irqRegistered := s'.priv.irqRegistered } ∧
      (s'.priv.irqRegistered = true → s.priv.irqRegistered = true)))) := by
  unfold mcp2515Open at h
  split at h
  · cases h; exact ⟨rfl, .inr ⟨rfl, .inl rfl⟩⟩
  · split at h
    · cases h; exact ⟨rfl, .inr ⟨rfl, .inr ⟨rfl, id⟩⟩⟩
    · dsimp only at h
      split at h
      · next e s₁ hres =>
        cases h
        have hp : s₁.priv = _ := (congrArg (fun x => x.2.priv) hres).symm
        have hg : s₁.ghost = { s.ghost with txns := s₁.ghost.txns } := by
          rw [show s₁ = _ from (congrArg Prod.snd hres).symm]; rfl
        refine ⟨by rw [mcp2515OpenClean_ghost, hg], .inr ⟨rfl, .inr ⟨?_, by simp⟩⟩⟩
        simp [hp]
      · next s₁ hres =>
        have hp : s₁.priv = _ := (congrArg (fun x => x.2.priv) hres).symm
        have hg : s₁.ghost = { s.ghost with txns := s₁.ghost.txns } := by
          rw [show s₁ = _ from (congrArg Prod.snd hres).symm]; rfl
        rw [Option.map_eq_some'] at h
        obtain ⟨⟨r₂, s₂⟩, h₂, h⟩ := h
        obtain ⟨hp₂, hg₂⟩ := mcp2515SetNormalMode_frame h₂
        have hg₂' : s₂.ghost = { s.ghost with txns := s₂.ghost.txns } := by
          rw [hg₂, mcp2515Setup_ghost, hg]
        rcases r₂ with e | ⟨⟩ <;> cases h
        · refine ⟨by rw [mcp2515OpenClean_ghost, hg₂'], .inr ⟨rfl, .inr ⟨?_, by simp⟩⟩⟩
          simp [hp₂, hp, Except.isOk, Except.toBool]
        · refine ⟨hg₂', .inl ⟨rfl, ?_⟩⟩
          simp [hp₂, hp, Except.isOk, Except.toBool]

end Sys

/-! ## Runs of the driver -/

/-- One operation of the driver: the `net_device_ops` and `do_set_mode` callbacks, an
invocation of the interrupt handler over the passes given, or a controller event. -/
inductive DriverOp (w : Nat)
  | ndoOpen (env : OpenEnv w)
  | ndoStop
  | ndoStartXmit (skb : Nat) (invalid : Bool)
  | doSetMode (mode : CanMode)
  | ist (envs : List PassEnv)
  | event (e : CtrlEvent)

/-- One operation; `none` when it cannot happen (the driver has faulted, the device is already
up, or the handler is not registered) or has not finished (the wait for normal mode). -/
def driverStep {w : Nat} (hz : BitVec w) (s : Sys) (op : DriverOp w) : Option Sys :=
  if s.ghost.oops.isSome then none else
  match op with
  | .ndoOpen env => if s.priv.candevOpen then none else (s.mcp2515Open hz env).map Prod.snd
  | .ndoStop => some (s.afterCall (mcp2515Stop s.priv))
  | .ndoStartXmit skb invalid => some (s.afterCall (mcp2515HardStartXmit skb invalid s.priv))
  | .doSetMode mode => some (s.afterCall (mcp2515DoSetMode mode s.priv))
  | .ist envs => if s.priv.irqRegistered then some (mcp2515CanIst envs s).1 else none
  | .event e => some (s.events [e])

/-- A sequence of operations. -/
def driverRun {w : Nat} (hz : BitVec w) : List (DriverOp w) → Sys → Option Sys
  | [], s => some s
  | op :: ops, s => (driverStep hz s op).bind (driverRun hz ops)

@[simp] theorem driverRun_nil {w : Nat} (hz : BitVec w) (s : Sys) : driverRun hz [] s = some s :=
  rfl

@[simp] theorem driverRun_cons {w : Nat} (hz : BitVec w) (op : DriverOp w) (ops : List (DriverOp w))
    (s : Sys) : driverRun hz (op :: ops) s = (driverStep hz s op).bind (driverRun hz ops) := rfl

/-- A property every step of a run keeps holds at the end of the run. -/
theorem driverRun_preserves {w : Nat} (hz : BitVec w) {P : Sys → Prop} {ops : List (DriverOp w)}
    (hstep : ∀ op ∈ ops, ∀ s s', driverStep hz s op = some s' → P s → P s') {s s' : Sys}
    (h : driverRun hz ops s = some s') (hs : P s) : P s' := by
  induction ops generalizing s with
  | nil => cases h; exact hs
  | cons op ops ih =>
    simp only [driverRun_cons, Option.bind_eq_some] at h
    obtain ⟨s₁, h₁, h₂⟩ := h
    exact ih (fun op' hm => hstep op' (List.mem_cons_of_mem _ hm)) h₂
      (hstep op (List.mem_cons_self _ _) _ _ h₁ hs)

/-- What one operation can do, from a driver that has not faulted: open a device that is down,
make one of the calls on the driver's fields (which may fault), run the registered handler,
or let the controller act. -/
theorem driverStep_cases {w : Nat} {hz : BitVec w} {s s' : Sys} {op : DriverOp w}
    (h : driverStep hz s op = some s') : s.ghost.oops = none ∧
    ((∃ env r, op = .ndoOpen env ∧ s.priv.candevOpen = false ∧
        s.mcp2515Open hz env = some (r, s')) ∨
      (op = .ndoStop ∧ s' = s.afterCall (mcp2515Stop s.priv)) ∨
      (∃ skb invalid, op = .ndoStartXmit skb invalid ∧
        s' = s.afterCall (mcp2515HardStartXmit skb invalid s.priv)) ∨
      (∃ mode, op = .doSetMode mode ∧ s' = s.afterCall (mcp2515DoSetMode mode s.priv)) ∨
      (∃ envs, op = .ist envs ∧ s.priv.irqRegistered = true ∧ s' = (mcp2515CanIst envs s).1) ∨
      (∃ e, op = .event e ∧ s' = s.events [e])) := by
  unfold driverStep at h
  split at h
  · cases h
  next hno =>
  refine ⟨by simpa using hno, ?_⟩
  cases op with
  | ndoOpen env =>
    dsimp only at h
    split at h
    · cases h
    · next hc =>
      obtain ⟨⟨r, s₁⟩, h₁, rfl⟩ := Option.map_eq_some'.1 h
      exact .inl ⟨env, r, rfl, by simpa using hc, h₁⟩
  | ndoStop => cases h; exact .inr (.inl ⟨rfl, rfl⟩)
  | ndoStartXmit skb invalid => cases h; exact .inr (.inr (.inl ⟨skb, invalid, rfl, rfl⟩))
  | doSetMode mode => cases h; exact .inr (.inr (.inr (.inl ⟨mode, rfl, rfl⟩)))
  | ist envs =>
    dsimp only at h
    split at h
    · next hi => cases h; exact .inr (.inr (.inr (.inr (.inl ⟨envs, rfl, hi, rfl⟩))))
    · cases h
  | event e => cases h; exact .inr (.inr (.inr (.inr (.inr ⟨e, rfl, rfl⟩))))

/-- A probed driver, closed: the state `alloc_candev` leaves, in front of a controller with
every register 0. -/
def closedSys : Sys :=
  { quietSys with priv.state := .stopped, priv.candevOpen := false, priv.irqRegistered := false }

/-- An `mcp2515_open` whose external calls succeed and whose controller enters normal mode
at the first poll. -/
def openEnvOk : OpenEnv 32 := ⟨.ok (), .ok (), [], ⟨0, [([.mode 0], 1)]⟩⟩

/-- A pass that reads bus-off. -/
def busOffPass : PassEnv := { PassEnv.quiet with beforeRead := [.errorFlags eflgTxbo] }

/-- A pass that reads a transmit-complete flag of `TXB0`. -/
def txDonePass : PassEnv := { PassEnv.quiet with beforeRead := [.txDone 0] }

/-! ## Transmit statistics -/

/-- No frame is in flight (`tx_len` is 0), and each transmit completion counted so far added
`-1` to `tx_bytes`. The transmit work, the only code that sets `tx_len`, is compiled out. -/
def Sys.NoFrameInFlight (s : Sys) : Prop :=
  s.priv.txLen = 0 ∧ s.priv.stats.txBytes = -(s.priv.stats.txPackets : Int)

theorem noFrameInFlight_istPass (env : PassEnv) {s : Sys} (h : s.NoFrameInFlight) :
    (istPass env s).1.NoFrameInFlight := by
  obtain ⟨hl, hb⟩ := h
  rcases istPass_tx env s with ⟨h₁, h₂, h₃⟩ | ⟨-, h₁, h₂, h₃⟩
  · exact ⟨h₃.trans hl, by rw [h₁, h₂, hb]⟩
  · exact ⟨h₃, by rw [h₁, h₂, hb, hl]; omega⟩

theorem noFrameInFlight_mcp2515CanIst (envs : List PassEnv) {s : Sys} (h : s.NoFrameInFlight) :
    (mcp2515CanIst envs s).1.NoFrameInFlight :=
  mcp2515CanIst_preserves (P := Sys.NoFrameInFlight) (fun env _ _ => noFrameInFlight_istPass env)
    envs h

/-- Every operation keeps `NoFrameInFlight`. -/
theorem noFrameInFlight_driverStep {w : Nat} (hz : BitVec w) {s s' : Sys} {op : DriverOp w}
    (h : driverStep hz s op = some s') (hs : s.NoFrameInFlight) : s'.NoFrameInFlight := by
  obtain ⟨-, ⟨env, r, -, -, h₁⟩ | ⟨-, rfl⟩ | ⟨skb, invalid, -, rfl⟩ | ⟨mode, -, rfl⟩ |
    ⟨envs, -, -, rfl⟩ | ⟨e, -, rfl⟩⟩ := driverStep_cases h
  · rcases (Sys.mcp2515Open_frame h₁).2 with ⟨-, hp⟩ | ⟨-, rfl | ⟨hp, -⟩⟩
    · exact ⟨by rw [hp], by rw [hp]; exact hs.2⟩
    · exact hs
    · exact ⟨by rw [hp], by rw [hp]; exact hs.2⟩
  · exact hs
  · unfold mcp2515HardStartXmit
    split <;> (try split) <;> exact hs
  · cases mode
    case start =>
      simp only [mcp2515DoSetMode]
      split <;> simpa [Sys.NoFrameInFlight, mcp2515Clean_eq] using hs.2
    all_goals exact hs
  · exact noFrameInFlight_mcp2515CanIst envs hs
  · exact hs

theorem driverRun_noFrameInFlight {w : Nat} (hz : BitVec w) {ops : List (DriverOp w)} {s : Sys}
    (h : driverRun hz ops closedSys = some s) : s.NoFrameInFlight :=
  driverRun_preserves hz (P := Sys.NoFrameInFlight) (fun _ _ _ _ => noFrameInFlight_driverStep hz)
    h ⟨rfl, rfl⟩

/-- Transmit statistics count completions of no frame. The completion branch adds one packet
and `tx_len - 1` bytes with no guard (only the echo is guarded by `tx_len`), and nothing ever
puts a frame in flight, so over every run from the probed driver `tx_bytes` is minus
`tx_packets`. Two transmit-complete flags after an open count two packets and take `tx_bytes`
from 0 to -1 and then to -2 (in the `unsigned long` of the source, to `ULONG_MAX` and then
`ULONG_MAX - 1`), with no echo. -/
theorem driverRun_txBytes_neg_txPackets {w : Nat} (hz : BitVec w) :
    closedSys.NoFrameInFlight ∧
    (∀ ops s s', driverRun hz ops s = some s' → s.NoFrameInFlight → s'.NoFrameInFlight) ∧
    (driverRun (100 : BitVec 32) [.ndoOpen openEnvOk, .ist [txDonePass, PassEnv.quiet],
        .ist [txDonePass, PassEnv.quiet]] closedSys).map (fun s => (s.priv.stats.txPackets,
          s.priv.stats.txBytes, s.ghost.delivered)) = some (2, -2, []) :=
  ⟨⟨rfl, rfl⟩, fun _ _ _ h hs => driverRun_preserves hz (P := Sys.NoFrameInFlight)
    (fun _ _ _ _ => noFrameInFlight_driverStep hz) h hs, by decide⟩

/-! ## The transmit slot and the queue -/

/-- The slot and the queue over a run: the slot holds a frame, with the queue stopped, only in
the state where `mcp2515_hard_start_xmit` faulted; in every other state the slot is empty and
the queue awake. -/
def Sys.SlotInv (s : Sys) : Prop :=
  if s.ghost.oops = some .queueTxWork then s.priv.queueStopped = true ∧ s.priv.txSkb.isSome
  else s.priv.queueStopped = false ∧ s.priv.txSkb = none

theorem Sys.SlotInv.of_oops_ne {s : Sys} (h : s.SlotInv) (ho : s.ghost.oops ≠ some .queueTxWork) :
    s.priv.queueStopped = false ∧ s.priv.txSkb = none := by
  rwa [Sys.SlotInv, if_neg ho] at h

theorem Sys.slotInv_of_oops_ne {s : Sys} (ho : s.ghost.oops ≠ some .queueTxWork)
    (h : s.priv.queueStopped = false ∧ s.priv.txSkb = none) : s.SlotInv := by
  rwa [Sys.SlotInv, if_neg ho]

/-- Every operation keeps `SlotInv`: the only call that fills the slot faults as it does. -/
theorem slotInv_driverStep {w : Nat} (hz : BitVec w) {s s' : Sys} {op : DriverOp w}
    (h : driverStep hz s op = some s') (hs : s.SlotInv) : s'.SlotInv := by
  obtain ⟨hno, hop⟩ := driverStep_cases h
  obtain ⟨hq, hk⟩ := hs.of_oops_ne (by simp [hno])
  rcases hop with ⟨env, r, -, -, h₁⟩ | ⟨-, rfl⟩ | ⟨skb, invalid, -, rfl⟩ | ⟨mode, -, rfl⟩ |
    ⟨envs, -, -, rfl⟩ | ⟨e, -, rfl⟩
  · obtain ⟨hg, hp⟩ := Sys.mcp2515Open_frame h₁
    refine Sys.slotInv_of_oops_ne (by rw [hg]; simp [hno]) ?_
    rcases hp with ⟨-, hp⟩ | ⟨-, rfl | ⟨hp, -⟩⟩
    · simp [hp]
    · exact ⟨hq, hk⟩
    · rw [hp]
      exact ⟨hq, rfl⟩
  · exact Sys.slotInv_of_oops_ne (by simp [mcp2515Stop]) ⟨hq, hk⟩
  · unfold mcp2515HardStartXmit
    split
    · exact Sys.slotInv_of_oops_ne (by simp) ⟨hq, hk⟩
    · split
      · exact Sys.slotInv_of_oops_ne (by simp) ⟨hq, hk⟩
      · simp [Sys.SlotInv]
  · cases mode
    case start =>
      refine Sys.slotInv_of_oops_ne (by simp [mcp2515DoSetMode]) ?_
      simp only [mcp2515DoSetMode, afterCall_priv]
      split <;> simp [mcp2515Clean_eq, hq]
    all_goals exact Sys.slotInv_of_oops_ne (by simp [mcp2515DoSetMode]) ⟨hq, hk⟩
  · obtain ⟨h₁, -, -, h₂, h₃⟩ := handlerKeeps_mcp2515CanIst envs s
    exact Sys.slotInv_of_oops_ne (by rw [h₂]; simp [hno])
      ⟨Bool.eq_false_iff.2 fun h => absurd (h₃ h) (by simp [hq]), h₁.trans hk⟩
  · exact Sys.slotInv_of_oops_ne (by simp [hno]) ⟨hq, hk⟩

theorem driverRun_slotInv {w : Nat} (hz : BitVec w) {ops : List (DriverOp w)} {s : Sys}
    (h : driverRun hz ops closedSys = some s) : s.SlotInv :=
  driverRun_preserves hz (P := Sys.SlotInv) (fun _ _ _ _ => slotInv_driverStep hz) h
    (Sys.slotInv_of_oops_ne (by decide) ⟨rfl, rfl⟩)

/-- The queue and the slot agree in every state a run reaches from the probed driver. A valid
frame stops the queue and fills the slot, and `queue_work` faults with the two still in step;
`do_set_mode(CAN_MODE_START)` empties an empty slot and faults before it could stop or wake
anything; a transmit-complete flag wakes a queue that was awake. So the queue is stopped, and
the slot occupied, only in the state where `mcp2515_hard_start_xmit` faulted. -/
theorem driverRun_queueStopped_eq_txBusy {w : Nat} (hz : BitVec w) :
    ∀ ops s, driverRun hz ops closedSys = some s →
      s.priv.queueStopped = s.priv.txBusy ∧
        (s.priv.queueStopped = true → s.ghost.oops = some .queueTxWork) := by
  intro ops s h
  have hs := driverRun_slotInv hz h
  by_cases ho : s.ghost.oops = some .queueTxWork
  · rw [Sys.SlotInv, if_pos ho] at hs
    exact ⟨by simp [Priv.txBusy, hs.1, hs.2], fun _ => ho⟩
  · obtain ⟨hq, hk⟩ := hs.of_oops_ne ho
    have hl := (driverRun_noFrameInFlight hz h).1
    exact ⟨by simp [Priv.txBusy, hq, hk, hl], fun h => absurd (hq ▸ h) (by simp)⟩

/-- An open and a valid frame: the run ends where `queue_work` faulted. -/
theorem driverRun_queueStopped_eq_txBusy_openXmit :
    ∃ s, driverRun (100 : BitVec 32) [.ndoOpen openEnvOk, .ndoStartXmit 1 false] closedSys =
        some s ∧
      s.priv.queueStopped = s.priv.txBusy ∧
        (s.priv.queueStopped = true → s.ghost.oops = some .queueTxWork) := by
  obtain ⟨s, hs⟩ := Option.isSome_iff_exists.1 (by decide :
    (driverRun (100 : BitVec 32) [.ndoOpen openEnvOk, .ndoStartXmit 1 false] closedSys).isSome)
  exact ⟨s, hs, driverRun_queueStopped_eq_txBusy _ _ s hs⟩

/-! ## The bus-off latch -/

/-- A pass that reads `TXBO` while restart is disabled latches `force_quit` and ends the
handler's loop. -/
theorem istPass_busOff (env : PassEnv) (s : Sys) (hbo : (passRead env s).2 &&& eflgTxbo ≠ 0)
    (hr : s.priv.restartMs = 0) :
    (istPass env s).1.priv.forceQuit = true ∧ (istPass env s).2 = false := by
  set i := (passRead env s).1 &&& intfMask
  set e := (passRead env s).2
  set s₁ := ((s.events env.beforeRead).read2regs canintf).2
  obtain ⟨hst, hrs⟩ := istErrors_state env i e (istClear env i e (istRx env i s₁))
  have hns : (newStateOf e).1 = .busOff := by rw [newStateOf, if_pos (bne_iff_ne.mpr hbo)]
  rw [istPass_eq]
  simp [istEnd, hst, hrs, hns, istClear_priv, istRx_restartMs, s₁, hr]

/-- Every operation other than `mcp2515_open` keeps `force_quit` set. -/
theorem forceQuit_driverStep {w : Nat} (hz : BitVec w) {s s' : Sys} {op : DriverOp w}
    (hop : ∀ env, op ≠ .ndoOpen env) (h : driverStep hz s op = some s')
    (hq : s.priv.forceQuit = true) : s'.priv.forceQuit = true := by
  obtain ⟨-, ⟨env, -, rfl, -⟩ | ⟨-, rfl⟩ | ⟨skb, invalid, -, rfl⟩ | ⟨mode, -, rfl⟩ |
    ⟨envs, -, -, rfl⟩ | ⟨e, -, rfl⟩⟩ := driverStep_cases h
  · exact absurd rfl (hop env)
  · rfl
  · simpa using hq
  · simpa using hq
  · rw [mcp2515CanIst_of_forceQuit envs hq]
    exact hq
  · exact hq

/-- Bus-off with restart disabled is a latch until the next call of `mcp2515_open`, and the
transmit slot is empty throughout. A pass that reads `TXBO` while `restart_ms = 0` sets
`force_quit` and ends the handler's loop. From a state with `force_quit` set, after any
operations other than `mcp2515_open` (stop, transmit submissions, restarts, controller events,
invocations of the handler), `force_quit` is still set and every invocation of the handler
returns at once, with no transaction and no change to the state. In every state of a run from
the probed driver the slot is empty, `tx_skb` null and `tx_len` 0, but the one where
`mcp2515_hard_start_xmit` faulted on the work queue after putting its frame in `tx_skb`: no
call of it returns with a frame in the slot, and no frame is ever pending when the latch
closes. -/
theorem busOff_latch_until_open {w : Nat} (hz : BitVec w) :
    (∀ env s, (passRead env s).2 &&& eflgTxbo ≠ 0 → s.priv.restartMs = 0 →
      (istPass env s).1.priv.forceQuit = true ∧ (istPass env s).2 = false) ∧
    (∀ ops s s', driverRun hz ops s = some s' → s.priv.forceQuit = true →
      (∀ env, DriverOp.ndoOpen env ∉ ops) →
      s'.priv.forceQuit = true ∧ ∀ envs, mcp2515CanIst envs s' = (s', true)) ∧
    (∀ ops s, driverRun hz ops closedSys = some s → s.ghost.oops ≠ some .queueTxWork →
      s.priv.txSkb = none ∧ s.priv.txLen = 0) := by
  refine ⟨istPass_busOff, fun ops s s' h hq hops => ?_, fun ops s h ho =>
    ⟨((driverRun_slotInv hz h).of_oops_ne ho).2, (driverRun_noFrameInFlight hz h).1⟩⟩
  have hq' : s'.priv.forceQuit = true := driverRun_preserves hz (P := (·.priv.forceQuit = true))
    (fun op hm _ _ => forceQuit_driverStep hz fun env he => hops env (he ▸ hm)) h hq
  exact ⟨hq', fun envs => mcp2515CanIst_of_forceQuit envs hq'⟩

/-- A frame handed over after the latch closes ends the run at the fault, with the latch
still closed. -/
example : (driverRun (100 : BitVec 32) [.ndoOpen openEnvOk, .ist [busOffPass],
    .ndoStartXmit 2 false] closedSys).map (fun s => (s.priv.forceQuit, s.priv.state,
      s.priv.txSkb, s.ghost.oops)) = some (true, .busOff, some 2, some .queueTxWork) := by
  decide

/-- No frame is pending at bus-off: the handler does not run after the fault. -/
example : (driverRun (100 : BitVec 32) [.ndoOpen openEnvOk, .ndoStartXmit 1 false,
    .ist [busOffPass]] closedSys).isSome = false := by
  decide

end Mcp2515Banged
