import Mcp2515Banged.Lifecycle

/-!
# Sessions: the resources they hold and the link state they show

A session of the driver runs from `mcp2515_open` to `mcp2515_stop`. Opening acquires the
candev and the threaded interrupt handler, and clears `force_quit`; stopping closes the candev,
sets `force_quit` and faults in `destroy_workqueue` on the work queue that was never created,
before anything else it would give back. Its `free_irq` is commented out under a `TODO` in any
case. The supplies `priv->power` and `priv->transceiver` are never obtained, so there is no
transceiver to balance. The link state `can.state` says whether the link is usable; it should
say so only while the handler services the controller, that is while `force_quit` is clear.

## Main definitions

* `CanState.operational` — error-active, error-warning or error-passive
* `Sys.ServicedLink` — an operational link state comes with `force_quit` clear

## Main results

* `driverRun_operational_unserviced` — every state of a run shows an operational link only
  while the handler services the controller, except where a stop or a restart faults: there
  the link shows error-active with `force_quit` set
* `mcp2515Stop_keeps_irq` — the handler is registered exactly while the candev is open, except
  where a stop faults: there the candev is closed and the handler still registered
-/

namespace Mcp2515Banged

/-- The states in which the link is reported usable. -/
def CanState.operational : CanState → Bool
  | .errorActive | .errorWarning | .errorPassive => true
  | _ => false

/-- The link state shows an operational link only while `force_quit` is clear, so that the
next invocation of the handler services the controller. -/
def Sys.ServicedLink (s : Sys) : Prop := s.priv.state.operational = true → s.priv.forceQuit = false

/-! ## The link state across operations -/

/-- A pass that starts with `force_quit` clear keeps `ServicedLink`: it sets `force_quit` only
together with bus-off. -/
theorem servicedLink_istPass (env : PassEnv) {s : Sys} (hq : s.priv.forceQuit = false) :
    (istPass env s).1.ServicedLink := by
  intro hop
  cases hf : (istPass env s).1.priv.forceQuit
  · rfl
  · rcases istPass_forceQuit env s hf with h | h
    · simp [hq] at h
    · simp [h, CanState.operational] at hop

theorem servicedLink_mcp2515CanIst (envs : List PassEnv) {s : Sys} (hs : s.ServicedLink) :
    (mcp2515CanIst envs s).1.ServicedLink :=
  mcp2515CanIst_preserves (P := Sys.ServicedLink) (fun env _ hq _ => servicedLink_istPass env hq)
    envs hs

/-- Every operation keeps `ServicedLink`, except a stop and a restart, which end the run at
their faults. -/
theorem servicedLink_driverStep {w : Nat} (hz : BitVec w) {s s' : Sys} {op : DriverOp w}
    (h : driverStep hz s op = some s') (hs : s.ServicedLink) :
    s'.ServicedLink ∨ s'.ghost.oops = some .destroyWorkqueue ∨
      s'.ghost.oops = some .queueRestartWork := by
  obtain ⟨-, ⟨env, r, -, -, h₁⟩ | ⟨-, rfl⟩ | ⟨skb, invalid, -, rfl⟩ | ⟨mode, -, rfl⟩ |
    ⟨envs, -, -, rfl⟩ | ⟨e, -, rfl⟩⟩ := driverStep_cases h
  · rcases (Sys.mcp2515Open_frame h₁).2 with ⟨-, hp⟩ | ⟨-, rfl | ⟨hp, -⟩⟩
    · exact .inl fun _ => by rw [hp]
    · exact .inl hs
    · exact .inl fun _ => by rw [hp]
  · exact .inr (.inl rfl)
  · exact .inl (by simpa [Sys.ServicedLink] using hs)
  · cases mode
    case start => exact .inr (.inr rfl)
    all_goals exact .inl hs
  · exact .inl (servicedLink_mcp2515CanIst envs hs)
  · exact .inl hs

/-- The link state is usable only while the handler services the controller, in every state of
every run from the probed driver but two: the faults of a stop and of a restart, each of which
ends its run. `mcp2515_stop` sets `force_quit` and faults in `destroy_workqueue` before it could
set `CAN_STATE_STOPPED`, so after an open it leaves an error-active link that no invocation of
the handler services. `do_set_mode(CAN_MODE_START)` after the bus-off latch sets `can.state` to
error-active and faults in `queue_work` before the restart work could clear `force_quit`. -/
theorem driverRun_operational_unserviced {w : Nat} (hz : BitVec w) :
    (∀ ops s, driverRun hz ops closedSys = some s → s.ServicedLink ∨
      s.ghost.oops = some .destroyWorkqueue ∨ s.ghost.oops = some .queueRestartWork) ∧
    (driverRun (100 : BitVec 32) [.ndoOpen openEnvOk, .ndoStop] closedSys).map
      (fun s => (s.priv.state, s.priv.forceQuit, s.ghost.oops)) =
      some (.errorActive, true, some .destroyWorkqueue) ∧
    (driverRun (100 : BitVec 32) [.ndoOpen openEnvOk, .ist [busOffPass], .doSetMode .start]
        closedSys).map (fun s => (s.priv.state, s.priv.forceQuit, s.ghost.oops)) =
      some (.errorActive, true, some .queueRestartWork) := by
  refine ⟨fun ops s h => driverRun_preserves hz (P := fun s => s.ServicedLink ∨
      s.ghost.oops = some .destroyWorkqueue ∨ s.ghost.oops = some .queueRestartWork)
    (fun _ _ s₀ s₁ h₁ hs => ?_) h (.inl fun h => ?_), by decide, by decide⟩
  · have hno := (driverStep_cases h₁).1
    exact servicedLink_driverStep hz h₁ (hs.resolve_right (by simp [hno]))
  · simp [closedSys, quietSys, CanState.operational] at h

/-! ## Resources of a session -/

/-- The handler is registered exactly while the candev is open, in every state that a step
other than a stop reaches. An open of a device that is down acquires both or, failing, neither;
the handler, the transmit path and the controller touch neither. -/
theorem irqRegistered_eq_candevOpen_driverStep {w : Nat} (hz : BitVec w) {s s' : Sys}
    {op : DriverOp w} (h : driverStep hz s op = some s')
    (hs : s.priv.irqRegistered = s.priv.candevOpen) :
    s'.priv.irqRegistered = s'.priv.candevOpen ∨ s'.ghost.oops = some .destroyWorkqueue := by
  obtain ⟨-, ⟨env, r, -, hc, h₁⟩ | ⟨-, rfl⟩ | ⟨skb, invalid, -, rfl⟩ | ⟨mode, -, rfl⟩ |
    ⟨envs, -, -, rfl⟩ | ⟨e, -, rfl⟩⟩ := driverStep_cases h
  · left
    rcases (Sys.mcp2515Open_frame h₁).2 with ⟨-, hp⟩ | ⟨-, rfl | ⟨hp, hi⟩⟩
    · rw [hp]
    · exact hs
    · rw [hp]
      exact Bool.eq_false_iff.2 fun h => by simp [hi h, hc] at hs
  · exact .inr rfl
  · left
    unfold mcp2515HardStartXmit
    split <;> (try split) <;> exact hs
  · left
    cases mode
    case start =>
      simp only [mcp2515DoSetMode, afterCall_priv]
      split <;> simpa [mcp2515Clean_eq] using hs
    all_goals exact hs
  · obtain ⟨-, h₁, h₂, -⟩ := handlerKeeps_mcp2515CanIst envs s
    exact .inl (by rw [h₁, h₂, hs])
  · exact .inl hs

/-- Open and stop balance the candev but not the interrupt handler. In every state of a run
from the probed driver the handler is registered exactly while the candev is open, but at the
fault of a stop: `mcp2515_stop` closes the candev and faults in `destroy_workqueue` with the
handler still registered (its `free_irq` is commented out under a `TODO`, and the rest of the
stop is never reached). After an open and a stop the handler is registered though the candev is
closed. -/
theorem mcp2515Stop_keeps_irq {w : Nat} (hz : BitVec w) :
    (∀ ops s, driverRun hz ops closedSys = some s →
      s.priv.irqRegistered = s.priv.candevOpen ∨ s.ghost.oops = some .destroyWorkqueue) ∧
    (driverRun (100 : BitVec 32) [.ndoOpen openEnvOk, .ndoStop] closedSys).map
      (fun s => (s.priv.candevOpen, s.priv.irqRegistered, s.ghost.oops)) =
      some (false, true, some .destroyWorkqueue) := by
  refine ⟨fun ops s h => driverRun_preserves hz (P := fun s => s.priv.irqRegistered =
      s.priv.candevOpen ∨ s.ghost.oops = some .destroyWorkqueue)
    (fun _ _ s₀ s₁ h₁ hs => ?_) h (.inl rfl), by decide⟩
  have hno := (driverStep_cases h₁).1
  exact irqRegistered_eq_candevOpen_driverStep hz h₁ (hs.resolve_right (by simp [hno]))

end Mcp2515Banged
