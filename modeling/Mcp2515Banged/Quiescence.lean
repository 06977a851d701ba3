import Mcp2515Banged.Handler

/-!
# Quiescence of the interrupt handler

One invocation of `mcp2515_can_ist` loops while a pass reads a pending flag. A pass empties
each receive buffer whose flag it read, when it can allocate a socket buffer, and clears the
error and transmit flags it read by `BIT MODIFY`. So once the controller raises nothing new and
every allocation succeeds, the next pass clears everything it keeps after masking and the pass
after it reads nothing: the invocation returns.

An allocation failure leaves the buffer unread (`mcp2515_hw_rx` returns before the read), so
its flag stays set. With a frame waiting in `RXB0` and every allocation failing, each pass reads
`RX0IF` again, counts one more drop and goes round again: the invocation never returns.

## Main definitions

* `PassEnv.Quiet` — a pass with no controller events and successful receive allocations
* `pendingSys`, `allocFailPass` — a frame waiting in `RXB0`; a pass whose allocation fails

## Main results

* `istPass_canintf_quiet` — a quiet pass clears every flag it keeps
* `mcp2515CanIst_append` — an invocation over two lists of passes, one after the other
* `mcp2515CanIst_spins_on_alloc_failure` — two quiet passes end every invocation, and
  persistent allocation failure keeps one from ever ending
-/

namespace Mcp2515Banged

/-! ## Flags cleared by a pass -/

theorem ite_and_twoPow (x R : BitVec 8) {k : Nat} (hk : k < 8) :
    (if x &&& BitVec.twoPow 8 k != 0 then R &&& ~~~BitVec.twoPow 8 k else R) =
      R &&& ~~~(x &&& BitVec.twoPow 8 k) := by
  rw [and_twoPow_ne_zero_eq_getLsbD x hk, BitVec.and_twoPow]
  cases x.getLsbD k <;> simp
  exact BitVec.and_allOnes.symm

theorem clearIntfOf_eq (x : BitVec 8) : clearIntfOf x = x &&& (canintfErr ||| canintfTx) := by
  unfold clearIntfOf
  split
  · simp
  · next h => exact (by simpa using h : x &&& (canintfErr ||| canintfTx) = 0).symm

theorem ite_writeBits (x R : BitVec 8) :
    (if x != 0 then (R &&& ~~~x) ||| (0 &&& x) else R) = R &&& ~~~x := by
  split
  · simp
  · next h =>
    rw [show x = 0 by simpa using h]
    exact BitVec.and_allOnes.symm

/-- Clearing the bits of `R &&& m` that lie in `a`, `b` and `c` leaves nothing of
`m = a ||| b ||| c`. -/
theorem and_not_read_and_mask (R a b c : BitVec 8) :
    R &&& ~~~(R &&& (a ||| b ||| c) &&& a) &&& ~~~(R &&& (a ||| b ||| c) &&& b) &&&
      ~~~(R &&& (a ||| b ||| c) &&& c) &&& (a ||| b ||| c) = 0 := by
  ext k
  simp only [BitVec.getLsbD_and, BitVec.getLsbD_or, BitVec.getLsbD_not, BitVec.getLsbD_zero]
  cases R.getLsbD k <;> cases a.getLsbD k <;> cases b.getLsbD k <;> cases c.getLsbD k <;> simp

/-- A pass during which the controller raises nothing and both receive allocations succeed;
the error-frame allocation may fail. -/
structure PassEnv.Quiet (env : PassEnv) : Prop where
  read : env.beforeRead = []
  rx0 : env.beforeRx0 = []
  alloc0 : env.allocRx0 = true
  rx1 : env.beforeRx1 = []
  alloc1 : env.allocRx1 = true
  clear : env.beforeClear = []
  eflg : env.beforeEflg = []

theorem ite_and_canintfRxif (x R : BitVec 8) (n : Fin 2) :
    (if x &&& canintfRxif n != 0 then R &&& ~~~canintfRxif n else R) =
      R &&& ~~~(x &&& canintfRxif n) := by
  rw [canintfRxif_eq_twoPow]
  exact ite_and_twoPow x R (by omega)

/-- Reading a buffer clears its flag. -/
theorem mcp2515HwRx_canintf (n : Fin 2) (s : Sys) :
    (mcp2515HwRx true n s).ctrl.regs canintf = s.ctrl.regs canintf &&& ~~~canintfRxif n := by
  simp [mcp2515HwRx, Ctrl.readRxb]

/-! ## Two quiet passes end an invocation -/

section Quiet

variable {env : PassEnv} (hq : env.Quiet)
include hq

theorem istRx_canintf_quiet (intf : BitVec 8) (s : Sys) :
    (istRx env intf s).ctrl.regs canintf =
      s.ctrl.regs canintf &&& ~~~(intf &&& canintfRxif 0) &&& ~~~(intf &&& canintfRxif 1) := by
  unfold istRx
  simp only [hq.rx0, hq.rx1, hq.alloc0, hq.alloc1, Sys.events_nil,
    show canintfRx0if = canintfRxif 0 from rfl, show canintfRx1if = canintfRxif 1 from rfl,
    apply_ite (fun t : Sys => t.ctrl.regs canintf), mcp2515HwRx_canintf, ite_and_canintfRxif]

theorem istClear_canintf_quiet (intf eflag : BitVec 8) (s : Sys) :
    (istClear env intf eflag s).ctrl.regs canintf = s.ctrl.regs canintf &&& ~~~clearIntfOf intf := by
  unfold istClear
  simp only [hq.clear, hq.eflg, Sys.events_nil, apply_ite (fun t : Sys => t.ctrl.regs canintf),
    Sys.writeBits_ctrl, Ctrl.writeBits_regs, Function.update_same,
    Function.update_noteq (show canintf ≠ eflg by decide), ite_self, ite_writeBits]

/-- A quiet pass clears every flag it keeps after masking. -/
theorem istPass_canintf_quiet (s : Sys) : (istPass env s).1.ctrl.regs canintf &&& intfMask = 0 := by
  have hr : (passRead env s).1 = s.ctrl.regs canintf := by rw [passRead_eq, hq.read]; rfl
  have hm : intfMask = canintfRxif 0 ||| canintfRxif 1 ||| (canintfErr ||| canintfTx) := by decide
  set s₁ := ((s.events env.beforeRead).read2regs canintf).2
  set e := (passRead env s).2
  set i := s.ctrl.regs canintf &&& intfMask with hi
  have hc : s₁.ctrl.regs canintf = s.ctrl.regs canintf := by simp [s₁, hq.read]
  have key : (istErrors env i e (istClear env i e (istRx env i s₁))).ctrl.regs canintf &&&
      intfMask = 0 := by
    rw [istErrors_ctrl, istClear_canintf_quiet hq, istRx_canintf_quiet hq, hc, clearIntfOf_eq, hi, hm]
    exact and_not_read_and_mask _ _ _ _
  rw [istPass_eq, hr]
  rcases istEnd_ctrl i (istErrors env i e (istClear env i e (istRx env i s₁))) with h | h <;>
    rw [h]
  · exact key
  · rwa [Ctrl.writeReg_regs, Function.update_noteq (show canintf ≠ canctrl by decide)]

end Quiet

/-- A pass that reads no pending flag ends the loop. -/
theorem istPass_snd_of_intf_zero {env : PassEnv} {s : Sys}
    (h : (passRead env s).1 &&& intfMask = 0) : (istPass env s).2 = false := by
  rw [istPass_eq, h]
  unfold istEnd
  split <;> simp

/-- Two quiet passes in a row end the handler's loop: the first clears what it read, the
second reads nothing. -/
theorem mcp2515CanIst_quiet_quiet {env₁ env₂ : PassEnv} (envs : List PassEnv) (s : Sys)
    (h₁ : env₁.Quiet) (h₂ : env₂.Quiet) : (mcp2515CanIst (env₁ :: env₂ :: envs) s).2 = true := by
  rw [mcp2515CanIst]
  split
  · rfl
  · split
    · next s' heq =>
      have hz : (passRead env₂ s').1 &&& intfMask = 0 := by
        have h := istPass_canintf_quiet h₁ s
        rw [heq] at h
        rwa [passRead_eq, h₂.read, Ctrl.events_nil]
      rw [mcp2515CanIst]
      split
      · rfl
      · rw [show istPass env₂ s' = ((istPass env₂ s').1, false) from
          Prod.ext rfl (istPass_snd_of_intf_zero hz)]
    · rfl

/-- An invocation over `l₁ ++ l₂` is one over `l₁`, then, if it has not returned, one over `l₂`. -/
theorem mcp2515CanIst_append (l₁ l₂ : List PassEnv) (s : Sys) :
    mcp2515CanIst (l₁ ++ l₂) s = if (mcp2515CanIst l₁ s).2 then mcp2515CanIst l₁ s
      else mcp2515CanIst l₂ (mcp2515CanIst l₁ s).1 := by
  induction l₁ generalizing s with
  | nil =>
    cases h : s.priv.forceQuit
    · simp [mcp2515CanIst, h]
    · simp [mcp2515CanIst, h, mcp2515CanIst_of_forceQuit _ h]
  | cons env l₁ ih =>
    simp only [List.cons_append, mcp2515CanIst]
    split
    · simp
    · split
      · exact ih _
      · simp

/-! ## Allocation failures -/

/-- A frame waiting in `RXB0` of a driver just opened. -/
def pendingSys : Sys := quietSys.events [.arrive 0 fun _ => 0]

/-- A pass in which the controller raises nothing and the allocation for `RXB0` fails. -/
def allocFailPass : PassEnv := { PassEnv.quiet with allocRx0 := false }


/-- A pass at the waiting frame whose allocation fails leaves the controller as it was and
goes round again. -/
theorem istPass_allocFailPass (p : Priv) (g : Ghost) (hq : p.forceQuit = false) :
    (istPass allocFailPass ⟨pendingSys.ctrl, p, g⟩).2 = true ∧
    (istPass allocFailPass ⟨pendingSys.ctrl, p, g⟩).1.ctrl = pendingSys.ctrl ∧
    (istPass allocFailPass ⟨pendingSys.ctrl, p, g⟩).1.priv.forceQuit = false ∧
    (istPass allocFailPass ⟨pendingSys.ctrl, p, g⟩).1.priv.stats.rxDropped =
      p.stats.rxDropped + 1 := by
  have hr : pendingSys.ctrl.regs canintf = canintfRx0if := by decide
  have he : pendingSys.ctrl.regs eflg = 0 := by decide
  have hp : passRead allocFailPass ⟨pendingSys.ctrl, p, g⟩ = (canintfRx0if, 0) := by
    rw [passRead_eq]
    exact Prod.ext hr he
  rw [istPass_eq, hp, show canintfRx0if &&& intfMask = canintfRx0if by decide]
  exact ⟨rfl, rfl, hq, rfl⟩

/-- With the allocation for `RXB0` failing at every pass, no pass ends the loop: the frame
stays in `RXB0`, and each pass counts one more drop. -/
theorem mcp2515CanIst_replicate_allocFailPass (n : Nat) (p : Priv) (g : Ghost)
    (hq : p.forceQuit = false) :
    (mcp2515CanIst (List.replicate n allocFailPass) ⟨pendingSys.ctrl, p, g⟩).2 = false ∧
    (mcp2515CanIst (List.replicate n allocFailPass) ⟨pendingSys.ctrl, p, g⟩).1.priv.stats.rxDropped =
      p.stats.rxDropped + n := by
  induction n generalizing p g with
  | zero => simp [mcp2515CanIst, hq]
  | succ n ih =>
    obtain ⟨h₂, hc, hf, hd⟩ := istPass_allocFailPass p g hq
    rcases hs : istPass allocFailPass ⟨pendingSys.ctrl, p, g⟩ with ⟨⟨c', p', g'⟩, b⟩
    rw [hs] at h₂ hc hf hd
    dsimp only at h₂ hc hf hd
    subst h₂ hc
    rw [List.replicate_succ, mcp2515CanIst, if_neg (by simp [hq]), hs]
    obtain ⟨ih₂, ihd⟩ := ih p' g' hf
    exact ⟨ih₂, by rw [ihd, hd]; omega⟩

/-- The handler runs to quiescence only when allocations stop failing. If from some pass on
the controller raises nothing and every receive allocation succeeds, the invocation returns
within two more passes, whatever the passes before did. With a frame waiting in `RXB0` and the
allocation failing at every pass, no number of passes ends the invocation: `mcp2515_hw_rx`
returns before reading the buffer, `RX0IF` stays set, and each pass counts one more drop. -/
theorem mcp2515CanIst_spins_on_alloc_failure :
    (∀ (envs : Nat → PassEnv) (N : Nat) (s : Sys), (∀ k, N ≤ k → (envs k).Quiet) →
      (mcp2515CanIst ((List.range (N + 2)).map envs) s).2 = true) ∧
    (∀ n, (mcp2515CanIst (List.replicate n allocFailPass) pendingSys).2 = false ∧
      (mcp2515CanIst (List.replicate n allocFailPass) pendingSys).1.priv.stats.rxDropped = n) := by
  refine ⟨fun envs N s hq => ?_, fun n => ?_⟩
  · rw [List.range_succ, List.range_succ, List.map_append, List.map_append, List.append_assoc,
      mcp2515CanIst_append]
    split
    · assumption
    · exact mcp2515CanIst_quiet_quiet [] _ (hq N le_rfl) (hq (N + 1) (by omega))
  · have h := mcp2515CanIst_replicate_allocFailPass n quietSys.priv quietSys.ghost rfl
    rw [show quietSys.priv.stats.rxDropped = 0 from rfl, Nat.zero_add] at h
    exact h

end Mcp2515Banged
