import Mcp2515Banged.Handler

/-!
# Receive delivery

Each receive buffer hands its frames up in the order it took them: a buffer takes a frame
only while its flag is down, and the handler reads a buffer only while its flag is up, so the
frames delivered from a buffer are a subsequence of the frames it accepted. Across the two
buffers the order of arrival is lost: a frame that rolls over into `RXB1` while the handler
empties `RXB0` is overtaken by the next frame into `RXB0`.

A failed allocation counts a drop and leaves the buffer unread, so the next pass reads the
same frame again.

## Main definitions

* `deliveredFrom` — the frames passed up from one buffer
* `BufOrder` — the per-buffer order invariant

## Main results

* `bufOrder_istPass` — one pass keeps the invariant
* `deliveredFrom_sublist_accepted` — in every run, the frames delivered from a buffer are a
  subsequence of those it accepted
-/

namespace Mcp2515Banged

/-- The frames passed up from buffer `n`, in order. -/
def deliveredFrom (n : Fin 2) (ds : List Delivery) : List Nat :=
  ds.filterMap fun
    | .frame m x => if m = n then some x else none
    | _ => none

@[simp] theorem deliveredFrom_nil (n : Fin 2) : deliveredFrom n [] = [] := rfl

@[simp] theorem deliveredFrom_append (n : Fin 2) (ds ds' : List Delivery) :
    deliveredFrom n (ds ++ ds') = deliveredFrom n ds ++ deliveredFrom n ds' :=
  List.filterMap_append _ _ _

@[simp] theorem deliveredFrom_frame (n m : Fin 2) (x : Nat) :
    deliveredFrom n [.frame m x] = if m = n then [x] else [] := by
  by_cases h : m = n <;> simp [deliveredFrom, h]

@[simp] theorem deliveredFrom_error (n : Fin 2) (canId : BitVec 32) (data1 : BitVec 8) :
    deliveredFrom n [.error canId data1] = [] := rfl

@[simp] theorem deliveredFrom_echo (n : Fin 2) : deliveredFrom n [.echo] = [] := rfl

/-- Buffer `n` passes frames up in the order it accepted them: the frames delivered from it are
a subsequence of those it accepted, less the one it holds unread while its flag is up. -/
def BufOrder (s : Sys) (n : Fin 2) : Prop :=
  if s.ctrl.rxFull n then
    ∃ pre, s.ctrl.accepted n = pre ++ [(s.ctrl.rxb n).id] ∧
      (deliveredFrom n s.ghost.delivered).Sublist pre
  else (deliveredFrom n s.ghost.delivered).Sublist (s.ctrl.accepted n)

section Preservation

variable {s s' : Sys} {n : Fin 2}

/-- A step that leaves buffer `n` and its deliveries alone keeps its order. -/
theorem BufOrder.of_eq (h : BufOrder s n) (h1 : s'.ctrl.rxFull n = s.ctrl.rxFull n)
    (h2 : s'.ctrl.accepted n = s.ctrl.accepted n) (h3 : s'.ctrl.rxb n = s.ctrl.rxb n)
    (h4 : deliveredFrom n s'.ghost.delivered = deliveredFrom n s.ghost.delivered) :
    BufOrder s' n := by
  unfold BufOrder
  rw [h1, h2, h3, h4]
  exact h

theorem bufOrder_events (es : List CtrlEvent) (h : BufOrder s n) : BufOrder (s.events es) n := by
  induction es generalizing s with
  | nil => exact h
  | cons e es ih =>
    apply ih (s := s.events [e])
    rcases s.ctrl.event_buffer e n with ⟨h1, h2, h3⟩ | ⟨h0, h1, h2⟩
    · exact h.of_eq h1 h2 h3 rfl
    · unfold BufOrder at h ⊢
      simp only [Sys.events, Ctrl.events_cons, Ctrl.events_nil, h0, h1, if_true] at h ⊢
      exact ⟨_, h2, h⟩

theorem rxFull_hwRx (a : Bool) (k m : Fin 2) (hmk : m ≠ k) :
    (mcp2515HwRx a k s).ctrl.rxFull m = s.ctrl.rxFull m := by
  cases a
  · rfl
  · simp [mcp2515HwRx, Ctrl.readRxb_rxFull, hmk]

/-- Reading a full buffer moves its frame from "held" to "delivered". -/
theorem bufOrder_hwRx (a : Bool) (k : Fin 2) (hk : s.ctrl.rxFull k = true) (h : BufOrder s n) :
    BufOrder (mcp2515HwRx a k s) n := by
  cases a
  · exact h.of_eq rfl rfl rfl rfl
  by_cases hnk : n = k
  · subst hnk
    unfold BufOrder at h ⊢
    rw [if_pos hk] at h
    obtain ⟨pre, hacc, hsub⟩ := h
    simp only [mcp2515HwRx, Ctrl.readRxb_rxFull, ne_eq, not_true_eq_false, decide_False,
      Bool.and_false, Bool.false_eq_true, if_false, Ctrl.readRxb_accepted, Ctrl.readRxb_fst,
      deliveredFrom_append, deliveredFrom_frame, if_true, hacc]
    exact hsub.append (List.Sublist.refl _)
  · exact h.of_eq (rxFull_hwRx _ _ _ hnk) rfl rfl (by simp [mcp2515HwRx, Ne.symm hnk])

theorem bufOrder_writeBits (reg mask : BitVec 8) (hm : reg = canintf → ∀ k : Fin 2, mask.getLsbD k = false)
    (h : BufOrder s n) : BufOrder (s.writeBits reg mask 0) n :=
  h.of_eq (Ctrl.writeBits_rxFull _ _ _ _ fun hr => hm hr n) rfl rfl rfl

/-- The flags a pass clears spare the receive flags. -/
theorem getLsbD_clearIntfOf (intf : BitVec 8) (k : Fin 2) : (clearIntfOf intf).getLsbD k = false := by
  unfold clearIntfOf
  split <;> fin_cases k <;> simp [canintfErr, canintfErrif, canintfTx, canintfTx0if, canintfTx1if,
    canintfTx2if]

/-- A flag the handler read through its mask was up in `CANINTF`. -/
theorem getLsbD_of_and_twoPow {x m : BitVec 8} {k : Nat} (hk : k < 8)
    (h : (x &&& m &&& BitVec.twoPow 8 k != 0) = true) : x.getLsbD k = true := by
  rw [and_twoPow_ne_zero_eq_getLsbD _ hk, BitVec.getLsbD_and] at h
  simp only [Bool.and_eq_true] at h
  exact h.1

theorem bufOrder_istRx (env : PassEnv) (intf : BitVec 8)
    (h0 : (intf &&& canintfRx0if != 0) = true → s.ctrl.rxFull 0 = true)
    (h1 : (intf &&& canintfRx1if != 0) = true → s.ctrl.rxFull 1 = true)
    (h : ∀ k, BufOrder s k) : BufOrder (istRx env intf s) n := by
  unfold istRx
  dsimp only
  have hb : ∀ k, BufOrder (if (intf &&& canintfRx0if != 0) = true then
      mcp2515HwRx env.allocRx0 0 (s.events env.beforeRx0) else s.events env.beforeRx0) k := by
    intro k
    split
    · next hi =>
      refine bufOrder_hwRx _ _ ?_ (bufOrder_events _ (h k))
      rw [Sys.events_ctrl]
      exact Ctrl.rxFull_events _ (h0 hi)
    · exact bufOrder_events _ (h k)
  split
  · next hi =>
    refine bufOrder_hwRx _ _ ?_ (bufOrder_events _ (hb n))
    rw [Sys.events_ctrl]
    refine Ctrl.rxFull_events _ ?_
    split
    · rw [rxFull_hwRx _ _ _ (by decide), Sys.events_ctrl]
      exact Ctrl.rxFull_events _ (h1 hi)
    · rw [Sys.events_ctrl]
      exact Ctrl.rxFull_events _ (h1 hi)
  · exact bufOrder_events _ (hb n)

theorem bufOrder_istClear (env : PassEnv) (intf eflag : BitVec 8) (h : BufOrder s n) :
    BufOrder (istClear env intf eflag s) n := by
  unfold istClear
  dsimp only
  have hd : BufOrder ((if clearIntfOf intf != 0 then
      (s.events env.beforeClear).writeBits canintf (clearIntfOf intf) 0
      else s.events env.beforeClear).events env.beforeEflg) n := by
    refine bufOrder_events _ ?_
    split
    · exact bufOrder_writeBits _ _ (fun _ => getLsbD_clearIntfOf intf)
        (bufOrder_events _ h)
    · exact bufOrder_events _ h
  split
  · exact bufOrder_writeBits _ _ (fun he => absurd he (by decide)) hd
  · exact hd

theorem bufOrder_istErrors (env : PassEnv) (intf eflag : BitVec 8) (h : BufOrder s n) :
    BufOrder (istErrors env intf eflag s) n := by
  have hc := istErrors_ctrl env intf eflag s
  refine h.of_eq (by rw [hc]) (by rw [hc]) (by rw [hc]) ?_
  rcases istErrors_delivered env intf eflag s with hd | ⟨c, d, hd⟩ <;> simp [hd]

theorem bufOrder_istEnd (intf : BitVec 8) (h : BufOrder s n) : BufOrder (istEnd intf s).1 n := by
  have hd : deliveredFrom n (istEnd intf s).1.ghost.delivered =
      deliveredFrom n s.ghost.delivered := by
    rcases istEnd_delivered intf s with hd | hd <;> simp [hd]
  rcases istEnd_ctrl intf s with hc | hc
  · exact h.of_eq (by rw [hc]) (by rw [hc]) (by rw [hc]) hd
  · exact h.of_eq (by rw [hc, Ctrl.writeReg_rxFull _ _ _ _ (by decide)]) (by rw [hc]; rfl)
      (by rw [hc]; rfl) hd

/-- One pass of the handler keeps every buffer's order. -/
theorem bufOrder_istPass (env : PassEnv) (h : ∀ k, BufOrder s k) : BufOrder (istPass env s).1 n := by
  set s₁ := (s.events env.beforeRead).read2regs canintf
  have h₁ : ∀ k, BufOrder s₁.2 k := fun k => (bufOrder_events _ (h k)).of_eq rfl rfl rfl rfl
  have hf : ∀ (k : Fin 2) (c : BitVec 8), c = BitVec.twoPow 8 k →
      (s₁.1.1 &&& intfMask &&& c != 0) = true → s₁.2.ctrl.rxFull k = true := by
    intro k c hc hi
    rw [Ctrl.rxFull_eq]
    exact getLsbD_of_and_twoPow (by omega) (hc ▸ hi)
  exact bufOrder_istEnd _ (bufOrder_istErrors _ _ _ (bufOrder_istClear _ _ _
    (bufOrder_istRx _ _ (hf 0 _ (by decide)) (hf 1 _ (by decide)) h₁)))

end Preservation

/-! ## Runs -/

theorem bufOrder_of_handlerReach {s₀ s : Sys} (h₀ : ∀ k, BufOrder s₀ k) (hs : HandlerReach s₀ s) :
    ∀ k, BufOrder s k := by
  induction hs with
  | init => exact h₀
  | event e _ ih => exact fun k => bufOrder_events _ (ih k)
  | pass env _ _ ih => exact fun k => bufOrder_istPass env ih

/-- In every run of events and handler passes from a state where each buffer keeps its order
(for instance a quiet one), the frames passed up from a buffer are a subsequence of the frames
it accepted: each buffer delivers in its own order of arrival. -/
theorem deliveredFrom_sublist_accepted {s₀ s : Sys} (h₀ : ∀ k, BufOrder s₀ k)
    (hs : HandlerReach s₀ s) (n : Fin 2) :
    (deliveredFrom n s.ghost.delivered).Sublist (s.ctrl.accepted n) := by
  have h := bufOrder_of_handlerReach h₀ hs n
  unfold BufOrder at h
  split at h
  · obtain ⟨pre, hacc, hsub⟩ := h
    rw [hacc]
    exact hsub.trans (List.sublist_append_left _ _)
  · exact h

/-- Frame 2 arrives between the handler's flag read and its read of `RXB0`, and rolls over into
`RXB1`; frame 3 arrives once `RXB0` is empty again, before the read of `RXB1` the first pass
does not make. -/
def overtakeRun : List PassEnv :=
  [{ PassEnv.quiet with
      beforeRead := [.arrive 1 fun _ => 0]
      beforeRx0 := [.arrive 2 fun _ => 0]
      beforeRx1 := [.arrive 3 fun _ => 0] },
    PassEnv.quiet, PassEnv.quiet]

theorem deliveredFrom_sublist_accepted_overtakeRun :
    (∀ k, BufOrder quietSys k) ∧ HandlerReach quietSys (mcp2515CanIst overtakeRun quietSys).1 ∧
    (deliveredFrom 0 (mcp2515CanIst overtakeRun quietSys).1.ghost.delivered).Sublist
      ((mcp2515CanIst overtakeRun quietSys).1.ctrl.accepted 0) :=
  have h₀ : ∀ k, BufOrder quietSys k := fun k => by simp [BufOrder, Ctrl.rxFull, quietSys]
  have hs := handlerReach_mcp2515CanIst overtakeRun
    (HandlerReach.init : HandlerReach quietSys quietSys)
  ⟨h₀, hs, deliveredFrom_sublist_accepted h₀ hs 0⟩

/-- The handler returns having passed frame 3 up before frame 2, which arrived first. -/
theorem mcp2515CanIst_overtakeRun :
    (mcp2515CanIst overtakeRun quietSys).2 = true ∧
    (mcp2515CanIst overtakeRun quietSys).1.ctrl.arrived = [1, 2, 3] ∧
    (mcp2515CanIst overtakeRun quietSys).1.ghost.delivered =
      [.frame 0 1, .frame 0 3, .frame 1 2] := by
  decide

/-- Frame 7 waits in `RXB0`; the first allocation fails, the second succeeds. -/
def dropRun : List PassEnv :=
  [{ PassEnv.quiet with beforeRead := [.arrive 7 fun _ => 0], allocRx0 := false },
    PassEnv.quiet, PassEnv.quiet]

/-- The one frame the controller accepted is counted as dropped and then passed up:
`rx_packets + rx_dropped` grows by 2. -/
theorem mcp2515CanIst_dropRun :
    (mcp2515CanIst dropRun quietSys).2 = true ∧
    (mcp2515CanIst dropRun quietSys).1.ctrl.accepted 0 = [7] ∧
    (mcp2515CanIst dropRun quietSys).1.ghost.drops = [7] ∧
    (mcp2515CanIst dropRun quietSys).1.ghost.delivered = [.frame 0 7] ∧
    (mcp2515CanIst dropRun quietSys).1.priv.stats.rxPackets +
      (mcp2515CanIst dropRun quietSys).1.priv.stats.rxDropped = 2 := by
  decide

end Mcp2515Banged
