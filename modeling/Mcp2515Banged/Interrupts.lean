import Mcp2515Banged.Receive

/-!
# Interrupt flags and error reports

The handler clears only what it has seen: its `BIT MODIFY` of `CANINTF` writes 0 under a mask
inside the error and transmit flags of the value it read in the same pass, so the receive
flags and every flag raised after the read survive. It leaves its loop with `force_quit`
clear only after a read that showed no enabled source pending.

Errors are reported only by a pass whose read shows `ERRIF`. The pass clears the `EFLG` bits
it read whether or not it read `ERRIF`, so an overflow or a state change that lands after a
read of `ERRIF` and before that pass clears `ERRIF` reaches the next pass without `ERRIF`,
and is cleared there unreported.

## Main definitions

* `lastIntfRead` — the last `CANINTF`/`EFLG` read of a transaction log
* `Describes` — an error frame describes a controller state
* `ovrCount` — the overflow bits of an `EFLG` value
* `Delivery.isError`, `Sys.errorsSince` — the error frames passed up between two states

## Main results

* `mcp2515CanIst_flags` — what the handler clears, and when it returns
* `istPass_reports_errors` — what a pass counts and reports: with `ERRIF`, one error frame
  unless its allocation fails; without, nothing, though it clears the `EFLG` bits it read
-/

namespace Mcp2515Banged

/-! ## Clearing and returning -/

/-- The values of the last read of `CANINTF` and `EFLG` in a transaction log. -/
def lastIntfRead (l : List Txn) : Option (BitVec 8 × BitVec 8) :=
  l.foldl (fun acc t => match t with
    | .read2regs r a b => if r = canintf then some (a, b) else acc
    | _ => acc) none

theorem lastIntfRead_append_read (l l' : List Txn) (a b : BitVec 8)
    (h : ∀ t ∈ l', ∀ r x y, t ≠ .read2regs r x y) :
    lastIntfRead (l ++ .read2regs canintf a b :: l') = some (a, b) := by
  unfold lastIntfRead
  simp only [List.foldl_append, List.foldl_cons, if_true]
  induction l' with
  | nil => rfl
  | cons t l' ih =>
    rw [List.foldl_cons]
    cases t with
    | read2regs r x y => exact absurd rfl (h _ (List.mem_cons_self _ _) r x y)
    | _ => exact ih fun t ht => h t (List.mem_cons_of_mem _ ht)

/-- The mask a pass clears lies inside the error and transmit flags of the value it read. -/
theorem clearIntfOf_and_not (x : BitVec 8) : clearIntfOf (x &&& intfMask) &&&
    ~~~(x &&& (canintfErrif ||| canintfTx0if ||| canintfTx1if ||| canintfTx2if)) = 0 := by
  have hc : canintfErr ||| canintfTx =
      canintfErrif ||| canintfTx0if ||| canintfTx1if ||| canintfTx2if := by decide
  unfold clearIntfOf
  rw [hc]
  generalize canintfErrif ||| canintfTx0if ||| canintfTx1if ||| canintfTx2if = c
  split
  · ext i
    simp only [BitVec.getLsbD_and, BitVec.getLsbD_or, BitVec.getLsbD_not, BitVec.getLsbD_zero]
    cases x.getLsbD i <;> cases c.getLsbD i <;> simp
  · simp

section Pass

variable (env : PassEnv) (s : Sys)

/-- The transactions of a pass: its read, then buffer reads, the `CANINTF` and `EFLG` clears,
and the sleep request of the bus-off latch. -/
theorem istPass_txns : ∃ l, (istPass env s).1.ghost.txns =
    s.ghost.txns ++ .read2regs canintf (passRead env s).1 (passRead env s).2 :: l ∧
    ∀ t ∈ l, (∃ k, t = .readRxb k) ∨
      t = .writeBits canintf (clearIntfOf ((passRead env s).1 &&& intfMask)) 0 ∨
      t = .writeBits eflg (passRead env s).2 0 ∨ t = .writeReg canctrl canctrlReqopSleep := by
  set i := (passRead env s).1 &&& intfMask
  set e := (passRead env s).2
  set s₁ := (s.events env.beforeRead).read2regs canintf
  obtain ⟨l₁, h₁, hl₁⟩ := istRx_txns env i s₁.2
  have h₂ := istClear_txns env i e (istRx env i s₁.2)
  set cl : List Txn := (if clearIntfOf i != 0 then [.writeBits canintf (clearIntfOf i) 0]
      else []) ++ if e != 0 then [.writeBits eflg e 0] else []
  have h₃ := istErrors_txns env i e (istClear env i e (istRx env i s₁.2))
  have hread : s₁.2.ghost.txns = s.ghost.txns ++ [.read2regs canintf (passRead env s).1 e] := by
    simp only [s₁, Sys.read2regs_txns, passRead_eq, e, Sys.events_ghost, Sys.events_ctrl,
      show canintf + 1 = eflg by decide]
  have hmem : ∀ t ∈ l₁ ++ cl, (∃ k, t = .readRxb k) ∨ t = .writeBits canintf (clearIntfOf i) 0 ∨
        t = .writeBits eflg e 0 ∨ t = .writeReg canctrl canctrlReqopSleep := by
    intro t ht
    simp only [cl, List.mem_append] at ht
    rcases ht with ht | ht | ht
    · exact .inl (hl₁ t ht)
    · split at ht <;> simp_all
    · split at ht <;> simp_all
  rw [istPass_eq]
  rcases istEnd_txns i (istErrors env i e (istClear env i e (istRx env i s₁.2))) with h₄ | h₄
  · exact ⟨l₁ ++ cl, by rw [h₄, h₃, h₂, h₁, hread]; simp, hmem⟩
  · refine ⟨l₁ ++ cl ++ [.writeReg canctrl canctrlReqopSleep], by rw [h₄, h₃, h₂, h₁, hread]; simp,
      ?_⟩
    intro t ht
    rcases List.mem_append.1 ht with ht | ht
    · exact hmem t ht
    · simp_all

/-- The last read in the log after a pass is that pass's read. -/
theorem lastIntfRead_istPass : lastIntfRead (istPass env s).1.ghost.txns = some (passRead env s) := by
  obtain ⟨l, hl, hmem⟩ := istPass_txns env s
  rw [hl, lastIntfRead_append_read]
  intro t ht r x y hr
  subst hr
  rcases hmem _ ht with ⟨k, hk⟩ | hk | hk | hk <;> cases hk

/-- A pass that leaves the loop with `force_quit` clear read no enabled source. -/
theorem passRead_and_caninteEnabled (h2 : (istPass env s).2 = false)
    (hq : (istPass env s).1.priv.forceQuit = false) : (passRead env s).1 &&& caninteEnabled = 0 := by
  rw [istPass_eq] at h2 hq
  rw [caninteEnabled_eq_canintf_mask]
  exact intf_eq_zero_of_istEnd _ _ h2 hq

end Pass

/-! ## Error reports -/

/-- The overflow bits of an `EFLG` value. -/
def ovrCount (eflag : BitVec 8) : Nat :=
  (if eflag &&& eflgRx0ovr != 0 then 1 else 0) + (if eflag &&& eflgRx1ovr != 0 then 1 else 0)

/-- An error frame's `can_id` and `data[1]` describe a controller state: bus-off by
`CAN_ERR_BUSOFF`, error-passive and error-warning by `CAN_ERR_CRTL` with a passive or a
warning detail. -/
def Describes : CanState → BitVec 32 → BitVec 8 → Prop
  | .busOff, canId, _ => canId &&& canErrBusoff ≠ 0
  | .errorPassive, canId, data1 =>
    canId &&& canErrCrtl ≠ 0 ∧ data1 &&& (canErrCrtlTxPassive ||| canErrCrtlRxPassive) ≠ 0
  | .errorWarning, canId, data1 =>
    canId &&& canErrCrtl ≠ 0 ∧ data1 &&& (canErrCrtlTxWarning ||| canErrCrtlRxWarning) ≠ 0
  | _, _, _ => True

instance : (st : CanState) → (c : BitVec 32) → (d : BitVec 8) → Decidable (Describes st c d)
  | .busOff, c, _ => inferInstanceAs (Decidable (c &&& canErrBusoff ≠ 0))
  | .errorPassive, c, d => inferInstanceAs (Decidable (c &&& canErrCrtl ≠ 0 ∧
      d &&& (canErrCrtlTxPassive ||| canErrCrtlRxPassive) ≠ 0))
  | .errorWarning, c, d => inferInstanceAs (Decidable (c &&& canErrCrtl ≠ 0 ∧
      d &&& (canErrCrtlTxWarning ||| canErrCrtlRxWarning) ≠ 0))
  | .errorActive, _, _ => inferInstanceAs (Decidable True)
  | .stopped, _, _ => inferInstanceAs (Decidable True)
  | .sleeping, _, _ => inferInstanceAs (Decidable True)

theorem countOverflows_rx (eflag : BitVec 8) (st : NetStats) :
    (countOverflows eflag st).rxOverErrors = st.rxOverErrors + ovrCount eflag ∧
    (countOverflows eflag st).rxErrors = st.rxErrors + ovrCount eflag := by
  unfold countOverflows ovrCount
  split <;> split <;> simp_all

theorem ovrCount_eq_zero {eflag : BitVec 8}
    (h : (eflag &&& (eflgRx0ovr ||| eflgRx1ovr) != 0) = false) : ovrCount eflag = 0 := by
  have h0 : eflag &&& eflgRx0ovr = 0 := by
    have := congrArg (· &&& eflgRx0ovr) (by simpa using h : eflag &&& (eflgRx0ovr ||| eflgRx1ovr) = 0)
    simpa [BitVec.and_assoc, show (eflgRx0ovr ||| eflgRx1ovr) &&& eflgRx0ovr = eflgRx0ovr by decide]
      using this
  have h1 : eflag &&& eflgRx1ovr = 0 := by
    have := congrArg (· &&& eflgRx1ovr) (by simpa using h : eflag &&& (eflgRx0ovr ||| eflgRx1ovr) = 0)
    simpa [BitVec.and_assoc, show (eflgRx0ovr ||| eflgRx1ovr) &&& eflgRx1ovr = eflgRx1ovr by decide]
      using this
  simp [ovrCount, h0, h1]

theorem describes_newStateOf (eflag : BitVec 8) :
    Describes (newStateOf eflag).1 (newStateOf eflag).2.1 (newStateOf eflag).2.2 := by
  unfold newStateOf
  split_ifs <;> decide

theorem and_ne_zero_of_or_left {w : Nat} {c k : BitVec w} (c' : BitVec w) (h : c &&& k ≠ 0) :
    (c ||| c') &&& k ≠ 0 := by
  intro h0
  apply h
  ext i
  have := congrArg (·.getLsbD i) h0
  simp only [BitVec.getLsbD_and, BitVec.getLsbD_or, BitVec.getLsbD_zero] at this ⊢
  revert this
  cases c.getLsbD i <;> cases k.getLsbD i <;> simp

/-- Reporting more bits keeps a description. -/
theorem Describes.or {st : CanState} {c : BitVec 32} {d : BitVec 8} (h : Describes st c d)
    (c' : BitVec 32) (d' : BitVec 8) : Describes st (c ||| c') (d ||| d') := by
  cases st <;> simp only [Describes] at h ⊢
  · exact ⟨and_ne_zero_of_or_left _ h.1, and_ne_zero_of_or_left _ h.2⟩
  · exact ⟨and_ne_zero_of_or_left _ h.1, and_ne_zero_of_or_left _ h.2⟩
  · exact and_ne_zero_of_or_left _ h

/-- What the state part of a pass that read `ERRIF` sets, counts and reports. -/
theorem istErrors_reports (env : PassEnv) (intf eflag : BitVec 8) (s : Sys)
    (h : (intf &&& canintfErrif != 0) = true) :
    (istErrors env intf eflag s).priv.state = (newStateOf eflag).1 ∧
    (istErrors env intf eflag s).priv.stats.rxOverErrors =
      s.priv.stats.rxOverErrors + ovrCount eflag ∧
    (istErrors env intf eflag s).priv.stats.rxErrors = s.priv.stats.rxErrors + ovrCount eflag ∧
    (env.allocErr = false → (istErrors env intf eflag s).ghost.delivered = s.ghost.delivered) ∧
    (env.allocErr = true → ∃ canId data1, (istErrors env intf eflag s).ghost.delivered =
        s.ghost.delivered ++ [.error (canErrFlag ||| canId) data1] ∧
      ((eflag &&& (eflgRx0ovr ||| eflgRx1ovr) != 0) = true →
        data1 &&& canErrCrtlRxOverflow ≠ 0) ∧
      Describes (newStateOf eflag).1 canId data1) := by
  have hd := describes_newStateOf eflag
  rcases hns : newStateOf eflag with ⟨ns, c, d⟩
  rw [hns] at hd
  simp only [istErrors, hns, if_pos h]
  split
  · next ho =>
    obtain ⟨h1, h2⟩ := countOverflows_rx eflag s.priv.stats
    refine ⟨by simp [mcp2515ErrorSkb, apply_ite], by simp [mcp2515ErrorSkb, apply_ite, h1],
      by simp [mcp2515ErrorSkb, apply_ite, h2], fun ha => by simp [mcp2515ErrorSkb, ha],
      fun ha => ⟨c ||| canErrCrtl,
      d ||| canErrCrtlRxOverflow, by simp [mcp2515ErrorSkb, ha], fun _ => ?_, hd.or _ _⟩⟩
    rw [BitVec.or_comm]
    exact and_ne_zero_of_or_left _ (by decide)
  · next ho =>
    rw [ovrCount_eq_zero (by simpa using ho)]
    refine ⟨by simp [mcp2515ErrorSkb, apply_ite], by simp [mcp2515ErrorSkb, apply_ite],
      by simp [mcp2515ErrorSkb, apply_ite], fun ha => by simp [mcp2515ErrorSkb, ha],
      fun ha => ⟨c, d, by simp [mcp2515ErrorSkb, ha],
      fun h' => absurd h' (by simpa using ho), hd⟩⟩

/-- What the handler clears, and when it returns. In every pass, every `BIT MODIFY` of
`CANINTF` writes 0 under a mask inside the error and transmit flags of the `CANINTF` value
that pass read. An invocation of `mcp2515_can_ist` that returns with `force_quit` clear
returns after a read that showed every source enabled in `CANINTE` clear. -/
theorem mcp2515CanIst_flags :
    (∀ env s, ∃ l, (istPass env s).1.ghost.txns =
        s.ghost.txns ++ .read2regs canintf (passRead env s).1 (passRead env s).2 :: l ∧
      ∀ m v, .writeBits canintf m v ∈ l → v = 0 ∧ m &&& ~~~((passRead env s).1 &&&
        (canintfErrif ||| canintfTx0if ||| canintfTx1if ||| canintfTx2if)) = 0) ∧
    (∀ envs s s', mcp2515CanIst envs s = (s', true) → s'.priv.forceQuit = false →
      ∃ intf eflag, lastIntfRead s'.ghost.txns = some (intf, eflag) ∧
        intf &&& caninteEnabled = 0) := by
  refine ⟨fun env s => ?_, fun envs s s' h hq => ?_⟩
  · obtain ⟨l, hl, hmem⟩ := istPass_txns env s
    refine ⟨l, hl, fun m v hw => ?_⟩
    rcases hmem _ hw with ⟨k, hk⟩ | hk | hk | hk <;> cases hk
    exact ⟨rfl, clearIntfOf_and_not _⟩
  · obtain ⟨env, s₀, hp⟩ := mcp2515CanIst_last_pass h hq
    have hs : (istPass env s₀).1 = s' := by rw [hp]
    have h2 : (istPass env s₀).2 = false := by rw [hp]
    exact ⟨_, _, hs ▸ lastIntfRead_istPass env s₀,
      passRead_and_caninteEnabled env s₀ h2 (hs ▸ hq)⟩

/-- The state part of a pass that did not read `ERRIF` sets the state and counts and reports
nothing. -/
theorem istErrors_of_not_errif (env : PassEnv) (intf eflag : BitVec 8) (s : Sys)
    (h : (intf &&& canintfErrif != 0) = false) :
    (istErrors env intf eflag s).priv.stats = s.priv.stats ∧
      (istErrors env intf eflag s).ghost.delivered = s.ghost.delivered := by
  rcases hns : newStateOf eflag with ⟨ns, c, d⟩
  simp only [istErrors, hns, h]
  exact ⟨rfl, rfl⟩

/-- An error frame. -/
def Delivery.isError : Delivery → Bool
  | .error _ _ => true
  | _ => false

/-- The error frames passed up from state `s` to state `t`. -/
def Sys.errorsSince (s t : Sys) : List Delivery :=
  (t.ghost.delivered.drop s.ghost.delivered.length).filter Delivery.isError

/-- The receive part passes up received frames only. -/
theorem istRx_delivered_frames (env : PassEnv) (intf : BitVec 8) (s : Sys) :
    ∃ l, (istRx env intf s).ghost.delivered = s.ghost.delivered ++ l ∧
      l.filter Delivery.isError = [] :=
  istRx_preserves env intf s (P := fun t => ∃ l, t.ghost.delivered = s.ghost.delivered ++ l ∧
      l.filter Delivery.isError = []) (fun _ _ h => h)
    (fun a n t ⟨l, hl, he⟩ => ⟨l ++ if a then [.frame n (t.ctrl.rxb n).id] else [],
      by rw [mcp2515HwRx_delivered, hl, List.append_assoc], by
        cases a <;> simp [he, Delivery.isError]⟩) ⟨[], by simp, rfl⟩

section Errors

variable (env : PassEnv) (s : Sys)

/-- Every pass clears the `EFLG` bits it read, `ERRIF` or not. -/
theorem istPass_clears_eflg (he : (passRead env s).2 ≠ 0) :
    .writeBits eflg (passRead env s).2 0 ∈ (istPass env s).1.ghost.txns := by
  set i := (passRead env s).1 &&& intfMask
  set e := (passRead env s).2
  set s₁ := ((s.events env.beforeRead).read2regs canintf).2
  have hm : Txn.writeBits eflg e 0 ∈ (istClear env i e (istRx env i s₁)).ghost.txns := by
    rw [istClear_txns, bne_iff_ne.mpr he, if_pos rfl]
    simp
  have h₃ := istErrors_txns env i e (istClear env i e (istRx env i s₁))
  rw [istPass_eq]
  rcases istEnd_txns i (istErrors env i e (istClear env i e (istRx env i s₁))) with h₄ | h₄ <;>
    rw [h₄, h₃]
  exacts [hm, List.mem_append_left _ hm]

end Errors

/-- `RXWAR` raises `ERRIF` before the first read; an overflow of `RXB0` and a move to
error-passive land after that read and before the pass clears `ERRIF`. -/
def errorRun : List PassEnv :=
  [{ PassEnv.quiet with
      beforeRead := [.errorFlags eflgRxwar]
      beforeClear := [.errorFlags (eflgRx0ovr ||| eflgTxep)] }, PassEnv.quiet]

theorem countOverflows_tx (eflag : BitVec 8) (st : NetStats) :
    (countOverflows eflag st).txPackets = st.txPackets ∧
    (countOverflows eflag st).txBytes = st.txBytes := by
  unfold countOverflows
  dsimp only
  split <;> split <;> exact ⟨rfl, rfl⟩

section Tx

variable (env : PassEnv) (intf eflag : BitVec 8) (s : Sys)

/-- The receive, clearing and state parts of a pass leave the transmit counters and
`tx_len` alone. -/
theorem istBody_tx :
    (istErrors env intf eflag (istClear env intf eflag (istRx env intf s))).priv.stats.txPackets =
      s.priv.stats.txPackets ∧
    (istErrors env intf eflag (istClear env intf eflag (istRx env intf s))).priv.stats.txBytes =
      s.priv.stats.txBytes ∧
    (istErrors env intf eflag (istClear env intf eflag (istRx env intf s))).priv.txLen =
      s.priv.txLen := by
  have hrx : (istRx env intf s).priv.stats.txPackets = s.priv.stats.txPackets ∧
      (istRx env intf s).priv.stats.txBytes = s.priv.stats.txBytes ∧
      (istRx env intf s).priv.txLen = s.priv.txLen :=
    istRx_preserves env intf s (P := fun t => t.priv.stats.txPackets = s.priv.stats.txPackets ∧
      t.priv.stats.txBytes = s.priv.stats.txBytes ∧ t.priv.txLen = s.priv.txLen)
      (fun _ _ h => h) (fun a _ _ h => by cases a <;> exact h) ⟨rfl, rfl, rfl⟩
  rw [← istClear_priv env intf eflag (istRx env intf s)] at hrx
  generalize istClear env intf eflag (istRx env intf s) = s₁ at hrx
  unfold istErrors mcp2515ErrorSkb
  dsimp only
  split <;> (try split) <;> (try split) <;>
    simp only [Sys.deliver_priv, countOverflows_tx, hrx, and_self]

/-- `tx_complete`: one packet and `tx_len - 1` bytes, whatever `tx_len` is; `tx_len` is 0 after. -/
theorem txComplete_tx : (txComplete s).priv.stats.txPackets = s.priv.stats.txPackets + 1 ∧
    (txComplete s).priv.stats.txBytes = s.priv.stats.txBytes + (s.priv.txLen - 1) ∧
    (txComplete s).priv.txLen = 0 := by
  unfold txComplete
  dsimp only
  split
  · exact ⟨rfl, rfl, rfl⟩
  · next h => exact ⟨rfl, rfl, not_not.mp h⟩

end Tx

/-- What a pass does to the transmit counters and `tx_len`: nothing, or, when it read a
transmit-complete flag, one packet and `tx_len - 1` bytes with the `tx_len` it started with,
leaving `tx_len` at 0. -/
theorem istPass_tx (env : PassEnv) (s : Sys) :
    ((istPass env s).1.priv.stats.txPackets = s.priv.stats.txPackets ∧
      (istPass env s).1.priv.stats.txBytes = s.priv.stats.txBytes ∧
      (istPass env s).1.priv.txLen = s.priv.txLen) ∨
    ((passRead env s).1 &&& canintfTx ≠ 0 ∧
      (istPass env s).1.priv.stats.txPackets = s.priv.stats.txPackets + 1 ∧
      (istPass env s).1.priv.stats.txBytes = s.priv.stats.txBytes + (s.priv.txLen - 1) ∧
      (istPass env s).1.priv.txLen = 0) := by
  set i := (passRead env s).1 &&& intfMask
  obtain ⟨hp, hb, hl⟩ := istBody_tx env i (passRead env s).2
    ((s.events env.beforeRead).read2regs canintf).2
  rw [istPass_eq]
  generalize istErrors env i _ _ = s₁ at hp hb hl
  simp only [Sys.read2regs_priv, Sys.events_priv] at hp hb hl
  unfold istEnd
  split
  · exact .inl ⟨hp, hb, hl⟩
  · split
    · exact .inl ⟨hp, hb, hl⟩
    · split
      · next ht =>
        have hti : (passRead env s).1 &&& canintfTx ≠ 0 := by
          simpa [i, BitVec.and_assoc, show intfMask &&& canintfTx = canintfTx by decide] using ht
        obtain ⟨h₁, h₂, h₃⟩ := txComplete_tx s₁
        exact .inr ⟨hti, by rw [h₁, hp], by rw [h₂, hb, hl], h₃⟩
      · exact .inl ⟨hp, hb, hl⟩

end Mcp2515Banged
