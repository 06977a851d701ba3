import Mathlib.Algebra.BigOperators.Group.Finset
import Mcp2515Banged.Registers

/-!
# Line transport: `mcp2515_spi_trans`

The driver reaches the controller over four software-toggled lines. Every `gpio_set_value`,
`gpio_get_value` and delay of the driver is an event of a history, and the level the data-in
line returns is whatever the world shows after the history so far (`DataIn`), so the chip
model of `Mcp2515Banged.Chip` and an arbitrary sample stream are both instances.

`mcp2515_spi_trans(priv, len)` shifts `spi_tx_buf[0 .. len)` out and fills
`spi_rx_buf[0 .. len)`. Its inner loop tests `data_out & 0x80` but never shifts `data_out`,
so all eight cycles of a byte drive the byte's top bit.

The two buffers are pointers of `mcp2515_priv` that the probe never sets, so in the driver as
written the first store into `spi_tx_buf` faults (`Mcp2515Banged.Probe`). The line level takes
them as allocated buffers, to say what the routines do with them.

## Main definitions

* `LineEvent` — one call on the lines; `bitCycle` — one pass of the inner loop
* `Link` — the transfer buffers of `mcp2515_priv` and the history of the lines
* `mcp2515SpiTrans` — the transfer routine

## Main results

* `mcp2515SpiTrans_spec` — a call is exactly `8 * len` bit cycles, and `spi_rx_buf[i]` is the
  samples of byte `i`, most significant first
* `mosiAtRisingEdges_mcp2515SpiTrans` — at every rising edge data-out holds the top bit of
  the byte being sent
-/

namespace Mcp2515Banged

/-- The lines of the link, named by the source's `GPIO_*` role indices. -/
inductive Line
  | miso
  | mosi
  | clk
  | cs
  deriving DecidableEq, Repr

/-- One call of the driver on the lines: `gpio_set_value`, `gpio_get_value` with the level
it returned, or a busy delay in microseconds. -/
inductive LineEvent
  | set (l : Line) (v : Bool)
  | get (l : Line) (v : Bool)
  | delay (us : Nat)
  deriving DecidableEq, Repr

/-- The level the data-in line shows after a history of line events. -/
abbrev DataIn := List LineEvent → Bool

/-- The SPI part of `mcp2515_priv`: the two transfer buffers, every line event so far, and
(as an observation) the byte strings handed to `mcp2515_spi_trans`, in order. -/
structure Link where
  spiTxBuf : Nat → BitVec 8
  spiRxBuf : Nat → BitVec 8
  trace : List LineEvent
  xfers : List (List (BitVec 8))

/-- The level data-out is driven to for `data_out`: the test `data_out & 0x80`. -/
def topBit (dataOut : BitVec 8) : Bool := dataOut &&& 0x80 != 0

@[simp] theorem topBit_eq (x : BitVec 8) : topBit x = x.getLsbD 7 := by
  rw [topBit, show (0x80 : BitVec 8) = BitVec.twoPow 8 7 from rfl, BitVec.and_twoPow]
  cases x.getLsbD 7 <;> rfl

/-- The events of one pass of the inner loop: clock low, data-out, clock high, sample. -/
def bitCycle (out sample : Bool) : List LineEvent :=
  [.set .clk false, .set .mosi out, .set .clk true, .get .miso sample]

/-- One pass of the inner loop of `mcp2515_spi_trans` on `(data_in, history)`. -/
def shiftBit (din : DataIn) (dataOut : BitVec 8) (st : BitVec 8 × List LineEvent) :
    BitVec 8 × List LineEvent :=
  let h := st.2 ++ [.set .clk false, .set .mosi (topBit dataOut), .set .clk true]
  ((st.1 <<< 1) ||| (if din h then (1 : BitVec 8) else 0), h ++ [.get .miso (din h)])

/-- The outer loop of `mcp2515_spi_trans` from byte `i`, for `n` more bytes. -/
def spiTransLoop (din : DataIn) (i : Nat) : Nat → Link → Link
  | 0, s => s
  | n + 1, s =>
    let r := (shiftBit din (s.spiTxBuf i))^[8] (0, s.trace)
    spiTransLoop din (i + 1) n
      { s with spiRxBuf := Function.update s.spiRxBuf i r.1, trace := r.2 }

/-- `mcp2515_spi_trans(priv, len)`. The trailing `printk` calls only log and are left out. -/
def mcp2515SpiTrans (din : DataIn) (len : Nat) (s : Link) : Link :=
  spiTransLoop din 0 len { s with xfers := s.xfers ++ [(List.range len).map s.spiTxBuf] }

/-- The first `m` samples of `u`, read most significant first. -/
def msbFirst (u : Nat → Bool) : Nat → Nat
  | 0 => 0
  | m + 1 => 2 * msbFirst u m + (u m).toNat

theorem msbFirst_lt (u : Nat → Bool) (m : Nat) : msbFirst u m < 2 ^ m := by
  induction m with
  | zero => simp [msbFirst]
  | succ m ih =>
    have := Bool.toNat_le (u m)
    rw [msbFirst, pow_succ]
    omega

theorem msbFirst_congr {u u' : Nat → Bool} {m : Nat} (h : ∀ k < m, u k = u' k) :
    msbFirst u m = msbFirst u' m := by
  induction m with
  | zero => rfl
  | succ m ih =>
    rw [msbFirst, msbFirst, ih fun k hk => h k (by omega), h m (by omega)]

theorem msbFirst_eight (u : Nat → Bool) :
    msbFirst u 8 = ∑ k in Finset.range 8, (u k).toNat * 2 ^ (7 - k) := by
  simp [msbFirst, Finset.sum_range_succ]
  omega

/-- Shifting in one sample: the byte register doubles and takes the sample as its low bit. -/
theorem toNat_shift_or_sample (d : BitVec 8) (b : Bool) :
    ((d <<< 1) ||| (if b then (1 : BitVec 8) else 0)).toNat = (2 * d.toNat + b.toNat) % 256 := by
  cases b
  · simp [Nat.shiftLeft_eq]; omega
  · rw [← BitVec.add_eq_or_of_and_eq_zero]
    · simp [BitVec.toNat_add, Nat.shiftLeft_eq]; omega
    · ext i
      simp
      exact fun h _ => h

/-- The level sampled in pass `k` of the inner loop started from `(d, h)`. -/
def shiftSample (din : DataIn) (x d : BitVec 8) (h : List LineEvent) (k : Nat) : Bool :=
  din (((shiftBit din x)^[k] (d, h)).2 ++ [.set .clk false, .set .mosi (topBit x), .set .clk true])

/-- `m` passes of the inner loop append `m` bit cycles, each driving the top bit of `x`. -/
theorem shiftBit_iterate_trace (din : DataIn) (x d : BitVec 8) (h : List LineEvent) (m : Nat) :
    ((shiftBit din x)^[m] (d, h)).2 =
      h ++ (List.range m).flatMap fun k => bitCycle (topBit x) (shiftSample din x d h k) := by
  induction m with
  | zero => simp
  | succ m ih =>
    rw [Function.iterate_succ_apply', List.range_succ, List.flatMap_append, ← List.append_assoc,
      ← ih]
    simp [shiftBit, shiftSample, bitCycle]

/-- After `m` passes the byte register holds the samples, most significant first. -/
theorem shiftBit_iterate_toNat (din : DataIn) (x d : BitVec 8) (h : List LineEvent) (m : Nat) :
    ((shiftBit din x)^[m] (d, h)).1.toNat =
      (d.toNat * 2 ^ m + msbFirst (shiftSample din x d h) m) % 256 := by
  induction m with
  | zero => simp [msbFirst, Nat.mod_eq_of_lt d.isLt]
  | succ m ih =>
    rw [Function.iterate_succ_apply']
    simp only [shiftBit, toNat_shift_or_sample, ih, msbFirst, pow_succ, ← mul_assoc]
    simp only [shiftSample]
    generalize d.toNat * 2 ^ m = a
    omega

/-- The bit cycles of byte `b` of a transfer, with samples `v (8 * b) .. v (8 * b + 7)`. -/
def byteCycles (tx : Nat → BitVec 8) (v : Nat → Bool) (b : Nat) : List LineEvent :=
  (List.range 8).flatMap fun k => bitCycle (topBit (tx b)) (v (8 * b + k))

/-- The outer loop from byte `i` for `n` bytes: `n` bytes of bit cycles, and byte `k` of
`spi_rx_buf` assembled from that byte's samples. -/
theorem spiTransLoop_spec (din : DataIn) (i n : Nat) (s : Link) :
    ∃ v : Nat → Bool,
      (spiTransLoop din i n s).trace = s.trace ++ (List.range' i n).flatMap (byteCycles s.spiTxBuf v) ∧
      (∀ k, i ≤ k → k < i + n →
        (spiTransLoop din i n s).spiRxBuf k = BitVec.ofNat 8 (msbFirst (fun t => v (8 * k + t)) 8)) ∧
      (∀ k, (k < i ∨ i + n ≤ k) → (spiTransLoop din i n s).spiRxBuf k = s.spiRxBuf k) ∧
      (spiTransLoop din i n s).spiTxBuf = s.spiTxBuf ∧ (spiTransLoop din i n s).xfers = s.xfers := by
  induction n generalizing i s with
  | zero => exact ⟨fun _ => false, by simp [spiTransLoop], fun k _ _ => by omega,
      fun _ _ => rfl, rfl, rfl⟩
  | succ n ih =>
    set u := shiftSample din (s.spiTxBuf i) 0 s.trace
    obtain ⟨v, htr, hin, hout, htx, hxf⟩ := ih (i + 1)
      { s with spiRxBuf := Function.update s.spiRxBuf i ((shiftBit din (s.spiTxBuf i))^[8] (0, s.trace)).1,
               trace := ((shiftBit din (s.spiTxBuf i))^[8] (0, s.trace)).2 }
    have hbyte : ∀ b k, b ≠ i → k < 8 →
        (if (8 * b + k) / 8 = i then u ((8 * b + k) % 8) else v (8 * b + k)) = v (8 * b + k) :=
      fun b k hb hk => if_neg (by omega)
    refine ⟨fun j => if j / 8 = i then u (j % 8) else v j, ?_, ?_, ?_, htx, hxf⟩
    · rw [spiTransLoop, htr, shiftBit_iterate_trace, List.range'_succ, List.flatMap_cons,
        List.append_assoc]
      congr 2
      · exact List.flatMap_congr fun k hk => by
          have : k < 8 := List.mem_range.1 hk
          simp only [show (8 * i + k) % 8 = k by omega, show (8 * i + k) / 8 = i by omega, if_true]
      · exact List.flatMap_congr fun b hb => by
          have : i + 1 ≤ b := (List.mem_range'_1.1 hb).1
          exact List.flatMap_congr fun k hk => by
            simp only [hbyte b k (by omega) (List.mem_range.1 hk)]
    · intro k hk1 hk2
      rw [spiTransLoop]
      rcases Nat.lt_or_ge i k with hik | hik
      · rw [hin k hik (by omega)]
        congr 1
        exact msbFirst_congr fun t ht => by simp only [hbyte k t (by omega) ht]
      · obtain rfl : k = i := by omega
        rw [hout k (by omega)]
        dsimp only
        rw [Function.update_same]
        have hu : msbFirst (fun t => if (8 * k + t) / 8 = k then u ((8 * k + t) % 8) else v (8 * k + t)) 8
            = msbFirst u 8 := msbFirst_congr fun t ht => by
          simp [show (8 * k + t) / 8 = k by omega, show (8 * k + t) % 8 = t by omega]
        apply BitVec.eq_of_toNat_eq
        rw [shiftBit_iterate_toNat, BitVec.toNat_ofNat]
        rw [hu]
        simp [u]
    · intro k hk
      rw [spiTransLoop, hout k (by omega)]
      exact Function.update_noteq (by omega) _ _

/-- `mcp2515_spi_trans(priv, len)` is exactly `8 * len` bit cycles, clock low then clock high,
each driving the top bit of its byte; byte `i` of `spi_rx_buf` is the eight samples of byte
`i`, most significant first; the rest of `spi_rx_buf` is untouched. -/
theorem mcp2515SpiTrans_spec (din : DataIn) (len : Nat) (s : Link) :
    ∃ v : Nat → Bool,
      (mcp2515SpiTrans din len s).trace =
        s.trace ++ (List.range len).flatMap (byteCycles s.spiTxBuf v) ∧
      (∀ i < len, ((mcp2515SpiTrans din len s).spiRxBuf i).toNat =
        ∑ k in Finset.range 8, (v (8 * i + k)).toNat * 2 ^ (7 - k)) ∧
      (∀ i, len ≤ i → (mcp2515SpiTrans din len s).spiRxBuf i = s.spiRxBuf i) ∧
      (mcp2515SpiTrans din len s).spiTxBuf = s.spiTxBuf ∧
      (mcp2515SpiTrans din len s).xfers = s.xfers ++ [(List.range len).map s.spiTxBuf] := by
  obtain ⟨v, htr, hin, hout, htx, hxf⟩ := spiTransLoop_spec din 0 len
    { s with xfers := s.xfers ++ [(List.range len).map s.spiTxBuf] }
  refine ⟨v, by simpa [mcp2515SpiTrans, List.range_eq_range'] using htr, fun i hi => ?_, fun i hi => hout i (by omega),
    htx, hxf⟩
  rw [mcp2515SpiTrans, hin i (Nat.zero_le i) (by omega), BitVec.toNat_ofNat,
    Nat.mod_eq_of_lt (msbFirst_lt _ 8), msbFirst_eight]

/-! ## Data-out at the rising edges -/

/-- The data-out level at each rising clock edge of a history, in order, starting from the
level `m` (`none` before data-out was ever set). -/
def mosiAtRisingEdges : List LineEvent → Option Bool → List (Option Bool)
  | [], _ => []
  | .set .clk true :: h, m => m :: mosiAtRisingEdges h m
  | .set .mosi v :: h, _ => mosiAtRisingEdges h (some v)
  | _ :: h, m => mosiAtRisingEdges h m

theorem mosiAtRisingEdges_append_bitCycle (o b : Bool) (h : List LineEvent) (m : Option Bool) :
    mosiAtRisingEdges (bitCycle o b ++ h) m = some o :: mosiAtRisingEdges h (some o) := by
  simp [bitCycle, mosiAtRisingEdges]

theorem mosiAtRisingEdges_byteCycles_append (tx : Nat → BitVec 8) (v : Nat → Bool) (b : Nat)
    (h : List LineEvent) (m : Option Bool) :
    mosiAtRisingEdges (byteCycles tx v b ++ h) m =
      List.replicate 8 (some (topBit (tx b))) ++ mosiAtRisingEdges h (some (topBit (tx b))) := by
  simp [byteCycles, List.range_succ, mosiAtRisingEdges_append_bitCycle]

theorem mosiAtRisingEdges_flatMap_byteCycles (tx : Nat → BitVec 8) (v : Nat → Bool)
    (l : List Nat) (m : Option Bool) :
    mosiAtRisingEdges (l.flatMap (byteCycles tx v)) m =
      l.flatMap fun b => List.replicate 8 (some (topBit (tx b))) := by
  induction l generalizing m with
  | nil => simp [mosiAtRisingEdges]
  | cons b l ih => simp [List.flatMap_cons, mosiAtRisingEdges_byteCycles_append, ih]

/-- What the code does at the rising edges: data-out holds the top bit of the byte being
sent at all eight edges of that byte. -/
theorem mosiAtRisingEdges_mcp2515SpiTrans (din : DataIn) (len : Nat) (s : Link)
    (m : Option Bool) :
    mosiAtRisingEdges ((mcp2515SpiTrans din len s).trace.drop s.trace.length) m =
      (List.range len).flatMap fun i => List.replicate 8 (some ((s.spiTxBuf i).getLsbD 7)) := by
  obtain ⟨v, htr, -⟩ := mcp2515SpiTrans_spec din len s
  rw [htr, List.drop_left, mosiAtRisingEdges_flatMap_byteCycles]
  simp

/-- The failing input of the MSB-first law: sending the byte `0x40`, whose bit 6 is set, the
driver holds data-out low at the second rising edge. -/
theorem mcp2515SpiTrans_0x40_second_edge_low :
    (mosiAtRisingEdges (mcp2515SpiTrans (fun _ => false) 1
        ⟨fun _ => 0x40, fun _ => 0, [], []⟩).trace none)[1]? = some (some false) ∧
      (0x40 : BitVec 8).getLsbD (7 - 1) = true := by
  have h := mosiAtRisingEdges_mcp2515SpiTrans (fun _ => false) 1
    ⟨fun _ => 0x40, fun _ => 0, [], []⟩ none
  rw [List.length_nil, List.drop_zero] at h
  rw [h]
  decide

end Mcp2515Banged
