import Mcp2515Banged.RegisterAccess

/-!
# The platform probe

`mcp2515_can_probe`: allocate the CAN device, request the five GPIOs of the link in the order
MISO, MOSI, CLK, CS, INT, map INT to an interrupt, probe the chip and register the device. A
failure jumps into the unwind ladder at the label for what has been acquired so far, and falls
through the labels below it.

The ladder frees the role indices `GPIO_MISO .. GPIO_INT` (0 to 4), while the requests took
`gpios[GPIO_MISO] .. gpios[GPIO_INT]` (by default 20, 19, 18, 7, 6; `gpios` is a module
parameter): unless a parameter names a role index, no GPIO the probe obtained is ever
released. A failed interrupt mapping jumps into the ladder with `ret` still 0 from the last
request, so the probe reports success with the device freed.

The probe never sets `priv->spi_tx_buf` or `priv->spi_rx_buf`, which `alloc_candev` leaves
`NULL`. Once the interrupt mapping succeeds, `mcp2515_hw_probe` calls `mcp2515_hw_reset`, whose
first store after the start-up wait is `priv->spi_tx_buf[0] = INSTRUCTION_RESET`: the probe
faults there, and `register_candev` is never reached. `priv->power` is never set, so
`mcp2515_power_enable` returns 0 and does nothing; the `printk` calls and the assignments to
`priv->can` are left out.

## Main definitions

* `ProbeEnv` — the kernel's answers to the probe
* `ProbeState` — the GPIOs held, the numbers passed to `gpio_free`, and the device
* `probeUnwind` — the unwind ladder from a label
* `ProbeEnd`, `mcp2515CanProbe` — how the probe ends, and the probe

## Main results

* `mcp2515CanProbe_cases` — the four ways out of the probe, the fault on the transmit buffer
  among them
-/

namespace Mcp2515Banged

/-! ## GPIOs and the probe's resources -/

/-- `GPIO_MISO`: the role index of data-in. -/
def gpioMiso : Nat := 0

/-- `GPIO_MOSI`: the role index of data-out. -/
def gpioMosi : Nat := 1

/-- `GPIO_CLK`: the role index of the clock. -/
def gpioClk : Nat := 2

/-- `GPIO_CS`: the role index of chip select. -/
def gpioCs : Nat := 3

/-- `GPIO_INT`: the role index of the interrupt line. -/
def gpioInt : Nat := 4

/-- The default of the module parameter `gpios[]`: the GPIO numbers of the link, by role
index. -/
def gpiosDefault : List Nat := [20, 19, 18, 7, 6]

/-- The GPIO number a line routine passes to `gpio_set_value` and `gpio_get_value`: the role
index itself. -/
def Line.gpio : Line → Nat
  | .miso => gpioMiso
  | .mosi => gpioMosi
  | .clk => gpioClk
  | .cs => gpioCs

/-- The kernel's answers to the probe: whether `alloc_candev` gives a device, and the result of
`gpio_request_one` and of `gpio_to_irq` for each GPIO number. -/
structure ProbeEnv where
  allocCandev : Bool
  gpioRequestOne : Nat → Int
  gpioToIrq : Nat → Int

/-- What the probe holds when it ends: the GPIO numbers requested and not freed, the numbers
passed to `gpio_free` in order, and whether the net device is allocated. -/
structure ProbeState where
  held : List Nat
  freed : List Nat
  candev : Bool
  deriving DecidableEq, Repr

/-- `gpio_free(gpio)`: the number is released if held, and recorded. -/
def gpioFree (gpio : Nat) (st : ProbeState) : ProbeState :=
  { st with held := st.held.erase gpio, freed := st.freed ++ [gpio] }

/-- The labels of the probe's unwind ladder, top to bottom. -/
inductive ProbeLabel
  | outIntIrq
  | outInt
  | outCs
  | outClk
  | outMosi
  | errorProbe
  | outClock

/-- The `gpio_free` calls met from a label down to the end of the ladder. -/
def ProbeLabel.frees : ProbeLabel → List Nat
  | .outIntIrq => [gpioInt, gpioCs, gpioClk, gpioMosi, gpioMiso]
  | .outInt => [gpioCs, gpioClk, gpioMosi, gpioMiso]
  | .outCs => [gpioClk, gpioMosi, gpioMiso]
  | .outClk => [gpioMosi, gpioMiso]
  | .outMosi => [gpioMiso]
  | .errorProbe => []
  | .outClock => []

/-- The ladder from a label: its `gpio_free` calls, `mcp2515_power_enable(priv->power, 0)`
(nothing, `priv->power` being null), and `free_candev`. -/
def probeUnwind (l : ProbeLabel) (st : ProbeState) : ProbeState :=
  { l.frees.foldl (fun st gpio => gpioFree gpio st) st with candev := false }

/-! ## The probe -/

/-- The five requests of the probe in order: the role index of the GPIO, and the label a
failure jumps to. -/
def probeRequests : List (Nat × ProbeLabel) :=
  [(gpioMiso, .outClock), (gpioMosi, .outMosi), (gpioClk, .outClk), (gpioCs, .outCs),
    (gpioInt, .outInt)]

/-- `ret = gpio_request_one(gpios[i], …); if (ret) goto label;` for each request in turn:
`.error` with `ret` and the state after the ladder at the first failure, `.ok` with the last
`ret` and every GPIO held otherwise. -/
def requestGpios (gpios : List Nat) (env : ProbeEnv) :
    List (Nat × ProbeLabel) → Int × ProbeState → Except (Int × ProbeState) (Int × ProbeState)
  | [], r => .ok r
  | (i, l) :: rest, (_, st) =>
    let ret := env.gpioRequestOne (gpios.getD i 0)
    if ret ≠ 0 then .error (ret, probeUnwind l st)
    else requestGpios gpios env rest (ret, { st with held := st.held ++ [gpios.getD i 0] })

/-- The GPIO numbers the five requests name, in order. -/
def requestedGpios (gpios : List Nat) : List Nat := probeRequests.map fun p => gpios.getD p.1 0

/-- `ENOMEM`. -/
def enomem : Int := 12

/-- How the probe ends: it returns `r`, or it stores through the `NULL` `priv->spi_tx_buf` in
`mcp2515_hw_reset` and never returns. -/
inductive ProbeEnd
  | ret (r : Int)
  | nullTxBuf
  deriving DecidableEq, Repr

/-- `mcp2515_can_probe` with the module parameter `gpios`: how it ends and what is held then.
`ret` enters the requests as the 0 of `mcp2515_power_enable(priv->power, 1)`; the chip probe
and the registration lie past the fault. -/
def mcp2515CanProbe (gpios : List Nat) (env : ProbeEnv) : ProbeEnd × ProbeState :=
  if !env.allocCandev then (.ret (-enomem), ⟨[], [], false⟩) else
  match requestGpios gpios env probeRequests (0, ⟨[], [], true⟩) with
  | .error (ret, st) => (.ret ret, st)
  | .ok (ret, st) =>
    if env.gpioToIrq (gpios.getD gpioInt 0) < 0 then (.ret ret, probeUnwind .outIntIrq st)
    else (.nullTxBuf, st)

/-! ## The requests -/

section Requests

variable {gpios : List Nat} {env : ProbeEnv} {reqs : List (Nat × ProbeLabel)} {r ret : Int}
  {st st' : ProbeState}

/-- A failed request: its nonzero result, and the ladder from its label over the GPIOs the
requests before it obtained. -/
theorem requestGpios_eq_error (h : requestGpios gpios env reqs (r, st) = .error (ret, st')) :
    ret ≠ 0 ∧ (∃ p ∈ reqs, env.gpioRequestOne (gpios.getD p.1 0) ≠ 0) ∧
      ∃ l, st' = probeUnwind l { st with held := st.held ++
        (reqs.map fun p => gpios.getD p.1 0).takeWhile fun g => env.gpioRequestOne g == 0 } := by
  induction reqs generalizing r st with
  | nil => cases h
  | cons p reqs ih =>
    obtain ⟨i, l⟩ := p
    simp only [requestGpios] at h
    split_ifs at h with hr
    · cases h
      have hb : (env.gpioRequestOne (gpios.getD i 0) == 0) = false := by simpa using hr
      refine ⟨hr, ⟨(i, l), List.mem_cons_self _ _, hr⟩, l, ?_⟩
      simp only [List.map_cons, List.takeWhile, hb, List.append_nil]
    · obtain ⟨hret, ⟨q, hq, hq'⟩, l', rfl⟩ := ih h
      have hb : (env.gpioRequestOne (gpios.getD i 0) == 0) = true := by simpa using hr
      refine ⟨hret, ⟨q, List.mem_cons_of_mem _ hq, hq'⟩, l', ?_⟩
      simp only [List.map_cons, List.takeWhile, hb, List.append_assoc, List.singleton_append]

/-- Every request succeeded: all five GPIOs held, `ret` the last result. -/
theorem requestGpios_eq_ok (h : requestGpios gpios env reqs (r, st) = .ok (ret, st')) :
    (∀ p ∈ reqs, env.gpioRequestOne (gpios.getD p.1 0) = 0) ∧ (ret = r ∨ ret = 0) ∧
      st' = { st with held := st.held ++ reqs.map fun p => gpios.getD p.1 0 } := by
  induction reqs generalizing r st with
  | nil =>
    cases h
    exact ⟨fun _ h => absurd h (List.not_mem_nil _), .inl rfl, by simp⟩
  | cons p reqs ih =>
    obtain ⟨i, l⟩ := p
    simp only [requestGpios] at h
    split_ifs at h with hr
    simp only [not_not] at hr
    obtain ⟨hall, hret, rfl⟩ := ih h
    refine ⟨fun q hq => (List.mem_cons.1 hq).elim (fun h => h ▸ hr) (hall q),
      hret.elim (fun h => .inr (h.trans hr)) .inr, by simp⟩

end Requests

/-! ## The ways out of the probe -/

section Paths

variable (gpios : List Nat) (env : ProbeEnv)

/-- The four ways out of `mcp2515_can_probe`: no device; a failed request; a failed interrupt
mapping with `ret` still 0; and, once the mapping succeeds, the fault on the `NULL` transmit
buffer with all five GPIOs held and the device allocated. -/
theorem mcp2515CanProbe_cases :
    (env.allocCandev = false ∧ mcp2515CanProbe gpios env = (.ret (-enomem), ⟨[], [], false⟩)) ∨
    (env.allocCandev = true ∧ (∃ g ∈ requestedGpios gpios, env.gpioRequestOne g ≠ 0) ∧
      ∃ ret l, ret ≠ 0 ∧ mcp2515CanProbe gpios env = (.ret ret, probeUnwind l
        ⟨(requestedGpios gpios).takeWhile fun g => env.gpioRequestOne g == 0, [], true⟩)) ∨
    (env.allocCandev = true ∧ (∀ g ∈ requestedGpios gpios, env.gpioRequestOne g = 0) ∧
      ((env.gpioToIrq (gpios.getD gpioInt 0) < 0 ∧ mcp2515CanProbe gpios env =
        (.ret 0, probeUnwind .outIntIrq ⟨requestedGpios gpios, [], true⟩)) ∨
      (0 ≤ env.gpioToIrq (gpios.getD gpioInt 0) ∧
        mcp2515CanProbe gpios env = (.nullTxBuf, ⟨requestedGpios gpios, [], true⟩)))) := by
  generalize hP : mcp2515CanProbe gpios env = P
  unfold mcp2515CanProbe at hP
  cases ha : env.allocCandev
  · simp only [ha, Bool.not_false, if_true] at hP
    exact .inl ⟨rfl, hP.symm⟩
  simp only [ha, Bool.not_true, Bool.false_eq_true, if_false] at hP
  rcases hreq : requestGpios gpios env probeRequests (0, ⟨[], [], true⟩) with
    ⟨ret, st⟩ | ⟨ret, st⟩ <;> rw [hreq] at hP <;> dsimp only at hP
  · obtain ⟨hret, ⟨p, hp, hp'⟩, l, rfl⟩ := requestGpios_eq_error hreq
    refine .inr (.inl ⟨rfl, ⟨_, List.mem_map_of_mem _ hp, hp'⟩, ret, l, hret, ?_⟩)
    rw [← hP]
    simp only [List.nil_append, requestedGpios]
  obtain ⟨hall, hret, rfl⟩ := requestGpios_eq_ok hreq
  obtain rfl : ret = 0 := hret.elim id id
  simp only [List.nil_append, show probeRequests.map (fun p => gpios.getD p.1 0) =
    requestedGpios gpios from rfl] at hP
  refine .inr (.inr ⟨rfl, fun g hg => ?_, ?_⟩)
  · obtain ⟨p, hp, rfl⟩ := List.mem_map.1 hg
    exact hall p hp
  by_cases hirq : env.gpioToIrq (gpios.getD gpioInt 0) < 0
  · rw [if_pos hirq] at hP
    exact .inl ⟨hirq, hP.symm⟩
  · rw [if_neg hirq] at hP
    exact .inr ⟨not_lt.1 hirq, hP.symm⟩

end Paths

/-- A failed `CLK` request leaves `MISO` and `MOSI` held, and frees the role indices 1 and 0. -/
example : mcp2515CanProbe gpiosDefault ⟨true, fun g => if g = 18 then -16 else 0, fun _ => 0⟩ =
    (.ret (-16), ⟨[20, 19], [1, 0], false⟩) := by decide

/-- A failed interrupt mapping reports success with the device freed and all five GPIOs held,
none of them a number the line routines drive or sample. -/
example : mcp2515CanProbe gpiosDefault ⟨true, fun _ => 0, fun _ => -6⟩ =
      (.ret 0, ⟨[20, 19, 18, 7, 6], [4, 3, 2, 1, 0], false⟩) ∧
    [Line.miso, .mosi, .clk, .cs].all fun l => l.gpio ∉ [20, 19, 18, 7, 6] := by decide

/-- With every request granted the probe stores through the `NULL` transmit buffer. -/
example : (mcp2515CanProbe gpiosDefault ⟨true, fun _ => 0, fun _ => 0⟩).1 = .nullTxBuf := by
  decide

end Mcp2515Banged
