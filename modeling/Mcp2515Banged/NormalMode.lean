import Mcp2515Banged.Lifecycle

/-!
# Waiting for normal mode across the wrap of jiffies

`mcp2515_set_normal_mode` requests normal mode and then reads `CANSTAT` until the `REQOP`
bits read clear, giving up with `-EBUSY` once `time_after(jiffies, timeout)` holds for the
deadline `timeout = jiffies + HZ`. The check is a signed comparison of a difference, so it is
right at every start value, the wrap of `unsigned long` included, as long as the ticks since
the start and `HZ` stay below half the range: it then sees exactly `jiffies - j0 > HZ`.

## Main definitions

* `canstatReplies` — the `CANSTAT` value each round of the wait reads, with `jiffies` at its
  deadline check

## Main results

* `timeAfter_add` — the deadline check compares the ticks since the start with `HZ`
* `normalModeWait_reads` — what a wait that returns has read: rounds whose checks passed,
  then the round it returns at
* `mcp2515SetNormalMode_wrapSafe` — the whole call: 0 exactly when a clear read comes before
  the deadline, `-EBUSY` only past it with no read after, and a return once `jiffies` is past
  it
-/

namespace Mcp2515Banged

/-! ## The deadline check -/

/-- `time_after(jiffies, j0 + HZ)` sees `jiffies - j0 > HZ`, at every start `j0`, when the
ticks since the start and `HZ` are below half the word's range. -/
theorem timeAfter_add {w : Nat} {j0 hz j : BitVec w} (hhz : hz.toNat < 2 ^ (w - 1))
    (hd : (j - j0).toNat < 2 ^ (w - 1)) :
    timeAfter j (j0 + hz) = decide (hz.toNat < (j - j0).toNat) := by
  rw [timeAfter, show j0 + hz - j = hz - (j - j0) by rw [sub_sub_eq_add_sub, add_comm],
    BitVec.msb_eq_decide, BitVec.toNat_sub]
  generalize j - j0 = d at hd ⊢
  have hN : 2 ^ w = 2 ^ (w - 1) + 2 ^ (w - 1) ∨ 2 ^ (w - 1) = 1 ∧ 2 ^ w = 1 := by
    cases w
    · exact .inr ⟨rfl, rfl⟩
    · exact .inl (by rw [Nat.add_sub_cancel, Nat.pow_succ]; omega)
  have hd' := d.isLt
  have hz' := hz.isLt
  by_cases h : d.toNat ≤ hz.toNat
  · rw [show 2 ^ w - d.toNat + hz.toNat = hz.toNat - d.toNat + 2 ^ w by omega, Nat.add_mod_right,
      Nat.mod_eq_of_lt (by omega)]
    simp only [decide_eq_decide]
    omega
  · rw [Nat.mod_eq_of_lt (by omega)]
    simp only [decide_eq_decide]
    omega

/-! ## Rounds of the wait -/

/-- The `CANSTAT` value each round of `polls` reads from controller `c` on, with `jiffies` at
the deadline check after it, as if the wait never stopped. -/
def canstatReplies {w : Nat} : List (List CtrlEvent × BitVec w) → Ctrl → List (BitVec 8 × BitVec w)
  | [], _ => []
  | (es, j) :: polls, c => ((c.events es).regs canstat, j) :: canstatReplies polls (c.events es)

/-- Every sequence of replies is read by some rounds: one that reports each mode before its
read. -/
theorem canstatReplies_mode {w : Nat} (rs : List (BitVec 8 × BitVec w)) (c : Ctrl) :
    canstatReplies (rs.map fun p => ([.mode p.1], p.2)) c = rs := by
  induction rs generalizing c with
  | nil => rfl
  | cons p rs ih =>
    simp only [List.map_cons, canstatReplies, ih]
    simp [Ctrl.event]

/-- One round of the wait: the read of `CANSTAT`, then the return or the deadline check. -/
theorem normalModeWait_cons {w : Nat} (timeout : BitVec w) (es : List CtrlEvent) (j : BitVec w)
    (polls : List (List CtrlEvent × BitVec w)) (s : Sys) :
    normalModeWait timeout ((es, j) :: polls) s =
      if (s.ctrl.events es).regs canstat &&& canctrlReqopMask = 0 then
        some (.ok (), ((s.events es).readReg canstat).2)
      else if timeAfter j timeout then some (.error .ebusy, ((s.events es).readReg canstat).2)
      else normalModeWait timeout polls ((s.events es).readReg canstat).2 := by
  simp only [normalModeWait, Sys.readReg_fst, Sys.events_ctrl, bne_iff_ne, ne_eq, ite_not]

section Wait

variable {w : Nat} {hz j0 : BitVec w} (hhz : hz.toNat < 2 ^ (w - 1))
  {polls : List (List CtrlEvent × BitVec w)}

include hhz

/-- A wait that returns has read the replies of some rounds whose checks all passed, then the
reply of the round it returns at: 0 after a clear read, `-EBUSY` after a check that sees more
than `HZ` ticks since the start. Nothing is read after that round. -/
theorem normalModeWait_reads (hj : ∀ p ∈ polls, (p.2 - j0).toNat < 2 ^ (w - 1)) {s s' : Sys}
    {r : Except Errno Unit} (h : normalModeWait (j0 + hz) polls s = some (r, s')) :
    ∃ pre v j post, canstatReplies polls s.ctrl = pre ++ (v, j) :: post ∧
      (∀ p ∈ pre, p.1 &&& canctrlReqopMask ≠ 0 ∧ (p.2 - j0).toNat ≤ hz.toNat) ∧
      (r = .ok () ∧ v &&& canctrlReqopMask = 0 ∨
        r = .error .ebusy ∧ v &&& canctrlReqopMask ≠ 0 ∧ hz.toNat < (j - j0).toNat) ∧
      s'.ghost.txns = s.ghost.txns ++ (pre ++ [(v, j)]).map fun p => .readReg canstat p.1 := by
  induction polls generalizing s with
  | nil => cases h
  | cons p polls ih =>
    obtain ⟨es, j⟩ := p
    have hta := timeAfter_add hhz (hj _ (List.mem_cons_self _ _))
    rw [normalModeWait_cons] at h
    split at h
    · next hv =>
      cases h
      exact ⟨[], _, j, _, rfl, by simp, .inl ⟨rfl, hv⟩, by simp⟩
    · next hv =>
      split at h
      · next ht =>
        cases h
        exact ⟨[], _, j, _, rfl, by simp, .inr ⟨rfl, hv, by simpa [hta] using ht⟩, by simp⟩
      · next ht =>
        obtain ⟨pre, v, j', post, hr, hpre, hres, htx⟩ :=
          ih (fun p hp => hj p (List.mem_cons_of_mem _ hp)) h
        refine ⟨((s.ctrl.events es).regs canstat, j) :: pre, v, j', post, congrArg (List.cons _) hr, ?_,
          hres, ?_⟩
        · simp only [List.mem_cons, forall_eq_or_imp]
          exact ⟨⟨hv, by simpa [hta] using ht⟩, hpre⟩
        · simp [htx]

/-- A clear read before any check sees more than `HZ` ticks since the start makes the wait
return 0. -/
theorem normalModeWait_ok_of_clear (hj : ∀ p ∈ polls, (p.2 - j0).toNat < 2 ^ (w - 1)) {s : Sys}
    {pre post : List (BitVec 8 × BitVec w)} {v : BitVec 8} {j : BitVec w}
    (hr : canstatReplies polls s.ctrl = pre ++ (v, j) :: post) (hv : v &&& canctrlReqopMask = 0)
    (hpre : ∀ p ∈ pre, (p.2 - j0).toNat ≤ hz.toNat) :
    ∃ s', normalModeWait (j0 + hz) polls s = some (.ok (), s') := by
  induction polls generalizing s pre with
  | nil => exact absurd hr (by simp [canstatReplies])
  | cons p polls ih =>
    obtain ⟨es, j₀⟩ := p
    have hta := timeAfter_add hhz (hj _ (List.mem_cons_self _ _))
    rw [normalModeWait_cons]
    split
    · exact ⟨_, rfl⟩
    · next hv₀ =>
      cases pre with
      | nil =>
        simp only [canstatReplies, List.nil_append, List.cons.injEq, Prod.mk.injEq] at hr
        exact absurd (hr.1.1 ▸ hv) hv₀
      | cons q pre =>
        simp only [canstatReplies, List.cons_append, List.cons.injEq] at hr
        have hq := hpre q (List.mem_cons_self _ _)
        rw [← hr.1] at hq
        rw [hta, if_neg (by simpa using hq)]
        exact ih (fun p hp => hj p (List.mem_cons_of_mem _ hp)) hr.2
          (fun p hp => hpre p (List.mem_cons_of_mem _ hp))

/-- Once a check would see more than `HZ` ticks since the start, the wait has returned. -/
theorem normalModeWait_isSome (hj : ∀ p ∈ polls, (p.2 - j0).toNat < 2 ^ (w - 1)) {s : Sys}
    (hp : ∃ p ∈ canstatReplies polls s.ctrl, hz.toNat < (p.2 - j0).toNat) :
    (normalModeWait (j0 + hz) polls s).isSome := by
  induction polls generalizing s with
  | nil => simp [canstatReplies] at hp
  | cons p polls ih =>
    obtain ⟨es, j⟩ := p
    have hta := timeAfter_add hhz (hj _ (List.mem_cons_self _ _))
    rw [normalModeWait_cons]
    split
    · rfl
    · split
      · rfl
      · next ht =>
        obtain ⟨q, hq, hd⟩ := hp
        simp only [canstatReplies, List.mem_cons] at hq
        rcases hq with rfl | hq
        · exact absurd (hta.trans (decide_eq_true hd)) ht
        · exact ih (fun p hp => hj p (List.mem_cons_of_mem _ hp)) ⟨q, hq, hd⟩

end Wait

/-! ## Entering normal mode -/

/-- With neither loopback nor listen-only requested, `mcp2515_set_normal_mode` is the wait
after the writes of `CANINTE` and `CANCTRL`, and sets the error-active state on success. -/
theorem Sys.mcp2515SetNormalMode_normal {w : Nat} (hz : BitVec w) (env : NormalModeEnv w)
    {s s' : Sys} {r : Except Errno Unit} (hlb : s.priv.ctrlmode &&& canCtrlmodeLoopback = 0)
    (hlo : s.priv.ctrlmode &&& canCtrlmodeListenonly = 0) :
    s.mcp2515SetNormalMode hz env = some (r, s') ↔
      ∃ t, normalModeWait (env.start + hz) env.polls
          ((s.writeReg caninte caninteEnabled).writeReg canctrl canctrlReqopNormal) = some (r, t) ∧
        s' = if r.isOk then { t with priv.state := .errorActive } else t := by
  simp only [Sys.mcp2515SetNormalMode, Sys.writeReg_priv, hlb, hlo, ne_eq, not_true_eq_false,
    if_false, Option.map_eq_some']
  constructor
  · rintro ⟨⟨r₀, t⟩, h, he⟩
    rcases r₀ with e | ⟨⟩ <;> cases he <;> exact ⟨_, h, rfl⟩
  · rintro ⟨t, h, rfl⟩
    refine ⟨(r, t), h, ?_⟩
    rcases r with e | ⟨⟩ <;> rfl

/-- The wait for normal mode is safe across the wrap of `jiffies`. Take any start `j0`, any
rounds whose `jiffies` stay less than half the word's range past `j0`, and any replies of the
controller (`canstatReplies_mode`), with `HZ` below half the range. Then, with neither
loopback nor listen-only requested, `mcp2515_set_normal_mode` returns 0 exactly when a read
with the `REQOP` bits clear comes before any check sees `jiffies - j0 > HZ`; it returns
`-EBUSY` only at a check that sees `jiffies - j0 > HZ`; its last transaction is the read of
the round it returns at, after checks that all passed; and it returns once a check would see
`jiffies - j0 > HZ`. -/
theorem mcp2515SetNormalMode_wrapSafe {w : Nat} (hz : BitVec w) (hhz : hz.toNat < 2 ^ (w - 1))
    (s : Sys) (hlb : s.priv.ctrlmode &&& canCtrlmodeLoopback = 0)
    (hlo : s.priv.ctrlmode &&& canCtrlmodeListenonly = 0) (env : NormalModeEnv w)
    (hj : ∀ p ∈ env.polls, (p.2 - env.start).toNat < 2 ^ (w - 1)) :
    let rs := canstatReplies env.polls
      ((s.ctrl.writeReg caninte caninteEnabled).writeReg canctrl canctrlReqopNormal)
    ((∃ s', s.mcp2515SetNormalMode hz env = some (.ok (), s')) ↔
      ∃ pre v j post, rs = pre ++ (v, j) :: post ∧ v &&& canctrlReqopMask = 0 ∧
        ∀ p ∈ pre, (p.2 - env.start).toNat ≤ hz.toNat) ∧
    (∀ r s', s.mcp2515SetNormalMode hz env = some (r, s') →
      ∃ pre v j post, rs = pre ++ (v, j) :: post ∧
        (∀ p ∈ pre, p.1 &&& canctrlReqopMask ≠ 0 ∧ (p.2 - env.start).toNat ≤ hz.toNat) ∧
        (r = .error .ebusy → hz.toNat < (j - env.start).toNat) ∧
        s'.ghost.txns = s.ghost.txns ++ [.writeReg caninte caninteEnabled,
          .writeReg canctrl canctrlReqopNormal] ++
          (pre ++ [(v, j)]).map fun p => .readReg canstat p.1) ∧
    ((∃ p ∈ rs, hz.toNat < (p.2 - env.start).toNat) →
      (s.mcp2515SetNormalMode hz env).isSome) := by
  intro rs
  let s₁ := (s.writeReg caninte caninteEnabled).writeReg canctrl canctrlReqopNormal
  have hn := fun r s' => @Sys.mcp2515SetNormalMode_normal w hz env s s' r hlb hlo
  refine ⟨⟨fun ⟨s', h⟩ => ?_, fun ⟨pre, v, j, post, hr, hv, hpre⟩ => ?_⟩, fun r s' h => ?_,
    fun hp => ?_⟩
  · obtain ⟨t, ht, -⟩ := (hn _ s').1 h
    obtain ⟨pre, v, j, post, hr, hpre, hres, -⟩ := normalModeWait_reads hhz hj ht
    rcases hres with ⟨-, hv⟩ | ⟨h, -⟩
    · exact ⟨pre, v, j, post, hr, hv, fun p hp => (hpre p hp).2⟩
    · cases h
  · obtain ⟨t, ht⟩ := normalModeWait_ok_of_clear (s := s₁) hhz hj hr hv hpre
    exact ⟨_, (hn _ _).2 ⟨t, ht, rfl⟩⟩
  · obtain ⟨t, ht, rfl⟩ := (hn r s').1 h
    obtain ⟨pre, v, j, post, hr, hpre, hres, htx⟩ := normalModeWait_reads hhz hj ht
    refine ⟨pre, v, j, post, hr, hpre, fun he => ?_, ?_⟩
    · rcases hres with ⟨rfl, -⟩ | ⟨-, -, hd⟩
      · cases he
      · exact hd
    · rw [show (if r.isOk then { t with priv.state := .errorActive } else t).ghost = t.ghost by
        split <;> rfl, htx]
      simp
  · obtain ⟨⟨r, t⟩, ht⟩ := Option.isSome_iff_exists.1 (normalModeWait_isSome (s := s₁) hhz hj hp)
    rw [Option.isSome_iff_exists]
    exact ⟨_, (hn r _).2 ⟨t, ht, rfl⟩⟩


/-- A wait started 64 ticks before the wrap of a 32-bit `jiffies`, with the deadline past the
wrap: the controller is still in configuration mode at the first read and in normal mode at
the second, both before the deadline. -/
def nearWrapEnv : NormalModeEnv 32 := ⟨0xFFFFFFC0, [([.mode 0x80], 0xFFFFFFF0), ([.mode 0], 0x10)]⟩

theorem mcp2515SetNormalMode_wrapSafe_nearWrap :
    (100 : BitVec 32).toNat < 2 ^ (32 - 1) ∧ closedSys.priv.ctrlmode &&& canCtrlmodeLoopback = 0 ∧
    closedSys.priv.ctrlmode &&& canCtrlmodeListenonly = 0 ∧
    (∀ p ∈ nearWrapEnv.polls, (p.2 - nearWrapEnv.start).toNat < 2 ^ (32 - 1)) ∧
    let rs := canstatReplies nearWrapEnv.polls
      ((closedSys.ctrl.writeReg caninte caninteEnabled).writeReg canctrl canctrlReqopNormal)
    ((∃ s', closedSys.mcp2515SetNormalMode 100 nearWrapEnv = some (.ok (), s')) ↔
      ∃ pre v j post, rs = pre ++ (v, j) :: post ∧ v &&& canctrlReqopMask = 0 ∧
        ∀ p ∈ pre, (p.2 - nearWrapEnv.start).toNat ≤ (100 : BitVec 32).toNat) ∧
    (∀ r s', closedSys.mcp2515SetNormalMode 100 nearWrapEnv = some (r, s') →
      ∃ pre v j post, rs = pre ++ (v, j) :: post ∧
        (∀ p ∈ pre, p.1 &&& canctrlReqopMask ≠ 0 ∧
          (p.2 - nearWrapEnv.start).toNat ≤ (100 : BitVec 32).toNat) ∧
        (r = .error .ebusy → (100 : BitVec 32).toNat < (j - nearWrapEnv.start).toNat) ∧
        s'.ghost.txns = closedSys.ghost.txns ++ [.writeReg caninte caninteEnabled,
          .writeReg canctrl canctrlReqopNormal] ++
          (pre ++ [(v, j)]).map fun p => .readReg canstat p.1) ∧
    ((∃ p ∈ rs, (100 : BitVec 32).toNat < (p.2 - nearWrapEnv.start).toNat) →
      (closedSys.mcp2515SetNormalMode 100 nearWrapEnv).isSome) :=
  ⟨by decide, rfl, rfl, by decide,
    mcp2515SetNormalMode_wrapSafe 100 (by decide) closedSys rfl rfl nearWrapEnv (by decide)⟩

/-- The deadline lies past the wrap, where an unsigned comparison of `jiffies` with it would
give up at the first check; the wait enters normal mode at the second read. -/
example : (closedSys.mcp2515SetNormalMode 100 nearWrapEnv).map (·.1.isOk) = some true := by
  decide

end Mcp2515Banged
