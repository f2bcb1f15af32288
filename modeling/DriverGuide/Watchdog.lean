/-
# The watchdog demo's stop can deadlock with its timer callback

`part10/watchdog-driver/watchdog_demo.c` checks for a timeout in a timer
callback that takes `wdt->lock`. `demo_wdt_stop` takes the same lock and,
holding it, calls `del_timer_sync`, which waits until no execution of the
callback is in progress. If the timer fires on another CPU after `stop` took
the lock, the callback spins on the lock and `stop` waits for the callback:
neither ever gets on.

The executions of `start`, `ping` and `get_timeleft` never wait while holding
the lock, so each is one step; `stop` is two (take the lock, then return from
`del_timer_sync`), and so is the callback (the timer fires, then the callback
takes the lock and runs to its end). A state where `stop` holds the lock in
`del_timer_sync` while the callback spins is `Deadlocked`: every step keeps it
so (`deadlock_forever`), and a `stop` waiting in `del_timer_sync` never
returns exactly when the callback spins (`stop_stuck_iff_deadlocked`). From
probe, starting the watchdog, letting `HZ` jiffies pass, stopping it and
firing the timer in the window reaches such a state
(`stop_deadlocks_with_timer_cb`).

`set_timeout` is two steps as well: it stores `wdd->timeout` without the
lock, then pings. Only the callback sets `expired`, when `jiffies - last_ping`
has reached the stored timeout (`wdtStep_expires`); a callback between the
store and the ping measures from the ping before `set_timeout`, so lowering
the timeout expires the watchdog at once (`set_timeout_race_expires`).

The watchdog core, which sets and clears `WDOG_ACTIVE` around `start` and
`stop`, is modelled by those two steps. `HZ` is the parameter `hz` of every
function that reads it, and the results hold for each tick rate.

Key definitions: `demoWdtStart`, `demoWdtPing`, `demoWdtSetTimeoutAssign`,
`demoWdtTimerCb`, `demoWdtGetTimeleft`, `wdtStep`, `Deadlocked`.
Key theorems: `deadlock_forever`, `stop_stuck_iff_deadlocked`,
`stop_deadlocks_with_timer_cb`, `wdtStep_expires`, `set_timeout_race_expires`.
-/
import DriverGuide.Basic

namespace DriverGuide
namespace Watchdog

/-! ### The driver -/

/-- `WDT_DEFAULT_TIMEOUT`. -/
def wdtDefaultTimeout : ℕ := 30

/-- `struct demo_wdt` with the fields of `wdd` the functions read: the
timeout and `WDOG_ACTIVE`; the timer is its expiry time when pending. -/
structure DemoWdt where
  lastPing : ℕ
  expired : Bool
  timeout : ℕ
  active : Bool
  timer : Option ℕ
  jiffies : ℕ

/-- Where `demo_wdt_stop` is: not running, or holding `wdt->lock` inside
`del_timer_sync`. -/
inductive StopPc
  | idle
  | syncing
  deriving DecidableEq

/-- Where the timer callback is: not running, or started and spinning on
`wdt->lock`. -/
inductive CbPc
  | idle
  | spinning
  deriving DecidableEq

/-- Where `demo_wdt_set_timeout` is: not running, or between its store to
`wdd->timeout` and its call of `demo_wdt_ping`. -/
inductive SetTimeoutPc
  | idle
  | assigned
  deriving DecidableEq

structure WdtSys where
  wdt : DemoWdt
  stop : StopPc
  cb : CbPc
  setTimeout : SetTimeoutPc

/-- After `demo_wdt_probe`: `devm_kzalloc` zeroes the device, and the timeout
is the default. -/
def wdtProbe : WdtSys := ⟨⟨0, false, wdtDefaultTimeout, false, none, 0⟩, .idle, .idle, .idle⟩

/-- `wdt->lock` is free: only `stop` holds it from one step to the next. -/
def WdtSys.lockFree (s : WdtSys) : Bool := s.stop = .idle

/-- `demo_wdt_start`, then the core sets `WDOG_ACTIVE`. -/
def demoWdtStart (hz : ℕ) (w : DemoWdt) : DemoWdt :=
  { w with lastPing := w.jiffies, expired := false, timer := some (w.jiffies + hz), active := true }

/-- `demo_wdt_ping`. -/
def demoWdtPing (hz : ℕ) (w : DemoWdt) : DemoWdt :=
  { w with lastPing := w.jiffies, timer := if w.active then some (w.jiffies + hz) else w.timer }

/-- `demo_wdt_set_timeout(wdd, timeout)` up to its store to `wdd->timeout`,
which it makes without `wdt->lock`. -/
def demoWdtSetTimeoutAssign (w : DemoWdt) (timeout : ℕ) : DemoWdt := { w with timeout := timeout }

/-- The rest of `demo_wdt_set_timeout`: a ping if the watchdog is active. -/
def demoWdtSetTimeoutPing (hz : ℕ) (w : DemoWdt) : DemoWdt := if w.active then demoWdtPing hz w else w

/-- `demo_wdt_get_timeleft`. -/
def demoWdtGetTimeleft (hz : ℕ) (w : DemoWdt) : ℕ :=
  if w.active then
    if w.jiffies - w.lastPing ≥ w.timeout * hz then 0
    else (w.timeout * hz - (w.jiffies - w.lastPing)) / hz
  else w.timeout

/-- The body of `demo_wdt_timer_cb`, under `wdt->lock`. -/
def demoWdtTimerCb (hz : ℕ) (w : DemoWdt) : DemoWdt :=
  if w.active then
    if w.jiffies - w.lastPing ≥ w.timeout * hz then { w with expired := true }
    else { w with timer := some (w.jiffies + hz) }
  else w

/-- The rest of `demo_wdt_stop` once `del_timer_sync` returns, then the core
clears `WDOG_ACTIVE`. -/
def demoWdtStopRest (w : DemoWdt) : DemoWdt :=
  { w with timer := none, expired := false, active := false }

/-- A step of one CPU. -/
inductive WdtOp
  | start
  | ping
  /-- `demo_wdt_set_timeout` stores the new timeout. -/
  | setTimeoutAssign (timeout : ℕ)
  /-- `demo_wdt_set_timeout` pings, under `wdt->lock`, and returns. -/
  | setTimeoutPing
  | getTimeleft
  /-- `demo_wdt_stop` takes `wdt->lock`. -/
  | stopLock
  /-- `del_timer_sync` finds no callback running and returns. -/
  | stopSync
  /-- `n` jiffies pass. -/
  | tick (n : ℕ)
  /-- The pending timer expires and its callback starts on another CPU. -/
  | fire
  /-- The callback takes `wdt->lock` and runs to its end. -/
  | cbLock

/-- One step; the output is the value a call returns at this step. A step
that must wait changes nothing. -/
def wdtStep (hz : ℕ) (s : WdtSys) : WdtOp → WdtSys × Option ℕ
  | .start => if s.lockFree then ({ s with wdt := demoWdtStart hz s.wdt }, some 0) else (s, none)
  | .ping => if s.lockFree then ({ s with wdt := demoWdtPing hz s.wdt }, some 0) else (s, none)
  | .setTimeoutAssign t =>
    if s.setTimeout = .idle then
      ({ s with wdt := demoWdtSetTimeoutAssign s.wdt t, setTimeout := .assigned }, none)
    else (s, none)
  | .setTimeoutPing =>
    if s.setTimeout = .assigned ∧ s.lockFree then
      ({ s with wdt := demoWdtSetTimeoutPing hz s.wdt, setTimeout := .idle }, some 0)
    else (s, none)
  | .getTimeleft => if s.lockFree then (s, some (demoWdtGetTimeleft hz s.wdt)) else (s, none)
  | .stopLock => if s.lockFree then ({ s with stop := .syncing }, none) else (s, none)
  | .stopSync =>
    if s.stop = .syncing ∧ s.cb = .idle then
      ({ s with wdt := demoWdtStopRest s.wdt, stop := .idle }, some 0)
    else (s, none)
  | .tick n => ({ s with wdt := { s.wdt with jiffies := s.wdt.jiffies + n } }, none)
  | .fire =>
    match s.wdt.timer with
    | some e =>
      if e ≤ s.wdt.jiffies ∧ s.cb = .idle then
        ({ s with wdt := { s.wdt with timer := none }, cb := .spinning }, none)
      else (s, none)
    | none => (s, none)
  | .cbLock =>
    if s.cb = .spinning ∧ s.lockFree then ({ s with wdt := demoWdtTimerCb hz s.wdt, cb := .idle }, none)
    else (s, none)

/-! ### The deadlock

`stop` holds the lock in `del_timer_sync` while the callback spins on it.
Every step keeps that: the steps that need the lock wait, `del_timer_sync`
waits for the callback, and time passing changes neither. -/

variable {hz : ℕ}

structure Deadlocked (s : WdtSys) : Prop where
  stop_waits : s.stop = .syncing
  cb_spins : s.cb = .spinning

theorem Deadlocked.step {s : WdtSys} (h : Deadlocked s) : ∀ op, Deadlocked (wdtStep hz s op).1 := by
  obtain ⟨hs, hc⟩ := h
  have hl : s.lockFree = false := by simp [WdtSys.lockFree, hs]
  intro op
  cases op with
  | tick n => exact ⟨hs, hc⟩
  | fire =>
    simp only [wdtStep]
    split
    · rw [if_neg (by simp [hc])]; exact ⟨hs, hc⟩
    · exact ⟨hs, hc⟩
  | stopSync => rw [wdtStep, if_neg (by simp [hc])]; exact ⟨hs, hc⟩
  | cbLock => rw [wdtStep, if_neg (by simp [hl])]; exact ⟨hs, hc⟩
  | setTimeoutAssign t => simp only [wdtStep]; split_ifs <;> exact ⟨hs, hc⟩
  | setTimeoutPing => rw [wdtStep, if_neg (by simp [hl])]; exact ⟨hs, hc⟩
  | _ => simp only [wdtStep, hl, Bool.false_eq_true, if_false]; exact ⟨hs, hc⟩

/-- **A deadlock lasts forever**: whatever the CPUs do next, `stop` stays in
`del_timer_sync` and the callback stays on the lock. -/
theorem deadlock_forever {s : WdtSys} (h : Deadlocked s) (ops : List WdtOp) :
    Deadlocked (run (wdtStep hz) s ops).1 :=
  run_inv (wdtStep hz) Deadlocked (fun _ op h => h.step op) ops s h

/-- **`stop` hangs exactly in a deadlock**: a `stop` waiting in
`del_timer_sync` never returns, whatever happens next, if and only if the
callback spins on the lock. -/
theorem stop_stuck_iff_deadlocked {s : WdtSys} (hs : s.stop = .syncing) :
    (∀ ops : List WdtOp, (run (wdtStep hz) s ops).1.stop = .syncing) ↔ Deadlocked s := by
  refine ⟨fun h => ⟨hs, ?_⟩, fun h ops => (deadlock_forever h ops).stop_waits⟩
  cases hc : s.cb with
  | spinning => rfl
  | idle =>
    have := h [.stopSync]
    simp [run, wdtStep, hs, hc] at this

/-- `stop` takes the lock with no timer in flight: it is in `del_timer_sync`,
and it does not hang, since the callback does not spin. -/
theorem stop_without_cb_returns :
    let s : WdtSys := (run (wdtStep 250) wdtProbe [.start, .stopLock]).1
    s.stop = .syncing ∧ ((∀ ops : List WdtOp, (run (wdtStep 250) s ops).1.stop = .syncing) ↔ Deadlocked s) ∧
      ¬ Deadlocked s :=
  ⟨by decide, stop_stuck_iff_deadlocked (by decide), fun h => absurd h.cb_spins (by decide)⟩

/-- From probe: `start`, `HZ` jiffies, `stop` takes the lock, and the timer
fires before `del_timer_sync`. The two are deadlocked, for good. -/
theorem stop_deadlocks_with_timer_cb (hz : ℕ) :
    let ops : List WdtOp := [.start, .tick hz, .stopLock, .fire]
    Deadlocked (run (wdtStep hz) wdtProbe ops).1 ∧
      ∀ more : List WdtOp, Deadlocked (run (wdtStep hz) (run (wdtStep hz) wdtProbe ops).1 more).1 := by
  intro ops
  have h : Deadlocked (run (wdtStep hz) wdtProbe ops).1 := by
    constructor <;> simp [ops, run, wdtStep, wdtProbe, WdtSys.lockFree, demoWdtStart]
  exact ⟨h, deadlock_forever h⟩

/-! ### When `expired` is set

Only the callback sets `expired`, and only when `jiffies - last_ping` has
reached `timeout * HZ` for the timeout stored at that moment
(`wdtStep_expires`). `last_ping` is the time of the last `start` or ping, and
`set_timeout` stores the timeout before it pings: a callback between the two
compares the old `last_ping` with the new timeout, so lowering the timeout
below the time since the last ping expires the watchdog on the spot
(`set_timeout_race_expires`). -/

/-- A step sets `expired` only as the callback, on an active watchdog whose
`jiffies - last_ping` has reached `timeout * HZ`. -/
theorem wdtStep_expires {s : WdtSys} {op : WdtOp} (h0 : s.wdt.expired = false)
    (h1 : (wdtStep hz s op).1.wdt.expired = true) :
    op = .cbLock ∧ s.wdt.active = true ∧ s.wdt.timeout * hz ≤ s.wdt.jiffies - s.wdt.lastPing := by
  cases op with
  | cbLock =>
    simp only [wdtStep] at h1
    split_ifs at h1
    · simp only [demoWdtTimerCb] at h1
      split_ifs at h1 with ha he
      · exact ⟨rfl, ha, he⟩
      all_goals simp_all
    · simp_all
  | fire =>
    simp only [wdtStep] at h1
    split at h1 <;> (try split_ifs at h1) <;> simp_all
  | _ =>
    simp only [wdtStep, demoWdtStart, demoWdtPing, demoWdtSetTimeoutAssign, demoWdtSetTimeoutPing,
      demoWdtStopRest] at h1
    repeat' split_ifs at h1
    all_goals simp_all

/-- The watchdog started at jiffies 0 after `k` checks of its callback, each
`HZ` jiffies after the last and each finding the timeout not yet reached. -/
def checkedAt (hz k : ℕ) : WdtSys :=
  ⟨⟨0, false, wdtDefaultTimeout, true, some ((k + 1) * hz), k * hz⟩, .idle, .idle, .idle⟩

theorem start_checkedAt : (wdtStep hz wdtProbe .start).1 = checkedAt hz 0 := by
  simp [wdtStep, wdtProbe, checkedAt, WdtSys.lockFree, demoWdtStart]

/-- One check: `HZ` jiffies pass, the timer fires, and the callback finds
less than the timeout elapsed and re-arms the timer. -/
theorem check_step (hhz : 0 < hz) {k : ℕ} (hk : k + 1 < wdtDefaultTimeout) :
    (run (wdtStep hz) (checkedAt hz k) [.tick hz, .fire, .cbLock]).1 = checkedAt hz (k + 1) := by
  have hlt : ¬ wdtDefaultTimeout * hz ≤ k * hz + hz :=
    fun h => by rw [← Nat.succ_mul] at h; exact absurd (Nat.le_of_mul_le_mul_right h hhz) (by omega)
  simp [run, wdtStep, checkedAt, WdtSys.lockFree, demoWdtTimerCb, hlt, Nat.succ_mul]

theorem run_checks (hhz : 0 < hz) : ∀ k, k < wdtDefaultTimeout →
    (run (wdtStep hz) (checkedAt hz 0) (List.replicate k [.tick hz, .fire, .cbLock]).flatten).1 =
      checkedAt hz k
  | 0, _ => rfl
  | k + 1, hk => by
    rw [List.replicate_succ', List.flatten_append, List.flatten_singleton, run_append]
    dsimp only
    rw [run_checks hhz k (by omega)]
    exact check_step hhz hk

/-- A second after the 14th check, `set_timeout` stores 10; the check then
due runs before its ping, finds 15 seconds since the last ping, and sets
`expired`. -/
theorem race_after_check_14 (hhz : 0 < hz) :
    (run (wdtStep hz) (run (wdtStep hz) (checkedAt hz 14) [.tick hz]).1
      [.setTimeoutAssign 10, .fire, .cbLock, .setTimeoutPing]).1.wdt =
      ⟨15 * hz, true, 10, true, some (15 * hz + hz), 15 * hz⟩ := by
  have h10 : 10 * hz ≤ 14 * hz + hz := by omega
  have h15 : 15 * hz ≤ 14 * hz + hz := by omega
  simp only [run, wdtStep, checkedAt]
  simp [WdtSys.lockFree, demoWdtSetTimeoutAssign, demoWdtTimerCb, demoWdtSetTimeoutPing, demoWdtPing, h10, h15]
  omega

/-- For every tick rate: the timer checks every `HZ` jiffies from `start`;
after 15 seconds the timeout is lowered to 10. The check due at that moment
runs between the store and the ping of `set_timeout` and sets `expired`: no
jiffy after `set_timeout` began, with the new timeout of 10 seconds in force.
And in every state, a step sets `expired` only as the callback, on an active
watchdog whose `jiffies - last_ping` has reached the stored timeout. -/
theorem set_timeout_race_expires (hz : ℕ) (hhz : 0 < hz) :
    let checks : List WdtOp := (List.replicate 14 [.tick hz, .fire, .cbLock]).flatten
    let before := (run (wdtStep hz) wdtProbe (.start :: checks ++ [.tick hz])).1
    let after := (run (wdtStep hz) before [.setTimeoutAssign 10, .fire, .cbLock, .setTimeoutPing]).1
    before.wdt.expired = false ∧ before.wdt.jiffies = 15 * hz ∧
      after.wdt.expired = true ∧ after.wdt.jiffies = before.wdt.jiffies ∧ after.wdt.timeout = 10 ∧
      ∀ (s : WdtSys) (op : WdtOp), s.wdt.expired = false → (wdtStep hz s op).1.wdt.expired = true →
        op = .cbLock ∧ s.wdt.active = true ∧ s.wdt.timeout * hz ≤ s.wdt.jiffies - s.wdt.lastPing := by
  intro checks before after
  have hb : before = (run (wdtStep hz) (checkedAt hz 14) [.tick hz]).1 := by
    simp only [before, checks, List.cons_append, run_cons, start_checkedAt, run_append,
      run_checks hhz 14 (by decide)]
  have ha : after.wdt = ⟨15 * hz, true, 10, true, some (15 * hz + hz), 15 * hz⟩ := by
    simp only [after, hb]; exact race_after_check_14 hhz
  have hj : before.wdt.jiffies = 15 * hz := by
    rw [hb]; show 14 * hz + hz = 15 * hz; omega
  exact ⟨by rw [hb]; rfl, hj, by rw [ha], by rw [ha, hj], by rw [ha], fun _ _ => wdtStep_expires⟩

/-- At `HZ` = 250: the check due 15 seconds after `start` expires the
watchdog inside a `set_timeout` that lowers the timeout to 10. -/
theorem set_timeout_race_at_hz_250 :
    0 < 250 ∧
      let checks : List WdtOp := (List.replicate 14 [.tick 250, .fire, .cbLock]).flatten
      let before := (run (wdtStep 250) wdtProbe (.start :: checks ++ [.tick 250])).1
      let after := (run (wdtStep 250) before [.setTimeoutAssign 10, .fire, .cbLock, .setTimeoutPing]).1
      before.wdt.expired = false ∧ before.wdt.jiffies = 15 * 250 ∧
        after.wdt.expired = true ∧ after.wdt.jiffies = before.wdt.jiffies ∧ after.wdt.timeout = 10 ∧
        ∀ (s : WdtSys) (op : WdtOp), s.wdt.expired = false → (wdtStep 250 s op).1.wdt.expired = true →
          op = .cbLock ∧ s.wdt.active = true ∧ s.wdt.timeout * 250 ≤ s.wdt.jiffies - s.wdt.lastPing :=
  ⟨by decide, set_timeout_race_expires 250 (by decide)⟩

end Watchdog
end DriverGuide
