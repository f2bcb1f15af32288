/-
# The RTC demo's alarm: a delay past `LONG_MAX` jiffies fires at once

`part11/rtc-driver/rtc_demo.c` keeps time in software and rings its alarm
with a kernel timer. `demo_rtc_set_alarm` and `demo_rtc_alarm_irq_enable` arm
it for an alarm in the future with
`mod_timer(&alarm_timer, jiffies + (alarm_time - current_time) * HZ)`: the
product is a `time64_t`, stored in an `unsigned long`, and the timer core
compares jiffies as `long` (`time_after_eq`).

While `(alarm_time - current_time) * HZ` is below `2^(BITS_PER_LONG - 1)`
the offset handed to `mod_timer` is that product, and `time_after_eq` finds
the timer due exactly once that many jiffies have passed
(`alarm_offset_in_range`). A delay above `2^(BITS_PER_LONG - 1)` reads as a
time in the past, and the alarm goes off as soon as the timer core looks,
whichever of the two calls armed it (`alarm_long_delay_fires`). The RTC core
accepts alarms that far ahead: on a 32-bit kernel at `HZ = 1000` an alarm
30 days ahead goes off a month early; on a 64-bit kernel at `HZ = 250` an
alarm some `4·10^16` s ahead overflows the `s64` product
(`alarm_month_ahead_fires_at_once`).

Not covered: the RTC core (its `rtc_tm_to_time64` conversion, so alarm and
set times are taken as `time64_t`) and the timer wheel's placement of a timer
that is not yet due (it rounds the expiry up to its level's granularity, and
runs a timeout past `WHEEL_TIMEOUT_CUTOFF` at `WHEEL_TIMEOUT_MAX`); a timer
that `time_after_eq` finds due it files in the current bucket, and that is
the case the model's `fire` is used for. Real time (`ktime_get_real`, in ns)
and jiffies advance together.

Key definitions: `toLong`, `timeAfterEq`, `demoRtcGetTime64`, `alarmDelay`,
`demoRtcSetAlarm`, `demoRtcAlarmIrqEnable`, `rtcStep`.
Key theorems: `toLong_congr`, `timeAfterEq_add`, `alarmDelay_of_lt`,
`alarm_offset_in_range`, `alarm_long_delay_fires`,
`alarm_month_ahead_fires_at_once`.
-/
import DriverGuide.Basic

namespace DriverGuide
namespace Rtc

/-! ### `long` arithmetic -/

/-- What the alarm arithmetic depends on: `HZ` and `BITS_PER_LONG`. -/
structure KernelConfig where
  hz : ℕ
  bitsPerLong : ℕ

/-- `(unsigned long) x`. -/
def toUlong (cfg : KernelConfig) (x : ℤ) : ℕ := (x % 2 ^ cfg.bitsPerLong).toNat

/-- `(long) x`: two's complement of width `BITS_PER_LONG`. -/
def toLong (cfg : KernelConfig) (x : ℤ) : ℤ :=
  (x + 2 ^ (cfg.bitsPerLong - 1)) % 2 ^ cfg.bitsPerLong - 2 ^ (cfg.bitsPerLong - 1)

/-- `time_after_eq(a, b)`: `(long)(a - b) >= 0`. -/
def timeAfterEq (cfg : KernelConfig) (a b : ℕ) : Bool := 0 ≤ toLong cfg ((a : ℤ) - b)

/-- `(long)` depends on its argument modulo `2^BITS_PER_LONG` only. -/
theorem toLong_congr (cfg : KernelConfig) {x y : ℤ} (h : x ≡ y [ZMOD 2 ^ cfg.bitsPerLong]) :
    toLong cfg x = toLong cfg y := by
  rw [toLong, toLong, (h.add_right _).eq]

section Long

variable (cfg : KernelConfig) (hb : 1 ≤ cfg.bitsPerLong)
include hb

theorem two_pow_bits : (2 : ℤ) ^ cfg.bitsPerLong = 2 * 2 ^ (cfg.bitsPerLong - 1) := by
  rw [← pow_succ', Nat.sub_add_cancel hb]

/-- `(long) x` is `x` in the range of a `long`. -/
theorem toLong_of_mem {x : ℤ} (h₀ : -2 ^ (cfg.bitsPerLong - 1) ≤ x)
    (h₁ : x < 2 ^ (cfg.bitsPerLong - 1)) : toLong cfg x = x := by
  rw [toLong, two_pow_bits cfg hb]
  generalize (2 : ℤ) ^ (cfg.bitsPerLong - 1) = H at h₀ h₁ ⊢
  rw [Int.emod_eq_of_lt (by omega) (by omega)]
  omega

end Long

/-! ### The driver -/

/-- `NSEC_PER_SEC`. -/
def nsecPerSec : ℤ := 1000000000

/-- `struct demo_rtc` without the RTC device and the mutex (every callback runs
under it); `alarmTimer` is the expiry of `alarm_timer` when it is pending. -/
structure DemoRtc where
  baseTime : ℤ
  baseKtime : ℤ
  alarmTime : ℤ
  alarmEnabled : Bool
  alarmPending : Bool
  alarmTimer : Option ℕ

/-- `demo_rtc_probe` at real time `now` (ns): `devm_kzalloc` zeroes the alarm,
and the time starts at the seconds of `now`. -/
def demoRtcProbe (now : ℤ) : DemoRtc := ⟨now / nsecPerSec, now, 0, false, false, none⟩

/-- `demo_rtc_get_time64` at real time `now`: `div_s64` rounds toward 0, and
`time64_t` wraps like `loff_t`. -/
def demoRtcGetTime64 (drtc : DemoRtc) (now : ℤ) : ℤ :=
  loff (drtc.baseTime + Int.tdiv (loff (now - drtc.baseKtime)) nsecPerSec)

/-- `demo_rtc_set_time`. -/
def demoRtcSetTime (drtc : DemoRtc) (newTime now : ℤ) : DemoRtc :=
  { drtc with baseTime := newTime, baseKtime := now }

/-- The jiffies an alarm at `alarmTime` waits from `currentTime`:
`(alarm_time - current_time) * HZ` in `time64_t`, stored in an
`unsigned long`. -/
def alarmDelay (cfg : KernelConfig) (alarmTime currentTime : ℤ) : ℕ :=
  toUlong cfg (loff (loff (alarmTime - currentTime) * cfg.hz))

/-- `mod_timer(&drtc->alarm_timer, jiffies + delay)`. -/
def armAlarm (cfg : KernelConfig) (drtc : DemoRtc) (jiffies delay : ℕ) : DemoRtc :=
  { drtc with alarmTimer := some ((jiffies + delay) % 2 ^ cfg.bitsPerLong) }

/-- `demo_rtc_set_alarm` of `alarmTime`, at real time `now`. -/
def demoRtcSetAlarm (cfg : KernelConfig) (drtc : DemoRtc) (alarmTime : ℤ) (enabled : Bool)
    (now : ℤ) (jiffies : ℕ) : DemoRtc :=
  let drtc := { drtc with alarmTimer := none, alarmPending := false, alarmTime := alarmTime,
                          alarmEnabled := enabled }
  if enabled then
    let currentTime := demoRtcGetTime64 drtc now
    if alarmTime > currentTime then armAlarm cfg drtc jiffies (alarmDelay cfg alarmTime currentTime)
    else drtc
  else drtc

/-- `demo_rtc_alarm_irq_enable`. -/
def demoRtcAlarmIrqEnable (cfg : KernelConfig) (drtc : DemoRtc) (enabled : Bool) (now : ℤ)
    (jiffies : ℕ) : DemoRtc :=
  let drtc' :=
    if enabled ∧ !drtc.alarmEnabled then
      let currentTime := demoRtcGetTime64 drtc now
      if drtc.alarmTime > currentTime then
        armAlarm cfg drtc jiffies (alarmDelay cfg drtc.alarmTime currentTime)
      else drtc
    else if !enabled then { drtc with alarmTimer := none }
    else drtc
  { drtc' with alarmEnabled := enabled }

/-- `demo_rtc_alarm_callback`, run by the timer core, which has dequeued the
timer. -/
def demoRtcAlarmCallback (drtc : DemoRtc) : DemoRtc :=
  { drtc with alarmPending := true, alarmTimer := none }

/-! ### Runs -/

structure RtcSys where
  drtc : DemoRtc
  /-- `ktime_get_real()`, in ns. -/
  now : ℤ
  jiffies : ℕ

inductive RtcOp
  | readTime
  | setTime (time : ℤ)
  | readAlarm
  | setAlarm (alarmTime : ℤ) (enabled : Bool)
  | alarmIrqEnable (enabled : Bool)
  /-- `n` jiffies pass, and the real time they last. -/
  | tick (n : ℕ)
  /-- The timer core runs `alarm_timer` if it is due. -/
  | fire

/-- What a call hands back: the time read, the alarm read, or 0. -/
inductive RtcOut
  | time (t : ℤ)
  | alarm (time : ℤ) (enabled pending : Bool)
  | ok

/-- One call or event. `fire` runs `alarm_timer` if `time_after_eq(jiffies,
expires)`: that is when the timer core takes a timer as due, and it runs a
timer that is already due at once; when the wheel runs one that is not yet
due is not modelled. -/
def rtcStep (cfg : KernelConfig) (s : RtcSys) : RtcOp → RtcSys × RtcOut
  | .readTime => (s, .time (demoRtcGetTime64 s.drtc s.now))
  | .setTime t => ({ s with drtc := demoRtcSetTime s.drtc t s.now }, .ok)
  | .readAlarm => (s, .alarm s.drtc.alarmTime s.drtc.alarmEnabled s.drtc.alarmPending)
  | .setAlarm a e => ({ s with drtc := demoRtcSetAlarm cfg s.drtc a e s.now s.jiffies }, .ok)
  | .alarmIrqEnable e => ({ s with drtc := demoRtcAlarmIrqEnable cfg s.drtc e s.now s.jiffies }, .ok)
  | .tick n =>
    ({ s with now := s.now + n * (nsecPerSec / cfg.hz),
              jiffies := (s.jiffies + n) % 2 ^ cfg.bitsPerLong }, .ok)
  | .fire =>
    match s.drtc.alarmTimer with
    | some e =>
      if timeAfterEq cfg s.jiffies e then ({ s with drtc := demoRtcAlarmCallback s.drtc }, .ok)
      else (s, .ok)
    | none => (s, .ok)

/-- The alarm fields do not move the clock. -/
@[simp]
theorem demoRtcGetTime64_alarm (drtc : DemoRtc) (t : Option ℕ) (p e : Bool) (a now : ℤ) :
    demoRtcGetTime64 { drtc with alarmTimer := t, alarmPending := p, alarmTime := a,
                                 alarmEnabled := e } now = demoRtcGetTime64 drtc now := rfl

/-- An enabled alarm in the future is armed `alarmDelay` jiffies ahead, and
not pending. -/
theorem demoRtcSetAlarm_arms (cfg : KernelConfig) (drtc : DemoRtc) {alarmTime now : ℤ}
    (jiffies : ℕ) (hlt : demoRtcGetTime64 drtc now < alarmTime) :
    let drtc' := demoRtcSetAlarm cfg drtc alarmTime true now jiffies
    drtc'.alarmTimer = some ((jiffies + alarmDelay cfg alarmTime (demoRtcGetTime64 drtc now)) %
      2 ^ cfg.bitsPerLong) ∧ drtc'.alarmPending = false := by
  simp [demoRtcSetAlarm, hlt, armAlarm]

/-- An alarm set disabled and then enabled by `alarm_irq_enable`, in the
future, is armed the same way. -/
theorem demoRtcAlarmIrqEnable_arms (cfg : KernelConfig) (drtc : DemoRtc) {alarmTime now : ℤ}
    (jiffies : ℕ) (hlt : demoRtcGetTime64 drtc now < alarmTime) :
    let drtc' := demoRtcAlarmIrqEnable cfg (demoRtcSetAlarm cfg drtc alarmTime false now jiffies) true
      now jiffies
    drtc'.alarmTimer = some ((jiffies + alarmDelay cfg alarmTime (demoRtcGetTime64 drtc now)) %
      2 ^ cfg.bitsPerLong) ∧ drtc'.alarmPending = false := by
  simp [demoRtcSetAlarm, demoRtcAlarmIrqEnable, hlt, armAlarm]

/-- Firing sets the pending flag exactly when the timer is due. -/
theorem rtcStep_fire_pending (cfg : KernelConfig) (s : RtcSys) {e : ℕ} (ht : s.drtc.alarmTimer = some e)
    (hp : s.drtc.alarmPending = false) :
    (rtcStep cfg s .fire).1.drtc.alarmPending = timeAfterEq cfg s.jiffies e := by
  simp only [rtcStep, ht]
  split <;> simp_all [demoRtcAlarmCallback]

/-- Whether a timer armed at `j` with delay `d` is due `k` jiffies later
depends on `k - d` only. -/
theorem timeAfterEq_add (cfg : KernelConfig) (j k d : ℕ) :
    timeAfterEq cfg ((j + k) % 2 ^ cfg.bitsPerLong) ((j + d) % 2 ^ cfg.bitsPerLong) =
      decide (0 ≤ toLong cfg ((k : ℤ) - d)) := by
  have e := (Int.mod_modEq ((j + k : ℕ) : ℤ) (2 ^ cfg.bitsPerLong)).sub
    (Int.mod_modEq ((j + d : ℕ) : ℤ) (2 ^ cfg.bitsPerLong))
  push_cast at e ⊢
  rw [show (k : ℤ) - d = (j + k) - (j + d) by omega, ← toLong_congr cfg e, timeAfterEq]
  push_cast
  rfl

/-- A timer set more than `2^(BITS_PER_LONG - 1)` jiffies ahead is due at
once. -/
theorem timeAfterEq_of_long_delay (cfg : KernelConfig) (hb : 1 ≤ cfg.bitsPerLong) {j d : ℕ}
    (hj : j < 2 ^ cfg.bitsPerLong) (h₁ : 2 ^ (cfg.bitsPerLong - 1) < d) (h₂ : d < 2 ^ cfg.bitsPerLong) :
    timeAfterEq cfg j ((j + d) % 2 ^ cfg.bitsPerLong) = true := by
  have e := timeAfterEq_add cfg j 0 d
  rw [Nat.add_zero, Nat.mod_eq_of_lt hj] at e
  have hM := two_pow_bits cfg hb
  have h₁' : (2 : ℤ) ^ (cfg.bitsPerLong - 1) < d := by exact_mod_cast h₁
  have h₂' : (d : ℤ) < 2 ^ cfg.bitsPerLong := by exact_mod_cast h₂
  have hwrap : ((0 : ℕ) : ℤ) - d ≡ 2 ^ cfg.bitsPerLong - d [ZMOD 2 ^ cfg.bitsPerLong] :=
    Int.modEq_iff_dvd.mpr ⟨1, by omega⟩
  rw [e, toLong_congr cfg hwrap, hM, toLong_of_mem cfg hb (by omega) (by omega)]
  simp only [decide_eq_true_eq]
  omega

/-! ### The delay in range -/

/-- While `(alarm_time - current_time) * HZ` fits a `long`, the delay is
that product. -/
theorem alarmDelay_of_lt (cfg : KernelConfig) (hb : 1 ≤ cfg.bitsPerLong ∧ cfg.bitsPerLong ≤ 64)
    {alarmTime currentTime : ℤ} (hlt : currentTime < alarmTime) (hhz : 0 < cfg.hz)
    (hr : (alarmTime - currentTime) * cfg.hz < 2 ^ (cfg.bitsPerLong - 1)) :
    (alarmDelay cfg alarmTime currentTime : ℤ) = (alarmTime - currentTime) * cfg.hz := by
  have hH : (2 : ℤ) ^ (cfg.bitsPerLong - 1) ≤ 2 ^ 63 := pow_le_pow_right₀ (by norm_num) (by omega)
  have hM := two_pow_bits cfg hb.1
  have hz : (1 : ℤ) ≤ cfg.hz := by exact_mod_cast hhz
  have hd : alarmTime - currentTime ≤ (alarmTime - currentTime) * cfg.hz :=
    le_mul_of_one_le_right (by omega) hz
  generalize (2 : ℤ) ^ (cfg.bitsPerLong - 1) = H at hH hM hr
  rw [alarmDelay, toUlong, loff_of_mem (x := alarmTime - currentTime) (by omega) (by omega),
    loff_of_mem (x := (alarmTime - currentTime) * cfg.hz) (by omega) (by omega),
    hM, Int.emod_eq_of_lt (by omega) (by omega), Int.toNat_of_nonneg (by omega)]

/-- **In range, the alarm is armed exactly.** From any state,
`demo_rtc_set_alarm` of an enabled alarm in the future with
`(alarm_time - current_time) * HZ` below `2^(BITS_PER_LONG - 1)` hands
`mod_timer` the expiry `jiffies + (alarm_time - current_time) * HZ`: the
offset is that product, positive and computed without overflow, and
`time_after_eq` finds the timer due `k` jiffies later, for every `k` below
`2^(BITS_PER_LONG - 1)`, exactly when `k` has reached it. -/
theorem alarm_offset_in_range (cfg : KernelConfig) (hb : 1 ≤ cfg.bitsPerLong ∧ cfg.bitsPerLong ≤ 64)
    (hhz : 0 < cfg.hz) (s : RtcSys) (alarmTime : ℤ) (hlt : demoRtcGetTime64 s.drtc s.now < alarmTime)
    (hr : (alarmTime - demoRtcGetTime64 s.drtc s.now) * cfg.hz < 2 ^ (cfg.bitsPerLong - 1)) :
    let delay := alarmDelay cfg alarmTime (demoRtcGetTime64 s.drtc s.now)
    (rtcStep cfg s (.setAlarm alarmTime true)).1.drtc.alarmTimer =
        some ((s.jiffies + delay) % 2 ^ cfg.bitsPerLong) ∧
      (delay : ℤ) = (alarmTime - demoRtcGetTime64 s.drtc s.now) * cfg.hz ∧ 0 < delay ∧
      ∀ k : ℕ, k < 2 ^ (cfg.bitsPerLong - 1) →
        timeAfterEq cfg ((s.jiffies + k) % 2 ^ cfg.bitsPerLong)
          ((s.jiffies + delay) % 2 ^ cfg.bitsPerLong) = decide (delay ≤ k) := by
  intro delay
  have hd : (delay : ℤ) = (alarmTime - demoRtcGetTime64 s.drtc s.now) * cfg.hz :=
    alarmDelay_of_lt cfg hb hlt hhz hr
  have hpos : (0 : ℤ) < (alarmTime - demoRtcGetTime64 s.drtc s.now) * cfg.hz :=
    mul_pos (by omega) (by exact_mod_cast hhz)
  refine ⟨(demoRtcSetAlarm_arms cfg s.drtc s.jiffies hlt).1, hd, by omega, fun k hk => ?_⟩
  have hk' : (k : ℤ) < 2 ^ (cfg.bitsPerLong - 1) := by exact_mod_cast hk
  rw [timeAfterEq_add, toLong_of_mem cfg hb.1 (by omega) (by omega)]
  simp only [decide_eq_decide]
  omega

/-- An alarm a minute ahead on a 32-bit kernel at `HZ = 1000` is armed
60 000 jiffies ahead. -/
theorem alarm_minute_ahead_offset :
    let cfg : KernelConfig := ⟨1000, 32⟩
    let s : RtcSys := ⟨demoRtcProbe 0, 0, 7⟩
    (1 ≤ cfg.bitsPerLong ∧ cfg.bitsPerLong ≤ 64) ∧ 0 < cfg.hz ∧ demoRtcGetTime64 s.drtc s.now < 60 ∧
      (60 - demoRtcGetTime64 s.drtc s.now) * cfg.hz < 2 ^ (cfg.bitsPerLong - 1) ∧
      (rtcStep cfg s (.setAlarm 60 true)).1.drtc.alarmTimer =
        some ((s.jiffies + alarmDelay cfg 60 (demoRtcGetTime64 s.drtc s.now)) % 2 ^ cfg.bitsPerLong) ∧
      alarmDelay cfg 60 (demoRtcGetTime64 s.drtc s.now) = 60000 :=
  ⟨by decide, by decide, by decide, by decide,
    (alarm_offset_in_range ⟨1000, 32⟩ (by decide) (by decide) ⟨demoRtcProbe 0, 0, 7⟩ 60 (by decide)
      (by decide)).1, by decide⟩

/-! ### Past the range -/

/-- `(unsigned long)` keeps the delay below `2^BITS_PER_LONG`. -/
theorem alarmDelay_lt (cfg : KernelConfig) (alarmTime currentTime : ℤ) :
    alarmDelay cfg alarmTime currentTime < 2 ^ cfg.bitsPerLong := by
  have hM : (0 : ℤ) < 2 ^ cfg.bitsPerLong := by positivity
  have h₀ := Int.emod_nonneg (loff (loff (alarmTime - currentTime) * cfg.hz)) hM.ne'
  have h₁ := Int.emod_lt_of_pos (loff (loff (alarmTime - currentTime) * cfg.hz)) hM
  rw [alarmDelay, toUlong]
  zify [Int.toNat_of_nonneg h₀]
  exact h₁

/-- **Past the range, the alarm goes off at once.** From any state, an
enabled alarm in the future whose delay is above `2^(BITS_PER_LONG - 1)` is
pending as soon as the timer core looks at it, whether `set_alarm` armed it
or `alarm_irq_enable` did after a disabled `set_alarm`. -/
theorem alarm_long_delay_fires (cfg : KernelConfig) (hb : 1 ≤ cfg.bitsPerLong) (s : RtcSys)
    (hj : s.jiffies < 2 ^ cfg.bitsPerLong) (alarmTime : ℤ)
    (hlt : demoRtcGetTime64 s.drtc s.now < alarmTime)
    (hd : 2 ^ (cfg.bitsPerLong - 1) < alarmDelay cfg alarmTime (demoRtcGetTime64 s.drtc s.now)) :
    (run (rtcStep cfg) s [.setAlarm alarmTime true, .fire]).1.drtc.alarmPending = true ∧
      (run (rtcStep cfg) s [.setAlarm alarmTime false, .alarmIrqEnable true, .fire]).1.drtc.alarmPending =
        true := by
  have hdue := timeAfterEq_of_long_delay cfg hb hj hd (alarmDelay_lt cfg _ _)
  obtain ⟨ht, hp⟩ := demoRtcSetAlarm_arms cfg s.drtc s.jiffies hlt
  obtain ⟨ht', hp'⟩ := demoRtcAlarmIrqEnable_arms cfg s.drtc s.jiffies hlt
  simp only [run_cons, run_nil]
  exact ⟨(rtcStep_fire_pending cfg _ ht hp).trans hdue, (rtcStep_fire_pending cfg _ ht' hp').trans hdue⟩

/-- Probed in late 2026, a 32-bit kernel at `HZ = 1000` arms an alarm 30 days
ahead, by set_alarm or by alarm_irq_enable, with a delay of 2 592 000 000
jiffies, above `2^31`: the timer is due at once, and the alarm goes off with
30 days still to go. On a 64-bit kernel at `HZ = 250`, an alarm `4·10^16` s
ahead (in a year near `1.27·10^9`, below `INT_MAX + 1900`) overflows the
`s64` product, its delay is above `2^63`, and it goes off at once too. -/
theorem alarm_month_ahead_fires_at_once :
    let cfg32 : KernelConfig := ⟨1000, 32⟩
    let cfg64 : KernelConfig := ⟨250, 64⟩
    let s : RtcSys := ⟨demoRtcProbe 1790000000000000000, 1790000000000000000, 0⟩
    let fired32 := (run (rtcStep cfg32) s [.setAlarm (1790000000 + 2592000) true, .fire]).1
    let fired32' := (run (rtcStep cfg32) s
      [.setAlarm (1790000000 + 2592000) false, .alarmIrqEnable true, .fire]).1
    let fired64 := (run (rtcStep cfg64) s [.setAlarm (1790000000 + 4 * 10 ^ 16) true, .fire]).1
    2 ^ 31 < alarmDelay cfg32 (1790000000 + 2592000) 1790000000 ∧
      fired32.drtc.alarmPending = true ∧ fired32'.drtc.alarmPending = true ∧
      demoRtcGetTime64 fired32.drtc fired32.now + 2592000 = fired32.drtc.alarmTime ∧
      loff (4 * 10 ^ 16 * 250) < 0 ∧ 2 ^ 63 < alarmDelay cfg64 (1790000000 + 4 * 10 ^ 16) 1790000000 ∧
      fired64.drtc.alarmPending = true ∧
      demoRtcGetTime64 fired64.drtc fired64.now + 4 * 10 ^ 16 = fired64.drtc.alarmTime :=
  have hnow : demoRtcGetTime64 (demoRtcProbe 1790000000000000000) 1790000000000000000 = 1790000000 := by
    decide
  have h32 : 2 ^ 31 < alarmDelay ⟨1000, 32⟩ (1790000000 + 2592000) 1790000000 := by decide
  have h64 : 2 ^ 63 < alarmDelay ⟨250, 64⟩ (1790000000 + 4 * 10 ^ 16) 1790000000 := by decide
  have f32 := alarm_long_delay_fires ⟨1000, 32⟩ (by decide)
    ⟨demoRtcProbe 1790000000000000000, 1790000000000000000, 0⟩ (by decide) (1790000000 + 2592000)
    (by rw [hnow]; decide) (by rw [hnow]; exact h32)
  have f64 := alarm_long_delay_fires ⟨250, 64⟩ (by decide)
    ⟨demoRtcProbe 1790000000000000000, 1790000000000000000, 0⟩ (by decide) (1790000000 + 4 * 10 ^ 16)
    (by rw [hnow]; decide) (by rw [hnow]; exact h64)
  ⟨h32, f32.1, f32.2, by decide, by decide, h64, f64.1, by decide⟩

end Rtc
end DriverGuide
