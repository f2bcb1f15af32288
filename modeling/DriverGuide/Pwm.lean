/-
# The PWM demo: every channel holds a valid waveform, and the percentage wraps

`part10/pwm-driver/pwm_demo.c` keeps four channels of `u64` period and duty
cycle. `demo_pwm_apply` refuses a zero period and a duty cycle above the
period and otherwise copies the request into the channel; `demo_pwm_free`
disables a channel and zeroes its duty cycle; probe sets every period to 1 ms.
So in every reachable state each channel has `0 < period` and
`duty_cycle ≤ period` (`ValidChannel`, `pwmStep_valid`, `pwm_channels_valid`),
and a refused apply changes nothing (`pwmStep_apply_rejected`).

`demo_pwm_debugfs_show` prints `div64_u64(duty_cycle * 100, period)`. The
product is a `u64`, so the percentage shown is `(100 · duty mod 2^64) / period`
(`dutyPercent_toNat`). On a valid channel that is never above 100, and it is
`⌊100 · duty / period⌋` while `100 · duty < 2^64` (`debugfs_show_percent`);
past that it wraps: a channel at period = duty = 2^63, which apply accepts,
shows 0 % (`debugfs_show_percent_wraps`).

Not covered: the PWM core. `hwpwm` is below `NUM_CHANNELS`, which the core
guarantees for a chip with `npwm = NUM_CHANNELS`; the lock makes every
operation one step. The table's header lines and column widths are left out.

Key definitions: `demoPwmApply`, `demoPwmFree`, `demoPwmDebugfsShow`, `pwmStep`,
`ValidChannel`.
Key theorems: `pwmStep_valid`, `pwm_channels_valid`, `dutyPercent_toNat`,
`debugfs_show_percent`, `debugfs_show_percent_wraps`.
-/
import DriverGuide.Basic

namespace DriverGuide
namespace Pwm

/-! ### `u64` arithmetic -/

theorem u64_toNat_mul (a b : UInt64) : (a * b).toNat = a.toNat * b.toNat % 2 ^ 64 := by
  rw [UInt64.mul_def]; exact BitVec.toNat_mul _ _

theorem u64_lt_iff {a b : UInt64} : a < b ↔ a.toNat < b.toNat := by
  rw [UInt64.lt_def, BitVec.lt_def]; rfl

/-! ### The driver -/

/-- `enum pwm_polarity`. -/
inductive PwmPolarity
  | normal
  | inversed
  deriving DecidableEq

/-- `struct demo_pwm_channel`. -/
structure DemoPwmChannel where
  period : UInt64
  dutyCycle : UInt64
  polarity : PwmPolarity
  enabled : Bool
  deriving DecidableEq

/-- The fields of `struct pwm_state` the driver reads and fills. -/
structure PwmState where
  period : UInt64
  dutyCycle : UInt64
  polarity : PwmPolarity
  enabled : Bool
  deriving DecidableEq

/-- `NUM_CHANNELS`. -/
def numChannels : ℕ := 4

/-- `channels[NUM_CHANNELS]` of `struct demo_pwm`, indexed by `hwpwm`. -/
abbrev Channels := Fin numChannels → DemoPwmChannel

/-- `demo_pwm_probe`: a 1 ms period, no duty, normal polarity, disabled. -/
def demoPwmProbe : Channels := fun _ => ⟨1000000, 0, .normal, false⟩

/-- `demo_pwm_free`. -/
def demoPwmFree (chs : Channels) (hw : Fin numChannels) : Channels :=
  Function.update chs hw { chs hw with enabled := false, dutyCycle := 0 }

/-- `demo_pwm_apply`: the channels and the return value. -/
def demoPwmApply (chs : Channels) (hw : Fin numChannels) (state : PwmState) : Channels × ℤ :=
  if state.period = 0 then (chs, -EINVAL)
  else if state.dutyCycle > state.period then (chs, -EINVAL)
  else (Function.update chs hw ⟨state.period, state.dutyCycle, state.polarity, state.enabled⟩, 0)

/-- `demo_pwm_get_state`: the state it fills. -/
def demoPwmGetState (chs : Channels) (hw : Fin numChannels) : PwmState :=
  ⟨(chs hw).period, (chs hw).dutyCycle, (chs hw).polarity, (chs hw).enabled⟩

/-- `duty_percent` of `demo_pwm_debugfs_show`. -/
def dutyPercent (ch : DemoPwmChannel) : UInt64 :=
  if ch.period > 0 then ch.dutyCycle * 100 / ch.period else 0

/-- The values of one row of the debugfs table. -/
structure PwmRow where
  index : ℕ
  period : UInt64
  dutyCycle : UInt64
  dutyPercent : UInt64
  polarity : String
  enabled : String
  deriving DecidableEq

/-- The rows `demo_pwm_debugfs_show` prints, one per channel. -/
def demoPwmDebugfsShow (chs : Channels) : List PwmRow :=
  List.ofFn fun i => ⟨i, (chs i).period, (chs i).dutyCycle, dutyPercent (chs i),
    if (chs i).polarity = .inversed then "inv" else "nor", if (chs i).enabled then "yes" else "no"⟩

/-! ### Runs

The PWM core's calls into the chip, and reads of the debugfs file. -/

inductive PwmOp
  | request (hw : Fin numChannels)
  | free (hw : Fin numChannels)
  | apply (hw : Fin numChannels) (state : PwmState)
  | getState (hw : Fin numChannels)
  | debugfsShow

/-- What a call hands back: a return value, the state `get_state` fills, the
table, or nothing (`free` is `void`). -/
inductive PwmOut
  | ret (r : ℤ)
  | state (s : PwmState)
  | rows (rs : List PwmRow)
  | done

def pwmStep (chs : Channels) : PwmOp → Channels × PwmOut
  | .request _ => (chs, .ret 0)
  | .free hw => (demoPwmFree chs hw, .done)
  | .apply hw state => let r := demoPwmApply chs hw state; (r.1, .ret r.2)
  | .getState hw => (chs, .state (demoPwmGetState chs hw))
  | .debugfsShow => (chs, .rows (demoPwmDebugfsShow chs))

/-! ### Every channel holds a valid waveform -/

/-- A waveform the hardware can produce: a period, and a duty cycle within it. -/
structure ValidChannel (ch : DemoPwmChannel) : Prop where
  period_pos : 0 < ch.period.toNat
  duty_le : ch.dutyCycle.toNat ≤ ch.period.toNat

instance (ch : DemoPwmChannel) : Decidable (ValidChannel ch) :=
  decidable_of_iff (0 < ch.period.toNat ∧ ch.dutyCycle.toNat ≤ ch.period.toNat)
    ⟨fun h => ⟨h.1, h.2⟩, fun h => ⟨h.1, h.2⟩⟩

theorem probe_valid (i : Fin numChannels) : ValidChannel (demoPwmProbe i) :=
  show ValidChannel ⟨1000000, 0, .normal, false⟩ by decide

/-- An apply either refuses and returns `-EINVAL` with nothing changed, or
stores a valid waveform in its channel and returns 0. -/
theorem demoPwmApply_cases (chs : Channels) (hw : Fin numChannels) (state : PwmState) :
    demoPwmApply chs hw state = (chs, -EINVAL) ∨
      (ValidChannel ⟨state.period, state.dutyCycle, state.polarity, state.enabled⟩ ∧
        demoPwmApply chs hw state =
          (Function.update chs hw ⟨state.period, state.dutyCycle, state.polarity, state.enabled⟩, 0)) := by
  unfold demoPwmApply
  by_cases h0 : state.period = 0
  · exact .inl (if_pos h0)
  by_cases h1 : state.dutyCycle > state.period
  · exact .inl (by rw [if_neg h0, if_pos h1])
  refine .inr ⟨⟨?_, ?_⟩, by rw [if_neg h0, if_neg h1]⟩
  · exact Nat.pos_of_ne_zero fun h => h0 (UInt64.toNat.inj (h.trans UInt64.toNat_zero.symm))
  · exact Nat.le_of_not_lt (mt u64_lt_iff.mpr h1)

theorem pwmStep_valid {chs : Channels} (h : ∀ i, ValidChannel (chs i)) :
    ∀ op i, ValidChannel ((pwmStep chs op).1 i)
  | .request _, i | .getState _, i | .debugfsShow, i => h i
  | .free hw, i => by
    refine Function.forall_update_iff _ (fun _ c => ValidChannel c) |>.mpr ⟨?_, fun j _ => h j⟩ i
    exact ⟨(h hw).period_pos, Nat.zero_le _⟩
  | .apply hw state, i => by
    rcases demoPwmApply_cases chs hw state with he | ⟨hv, he⟩
    · simpa only [pwmStep, he] using h i
    · simp only [pwmStep, he]
      exact Function.forall_update_iff _ (fun _ c => ValidChannel c) |>.mpr ⟨hv, fun j _ => h j⟩ i

/-- A refused apply leaves every channel as it was. -/
theorem pwmStep_apply_rejected (chs : Channels) (hw : Fin numChannels) (state : PwmState)
    (h : (pwmStep chs (.apply hw state)).2 = .ret (-EINVAL)) : (pwmStep chs (.apply hw state)).1 = chs := by
  rcases demoPwmApply_cases chs hw state with he | ⟨-, he⟩ <;> simp only [pwmStep, he] at h ⊢
  cases h

theorem run_valid (ops : List PwmOp) : ∀ i, ValidChannel ((run pwmStep demoPwmProbe ops).1 i) :=
  run_inv pwmStep (fun chs => ∀ i, ValidChannel (chs i)) (fun _ op h => pwmStep_valid h op)
    ops demoPwmProbe probe_valid

/-- **Every channel is valid in every reachable state.** Whatever the PWM core
calls, from probe on: each channel has a nonzero period and a duty cycle
within it, and an apply refused with `-EINVAL` changes nothing. -/
theorem pwm_channels_valid (ops : List PwmOp) :
    let chs := (run pwmStep demoPwmProbe ops).1
    (∀ i, ValidChannel (chs i)) ∧ ∀ hw state,
      (pwmStep chs (.apply hw state)).2 = .ret (-EINVAL) → (pwmStep chs (.apply hw state)).1 = chs :=
  ⟨run_valid ops, pwmStep_apply_rejected _⟩

/-! ### The duty percentage -/

theorem dutyPercent_toNat (ch : DemoPwmChannel) (h : 0 < ch.period.toNat) :
    (dutyPercent ch).toNat = ch.dutyCycle.toNat * 100 % 2 ^ 64 / ch.period.toNat := by
  rw [dutyPercent, if_pos (show (0 : UInt64) < ch.period from u64_lt_iff.mpr h), UInt64.toNat_div, u64_toNat_mul]
  rfl

/-- On a valid channel the percentage is at most 100, and exact while
`100 · duty` fits in a `u64`. -/
theorem dutyPercent_valid {ch : DemoPwmChannel} (h : ValidChannel ch) :
    (dutyPercent ch).toNat ≤ 100 ∧
      (100 * ch.dutyCycle.toNat < 2 ^ 64 → (dutyPercent ch).toNat = 100 * ch.dutyCycle.toNat / ch.period.toNat) := by
  rw [dutyPercent_toNat ch h.period_pos]
  refine ⟨Nat.div_le_of_le_mul ?_, fun hs => by rw [Nat.mul_comm, Nat.mod_eq_of_lt (by omega)]⟩
  calc ch.dutyCycle.toNat * 100 % 2 ^ 64 ≤ ch.dutyCycle.toNat * 100 := Nat.mod_le _ _
    _ ≤ ch.period.toNat * 100 := Nat.mul_le_mul_right _ h.duty_le

theorem mem_demoPwmDebugfsShow {chs : Channels} {row : PwmRow} (h : row ∈ demoPwmDebugfsShow chs) :
    ∃ i, row.period = (chs i).period ∧ row.dutyCycle = (chs i).dutyCycle ∧
      row.dutyPercent = dutyPercent (chs i) := by
  obtain ⟨i, rfl⟩ := List.mem_ofFn _ _ |>.mp h
  exact ⟨i, rfl, rfl, rfl⟩

/-- **The percentage the table shows.** In every reachable state each row's
percentage is at most 100, and it is `⌊100 · duty / period⌋` of that row as
long as `100 · duty < 2^64`. -/
theorem debugfs_show_percent (ops : List PwmOp) :
    ∀ row ∈ demoPwmDebugfsShow (run pwmStep demoPwmProbe ops).1, row.dutyPercent.toNat ≤ 100 ∧
      (100 * row.dutyCycle.toNat < 2 ^ 64 →
        row.dutyPercent.toNat = 100 * row.dutyCycle.toNat / row.period.toNat) := by
  intro row hrow
  obtain ⟨i, hp, hd, hq⟩ := mem_demoPwmDebugfsShow hrow
  rw [hp, hd, hq]
  exact dutyPercent_valid (run_valid ops i)

/-- A half duty cycle on channel 0 is shown as 50 %. -/
theorem debugfs_show_half_duty :
    let ops := [PwmOp.apply ⟨0, by decide⟩ ⟨1000000, 500000, .normal, true⟩]
    let row : PwmRow := ⟨0, 1000000, 500000, 50, "nor", "yes"⟩
    row ∈ demoPwmDebugfsShow (run pwmStep demoPwmProbe ops).1 ∧ 100 * row.dutyCycle.toNat < 2 ^ 64 ∧
      row.dutyPercent.toNat = 100 * row.dutyCycle.toNat / row.period.toNat :=
  have mem : (⟨0, 1000000, 500000, 50, "nor", "yes"⟩ : PwmRow) ∈ demoPwmDebugfsShow
      (run pwmStep demoPwmProbe [.apply ⟨0, by decide⟩ ⟨1000000, 500000, .normal, true⟩]).1 :=
    by decide
  ⟨mem, by decide, (debugfs_show_percent _ _ mem).2 (by decide)⟩

/-- From probe, apply period = duty = 2^63 to channel 0: the apply succeeds,
and the table shows 0 % for it where `⌊100 · duty / period⌋ = 100`. -/
theorem debugfs_show_percent_wraps :
    let state : PwmState := ⟨9223372036854775808, 9223372036854775808, .normal, true⟩
    let hw : Fin numChannels := ⟨0, by decide⟩
    let chs := (pwmStep demoPwmProbe (.apply hw state)).1
    (pwmStep demoPwmProbe (.apply hw state)).2 = .ret 0 ∧
      (demoPwmDebugfsShow chs).head?.map PwmRow.dutyPercent = some 0 ∧
      100 * (chs hw).dutyCycle.toNat / (chs hw).period.toNat = 100 :=
  ⟨rfl, rfl, rfl⟩

end Pwm
end DriverGuide
