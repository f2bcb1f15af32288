/-
# The sensor demos: simulated readings and their noise band

`part11/iio-adc/iio_adc_demo.c` and `part10/hwmon-driver/hwmon_demo.c`
simulate a reading as a stored value plus noise. The noise is made the same
way in the three places: a random word from `get_random_bytes` is taken
`% m` and `off` is taken away (`variation`). The ADC then clamps
`base + variation` to `[0, 4095]` (`demo_adc_read_channel`), the temperature
is `base + variation` (`simulate_temp`), and the fan speed is kept at 0 or
above (`simulate_fan`). The comments promise `±50` counts, `±1 °C` and
`±100 RPM`.

C's `%` takes the sign of the dividend, and the random word has either sign,
so `r % m` ranges over `[-(m - 1), m - 1]` and the noise over
`[-(m - 1) - off, m - 1 - off]` (`variation_mem`), every value of it reached
(`variation_of_mem`): `[-149, 49]` counts, `[-2999, 999]` millidegrees and
`[-299, 99]` RPM.

The ADC's channels are set only by `demo_adc_write_raw`, which keeps them in
`[0, 4096)` (`adcRun_valid`), so every raw reading of every reachable state is
in `[0, 4095]` and at most 149 below or 49 above the stored value
(`adc_read_in_band`). `demo_hwmon_write` never writes a temperature or the fan
speed (`hwmonRun_sensors`), so those stay the values `demo_hwmon_probe` gave
them and the readings are within the wider band around them
(`hwmon_read_in_band`). The promised bands are not kept: a reading 149 counts,
2999 millidegrees or 299 RPM below the stored value is possible
(`sensor_noise_exceeds_band`).

Key definitions: `variation`, `demoAdcReadChannel`, `demoAdcWriteRaw`,
`adcStep`, `simulateTemp`, `simulateFan`, `demoHwmonWrite`, `hwmonStep`.
Key theorems: `variation_mem`, `variation_of_mem`, `adcRun_valid`,
`adc_read_in_band`, `hwmonRun_sensors`, `hwmon_read_in_band`,
`sensor_noise_exceeds_band`.
-/
import DriverGuide.Basic

namespace DriverGuide
namespace Sensors

/-! ### The noise

`get_random_bytes(&variation, sizeof(variation))` fills the word with random
bits, so it may hold any value of its type; C's `%` is `Int.tmod`. -/

/-- `(variation % m) - off` on the random word `r`. -/
def variation (r m off : ℤ) : ℤ := r.tmod m - off

theorem tmod_neg_left (a b : ℤ) : (-a).tmod b = -a.tmod b := by
  rw [Int.tmod_def, Int.tmod_def, Int.neg_tdiv, Int.mul_neg]
  omega

/-- `r % m` lies strictly between `-m` and `m`, whatever the sign of `r`. -/
theorem tmod_mem (r : ℤ) {m : ℤ} (hm : 0 < m) : -m < r.tmod m ∧ r.tmod m < m := by
  rcases Int.le_total 0 r with h | h
  · exact ⟨by have := Int.tmod_nonneg m h; omega, Int.tmod_lt_of_pos r hm⟩
  · have h₁ := Int.tmod_lt_of_pos (-r) hm
    have h₂ := Int.tmod_nonneg m (Int.neg_nonneg_of_nonpos h)
    rw [tmod_neg_left] at h₁ h₂
    omega

/-- **The noise band**: `[-(m - 1) - off, m - 1 - off]`, for every word. -/
theorem variation_mem (r : ℤ) {m : ℤ} (hm : 0 < m) (off : ℤ) :
    -(m - 1) - off ≤ variation r m off ∧ variation r m off ≤ m - 1 - off := by
  have := tmod_mem r hm
  unfold variation
  omega

/-- A word below `m` in absolute value is its own remainder, so every value
of the band is the noise of some word. -/
theorem variation_of_mem {r m : ℤ} (h₀ : -m < r) (h₁ : r < m) (off : ℤ) :
    variation r m off = r - off := by
  unfold variation
  rcases Int.le_total 0 r with h | h
  · rw [Int.tmod_eq_of_lt h h₁]
  · have := Int.tmod_eq_of_lt (Int.neg_nonneg_of_nonpos h) (by omega : -r < m)
    rw [tmod_neg_left] at this
    omega

/-- `clamp(val, lo, hi)` of `linux/minmax.h`. -/
def clamp (val lo hi : ℤ) : ℤ := min (max val lo) hi

/-! ### The IIO ADC -/

/-- `NUM_CHANNELS`. -/
def numChannels : ℕ := 4

/-- `ADC_RESOLUTION`. -/
def adcResolution : ℕ := 12

/-- `VREF_MV`. -/
def vrefMv : ℤ := 3300

/-- `IIO_CHAN_INFO_RAW`, `IIO_CHAN_INFO_SCALE` and `IIO_CHAN_INFO_OFFSET` of
`enum iio_chan_info_enum`. -/
def iioChanInfoRaw : ℤ := 0
def iioChanInfoScale : ℤ := 2
def iioChanInfoOffset : ℤ := 3

/-- `IIO_VAL_INT` and `IIO_VAL_FRACTIONAL_LOG2`. -/
def iioValInt : ℤ := 1
def iioValFractionalLog2 : ℤ := 11

/-- `struct demo_adc` without the mutex, which every access takes; a channel
is the `channel` of one of `demo_adc_channels`, 0 to 3. -/
structure DemoAdc where
  scaleMv : ℤ
  channels : Fin numChannels → ℤ

/-- `demo_adc_probe`. -/
def demoAdcProbe : DemoAdc := ⟨vrefMv, ![2048, 4095, 1024, 0]⟩

/-- `demo_adc_read_channel(adc, channel)` with `w` the bytes
`get_random_bytes` gives the `int`. The sum is taken in `ℤ`: in a reachable
state it lies in `[-149, 4144]`. -/
def demoAdcReadChannel (adc : DemoAdc) (channel : Fin numChannels) (w : UInt32) : ℤ :=
  let base := adc.channels channel
  clamp (base + variation (int32 w.toNat) 100 50) 0 (2 ^ adcResolution - 1)

/-- `demo_adc_read_raw(indio_dev, chan, &val, &val2, mask)`: the return value
and what it stores in `*val` and `*val2`. -/
def demoAdcReadRaw (adc : DemoAdc) (channel : Fin numChannels) (mask : ℤ) (w : UInt32) :
    ℤ × Option ℤ × Option ℤ :=
  if mask = iioChanInfoRaw then (iioValInt, some (demoAdcReadChannel adc channel w), none)
  else if mask = iioChanInfoScale then (iioValFractionalLog2, some adc.scaleMv, some adcResolution)
  else if mask = iioChanInfoOffset then (iioValInt, some 0, none)
  else (-EINVAL, none, none)

/-- `demo_adc_write_raw(indio_dev, chan, val, val2, mask)`. -/
def demoAdcWriteRaw (adc : DemoAdc) (channel : Fin numChannels) (val : ℤ) (mask : ℤ) :
    DemoAdc × ℤ :=
  if mask ≠ iioChanInfoRaw then (adc, -EINVAL)
  else if val < 0 ∨ val ≥ 2 ^ adcResolution then (adc, -EINVAL)
  else ({ adc with channels := Function.update adc.channels channel val }, 0)

/-- A call into the driver through its `iio_info`; a read of a raw value
consumes a random word. -/
inductive AdcOp
  | readRaw (channel : Fin numChannels) (mask : ℤ) (w : UInt32)
  | writeRaw (channel : Fin numChannels) (val val2 : ℤ) (mask : ℤ)

def adcStep (adc : DemoAdc) : AdcOp → DemoAdc × ℤ × Option ℤ × Option ℤ
  | .readRaw channel mask w => (adc, demoAdcReadRaw adc channel mask w)
  | .writeRaw channel val _ mask =>
    let r := demoAdcWriteRaw adc channel val mask
    (r.1, r.2, none, none)

/-- Every channel holds a 12-bit count. -/
def AdcValid (adc : DemoAdc) : Prop :=
  ∀ channel, 0 ≤ adc.channels channel ∧ adc.channels channel < 2 ^ adcResolution

theorem adcValid_probe : AdcValid demoAdcProbe := by
  unfold AdcValid
  decide

/-- `demo_adc_write_raw` stores only values it has checked. -/
theorem adcStep_valid {adc : DemoAdc} (h : AdcValid adc) : ∀ op, AdcValid (adcStep adc op).1
  | .readRaw .. => h
  | .writeRaw channel val _ mask => by
    simp only [adcStep, demoAdcWriteRaw]
    split_ifs with h₁ h₂
    · exact h
    · exact h
    · intro c
      by_cases hc : c = channel
      · subst hc
        simp only [Function.update_same]
        omega
      · simpa only [Function.update_noteq hc] using h c

theorem adcRun_valid (ops : List AdcOp) : AdcValid (run adcStep demoAdcProbe ops).1 :=
  run_inv adcStep AdcValid (fun _ op h => adcStep_valid h op) ops _ adcValid_probe

/-- A reading is a 12-bit count, whatever the state. -/
theorem demoAdcReadChannel_mem (adc : DemoAdc) (channel : Fin numChannels) (w : UInt32) :
    0 ≤ demoAdcReadChannel adc channel w ∧ demoAdcReadChannel adc channel w ≤ 4095 := by
  unfold demoAdcReadChannel clamp
  simp only [adcResolution]
  omega

/-- A reading of a 12-bit count is at most 149 below it and 49 above it: the
clamp only moves the sum towards the count. -/
theorem demoAdcReadChannel_band {adc : DemoAdc} (h : AdcValid adc) (channel : Fin numChannels)
    (w : UInt32) :
    adc.channels channel - 149 ≤ demoAdcReadChannel adc channel w ∧
      demoAdcReadChannel adc channel w ≤ adc.channels channel + 49 := by
  have hv := variation_mem (int32 w.toNat) (by decide : (0 : ℤ) < 100) 50
  have hc := h channel
  unfold demoAdcReadChannel clamp
  simp only [adcResolution] at hc ⊢
  omega

/-- **ADC readings.** In every reachable state, every raw reading is a 12-bit
count, at most 149 below the channel's stored value and at most 49 above it. -/
theorem adc_read_in_band (ops : List AdcOp) (channel : Fin numChannels) (w : UInt32) :
    let adc := (run adcStep demoAdcProbe ops).1
    0 ≤ demoAdcReadChannel adc channel w ∧ demoAdcReadChannel adc channel w ≤ 4095 ∧
      adc.channels channel - 149 ≤ demoAdcReadChannel adc channel w ∧
      demoAdcReadChannel adc channel w ≤ adc.channels channel + 49 :=
  ⟨(demoAdcReadChannel_mem _ channel w).1, (demoAdcReadChannel_mem _ channel w).2,
    demoAdcReadChannel_band (adcRun_valid ops) channel w⟩

/-! ### The hwmon device -/

/-- `-EOPNOTSUPP`. -/
def EOPNOTSUPP : ℤ := 95

/-- `enum hwmon_sensor_types`. -/
inductive HwmonSensorTypes
  | hwmonChip
  | hwmonTemp
  | hwmonIn
  | hwmonCurr
  | hwmonPower
  | hwmonEnergy
  | hwmonHumidity
  | hwmonFan
  | hwmonPwm
  | hwmonIntrusion
  deriving DecidableEq, Repr

/-- The attributes the driver handles, numbered as in
`enum hwmon_temp_attributes`, `enum hwmon_in_attributes` and
`enum hwmon_fan_attributes`. -/
def hwmonTempInput : ℕ := 1
def hwmonTempMax : ℕ := 7
def hwmonTempCrit : ℕ := 9
def hwmonTempMaxAlarm : ℕ := 16
def hwmonTempCritAlarm : ℕ := 17
def hwmonInInput : ℕ := 1
def hwmonInMin : ℕ := 2
def hwmonInMax : ℕ := 3
def hwmonFanInput : ℕ := 1
def hwmonFanMin : ℕ := 3
def hwmonFanAlarm : ℕ := 8

/-- `struct demo_hwmon` without the labels, which only `read_string` reads;
each array of `long`s is indexed by the channel, which the hwmon core keeps
below the count `demo_hwmon_info` declares. -/
structure DemoHwmon where
  temp : ℕ → ℤ
  tempMax : ℕ → ℤ
  tempCrit : ℕ → ℤ
  voltage : ℕ → ℤ
  voltageMin : ℕ → ℤ
  voltageMax : ℕ → ℤ
  fanRpm : ℕ → ℤ
  fanMin : ℕ → ℤ

/-- An array of `long`s from `devm_kzalloc`: the entries given, zero after. -/
def longArray (xs : List ℤ) : ℕ → ℤ := fun i => xs.getD i 0

/-- `demo_hwmon_probe`. -/
def demoHwmonProbe : DemoHwmon where
  temp := longArray [45000, 55000]
  tempMax := longArray [80000, 85000]
  tempCrit := longArray [100000, 105000]
  voltage := longArray [3300, 5000]
  voltageMin := longArray [3135, 4750]
  voltageMax := longArray [3465, 5250]
  fanRpm := longArray [2500]
  fanMin := longArray [1000]

/-- `simulate_temp(hwmon, channel)` with `r` the random `long`. Every
theorem holds for every integer `r`, so for either width of `long`; in a
reachable state the sum lies in `[42001, 55999]`. -/
def simulateTemp (hwmon : DemoHwmon) (channel : ℕ) (r : ℤ) : ℤ :=
  hwmon.temp channel + variation r 2000 1000

/-- `simulate_fan(hwmon, channel)` with `r` the random `long`. -/
def simulateFan (hwmon : DemoHwmon) (channel : ℕ) (r : ℤ) : ℤ :=
  max 0 (hwmon.fanRpm channel + variation r 200 100)

/-- `demo_hwmon_read(dev, type, attr, channel, &val)`: the return value and
what it stores in `*val`. An alarm is `1` or `0`. -/
def demoHwmonRead (hwmon : DemoHwmon) (type : HwmonSensorTypes) (attr channel : ℕ) (r : ℤ) :
    ℤ × Option ℤ :=
  match type with
  | .hwmonTemp =>
    if attr = hwmonTempInput then (0, some (simulateTemp hwmon channel r))
    else if attr = hwmonTempMax then (0, some (hwmon.tempMax channel))
    else if attr = hwmonTempCrit then (0, some (hwmon.tempCrit channel))
    else if attr = hwmonTempMaxAlarm then
      (0, some (if simulateTemp hwmon channel r > hwmon.tempMax channel then 1 else 0))
    else if attr = hwmonTempCritAlarm then
      (0, some (if simulateTemp hwmon channel r > hwmon.tempCrit channel then 1 else 0))
    else (-EOPNOTSUPP, none)
  | .hwmonIn =>
    if attr = hwmonInInput then (0, some (hwmon.voltage channel))
    else if attr = hwmonInMin then (0, some (hwmon.voltageMin channel))
    else if attr = hwmonInMax then (0, some (hwmon.voltageMax channel))
    else (-EOPNOTSUPP, none)
  | .hwmonFan =>
    if attr = hwmonFanInput then (0, some (simulateFan hwmon channel r))
    else if attr = hwmonFanMin then (0, some (hwmon.fanMin channel))
    else if attr = hwmonFanAlarm then
      (0, some (if simulateFan hwmon channel r < hwmon.fanMin channel then 1 else 0))
    else (-EOPNOTSUPP, none)
  | _ => (-EOPNOTSUPP, none)

/-- `demo_hwmon_write(dev, type, attr, channel, val)`. -/
def demoHwmonWrite (hwmon : DemoHwmon) (type : HwmonSensorTypes) (attr channel : ℕ) (val : ℤ) :
    DemoHwmon × ℤ :=
  match type with
  | .hwmonTemp =>
    if attr = hwmonTempMax then ({ hwmon with tempMax := Function.update hwmon.tempMax channel val }, 0)
    else if attr = hwmonTempCrit then
      ({ hwmon with tempCrit := Function.update hwmon.tempCrit channel val }, 0)
    else (hwmon, -EOPNOTSUPP)
  | .hwmonIn =>
    if attr = hwmonInMin then
      ({ hwmon with voltageMin := Function.update hwmon.voltageMin channel val }, 0)
    else if attr = hwmonInMax then
      ({ hwmon with voltageMax := Function.update hwmon.voltageMax channel val }, 0)
    else (hwmon, -EOPNOTSUPP)
  | .hwmonFan =>
    if attr = hwmonFanMin then ({ hwmon with fanMin := Function.update hwmon.fanMin channel val }, 0)
    else (hwmon, -EOPNOTSUPP)
  | _ => (hwmon, -EOPNOTSUPP)

/-- A call through `demo_hwmon_ops`; a read consumes a random `long`. -/
inductive HwmonOp
  | read (type : HwmonSensorTypes) (attr channel : ℕ) (r : ℤ)
  | write (type : HwmonSensorTypes) (attr channel : ℕ) (val : ℤ)

def hwmonStep (hwmon : DemoHwmon) : HwmonOp → DemoHwmon × ℤ × Option ℤ
  | .read type attr channel r => (hwmon, demoHwmonRead hwmon type attr channel r)
  | .write type attr channel val =>
    let w := demoHwmonWrite hwmon type attr channel val
    (w.1, w.2, none)

/-- The simulated sensors themselves are never written. -/
theorem hwmonStep_sensors (hwmon : DemoHwmon) :
    ∀ op, (hwmonStep hwmon op).1.temp = hwmon.temp ∧ (hwmonStep hwmon op).1.fanRpm = hwmon.fanRpm
  | .read .. => ⟨rfl, rfl⟩
  | .write type attr channel val => by
    simp only [hwmonStep, demoHwmonWrite]
    split <;> (try split_ifs) <;> exact ⟨rfl, rfl⟩

theorem hwmonRun_sensors (ops : List HwmonOp) :
    (run hwmonStep demoHwmonProbe ops).1.temp = demoHwmonProbe.temp ∧
      (run hwmonStep demoHwmonProbe ops).1.fanRpm = demoHwmonProbe.fanRpm :=
  run_inv hwmonStep (fun s => s.temp = demoHwmonProbe.temp ∧ s.fanRpm = demoHwmonProbe.fanRpm)
    (fun s op h => ⟨(hwmonStep_sensors s op).1.trans h.1, (hwmonStep_sensors s op).2.trans h.2⟩)
    ops _ ⟨rfl, rfl⟩

/-- **hwmon readings.** In every reachable state, for every random `long`, a
temperature reading is within `[-2999, 999]` millidegrees of the value
`demo_hwmon_probe` set, and a fan reading is at most 299 RPM below that
value (but not below 0) and at most 99 above it. -/
theorem hwmon_read_in_band (ops : List HwmonOp) (channel : ℕ) (r : ℤ) :
    let hwmon := (run hwmonStep demoHwmonProbe ops).1
    demoHwmonProbe.temp channel - 2999 ≤ simulateTemp hwmon channel r ∧
      simulateTemp hwmon channel r ≤ demoHwmonProbe.temp channel + 999 ∧
      max 0 (demoHwmonProbe.fanRpm channel - 299) ≤ simulateFan hwmon channel r ∧
      simulateFan hwmon channel r ≤ max 0 (demoHwmonProbe.fanRpm channel + 99) := by
  intro hwmon
  obtain ⟨ht, hf⟩ := hwmonRun_sensors ops
  have hT := variation_mem r (by decide : (0 : ℤ) < 2000) 1000
  have hF := variation_mem r (by decide : (0 : ℤ) < 200) 100
  simp only [simulateTemp, simulateFan, hwmon, ht, hf]
  omega

/-- The promised bands are not kept: from the state `demo_hwmon_probe` and
`demo_adc_probe` set up, the word `-99` makes channel 0 of the ADC read 149
counts low, the `long` `-1999` makes temperature 0 read 2999 millidegrees
low, and `-199` makes the fan read 299 RPM low. And for every `m` and `off`,
every value of `[-(m - 1) - off, m - 1 - off]` is the noise of some word. -/
theorem sensor_noise_exceeds_band :
    int32 (4294967197 : UInt32).toNat = -99 ∧
      demoAdcProbe.channels ⟨0, by decide⟩ - demoAdcReadChannel demoAdcProbe ⟨0, by decide⟩ 4294967197 =
        149 ∧
      demoHwmonProbe.temp 0 - simulateTemp demoHwmonProbe 0 (-1999) = 2999 ∧
      demoHwmonProbe.fanRpm 0 - simulateFan demoHwmonProbe 0 (-199) = 299 ∧
      ∀ m off v : ℤ, -(m - 1) - off ≤ v → v ≤ m - 1 - off → variation (v + off) m off = v := by
  refine ⟨by decide, by decide, by decide, by decide, fun m off v h₀ h₁ => ?_⟩
  rw [variation_of_mem (by omega) (by omega), Int.add_sub_cancel]

end Sensors
end DriverGuide
