/-
# Text attributes read back what they show

Three examples expose driver state as text files. `sysfs_demo.c` (appendix)
has `value`, any `int`, shown with `%d` and stored with `kstrtoint(buf, 0)`,
and `status`, which counts its own reads. `platform_driver_demo.c` (part 6)
has `value`, from 0 to 1000 (`kstrtoint(buf, 10)`), `mode`, one of `idle`,
`active` and `sleep` (`sysfs_streq`), `enabled` (`kstrtobool`), and three
read-only attributes of its variant. `params.c` (part 2) has the module
parameter `validated`, from 0 to 100.

Writing back what a show printed, as `cat attr > attr` does, is accepted
and changes nothing, in every state the device reaches by reads and writes:
in `sysfs_demo`, where the value is any `int` (`sysfs_value_round_trip`;
base 0 reads the printed `0` as octal, which is 0 all the same), and in the
other two, where every store keeps the value in range and a refused one
changes nothing (`PlatformInv.step`), so that `mode_show` never takes its
`-EINVAL` branch (`platform_demo_attributes`, `validated_param_round_trip`).

`platform_demo_probe` is modelled with its error paths: whatever the
allocation and the clock calls return, a probe that succeeds starts the
device in range (`platformDemoProbe_ok`). Not covered: its `ioremap` handling,
which only logs a failure, and the power-management callbacks, which touch
no attribute; `variant_show`,
`max_channels_show` and `has_dma_show`, which print constants of the
variant; the standard `module_param`s of `params.c`, whose text the kernel's
`param_ops_*` handle; the registration code of the three modules.

Key definitions: `sysfsStreq`, `kstrtobool`, `intLine`, `sysfsStep`,
`PlatformDemoDevice`, `platformStep`, `validatedParamSet`.
Key theorems: `kstrtoint_intLine`, `sysfs_value_round_trip`,
`PlatformInv.step`, `PlatformInv.round_trip`, `platform_demo_attributes`,
`validated_param_round_trip`.
-/
import DriverGuide.Basic

namespace DriverGuide
namespace Attributes

/-! ### Reading text

A store gets the bytes written, which the sysfs core ends with a NUL; the
parsers read the C string they hold. -/

/-- `sysfs_streq(s1, s2)` (`lib/string.c`): equal strings, or equal but for
one trailing newline on either side. -/
def sysfsStreq : List UInt8 → List UInt8 → Bool
  | c :: s₁, d :: s₂ => if c = d then sysfsStreq s₁ s₂ else false
  | [], s₂ => s₂ = [] ∨ s₂ = [10]
  | s₁, [] => s₁ = [10]

/-- `kstrtobool(s, &res)` (`lib/kstrtox.c`): `y`, `t`, `1` or `on` for true,
`n`, `f`, `0` or `off` for false, in either case; the first one or two
bytes decide. -/
def kstrtobool (s : List UInt8) : Except ℤ Bool :=
  match s with
  | c :: rest =>
    if c = 121 ∨ c = 89 ∨ c = 116 ∨ c = 84 ∨ c = 49 then .ok true
    else if c = 110 ∨ c = 78 ∨ c = 102 ∨ c = 70 ∨ c = 48 then .ok false
    else if c = 111 ∨ c = 79 then
      match rest.head? with
      | some d => if d = 110 ∨ d = 78 then .ok true else if d = 102 ∨ d = 70 then .ok false
        else .error (-EINVAL)
      | none => .error (-EINVAL)
    else .error (-EINVAL)
  | [] => .error (-EINVAL)

/-- What `%d\n` prints for an `int`: its bytes. -/
def intLine (v : ℤ) : List UInt8 := asciiBytes (toString v ++ "\n")

theorem intLine_eq (v : ℤ) : intLine v = asciiBytes (toString v) ++ [10] := List.map_append _ _ _

/-- `kstrtoint` in base 0 or 10 reads back `%d\n`. -/
theorem kstrtoint_intLine {v : ℤ} (h₀ : -2 ^ 31 ≤ v) (h₁ : v < 2 ^ 31) {base : ℕ}
    (hb : base = 0 ∨ base = 10) : kstrtoint (cString (intLine v)) base = .ok v := by
  obtain ⟨-, h0, -⟩ := int_digits h₀ h₁
  rw [cString_of_ne_zero (by simpa [intLine_eq] using h0), intLine_eq]
  exact kstrtoint_toString h₀ h₁ hb (.inr rfl)

/-! ### `sysfs_demo.c` -/

/-- `struct sysfs_demo`. -/
structure SysfsDemo where
  value : ℤ
  accessCount : ℤ

/-- After `sysfs_demo_probe`: `devm_kzalloc`, then `value = 42`. -/
def sysfsDemoProbe : SysfsDemo := ⟨42, 0⟩

/-- `status_show`: counts the read, then prints both fields. -/
def statusShow (d : SysfsDemo) : SysfsDemo × List UInt8 :=
  let d := { d with accessCount := intInc d.accessCount }
  (d, asciiBytes ("value=" ++ toString d.value ++ " accesses=" ++ toString d.accessCount ++ "\n"))

/-- `value_show`. -/
def valueShow (d : SysfsDemo) : List UInt8 := intLine d.value

/-- `value_store`: `kstrtoint(buf, 0, &demo->value)` writes the value only
when it succeeds. -/
def valueStore (d : SysfsDemo) (buf : List UInt8) : SysfsDemo × ℤ :=
  match kstrtoint (cString buf) 0 with
  | .ok v => ({ d with value := v }, buf.length)
  | .error e => (d, e)

/-- A read of `status` or `value`, or a write of `value`. -/
inductive SysfsOp
  | status
  | value
  | store (buf : List UInt8)

/-- One call: the device, the return value and the text shown. -/
def sysfsStep (d : SysfsDemo) : SysfsOp → SysfsDemo × ℤ × List UInt8
  | .status => ((statusShow d).1, (statusShow d).2.length, (statusShow d).2)
  | .value => (d, (valueShow d).length, valueShow d)
  | .store buf => ((valueStore d buf).1, (valueStore d buf).2, [])

/-- The value is an `int`: `kstrtoint` stores nothing else. -/
def ValueInt (d : SysfsDemo) : Prop := -2 ^ 31 ≤ d.value ∧ d.value < 2 ^ 31

theorem valueInt_step {d : SysfsDemo} (h : ValueInt d) : ∀ op, ValueInt (sysfsStep d op).1
  | .status => h
  | .value => h
  | .store buf => by
    simp only [sysfsStep, valueStore]
    split
    · exact kstrtoint_mem ‹_›
    · exact h

/-- **`sysfs_demo`'s `value` reads back.** After any reads and writes,
writing back what `value_show` prints returns the count and leaves the device
as it was: `kstrtoint` in base 0 takes the printed decimal as decimal, and
the `0` it takes as octal is 0 all the same. -/
theorem sysfs_value_round_trip (ops : List SysfsOp) :
    let d := (run sysfsStep sysfsDemoProbe ops).1
    valueStore d (valueShow d) = (d, ((valueShow d).length : ℤ)) := by
  have h := run_inv sysfsStep ValueInt (fun d op hd => valueInt_step hd op) ops sysfsDemoProbe
    ⟨by decide, by decide⟩
  simp only [valueStore, valueShow, kstrtoint_intLine h.1 h.2 (.inl rfl)]

/-! ### `platform_driver_demo.c` -/

/-- `struct platform_demo_variant`. -/
structure PlatformDemoVariant where
  name : String
  maxChannels : ℕ
  hasDma : Bool

def variantBasic : PlatformDemoVariant := ⟨"basic", 2, false⟩

def variantAdvanced : PlatformDemoVariant := ⟨"advanced", 8, true⟩

/-- `struct platform_demo_device` without the device, the registers and the
clock. -/
structure PlatformDemoDevice where
  variant : PlatformDemoVariant
  value : ℤ
  mode : ℤ
  enabled : Bool
  channelCount : ℕ

/-- What `devm_clk_get_optional(dev, "main")` returns: an error pointer, `NULL`
when the device has no such clock, or a clock. -/
inductive ClkGet
  | err (e : ℤ)
  | none
  | clk

/-- The answers `platform_demo_probe` gets from the kernel: whether
`devm_kzalloc` succeeds, the clock lookup, and the return values of
`clk_prepare_enable` and `devm_add_action_or_reset`. -/
structure ProbeEnv where
  alloc : Bool
  clk : ClkGet
  prepareEnable : ℤ
  addAction : ℤ

/-- `platform_demo_probe`, given the variant the match found (the device
tree's data, else the ID table's): `-ENODEV` without one, `-ENOMEM` when the
allocation fails, and the clock calls' errors (`dev_err_probe` returns the
error it is given). A failed `devm_ioremap_resource` is only logged. -/
def platformDemoProbe (variant : Option PlatformDemoVariant) (env : ProbeEnv) :
    Except ℤ PlatformDemoDevice :=
  match variant with
  | none => .error (-ENODEV)
  | some v =>
    if !env.alloc then .error (-ENOMEM)
    else
      let demo : PlatformDemoDevice := ⟨v, 100, 0, true, v.maxChannels⟩
      match env.clk with
      | .err e => .error e
      | .none => .ok demo
      | .clk =>
        if env.prepareEnable ≠ 0 then .error env.prepareEnable
        else if env.addAction ≠ 0 then .error env.addAction
        else .ok demo

/-- `value_show`. -/
def platformValueShow (d : PlatformDemoDevice) : List UInt8 := intLine d.value

/-- `value_store`: `-EINVAL` for what `kstrtoint(buf, 10)` refuses and for a
value outside `[0, 1000]`. -/
def platformValueStore (d : PlatformDemoDevice) (buf : List UInt8) : PlatformDemoDevice × ℤ :=
  match kstrtoint (cString buf) 10 with
  | .ok v => if v < 0 ∨ v > 1000 then (d, -EINVAL) else ({ d with value := v }, buf.length)
  | .error _ => (d, -EINVAL)

/-- The names `mode_show` prints. -/
def modes : List String := ["idle", "active", "sleep"]

/-- `mode_show`: `-EINVAL` when the `int` mode, compared as a `size_t`, is
not an index of `modes`. -/
def modeShow (d : PlatformDemoDevice) : Except ℤ (List UInt8) :=
  if toSizeT d.mode ≥ modes.length then .error (-EINVAL)
  else .ok (asciiBytes (modes.getD (toSizeT d.mode) "" ++ "\n"))

/-- `mode_store`. -/
def modeStore (d : PlatformDemoDevice) (buf : List UInt8) : PlatformDemoDevice × ℤ :=
  let s := cString buf
  if sysfsStreq s (asciiBytes "idle") then ({ d with mode := 0 }, buf.length)
  else if sysfsStreq s (asciiBytes "active") then ({ d with mode := 1 }, buf.length)
  else if sysfsStreq s (asciiBytes "sleep") then ({ d with mode := 2 }, buf.length)
  else (d, -EINVAL)

/-- `enabled_show`: a `bool` printed with `%d`. -/
def enabledShow (d : PlatformDemoDevice) : List UInt8 := intLine (if d.enabled then 1 else 0)

/-- `enabled_store`: `-EINVAL` for what `kstrtobool` refuses. -/
def enabledStore (d : PlatformDemoDevice) (buf : List UInt8) : PlatformDemoDevice × ℤ :=
  match kstrtobool (cString buf) with
  | .ok v => ({ d with enabled := v }, buf.length)
  | .error _ => (d, -EINVAL)

/-- A store to one of the writable attributes. -/
inductive PlatformStore
  | value (buf : List UInt8)
  | mode (buf : List UInt8)
  | enabled (buf : List UInt8)

def platformStep (d : PlatformDemoDevice) : PlatformStore → PlatformDemoDevice × ℤ
  | .value buf => platformValueStore d buf
  | .mode buf => modeStore d buf
  | .enabled buf => enabledStore d buf

/-- The ranges the stores keep. -/
structure PlatformInv (d : PlatformDemoDevice) : Prop where
  value : 0 ≤ d.value ∧ d.value ≤ 1000
  mode : 0 ≤ d.mode ∧ d.mode < 3

/-- A probe that succeeds found a variant and starts the device with value
100, mode `idle`, enabled, and the variant's channels. -/
theorem platformDemoProbe_ok {variant : Option PlatformDemoVariant} {env : ProbeEnv}
    {d : PlatformDemoDevice} (h : platformDemoProbe variant env = .ok d) :
    ∃ v, variant = some v ∧ d = ⟨v, 100, 0, true, v.maxChannels⟩ := by
  obtain ⟨alloc, c, pe, aa⟩ := env
  cases variant with
  | none => cases h
  | some v =>
    refine ⟨v, rfl, ?_⟩
    cases alloc <;> cases c <;> simp only [platformDemoProbe] at h <;> split_ifs at h <;>
      cases h <;> rfl

theorem platformInv_probe {variant : Option PlatformDemoVariant} {env : ProbeEnv}
    {d : PlatformDemoDevice} (h : platformDemoProbe variant env = .ok d) : PlatformInv d := by
  obtain ⟨v, -, rfl⟩ := platformDemoProbe_ok h
  exact ⟨by norm_num, by norm_num⟩

/-- **Every store keeps the ranges**: what passes a check is in range, and
what fails it changes nothing. -/
theorem PlatformInv.step {d : PlatformDemoDevice} (h : PlatformInv d) :
    ∀ op, PlatformInv (platformStep d op).1
  | .value buf => by
    simp only [platformStep, platformValueStore]
    split
    · split_ifs with hv
      · exact h
      · exact { h with value := by dsimp only; omega }
    · exact h
  | .mode buf => by
    simp only [platformStep, modeStore]
    split_ifs <;> first | exact h | exact ⟨h.value, by norm_num⟩
  | .enabled buf => by
    simp only [platformStep, enabledStore]
    split
    exacts [⟨h.value, h.mode⟩, h]

/-- The mode's line, for a mode in range. -/
theorem modeShow_of_inv {d : PlatformDemoDevice} (h : PlatformInv d) :
    modeShow d = .ok (asciiBytes (modes.getD d.mode.toNat "" ++ "\n")) := by
  obtain ⟨h0, h3⟩ := h.mode
  have hs : toSizeT d.mode = d.mode.toNat := by
    unfold toSizeT; rw [Int.emod_eq_of_lt h0 (by omega)]
  simp only [modeShow, hs, modes, List.length_cons, List.length_nil]
  rw [if_neg (by omega)]

/-- Writing back a show's text, for the three writable attributes. -/
theorem PlatformInv.round_trip {d : PlatformDemoDevice} (h : PlatformInv d) :
    platformValueStore d (platformValueShow d) = (d, ((platformValueShow d).length : ℤ)) ∧
      (∀ t, modeShow d = .ok t → modeStore d t = (d, (t.length : ℤ))) ∧
      enabledStore d (enabledShow d) = (d, ((enabledShow d).length : ℤ)) := by
  obtain ⟨hv0, hv1⟩ := h.value
  obtain ⟨hm0, hm3⟩ := h.mode
  refine ⟨?_, fun t ht => ?_, ?_⟩
  · simp only [platformValueStore, platformValueShow,
      kstrtoint_intLine (v := d.value) (by omega) (by omega) (.inr rfl)]
    rw [if_neg (by omega)]
  · rw [modeShow_of_inv h] at ht
    cases ht
    obtain ⟨v, val, m, en, cc⟩ := d
    obtain rfl | rfl | rfl : m = 0 ∨ m = 1 ∨ m = 2 := by dsimp only at hm0 hm3; omega
    all_goals rfl
  · obtain ⟨v, val, m, en, cc⟩ := d
    cases en <;> rfl

/-- **`platform_demo`'s attributes keep their ranges and read back.**
Whatever the allocation and the clock calls return, a probe that succeeds
starts the device with value 100 and mode `idle`; over every sequence of
stores to `value`, `mode` and `enabled` after it the value stays in
`[0, 1000]` and `mode_show` never returns `-EINVAL`; writing back what
`value_show`, `mode_show` or `enabled_show` printed returns the count and
changes nothing. -/
theorem platform_demo_attributes (variant : Option PlatformDemoVariant) (env : ProbeEnv)
    (d₀ : PlatformDemoDevice) (hprobe : platformDemoProbe variant env = .ok d₀)
    (ops : List PlatformStore) :
    d₀.value = 100 ∧ d₀.mode = 0 ∧
      let d := (run platformStep d₀ ops).1
      (0 ≤ d.value ∧ d.value ≤ 1000) ∧
        (∃ t, modeShow d = .ok t ∧ modeStore d t = (d, (t.length : ℤ))) ∧
        platformValueStore d (platformValueShow d) = (d, ((platformValueShow d).length : ℤ)) ∧
        enabledStore d (enabledShow d) = (d, ((enabledShow d).length : ℤ)) := by
  obtain ⟨v, -, rfl⟩ := platformDemoProbe_ok hprobe
  have h := run_inv platformStep PlatformInv (fun d op hd => hd.step op) ops _ (platformInv_probe hprobe)
  obtain ⟨hv, hm, he⟩ := h.round_trip
  exact ⟨rfl, rfl, h.value, ⟨_, modeShow_of_inv h, hm _ (modeShow_of_inv h)⟩, hv, he⟩

/-- The basic variant with a clock that enables: the probe succeeds, and a
store of `sleep` to `mode` reads back. -/
theorem platform_probe_clock_sleep :
    let env : ProbeEnv := ⟨true, .clk, 0, 0⟩
    let d₀ : PlatformDemoDevice := ⟨variantBasic, 100, 0, true, 2⟩
    platformDemoProbe (some variantBasic) env = .ok d₀ ∧
      (run platformStep d₀ [.mode (asciiBytes "sleep\n")]).1.mode = 2 ∧
      (d₀.value = 100 ∧ d₀.mode = 0 ∧
        let d := (run platformStep d₀ [.mode (asciiBytes "sleep\n")]).1
        (0 ≤ d.value ∧ d.value ≤ 1000) ∧
          (∃ t, modeShow d = .ok t ∧ modeStore d t = (d, (t.length : ℤ))) ∧
          platformValueStore d (platformValueShow d) = (d, ((platformValueShow d).length : ℤ)) ∧
          enabledStore d (enabledShow d) = (d, ((enabledShow d).length : ℤ))) :=
  have hprobe : platformDemoProbe (some variantBasic) ⟨true, .clk, 0, 0⟩ =
      .ok ⟨variantBasic, 100, 0, true, 2⟩ := rfl
  ⟨hprobe, by decide, platform_demo_attributes _ _ _ hprobe _⟩

/-! ### `params.c` -/

/-- `validated_param_set(val, kp)`: the parameter and the return value;
`kstrtoint`'s error, or `-EINVAL` outside `[0, 100]`, leaves it. -/
def validatedParamSet (p : ℤ) (val : List UInt8) : ℤ × ℤ :=
  match kstrtoint (cString val) 10 with
  | .error e => (p, e)
  | .ok v => if v < 0 ∨ v > 100 then (p, -EINVAL) else (v, 0)

/-- `validated_param_get`: `sprintf(buf, "%d\n", validated_param)`. -/
def validatedParamGet (p : ℤ) : List UInt8 := intLine p

theorem validatedParamSet_mem {p : ℤ} (h : 0 ≤ p ∧ p ≤ 100) (val : List UInt8) :
    0 ≤ (validatedParamSet p val).1 ∧ (validatedParamSet p val).1 ≤ 100 := by
  unfold validatedParamSet
  split
  · exact h
  · split_ifs with hv
    · exact h
    · dsimp only; omega

/-- **`validated` stays in range and reads back.** From its default 50,
over every sequence of writes to `/sys/module/params/parameters/validated`,
the parameter stays in `[0, 100]`, and writing back what a read printed
succeeds and keeps it. -/
theorem validated_param_round_trip (vals : List (List UInt8)) :
    (0 ≤ (run validatedParamSet 50 vals).1 ∧ (run validatedParamSet 50 vals).1 ≤ 100) ∧
      validatedParamSet (run validatedParamSet 50 vals).1
        (validatedParamGet (run validatedParamSet 50 vals).1) = ((run validatedParamSet 50 vals).1, 0) := by
  have h := run_inv validatedParamSet (fun p => 0 ≤ p ∧ p ≤ 100)
    (fun p val hp => validatedParamSet_mem hp val) vals 50 ⟨by decide, by decide⟩
  refine ⟨h, ?_⟩
  simp only [validatedParamSet, validatedParamGet,
    kstrtoint_intLine (by linarith [h.1]) (by linarith [h.2]) (.inr rfl)]
  rw [if_neg (by omega)]

end Attributes
end DriverGuide
