/-
# The pm_demo `data` attribute: values above `INT_MAX` do not come back

`part16/pm-driver/pm_demo.c` keeps one `u32`, `saved_data`, behind the sysfs
attribute `data`. `data_store` parses the text with `kstrtou32(buf, 0, ...)`
and hands the value to `pm_demo_hw_write`; `data_show` gets it back from
`pm_demo_hw_read`, whose return type is `int`, and prints it with `"%d\n"`.
Both take a runtime-PM reference first and fail with its error.

The value and the error share that `int`: a stored `v` comes back as the
32-bit two's complement reading of `v`. The steps between a store and the next
show that are not stores (runtime and system PM callbacks, `status` reads,
failed stores) keep `saved_data` (`pmStep_savedData`), so the next
successful show prints `v` exactly when `v < 2^31`, and otherwise fails with
the negative number `v - 2^32` (`data_show_after_store`): after
`echo 4294967295 > data`, reading `data` fails with `-1`, `-EPERM`
(`data_store_show_loses_u32_max`).

Not covered: the runtime-PM core itself. A call's `pm_runtime_get_sync`
result, and the runtime status `status_show` prints, are inputs.

Key definitions: `pmDemoHwRead`, `pmDemoHwWrite`, `dataShow`, `dataStore`,
`pmStep`.
Key theorems: `pmStep_savedData`, `data_show_after_store`,
`data_store_show_loses_u32_max`.
-/
import DriverGuide.Basic

namespace DriverGuide
namespace PmDemo

/-! ### The driver -/

/-- `struct pm_demo_dev` without the device pointer. -/
structure PmDemoDev where
  powered : Bool
  accessCount : ℤ
  savedData : UInt32

/-- `pm_demo_probe`: powered, and the initial value 42. -/
def pmDemoProbe : PmDemoDev := ⟨true, 0, 42⟩

/-- `access_count++` on an `int`. -/
def nextAccess (dev : PmDemoDev) : ℤ := int32 ((dev.accessCount + 1) % 2 ^ 32).toNat

/-- `pm_demo_hw_read(pmdev)`; `ret` is what `pm_runtime_get_sync` returned,
and a success leaves the device resumed. The `u32` goes back as the `int`
return value. -/
def pmDemoHwRead (dev : PmDemoDev) (ret : ℤ) : PmDemoDev × ℤ :=
  if ret < 0 then (dev, ret)
  else ({ dev with powered := true, accessCount := nextAccess dev }, int32 dev.savedData.toNat)

/-- `pm_demo_hw_write(pmdev, value)`. -/
def pmDemoHwWrite (dev : PmDemoDev) (value : UInt32) (ret : ℤ) : PmDemoDev × ℤ :=
  if ret < 0 then (dev, ret)
  else ({ dev with powered := true, savedData := value, accessCount := nextAccess dev }, 0)

/-- The bytes `sysfs_emit(buf, "%d\n", val)` writes. -/
def emitInt (val : ℤ) : List UInt8 := asciiBytes (toString val ++ "\n")

/-- `data_show`: the return value and the bytes emitted. -/
def dataShow (dev : PmDemoDev) (ret : ℤ) : PmDemoDev × ℤ × List UInt8 :=
  let r := pmDemoHwRead dev ret
  if r.2 < 0 then (r.1, r.2, []) else (r.1, (emitInt r.2).length, emitInt r.2)

/-- `data_store` of the `count` bytes `buf`, which sysfs ends with a NUL. -/
def dataStore (dev : PmDemoDev) (buf : List UInt8) (count : ℕ) (ret : ℤ) : PmDemoDev × ℤ :=
  match kstrtou32 (cString buf) 0 with
  | .error e => (dev, e)
  | .ok v =>
    let r := pmDemoHwWrite dev v.toUInt32 ret
    if r.2 ≠ 0 then r else (r.1, count)

/-- The bytes `status_show` emits; `active` is `pm_runtime_active(dev)`. -/
def statusShow (dev : PmDemoDev) (active : Bool) : List UInt8 :=
  asciiBytes ("powered: " ++ (if dev.powered then "yes" else "no") ++ "\naccesses: " ++
    toString dev.accessCount ++ "\nruntime_status: " ++
    (if active then "active" else "suspended") ++ "\n")

/-! ### Runs

The sysfs reads and writes, and the PM callbacks the core runs in between.
The system sleep callbacks only log. -/

inductive PmOp
  | dataShow (ret : ℤ)
  | dataStore (buf : List UInt8) (count : ℕ) (ret : ℤ)
  | statusShow (active : Bool)
  | runtimeSuspend
  | runtimeResume
  | suspend
  | resume

def PmOp.isStore : PmOp → Bool
  | .dataStore _ _ _ => true
  | _ => false

/-- One step: the state, the value returned and the bytes emitted. -/
def pmStep (dev : PmDemoDev) : PmOp → PmDemoDev × ℤ × List UInt8
  | .dataShow ret => dataShow dev ret
  | .dataStore buf count ret => let r := dataStore dev buf count ret; (r.1, r.2, [])
  | .statusShow active =>
    let t := statusShow dev active
    (dev, t.length, t)
  | .runtimeSuspend => ({ dev with powered := false }, 0, [])
  | .runtimeResume => ({ dev with powered := true }, 0, [])
  | .suspend | .resume => (dev, 0, [])

/-! ### The value a show returns

`saved_data` changes only in a store; the show prints the two's complement
reading of it. -/

theorem pmStep_savedData (dev : PmDemoDev) :
    ∀ op : PmOp, op.isStore = false → (pmStep dev op).1.savedData = dev.savedData
  | .dataShow ret, _ => by
    simp only [pmStep, dataShow, pmDemoHwRead]
    split_ifs <;> rfl
  | .statusShow _, _ | .runtimeSuspend, _ | .runtimeResume, _ | .suspend, _ | .resume, _ => rfl

theorem savedData_run (dev : PmDemoDev) (ops : List PmOp) (h : ∀ op ∈ ops, op.isStore = false) :
    (run pmStep dev ops).1.savedData = dev.savedData :=
  run_inv_of_inputs pmStep (fun op => op.isStore = false) (fun d => d.savedData = dev.savedData)
    (fun d op hop hd => (pmStep_savedData d op hop).trans hd) ops dev h rfl

/-- A store whose text parses to `v` and whose runtime-PM reference is taken
saves `v` and returns `count`. -/
theorem pmStep_dataStore_ok (dev : PmDemoDev) {buf : List UInt8} {v : ℕ}
    (hv : kstrtou32 (cString buf) 0 = .ok v) (count : ℕ) {ret : ℤ} (hr : 0 ≤ ret) :
    pmStep dev (.dataStore buf count ret) =
      ({ dev with powered := true, savedData := v.toUInt32, accessCount := nextAccess dev },
        (count : ℤ), []) := by
  simp only [pmStep, dataStore, hv, pmDemoHwWrite, if_neg (Int.not_lt.mpr hr)]
  rfl

theorem dataShow_eq (dev : PmDemoDev) {ret : ℤ} (hr : 0 ≤ ret) :
    (pmStep dev (.dataShow ret)).2 =
      if dev.savedData.toNat < 2 ^ 31 then
        (((emitInt dev.savedData.toNat).length : ℤ), emitInt dev.savedData.toNat)
      else ((dev.savedData.toNat : ℤ) - 2 ^ 32, []) := by
  have hlt : dev.savedData.toNat < 2 ^ 32 := dev.savedData.toNat_lt_size
  simp only [pmStep, dataShow, pmDemoHwRead, if_neg (Int.not_lt.mpr hr), int32]
  split_ifs with h1 h2 h2 <;> first | rfl | omega

/-- **A store, then a show.** After a successful store of the text of `v`,
steps that are not stores, and a show whose `pm_runtime_get_sync` succeeds:
the show prints `v` if `v < 2^31`, and otherwise returns `v - 2^32`, a
negative number user space takes for an error, and prints nothing. -/
theorem data_show_after_store (dev : PmDemoDev) {buf : List UInt8} {v : ℕ}
    (hv : kstrtou32 (cString buf) 0 = .ok v) (count : ℕ) {r₁ r₂ : ℤ} (h₁ : 0 ≤ r₁) (h₂ : 0 ≤ r₂)
    (mid : List PmOp) (hmid : ∀ op ∈ mid, op.isStore = false) :
    (pmStep (run pmStep (pmStep dev (.dataStore buf count r₁)).1 mid).1 (.dataShow r₂)).2 =
      if v < 2 ^ 31 then (((emitInt v).length : ℤ), emitInt v) else ((v : ℤ) - 2 ^ 32, []) := by
  rw [dataShow_eq _ h₂, savedData_run _ mid hmid, pmStep_dataStore_ok dev hv count h₁]
  simp only [Nat.toUInt32, UInt32.toNat_ofNat_of_lt (kstrtou32_lt hv)]

/-- Every value below `2^31` comes back as its decimal text. -/
theorem data_round_trip_below_int_max (dev : PmDemoDev) {buf : List UInt8} {v : ℕ}
    (hv : kstrtou32 (cString buf) 0 = .ok v) (hsmall : v < 2 ^ 31) (count : ℕ) {r₁ r₂ : ℤ}
    (h₁ : 0 ≤ r₁) (h₂ : 0 ≤ r₂) (mid : List PmOp) (hmid : ∀ op ∈ mid, op.isStore = false) :
    (pmStep (run pmStep (pmStep dev (.dataStore buf count r₁)).1 mid).1 (.dataShow r₂)).2 =
      (((emitInt v).length : ℤ), asciiBytes (toString v ++ "\n")) := by
  rw [data_show_after_store dev hv count h₁ h₂ mid hmid, if_pos hsmall]
  rfl

/-- From probe, the text `42`, a `status` read in between, and runtime PM
that succeeds: `42` comes back. -/
theorem round_trip_small_value :
    let buf := asciiBytes "42\n"
    kstrtou32 (cString buf) 0 = .ok 42 ∧ (42 : ℕ) < 2 ^ 31 ∧ (0 : ℤ) ≤ 0 ∧
      (∀ op ∈ [PmOp.statusShow true], op.isStore = false) ∧
      (pmStep (run pmStep (pmStep pmDemoProbe (.dataStore buf 3 0)).1 [.statusShow true]).1
        (.dataShow 0)).2 = (((emitInt 42).length : ℤ), asciiBytes (toString 42 ++ "\n")) :=
  ⟨rfl, by decide, Int.le_refl 0, by decide,
    data_round_trip_below_int_max pmDemoProbe
      (show kstrtou32 (cString (asciiBytes "42\n")) 0 = .ok 42 from rfl) (by decide) 3
      (Int.le_refl 0) (Int.le_refl 0) _ (by decide)⟩

/-- From probe: `echo 4294967295 > data` succeeds, and reading `data` back
fails with `-1` (`-EPERM`) and no text. -/
theorem data_store_show_loses_u32_max :
    kstrtou32 (cString (asciiBytes "4294967295\n")) 0 = .ok 4294967295 ∧
      (pmStep pmDemoProbe (.dataStore (asciiBytes "4294967295\n") 11 0)).2 = (11, []) ∧
      (pmStep (pmStep pmDemoProbe (.dataStore (asciiBytes "4294967295\n") 11 0)).1
        (.dataShow 0)).2 = (-EPERM, []) :=
  ⟨rfl, rfl, rfl⟩

end PmDemo
end DriverGuide
