/-
# The ioctl device keeps a valid configuration

`part3/ioctl-device/ioctl_device.c` holds a configuration (`speed`, `mode`,
a 32-byte `name`) that `ioctl_write` and the `IOCTL_SET_CONFIG` and
`IOCTL_RESET` commands of `ioctl_ioctl` change. Whatever the command words,
the user data and the faults, the configuration stays valid: `speed` in
`[0, 1000]`, `mode` in `[0, 3]` and `name[31] = 0`, so that `name` is always
a C string within its array (`ioctl_config_valid`). The two calls that hand
the name to user space never hand out an unterminated one: a read of all 32
bytes ends in `name[31]`, and `IOCTL_XFER_CONFIG` copies the name with
`strscpy`, which always terminates what it writes (`strscpy_terminated`).
A command that fails changes nothing but `ioctl_count` and `last_error`
(`ioctl_error_keeps_config`):
one with the wrong magic or number is refused with `-ENOTTY` before it counts,
and a rejected `IOCTL_SET_CONFIG` keeps the old configuration.

Key definitions: `strscpy`, `ioctlRead`, `ioctlWrite`, `ioctlIoctl`,
`ioctlStep`.
Key theorems: `strscpy_last`, `strscpy_terminated`, `ioctlStep_valid`,
`ioctl_config_valid`, `ioctlIoctl_error`, `ioctl_error_keeps_config`.
-/
import DriverGuide.Basic

namespace DriverGuide
namespace Ioctl

/-! ### `strscpy`

`strscpy(dest, src, count)` (`lib/string.c`) copies `src` up to and including
its first NUL when that lies among the first `count` bytes, and returns the
length; otherwise it copies `count - 1` bytes, NUL-terminates, and returns
`-E2BIG`. This is its byte-at-a-time loop; the word-at-a-time one also
zeroes the bytes after the NUL in the last word it writes, which no theorem
here depends on. -/

/-- `strscpy(dest, src, count)`: the destination and the return value. -/
def strscpy (dest src : ℤ → UInt8) (count : ℕ) : (ℤ → UInt8) × ℤ :=
  let s := readBytes src 0 count
  match s.findIdx? (· == 0) with
  | some k => (writeBytes dest 0 (s.take (k + 1)), k)
  | none => (writeBytes dest 0 (s.set (count - 1) 0), -E2BIG)

/-- The last byte of the destination is a NUL after the copy if it was one
before. -/
theorem strscpy_last (dest src : ℤ → UInt8) (count : ℕ) (h : dest (count - 1 : ℕ) = 0) :
    (strscpy dest src count).1 (count - 1 : ℕ) = 0 := by
  unfold strscpy
  dsimp only
  split <;> dsimp only
  · next k hk =>
    obtain ⟨hlt, hz, -⟩ := List.findIdx?_eq_some_iff_getElem.mp hk
    simp only [readBytes_length] at hlt
    by_cases he : count - 1 = k
    · rw [he, writeBytes_zero_of_lt _ _ (by simp; omega)]
      simpa using hz
    · rw [writeBytes_of_ge _ _ (by simp; omega)]
      exact h
  · by_cases hc : count = 0
    · rw [writeBytes_of_ge _ _ (by simp; omega)]
      exact h
    · rw [writeBytes_zero_of_lt _ _ (by simp; omega)]
      simp

/-- **`strscpy` terminates what it writes**: for `count > 0` there is a NUL
among the first `count` bytes of the destination. -/
theorem strscpy_terminated (dest src : ℤ → UInt8) {count : ℕ} (hc : 0 < count) :
    ∃ k < count, (strscpy dest src count).1 k = 0 := by
  unfold strscpy
  dsimp only
  split <;> dsimp only
  · next k hk =>
    obtain ⟨hlt, hz, -⟩ := List.findIdx?_eq_some_iff_getElem.mp hk
    simp only [readBytes_length] at hlt
    refine ⟨k, hlt, ?_⟩
    rw [writeBytes_zero_of_lt _ _ (by simp; omega)]
    simpa using hz
  · refine ⟨count - 1, by omega, ?_⟩
    rw [writeBytes_zero_of_lt _ _ (by simp; omega)]
    simp

/-! ### The device

`struct ioctl_device` without the `cdev` and the mutex (every entry point
runs whole under it), and the commands of `ioctl_example.h`. -/

structure IoctlDevice where
  speed : ℤ
  mode : ℤ
  name : ℤ → UInt8
  value : ℤ
  readCount : UInt64
  writeCount : UInt64
  ioctlCount : UInt64
  lastError : ℤ

/-- `ioctl_init`: the static device is zero, and `name` is `"default"`. -/
def ioctlInit : IoctlDevice :=
  ⟨0, 0, (strscpy (fun _ => 0) (writeBytes (fun _ => 0) 0 (asciiBytes "default")) 32).1,
    0, 0, 0, 0, 0⟩

/-- `struct ioctl_config`: two `int`s and a `char name[32]`, 40 bytes. -/
structure IoctlConfig where
  speed : ℤ
  mode : ℤ
  name : ℤ → UInt8

/-- A configuration as user memory holds it. -/
def IoctlConfig.ofBytes (bs : List UInt8) : IoctlConfig :=
  ⟨int32 (decodeLE (bs.take 4)), int32 (decodeLE ((bs.drop 4).take 4)),
    writeBytes (fun _ => 0) 0 ((bs.drop 8).take 32)⟩

def IoctlConfig.toBytes (c : IoctlConfig) : List UInt8 :=
  encodeLE 4 c.speed ++ encodeLE 4 c.mode ++ readBytes c.name 0 32

@[simp] theorem IoctlConfig.toBytes_length (c : IoctlConfig) : c.toBytes.length = 40 := by
  simp [IoctlConfig.toBytes]

/-- The name field of a configuration in memory. -/
theorem IoctlConfig.toBytes_drop (c : IoctlConfig) : c.toBytes.drop 8 = readBytes c.name 0 32 :=
  List.drop_left' (by simp)

/-- `struct ioctl_stats` as `copy_to_user` sends it: three `unsigned long`s,
an `int`, and four bytes of padding (uninitialised in the source, 0 here). -/
def statsBytes (dev : IoctlDevice) : List UInt8 :=
  encodeLE 8 dev.readCount.toNat ++ encodeLE 8 dev.writeCount.toNat ++
    encodeLE 8 dev.ioctlCount.toNat ++ encodeLE 4 dev.lastError ++ [0, 0, 0, 0]

def ioctlMagic : UInt32 := 69

def ioctlMaxnr : UInt32 := 5

def ioctlReset : UInt32 := ioc 0 ioctlMagic 0 0
def ioctlGetStats : UInt32 := ioc 2 ioctlMagic 1 32
def ioctlGetValue : UInt32 := ioc 2 ioctlMagic 2 4
def ioctlSetConfig : UInt32 := ioc 1 ioctlMagic 3 40
def ioctlSetValue : UInt32 := ioc 1 ioctlMagic 4 4
def ioctlXferConfig : UInt32 := ioc 3 ioctlMagic 5 40

/-! ### The entry points

Each returns the device, its return value and what it copied to user space;
`room` is the number of bytes of the user buffer that can be written before
the first fault, the readable bytes of `UserBuf` those that can be read. -/

/-- `ioctl_read` at position `pos`; the last component is the new position. -/
def ioctlRead (dev : IoctlDevice) (pos : ℤ) (count room : ℕ) :
    IoctlDevice × ℤ × List UInt8 × ℤ :=
  let dev := { dev with readCount := dev.readCount + 1 }
  if pos > 0 then (dev, 0, [], pos)
  else
    let count := min count 32
    let c := copyToUser (readBytes dev.name 0 count) room
    if c.2 ≠ 0 then (dev, -EFAULT, c.1, pos) else (dev, count, c.1, count)

def ioctlWrite (dev : IoctlDevice) (buf : UserBuf) (count : ℕ) : IoctlDevice × ℤ :=
  let dev := { dev with writeCount := dev.writeCount + 1 }
  let count := min count 31
  let c := copyFromUser dev.name 0 buf count
  if c.2 ≠ 0 then ({ dev with name := c.1, lastError := -EFAULT }, -EFAULT)
  else ({ dev with name := Function.update c.1 count 0 }, count)

/-- The `IOCTL_SET_CONFIG` case of `ioctl_ioctl`. -/
@[irreducible] def setConfig (dev : IoctlDevice) (arg : UserBuf) : IoctlDevice × ℤ × List UInt8 :=
  if arg.readable.length < 40 then ({ dev with lastError := -EFAULT }, -EFAULT, [])
  else
    let config := IoctlConfig.ofBytes arg.readable
    if config.speed < 0 ∨ config.speed > 1000 then ({ dev with lastError := -EINVAL }, -EINVAL, [])
    else if config.mode < 0 ∨ config.mode > 3 then ({ dev with lastError := -EINVAL }, -EINVAL, [])
    else
      ({ dev with
          speed := config.speed, mode := config.mode, name := (strscpy dev.name config.name 32).1 },
        0, [])

/-- The `IOCTL_XFER_CONFIG` case of `ioctl_ioctl`. -/
@[irreducible] def xferConfig (dev : IoctlDevice) (arg : UserBuf) (room : ℕ) : IoctlDevice × ℤ × List UInt8 :=
  if arg.readable.length < 40 then ({ dev with lastError := -EFAULT }, -EFAULT, [])
  else
    let config := IoctlConfig.ofBytes arg.readable
    let config : IoctlConfig :=
      ⟨dev.speed, dev.mode, (strscpy config.name dev.name 32).1⟩
    let c := copyToUser config.toBytes room
    if c.2 ≠ 0 then ({ dev with lastError := -EFAULT }, -EFAULT, c.1) else (dev, 0, c.1)

/-- `ioctl_ioctl(file, cmd, arg)`. -/
def ioctlIoctl (dev : IoctlDevice) (cmd : UInt32) (arg : UserBuf) (room : ℕ) :
    IoctlDevice × ℤ × List UInt8 :=
  if iocType cmd ≠ ioctlMagic then (dev, -ENOTTY, [])
  else if iocNr cmd > ioctlMaxnr then (dev, -ENOTTY, [])
  else
    let dev := { dev with ioctlCount := dev.ioctlCount + 1 }
    if cmd = ioctlReset then
      ({ dev with
          speed := 0, mode := 0, value := 0, name := writeBytes dev.name 0 (List.replicate 32 0),
          readCount := 0, writeCount := 0, ioctlCount := 0, lastError := 0 }, 0, [])
    else if cmd = ioctlGetStats then
      let c := copyToUser (statsBytes dev) room
      if c.2 ≠ 0 then ({ dev with lastError := -EFAULT }, -EFAULT, c.1) else (dev, 0, c.1)
    else if cmd = ioctlGetValue then
      if room < 4 then ({ dev with lastError := -EFAULT }, -EFAULT, [])
      else (dev, 0, encodeLE 4 dev.value)
    else if cmd = ioctlSetConfig then setConfig dev arg
    else if cmd = ioctlSetValue then
      if arg.readable.length < 4 then ({ dev with lastError := -EFAULT }, -EFAULT, [])
      else ({ dev with value := int32 (decodeLE (arg.readable.take 4)) }, 0, [])
    else if cmd = ioctlXferConfig then xferConfig dev arg room
    else ({ dev with lastError := -ENOTTY }, -ENOTTY, [])

/-! ### Runs

The device and the position of each open file; an operation is a call of one
of the three entry points with its arguments. -/

structure IoctlSys where
  dev : IoctlDevice
  fpos : ℕ → ℤ

def IoctlSys.init : IoctlSys := ⟨ioctlInit, fun _ => 0⟩

inductive IoctlOp
  | read (f : ℕ) (count room : ℕ)
  | write (buf : UserBuf) (count : ℕ)
  | ioctl (cmd : UInt32) (arg : UserBuf) (room : ℕ)

/-- One call; the output is its return value and what it copied to user
space. -/
def ioctlStep (s : IoctlSys) : IoctlOp → IoctlSys × ℤ × List UInt8
  | .read f count room =>
    let r := ioctlRead s.dev (s.fpos f) count room
    (⟨r.1, Function.update s.fpos f r.2.2.2⟩, r.2.1, r.2.2.1)
  | .write buf count =>
    let r := ioctlWrite s.dev buf count
    (⟨r.1, s.fpos⟩, r.2, [])
  | .ioctl cmd arg room =>
    let r := ioctlIoctl s.dev cmd arg room
    (⟨r.1, s.fpos⟩, r.2)

/-! ### The configuration stays valid -/

structure ConfigValid (dev : IoctlDevice) : Prop where
  speed_nonneg : 0 ≤ dev.speed
  speed_le : dev.speed ≤ 1000
  mode_nonneg : 0 ≤ dev.mode
  mode_le : dev.mode ≤ 3
  name_nul : dev.name 31 = 0

/-- What user space receives never holds an unterminated name: a read of all
32 bytes of `name` holds a NUL, and so does the name field of a whole
`IOCTL_XFER_CONFIG` reply. -/
def NameTerminated : IoctlOp → ℤ × List UInt8 → Prop
  | .read _ _ _, r => r.2.length = 32 → 0 ∈ r.2
  | .write _ _, _ => True
  | .ioctl cmd _ _, r => cmd = ioctlXferConfig → r.2.length = 40 → 0 ∈ r.2.drop 8

theorem configValid_init : ConfigValid ioctlInit :=
  have h := strscpy_last (fun _ => 0) (writeBytes (fun _ => 0) 0 (asciiBytes "default")) 32 rfl
  ⟨Int.le_refl 0, by decide, Int.le_refl 0, by decide, h⟩

theorem ConfigValid.ioctlRead {dev : IoctlDevice} (h : ConfigValid dev) (pos : ℤ)
    (count room : ℕ) : ConfigValid (ioctlRead dev pos count room).1 := by
  unfold Ioctl.ioctlRead
  dsimp only
  split_ifs <;> exact ⟨h.1, h.2, h.3, h.4, h.5⟩

theorem ConfigValid.ioctlWrite {dev : IoctlDevice} (h : ConfigValid dev) (buf : UserBuf)
    (count : ℕ) : ConfigValid (ioctlWrite dev buf count).1 := by
  have h31 : (copyFromUser dev.name 0 buf (min count 31)).1 31 = 0 := by
    simp only [copyFromUser]
    rw [writeBytes_of_ge _ _ (by
      simp only [List.length_append, List.length_take, List.length_replicate]; omega)]
    exact h.5
  unfold Ioctl.ioctlWrite
  dsimp only
  split_ifs
  · exact ⟨h.1, h.2, h.3, h.4, h31⟩
  · refine ⟨h.1, h.2, h.3, h.4, ?_⟩
    dsimp only
    by_cases hc : ((min count 31 : ℕ) : ℤ) = 31
    · rw [← hc, Function.update_same]
    · simpa only [Function.update_noteq (Ne.symm hc)] using h31

theorem ConfigValid.setConfig {dev : IoctlDevice} (h : ConfigValid dev) (arg : UserBuf) :
    ConfigValid (setConfig dev arg).1 := by
  unfold Ioctl.setConfig
  dsimp only
  split_ifs with h1 h2 h3
  · exact ⟨h.1, h.2, h.3, h.4, h.5⟩
  · exact ⟨h.1, h.2, h.3, h.4, h.5⟩
  · exact ⟨h.1, h.2, h.3, h.4, h.5⟩
  · constructor <;> dsimp only
    · omega
    · omega
    · omega
    · omega
    · exact strscpy_last _ _ 32 h.5

theorem ConfigValid.xferConfig {dev : IoctlDevice} (h : ConfigValid dev) (arg : UserBuf)
    (room : ℕ) : ConfigValid (xferConfig dev arg room).1 := by
  unfold Ioctl.xferConfig
  dsimp only
  split_ifs <;> exact ⟨h.1, h.2, h.3, h.4, h.5⟩

/-- Either branch of an `if` of `ioctl_ioctl` keeps the configuration valid. -/
theorem configValid_ite {c : Prop} [Decidable c] {a b : IoctlDevice × ℤ × List UInt8}
    (ha : c → ConfigValid a.1) (hb : ¬c → ConfigValid b.1) : ConfigValid (if c then a else b).1 :=
  iteInduction (motive := fun r : IoctlDevice × ℤ × List UInt8 => ConfigValid r.1) ha hb

theorem ConfigValid.ioctlIoctl {dev : IoctlDevice} (h : ConfigValid dev) (cmd : UInt32)
    (arg : UserBuf) (room : ℕ) : ConfigValid (ioctlIoctl dev cmd arg room).1 := by
  have h' : ConfigValid { dev with ioctlCount := dev.ioctlCount + 1 } := ⟨h.1, h.2, h.3, h.4, h.5⟩
  unfold Ioctl.ioctlIoctl
  dsimp only
  repeat' refine configValid_ite (fun _ => ?_) (fun _ => ?_)
  all_goals first
    | exact h
    | exact h'.setConfig arg
    | exact h'.xferConfig arg room
    | exact ⟨h.1, h.2, h.3, h.4, h.5⟩
    | constructor <;> dsimp only <;> first
      | omega
      | exact writeBytes_zero_of_lt _ (List.replicate 32 0) (by simp : 31 < 32)

/-- The name field of an `IOCTL_XFER_CONFIG` reply holds a NUL. -/
theorem xferConfig_terminated (dev : IoctlDevice) (arg : UserBuf) (room : ℕ)
    (h : (xferConfig dev arg room).2.2.length = 40) :
    0 ∈ (xferConfig dev arg room).2.2.drop 8 := by
  obtain ⟨k, hk, hz⟩ := strscpy_terminated (IoctlConfig.ofBytes arg.readable).name dev.name
    (by decide : 0 < 32)
  unfold xferConfig at h ⊢
  dsimp only at h ⊢
  split_ifs at h ⊢
  · simp at h
  all_goals
    simp only [copyToUser, List.length_take, IoctlConfig.toBytes_length] at h ⊢
    rw [List.take_of_length_le (by rw [IoctlConfig.toBytes_length]; omega),
      IoctlConfig.toBytes_drop]
    exact List.mem_iff_getElem.mpr ⟨k, by simpa using hk, by rw [readBytes_getElem]; simpa using hz⟩

/-- A read of all 32 bytes of `name` ends in `name[31]`. -/
theorem ioctlRead_terminated {dev : IoctlDevice} (h : ConfigValid dev) (pos : ℤ)
    (count room : ℕ) (hl : (ioctlRead dev pos count room).2.2.1.length = 32) :
    0 ∈ (ioctlRead dev pos count room).2.2.1 := by
  unfold Ioctl.ioctlRead at hl ⊢
  dsimp only at hl ⊢
  split_ifs at hl ⊢
  · simp at hl
  all_goals
    simp only [copyToUser, List.length_take, readBytes_length] at hl ⊢
    rw [List.take_of_length_le (by simp; omega)]
    exact List.mem_iff_getElem.mpr ⟨31, by simp; omega, by rw [readBytes_getElem]; exact h.5⟩

theorem ioctlIoctl_xferConfig (dev : IoctlDevice) (arg : UserBuf) (room : ℕ) :
    ioctlIoctl dev ioctlXferConfig arg room =
      xferConfig { dev with ioctlCount := dev.ioctlCount + 1 } arg room := rfl

/-- Each call keeps the configuration valid. -/
theorem ioctlStep_valid {s : IoctlSys} (h : ConfigValid s.dev) :
    ∀ op, ConfigValid (ioctlStep s op).1.dev
  | .read _ count room => h.ioctlRead _ count room
  | .write buf count => h.ioctlWrite buf count
  | .ioctl cmd arg room => h.ioctlIoctl cmd arg room

/-- From a valid configuration no call hands out an unterminated name. -/
theorem ioctlStep_terminated {s : IoctlSys} (h : ConfigValid s.dev) :
    ∀ op, NameTerminated op (ioctlStep s op).2
  | .read _ count room => ioctlRead_terminated h _ count room
  | .write _ _ => trivial
  | .ioctl cmd arg room => by
    rintro rfl hl
    simp only [ioctlStep, ioctlIoctl_xferConfig] at hl ⊢
    exact xferConfig_terminated _ arg room hl

/-- **The configuration stays valid.** In every state reachable from
`ioctl_init`, whatever the command words, the user data and the faults,
`speed` lies in `[0, 1000]`, `mode` in `[0, 3]`, `name[31]` is a NUL, and the
next call hands out no unterminated name. -/
theorem ioctl_config_valid (ops : List IoctlOp) (op : IoctlOp) :
    let s := (run ioctlStep IoctlSys.init ops).1
    (0 ≤ s.dev.speed ∧ s.dev.speed ≤ 1000) ∧ (0 ≤ s.dev.mode ∧ s.dev.mode ≤ 3) ∧
      s.dev.name 31 = 0 ∧ NameTerminated op (ioctlStep s op).2 :=
  have h := run_inv ioctlStep (fun s => ConfigValid s.dev) (fun _ op h => ioctlStep_valid h op)
    ops _ configValid_init
  ⟨⟨h.1, h.2⟩, ⟨h.3, h.4⟩, h.5, ioctlStep_terminated h op⟩

/-! ### A failed call keeps the configuration -/

/-- `dev'` has the configuration, the value and the read and write counts of
`dev`: only `ioctl_count` and `last_error` may differ. -/
structure SameConfig (dev dev' : IoctlDevice) : Prop where
  speed : dev'.speed = dev.speed
  mode : dev'.mode = dev.mode
  name : dev'.name = dev.name
  value : dev'.value = dev.value
  readCount : dev'.readCount = dev.readCount
  writeCount : dev'.writeCount = dev.writeCount

theorem SameConfig.trans {d₀ d₁ d₂ : IoctlDevice} (h₁ : SameConfig d₀ d₁) (h₂ : SameConfig d₁ d₂) :
    SameConfig d₀ d₂ :=
  ⟨h₂.1.trans h₁.1, h₂.2.trans h₁.2, h₂.3.trans h₁.3, h₂.4.trans h₁.4, h₂.5.trans h₁.5,
    h₂.6.trans h₁.6⟩

/-- Counting the call is no change of configuration. -/
theorem sameConfig_count (dev : IoctlDevice) (n : UInt64) :
    SameConfig dev { dev with ioctlCount := n } := ⟨rfl, rfl, rfl, rfl, rfl, rfl⟩

theorem setConfig_error (dev : IoctlDevice) (arg : UserBuf) (h : (setConfig dev arg).2.1 ≠ 0) :
    SameConfig dev (setConfig dev arg).1 := by
  unfold Ioctl.setConfig at h ⊢
  dsimp only at h ⊢
  split_ifs at h ⊢
  all_goals first | exact absurd rfl h | exact ⟨rfl, rfl, rfl, rfl, rfl, rfl⟩

theorem xferConfig_error (dev : IoctlDevice) (arg : UserBuf) (room : ℕ)
    (h : (xferConfig dev arg room).2.1 ≠ 0) : SameConfig dev (xferConfig dev arg room).1 := by
  unfold Ioctl.xferConfig at h ⊢
  dsimp only at h ⊢
  split_ifs at h ⊢
  all_goals first | exact absurd rfl h | exact ⟨rfl, rfl, rfl, rfl, rfl, rfl⟩

/-- Either branch of an `if` of `ioctl_ioctl` that fails only as `dev` allows. -/
theorem sameConfig_ite {dev : IoctlDevice} {c : Prop} [Decidable c] {a b : IoctlDevice × ℤ × List UInt8}
    (ha : c → a.2.1 ≠ 0 → SameConfig dev a.1) (hb : ¬c → b.2.1 ≠ 0 → SameConfig dev b.1) :
    (if c then a else b).2.1 ≠ 0 → SameConfig dev (if c then a else b).1 := by
  split_ifs with h
  exacts [ha h, hb h]

/-- Every error return of `ioctl_ioctl` leaves the configuration, the value and
the read and write counts as they were. -/
theorem ioctlIoctl_error (dev : IoctlDevice) (cmd : UInt32) (arg : UserBuf) (room : ℕ) :
    (ioctlIoctl dev cmd arg room).2.1 ≠ 0 → SameConfig dev (ioctlIoctl dev cmd arg room).1 := by
  unfold ioctlIoctl
  dsimp only
  repeat' refine sameConfig_ite (fun _ => ?_) (fun _ => ?_)
  all_goals intro h; first
    | exact absurd rfl h
    | exact ⟨rfl, rfl, rfl, rfl, rfl, rfl⟩
    | exact (sameConfig_count dev _).trans (setConfig_error _ arg h)
    | exact (sameConfig_count dev _).trans (xferConfig_error _ arg room h)

/-- A command word with a foreign magic number or a command number above
`IOCTL_MAXNR` is refused before the lock: nothing changes. -/
theorem ioctlIoctl_rejected (dev : IoctlDevice) {cmd : UInt32} (arg : UserBuf) (room : ℕ)
    (h : iocType cmd ≠ ioctlMagic ∨ iocNr cmd > ioctlMaxnr) :
    ioctlIoctl dev cmd arg room = (dev, -ENOTTY, []) := by
  unfold ioctlIoctl
  by_cases hm : iocType cmd ≠ ioctlMagic
  · rw [if_pos hm]
  · rw [if_neg hm, if_pos (h.resolve_left hm)]

theorem ioctlIoctl_setConfig (dev : IoctlDevice) (arg : UserBuf) (room : ℕ) :
    ioctlIoctl dev ioctlSetConfig arg room =
      setConfig { dev with ioctlCount := dev.ioctlCount + 1 } arg := rfl

/-- A configuration out of range is refused: `-EINVAL`, or `-EFAULT` if it
could not be copied. -/
theorem setConfig_invalid (dev : IoctlDevice) (arg : UserBuf)
    (h : (IoctlConfig.ofBytes arg.readable).speed < 0 ∨ 1000 < (IoctlConfig.ofBytes arg.readable).speed ∨
      (IoctlConfig.ofBytes arg.readable).mode < 0 ∨ 3 < (IoctlConfig.ofBytes arg.readable).mode) :
    (setConfig dev arg).2.1 ≠ 0 := by
  unfold Ioctl.setConfig
  dsimp only
  split_ifs with h1 h2 h3
  all_goals dsimp only; first | decide | omega

/-- **A failed ioctl keeps the configuration.** For every device, command word
and user buffer: a call that returns an error changes only `ioctl_count` and
`last_error`; one refused by the magic or command-number check changes
nothing; and an `IOCTL_SET_CONFIG` with `speed` outside `[0, 1000]` or `mode`
outside `[0, 3]` changes none of `speed`, `mode` and `name`. -/
theorem ioctl_error_keeps_config (dev : IoctlDevice) (cmd : UInt32) (arg : UserBuf) (room : ℕ) :
    ((ioctlIoctl dev cmd arg room).2.1 ≠ 0 → SameConfig dev (ioctlIoctl dev cmd arg room).1) ∧
      (iocType cmd ≠ ioctlMagic ∨ iocNr cmd > ioctlMaxnr →
        ioctlIoctl dev cmd arg room = (dev, -ENOTTY, [])) ∧
      (cmd = ioctlSetConfig →
        (IoctlConfig.ofBytes arg.readable).speed < 0 ∨ 1000 < (IoctlConfig.ofBytes arg.readable).speed ∨
          (IoctlConfig.ofBytes arg.readable).mode < 0 ∨ 3 < (IoctlConfig.ofBytes arg.readable).mode →
        (ioctlIoctl dev cmd arg room).1.speed = dev.speed ∧
          (ioctlIoctl dev cmd arg room).1.mode = dev.mode ∧
          (ioctlIoctl dev cmd arg room).1.name = dev.name) := by
  refine ⟨ioctlIoctl_error dev cmd arg room, ioctlIoctl_rejected dev arg room, ?_⟩
  rintro rfl hinv
  have h := ioctlIoctl_error dev ioctlSetConfig arg room
    (by rw [ioctlIoctl_setConfig]; exact setConfig_invalid _ arg hinv)
  exact ⟨h.speed, h.mode, h.name⟩

end Ioctl
end DriverGuide
