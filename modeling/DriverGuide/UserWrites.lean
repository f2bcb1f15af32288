/-
# Writes at the edges: an empty command and a faulting copy

Two things the write handlers do with unusual input.

The proc files of the slab and DMA demos start `stats_write` the same way:
copy `len = min(count, sizeof(cmd) - 1)` bytes into `char cmd[]`, end them
with a NUL, and clear a trailing newline, tested at `cmd[len - 1]`. With
`len` a `size_t`, a write of 0 bytes tests `cmd[SIZE_MAX]`, the byte before
the array, and clears it if it is a newline (`statsWritePrologue_empty`). For
every other count the prologue stays inside `[0, len]`
(`statsWritePrologue_in_bounds`), and `control_write` of the threaded-IRQ demo,
which tests `len > 0` first, stays there for every count
(`controlWritePrologue_in_bounds`).

`schar_write` and `ioctl_write` copy from user space straight into the
device: `copy_from_user` stores what it could read and zeros after it before
it reports the fault, so a write that fails with `-EFAULT` has changed the
data it failed to write (`faulting_writes_change_data`).

Key definitions: `statsWritePrologue`, `kmemStatsWritePrologue`,
`dmaStatsWritePrologue`, `controlWritePrologue`.
Key theorems: `statsWritePrologue_in_bounds`, `statsWritePrologue_empty`,
`controlWritePrologue_in_bounds`, `faulting_writes_change_data`.
-/
import DriverGuide.SimpleChar
import DriverGuide.Ioctl

namespace DriverGuide
namespace UserWrites

/-! ### The command prologue

Memory is addressed from `cmd`: `cmd[i]` is the byte at `cmd + i`, the
`size_t` index taken as a 64-bit address offset (`loff`). Each prologue
returns the memory, the indices of `cmd` it read or wrote, in order, and
`-EFAULT` if it returned at the copy. -/

/-- The prologue of `stats_write` for a `char cmd[size]`. -/
def statsWritePrologue (size : ℕ) (mem : ℤ → UInt8) (buf : UserBuf) (count : ℕ) :
    (ℤ → UInt8) × List ℕ × Option ℤ :=
  let len := min count (size - 1)
  let c := copyFromUser mem 0 buf len
  if c.2 ≠ 0 then (c.1, List.range len, some (-EFAULT))
  else
    let mem := Function.update c.1 len 0
    let last := toSizeT (len - 1)
    if mem (loff last) = 10 then
      (Function.update mem (loff last) 0, List.range len ++ [len, last, last], none)
    else (mem, List.range len ++ [len, last], none)

/-- The prologue of `stats_write` in `kmem_cache_demo.c`: `char cmd[64]`. -/
def kmemStatsWritePrologue (mem : ℤ → UInt8) (buf : UserBuf) (count : ℕ) :
    (ℤ → UInt8) × List ℕ × Option ℤ :=
  statsWritePrologue 64 mem buf count

/-- The prologue of `stats_write` in `dma_demo.c`: `char cmd[128]`. -/
def dmaStatsWritePrologue (mem : ℤ → UInt8) (buf : UserBuf) (count : ℕ) :
    (ℤ → UInt8) × List ℕ × Option ℤ :=
  statsWritePrologue 128 mem buf count

/-- The prologue of `control_write` in `threaded_irq_demo.c`: `char cmd[32]`,
and the newline test behind `len > 0`. -/
def controlWritePrologue (mem : ℤ → UInt8) (buf : UserBuf) (count : ℕ) :
    (ℤ → UInt8) × List ℕ × Option ℤ :=
  let len := min count 31
  let c := copyFromUser mem 0 buf len
  if c.2 ≠ 0 then (c.1, List.range len, some (-EFAULT))
  else
    let mem := Function.update c.1 len 0
    if len > 0 then
      let last := toSizeT (len - 1)
      if mem (loff last) = 10 then
        (Function.update mem (loff last) 0, List.range len ++ [len, last, last], none)
      else (mem, List.range len ++ [len, last], none)
    else (mem, List.range len ++ [len], none)

/-- `len - 1` as a `size_t` is `len - 1` when `len > 0`. -/
theorem toSizeT_pred {len : ℕ} (h : 0 < len) (hl : len < 2 ^ 64) :
    toSizeT ((len : ℤ) - 1) = len - 1 := by
  have := toSizeT_of_nonneg (x := (len : ℤ) - 1) (by omega) (by omega)
  omega

/-- A `stats_write` prologue touches `[0, len]` and `cmd[len - 1]`, with
`len - 1` a `size_t`. -/
theorem statsWritePrologue_mem (size : ℕ) (mem : ℤ → UInt8) (buf : UserBuf) (count : ℕ) :
    ∀ i ∈ (statsWritePrologue size mem buf count).2.1,
      i ≤ min count (size - 1) ∨ i = toSizeT ((min count (size - 1) : ℕ) - 1) := by
  intro i hi
  dsimp only [statsWritePrologue] at hi
  split_ifs at hi <;>
    simp only [List.mem_append, List.mem_range, List.mem_cons, List.mem_singleton,
      List.not_mem_nil, or_false] at hi <;> omega

/-- **In bounds when the count is not 0.** A prologue of `stats_write` with
room for a command and a write of at least one byte touches `cmd` only in
`[0, len]`. -/
theorem statsWritePrologue_in_bounds {size : ℕ} (hs : 2 ≤ size) (hsz : size < 2 ^ 64)
    (mem : ℤ → UInt8) (buf : UserBuf) {count : ℕ} (hc : 0 < count) :
    ∀ i ∈ (statsWritePrologue size mem buf count).2.1, i ≤ min count (size - 1) := by
  intro i hi
  have hlen := toSizeT_pred (show 0 < min count (size - 1) by omega) (by omega)
  rcases statsWritePrologue_mem size mem buf count i hi with h | h <;> omega

/-- A six-byte `alloc` command to the slab demo stays inside `cmd[0..6]`. -/
theorem kmem_alloc_command_in_bounds :
    (2 : ℕ) ≤ 64 ∧ (64 : ℕ) < 2 ^ 64 ∧ 0 < 6 ∧
      ∀ i ∈ (statsWritePrologue 64 (fun _ => 0) ⟨asciiBytes "alloc\n"⟩ 6).2.1, i ≤ min 6 (64 - 1) :=
  ⟨by decide, by decide, by decide,
    statsWritePrologue_in_bounds (by decide) (by decide) _ _ (by decide)⟩

/-- **An empty write tests `cmd[SIZE_MAX]`.** A `stats_write` of 0 bytes
copies nothing, sets `cmd[0]`, reads `cmd[2^64 - 1]`, the byte before `cmd`,
and clears that byte if it is a newline. -/
theorem statsWritePrologue_empty (size : ℕ) (mem : ℤ → UInt8) (buf : UserBuf) :
    let mem₀ := Function.update mem 0 0
    statsWritePrologue size mem buf 0 =
      if mem₀ (-1) = 10 then (Function.update mem₀ (-1) 0, [0, 2 ^ 64 - 1, 2 ^ 64 - 1], none)
      else (mem₀, [0, 2 ^ 64 - 1], none) := by
  have hc : copyFromUser mem 0 buf 0 = (mem, 0) := by
    simp [copyFromUser_of_le _ _ _ (Nat.zero_le _)]
  have hlast : toSizeT ((0 : ℤ) - 1) = 2 ^ 64 - 1 := rfl
  have haddr : loff ((2 ^ 64 - 1 : ℕ) : ℤ) = -1 := rfl
  intro mem₀
  unfold statsWritePrologue
  rw [Nat.zero_min]
  simp only [hc, ne_eq, not_true_eq_false, if_false, Int.ofNat_zero, hlast, haddr,
    List.range_zero, List.nil_append]
  rfl

/-- `control_write` touches `cmd` only in `[0, len]`, whatever the count. -/
theorem controlWritePrologue_in_bounds (mem : ℤ → UInt8) (buf : UserBuf) (count : ℕ) :
    ∀ i ∈ (controlWritePrologue mem buf count).2.1, i ≤ min count 31 := by
  intro i hi
  dsimp only [controlWritePrologue] at hi
  split_ifs at hi with h₁ h₂ <;>
    simp only [List.mem_append, List.mem_range, List.mem_cons, List.mem_singleton,
      List.not_mem_nil, or_false] at hi
  · omega
  · have := toSizeT_pred h₂ (by omega); omega
  · have := toSizeT_pred h₂ (by omega); omega
  · omega

/-- A write of 0 bytes makes `stats_write` of the slab and DMA demos read
`cmd[2^64 - 1]`, outside `[0, len] = [0, 0]`; `control_write` touches only
`cmd[0]`, and for every count stays inside `[0, len]`. -/
theorem stats_write_empty_reads_cmd_max (mem : ℤ → UInt8) (buf : UserBuf) :
    2 ^ 64 - 1 ∈ (kmemStatsWritePrologue mem buf 0).2.1 ∧
      2 ^ 64 - 1 ∈ (dmaStatsWritePrologue mem buf 0).2.1 ∧
      (controlWritePrologue mem buf 0).2.1 = [0] ∧
      ∀ count, ∀ i ∈ (controlWritePrologue mem buf count).2.1, i ≤ min count 31 := by
  refine ⟨?_, ?_, ?_, controlWritePrologue_in_bounds mem buf⟩
  · rw [kmemStatsWritePrologue, statsWritePrologue_empty]
    split_ifs <;> simp
  · rw [dmaStatsWritePrologue, statsWritePrologue_empty]
    split_ifs <;> simp
  · have hc : (copyFromUser mem 0 buf 0).2 = 0 := (copyFromUser_snd _ _ _ _).mpr (Nat.zero_le _)
    simp [controlWritePrologue, hc]

/-! ### Faulting copies -/

/-- From the initial devices, a user buffer of which one byte, `A`, is
readable, written with a count of 2: `schar_write` fails with `-EFAULT` and
has stored `A` at offset 0, and `ioctl_write` fails with `-EFAULT` and has
replaced the name `default` by `A` and a NUL. -/
theorem faulting_writes_change_data :
    let buf : UserBuf := ⟨[65]⟩
    (SimpleChar.scharWrite SimpleChar.simpleInit 0 buf 2).2.2 = -EFAULT ∧
      (SimpleChar.scharWrite SimpleChar.simpleInit 0 buf 2).1.buffer 0 = 65 ∧
      SimpleChar.simpleInit.buffer 0 = 0 ∧
      (Ioctl.ioctlWrite Ioctl.ioctlInit buf 2).2 = -EFAULT ∧
      (Ioctl.ioctlWrite Ioctl.ioctlInit buf 2).1.name 0 = 65 ∧
      (Ioctl.ioctlWrite Ioctl.ioctlInit buf 2).1.name 1 = 0 ∧
      Ioctl.ioctlInit.name 0 = 100 ∧ Ioctl.ioctlInit.name 1 = 101 := by
  decide

end UserWrites
end DriverGuide
