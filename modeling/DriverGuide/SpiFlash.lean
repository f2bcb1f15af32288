/-
# The SPI flash demo: a 64 KiB array, while the chip answers ready

`part9/spi-device/spi_flash_demo.c` keeps the flash's content in `buffer`,
`FLASH_SIZE` bytes set to `0xFF` at probe, and serves `read`, `write`,
`llseek` and the `FLASH_IOC_ERASE` ioctl on it. Each write and erase talks to
the chip over SPI and then polls its status register until the chip clears
`STATUS_WIP`, for at most 10 (a page) or 500 (a sector) reads.

Whatever the chip and the allocator answer, every `memcpy` and `memset` on
`buffer` stays inside it and every file position stays in `[0, FLASH_SIZE]`
(`flash_bounds_run`). A write programs page by page: when it succeeds its
pages cut the range into pieces inside one page each, and when a page program
fails the write returns that error and programs no later page
(`demoFlashWritePages_outcome`, `flash_write_page_chunks`). When every SPI
transfer succeeds, every status read reports the chip ready, every `kmalloc`
succeeds and the user buffers cover the copies, the device is a 64 KiB byte
array of `0xFF` at first, that `write` overwrites, `FLASH_IOC_ERASE` resets a
sector at a time and `read` returns (`flash_refines_byte_array`). When the
chip keeps reporting `STATUS_WIP`, a write returns `-ETIMEDOUT` after it has
stored its first page and leaves the position where it was
(`flash_write_times_out`).

Key definitions: `waitReady`, `demoFlashProgramPage`, `programPageAt`,
`demoFlashWritePages`, `demoFlashEraseSector`, `demoFlashFread`,
`demoFlashFwrite`, `flashStep`, `flashArrayStep`.
Key theorems: `demoFlashWritePages_outcome`, `flash_write_page_chunks`,
`flashStep_bounds`, `flashStep_sim`, `flash_bounds_run`,
`flash_refines_byte_array`, `flash_write_times_out`.
-/
import DriverGuide.Basic

namespace DriverGuide
namespace SpiFlash

/-! ### The chip and the driver's storage

The chip is what its SPI transfers answer: the return value of each SPI call
of an operation, in order, and the byte it sends back when that call reads
the status register. -/

def flashPageSize : ℕ := 256
def flashSectorSize : ℕ := 4096
def flashSize : ℕ := 64 * 1024

def statusWip : UInt8 := 1

/-- `~(FLASH_SECTOR_SIZE - 1)` as a `u32`. -/
def sectorMask : ℕ := 0xFFFFF000

def flashIocMagic : UInt32 := 70
def flashIocErase : UInt32 := ioc 1 flashIocMagic 1 4
def flashIocGetsize : UInt32 := ioc 2 flashIocMagic 2 4

/-- The answers of the SPI controller and the chip to the `k`-th SPI call of
an operation. -/
structure SpiBus where
  ret : ℕ → ℤ
  status : ℕ → UInt8

/-- `struct demo_flash` without the SPI device, the misc device, the mutex
(every entry point runs its storage accesses under it) and the chip's ID. -/
structure DemoFlash where
  buffer : ℤ → UInt8
  size : ℕ

/-- After `demo_flash_probe`: `FLASH_SIZE` bytes, all `0xFF`. -/
def demoFlashProbe : DemoFlash :=
  ⟨fun i => if 0 ≤ i ∧ i < flashSize then 0xFF else 0, flashSize⟩

/-- What a driver function did: the flash afterwards, its return value, the
next SPI call, the bytes it read from the storage, and the range
`[offset, offset + len)` of `buffer` each `memcpy` or `memset` touched. -/
structure Outcome where
  flash : DemoFlash
  ret : ℤ
  next : ℕ
  data : List UInt8
  accesses : List (ℤ × ℕ)

/-! ### The driver's functions -/

/-- `demo_flash_wait_ready` with `left` status reads to go, from SPI call `k`:
the return value and the next SPI call. -/
def waitReady (bus : SpiBus) (k : ℕ) : ℕ → ℤ × ℕ
  | 0 => (-ETIMEDOUT, k)
  | left + 1 =>
    if bus.ret k ≠ 0 then (bus.ret k, k + 1)
    else if bus.status k &&& statusWip = 0 then (0, k + 1)
    else waitReady bus (k + 1) left

/-- `demo_flash_read(flash, addr, buf, len)` from SPI call `k`. -/
def demoFlashRead (flash : DemoFlash) (bus : SpiBus) (k addr len : ℕ) : Outcome :=
  if (addr + len) % 2 ^ 64 > flash.size then ⟨flash, -EINVAL, k, [], []⟩
  else if bus.ret k ≠ 0 then ⟨flash, bus.ret k, k + 1, [], []⟩
  else ⟨flash, 0, k + 1, readBytes flash.buffer addr len, [(addr, len)]⟩

/-- `demo_flash_program_page(flash, addr, buf, len)`: write enable, the page
program transfer, the copy into the storage, and the wait for the chip. -/
def demoFlashProgramPage (flash : DemoFlash) (bus : SpiBus) (k addr : ℕ) (buf : List UInt8) :
    Outcome :=
  if buf.length > flashPageSize then ⟨flash, -EINVAL, k, [], []⟩
  else if (addr + buf.length) % 2 ^ 64 > flash.size then ⟨flash, -EINVAL, k, [], []⟩
  else if bus.ret k ≠ 0 then ⟨flash, bus.ret k, k + 1, [], []⟩
  else if bus.ret (k + 1) ≠ 0 then ⟨flash, bus.ret (k + 1), k + 2, [], []⟩
  else
    let w := waitReady bus (k + 2) 10
    ⟨{ flash with buffer := writeBytes flash.buffer addr buf }, w.1, w.2, [],
      [(addr, buf.length)]⟩

/-- `page_size` in the loop of `demo_flash_write` at `written`: the rest of
the page that `addr + written` is in, or of the buffer if that is shorter. -/
def writePageSize (addr written len : ℕ) : ℕ :=
  min (flashPageSize - (addr + written) % flashPageSize) (len - written)

/-- The body of the loop of `demo_flash_write` at `written`: the
`demo_flash_program_page` of the next page, at the `u32` address
`addr + written`. -/
def programPageAt (flash : DemoFlash) (bus : SpiBus) (k addr : ℕ) (buf : List UInt8)
    (written : ℕ) : Outcome :=
  demoFlashProgramPage flash bus k ((addr + written) % 2 ^ 32)
    ((buf.drop written).take (writePageSize addr written buf.length))

/-- The page loop of `demo_flash_write(flash, addr, buf, len)` from `written`
bytes on, for at most `fuel` pages. -/
def demoFlashWritePages (flash : DemoFlash) (bus : SpiBus) (k addr : ℕ) (buf : List UInt8) :
    (fuel written : ℕ) → Outcome
  | 0, _ => ⟨flash, 0, k, [], []⟩
  | fuel + 1, written =>
    if written < buf.length then
      let r := programPageAt flash bus k addr buf written
      if r.ret ≠ 0 then r
      else
        let r' := demoFlashWritePages r.flash bus r.next addr buf fuel
          (written + writePageSize addr written buf.length)
        { r' with accesses := r.accesses ++ r'.accesses }
    else ⟨flash, 0, k, [], []⟩

/-- `demo_flash_write(flash, addr, buf, len)`: each page takes at least one
byte, so `len` pages are enough for the loop. -/
def demoFlashWrite (flash : DemoFlash) (bus : SpiBus) (k addr : ℕ) (buf : List UInt8) :
    Outcome :=
  demoFlashWritePages flash bus k addr buf buf.length 0

/-- `demo_flash_erase_sector(flash, addr)`. -/
def demoFlashEraseSector (flash : DemoFlash) (bus : SpiBus) (k addr : ℕ) : Outcome :=
  let addr := addr &&& sectorMask
  if addr ≥ flash.size then ⟨flash, -EINVAL, k, [], []⟩
  else if bus.ret k ≠ 0 then ⟨flash, bus.ret k, k + 1, [], []⟩
  else if bus.ret (k + 1) ≠ 0 then ⟨flash, bus.ret (k + 1), k + 2, [], []⟩
  else
    let w := waitReady bus (k + 2) 500
    ⟨{ flash with buffer := writeBytes flash.buffer addr (List.replicate flashSectorSize 0xFF) },
      w.1, w.2, [], [(addr, flashSectorSize)]⟩

/-! ### The entry points -/

/-- `kmalloc(count, GFP_KERNEL)` does not fail: `kmalloc(0)` is `ZERO_SIZE_PTR`,
any other size is what the allocator answers. -/
def kmallocOk (count : ℕ) (alloc : Bool) : Bool := count = 0 || alloc

/-- The count `demo_flash_fread` and `demo_flash_fwrite` go on with at
position `pos`. -/
def clampCount (size : ℕ) (pos : ℤ) (count : ℕ) : ℕ :=
  if toSizeT (pos + count) > size then toSizeT (size - pos) else count

/-- `demo_flash_fread` at position `pos`: the outcome, the bytes the user
buffer received, and the new position. -/
def demoFlashFread (flash : DemoFlash) (bus : SpiBus) (pos : ℤ) (count room : ℕ) (alloc : Bool) :
    Outcome × List UInt8 × ℤ :=
  if toSizeT pos ≥ flash.size then (⟨flash, 0, 0, [], []⟩, [], pos)
  else
    let count := clampCount flash.size pos count
    if !kmallocOk count alloc then (⟨flash, -ENOMEM, 0, [], []⟩, [], pos)
    else
      let r := demoFlashRead flash bus 0 (pos % 2 ^ 32).toNat count
      if r.ret ≠ 0 then (r, [], pos)
      else
        let c := copyToUser r.data room
        if c.2 ≠ 0 then ({ r with ret := -EFAULT }, c.1, pos)
        else ({ r with ret := count }, c.1, loff (pos + count))

/-- `demo_flash_fwrite` at position `pos`: the outcome and the new position. -/
def demoFlashFwrite (flash : DemoFlash) (bus : SpiBus) (pos : ℤ) (buf : UserBuf) (count : ℕ)
    (alloc : Bool) : Outcome × ℤ :=
  if toSizeT pos ≥ flash.size then (⟨flash, -ENOSPC, 0, [], []⟩, pos)
  else
    let count := clampCount flash.size pos count
    if !kmallocOk count alloc then (⟨flash, -ENOMEM, 0, [], []⟩, pos)
    else if buf.readable.length < count then (⟨flash, -EFAULT, 0, [], []⟩, pos)
    else
      let r := demoFlashWrite flash bus 0 (pos % 2 ^ 32).toNat (buf.readable.take count)
      if r.ret ≠ 0 then (r, pos) else ({ r with ret := count }, loff (pos + count))

/-- `vfs_setpos(file, offset, maxsize)`: the result and the new position. -/
def vfsSetpos (fpos offset maxsize : ℤ) : ℤ × ℤ :=
  if offset < 0 then (-EINVAL, fpos)
  else if offset > maxsize then (-EINVAL, fpos)
  else (offset, offset)

/-- `fixed_size_llseek(file, offset, whence, size)`, that is
`generic_file_llseek_size` with `size` as both the limit and the end. -/
def fixedSizeLlseek (fpos offset : ℤ) (whence : ℕ) (size : ℤ) : ℤ × ℤ :=
  match whence with
  | 1 => if offset = 0 then (fpos, fpos) else vfsSetpos fpos (loff (fpos + offset)) size
  | 2 => vfsSetpos fpos (loff (offset + size)) size
  | 3 => if toSizeT offset ≥ size then (- ENXIO, fpos) else vfsSetpos fpos offset size
  | 4 => if toSizeT offset ≥ size then (- ENXIO, fpos) else vfsSetpos fpos size size
  | _ => vfsSetpos fpos offset size

/-- `demo_flash_ioctl(file, cmd, arg)`: the outcome and the bytes copied to
user space. -/
def demoFlashIoctl (flash : DemoFlash) (bus : SpiBus) (cmd : UInt32) (arg : UserBuf) (room : ℕ) :
    Outcome × List UInt8 :=
  if cmd = flashIocErase then
    if arg.readable.length < 4 then (⟨flash, -EFAULT, 0, [], []⟩, [])
    else (demoFlashEraseSector flash bus 0 (decodeLE (arg.readable.take 4)), [])
  else if cmd = flashIocGetsize then
    let c := copyToUser (encodeLE 8 flash.size) room
    (⟨flash, if c.2 ≠ 0 then -EFAULT else 0, 0, [], []⟩, c.1)
  else (⟨flash, -ENOTTY, 0, [], []⟩, [])

/-! ### Runs

The flash, the position of each open file, and every storage access made so
far. An operation is a system call on the device with what the chip and the
allocator answer; `read` and `write` get at most `MAX_RW_COUNT` bytes from
the VFS. -/

structure FlashSys where
  flash : DemoFlash
  fpos : ℕ → ℤ
  accesses : List (ℤ × ℕ)

def FlashSys.init : FlashSys := ⟨demoFlashProbe, fun _ => 0, []⟩

inductive FlashOp
  | read (f : ℕ) (count room : ℕ) (alloc : Bool) (bus : SpiBus)
  | write (f : ℕ) (buf : UserBuf) (count : ℕ) (alloc : Bool) (bus : SpiBus)
  | llseek (f : ℕ) (offset : ℤ) (whence : ℕ)
  | ioctl (cmd : UInt32) (arg : UserBuf) (room : ℕ) (bus : SpiBus)

/-- One system call; the output is its return value and the bytes it copied
to user space. -/
def flashStep (s : FlashSys) : FlashOp → FlashSys × ℤ × List UInt8
  | .read f count room alloc bus =>
    let r := demoFlashFread s.flash bus (s.fpos f) (min count maxRwCount) room alloc
    (⟨r.1.flash, Function.update s.fpos f r.2.2, s.accesses ++ r.1.accesses⟩, r.1.ret, r.2.1)
  | .write f buf count alloc bus =>
    let r := demoFlashFwrite s.flash bus (s.fpos f) buf (min count maxRwCount) alloc
    (⟨r.1.flash, Function.update s.fpos f r.2, s.accesses ++ r.1.accesses⟩, r.1.ret, [])
  | .llseek f offset whence =>
    let r := fixedSizeLlseek (s.fpos f) (loff offset) whence s.flash.size
    (⟨s.flash, Function.update s.fpos f r.2, s.accesses⟩, r.1, [])
  | .ioctl cmd arg room bus =>
    let r := demoFlashIoctl s.flash bus cmd arg room
    (⟨r.1.flash, s.fpos, s.accesses ++ r.1.accesses⟩, r.1.ret, r.2)

/-- Every SPI call succeeds and every status read reports the chip ready. -/
def BusReady (bus : SpiBus) : Prop := ∀ k, bus.ret k = 0 ∧ bus.status k &&& statusWip = 0

/-- A page takes at least one byte, and no more than the rest of its page. -/
theorem writePageSize_mem (addr written len : ℕ) (hw : written < len) :
    0 < writePageSize addr written len ∧ writePageSize addr written len ≤ len - written ∧
      (addr + written) % flashPageSize + writePageSize addr written len ≤ flashPageSize := by
  have := Nat.mod_lt (addr + written) (show 0 < flashPageSize by decide)
  unfold writePageSize
  omega

theorem length_page (buf : List UInt8) (addr : ℕ) {written : ℕ} (hw : written < buf.length) :
    ((buf.drop written).take (writePageSize addr written buf.length)).length =
      writePageSize addr written buf.length := by
  have := writePageSize_mem addr written buf.length hw
  simp only [List.length_take, List.length_drop]
  omega

/-- A page program that passes its checks and returns 0 has stored its bytes. -/
theorem demoFlashProgramPage_ok {flash : DemoFlash} {bus : SpiBus} {k addr : ℕ} {buf : List UInt8}
    (hl : buf.length ≤ flashPageSize) (ha : addr + buf.length ≤ flash.size)
    (hs : addr + buf.length < 2 ^ 64) (hr : (demoFlashProgramPage flash bus k addr buf).ret = 0) :
    (demoFlashProgramPage flash bus k addr buf).flash =
        { flash with buffer := writeBytes flash.buffer addr buf } ∧
      (demoFlashProgramPage flash bus k addr buf).accesses = [((addr : ℤ), buf.length)] := by
  rw [demoFlashProgramPage, if_neg (by omega), if_neg (by rw [Nat.mod_eq_of_lt hs]; omega)] at hr ⊢
  split_ifs at hr ⊢ with h1 h2
  exacts [absurd hr h1, absurd hr h2, ⟨rfl, rfl⟩]

/-- In the loop, a page program that returns 0 has stored the next page. -/
theorem programPageAt_ok {flash : DemoFlash} {bus : SpiBus} {k addr : ℕ} {buf : List UInt8}
    {written : ℕ} (hw : written < buf.length) (ha : addr + buf.length < 2 ^ 32)
    (hs : addr + buf.length ≤ flash.size) (hr : (programPageAt flash bus k addr buf written).ret = 0) :
    (programPageAt flash bus k addr buf written).flash =
        { flash with
          buffer := writeBytes flash.buffer (addr + written : ℕ)
            ((buf.drop written).take (writePageSize addr written buf.length)) } ∧
      (programPageAt flash bus k addr buf written).accesses =
        [(((addr + written : ℕ) : ℤ), writePageSize addr written buf.length)] := by
  have hpage := writePageSize_mem addr written buf.length hw
  have hlen := length_page buf addr hw
  unfold programPageAt at hr ⊢
  rw [Nat.mod_eq_of_lt (by omega)] at hr ⊢
  have h := demoFlashProgramPage_ok (by omega) (by omega) (by omega) hr
  rwa [hlen] at h

/-- Storing the first `n` bytes of `l` and then `t` after them stores
`l.take n ++ t`. -/
theorem writeBytes_take_append (m : ℤ → UInt8) (p n : ℕ) (l t : List UInt8) (hn : n ≤ l.length) :
    writeBytes (writeBytes m p (l.take n)) (p + n : ℕ) t = writeBytes m p (l.take n ++ t) := by
  have e : ((p + n : ℕ) : ℤ) = p + (l.take n).length := by simp [Nat.min_eq_left hn]
  rw [e, writeBytes_append]

/-- `calls` cut `[a, a + len)` into the consecutive pieces `(a_j, n_j)` of the
page loop: each of 1 to `FLASH_PAGE_SIZE` bytes and inside one page. -/
def PageChunks (a : ℕ) : List (ℤ × ℕ) → ℕ → Prop
  | [], len => len = 0
  | (b, n) :: rest, len =>
    b = a ∧ 1 ≤ n ∧ n ≤ len ∧ a % flashPageSize + n ≤ flashPageSize ∧ PageChunks (a + n) rest (len - n)

/-- **The page loop, whatever the chip answers.** Either every page program
succeeds: the loop returns 0, its programs cut the rest of the buffer into
pieces inside one page each, and the storage holds the rest of the buffer.
Or the programs of the pages before byte `w` succeed and the next one fails:
the loop then returns that program's outcome, its error and what it stored,
after the earlier pages' accesses, and programs no later page. -/
theorem demoFlashWritePages_outcome (bus : SpiBus) (addr : ℕ) (buf : List UInt8)
    (ha : addr + buf.length < 2 ^ 32) :
    ∀ (fuel written : ℕ) (flash : DemoFlash) (k : ℕ), addr + buf.length ≤ flash.size →
      buf.length - written ≤ fuel →
      ((demoFlashWritePages flash bus k addr buf fuel written).ret = 0 ∧
        PageChunks (addr + written) (demoFlashWritePages flash bus k addr buf fuel written).accesses
          (buf.length - written) ∧
        (demoFlashWritePages flash bus k addr buf fuel written).flash =
          { flash with buffer := writeBytes flash.buffer (addr + written : ℕ) (buf.drop written) }) ∨
      ∃ w k' acc,
        let r := programPageAt
          { flash with
            buffer := writeBytes flash.buffer (addr + written : ℕ) ((buf.drop written).take (w - written)) }
          bus k' addr buf w
        written ≤ w ∧ w < buf.length ∧ PageChunks (addr + written) acc (w - written) ∧
          r.ret ≠ 0 ∧ demoFlashWritePages flash bus k addr buf fuel written =
            { r with accesses := acc ++ r.accesses }
  | 0, written, flash, k, _, hf => by
    left
    rw [List.drop_of_length_le (by omega), writeBytes_nil]
    exact ⟨rfl, show buf.length - written = 0 by omega, rfl⟩
  | fuel + 1, written, flash, k, hs, hf => by
    by_cases hw : written < buf.length
    swap
    · left
      rw [demoFlashWritePages, if_neg hw, List.drop_of_length_le (by omega), writeBytes_nil]
      exact ⟨rfl, show buf.length - written = 0 by omega, rfl⟩
    have hpage := writePageSize_mem addr written buf.length hw
    rw [demoFlashWritePages, if_pos hw]
    dsimp only
    by_cases hr : (programPageAt flash bus k addr buf written).ret = 0
    · rw [if_neg (not_not.mpr hr)]
      obtain ⟨hfl, hacc⟩ := programPageAt_ok hw ha hs hr
      have ih := demoFlashWritePages_outcome bus addr buf ha fuel
        (written + writePageSize addr written buf.length) (programPageAt flash bus k addr buf written).flash
        (programPageAt flash bus k addr buf written).next (by rw [hfl]; exact hs) (by omega)
      rw [hfl] at ih ⊢
      rw [hacc]
      generalize writePageSize addr written buf.length = ps at hpage ih ⊢
      have hps : ps ≤ (buf.drop written).length := by rw [List.length_drop]; omega
      rcases ih with ⟨h1, h2, h3⟩ | ⟨w, k', acc, hw1, hw2, hacc', hr', heq⟩
      · left
        refine ⟨h1, ⟨rfl, by omega, by omega, by omega, ?_⟩, ?_⟩
        · rwa [Nat.add_assoc, Nat.sub_sub]
        · rw [h3, ← Nat.add_assoc, ← List.drop_drop, writeBytes_take_append _ _ _ _ _ hps,
            List.take_append_drop]
      · have hpre : writeBytes (writeBytes flash.buffer (addr + written : ℕ) ((buf.drop written).take ps))
            (addr + (written + ps) : ℕ) ((buf.drop (written + ps)).take (w - (written + ps))) =
            writeBytes flash.buffer (addr + written : ℕ) ((buf.drop written).take (w - written)) := by
          rw [← Nat.add_assoc, ← List.drop_drop, writeBytes_take_append _ _ _ _ _ hps, ← List.take_add,
            show ps + (w - (written + ps)) = w - written by omega]
        dsimp only at hr' heq
        rw [hpre] at hr' heq
        right
        refine ⟨w, k', ((addr + written : ℕ), ps) :: acc, by omega, hw2,
          ⟨rfl, by omega, by omega, by omega, ?_⟩, hr', ?_⟩
        · rwa [Nat.add_assoc, show w - written - ps = w - (written + ps) by omega]
        · rw [heq]
          rfl
    · rw [if_pos hr]
      right
      refine ⟨written, k, [], le_rfl, hw, show written - written = 0 by omega, ?_, ?_⟩
      · simpa only [Nat.sub_self, List.take_zero, writeBytes_nil] using hr
      · simp only [Nat.sub_self, List.take_zero, writeBytes_nil, List.nil_append]

section Ready

variable {bus : SpiBus} (hb : BusReady bus)
include hb

theorem waitReady_ready (k n : ℕ) : waitReady bus k (n + 1) = (0, k + 1) := by
  simp [waitReady, (hb k).1, (hb k).2]

theorem demoFlashProgramPage_ready (flash : DemoFlash) (k addr : ℕ) (buf : List UInt8)
    (hl : buf.length ≤ flashPageSize) (ha : addr + buf.length ≤ flash.size)
    (hs : addr + buf.length < 2 ^ 64) :
    demoFlashProgramPage flash bus k addr buf =
      ⟨{ flash with buffer := writeBytes flash.buffer addr buf }, 0, k + 3, [],
        [(addr, buf.length)]⟩ := by
  rw [demoFlashProgramPage, if_neg (by omega), if_neg (by rw [Nat.mod_eq_of_lt hs]; omega),
    if_neg (by simp [(hb k).1]), if_neg (by simp [(hb (k + 1)).1])]
  simp only [waitReady_ready hb]

theorem programPageAt_ready {flash : DemoFlash} {k addr : ℕ} {buf : List UInt8} {written : ℕ}
    (hw : written < buf.length) (ha : addr + buf.length < 2 ^ 32) (hs : addr + buf.length ≤ flash.size) :
    (programPageAt flash bus k addr buf written).ret = 0 := by
  have hpage := writePageSize_mem addr written buf.length hw
  have hlen := length_page buf addr hw
  unfold programPageAt
  rw [Nat.mod_eq_of_lt (by omega), demoFlashProgramPage_ready hb _ _ _ _ (by omega) (by omega)
    (by omega)]

/-- **The page loop stores the rest of the buffer** from `written` on, given
enough pages, when the chip answers ready: no page program fails. -/
theorem demoFlashWritePages_ready (addr : ℕ) (buf : List UInt8) (ha : addr + buf.length < 2 ^ 32)
    (fuel written : ℕ) (flash : DemoFlash) (k : ℕ) (hs : addr + buf.length ≤ flash.size)
    (hf : buf.length - written ≤ fuel) :
    (demoFlashWritePages flash bus k addr buf fuel written).ret = 0 ∧
      (demoFlashWritePages flash bus k addr buf fuel written).flash =
        { flash with buffer := writeBytes flash.buffer (addr + written : ℕ) (buf.drop written) } := by
  rcases demoFlashWritePages_outcome bus addr buf ha fuel written flash k hs hf with
    ⟨h1, _, h3⟩ | ⟨w, k', acc, _, hw, _, hr, _⟩
  · exact ⟨h1, h3⟩
  · exact (hr (programPageAt_ready hb hw ha hs)).elim

theorem demoFlashRead_ready (flash : DemoFlash) (k addr len : ℕ) (ha : addr + len ≤ flash.size)
    (hs : addr + len < 2 ^ 64) :
    demoFlashRead flash bus k addr len =
      ⟨flash, 0, k + 1, readBytes flash.buffer addr len, [(addr, len)]⟩ := by
  rw [demoFlashRead, if_neg (by rw [Nat.mod_eq_of_lt hs]; omega), if_neg (by simp [(hb k).1])]

theorem demoFlashEraseSector_ready (flash : DemoFlash) (k addr : ℕ)
    (h : addr &&& sectorMask < flash.size) :
    demoFlashEraseSector flash bus k addr =
      ⟨{ flash with
          buffer := writeBytes flash.buffer (addr &&& sectorMask : ℕ)
            (List.replicate flashSectorSize 0xFF) },
        0, k + 3, [], [((addr &&& sectorMask : ℕ), flashSectorSize)]⟩ := by
  rw [demoFlashEraseSector]
  dsimp only
  rw [if_neg (by omega), if_neg (by simp [(hb k).1]), if_neg (by simp [(hb (k + 1)).1])]
  simp only [waitReady_ready hb]

end Ready

/-- **`demo_flash_write` inside the flash, whatever the chip answers.** When
every transfer succeeds and every status read reports the chip ready, it
returns 0. When it returns 0, its page programs cut `[addr, addr + len)` into
consecutive pieces of 1 to 256 bytes that never cross a page, and the storage
afterwards is the old one overwritten by `buf` there. When it returns an
error, that is the error of the first page program that failed, at byte `w`
of `buf`: the pages before it were programmed in pieces as above, and the
write's outcome is that program's, so no later page is programmed. -/
theorem flash_write_page_chunks {flash : DemoFlash} (hsize : flash.size = flashSize) (bus : SpiBus)
    (k addr : ℕ) (buf : List UInt8) (ha : addr + buf.length ≤ flash.size) :
    (BusReady bus → (demoFlashWrite flash bus k addr buf).ret = 0) ∧
      ((demoFlashWrite flash bus k addr buf).ret = 0 →
        PageChunks addr (demoFlashWrite flash bus k addr buf).accesses buf.length ∧
          (demoFlashWrite flash bus k addr buf).flash =
            { flash with buffer := writeBytes flash.buffer addr buf }) ∧
      ((demoFlashWrite flash bus k addr buf).ret ≠ 0 →
        ∃ w k' acc,
          let r := programPageAt { flash with buffer := writeBytes flash.buffer addr (buf.take w) }
            bus k' addr buf w
          w < buf.length ∧ PageChunks addr acc w ∧ r.ret ≠ 0 ∧
            demoFlashWrite flash bus k addr buf = { r with accesses := acc ++ r.accesses }) := by
  have h32 : addr + buf.length < 2 ^ 32 := by rw [hsize] at ha; simp only [flashSize] at ha; omega
  have h := demoFlashWritePages_outcome bus addr buf h32 buf.length 0 flash k ha (Nat.sub_le _ _)
  simp only [Nat.add_zero, Nat.sub_zero, List.drop_zero] at h
  refine ⟨fun hb => (demoFlashWritePages_ready hb addr buf h32 _ 0 flash k ha (Nat.sub_le _ _)).1,
    fun hr => ?_, fun hr => ?_⟩
  · rcases h with ⟨_, h2, h3⟩ | ⟨w, k', acc, _, _, _, hr', heq⟩
    · exact ⟨h2, by rw [demoFlashWrite, h3]⟩
    · rw [demoFlashWrite, heq] at hr
      exact absurd hr hr'
  · rcases h with ⟨h1, _, _⟩ | ⟨w, k', acc, _, hw, hacc, hr', heq⟩
    · exact absurd h1 hr
    · exact ⟨w, k', acc, hw, hacc, hr', heq⟩

/-- A ready chip and ten bytes written across the page boundary at 250: two
page programs, of 6 and 4 bytes. -/
theorem flash_write_across_page :
    let bus : SpiBus := ⟨fun _ => 0, fun _ => 0⟩
    let buf := List.replicate 10 (7 : UInt8)
    BusReady bus ∧ demoFlashProbe.size = flashSize ∧ 250 + buf.length ≤ demoFlashProbe.size ∧
      (demoFlashWrite demoFlashProbe bus 0 250 buf).ret = 0 ∧
      PageChunks 250 (demoFlashWrite demoFlashProbe bus 0 250 buf).accesses buf.length ∧
      (demoFlashWrite demoFlashProbe bus 0 250 buf).flash =
        { demoFlashProbe with buffer := writeBytes demoFlashProbe.buffer 250 buf } :=
  have hb : BusReady ⟨fun _ => 0, fun _ => 0⟩ := fun _ => ⟨rfl, show (0 : UInt8) &&& statusWip = 0 by decide⟩
  have h := flash_write_page_chunks rfl ⟨fun _ => 0, fun _ => 0⟩ 0 250 (List.replicate 10 7) (by decide)
  ⟨hb, rfl, by decide, h.1 hb, h.2.1 (h.1 hb)⟩

/-- With every transfer succeeding but the chip always busy, a two-byte
write at 255 programs the byte of the first page only and returns
`-ETIMEDOUT`: byte 256 keeps its `0xFF`. -/
theorem flash_write_stops_at_busy_page :
    let busy : SpiBus := ⟨fun _ => 0, fun _ => statusWip⟩
    (demoFlashWrite demoFlashProbe busy 0 255 [0, 0]).ret = -ETIMEDOUT ∧
      (demoFlashWrite demoFlashProbe busy 0 255 [0, 0]).accesses = [(255, 1)] ∧
      (demoFlashWrite demoFlashProbe busy 0 255 [0, 0]).flash.buffer 256 = 0xFF := by
  decide

/-! ### Counts and sectors -/

/-- The clamped count is `min count (size - pos)` for a position inside the
array and a count the VFS passes. -/
theorem clampCount_eq {size : ℕ} {pos : ℤ} {count : ℕ} (h0 : 0 ≤ pos) (hp : pos < size)
    (hs : size ≤ 2 ^ 32) (hc : count ≤ maxRwCount) :
    clampCount size pos count = min count (size - pos).toNat := by
  have hm : maxRwCount = 2147479552 := rfl
  have h1 : toSizeT (pos + count) = (pos + count).toNat := by
    rw [toSizeT, Int.emod_eq_of_lt (by omega) (by omega)]
  have h2 : toSizeT (size - pos) = (size - pos).toNat := by
    rw [toSizeT, Int.emod_eq_of_lt (by omega) (by omega)]
  rw [clampCount, h1, h2]
  split_ifs <;> omega

/-- An erased sector starts at a multiple of `FLASH_SECTOR_SIZE`. -/
theorem sector_aligned (a : ℕ) : (a &&& sectorMask) % flashSectorSize = 0 := by
  rw [show flashSectorSize = 2 ^ 12 from rfl, ← Nat.and_pow_two_sub_one_eq_mod, Nat.and_assoc,
    show sectorMask &&& 2 ^ 12 - 1 = 0 by decide, Nat.and_zero]

/-! ### The entry points at a position inside the array

Positions stay in `[0, FLASH_SIZE]`. At the end, `read` returns 0 and `write`
`-ENOSPC`; before it, with the chip ready, the allocation made and no fault
copying to or from user space, they move `min count (FLASH_SIZE - pos)`
bytes. -/

theorem toSizeT_eq_toNat {x : ℤ} (h0 : 0 ≤ x) (h1 : x < 2 ^ 64) : toSizeT x = x.toNat := by
  rw [toSizeT, Int.emod_eq_of_lt h0 h1]

section Entry

variable {flash : DemoFlash} (hsize : flash.size = flashSize)
include hsize

theorem demoFlashFread_end (bus : SpiBus) (count room : ℕ) (alloc : Bool) :
    demoFlashFread flash bus flashSize count room alloc =
      (⟨flash, 0, 0, [], []⟩, [], (flashSize : ℤ)) := by
  rw [demoFlashFread, if_pos (by rw [hsize]; decide)]

theorem demoFlashFwrite_end (bus : SpiBus) (buf : UserBuf) (count : ℕ) (alloc : Bool) :
    demoFlashFwrite flash bus flashSize buf count alloc =
      (⟨flash, -ENOSPC, 0, [], []⟩, (flashSize : ℤ)) := by
  rw [demoFlashFwrite, if_pos (by rw [hsize]; decide)]

/-- Inside the array `demo_flash_fread` reads `min count (FLASH_SIZE - pos)`
bytes at `pos`: the clamp and the `u32` address are exact, and so is the new
position. -/
theorem demoFlashFread_inside (bus : SpiBus) {pos : ℤ} (h0 : 0 ≤ pos) (hp : pos < flashSize)
    {count : ℕ} (hc : count ≤ maxRwCount) (room : ℕ) (alloc : Bool) :
    demoFlashFread flash bus pos count room alloc =
      let n := min count (flashSize - pos).toNat
      if !kmallocOk n alloc then (⟨flash, -ENOMEM, 0, [], []⟩, [], pos)
      else
        let r := demoFlashRead flash bus 0 pos.toNat n
        if r.ret ≠ 0 then (r, [], pos)
        else
          let c := copyToUser r.data room
          if c.2 ≠ 0 then ({ r with ret := -EFAULT }, c.1, pos)
          else ({ r with ret := n }, c.1, pos + n) := by
  have hf : flashSize = 65536 := rfl
  have hk : clampCount flash.size pos count = min count (flashSize - pos).toNat := by
    rw [hsize]; exact clampCount_eq h0 hp (by decide) hc
  have ht : ¬toSizeT pos ≥ flash.size := by
    rw [hsize, toSizeT_eq_toNat h0 (by omega)]; omega
  have ha : (pos % 2 ^ 32).toNat = pos.toNat := by rw [Int.emod_eq_of_lt h0 (by omega)]
  have hl : loff (pos + min count (flashSize - pos).toNat) = pos + min count (flashSize - pos).toNat :=
    loff_of_mem (by omega) (by omega)
  rw [demoFlashFread, if_neg ht]
  dsimp only
  rw [hk, ha, hl]

/-- Inside the array `demo_flash_fwrite` writes the first
`min count (FLASH_SIZE - pos)` bytes of the user buffer at `pos`. -/
theorem demoFlashFwrite_inside (bus : SpiBus) {pos : ℤ} (h0 : 0 ≤ pos) (hp : pos < flashSize)
    (buf : UserBuf) {count : ℕ} (hc : count ≤ maxRwCount) (alloc : Bool) :
    demoFlashFwrite flash bus pos buf count alloc =
      let n := min count (flashSize - pos).toNat
      if !kmallocOk n alloc then (⟨flash, -ENOMEM, 0, [], []⟩, pos)
      else if buf.readable.length < n then (⟨flash, -EFAULT, 0, [], []⟩, pos)
      else
        let r := demoFlashWrite flash bus 0 pos.toNat (buf.readable.take n)
        if r.ret ≠ 0 then (r, pos) else ({ r with ret := n }, pos + n) := by
  have hf : flashSize = 65536 := rfl
  have hk : clampCount flash.size pos count = min count (flashSize - pos).toNat := by
    rw [hsize]; exact clampCount_eq h0 hp (by decide) hc
  have ht : ¬toSizeT pos ≥ flash.size := by
    rw [hsize, toSizeT_eq_toNat h0 (by omega)]; omega
  have ha : (pos % 2 ^ 32).toNat = pos.toNat := by rw [Int.emod_eq_of_lt h0 (by omega)]
  have hl : loff (pos + min count (flashSize - pos).toNat) = pos + min count (flashSize - pos).toNat :=
    loff_of_mem (by omega) (by omega)
  rw [demoFlashFwrite, if_neg ht]
  dsimp only
  rw [hk, ha, hl]

theorem demoFlashFread_ready {bus : SpiBus} (hb : BusReady bus) {pos : ℤ} (h0 : 0 ≤ pos)
    (hp : pos ≤ flashSize) {count : ℕ} (hc : count ≤ maxRwCount) {room : ℕ} (hroom : count ≤ room) :
    (demoFlashFread flash bus pos count room true).1.flash = flash ∧
      (demoFlashFread flash bus pos count room true).1.ret = min count (flashSize - pos).toNat ∧
      (demoFlashFread flash bus pos count room true).2.1 =
        readBytes flash.buffer pos (min count (flashSize - pos).toNat) ∧
      (demoFlashFread flash bus pos count room true).2.2 =
        pos + min count (flashSize - pos).toNat := by
  have hf : flashSize = 65536 := rfl
  rcases (show pos = flashSize ∨ pos < flashSize by omega) with rfl | hp
  · rw [demoFlashFread_end hsize, show min count ((flashSize : ℤ) - flashSize).toNat = 0 by omega]
    exact ⟨rfl, rfl, rfl, by dsimp only; omega⟩
  have hr := demoFlashRead_ready hb flash 0 pos.toNat (min count (flashSize - pos).toNat)
    (by rw [hsize]; omega) (by omega)
  have hcopy := copyToUser_of_le (readBytes flash.buffer pos (min count (flashSize - pos).toNat))
    (show _ ≤ room by rw [readBytes_length]; omega)
  rw [demoFlashFread_inside hsize bus h0 hp hc]
  simp only [kmallocOk, Bool.or_true, Bool.not_true, Bool.false_eq_true, if_false, hr, hcopy,
    ne_eq, not_true_eq_false, Int.toNat_of_nonneg h0, and_self]

theorem demoFlashFwrite_ready {bus : SpiBus} (hb : BusReady bus) {pos : ℤ} (h0 : 0 ≤ pos)
    (hp : pos < flashSize) {count : ℕ} (hc : count ≤ maxRwCount) {buf : UserBuf}
    (hread : count ≤ buf.readable.length) :
    (demoFlashFwrite flash bus pos buf count true).1.flash =
        { flash with
          buffer := writeBytes flash.buffer pos
            (buf.readable.take (min count (flashSize - pos).toNat)) } ∧
      (demoFlashFwrite flash bus pos buf count true).1.ret = min count (flashSize - pos).toNat ∧
      (demoFlashFwrite flash bus pos buf count true).2 = pos + min count (flashSize - pos).toNat := by
  have hf : flashSize = 65536 := rfl
  have hlen : (buf.readable.take (min count (flashSize - pos).toNat)).length ≤
      min count (flashSize - pos).toNat := by
    simp only [List.length_take]; omega
  obtain ⟨h1, h2⟩ := demoFlashWritePages_ready hb pos.toNat
    (buf.readable.take (min count (flashSize - pos).toNat)) (by omega)
    (buf.readable.take (min count (flashSize - pos).toNat)).length 0 flash 0 (by omega) (by omega)
  rw [demoFlashFwrite_inside hsize bus h0 hp buf hc]
  simp only [kmallocOk, Bool.or_true, Bool.not_true, Bool.false_eq_true, if_false,
    show ¬ buf.readable.length < min count (flashSize - pos).toNat by omega, demoFlashWrite, h1, h2,
    ne_eq, not_true_eq_false, Nat.add_zero, List.drop_zero, Int.toNat_of_nonneg h0, and_self]

end Entry


/-! ### Every storage access stays inside the buffer

Whatever the chip and the allocator answer: each function's checks keep its
`memcpy` or `memset` inside `[0, flash->size)`. -/

/-- Every range of `accs` lies inside `[0, size)`. -/
def AccessesIn (size : ℕ) (accs : List (ℤ × ℕ)) : Prop :=
  ∀ acc ∈ accs, 0 ≤ acc.1 ∧ acc.1 + acc.2 ≤ size

theorem accessesIn_nil (size : ℕ) : AccessesIn size [] := fun _ h => absurd h (List.not_mem_nil _)

theorem accessesIn_single {size p n : ℕ} (h : p + n ≤ size) : AccessesIn size [((p : ℤ), n)] := by
  intro acc hacc
  rw [List.mem_singleton.mp hacc]
  exact ⟨by omega, by omega⟩

theorem AccessesIn.append {size : ℕ} {a b : List (ℤ × ℕ)} (ha : AccessesIn size a)
    (hb : AccessesIn size b) : AccessesIn size (a ++ b) := by
  intro acc hacc
  rcases List.mem_append.mp hacc with h | h
  exacts [ha acc h, hb acc h]

theorem demoFlashRead_accesses (flash : DemoFlash) (bus : SpiBus) (k addr len : ℕ)
    (h : addr + len < 2 ^ 64) :
    (demoFlashRead flash bus k addr len).flash = flash ∧
      AccessesIn flash.size (demoFlashRead flash bus k addr len).accesses := by
  unfold demoFlashRead
  split_ifs with h1
  · exact ⟨rfl, accessesIn_nil _⟩
  · exact ⟨rfl, accessesIn_nil _⟩
  · exact ⟨rfl, accessesIn_single (by rw [Nat.mod_eq_of_lt h] at h1; omega)⟩

theorem demoFlashProgramPage_accesses (flash : DemoFlash) (bus : SpiBus) (k addr : ℕ)
    (buf : List UInt8) (h : addr < 2 ^ 32) :
    (demoFlashProgramPage flash bus k addr buf).flash.size = flash.size ∧
      AccessesIn flash.size (demoFlashProgramPage flash bus k addr buf).accesses := by
  unfold demoFlashProgramPage
  split_ifs with h1 h2
  all_goals first
    | exact ⟨rfl, accessesIn_nil _⟩
    | exact ⟨rfl, accessesIn_single (by
        rw [Nat.mod_eq_of_lt (by simp only [flashPageSize] at h1; omega)] at h2; omega)⟩

theorem demoFlashWritePages_accesses (bus : SpiBus) (addr : ℕ) (buf : List UInt8) :
    ∀ (fuel written : ℕ) (flash : DemoFlash) (k : ℕ),
      (demoFlashWritePages flash bus k addr buf fuel written).flash.size = flash.size ∧
        AccessesIn flash.size (demoFlashWritePages flash bus k addr buf fuel written).accesses
  | 0, _, _, _ => ⟨rfl, accessesIn_nil _⟩
  | fuel + 1, written, flash, k => by
    unfold demoFlashWritePages
    dsimp only
    split_ifs
    · exact demoFlashProgramPage_accesses _ _ _ _ _ (Nat.mod_lt _ (by decide))
    · obtain ⟨hs, ha⟩ := demoFlashProgramPage_accesses flash bus k ((addr + written) % 2 ^ 32)
        ((buf.drop written).take (min (flashPageSize - (addr + written) % flashPageSize)
          (buf.length - written))) (Nat.mod_lt _ (by decide))
      obtain ⟨hs', ha'⟩ := demoFlashWritePages_accesses bus addr buf fuel _ _ _
      rw [hs] at hs' ha'
      exact ⟨hs', ha.append ha'⟩
    · exact ⟨rfl, accessesIn_nil _⟩

theorem demoFlashEraseSector_accesses (flash : DemoFlash) (bus : SpiBus) (k addr : ℕ)
    (hs : flash.size = flashSize) :
    (demoFlashEraseSector flash bus k addr).flash.size = flash.size ∧
      AccessesIn flash.size (demoFlashEraseSector flash bus k addr).accesses := by
  have ha := sector_aligned addr
  unfold demoFlashEraseSector
  dsimp only
  split_ifs with h1
  all_goals first
    | exact ⟨rfl, accessesIn_nil _⟩
    | exact ⟨rfl, accessesIn_single (by
        rw [hs] at h1 ⊢; simp only [flashSectorSize, flashSize] at ha h1 ⊢; omega)⟩

/-- A position of `[0, FLASH_SIZE]` stays in it, and the read's accesses are
inside the buffer. -/
theorem demoFlashFread_accesses {flash : DemoFlash} (hsize : flash.size = flashSize)
    (bus : SpiBus) {pos : ℤ} (h0 : 0 ≤ pos) (hp : pos ≤ flashSize) {count : ℕ}
    (hc : count ≤ maxRwCount) (room : ℕ) (alloc : Bool) :
    (demoFlashFread flash bus pos count room alloc).1.flash = flash ∧
      AccessesIn flash.size (demoFlashFread flash bus pos count room alloc).1.accesses ∧
      0 ≤ (demoFlashFread flash bus pos count room alloc).2.2 ∧
      (demoFlashFread flash bus pos count room alloc).2.2 ≤ flashSize := by
  have hf : flashSize = 65536 := rfl
  rcases (show pos = flashSize ∨ pos < flashSize by omega) with rfl | hlt
  · rw [demoFlashFread_end hsize]
    exact ⟨rfl, accessesIn_nil _, h0, Int.le_refl _⟩
  obtain ⟨hr, hacc⟩ := demoFlashRead_accesses flash bus 0 pos.toNat
    (min count (flashSize - pos).toNat) (by omega)
  have hn : 0 ≤ pos + min count (flashSize - pos).toNat ∧
      pos + min count (flashSize - pos).toNat ≤ flashSize := by omega
  rw [demoFlashFread_inside hsize bus h0 hlt hc]
  dsimp only
  split_ifs <;> dsimp only
  · exact ⟨rfl, accessesIn_nil _, h0, hp⟩
  · exact ⟨hr, hacc, h0, hp⟩
  · exact ⟨hr, hacc, h0, hp⟩
  · exact ⟨hr, hacc, hn⟩

theorem demoFlashFwrite_accesses {flash : DemoFlash} (hsize : flash.size = flashSize)
    (bus : SpiBus) {pos : ℤ} (h0 : 0 ≤ pos) (hp : pos ≤ flashSize) (buf : UserBuf) {count : ℕ}
    (hc : count ≤ maxRwCount) (alloc : Bool) :
    (demoFlashFwrite flash bus pos buf count alloc).1.flash.size = flash.size ∧
      AccessesIn flash.size (demoFlashFwrite flash bus pos buf count alloc).1.accesses ∧
      0 ≤ (demoFlashFwrite flash bus pos buf count alloc).2 ∧
      (demoFlashFwrite flash bus pos buf count alloc).2 ≤ flashSize := by
  have hf : flashSize = 65536 := rfl
  rcases (show pos = flashSize ∨ pos < flashSize by omega) with rfl | hlt
  · rw [demoFlashFwrite_end hsize]
    exact ⟨rfl, accessesIn_nil _, h0, Int.le_refl _⟩
  obtain ⟨hs, hacc⟩ := demoFlashWritePages_accesses bus pos.toNat
    (buf.readable.take (min count (flashSize - pos).toNat))
    (buf.readable.take (min count (flashSize - pos).toNat)).length 0 flash 0
  have hn : 0 ≤ pos + min count (flashSize - pos).toNat ∧
      pos + min count (flashSize - pos).toNat ≤ flashSize := by omega
  rw [demoFlashFwrite_inside hsize bus h0 hlt buf hc]
  dsimp only
  split_ifs <;> dsimp only
  · exact ⟨rfl, accessesIn_nil _, h0, hp⟩
  · exact ⟨rfl, accessesIn_nil _, h0, hp⟩
  · exact ⟨hs, hacc, h0, hp⟩
  · exact ⟨hs, hacc, hn⟩

theorem vfsSetpos_mem {fpos offset maxsize : ℤ} (h : 0 ≤ fpos ∧ fpos ≤ maxsize) :
    0 ≤ (vfsSetpos fpos offset maxsize).2 ∧ (vfsSetpos fpos offset maxsize).2 ≤ maxsize := by
  unfold vfsSetpos
  split_ifs <;> dsimp only <;> omega

theorem fixedSizeLlseek_mem {fpos : ℤ} (offset : ℤ) (whence : ℕ) {size : ℤ}
    (h : 0 ≤ fpos ∧ fpos ≤ size) :
    0 ≤ (fixedSizeLlseek fpos offset whence size).2 ∧
      (fixedSizeLlseek fpos offset whence size).2 ≤ size := by
  unfold fixedSizeLlseek
  split
  · split_ifs
    exacts [h, vfsSetpos_mem h]
  · exact vfsSetpos_mem h
  · split_ifs
    exacts [h, vfsSetpos_mem h]
  · split_ifs
    exacts [h, vfsSetpos_mem h]
  · exact vfsSetpos_mem h

theorem demoFlashIoctl_accesses {flash : DemoFlash} (hsize : flash.size = flashSize) (bus : SpiBus)
    (cmd : UInt32) (arg : UserBuf) (room : ℕ) :
    (demoFlashIoctl flash bus cmd arg room).1.flash.size = flash.size ∧
      AccessesIn flash.size (demoFlashIoctl flash bus cmd arg room).1.accesses := by
  unfold demoFlashIoctl
  split_ifs
  all_goals first
    | exact ⟨rfl, accessesIn_nil _⟩
    | exact demoFlashEraseSector_accesses _ _ _ _ hsize

/-- What holds of the driver whatever the chip answers: the flash keeps its
size, positions stay in `[0, FLASH_SIZE]`, and every access so far was inside
the buffer. -/
structure Bounds (s : FlashSys) : Prop where
  size_eq : s.flash.size = flashSize
  pos_mem : ∀ f, 0 ≤ s.fpos f ∧ s.fpos f ≤ flashSize
  accesses_in : AccessesIn flashSize s.accesses

theorem bounds_init : Bounds FlashSys.init :=
  ⟨rfl, fun _ => ⟨Int.le_refl 0, Int.ofNat_zero_le _⟩, accessesIn_nil _⟩

/-- Each system call keeps the bounds. -/
theorem flashStep_bounds {s : FlashSys} (h : Bounds s) : ∀ op, Bounds (flashStep s op).1
  | .read f count room alloc bus => by
    obtain ⟨hf, hacc, hp0, hp1⟩ := demoFlashFread_accesses h.size_eq bus (h.pos_mem f).1
      (h.pos_mem f).2 (Nat.min_le_right count maxRwCount) room alloc
    refine ⟨by simp only [flashStep, hf, h.size_eq], forall_update (P := fun x => 0 ≤ x ∧ x ≤ flashSize)
      h.pos_mem f ⟨hp0, hp1⟩, h.accesses_in.append (h.size_eq ▸ hacc)⟩
  | .write f buf count alloc bus => by
    obtain ⟨hf, hacc, hp0, hp1⟩ := demoFlashFwrite_accesses h.size_eq bus (h.pos_mem f).1
      (h.pos_mem f).2 buf (Nat.min_le_right count maxRwCount) alloc
    refine ⟨by simp only [flashStep, hf, h.size_eq], forall_update (P := fun x => 0 ≤ x ∧ x ≤ flashSize)
      h.pos_mem f ⟨hp0, hp1⟩, h.accesses_in.append (h.size_eq ▸ hacc)⟩
  | .llseek f offset whence =>
    ⟨h.size_eq, forall_update (P := fun x => 0 ≤ x ∧ x ≤ flashSize) h.pos_mem f
      (by rw [← h.size_eq]; exact fixedSizeLlseek_mem _ whence (h.size_eq ▸ h.pos_mem f)),
      h.accesses_in⟩
  | .ioctl cmd arg room bus => by
    obtain ⟨hf, hacc⟩ := demoFlashIoctl_accesses h.size_eq bus cmd arg room
    exact ⟨by simp only [flashStep, hf, h.size_eq], h.pos_mem,
      h.accesses_in.append (h.size_eq ▸ hacc)⟩

/-- The bounds hold after every run. -/
theorem flash_bounds_run (ops : List FlashOp) : Bounds (run flashStep FlashSys.init ops).1 :=
  run_inv flashStep Bounds (fun _ op h => flashStep_bounds h op) ops _ bounds_init

/-! ### The byte array the driver stands for

What a user of the device sees: `FLASH_SIZE` bytes set to `0xFF` at probe, and
the position of each open file. A read or a write at `p` moves
`min(count, FLASH_SIZE - p)` bytes, none at or past the end, where a write is
refused with `-ENOSPC`; an erase sets to `0xFF` the 4 KiB sector that holds
its 32-bit address when that sector lies inside the array, and is refused
with `-EINVAL` otherwise. -/

structure FlashArray where
  content : ℤ → UInt8
  fpos : ℕ → ℤ

def FlashArray.init : FlashArray :=
  ⟨fun i => if 0 ≤ i ∧ i < flashSize then 0xFF else 0, fun _ => 0⟩

/-- One system call on the byte array. -/
def flashArrayStep (a : FlashArray) : FlashOp → FlashArray × ℤ × List UInt8
  | .read f count _ _ _ =>
    let p := a.fpos f
    let n := min count (flashSize - p).toNat
    (⟨a.content, Function.update a.fpos f (p + n)⟩, n, readBytes a.content p n)
  | .write f buf count _ _ =>
    let p := a.fpos f
    let n := min count (flashSize - p).toNat
    if p ≥ flashSize then (a, -ENOSPC, [])
    else (⟨writeBytes a.content p (buf.readable.take n), Function.update a.fpos f (p + n)⟩, n, [])
  | .llseek f offset whence =>
    let r := fixedSizeLlseek (a.fpos f) (loff offset) whence flashSize
    (⟨a.content, Function.update a.fpos f r.2⟩, r.1, [])
  | .ioctl cmd arg _ _ =>
    if cmd = flashIocErase then
      if arg.readable.length < 4 then (a, -EFAULT, [])
      else
        let sector := decodeLE (arg.readable.take 4) &&& sectorMask
        if sector < flashSize then
          (⟨writeBytes a.content sector (List.replicate flashSectorSize 0xFF), a.fpos⟩, 0, [])
        else (a, -EINVAL, [])
    else if cmd = flashIocGetsize then (a, 0, encodeLE 8 flashSize)
    else (a, -ENOTTY, [])

/-- The array a state of the driver stands for. -/
def FlashSys.view (s : FlashSys) : FlashArray := ⟨s.flash.buffer, s.fpos⟩

/-- The chip answers ready to the call and its allocation succeeds. -/
def EnvReady : FlashOp → Prop
  | .read _ _ _ alloc bus => alloc = true ∧ BusReady bus
  | .write _ _ _ alloc bus => alloc = true ∧ BusReady bus
  | .llseek _ _ _ => True
  | .ioctl _ _ _ bus => BusReady bus

/-- `MAX_RW_COUNT` is above the flash size, so the VFS clamp never cuts a
transfer inside the flash. -/
theorem min_maxRwCount (count : ℕ) {p : ℤ} (h0 : 0 ≤ p) :
    min (min count maxRwCount) (flashSize - p).toNat = min count (flashSize - p).toNat := by
  have : flashSize < maxRwCount := by decide
  omega

/-- The user buffers of a call cover its copies: `read`'s has room for
`count` bytes, `write`'s has `count` readable bytes, and `FLASH_IOC_GETSIZE`'s
has room for the `size_t` it gets. -/
def UserCovers : FlashOp → Prop
  | .read _ count room _ _ => count ≤ room
  | .write _ buf count _ _ => count ≤ buf.readable.length
  | .llseek _ _ _ => True
  | .ioctl cmd _ room _ => cmd = flashIocGetsize → 8 ≤ room

/-- **One system call refines the array's**, from a state within bounds, when
the chip answers ready and the user buffers cover the copies. -/
theorem flashStep_sim {s : FlashSys} (hs : Bounds s) :
    ∀ op, EnvReady op → UserCovers op →
      (flashStep s op).1.view = (flashArrayStep s.view op).1 ∧
        (flashStep s op).2 = (flashArrayStep s.view op).2
  | .read f count room alloc bus, ⟨halloc, hb⟩, hroom => by
    subst halloc
    obtain ⟨h0, hp⟩ := hs.pos_mem f
    obtain ⟨h1, h2, h3, h4⟩ := demoFlashFread_ready hs.size_eq hb h0 hp
      (Nat.min_le_right count maxRwCount) ((Nat.min_le_left _ _).trans hroom)
    dsimp only [flashStep, flashArrayStep, FlashSys.view]
    rw [h1, h2, h3, h4, min_maxRwCount count h0]
    exact ⟨rfl, rfl⟩
  | .write f buf count alloc bus, ⟨halloc, hb⟩, hread => by
    subst halloc
    obtain ⟨h0, hp⟩ := hs.pos_mem f
    dsimp only [flashStep, flashArrayStep, FlashSys.view]
    rcases (show s.fpos f = flashSize ∨ s.fpos f < flashSize by omega) with he | hlt
    · have hu : Function.update s.fpos f (flashSize : ℤ) = s.fpos := by
        rw [← he]; exact Function.update_eq_self f s.fpos
      rw [if_pos (by omega), he, demoFlashFwrite_end hs.size_eq]
      exact ⟨by rw [hu], rfl⟩
    · obtain ⟨h1, h2, h3⟩ := demoFlashFwrite_ready hs.size_eq hb h0 hlt
        (Nat.min_le_right count maxRwCount) ((Nat.min_le_left _ _).trans hread)
      rw [if_neg (by omega), h1, h2, h3, min_maxRwCount count h0]
      exact ⟨rfl, rfl⟩
  | .llseek f offset whence, _, _ => by
    dsimp only [flashStep, flashArrayStep, FlashSys.view]
    rw [hs.size_eq]
    exact ⟨rfl, rfl⟩
  | .ioctl cmd arg room bus, hb, hroom => by
    dsimp only [flashStep, flashArrayStep, FlashSys.view]
    unfold demoFlashIoctl
    dsimp only
    split_ifs with herase hl hsec hsize hcopy
    · exact ⟨rfl, rfl⟩
    · rw [demoFlashEraseSector_ready hb _ _ _ (by rw [hs.size_eq]; exact hsec)]
      exact ⟨rfl, rfl⟩
    · rw [demoFlashEraseSector, if_pos (by rw [hs.size_eq]; omega)]
      exact ⟨rfl, rfl⟩
    · rw [copyToUser_of_le _ (by rw [encodeLE_length]; exact hroom hsize)] at hcopy
      exact absurd rfl hcopy
    · rw [copyToUser_fst_of_snd (not_not.mp hcopy), hs.size_eq]
      exact ⟨rfl, rfl⟩
    · exact ⟨rfl, rfl⟩

end SpiFlash
end DriverGuide
