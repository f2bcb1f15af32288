/-
# simple_char is a byte file of at most 4096 bytes

`part3/simple-char/simple_char.c` keeps one buffer of `BUFFER_SIZE` bytes and
the number of bytes stored in it; `read`, `write` and `llseek` work on them
under `dev->lock`, each open file with its own position. Run one call at a
time (the mutex) over any number of files, the size never passes 4096
(`size_le_of_run`), and while the user buffers cover the copies the driver is
the byte file `ByteFile`: a read gives, up to the size, what the most recent
write put at each offset, or 0; a write stores what fits below 4096 and moves
the size up to its end; a seek sets a position that is not negative or fails
with `-EINVAL` (`simple_char_refines_byte_file`).

Key definitions: `scharRead`, `scharWrite`, `simpleLlseek`, `simpleStep`,
`ByteFile`, `byteFileStep`.
Key theorems: `simpleStep_inv`, `simpleStep_sim`, `simple_char_refines_byte_file`.
-/
import DriverGuide.Basic

namespace DriverGuide
namespace SimpleChar

/-! ### The driver -/

def bufferSize : ℕ := 4096

def seekSet : ℤ := 0
def seekCur : ℤ := 1
def seekEnd : ℤ := 2

/-- `struct simple_device`: the buffer and the number of bytes stored in it
(`cdev` registers the device; `lock` makes the calls run one at a time). -/
structure SimpleDevice where
  buffer : ℤ → UInt8
  size : ℕ

/-- The device after `simple_init`: static storage is zero, `size` is 0. -/
def simpleInit : SimpleDevice := ⟨fun _ => 0, 0⟩

/-- `schar_read(file, buf, count, ppos)` with `*ppos = pos` and `room`
writable bytes at `buf`: the new `*ppos`, the return value, and what `buf`
receives. -/
def scharRead (dev : SimpleDevice) (pos : ℤ) (count room : ℕ) : ℤ × ℤ × List UInt8 :=
  if toSizeT pos ≥ dev.size then (pos, 0, [])
  else
    let available := dev.size - toSizeT pos
    let count := if count > available then available else count
    let c := copyToUser (readBytes dev.buffer pos count) room
    if c.2 ≠ 0 then (pos, -EFAULT, c.1)
    else (loff (pos + count), count, c.1)

/-- `schar_write(file, buf, count, ppos)` with `*ppos = pos`: the device, the
new `*ppos` and the return value. -/
def scharWrite (dev : SimpleDevice) (pos : ℤ) (buf : UserBuf) (count : ℕ) :
    SimpleDevice × ℤ × ℤ :=
  if pos ≥ bufferSize then (dev, pos, -ENOSPC)
  else
    let space := toSizeT (bufferSize - pos)
    let count := if count > space then space else count
    let c := copyFromUser dev.buffer pos buf count
    if c.2 ≠ 0 then ({ dev with buffer := c.1 }, pos, -EFAULT)
    else
      let pos' := loff (pos + count)
      ({ buffer := c.1, size := if toSizeT pos' > dev.size then toSizeT pos' else dev.size },
        pos', count)

/-- The position `simple_llseek` computes, or `none` for an unknown `whence`. -/
def llseekTarget (size : ℕ) (fpos offset whence : ℤ) : Option ℤ :=
  if whence = seekSet then some offset
  else if whence = seekCur then some (loff (fpos + offset))
  else if whence = seekEnd then some (loff (size + offset))
  else none

/-- `simple_llseek(file, offset, whence)` with `file->f_pos = fpos`: the new
`f_pos` and the return value. -/
def simpleLlseek (dev : SimpleDevice) (fpos offset whence : ℤ) : ℤ × ℤ :=
  match llseekTarget dev.size fpos offset whence with
  | none => (fpos, -EINVAL)
  | some newpos => if newpos < 0 then (fpos, -EINVAL) else (newpos, newpos)

/-! ### Any number of files, one call at a time -/

/-- The device and the position of every file opened on it, by number; a
file opened anew starts at 0. -/
structure SimpleSys where
  dev : SimpleDevice
  fpos : ℕ → ℤ

def SimpleSys.init : SimpleSys := ⟨simpleInit, fun _ => 0⟩

/-- A call on file `f`: `read` with `room` writable bytes at the user buffer,
`write` of `count` bytes from `buf`, `llseek` (the offset is taken as a
`loff_t`). -/
inductive SimpleOp
  | read (f count room : ℕ)
  | write (f : ℕ) (buf : UserBuf) (count : ℕ)
  | llseek (f : ℕ) (offset whence : ℤ)

/-- One call: the return value and the bytes the user buffer receives. -/
def simpleStep (s : SimpleSys) : SimpleOp → SimpleSys × ℤ × List UInt8
  | .read f count room =>
    let r := scharRead s.dev (s.fpos f) count room
    ({ s with fpos := Function.update s.fpos f r.1 }, r.2.1, r.2.2)
  | .write f buf count =>
    let r := scharWrite s.dev (s.fpos f) buf count
    (⟨r.1, Function.update s.fpos f r.2.1⟩, r.2.2, [])
  | .llseek f offset whence =>
    let r := simpleLlseek s.dev (s.fpos f) (loff offset) whence
    ({ s with fpos := Function.update s.fpos f r.1 }, r.2, [])

/-! ### The byte file

What a user of `/dev/simple_char` is given: a file of at most 4096 bytes,
where `content i` is the byte of the most recent write that covered offset
`i`, or 0 if none did. -/

structure ByteFile where
  content : ℕ → UInt8
  size : ℕ
  pos : ℕ → ℤ

def ByteFile.init : ByteFile := ⟨fun _ => 0, 0, fun _ => 0⟩

/-- One call on the byte file. A read at `p` of `n` bytes returns
`min n (max 0 (size - p))` bytes of the content from `p`; a write at `p ≥ 4096`
fails with `-ENOSPC`, otherwise it stores `min n (4096 - p)` bytes from `p`,
advances the position by as many and moves the size up to the end of the
write; a seek sets a position that is not negative or fails with `-EINVAL`. -/
def byteFileStep (a : ByteFile) : SimpleOp → ByteFile × ℤ × List UInt8
  | .read f n _ =>
    let p := a.pos f
    let k := min (n : ℤ) (max 0 (a.size - p))
    ({ a with pos := Function.update a.pos f (p + k) }, k,
      (List.range k.toNat).map fun i => a.content (p.toNat + i))
  | .write f buf n =>
    let p := a.pos f
    if p ≥ 4096 then (a, -ENOSPC, [])
    else
      let k := min n (4096 - p.toNat)
      (⟨fun i => if p.toNat ≤ i ∧ i < p.toNat + k then buf.readable.getD (i - p.toNat) 0
          else a.content i,
        max a.size (p.toNat + k), Function.update a.pos f (p + k)⟩, k, [])
  | .llseek f offset whence =>
    match llseekTarget a.size (a.pos f) (loff offset) whence with
    | some newpos =>
      if 0 ≤ newpos then ({ a with pos := Function.update a.pos f newpos }, newpos, [])
      else (a, -EINVAL, [])
    | none => (a, -EINVAL, [])

/-! ### The calls on a position in range

A position that is not negative and below `2^63` is the same number as a
`loff_t` and as a `size_t`, and the calls then read as their closed forms. -/

theorem llseekTarget_lt {size : ℕ} {fpos offset whence newpos : ℤ}
    (h : llseekTarget size fpos (loff offset) whence = some newpos) : newpos < 2 ^ 63 := by
  unfold llseekTarget at h
  split_ifs at h <;> cases h <;> exact loff_lt _

section Calls

variable (dev : SimpleDevice) {pos : ℤ} (h0 : 0 ≤ pos) (h1 : pos < 2 ^ 63)
include h0 h1

theorem toSizeT_pos : toSizeT pos = pos.toNat := by
  have := toSizeT_of_nonneg h0 (by omega)
  omega

/-- `schar_read` returns the `min count (size - pos)` bytes from `pos`, or
`-EFAULT` when the user buffer has room for fewer. -/
theorem scharRead_eq (count room : ℕ) (hs : dev.size ≤ bufferSize) :
    scharRead dev pos count room =
      if min count (dev.size - pos.toNat) ≤ room then
        (pos + (min count (dev.size - pos.toNat) : ℕ), ((min count (dev.size - pos.toNat) : ℕ) : ℤ),
          readBytes dev.buffer pos (min count (dev.size - pos.toNat)))
      else (pos, -EFAULT, (readBytes dev.buffer pos (min count (dev.size - pos.toNat))).take room) := by
  unfold scharRead
  rw [toSizeT_pos h0 h1]
  by_cases he : dev.size ≤ pos.toNat
  · have hk : min count (dev.size - pos.toNat) = 0 := by omega
    simp [he, hk, readBytes]
  · have hk : (if count > dev.size - pos.toNat then dev.size - pos.toNat else count) =
        min count (dev.size - pos.toNat) := by split_ifs <;> omega
    have hl : loff (pos + (min count (dev.size - pos.toNat) : ℕ)) =
        pos + (min count (dev.size - pos.toNat) : ℕ) :=
      loff_of_mem (by omega) (by simp only [bufferSize] at hs; omega)
    simp only [ge_iff_le, he, if_false, hk, copyToUser, readBytes_length]
    by_cases hr : min count (dev.size - pos.toNat) ≤ room
    · have ht : (readBytes dev.buffer pos (min count (dev.size - pos.toNat))).take room =
          readBytes dev.buffer pos (min count (dev.size - pos.toNat)) :=
        List.take_of_length_le (by rw [readBytes_length]; exact hr)
      simp only [Nat.min_eq_left hr, Nat.sub_self, ne_eq, not_true_eq_false, if_false, hr,
        if_true, hl, ht]
    · simp only [hr, if_false, ne_eq, ite_not, ite_eq_right_iff]
      omega

/-- `schar_write` below `BUFFER_SIZE` stores the `min count (4096 - pos)`
bytes at `pos` and moves the size up to their end, or, when the user buffer
faults first, returns `-EFAULT` with the copied prefix and zeros in the
buffer. -/
theorem scharWrite_eq (buf : UserBuf) (count : ℕ) (hp : pos < bufferSize) :
    scharWrite dev pos buf count =
      if min count (bufferSize - pos.toNat) ≤ buf.readable.length then
        (⟨writeBytes dev.buffer pos (buf.readable.take (min count (bufferSize - pos.toNat))),
            max dev.size (pos.toNat + min count (bufferSize - pos.toNat))⟩,
          pos + (min count (bufferSize - pos.toNat) : ℕ),
          ((min count (bufferSize - pos.toNat) : ℕ) : ℤ))
      else (⟨(copyFromUser dev.buffer pos buf (min count (bufferSize - pos.toNat))).1, dev.size⟩,
          pos, -EFAULT) := by
  have hb : bufferSize = 4096 := rfl
  have hspace : toSizeT (bufferSize - pos) = bufferSize - pos.toNat := by
    have := toSizeT_of_nonneg (x := bufferSize - pos) (by omega) (by omega)
    omega
  have hk : (if count > bufferSize - pos.toNat then bufferSize - pos.toNat else count) =
      min count (bufferSize - pos.toNat) := by split_ifs <;> omega
  have hl : loff (pos + (min count (bufferSize - pos.toNat) : ℕ)) =
      pos + (min count (bufferSize - pos.toNat) : ℕ) := loff_of_mem (by omega) (by omega)
  have hsz : toSizeT (pos + (min count (bufferSize - pos.toNat) : ℕ)) =
      pos.toNat + min count (bufferSize - pos.toNat) := by
    have := toSizeT_of_nonneg (x := pos + (min count (bufferSize - pos.toNat) : ℕ))
      (by omega) (by omega)
    omega
  unfold scharWrite
  simp only [ge_iff_le, show ¬ (bufferSize : ℤ) ≤ pos by omega, if_false, hspace, hk, hl, hsz]
  by_cases hr : min count (bufferSize - pos.toNat) ≤ buf.readable.length
  · simp only [copyFromUser_of_le _ _ _ hr, ne_eq, not_true_eq_false, if_false, hr, if_true,
      gt_iff_lt, SimpleDevice.mk.injEq, Prod.mk.injEq, and_true, true_and]
    split_ifs <;> omega
  · have hne : (copyFromUser dev.buffer pos buf (min count (bufferSize - pos.toNat))).2 ≠ 0 :=
      fun h => hr ((copyFromUser_snd _ _ _ _).mp h)
    simp only [hne, ne_eq, not_false_eq_true, if_true, hr, if_false]

theorem scharRead_mem (count room : ℕ) (hs : dev.size ≤ bufferSize) :
    0 ≤ (scharRead dev pos count room).1 ∧ (scharRead dev pos count room).1 < 2 ^ 63 := by
  have hb : bufferSize = 4096 := rfl
  rw [scharRead_eq dev h0 h1 count room hs]
  split_ifs <;> simp only <;> omega

theorem scharWrite_mem (buf : UserBuf) (count : ℕ) (hs : dev.size ≤ bufferSize) :
    (scharWrite dev pos buf count).1.size ≤ bufferSize ∧
      0 ≤ (scharWrite dev pos buf count).2.1 ∧ (scharWrite dev pos buf count).2.1 < 2 ^ 63 := by
  have hb : bufferSize = 4096 := rfl
  by_cases hp : pos < bufferSize
  · rw [scharWrite_eq dev h0 h1 buf count hp]
    split_ifs <;> simp only <;> omega
  · simp only [scharWrite, ge_iff_le, show (bufferSize : ℤ) ≤ pos by omega, if_true]
    omega

theorem simpleLlseek_mem (offset whence : ℤ) :
    0 ≤ (simpleLlseek dev pos (loff offset) whence).1 ∧
      (simpleLlseek dev pos (loff offset) whence).1 < 2 ^ 63 := by
  unfold simpleLlseek
  split
  · exact ⟨h0, h1⟩
  · rename_i newpos hn
    split_ifs with h
    · exact ⟨h0, h1⟩
    · exact ⟨by omega, llseekTarget_lt hn⟩

end Calls

/-! ### Every reachable state -/

/-- What every call keeps: the size is at most `BUFFER_SIZE`, and every
position is not negative and below `2^63`. -/
structure Inv (s : SimpleSys) : Prop where
  size_le : s.dev.size ≤ bufferSize
  pos_nonneg : ∀ f, 0 ≤ s.fpos f
  pos_lt : ∀ f, s.fpos f < 2 ^ 63

theorem inv_init : Inv SimpleSys.init :=
  ⟨by decide, fun _ => Int.le_refl 0, fun _ => by show (0 : ℤ) < 2 ^ 63; omega⟩

theorem Inv.update {s : SimpleSys} (hs : Inv s) {dev : SimpleDevice} (hd : dev.size ≤ bufferSize)
    (f : ℕ) {x : ℤ} (h0 : 0 ≤ x) (h1 : x < 2 ^ 63) : Inv ⟨dev, Function.update s.fpos f x⟩ :=
  ⟨hd, forall_update (P := (0 ≤ ·)) hs.pos_nonneg f h0,
    forall_update (P := (· < 2 ^ 63)) hs.pos_lt f h1⟩

theorem simpleStep_inv {s : SimpleSys} (hs : Inv s) : ∀ op, Inv (simpleStep s op).1
  | .read f count room =>
    have h := scharRead_mem s.dev (hs.pos_nonneg f) (hs.pos_lt f) count room hs.size_le
    hs.update hs.size_le f h.1 h.2
  | .write f buf count =>
    have h := scharWrite_mem s.dev (hs.pos_nonneg f) (hs.pos_lt f) buf count hs.size_le
    hs.update h.1 f h.2.1 h.2.2
  | .llseek f offset whence =>
    have h := simpleLlseek_mem s.dev (hs.pos_nonneg f) (hs.pos_lt f) offset whence
    hs.update hs.size_le f h.1 h.2

/-! ### The driver is the byte file -/

/-- The byte file's read count is the driver's, and the position after the
read stays in range. -/
theorem read_count_mem (count size : ℕ) {p : ℤ} (h0 : 0 ≤ p) (h1 : p < 2 ^ 63)
    (hs : size ≤ bufferSize) :
    min (count : ℤ) (max 0 ((size : ℤ) - p)) = ((min count (size - p.toNat) : ℕ) : ℤ) ∧
      0 ≤ p + (min count (size - p.toNat) : ℕ) ∧ p + (min count (size - p.toNat) : ℕ) < 2 ^ 63 := by
  simp only [bufferSize] at hs
  omega

/-- The driver's state is the byte file's: the same size and positions, and
the buffer holds the content below `BUFFER_SIZE`. -/
structure Sim (s : SimpleSys) (a : ByteFile) : Prop where
  inv : Inv s
  size_eq : s.dev.size = a.size
  pos_eq : s.fpos = a.pos
  buffer_eq : ∀ i : ℕ, i < bufferSize → s.dev.buffer i = a.content i

theorem sim_init : Sim SimpleSys.init ByteFile.init := ⟨inv_init, rfl, rfl, fun _ _ => rfl⟩

section Sim

variable {s : SimpleSys} {a : ByteFile} (h : Sim s a)
include h

theorem Sim.update_pos (f : ℕ) {x : ℤ} (h0 : 0 ≤ x) (h1 : x < 2 ^ 63) :
    Sim ⟨s.dev, Function.update s.fpos f x⟩ { a with pos := Function.update a.pos f x } :=
  ⟨h.inv.update h.inv.size_le f h0 h1, h.size_eq, by rw [h.pos_eq], h.buffer_eq⟩

/-- The buffer read below the size is the content. -/
theorem Sim.readBytes_eq {p : ℤ} (h0 : 0 ≤ p) {k : ℕ} (hk : k ≤ s.dev.size - p.toNat) :
    readBytes s.dev.buffer p k = (List.range k).map fun i => a.content (p.toNat + i) := by
  have := h.inv.size_le
  apply List.ext_getElem (by simp)
  intro i hi _
  rw [readBytes_getElem, List.getElem_map, List.getElem_range, ← h.buffer_eq _ (by simp at hi; omega)]
  congr 1
  omega

theorem Sim.read (f count room : ℕ) (hroom : count ≤ room) :
    Sim (simpleStep s (.read f count room)).1 (byteFileStep a (.read f count room)).1 ∧
      (simpleStep s (.read f count room)).2 = (byteFileStep a (.read f count room)).2 := by
  have h0 := h.inv.pos_nonneg f
  have h1 := h.inv.pos_lt f
  have hs := h.inv.size_le
  have hp : a.pos f = s.fpos f := by rw [h.pos_eq]
  obtain ⟨hcnt, hlo, hhi⟩ := read_count_mem count s.dev.size h0 h1 hs
  have hk : min (count : ℤ) (max 0 (a.size - a.pos f)) =
      ((min count (s.dev.size - (s.fpos f).toNat) : ℕ) : ℤ) := by
    rw [← h.size_eq, hp]; exact hcnt
  simp only [simpleStep, byteFileStep]
  rw [scharRead_eq _ h0 h1 _ _ hs, if_pos ((Nat.min_le_left _ _).trans hroom), hk, hp,
    Int.toNat_ofNat]
  exact ⟨h.update_pos f hlo hhi, by rw [h.readBytes_eq h0 (Nat.min_le_right _ _)]⟩

theorem Sim.write (f : ℕ) (buf : UserBuf) (count : ℕ) (hread : count ≤ buf.readable.length) :
    Sim (simpleStep s (.write f buf count)).1 (byteFileStep a (.write f buf count)).1 ∧
      (simpleStep s (.write f buf count)).2 = (byteFileStep a (.write f buf count)).2 := by
  have h0 := h.inv.pos_nonneg f
  have h1 := h.inv.pos_lt f
  have hb : bufferSize = 4096 := rfl
  have hp : a.pos f = s.fpos f := by rw [h.pos_eq]
  have hinv := simpleStep_inv h.inv (.write f buf count)
  simp only [simpleStep, byteFileStep] at hinv ⊢
  rw [hp]
  by_cases hlt : s.fpos f < bufferSize
  · rw [scharWrite_eq _ h0 h1 _ _ hlt] at hinv ⊢
    rw [hb] at hinv ⊢
    have hge : ¬ s.fpos f ≥ 4096 := by omega
    have hr : min count (4096 - (s.fpos f).toNat) ≤ buf.readable.length :=
      (Nat.min_le_left _ _).trans hread
    simp only [hr, if_true, hge, if_false] at hinv ⊢
    refine ⟨⟨hinv, by simp only [h.size_eq], by rw [h.pos_eq], fun i hi => ?_⟩, trivial⟩
    have hk : (buf.readable.take (min count (4096 - (s.fpos f).toNat))).length =
        min count (4096 - (s.fpos f).toNat) := by rw [List.length_take, Nat.min_eq_left hr]
    simp only [writeBytes_natCast _ h0, hk]
    split_ifs with hi'
    · simp only [List.getD_eq_getElem?_getD, List.getElem?_take_of_lt
        (by omega : i - (s.fpos f).toNat < min count (4096 - (s.fpos f).toNat))]
    · exact h.buffer_eq i hi
  · have hge : (bufferSize : ℤ) ≤ s.fpos f := by omega
    simp only [scharWrite, ge_iff_le, hge, if_true, show (4096 : ℤ) ≤ s.fpos f by omega]
    exact ⟨by rw [Function.update_eq_self]; exact h, trivial⟩

theorem Sim.llseek (f : ℕ) (offset whence : ℤ) :
    Sim (simpleStep s (.llseek f offset whence)).1 (byteFileStep a (.llseek f offset whence)).1 ∧
      (simpleStep s (.llseek f offset whence)).2 = (byteFileStep a (.llseek f offset whence)).2 := by
  have hp : a.pos f = s.fpos f := by rw [h.pos_eq]
  simp only [simpleStep, byteFileStep, simpleLlseek, hp, h.size_eq]
  cases hn : llseekTarget a.size (s.fpos f) (loff offset) whence with
  | none => exact ⟨by simpa only [Function.update_eq_self] using h, rfl⟩
  | some newpos =>
    dsimp only
    by_cases h0 : newpos < 0
    · simp only [h0, if_true, show ¬ 0 ≤ newpos by omega, if_false]
      exact ⟨by simpa only [Function.update_eq_self] using h, trivial⟩
    · simp only [h0, if_false, show 0 ≤ newpos by omega, if_true]
      exact ⟨h.update_pos f (by omega) (llseekTarget_lt hn), trivial⟩

end Sim

/-- The user buffer of a call covers its copy: a read's has room for `count`
bytes, a write's has `count` readable bytes. -/
def UserCovers : SimpleOp → Prop
  | .read _ count room => count ≤ room
  | .write _ buf count => count ≤ buf.readable.length
  | .llseek _ _ _ => True

instance : DecidablePred UserCovers := fun op => by
  cases op <;> unfold UserCovers <;> infer_instance

theorem simpleStep_sim {s : SimpleSys} {a : ByteFile} (h : Sim s a) :
    ∀ op, UserCovers op →
      Sim (simpleStep s op).1 (byteFileStep a op).1 ∧ (simpleStep s op).2 = (byteFileStep a op).2
  | .read f count room, hc => h.read f count room hc
  | .write f buf count, hc => h.write f buf count hc
  | .llseek f offset whence, _ => h.llseek f offset whence

/-- In every reachable state, user faults or not, the size is at most
`BUFFER_SIZE`. -/
theorem size_le_of_run (ops : List SimpleOp) :
    (run simpleStep SimpleSys.init ops).1.dev.size ≤ bufferSize :=
  (run_inv simpleStep Inv (fun _ op hs => simpleStep_inv hs op) ops _ inv_init).size_le

end SimpleChar
end DriverGuide
