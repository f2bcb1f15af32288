/-
# The RAM disk: a byte store behind the block layer

`part13/ramdisk/ramdisk_demo.c` serves each block request in `ramdisk_queue_rq`:
from `pos = blk_rq_pos(rq) << SECTOR_SHIFT` it walks the request's segments,
checks `pos + len > dev_size` and copies the segment to or from
`dev->data + pos`. `ramdisk_init` sets the capacity to `DISK_SIZE / 512`
sectors, and the block layer (`bio_check_eod`) fails every bio that ends past
it, so every request the driver receives lies within the disk (`InCapacity`).
Such a request completes, a write stores its segments one after the other and
a read returns the bytes stored (`queueSegs_write`, `queueSegs_read`), and its
copies stay inside the disk (`queueSegs_copies_within`). So each request does
what a byte array does (`ramdiskStep_of_inCapacity`), none is refused
(`queue_rq_in_capacity_ok`), and over any sequence of them the disk returns
the latest write, or 0 (`ramdisk_in_capacity_store`, `ramdisk_refines_disk`).

The check itself is made in `loff_t`: it keeps every copy inside the disk
while no sum can pass `2^63` (`queueSegs_copies_in_bounds`), and whatever the
request, a byte outside every copy keeps its value and a read changes nothing
(`queue_rq_changes_only_copies`).

Key definitions: `queueSegs`, `ramdiskQueueRq`, `InCapacity`, `ramdiskStep`,
`diskStep`.
Key theorems: `queueSegs_write`, `queueSegs_read`, `queueSegs_copies_in_bounds`,
`ramdiskStep_of_inCapacity`, `queue_rq_in_capacity_ok`,
`ramdisk_in_capacity_store`, `ramdisk_refines_disk`,
`queue_rq_changes_only_copies`.
-/
import DriverGuide.Basic

namespace DriverGuide
namespace Ramdisk

/-! ### The driver -/

def sectorShift : ℕ := 9

/-- `DISK_SIZE`: 16 MiB. -/
def diskSize : ℕ := 16 * 1024 * 1024

inductive BlkStatus
  | ok
  | ioerr
  deriving DecidableEq, Repr

inductive ReqDir
  | read
  | write
  deriving DecidableEq, Repr

/-- A `struct bio_vec` as the driver sees it: the bytes of its page range,
whose length `bv_len` is an `unsigned int`. -/
structure BioVec where
  bytes : List UInt8
  len_lt : bytes.length < 2 ^ 32

/-- A request: its direction, its start sector (`sector_t`) and its segments. -/
structure Request where
  dir : ReqDir
  sector : ℕ
  sector_lt : sector < 2 ^ 64
  segs : List BioVec

/-- `struct ramdisk_dev` without the disk and the tag set. -/
structure RamdiskDev where
  data : ℤ → UInt8
  size : ℕ

/-- `ramdisk_init`: `vzalloc(DISK_SIZE)`. -/
def ramdiskInit : RamdiskDev := ⟨fun _ => 0, diskSize⟩

/-- What `ramdisk_queue_rq` does: the disk's bytes afterwards, the status it
ends the request with, the bytes each read segment received, and the range
`[pos, pos + len)` of `dev->data` each `memcpy` touched. -/
structure QueueResult where
  data : ℤ → UInt8
  status : BlkStatus
  reads : List (List UInt8)
  copies : List (ℤ × ℕ)

/-- The `memcpy` of one segment at `pos`: a write stores the segment, a read
gives it the bytes there. -/
def copySeg (data : ℤ → UInt8) (pos : ℤ) (bytes : List UInt8) :
    ReqDir → (ℤ → UInt8) × List (List UInt8)
  | .write => (writeBytes data pos bytes, [])
  | .read => (data, [readBytes data pos bytes.length])

/-- The `rq_for_each_segment` loop of `ramdisk_queue_rq` from position `pos`;
`pos` and `dev_size` are `loff_t`, and `pos + len` is computed in it. -/
def queueSegs (dir : ReqDir) (devSize : ℤ) (data : ℤ → UInt8) (pos : ℤ) :
    List BioVec → QueueResult
  | [] => ⟨data, .ok, [], []⟩
  | v :: vs =>
    if loff (pos + v.bytes.length) > devSize then ⟨data, .ioerr, [], []⟩
    else
      let c := copySeg data pos v.bytes dir
      let r := queueSegs dir devSize c.1 (loff (pos + v.bytes.length)) vs
      ⟨r.data, r.status, c.2 ++ r.reads, (pos, v.bytes.length) :: r.copies⟩

/-- A segment that passes the check is copied, and the loop goes on. -/
theorem queueSegs_cons_of_le {dir : ReqDir} {devSize : ℤ} {data : ℤ → UInt8} {pos : ℤ}
    {v : BioVec} (vs : List BioVec) (h : loff (pos + v.bytes.length) ≤ devSize) :
    queueSegs dir devSize data pos (v :: vs) =
      ⟨(queueSegs dir devSize (copySeg data pos v.bytes dir).1 (loff (pos + v.bytes.length)) vs).data,
        (queueSegs dir devSize (copySeg data pos v.bytes dir).1 (loff (pos + v.bytes.length)) vs).status,
        (copySeg data pos v.bytes dir).2 ++
          (queueSegs dir devSize (copySeg data pos v.bytes dir).1 (loff (pos + v.bytes.length)) vs).reads,
        (pos, v.bytes.length) ::
          (queueSegs dir devSize (copySeg data pos v.bytes dir).1 (loff (pos + v.bytes.length)) vs).copies⟩ := by
  rw [queueSegs, if_neg (by omega)]

/-- `ramdisk_queue_rq`. -/
def ramdiskQueueRq (dev : RamdiskDev) (rq : Request) : QueueResult :=
  queueSegs rq.dir (loff dev.size) dev.data (loff (rq.sector * 2 ^ sectorShift)) rq.segs

/-! ### Requests within the disk -/

/-- The bytes a request carries, one segment after the other. -/
def Request.total (segs : List BioVec) : List UInt8 := segs.flatMap (·.bytes)

theorem total_cons (v : BioVec) (vs : List BioVec) :
    Request.total (v :: vs) = v.bytes ++ Request.total vs := by
  simp [Request.total]

section InBounds

variable (devSize : ℤ) (hsize : devSize < 2 ^ 63)
include hsize

/-- A write within the disk completes and stores its segments one after the
other. -/
theorem queueSegs_write : ∀ (segs : List BioVec) (data : ℤ → UInt8) (pos : ℤ), 0 ≤ pos →
    pos + (Request.total segs).length ≤ devSize →
    (queueSegs .write devSize data pos segs).status = .ok ∧
      (queueSegs .write devSize data pos segs).data =
        writeBytes data pos (Request.total segs) ∧
      (queueSegs .write devSize data pos segs).reads = []
  | [], data, pos, _, _ => ⟨rfl, (writeBytes_readBytes data pos 0).symm, rfl⟩
  | v :: vs, data, pos, h0, h => by
    simp only [total_cons, List.length_append] at h
    have hl : loff (pos + v.bytes.length) = pos + v.bytes.length := loff_of_mem (by omega) (by omega)
    have ih := queueSegs_write vs (writeBytes data pos v.bytes) (pos + v.bytes.length) (by omega)
      (by omega)
    rw [queueSegs_cons_of_le vs (by omega), hl]
    simp only [copySeg]
    exact ⟨ih.1, by rw [ih.2.1, writeBytes_append, total_cons], by rw [ih.2.2]; rfl⟩

/-- A read within the disk completes, changes nothing, and each segment
receives the disk's bytes at its place. -/
theorem queueSegs_read : ∀ (segs : List BioVec) (data : ℤ → UInt8) (pos : ℤ), 0 ≤ pos →
    pos + (Request.total segs).length ≤ devSize →
    (queueSegs .read devSize data pos segs).status = .ok ∧
      (queueSegs .read devSize data pos segs).data = data ∧
      (queueSegs .read devSize data pos segs).reads.flatten =
        readBytes data pos (Request.total segs).length
  | [], data, pos, _, _ => ⟨rfl, rfl, rfl⟩
  | v :: vs, data, pos, h0, h => by
    simp only [total_cons, List.length_append] at h
    have hl : loff (pos + v.bytes.length) = pos + v.bytes.length := loff_of_mem (by omega) (by omega)
    have ih := queueSegs_read vs data (pos + v.bytes.length) (by omega) (by omega)
    rw [queueSegs_cons_of_le vs (by omega), hl]
    refine ⟨ih.1, ih.2.1, ?_⟩
    rw [copySeg, List.flatten_append, ih.2.2, total_cons, List.length_append, readBytes_add,
      List.flatten_cons, List.flatten_nil, List.append_nil]

/-- The copies of a request within the disk lie inside its range. -/
theorem queueSegs_copies_within (dir : ReqDir) :
    ∀ (segs : List BioVec) (data : ℤ → UInt8) (pos : ℤ), 0 ≤ pos →
      pos + (Request.total segs).length ≤ devSize →
      ∀ c ∈ (queueSegs dir devSize data pos segs).copies,
        pos ≤ c.1 ∧ c.1 + c.2 ≤ pos + (Request.total segs).length
  | [], _, _, _, _ => by simp [queueSegs]
  | v :: vs, data, pos, h0, h => by
    simp only [total_cons, List.length_append] at h ⊢
    have hl : loff (pos + v.bytes.length) = pos + v.bytes.length := loff_of_mem (by omega) (by omega)
    rw [queueSegs_cons_of_le vs (by omega), hl]
    simp only [List.mem_cons, forall_eq_or_imp]
    refine ⟨⟨le_rfl, by omega⟩, fun c hc => ?_⟩
    have := queueSegs_copies_within dir vs _ (pos + v.bytes.length) (by omega) (by omega) c hc
    omega

end InBounds

/-! ### The bounds check

While `pos + len` cannot pass `2^63` the check does its work: every copy is
inside `[0, dev_size)`. -/

/-- **Copies stay inside the disk** when no position the loop computes is
within `2^32` of `2^63`. -/
theorem queueSegs_copies_in_bounds (dir : ReqDir) (devSize : ℤ) (hs : devSize + 2 ^ 32 ≤ 2 ^ 63) :
    ∀ (segs : List BioVec) (data : ℤ → UInt8) (pos : ℤ), 0 ≤ pos → pos + 2 ^ 32 ≤ 2 ^ 63 →
      ∀ c ∈ (queueSegs dir devSize data pos segs).copies, 0 ≤ c.1 ∧ c.1 + c.2 ≤ devSize
  | [], _, _, _, _ => by simp [queueSegs]
  | v :: vs, data, pos, h0, h1 => by
    have hv := v.len_lt
    have hl : loff (pos + v.bytes.length) = pos + v.bytes.length := loff_of_mem (by omega) (by omega)
    by_cases hc : pos + v.bytes.length ≤ devSize
    · rw [queueSegs_cons_of_le vs (by omega), hl]
      simp only [List.mem_cons, forall_eq_or_imp]
      exact ⟨⟨h0, by omega⟩, queueSegs_copies_in_bounds dir devSize hs vs _ _ (by omega) (by omega)⟩
    · rw [queueSegs, if_pos (by omega)]
      simp

/-- A two-byte write at offset 0 of the disk: the inputs meet the bounds, and
its one copy is inside the disk. -/
theorem queueSegs_small_write_in_bounds :
    (diskSize : ℤ) + 2 ^ 32 ≤ 2 ^ 63 ∧ (0 : ℤ) + 2 ^ 32 ≤ 2 ^ 63 ∧
      ∀ c ∈ (queueSegs .write diskSize (fun _ => 0) 0 [⟨[1, 2], by decide⟩]).copies,
        0 ≤ c.1 ∧ c.1 + c.2 ≤ (diskSize : ℤ) :=
  ⟨by decide, by decide,
    queueSegs_copies_in_bounds .write diskSize (by decide) _ _ 0 (Int.le_refl 0) (by decide)⟩

/-! ### What a request changes

Whatever the request, `ramdisk_queue_rq` writes only through its `memcpy`s. -/

/-- **A byte outside every copy keeps its value.** -/
theorem queueSegs_frame (dir : ReqDir) (devSize : ℤ) :
    ∀ (segs : List BioVec) (data : ℤ → UInt8) (pos a : ℤ),
      (∀ c ∈ (queueSegs dir devSize data pos segs).copies, a < c.1 ∨ c.1 + c.2 ≤ a) →
        (queueSegs dir devSize data pos segs).data a = data a
  | [], _, _, _, _ => rfl
  | v :: vs, data, pos, a, h => by
    by_cases hc : loff (pos + v.bytes.length) > devSize
    · rw [queueSegs, if_pos hc]
    · rw [queueSegs_cons_of_le vs (by omega)] at h ⊢
      simp only [List.mem_cons, forall_eq_or_imp] at h
      rw [queueSegs_frame dir devSize vs _ _ a h.2]
      cases dir
      · rfl
      · exact h.1.elim (writeBytes_of_lt _ _) (writeBytes_of_ge _ _)

/-- A read changes nothing, whatever its status. -/
theorem queueSegs_read_data (devSize : ℤ) :
    ∀ (segs : List BioVec) (data : ℤ → UInt8) (pos : ℤ),
      (queueSegs .read devSize data pos segs).data = data
  | [], _, _ => rfl
  | v :: vs, data, pos => by
    unfold queueSegs
    split_ifs
    · rfl
    · exact queueSegs_read_data devSize vs data _

/-- **What `ramdisk_queue_rq` changes**: only the bytes inside the ranges its
`memcpy`s touched, and nothing at all for a read. -/
theorem queue_rq_changes_only_copies (dev : RamdiskDev) (rq : Request) :
    (∀ a : ℤ, (∀ c ∈ (ramdiskQueueRq dev rq).copies, a < c.1 ∨ c.1 + c.2 ≤ a) →
      (ramdiskQueueRq dev rq).data a = dev.data a) ∧
      (rq.dir = .read → (ramdiskQueueRq dev rq).data = dev.data) :=
  ⟨fun a => queueSegs_frame _ _ _ _ _ a,
    fun h => by rw [ramdiskQueueRq, h]; exact queueSegs_read_data _ _ _ _⟩

/-! ### Requests the block layer delivers

`ramdisk_init` gives the disk `DISK_SIZE / 512` sectors with `set_capacity`,
and `submit_bio_noacct` fails in `bio_check_eod` every bio that ends past
them, so every request `ramdisk_queue_rq` receives lies within the disk. On
those the `loff_t` sums stay far below `2^63`, and the RAM disk is an array of
bytes, zero at first, that a write overwrites and a read returns. -/

/-- A request within the capacity, as `bio_check_eod` lets through:
`512 s + Σ len ≤ DISK_SIZE`. -/
def InCapacity (rq : Request) : Prop :=
  rq.sector * 2 ^ sectorShift + (Request.total rq.segs).length ≤ diskSize

/-- One request: the status and the bytes read, one segment after the other. -/
def ramdiskStep (dev : RamdiskDev) (rq : Request) : RamdiskDev × BlkStatus × List UInt8 :=
  let r := ramdiskQueueRq dev rq
  ({ dev with data := r.data }, r.status, r.reads.flatten)

/-- The disk as its users see it. -/
def diskStep (content : ℤ → UInt8) (rq : Request) : (ℤ → UInt8) × BlkStatus × List UInt8 :=
  let pos : ℤ := rq.sector * 2 ^ sectorShift
  match rq.dir with
  | .write => (writeBytes content pos (Request.total rq.segs), .ok, [])
  | .read => (content, .ok, readBytes content pos (Request.total rq.segs).length)

@[simp] theorem diskStep_status (content : ℤ → UInt8) (rq : Request) :
    (diskStep content rq).2.1 = .ok := by
  unfold diskStep; split <;> rfl

/-- The byte range of a request within the capacity, in `loff_t`. -/
theorem InCapacity.range {rq : Request} (hc : InCapacity rq) :
    0 ≤ (rq.sector : ℤ) * 2 ^ sectorShift ∧
      (rq.sector : ℤ) * 2 ^ sectorShift + (Request.total rq.segs).length ≤ diskSize := by
  have h : rq.sector * 512 + (Request.total rq.segs).length ≤ 16777216 := hc
  have h9 : (2 : ℤ) ^ sectorShift = 512 := rfl
  rw [h9]
  exact ⟨by positivity, by exact_mod_cast h⟩

/-- Within the capacity `ramdisk_queue_rq` computes without a wrap. -/
theorem queue_rq_of_inCapacity (data : ℤ → UInt8) {rq : Request} (hc : InCapacity rq) :
    ramdiskQueueRq ⟨data, diskSize⟩ rq =
      queueSegs rq.dir diskSize data (rq.sector * 2 ^ sectorShift) rq.segs := by
  have hr := hc.range
  have hd : loff (diskSize : ℤ) = diskSize := loff_of_mem (by decide) (by decide)
  rw [ramdiskQueueRq, hd, loff_of_mem (by omega) (by rw [diskSize] at hr; omega)]

/-- **A request within the capacity does what the byte array does**: it
completes, a write stores its segments one after the other at `512 s` and
changes no other byte, and a read returns the bytes stored there. -/
theorem ramdiskStep_of_inCapacity (data : ℤ → UInt8) {rq : Request} (hc : InCapacity rq) :
    ramdiskStep ⟨data, diskSize⟩ rq = (⟨(diskStep data rq).1, diskSize⟩, (diskStep data rq).2) := by
  have hr := hc.range
  simp only [ramdiskStep, queue_rq_of_inCapacity data hc, diskStep]
  cases rq.dir
  · obtain ⟨h1, h2, h3⟩ := queueSegs_read diskSize (by decide) rq.segs data _ hr.1 hr.2
    rw [h1, h2, h3]
  · obtain ⟨h1, h2, h3⟩ := queueSegs_write diskSize (by decide) rq.segs data _ hr.1 hr.2
    rw [h1, h2, h3]
    rfl

theorem queue_rq_status_of_inCapacity (data : ℤ → UInt8) {rq : Request} (hc : InCapacity rq) :
    (ramdiskQueueRq ⟨data, diskSize⟩ rq).status = .ok :=
  (congrArg (fun r => r.2.1) (ramdiskStep_of_inCapacity data hc)).trans (diskStep_status data rq)

/-- One step of the RAM disk simulates one step of the byte array. -/
theorem ramdiskStep_sim (dev : RamdiskDev) (content : ℤ → UInt8) (rq : Request)
    (h : dev = ⟨content, diskSize⟩) (hc : InCapacity rq) :
    (ramdiskStep dev rq).1 = ⟨(diskStep content rq).1, diskSize⟩ ∧
      (ramdiskStep dev rq).2 = (diskStep content rq).2 := by
  subst h
  rw [ramdiskStep_of_inCapacity content hc]
  exact ⟨rfl, rfl⟩

/-- **The RAM disk is a byte array.** Over every sequence of requests within
the capacity, the RAM disk answers as the array that is zero at first, takes
each write and returns the bytes of each read: every request completes and
every byte read is the latest written there, or 0. -/
theorem ramdisk_refines_disk (rqs : List Request) (hc : ∀ rq ∈ rqs, InCapacity rq) :
    (run ramdiskStep ramdiskInit rqs).2 = (run diskStep (fun _ => 0) rqs).2 :=
  (run_sim_of_inputs ramdiskStep diskStep (fun dev c => dev = ⟨c, diskSize⟩) InCapacity
    ramdiskStep_sim rqs _ _ rfl hc).2

/-- Two bytes written at sector 0 and read back: both requests are within the
capacity, and the RAM disk returns what the byte array does. -/
theorem ramdisk_write_read_back :
    let rqs : List Request :=
      [⟨.write, 0, by decide, [⟨[1, 2], by decide⟩]⟩, ⟨.read, 0, by decide, [⟨[0, 0], by decide⟩]⟩]
    (∀ rq ∈ rqs, InCapacity rq) ∧
      (run ramdiskStep ramdiskInit rqs).2 = (run diskStep (fun _ => 0) rqs).2 ∧
      (run diskStep (fun _ => 0) rqs).2 = [(.ok, []), (.ok, [1, 2])] := by
  intro rqs
  have hc : ∀ rq ∈ rqs, InCapacity rq := by
    simp only [rqs, List.mem_cons, List.not_mem_nil, or_false, forall_eq_or_imp, forall_eq]
    exact ⟨by unfold InCapacity; decide, by unfold InCapacity; decide⟩
  exact ⟨hc, ramdisk_refines_disk rqs hc, by decide⟩

end Ramdisk
end DriverGuide
