/-
# The slab demo frees an object twice

`part5/kmem-cache-demo/kmem_cache_demo.c` keeps its objects on
`object_list` under `list_lock`. `stats_write` runs `free <id>` in two
critical sections: `find_object` under the lock, then `free_object`, which
takes the lock again to `list_del` the object and then `kmem_cache_free`s
it. Between the two, another writer can find the same object.

A writer is inside a command only between those two sections
(`WriterPc.freeFound`); every other command is one critical section, so runs
of steps are the interleavings of the writers. In every run
`access_object` touches only objects that have not been freed
(`access_before_free`), and a single writer never frees an object twice
(`one_writer_frees_once`); but two writers that both `free 0` both
`list_del` and `kmem_cache_free` object 0 (`free_race_frees_twice`).

A lone writer that runs each command to its end (`seqStep`) keeps exact
books as long as `next_id`, an `int`, has not wrapped: distinct ids, an
active count equal to the objects listed, and `free <id>` and `access <id>`
acting on the one object with that id (`Accounting.seqStep`,
`slab_accounting_exact`).

Key definitions: `findObject`, `allocObject`, `freeObject`, `freeAllObjects`,
`statsWrite`, `slabStep`, `seqStep`, `ExactBooks`.
Key theorems: `Live.step`, `access_before_free`, `one_writer_frees_once`,
`free_race_frees_twice`, `Accounting.seqStep`, `slab_accounting_exact`.
-/
import DriverGuide.Basic

namespace DriverGuide
namespace KmemCache

/-! ### The driver

An object is named by the number of objects allocated before it: a
`kmem_cache_alloc` returns memory that no live object uses. Of an object the
commands read its `id` and `access_count`; `created_at` and `data` are only
shown by `stats_show`. `access_count` is an `unsigned long`, so
`access_object` and every step after it take `BITS_PER_LONG` as the
parameter `bitsPerLong`. -/

structure DemoObject where
  id : ℤ
  accessCount : ℕ

/-- Where a writer is in `stats_write`: between commands, or in `free <id>`
after `find_object` found `obj` and `list_lock` was released. -/
inductive WriterPc
  | idle
  | freeFound (obj : ℕ)
  deriving DecidableEq

structure SlabState where
  objects : ℕ → DemoObject
  objectList : List ℕ
  nextId : ℤ
  nextObj : ℕ
  totalAllocated : ℕ
  totalFreed : ℕ
  pc : ℕ → WriterPc

def slabInit : SlabState := ⟨fun _ => ⟨0, 0⟩, [], 0, 0, 0, 0, fun _ => .idle⟩

/-- What the calls do to objects: `list_del`, `kmem_cache_free` and
`access_object`. -/
inductive SlabEvent
  | unlink (obj : ℕ)
  | free (obj : ℕ)
  | access (obj : ℕ)
  deriving DecidableEq

def SlabEvent.freed : SlabEvent → Option ℕ
  | .free o => some o
  | _ => none

/-- `find_object(id)`, under `list_lock`: the first listed object with that
`id`. -/
def findObject (s : SlabState) (id : ℤ) : Option ℕ :=
  s.objectList.find? fun o => (s.objects o).id = id

/-- `alloc_object(data)`; `ok` is whether `kmem_cache_alloc` succeeded.
`next_id++` is on an `int`. -/
def allocObject (s : SlabState) (ok : Bool) : SlabState :=
  if ok then
    { s with
      objects := Function.update s.objects s.nextObj ⟨s.nextId, 0⟩
      objectList := s.nextObj :: s.objectList
      nextId := int32 ((s.nextId + 1) % 2 ^ 32).toNat
      nextObj := s.nextObj + 1
      totalAllocated := s.totalAllocated + 1 }
  else s

/-- `free_object(obj)`: `list_del` under `list_lock`, then
`kmem_cache_free`. -/
def freeObject (s : SlabState) (o : ℕ) : SlabState × List SlabEvent :=
  ({ s with objectList := s.objectList.erase o, totalFreed := s.totalFreed + 1 },
    [.unlink o, .free o])

/-- `free_all_objects()`, under `list_lock`. -/
def freeAllObjects (s : SlabState) : SlabState × List SlabEvent :=
  ({ s with objectList := [], totalFreed := s.totalFreed + s.objectList.length },
    s.objectList.flatMap fun o => [.unlink o, .free o])

/-- `access_object(obj)`, under `obj->lock`; `access_count` is an `unsigned
long`. -/
def accessObject (bitsPerLong : ℕ) (s : SlabState) (o : ℕ) : SlabState × List SlabEvent :=
  ({ s with
    objects := Function.update s.objects o
      { s.objects o with accessCount := ((s.objects o).accessCount + 1) % 2 ^ bitsPerLong } }, [.access o])

/-- A command of `stats_write` once `sscanf` has parsed it. -/
inductive SlabCmd
  | alloc (ok : Bool)
  | free (id : ℤ)
  | access (id : ℤ)
  | freeall
  | unknown

/-- `stats_write` of writer `w`, up to the end of its first critical
section. -/
def statsWrite (bitsPerLong : ℕ) (s : SlabState) (w : ℕ) : SlabCmd → SlabState × List SlabEvent
  | .alloc ok => (allocObject s ok, [])
  | .free id =>
    match findObject s id with
    | some o => ({ s with pc := Function.update s.pc w (.freeFound o) }, [])
    | none => (s, [])
  | .access id =>
    match findObject s id with
    | some o => accessObject bitsPerLong s o
    | none => (s, [])
  | .freeall => freeAllObjects s
  | .unknown => (s, [])

/-- A writer starts a command, or finishes its `free <id>`. -/
inductive SlabOp
  | start (w : ℕ) (cmd : SlabCmd)
  | finish (w : ℕ)

def SlabOp.writer : SlabOp → ℕ
  | .start w _ => w
  | .finish w => w

def slabStep (bitsPerLong : ℕ) (s : SlabState) : SlabOp → SlabState × List SlabEvent
  | .start w cmd => if s.pc w = .idle then statsWrite bitsPerLong s w cmd else (s, [])
  | .finish w =>
    match s.pc w with
    | .freeFound o => freeObject { s with pc := Function.update s.pc w .idle } o
    | .idle => (s, [])

variable {bitsPerLong : ℕ}

/-- Object 0 allocated, then two writers both `free 0`: both find it before
either frees it, and both `list_del` and `kmem_cache_free` it. -/
theorem free_race_frees_twice (bitsPerLong : ℕ) :
    let ops : List SlabOp :=
      [.start 0 (.alloc true), .start 1 (.free 0), .start 2 (.free 0), .finish 1, .finish 2]
    (run (slabStep bitsPerLong) slabInit ops).2.flatten = [.unlink 0, .free 0, .unlink 0, .free 0] :=
  rfl

/-! ### What a step can do

A step changes nothing, allocates, records the object a `free <id>` found,
accesses a listed object, frees the whole list, or finishes a `free <id>`;
all but the last start from an idle writer. -/

theorem slabStep_cases (s : SlabState) (op : SlabOp) :
    slabStep bitsPerLong s op = (s, []) ∨
      (s.pc op.writer = .idle ∧ ∃ ok, slabStep bitsPerLong s op = (allocObject s ok, [])) ∨
      (s.pc op.writer = .idle ∧ ∃ o ∈ s.objectList,
        slabStep bitsPerLong s op = ({ s with pc := Function.update s.pc op.writer (.freeFound o) }, [])) ∨
      (s.pc op.writer = .idle ∧ ∃ o ∈ s.objectList, slabStep bitsPerLong s op = accessObject bitsPerLong s o) ∨
      (s.pc op.writer = .idle ∧ slabStep bitsPerLong s op = freeAllObjects s) ∨
      ∃ o, s.pc op.writer = .freeFound o ∧
        slabStep bitsPerLong s op = freeObject { s with pc := Function.update s.pc op.writer .idle } o := by
  cases op with
  | start w cmd =>
    simp only [slabStep, SlabOp.writer]
    split_ifs with hw
    · cases cmd with
      | alloc ok => exact .inr (.inl ⟨hw, ok, rfl⟩)
      | free id =>
        simp only [statsWrite]
        split
        next o ho => exact .inr (.inr (.inl ⟨hw, o, List.mem_of_find?_eq_some ho, rfl⟩))
        next => exact .inl rfl
      | access id =>
        simp only [statsWrite]
        split
        next o ho => exact .inr (.inr (.inr (.inl ⟨hw, o, List.mem_of_find?_eq_some ho, rfl⟩)))
        next => exact .inl rfl
      | freeall => exact .inr (.inr (.inr (.inr (.inl ⟨hw, rfl⟩))))
      | unknown => exact .inl rfl
    · exact .inl rfl
  | finish w =>
    simp only [slabStep, SlabOp.writer]
    split
    next o ho => exact .inr (.inr (.inr (.inr (.inr ⟨o, ho, rfl⟩))))
    next => exact .inl rfl

@[simp] theorem allocObject_pc (s : SlabState) (ok : Bool) : (allocObject s ok).pc = s.pc := by
  unfold allocObject; split <;> rfl

/-! ### Listed objects are live

Objects are listed once, and none that is listed has been freed; so every
object `access_object` finds is live. -/

structure Live (s : SlabState) (evs : List SlabEvent) : Prop where
  nodup : s.objectList.Nodup
  listed_lt : ∀ o ∈ s.objectList, o < s.nextObj
  found_lt : ∀ w o, s.pc w = .freeFound o → o < s.nextObj
  freed_lt : ∀ o, SlabEvent.free o ∈ evs → o < s.nextObj
  listed_not_freed : ∀ o ∈ s.objectList, SlabEvent.free o ∉ evs

section Live

variable {s : SlabState} {evs : List SlabEvent}

theorem live_init : Live slabInit [] :=
  ⟨List.nodup_nil, fun _ h => absurd h (List.not_mem_nil _), (fun _ _ h => nomatch h),
    fun _ h => absurd h (List.not_mem_nil _), fun _ h => absurd h (List.not_mem_nil _)⟩

theorem Live.allocObject (h : Live s evs) (ok : Bool) : Live (allocObject s ok) evs := by
  unfold KmemCache.allocObject
  split_ifs
  · refine ⟨List.nodup_cons.2 ⟨fun hm => Nat.lt_irrefl _ (h.listed_lt _ hm), h.nodup⟩,
      fun o ho => ?_, fun w o hw => Nat.lt_succ_of_lt (h.found_lt w o hw),
      fun o ho => Nat.lt_succ_of_lt (h.freed_lt o ho), fun o ho => ?_⟩
    · rcases List.mem_cons.1 ho with rfl | ho
      exacts [Nat.lt_succ_self _, Nat.lt_succ_of_lt (h.listed_lt o ho)]
    · rcases List.mem_cons.1 ho with rfl | ho
      exacts [fun hf => Nat.lt_irrefl _ (h.freed_lt _ hf), h.listed_not_freed o ho]
  · exact h

theorem Live.freeObject (h : Live s evs) {o : ℕ} (ho : o < s.nextObj) :
    Live (freeObject s o).1 (evs ++ (freeObject s o).2) := by
  refine ⟨h.nodup.erase o, fun o' ho' => h.listed_lt o' (List.mem_of_mem_erase ho'), h.found_lt,
    fun o' hf => ?_, fun o' ho' hf => ?_⟩
  · simp only [KmemCache.freeObject, List.mem_append, List.mem_cons, SlabEvent.free.injEq,
      reduceCtorEq, false_or, List.not_mem_nil, or_false] at hf
    rcases hf with hf | rfl
    exacts [h.freed_lt o' hf, ho]
  · obtain ⟨hne, ho'⟩ := (h.nodup.mem_erase_iff).1 ho'
    simp only [KmemCache.freeObject, List.mem_append, List.mem_cons, SlabEvent.free.injEq,
      reduceCtorEq, false_or, List.not_mem_nil, or_false] at hf
    exact hf.elim (h.listed_not_freed o' ho') hne

theorem Live.freeAllObjects (h : Live s evs) :
    Live (freeAllObjects s).1 (evs ++ (freeAllObjects s).2) := by
  refine ⟨List.nodup_nil, fun _ h => absurd h (List.not_mem_nil _), h.found_lt, fun o hf => ?_,
    fun _ h => absurd h (List.not_mem_nil _)⟩
  simp only [KmemCache.freeAllObjects, List.mem_append, List.mem_flatMap, List.mem_cons,
    SlabEvent.free.injEq, reduceCtorEq, false_or, List.not_mem_nil, or_false] at hf
  rcases hf with hf | ⟨o', ho', rfl⟩
  exacts [h.freed_lt o hf, h.listed_lt o ho']

theorem Live.accessObject (h : Live s evs) (o : ℕ) :
    Live (accessObject bitsPerLong s o).1 (evs ++ (accessObject bitsPerLong s o).2) := by
  have hf : ∀ o', SlabEvent.free o' ∈ evs ++ [.access o] → SlabEvent.free o' ∈ evs := by
    simp
  exact ⟨h.nodup, h.listed_lt, h.found_lt, fun o' ho' => h.freed_lt o' (hf o' ho'),
    fun o' ho' hm => h.listed_not_freed o' ho' (hf o' hm)⟩

theorem Live.updatePc (h : Live s evs) {w : ℕ} {p : WriterPc}
    (hp : ∀ o, p = .freeFound o → o < s.nextObj) :
    Live { s with pc := Function.update s.pc w p } evs := by
  refine ⟨h.nodup, h.listed_lt, fun w' o hw' => ?_, h.freed_lt, h.listed_not_freed⟩
  by_cases hw : w' = w
  · subst hw
    exact hp o (by simpa using hw')
  · exact h.found_lt w' o (by simpa [Function.update_noteq hw] using hw')

/-- **Each step keeps the listed objects live.** -/
theorem Live.step (h : Live s evs) (op : SlabOp) :
    Live (slabStep bitsPerLong s op).1 (evs ++ (slabStep bitsPerLong s op).2) := by
  rcases slabStep_cases s op with e | ⟨-, ok, e⟩ | ⟨-, o, ho, e⟩ | ⟨-, o, -, e⟩ | ⟨-, e⟩ | ⟨o, ho, e⟩ <;>
    rw [e]
  · simpa using h
  · simpa using h.allocObject ok
  · simpa using h.updatePc fun o' ho' => WriterPc.freeFound.inj ho' ▸ h.listed_lt o ho
  · exact h.accessObject o
  · exact h.freeAllObjects
  · exact Live.freeObject (h.updatePc fun _ (hp : WriterPc.idle = _) => nomatch hp)
      (h.found_lt _ o ho)

theorem live_run (ops : List SlabOp) :
    Live (run (slabStep bitsPerLong) slabInit ops).1 (run (slabStep bitsPerLong) slabInit ops).2.flatten := by
  simpa using run_inv_trace (slabStep bitsPerLong) (fun _ => True) Live (fun _ _ op _ h => h.step op) ops _ []
    (fun _ _ => trivial) live_init

end Live

/-- A step accesses only listed objects. -/
theorem slabStep_access_listed {s : SlabState} {op : SlabOp} {o : ℕ}
    (h : SlabEvent.access o ∈ (slabStep bitsPerLong s op).2) : o ∈ s.objectList := by
  rcases slabStep_cases s op with e | ⟨-, ok, e⟩ | ⟨-, o', ho', e⟩ | ⟨-, o', ho', e⟩ | ⟨-, e⟩ |
      ⟨o', -, e⟩ <;>
    rw [e] at h <;> simp [accessObject, freeAllObjects, freeObject] at h
  exact h ▸ ho'

/-- **`access_object` touches only live objects**: at any point of any run,
an object the next step accesses has not been freed so far. -/
theorem access_before_free (ops : List SlabOp) (op : SlabOp) (o : ℕ)
    (h : SlabEvent.access o ∈ (slabStep bitsPerLong (run (slabStep bitsPerLong) slabInit ops).1 op).2) :
    SlabEvent.free o ∉ (run (slabStep bitsPerLong) slabInit ops).2.flatten :=
  (live_run ops).listed_not_freed o (slabStep_access_listed h)

/-- Objects 0 and 1 allocated and object 0 freed: an access to id 1 touches
object 1, which is not freed. -/
theorem access_after_other_free :
    let ops : List SlabOp :=
      [.start 0 (.alloc true), .start 0 (.alloc true), .start 0 (.free 0), .finish 0]
    SlabEvent.access 1 ∈ (slabStep 64 (run (slabStep 64) slabInit ops).1 (.start 0 (.access 1))).2 ∧
      SlabEvent.free 1 ∉ (run (slabStep 64) slabInit ops).2.flatten :=
  ⟨by decide, access_before_free _ (.start 0 (.access 1)) 1 (by decide)⟩

/-! ### One writer frees each object once

The double free needs a second writer between `find_object` and
`free_object`: with a single writer, the object it found is still listed
when it frees it. -/

theorem freed_flatMap (l : List ℕ) :
    (l.flatMap fun o => [SlabEvent.unlink o, .free o]).filterMap SlabEvent.freed = l := by
  induction l with
  | nil => rfl
  | cons o l ih => simp [SlabEvent.freed, ih]

structure OneWriter (w : ℕ) (s : SlabState) (evs : List SlabEvent) : Prop where
  live : Live s evs
  found_listed : ∀ o, s.pc w = .freeFound o → o ∈ s.objectList
  others_idle : ∀ w', w' ≠ w → s.pc w' = .idle
  frees_nodup : (evs.filterMap SlabEvent.freed).Nodup

theorem oneWriter_init (w : ℕ) : OneWriter w slabInit [] :=
  ⟨live_init, (fun _ h => nomatch h), fun _ _ => rfl, List.nodup_nil⟩

theorem OneWriter.step {w : ℕ} {s : SlabState} {evs : List SlabEvent} (h : OneWriter w s evs)
    (op : SlabOp) (hw : op.writer = w) :
    OneWriter w (slabStep bitsPerLong s op).1 (evs ++ (slabStep bitsPerLong s op).2) := by
  have hl : Live (slabStep bitsPerLong s op).1 (evs ++ (slabStep bitsPerLong s op).2) := h.live.step op
  have hfresh : ∀ o ∈ s.objectList, o ∉ evs.filterMap SlabEvent.freed := fun o ho hm => by
    obtain ⟨e, he, hfe⟩ := List.mem_filterMap.1 hm
    cases e <;> simp only [SlabEvent.freed, reduceCtorEq, Option.some.injEq] at hfe
    exact h.live.listed_not_freed o ho (hfe ▸ he)
  subst hw
  rcases slabStep_cases s op with e | ⟨hi, ok, e⟩ | ⟨-, o, ho, e⟩ | ⟨hi, o, -, e⟩ | ⟨hi, e⟩ |
      ⟨o, ho, e⟩ <;>
    rw [e] at hl ⊢
  · simpa using h
  · refine ⟨hl, fun o ho' => by simp [hi] at ho', by simpa using h.others_idle,
      by simpa using h.frees_nodup⟩
  · refine ⟨hl, fun o' ho' => ?_, fun w' hw' => ?_, by simpa using h.frees_nodup⟩
    · simp only [Function.update_same, WriterPc.freeFound.injEq] at ho'
      exact ho' ▸ ho
    · simpa [Function.update_noteq hw'] using h.others_idle w' hw'
  · refine ⟨hl, fun o' ho' => ?_, h.others_idle, ?_⟩
    · simp [accessObject, hi] at ho'
    · simpa [accessObject, SlabEvent.freed] using h.frees_nodup
  · refine ⟨hl, fun o' ho' => ?_, h.others_idle, ?_⟩
    · simp [freeAllObjects, hi] at ho'
    · simp only [freeAllObjects, List.filterMap_append, freed_flatMap]
      exact List.nodup_append.2 ⟨h.frees_nodup, h.live.nodup, fun a ha hb => hfresh a hb ha⟩
  · refine ⟨hl, fun o' ho' => by simp [freeObject] at ho', fun w' hw' => ?_, ?_⟩
    · simpa [freeObject, Function.update_noteq hw'] using h.others_idle w' hw'
    · simp only [freeObject, List.filterMap_append, List.filterMap_cons, SlabEvent.freed,
        List.filterMap_nil]
      exact List.nodup_append.2 ⟨h.frees_nodup, List.nodup_singleton o,
        fun a ha hb => hfresh o (h.found_listed o ho) (List.mem_singleton.1 hb ▸ ha)⟩

/-- **A single writer never frees an object twice.** -/
theorem one_writer_frees_once (w : ℕ) (ops : List SlabOp) (hw : ∀ op ∈ ops, op.writer = w) :
    ((run (slabStep bitsPerLong) slabInit ops).2.flatten.filterMap SlabEvent.freed).Nodup := by
  simpa using (run_inv_trace (slabStep bitsPerLong) (fun op => op.writer = w) (OneWriter w)
    (fun _ _ op hw h => h.step op hw) ops _ [] hw (oneWriter_init w)).frees_nodup

/-- One writer allocates two objects, frees object 0, then frees them all:
each object is freed once. -/
theorem one_writer_free_then_freeall :
    let ops : List SlabOp :=
      [.start 0 (.alloc true), .start 0 (.alloc true), .start 0 (.free 0), .finish 0,
        .start 0 .freeall]
    (∀ op ∈ ops, op.writer = 0) ∧
      (run (slabStep 64) slabInit ops).2.flatten.filterMap SlabEvent.freed = [0, 1] ∧
      ((run (slabStep 64) slabInit ops).2.flatten.filterMap SlabEvent.freed).Nodup :=
  ⟨by decide, by decide, one_writer_frees_once 0 _ (by decide)⟩

/-! ### A lone writer keeps exact books

One command at a time, each run to its end: the listed objects carry
distinct ids, `total_allocated - total_freed` is the number listed,
`free <id>` unlinks the one object with that id and `access <id>` counts on
it alone, as long as `next_id` has not wrapped (`slab_accounting_exact`). -/

/-- One command of a lone writer, run to its end. -/
def seqStep (bitsPerLong : ℕ) (s : SlabState) (cmd : SlabCmd) : SlabState × List SlabEvent :=
  let r₁ := slabStep bitsPerLong s (.start 0 cmd)
  let r₂ := slabStep bitsPerLong r₁.1 (.finish 0)
  (r₂.1, r₁.2 ++ r₂.2)

/-- Whether a command allocates an object. -/
def SlabCmd.allocates : SlabCmd → Bool
  | .alloc ok => ok
  | _ => false

theorem findObject_some {s : SlabState} {id : ℤ} {o : ℕ} (h : findObject s id = some o) :
    o ∈ s.objectList ∧ (s.objects o).id = id :=
  ⟨List.mem_of_find?_eq_some h, by simpa using List.find?_some h⟩

theorem findObject_none {s : SlabState} {id : ℤ} (h : findObject s id = none) :
    ∀ o ∈ s.objectList, (s.objects o).id ≠ id := by
  simpa [findObject, List.find?_eq_none] using h

section Lone

variable {s : SlabState} (hi : s.pc = fun _ => .idle)
include hi

theorem seqStep_alloc (ok : Bool) : (seqStep bitsPerLong s (.alloc ok)).1 = allocObject s ok := by
  simp [seqStep, slabStep, statsWrite, hi]

theorem seqStep_free_some {id : ℤ} {o : ℕ} (hf : findObject s id = some o) :
    (seqStep bitsPerLong s (.free id)).1 = (freeObject s o).1 := by
  have hpc : Function.update (Function.update s.pc 0 (.freeFound o)) 0 .idle = s.pc := by
    funext w; by_cases hw : w = 0 <;> simp [hw, hi]
  simp [seqStep, slabStep, statsWrite, hi, hf, freeObject, ← hpc]

theorem seqStep_free_none {id : ℤ} (hf : findObject s id = none) : (seqStep bitsPerLong s (.free id)).1 = s := by
  simp [seqStep, slabStep, statsWrite, hi, hf]

theorem seqStep_access_some {id : ℤ} {o : ℕ} (hf : findObject s id = some o) :
    (seqStep bitsPerLong s (.access id)).1 = (accessObject bitsPerLong s o).1 := by
  simp [seqStep, slabStep, statsWrite, hi, hf, accessObject]

theorem seqStep_access_none {id : ℤ} (hf : findObject s id = none) :
    (seqStep bitsPerLong s (.access id)).1 = s := by
  simp [seqStep, slabStep, statsWrite, hi, hf]

theorem seqStep_freeall : (seqStep bitsPerLong s .freeall).1 = (freeAllObjects s).1 := by
  simp [seqStep, slabStep, statsWrite, hi, freeAllObjects]

theorem seqStep_unknown : (seqStep bitsPerLong s .unknown).1 = s := by
  simp [seqStep, slabStep, statsWrite, hi]

end Lone

/-- The books of a lone writer between commands: no writer inside a
command, the listed objects' ids distinct and below `next_id`, `next_id` the
number of allocations, and the counters apart by the number listed. -/
structure Accounting (s : SlabState) : Prop where
  idle : s.pc = fun _ => .idle
  ids_nodup : (s.objectList.map fun o => (s.objects o).id).Nodup
  id_lt : ∀ o ∈ s.objectList, (s.objects o).id < s.nextId
  listed_lt : ∀ o ∈ s.objectList, o < s.nextObj
  nextId_eq : s.nextId = s.totalAllocated
  active : s.totalAllocated = s.totalFreed + s.objectList.length

section Accounting

variable {s : SlabState}

theorem accounting_init : Accounting slabInit :=
  ⟨rfl, List.nodup_nil, fun _ h => absurd h (List.not_mem_nil _),
    fun _ h => absurd h (List.not_mem_nil _), rfl, rfl⟩

theorem Accounting.allocObject (h : Accounting s) (ok : Bool)
    (hb : ok → s.totalAllocated + 1 < 2 ^ 31) : Accounting (allocObject s ok) := by
  unfold KmemCache.allocObject
  split_ifs with hok
  · have hn := h.nextId_eq
    have hwrap : int32 ((s.nextId + 1) % 2 ^ 32).toNat = s.nextId + 1 := by
      have := hb hok
      rw [int32, if_pos (by omega)]
      omega
    have hold : ∀ o ∈ s.objectList,
        Function.update s.objects s.nextObj ⟨s.nextId, 0⟩ o = s.objects o := fun o ho =>
      Function.update_noteq (Nat.ne_of_lt (h.listed_lt o ho)) _ _
    refine ⟨h.idle, ?_, fun o ho => ?_, fun o ho => ?_, by dsimp only; rw [hwrap]; omega,
      by simp only [List.length_cons, h.active]; omega⟩
    · rw [List.map_cons, List.map_congr_left fun o ho => congrArg DemoObject.id (hold o ho)]
      refine List.nodup_cons.2 ⟨fun hm => ?_, h.ids_nodup⟩
      obtain ⟨o, ho, he⟩ := List.mem_map.1 hm
      have := h.id_lt o ho
      simp only [Function.update_same] at he
      omega
    · rw [hwrap]
      rcases List.mem_cons.1 ho with rfl | ho
      · simp only [Function.update_same]; omega
      · simp only [hold o ho]; have := h.id_lt o ho; omega
    · rcases List.mem_cons.1 ho with rfl | ho
      exacts [Nat.lt_succ_self _, Nat.lt_succ_of_lt (h.listed_lt o ho)]
  · exact h

theorem Accounting.freeObject (h : Accounting s) {o : ℕ} (ho : o ∈ s.objectList) :
    Accounting (freeObject s o).1 := by
  have hlen := List.length_erase_of_mem ho
  have hpos := List.length_pos_of_mem ho
  exact ⟨h.idle, h.ids_nodup.sublist ((List.erase_sublist _ _).map _),
    fun o' ho' => h.id_lt o' (List.mem_of_mem_erase ho'),
    fun o' ho' => h.listed_lt o' (List.mem_of_mem_erase ho'), h.nextId_eq,
    by simp only [KmemCache.freeObject, hlen, h.active]; omega⟩

theorem accessObject_id (bitsPerLong : ℕ) (s : SlabState) (o o' : ℕ) :
    ((accessObject bitsPerLong s o).1.objects o').id = (s.objects o').id := by
  by_cases h : o' = o
  · subst h; simp [accessObject]
  · simp [accessObject, Function.update_noteq h]

theorem Accounting.accessObject (h : Accounting s) (o : ℕ) : Accounting (accessObject bitsPerLong s o).1 := by
  have hid := accessObject_id bitsPerLong s o
  refine ⟨h.idle, ?_, fun o' ho' => ?_, h.listed_lt, h.nextId_eq, h.active⟩
  · simpa only [hid] using h.ids_nodup
  · rw [hid]; exact h.id_lt o' ho'

theorem Accounting.freeAllObjects (h : Accounting s) : Accounting (freeAllObjects s).1 :=
  ⟨h.idle, List.nodup_nil, fun _ h => absurd h (List.not_mem_nil _),
    fun _ h => absurd h (List.not_mem_nil _), h.nextId_eq,
    by simp only [KmemCache.freeAllObjects, h.active, List.length_nil]; omega⟩

/-- **One command keeps the books**, if it does not make the 2^31-st
allocation. -/
theorem Accounting.seqStep (h : Accounting s) (cmd : SlabCmd)
    (hb : cmd.allocates → s.totalAllocated + 1 < 2 ^ 31) :
    Accounting (seqStep bitsPerLong s cmd).1 ∧
      (seqStep bitsPerLong s cmd).1.totalAllocated = s.totalAllocated + if cmd.allocates then 1 else 0 := by
  cases cmd with
  | alloc ok =>
    rw [seqStep_alloc h.idle]
    refine ⟨h.allocObject ok hb, ?_⟩
    cases ok <;> rfl
  | free id =>
    rcases hf : findObject s id with _ | o
    · rw [seqStep_free_none h.idle hf]; exact ⟨h, rfl⟩
    · rw [seqStep_free_some h.idle hf]; exact ⟨h.freeObject (findObject_some hf).1, rfl⟩
  | access id =>
    rcases hf : findObject s id with _ | o
    · rw [seqStep_access_none h.idle hf]; exact ⟨h, rfl⟩
    · rw [seqStep_access_some h.idle hf]; exact ⟨h.accessObject o, rfl⟩
  | freeall => rw [seqStep_freeall h.idle]; exact ⟨h.freeAllObjects, rfl⟩
  | unknown => rw [seqStep_unknown h.idle]; exact ⟨h, rfl⟩

theorem accounting_run : ∀ (cmds : List SlabCmd) (s : SlabState), Accounting s →
    s.totalAllocated + cmds.countP SlabCmd.allocates < 2 ^ 31 → Accounting (run (seqStep bitsPerLong) s cmds).1
  | [], _, h, _ => h
  | cmd :: cmds, s, h, hb => by
    rw [List.countP_cons] at hb
    obtain ⟨h', ht⟩ := h.seqStep cmd fun hc => by simp only [hc, if_true] at hb; omega
    rw [run_cons]
    exact accounting_run cmds _ h' (by rw [ht]; split_ifs at hb ⊢ <;> omega)

/-- Listed objects are told apart by their ids. -/
theorem Accounting.eq_of_id (h : Accounting s) {o o' : ℕ} (ho : o ∈ s.objectList)
    (ho' : o' ∈ s.objectList) (he : (s.objects o).id = (s.objects o').id) : o = o' :=
  List.inj_on_of_nodup_map h.ids_nodup ho ho' he

/-- With distinct ids, unlinking the object found by id is dropping that id. -/
theorem Accounting.erase_found (h : Accounting s) {id : ℤ} {o : ℕ} (hf : findObject s id = some o) :
    s.objectList.erase o = s.objectList.filter fun o' => (s.objects o').id ≠ id := by
  obtain ⟨ho, hid⟩ := findObject_some hf
  rw [(h.ids_nodup.of_map _).erase_eq_filter]
  refine List.filter_congr fun o' ho' => ?_
  by_cases e : o' = o
  · subst e; simp [hid]
  · have : (s.objects o').id ≠ id := fun he => e (h.eq_of_id ho' ho (he.trans hid.symm))
    simp [e, this]

end Accounting

/-- The books `stats_show` reports are exact in `s`: the listed objects have
distinct ids, `Currently active` (`total_allocated - total_freed`) is the
number listed, `free <id>` unlinks exactly the object with that id, and
`access <id>` changes the access count of that object alone. -/
structure ExactBooks (bitsPerLong : ℕ) (s : SlabState) : Prop where
  ids_distinct : (s.objectList.map fun o => (s.objects o).id).Nodup
  active_listed : (s.totalAllocated : ℤ) - s.totalFreed = s.objectList.length
  free_exact : ∀ id, (seqStep bitsPerLong s (.free id)).1.objectList =
      s.objectList.filter (fun o => (s.objects o).id ≠ id) ∧
    (seqStep bitsPerLong s (.free id)).1.objects = s.objects
  access_exact : ∀ id o, (seqStep bitsPerLong s (.access id)).1.objectList = s.objectList ∧
    (seqStep bitsPerLong s (.access id)).1.objects o =
      if o ∈ s.objectList ∧ (s.objects o).id = id then
        { s.objects o with accessCount := ((s.objects o).accessCount + 1) % 2 ^ bitsPerLong }
      else s.objects o

theorem Accounting.exactBooks {s : SlabState} (h : Accounting s) : ExactBooks bitsPerLong s := by
  refine ⟨h.ids_nodup, by rw [h.active]; push_cast; omega, fun id => ?_, fun id o => ?_⟩
  · rcases hf : findObject s id with _ | o
    · rw [seqStep_free_none h.idle hf]
      exact ⟨(List.filter_eq_self.2 fun o ho => by simpa using findObject_none hf o ho).symm, rfl⟩
    · rw [seqStep_free_some h.idle hf]
      exact ⟨h.erase_found hf, rfl⟩
  · rcases hf : findObject s id with _ | o'
    · rw [seqStep_access_none h.idle hf, if_neg fun ⟨ho, he⟩ => findObject_none hf o ho he]
      exact ⟨rfl, rfl⟩
    · rw [seqStep_access_some h.idle hf]
      obtain ⟨ho', hid⟩ := findObject_some hf
      refine ⟨rfl, ?_⟩
      by_cases e : o = o'
      · subst e; simp [KmemCache.accessObject, ho', hid]
      · rw [if_neg fun ⟨ho, he⟩ => e (h.eq_of_id ho ho' (he.trans hid.symm))]
        simp [KmemCache.accessObject, Function.update_noteq e]

/-- **The slab demo's books are exact** in every sequential run with fewer
than 2^31 allocations. -/
theorem slab_accounting_exact (bitsPerLong : ℕ) (cmds : List SlabCmd) (hb : cmds.countP SlabCmd.allocates < 2 ^ 31) :
    ExactBooks bitsPerLong (run (seqStep bitsPerLong) slabInit cmds).1 :=
  (accounting_run cmds slabInit accounting_init (Nat.zero_add _ ▸ hb)).exactBooks

/-- Two objects allocated, object 0 freed and object 1 accessed, then an
unknown command: the books are exact. -/
theorem slab_books_after_free_and_access :
    let cmds := [SlabCmd.alloc true, .alloc true, .free 0, .access 1, .unknown]
    cmds.countP SlabCmd.allocates < 2 ^ 31 ∧ ExactBooks 64 (run (seqStep 64) slabInit cmds).1 :=
  ⟨by decide, slab_accounting_exact 64 _ (by decide)⟩

end KmemCache
end DriverGuide
