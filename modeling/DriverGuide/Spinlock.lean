/-
# The spinlock demo: no lost update, and readers see whole updates

`part4/spinlock-demo/spinlock_demo.c` starts four kthreads: two
`counter_thread`s that increment `basic.count` under the spinlock
`basic.lock`; a `reader_thread` that copies `rwdata.value` and `rwdata.name`
and increments `rwdata.reads` under the read side of the rwlock
`rwdata.lock`; and a `writer_thread` that increments `rwdata.value`, prints it
into `rwdata.name` and increments `rwdata.writes` under the write side.
`stats_show`, run by every read of `/proc/spinlock_demo`, reads the counter
under the spinlock and the four fields of `rwdata` under the read lock.

A step here is one load, one store or one lock operation of one thread, so a
run is any interleaving of the four threads and of any number of
`stats_show` calls; a lock operation that cannot proceed leaves everything as
it was (the thread spins). The code's lock discipline makes the increments
atomic and the updates of `rwdata` indivisible. In every run:

* at most one thread holds `basic.lock`, and the writer holds `rwdata.lock`
  only while no one reads (`spinlock_mutual_exclusion`);
* no increment is lost: `basic.count`, `rwdata.reads` and `rwdata.writes` are
  the numbers of increments made, modulo `2^BITS_PER_LONG` as the `unsigned
  long`s hold them (`spinlock_no_lost_update`). `reads++` runs under the read
  lock only, which does not keep readers apart, but the reader thread is the
  only one that writes it;
* every value and name the reader thread copies, and every record
  `stats_show` prints, is one the writer left whole: the name is
  `"update_%d"` of the value, or the first `"initial"` with value 0, and the
  value and the name `stats_show` prints are those of a number of writes that
  its `writes` is modulo `2^BITS_PER_LONG` (`spinlock_snapshots_consistent`).

`BITS_PER_LONG` is the parameter `bitsPerLong` of the threads' steps; every
result holds for each width.

The model's rwlock lets a reader in whenever no writer holds the lock; the
kernel's queued rwlock may also make a reader wait behind a waiting writer.
So the model has every interleaving the kernel allows, and more, and its
safety results hold of the kernel's.

Not covered: `percpu_thread`, which `spinlock_demo_init` never starts, so
the per-CPU counters stay 0; `usleep_range` and `msleep`; the `pr_*`
messages.

Key definitions: `counterThread`, `readerThread`, `writerThread`,
`statsShow`, `spinStep`, `SpinInv`, `RwInv`, `Traced`.
Key theorems: `counterThread_traced`, `readerThread_traced`,
`writerThread_traced`, `statsShow_traced`, `spinStep_traced`,
`spinlock_mutual_exclusion`, `spinlock_no_lost_update`,
`spinlock_snapshots_consistent`.
-/
import DriverGuide.Basic

namespace DriverGuide
namespace Spinlock

/-! ### Shared data -/

/-- `struct basic_counter`: the spinlock, held or not, and the count, an
`unsigned long`. -/
structure BasicCounter where
  locked : Bool
  count : ℕ

/-- `struct rw_data`: the rwlock (a writer, or a number of readers), the
value, the name, and the read and write counts, `unsigned long`s. -/
structure RwData where
  writer : Bool
  readers : ℕ
  value : ℤ
  name : String
  reads : ℕ
  writes : ℕ

/-- `snprintf(rwdata.name, sizeof(rwdata.name), "update_%d", rwdata.value)`:
at most 18 characters, so the 32 bytes never cut it short. -/
def updateName (value : ℤ) : String := "update_" ++ toString value

/-- The name after `w` writes. -/
def nameOfCount (w : ℕ) : String := if w = 0 then "initial" else updateName (intOfCount w)

/-! ### The threads

A thread's program counter names its next access; a counter that carries a
number holds what the thread has loaded. -/

/-- `counter_thread`: the loop test, `spin_lock`, the load and the store of
`basic.count++`, `spin_unlock`; `done` once it has returned, or if
`kthread_run` failed. -/
inductive CounterPc
  | test
  | lock
  | load
  | store (tmp : ℕ)
  | unlock
  | done
  deriving DecidableEq

/-- `reader_thread`: the loop test, `read_lock`, `local_value = rwdata.value`,
the `strscpy` of `rwdata.name`, the load and the store of `rwdata.reads++`,
`read_unlock`. -/
inductive ReaderPc
  | test
  | lock
  | loadValue
  | copyName (value : ℤ)
  | loadReads
  | storeReads (tmp : ℕ)
  | unlock
  | done
  deriving DecidableEq

/-- `writer_thread`: the loop test, `write_lock`, the load and the store of
`rwdata.value++`, the `snprintf` into `rwdata.name`, the load and the store
of `rwdata.writes++`, `write_unlock`. -/
inductive WriterPc
  | test
  | lock
  | loadValue
  | storeValue (tmp : ℤ)
  | format
  | loadWrites
  | storeWrites (tmp : ℕ)
  | unlock
  | done
  deriving DecidableEq

/-- What `stats_show` prints. -/
structure Stats where
  count : ℕ
  value : ℤ
  name : String
  reads : ℕ
  writes : ℕ
  deriving DecidableEq

/-- `stats_show`: `spin_lock`, the load of `basic.count`, `spin_unlock`,
`read_lock`, the loads of the four fields of `rwdata`, `read_unlock`. -/
inductive ShowPc
  | spinLock
  | loadCount
  | spinUnlock (count : ℕ)
  | readLock (count : ℕ)
  | loadValue (count : ℕ)
  | loadName (count : ℕ) (value : ℤ)
  | loadReads (count : ℕ) (value : ℤ) (name : String)
  | loadWrites (count : ℕ) (value : ℤ) (name : String) (reads : ℕ)
  | readUnlock (shown : Stats)
  | finished
  deriving DecidableEq

/-- What the threads do that the theorems count or read. -/
inductive SpinEvent
  /-- A `counter_thread` stored `basic.count + 1`. -/
  | incremented
  /-- The reader thread's `local_value` and `local_name`. -/
  | copied (value : ℤ) (name : String)
  /-- The reader thread stored `rwdata.reads + 1`. -/
  | readCounted
  /-- The writer thread stored `rwdata.writes + 1`. -/
  | wrote
  /-- A `stats_show` printed a record. -/
  | shown (st : Stats)
  deriving DecidableEq

/-- One step of a `counter_thread`; `stop` is `stop_threads`. The loop also
exits on `kthread_should_stop()`, but `spinlock_demo_exit` sets
`stop_threads` before it calls `kthread_stop`, so the test is
`stop_threads`. The store wraps at `2^BITS_PER_LONG`. -/
def counterThread (bitsPerLong : ℕ) (stop : Bool) (b : BasicCounter) :
    CounterPc → BasicCounter × CounterPc × List SpinEvent
  | .test => (b, if stop then .done else .lock, [])
  | .lock => if b.locked then (b, .lock, []) else ({ b with locked := true }, .load, [])
  | .load => (b, .store b.count, [])
  | .store tmp => ({ b with count := (tmp + 1) % 2 ^ bitsPerLong }, .unlock, [.incremented])
  | .unlock => ({ b with locked := false }, .test, [])
  | .done => (b, .done, [])

/-- One step of the `reader_thread`. -/
def readerThread (bitsPerLong : ℕ) (stop : Bool) (d : RwData) : ReaderPc → RwData × ReaderPc × List SpinEvent
  | .test => (d, if stop then .done else .lock, [])
  | .lock => if d.writer then (d, .lock, []) else ({ d with readers := d.readers + 1 }, .loadValue, [])
  | .loadValue => (d, .copyName d.value, [])
  | .copyName v => (d, .loadReads, [.copied v d.name])
  | .loadReads => (d, .storeReads d.reads, [])
  | .storeReads tmp => ({ d with reads := (tmp + 1) % 2 ^ bitsPerLong }, .unlock, [.readCounted])
  | .unlock => ({ d with readers := d.readers - 1 }, .test, [])
  | .done => (d, .done, [])

/-- One step of the `writer_thread`. -/
def writerThread (bitsPerLong : ℕ) (stop : Bool) (d : RwData) : WriterPc → RwData × WriterPc × List SpinEvent
  | .test => (d, if stop then .done else .lock, [])
  | .lock =>
    if d.writer ∨ d.readers ≠ 0 then (d, .lock, []) else ({ d with writer := true }, .loadValue, [])
  | .loadValue => (d, .storeValue d.value, [])
  | .storeValue tmp => ({ d with value := intInc tmp }, .format, [])
  | .format => ({ d with name := updateName d.value }, .loadWrites, [])
  | .loadWrites => (d, .storeWrites d.writes, [])
  | .storeWrites tmp => ({ d with writes := (tmp + 1) % 2 ^ bitsPerLong }, .unlock, [.wrote])
  | .unlock => ({ d with writer := false }, .test, [])
  | .done => (d, .done, [])

/-- One step of a `stats_show`. -/
def statsShow (b : BasicCounter) (d : RwData) : ShowPc → BasicCounter × RwData × ShowPc × List SpinEvent
  | .spinLock => if b.locked then (b, d, .spinLock, []) else ({ b with locked := true }, d, .loadCount, [])
  | .loadCount => (b, d, .spinUnlock b.count, [])
  | .spinUnlock c => ({ b with locked := false }, d, .readLock c, [])
  | .readLock c =>
    if d.writer then (b, d, .readLock c, []) else (b, { d with readers := d.readers + 1 }, .loadValue c, [])
  | .loadValue c => (b, d, .loadName c d.value, [])
  | .loadName c v => (b, d, .loadReads c v d.name, [])
  | .loadReads c v n => (b, d, .loadWrites c v n d.reads, [])
  | .loadWrites c v n r => (b, d, .readUnlock ⟨c, v, n, r, d.writes⟩, [])
  | .readUnlock st => (b, { d with readers := d.readers - 1 }, .finished, [.shown st])
  | .finished => (b, d, .finished, [])

/-! ### The system -/

/-- The shared data, `stop_threads`, the four kthreads of `threads[]` and
the `stats_show` calls started so far. -/
structure SpinSys where
  basic : BasicCounter
  rwdata : RwData
  stopThreads : Bool
  counter : Fin 2 → CounterPc
  reader : ReaderPc
  writer : WriterPc
  shows : List ShowPc

/-- Who moves next. -/
inductive SpinOp
  | counter (i : Fin 2)
  | reader
  | writer
  /-- A read of `/proc/spinlock_demo` calls `stats_show`. -/
  | openStats
  /-- The next step of the `k`-th `stats_show`. -/
  | stats (k : ℕ)
  /-- `spinlock_demo_exit` sets `stop_threads`. -/
  | exit

def spinStep (bitsPerLong : ℕ) (s : SpinSys) : SpinOp → SpinSys × List SpinEvent
  | .counter i =>
    let r := counterThread bitsPerLong s.stopThreads s.basic (s.counter i)
    ({ s with basic := r.1, counter := Function.update s.counter i r.2.1 }, r.2.2)
  | .reader =>
    let r := readerThread bitsPerLong s.stopThreads s.rwdata s.reader
    ({ s with rwdata := r.1, reader := r.2.1 }, r.2.2)
  | .writer =>
    let r := writerThread bitsPerLong s.stopThreads s.rwdata s.writer
    ({ s with rwdata := r.1, writer := r.2.1 }, r.2.2)
  | .openStats => ({ s with shows := s.shows ++ [.spinLock] }, [])
  | .stats k =>
    match s.shows[k]? with
    | none => (s, [])
    | some p =>
      let r := statsShow s.basic s.rwdata p
      ({ s with basic := r.1, rwdata := r.2.1, shows := s.shows.set k r.2.2.1 }, r.2.2.2)
  | .exit => ({ s with stopThreads := true }, [])

/-- After `spinlock_demo_init`: `started i` says whether `kthread_run` gave
`threads[i]` (0 and 1 count, 2 reads, 3 writes). -/
def spinlockDemoInit (started : Fin 4 → Bool) : SpinSys where
  basic := ⟨false, 0⟩
  rwdata := ⟨false, 0, 0, "initial", 0, 0⟩
  stopThreads := false
  counter i := if started (Fin.castLE (by decide) i) then .test else .done
  reader := if started 2 then .test else .done
  writer := if started 3 then .test else .done
  shows := []

/-- The events each count is made of. -/
def SpinEvent.isIncremented : SpinEvent → Bool
  | .incremented => true
  | _ => false

def SpinEvent.isReadCounted : SpinEvent → Bool
  | .readCounted => true
  | _ => false

def SpinEvent.isWrote : SpinEvent → Bool
  | .wrote => true
  | _ => false

/-- A value and a name the writer left whole. -/
def WholeName (v : ℤ) (n : String) : Prop := (v = 0 ∧ n = "initial") ∨ n = updateName v

theorem wholeName_of_count (w : ℕ) : WholeName (intOfCount w) (nameOfCount w) := by
  unfold WholeName nameOfCount
  split_ifs with h
  · exact .inl ⟨by simp [h, intOfCount, int32], rfl⟩
  · exact .inr rfl

/-- What the theorems ask of an event: a copy or a record the writer left
whole; a record's `writes` is its number of writes modulo `2^BITS_PER_LONG`. -/
def SpinEvent.Whole (bitsPerLong : ℕ) : SpinEvent → Prop
  | .copied v n => WholeName v n
  | .shown st => ∃ n, st.writes = n % 2 ^ bitsPerLong ∧ st.value = intOfCount n ∧ st.name = nameOfCount n
  | _ => True

/-- One step's effect on the two counts outside the writer's, modulo
`2^BITS_PER_LONG` and kept below it, and the whole events it emits. -/
structure StepOk (bitsPerLong : ℕ) (b b' : BasicCounter) (d d' : RwData) (evs : List SpinEvent) : Prop where
  count : b'.count ≡ b.count + evs.countP SpinEvent.isIncremented [MOD 2 ^ bitsPerLong]
  count_lt : b.count < 2 ^ bitsPerLong → b'.count < 2 ^ bitsPerLong
  reads : d'.reads ≡ d.reads + evs.countP SpinEvent.isReadCounted [MOD 2 ^ bitsPerLong]
  reads_lt : d.reads < 2 ^ bitsPerLong → d'.reads < 2 ^ bitsPerLong
  whole : ∀ e ∈ evs, e.Whole bitsPerLong

section Width

variable {bitsPerLong : ℕ}

/-- A step that emits nothing and keeps the two counts. -/
theorem StepOk.nil {b b' : BasicCounter} {d d' : RwData} (hc : b'.count = b.count) (hr : d'.reads = d.reads) :
    StepOk bitsPerLong b b' d d' [] :=
  ⟨by rw [hc]; rfl, fun h => hc ▸ h, by rw [hr]; rfl, fun h => hr ▸ h, by simp⟩

/-- The store of a loaded `unsigned long` plus one: one more, modulo the
width, and below it. -/
theorem store_modEq (x : ℕ) :
    (x + 1) % 2 ^ bitsPerLong ≡ x + 1 [MOD 2 ^ bitsPerLong] ∧ (x + 1) % 2 ^ bitsPerLong < 2 ^ bitsPerLong :=
  ⟨Nat.mod_modEq _ _, Nat.mod_lt _ (Nat.two_pow_pos _)⟩

/-! ### Who holds the locks -/

/-- 1 while a counter thread holds `basic.lock`. -/
def CounterPc.held : CounterPc → ℕ
  | .load | .store _ | .unlock => 1
  | _ => 0

/-- Whether a `stats_show` holds `basic.lock`. -/
def ShowPc.holdsSpin : ShowPc → Bool
  | .loadCount | .spinUnlock _ => true
  | _ => false

/-- 1 while the reader thread holds `rwdata.lock` for reading. -/
def ReaderPc.held : ReaderPc → ℕ
  | .loadValue | .copyName _ | .loadReads | .storeReads _ | .unlock => 1
  | _ => 0

/-- Whether a `stats_show` holds `rwdata.lock` for reading. -/
def ShowPc.holdsRead : ShowPc → Bool
  | .loadValue _ | .loadName _ _ | .loadReads _ _ _ | .loadWrites _ _ _ _ | .readUnlock _ => true
  | _ => false

/-- Whether the writer thread holds `rwdata.lock`. -/
def WriterPc.holds : WriterPc → Bool
  | .loadValue | .storeValue _ | .format | .loadWrites | .storeWrites _ | .unlock => true
  | _ => false

/-- The number of threads in the critical sections of `basic.lock`. -/
def spinHolders (counter : Fin 2 → CounterPc) (shows : List ShowPc) : ℕ :=
  (counter 0).held + (counter 1).held + shows.countP ShowPc.holdsSpin

theorem spinHolders_update (counter : Fin 2 → CounterPc) (shows : List ShowPc) (i : Fin 2)
    (p : CounterPc) :
    spinHolders (Function.update counter i p) shows + (counter i).held = spinHolders counter shows + p.held := by
  fin_cases i <;> simp [spinHolders, Function.update] <;> omega

theorem held_add_held_le (counter : Fin 2 → CounterPc) (shows : List ShowPc) {i j : Fin 2} (h : j ≠ i) :
    (counter i).held + (counter j).held ≤ spinHolders counter shows := by
  fin_cases i <;> fin_cases j <;> simp_all [spinHolders]
  omega

/-- `basic.lock` is held exactly while one thread is in its critical
section, and a counter thread about to store has loaded the current count. -/
structure SpinInv (b : BasicCounter) (counter : Fin 2 → CounterPc) (shows : List ShowPc) : Prop where
  holders : spinHolders counter shows = if b.locked then 1 else 0
  loaded : ∀ i tmp, counter i = .store tmp → tmp = b.count

/-- What the counter threads have loaded after thread `i` moves to `p`. -/
theorem loaded_update {counter : Fin 2 → CounterPc} {i : Fin 2} {p : CounterPc} {n : ℕ}
    (hi : ∀ tmp, p = .store tmp → tmp = n) (ho : ∀ j, j ≠ i → ∀ tmp, counter j = .store tmp → tmp = n) :
    ∀ j tmp, Function.update counter i p j = .store tmp → tmp = n := by
  intro j tmp hj
  by_cases hji : j = i
  · subst hji
    exact hi tmp (by simpa using hj)
  · exact ho j hji tmp (by simpa [Function.update_noteq hji] using hj)

/-- A counter thread's step that keeps `basic` and whether the thread holds
the lock, and loads nothing but the current count. -/
theorem SpinInv.update {b : BasicCounter} {counter : Fin 2 → CounterPc} {shows : List ShowPc}
    (h : SpinInv b counter shows) {i : Fin 2} {p : CounterPc} (hheld : p.held = (counter i).held)
    (hstore : ∀ tmp, p = .store tmp → tmp = b.count) : SpinInv b (Function.update counter i p) shows :=
  ⟨by have := spinHolders_update counter shows i p; have := h.holders; omega,
    loaded_update hstore fun j _ => h.loaded j⟩

/-- The thread that holds the lock is the only one. -/
theorem SpinInv.not_store_of_held {b : BasicCounter} {counter : Fin 2 → CounterPc}
    {shows : List ShowPc} (h : SpinInv b counter shows) {i j : Fin 2} (hi : (counter i).held = 1)
    (hji : j ≠ i) (tmp : ℕ) : counter j ≠ .store tmp := by
  intro hj
  have hle := held_add_held_le counter shows hji
  have hh := h.holders
  rw [hj, hi] at hle
  split_ifs at hh <;> simp only [CounterPc.held] at hle <;> omega

/-- **A counter thread's step** keeps `SpinInv`, and adds one to
`basic.count`, modulo `2^BITS_PER_LONG`, exactly when it stores. -/
theorem counterThread_spinInv (bitsPerLong : ℕ) (stop : Bool) {b : BasicCounter} {counter : Fin 2 → CounterPc}
    {shows : List ShowPc} (h : SpinInv b counter shows) (i : Fin 2) (d : RwData) :
    SpinInv (counterThread bitsPerLong stop b (counter i)).1
        (Function.update counter i (counterThread bitsPerLong stop b (counter i)).2.1) shows ∧
      StepOk bitsPerLong b (counterThread bitsPerLong stop b (counter i)).1 d d
        (counterThread bitsPerLong stop b (counter i)).2.2 := by
  have hu := spinHolders_update counter shows i
  have hh := h.holders
  cases hp : counter i with
  | test =>
    refine ⟨h.update ?_ (fun tmp ht => ?_), .nil rfl rfl⟩ <;> cases stop <;>
      simp_all [counterThread, CounterPc.held]
  | lock =>
    cases hb : b.locked
    · have h1 := hu .load
      simp only [hp, hb, CounterPc.held, Bool.false_eq_true, if_false] at h1 hh
      simp only [counterThread, hb, Bool.false_eq_true, if_false]
      exact ⟨⟨by simp only [eq_self_iff_true, if_true]; omega,
        loaded_update (by simp) fun j _ => h.loaded j⟩, .nil rfl rfl⟩
    · simp only [counterThread, hb, if_true, ← hp, Function.update_eq_self]
      exact ⟨h, .nil rfl rfl⟩
  | load =>
    exact ⟨h.update (by simp [hp, counterThread, CounterPc.held]) (by simp [counterThread]), .nil rfl rfl⟩
  | store tmp =>
    have ht := h.loaded i tmp hp
    have h1 := hu .unlock
    simp only [hp, CounterPc.held] at h1
    simp only [counterThread]
    refine ⟨⟨by dsimp only; omega, loaded_update (by simp) fun j hji tmp' hj => ?_⟩,
      ⟨ht ▸ (store_modEq tmp).1, fun _ => (store_modEq tmp).2, .refl _, id, by simp [SpinEvent.Whole]⟩⟩
    exact absurd hj (h.not_store_of_held (by simp [hp, CounterPc.held]) hji tmp')
  | unlock =>
    have h1 := hu .test
    simp only [hp, CounterPc.held] at h1
    simp only [counterThread]
    refine ⟨⟨?_, loaded_update (by simp) fun j _ => h.loaded j⟩, .nil rfl rfl⟩
    cases hb : b.locked <;> simp only [hb, Bool.false_eq_true, if_false, if_true] at hh ⊢ <;> omega
  | done =>
    exact ⟨h.update (by simp [hp, counterThread]) (by simp [counterThread]), .nil rfl rfl⟩

theorem counterThread_wrote (bitsPerLong : ℕ) (stop : Bool) (b : BasicCounter) (p : CounterPc) :
    (counterThread bitsPerLong stop b p).2.2.countP SpinEvent.isWrote = 0 := by
  cases p <;> simp only [counterThread] <;> first | rfl | split_ifs <;> rfl

/-! ### The rwlock and what it keeps whole -/

/-- How far the writer's critical section has got: the new value is stored
from `format` on, the new name from `loadWrites` on. -/
def WriterPc.valueAhead : WriterPc → ℕ
  | .format | .loadWrites | .storeWrites _ => 1
  | _ => 0

def WriterPc.nameAhead : WriterPc → ℕ
  | .loadWrites | .storeWrites _ => 1
  | _ => 0

/-- What the reader thread has loaded is still in `rwdata`. -/
def ReaderPc.Loaded (d : RwData) : ReaderPc → Prop
  | .copyName v => v = d.value
  | .storeReads tmp => tmp = d.reads
  | _ => True

def WriterPc.Loaded (d : RwData) : WriterPc → Prop
  | .storeValue tmp => tmp = d.value
  | .storeWrites tmp => tmp = d.writes
  | _ => True

def ShowPc.Loaded (d : RwData) : ShowPc → Prop
  | .loadName _ v => v = d.value
  | .loadReads _ v n => v = d.value ∧ n = d.name
  | .loadWrites _ v n _ => v = d.value ∧ n = d.name
  | .readUnlock st => st.value = d.value ∧ st.name = d.name ∧ st.writes = d.writes
  | _ => True

/-- `rwdata.lock` is held for writing exactly by the writer in its critical
section and for reading by the readers in theirs, never both; after `n`
writes, `writes` is `n` modulo `2^BITS_PER_LONG` and the value and the name
are those of `n` writes, save for the writer's own progress; and what a
thread has loaded under the lock is still there. -/
structure RwInv (bitsPerLong n : ℕ) (d : RwData) (reader : ReaderPc) (writer : WriterPc) (shows : List ShowPc) :
    Prop where
  writerHeld : writer.holds = d.writer
  readersHeld : reader.held + shows.countP ShowPc.holdsRead = d.readers
  excl : d.writer = true → d.readers = 0
  writes : d.writes = n % 2 ^ bitsPerLong
  value : d.value = intOfCount (n + writer.valueAhead)
  name : d.name = nameOfCount (n + writer.nameAhead)
  writerLoaded : writer.Loaded d
  readerLoaded : reader.Loaded d
  showsLoaded : ∀ p ∈ shows, p.Loaded d

theorem WriterPc.ahead_of_not_holds {w : WriterPc} (h : w.holds = false) :
    w.valueAhead = 0 ∧ w.nameAhead = 0 := by
  cases w <;> simp_all [WriterPc.holds, WriterPc.valueAhead, WriterPc.nameAhead]

theorem ReaderPc.loaded_of_held {r : ReaderPc} (h : r.held = 0) (d : RwData) : r.Loaded d := by
  cases r <;> simp_all [ReaderPc.held, ReaderPc.Loaded]

theorem ShowPc.loaded_of_not_holdsRead {p : ShowPc} (h : p.holdsRead = false) (d : RwData) : p.Loaded d := by
  cases p <;> simp_all [ShowPc.holdsRead, ShowPc.Loaded]

/-- What a `stats_show` has loaded depends on the value, the name and the
write count only. -/
theorem ShowPc.Loaded.congr {d d' : RwData} {p : ShowPc} (h : p.Loaded d) (hv : d'.value = d.value)
    (hn : d'.name = d.name) (hw : d'.writes = d.writes) : p.Loaded d' := by
  cases p <;> simp_all [ShowPc.Loaded]

theorem ReaderPc.Loaded.congr {d d' : RwData} {r : ReaderPc} (h : r.Loaded d) (hv : d'.value = d.value)
    (hr : d'.reads = d.reads) : r.Loaded d' := by
  cases r <;> simp_all [ReaderPc.Loaded]

theorem WriterPc.Loaded.congr {d d' : RwData} {w : WriterPc} (h : w.Loaded d) (hv : d'.value = d.value)
    (hw : d'.writes = d.writes) : w.Loaded d' := by
  cases w <;> simp_all [WriterPc.Loaded]

/-- While no writer holds the lock, the value and the name are those of
`n` writes. -/
theorem RwInv.whole {n : ℕ} {d : RwData} {reader : ReaderPc} {writer : WriterPc} {shows : List ShowPc}
    (h : RwInv bitsPerLong n d reader writer shows) (hw : d.writer = false) :
    d.value = intOfCount n ∧ d.name = nameOfCount n := by
  obtain ⟨hv, hn⟩ := WriterPc.ahead_of_not_holds (h.writerHeld.trans hw)
  exact ⟨by rw [h.value, hv, Nat.add_zero], by rw [h.name, hn, Nat.add_zero]⟩

/-- While a reader holds the lock, the writer does not. -/
theorem RwInv.no_writer {n : ℕ} {d : RwData} {reader : ReaderPc} {writer : WriterPc} {shows : List ShowPc}
    (h : RwInv bitsPerLong n d reader writer shows) (hr : 0 < reader.held + shows.countP ShowPc.holdsRead) :
    d.writer = false := by
  cases hw : d.writer
  · rfl
  · have := h.excl hw; have := h.readersHeld; omega

/-- While the writer holds the lock, no one reads. -/
theorem RwInv.no_readers {n : ℕ} {d : RwData} {reader : ReaderPc} {writer : WriterPc} {shows : List ShowPc}
    (h : RwInv bitsPerLong n d reader writer shows) (hw : writer.holds = true) :
    reader.held = 0 ∧ ∀ p ∈ shows, p.holdsRead = false := by
  have h0 := h.excl (h.writerHeld ▸ hw)
  have hr := h.readersHeld
  refine ⟨by omega, fun p hp => ?_⟩
  have : shows.countP ShowPc.holdsRead = 0 := by omega
  exact Bool.eq_false_iff.2 fun hq => (List.countP_eq_zero.1 this) p hp hq

/-- A reader's step: it changes the reader count or the read count, and
whether the reader holds the lock by as much. -/
theorem RwInv.reader_step {n : ℕ} {d d' : RwData} {reader reader' : ReaderPc} {writer : WriterPc}
    {shows : List ShowPc} (h : RwInv bitsPerLong n d reader writer shows) (hw : d'.writer = d.writer)
    (hv : d'.value = d.value) (hn : d'.name = d.name) (hws : d'.writes = d.writes)
    (hrd : reader'.held + d.readers = reader.held + d'.readers) (hex : d'.writer = true → d'.readers = 0)
    (hl : reader'.Loaded d') : RwInv bitsPerLong n d' reader' writer shows where
  writerHeld := h.writerHeld.trans hw.symm
  readersHeld := by have := h.readersHeld; omega
  excl := hex
  writes := hws.trans h.writes
  value := hv.trans h.value
  name := hn.trans h.name
  writerLoaded := h.writerLoaded.congr hv hws
  readerLoaded := hl
  showsLoaded p hp := (h.showsLoaded p hp).congr hv hn hws

/-- A writer's step: readers that hold the lock see nothing change. -/
theorem RwInv.writer_step {n n' : ℕ} {d d' : RwData} {reader : ReaderPc} {writer writer' : WriterPc}
    {shows : List ShowPc} (h : RwInv bitsPerLong n d reader writer shows) (hheld : writer'.holds = d'.writer)
    (hrd : d'.readers = d.readers) (hex : d'.writer = true → d'.readers = 0)
    (hws : d'.writes = n' % 2 ^ bitsPerLong) (hv : d'.value = intOfCount (n' + writer'.valueAhead))
    (hn : d'.name = nameOfCount (n' + writer'.nameAhead)) (hl : writer'.Loaded d')
    (hr : d'.reads = d.reads)
    (hfree : writer.holds = true ∨ (d'.value = d.value ∧ d'.name = d.name ∧ d'.writes = d.writes)) :
    RwInv bitsPerLong n' d' reader writer' shows where
  writerHeld := hheld
  readersHeld := hrd ▸ h.readersHeld
  excl := hex
  writes := hws
  value := hv
  name := hn
  writerLoaded := hl
  readerLoaded := by
    rcases hfree with hw | ⟨hv', -, -⟩
    · exact ReaderPc.loaded_of_held (h.no_readers hw).1 d'
    · exact h.readerLoaded.congr hv' hr
  showsLoaded p hp := by
    rcases hfree with hw | ⟨hv', hn', hw'⟩
    · exact ShowPc.loaded_of_not_holdsRead ((h.no_readers hw).2 p hp) d'
    · exact (h.showsLoaded p hp).congr hv' hn' hw'

/-- **The reader thread's step** keeps `RwInv`; it copies a whole value and
name, and adds one to `rwdata.reads`, modulo `2^BITS_PER_LONG`, exactly when
it stores. -/
theorem readerThread_rwInv (bitsPerLong : ℕ) (stop : Bool) {n : ℕ} {b : BasicCounter} {d : RwData}
    {reader : ReaderPc} {writer : WriterPc} {shows : List ShowPc} (h : RwInv bitsPerLong n d reader writer shows) :
    RwInv bitsPerLong n (readerThread bitsPerLong stop d reader).1 (readerThread bitsPerLong stop d reader).2.1
        writer shows ∧
      StepOk bitsPerLong b b d (readerThread bitsPerLong stop d reader).1
        (readerThread bitsPerLong stop d reader).2.2 := by
  have hl := h.readerLoaded
  cases reader with
  | test => cases stop <;> exact ⟨h.reader_step rfl rfl rfl rfl rfl h.excl trivial, .nil rfl rfl⟩
  | lock =>
    cases hw : d.writer
    · simp only [readerThread, hw, Bool.false_eq_true, if_false]
      exact ⟨h.reader_step hw.symm rfl rfl rfl (by simp [ReaderPc.held]; omega) (by simp) trivial,
        .nil rfl rfl⟩
    · simp only [readerThread, hw, if_true]
      exact ⟨h, .nil rfl rfl⟩
  | loadValue => exact ⟨h.reader_step rfl rfl rfl rfl rfl h.excl rfl, .nil rfl rfl⟩
  | copyName v =>
    obtain ⟨hv, hn⟩ := h.whole (h.no_writer (by simp [ReaderPc.held]))
    refine ⟨h.reader_step rfl rfl rfl rfl rfl h.excl trivial, ⟨.refl _, id, .refl _, id, ?_⟩⟩
    simp only [readerThread, List.mem_singleton, forall_eq, SpinEvent.Whole]
    rw [show v = d.value from hl, hv, hn]
    exact wholeName_of_count _
  | loadReads => exact ⟨h.reader_step rfl rfl rfl rfl rfl h.excl rfl, .nil rfl rfl⟩
  | storeReads tmp =>
    obtain rfl : tmp = d.reads := hl
    exact ⟨h.reader_step rfl rfl rfl rfl rfl h.excl trivial,
      ⟨.refl _, id, (store_modEq _).1, fun _ => (store_modEq _).2, by simp [readerThread, SpinEvent.Whole]⟩⟩
  | unlock =>
    have hw := h.no_writer (by simp [ReaderPc.held])
    have hr := h.readersHeld
    simp only [ReaderPc.held] at hr
    exact ⟨h.reader_step rfl rfl rfl rfl (by simp [readerThread, ReaderPc.held]; omega)
      (by simp [readerThread, hw]) trivial, .nil rfl rfl⟩
  | done => exact ⟨h, .nil rfl rfl⟩

theorem readerThread_wrote (bitsPerLong : ℕ) (stop : Bool) (d : RwData) (r : ReaderPc) :
    (readerThread bitsPerLong stop d r).2.2.countP SpinEvent.isWrote = 0 := by
  cases r <;> simp only [readerThread] <;> first | rfl | split_ifs <;> rfl

/-- **The writer thread's step** keeps `RwInv`, and counts one more write
exactly when it stores `rwdata.writes`. -/
theorem writerThread_rwInv (bitsPerLong : ℕ) (stop : Bool) {n : ℕ} {b : BasicCounter} {d : RwData}
    {reader : ReaderPc} {writer : WriterPc} {shows : List ShowPc} (h : RwInv bitsPerLong n d reader writer shows) :
    RwInv bitsPerLong (n + (writerThread bitsPerLong stop d writer).2.2.countP SpinEvent.isWrote)
        (writerThread bitsPerLong stop d writer).1 reader (writerThread bitsPerLong stop d writer).2.1 shows ∧
      StepOk bitsPerLong b b d (writerThread bitsPerLong stop d writer).1
        (writerThread bitsPerLong stop d writer).2.2 := by
  have hl := h.writerLoaded
  have hws := h.writes
  have hv := h.value
  have hn := h.name
  cases writer with
  | test =>
    cases stop <;> exact ⟨h.writer_step h.writerHeld rfl h.excl hws hv hn trivial rfl (.inr ⟨rfl, rfl, rfl⟩),
      .nil rfl rfl⟩
  | lock =>
    by_cases hg : d.writer = true ∨ d.readers ≠ 0
    · simp only [writerThread, if_pos hg]
      exact ⟨h, .nil rfl rfl⟩
    · simp only [writerThread, if_neg hg]
      exact ⟨h.writer_step rfl rfl (fun _ => by simp at hg; exact hg.2) hws hv hn trivial rfl
        (.inr ⟨rfl, rfl, rfl⟩), .nil rfl rfl⟩
  | loadValue => exact ⟨h.writer_step h.writerHeld rfl h.excl hws hv hn rfl rfl (.inl rfl), .nil rfl rfl⟩
  | storeValue tmp =>
    have hnv : intInc tmp = intOfCount (n + 1) := by
      rw [show tmp = d.value from hl, hv]; exact intInc_intOfCount _
    exact ⟨h.writer_step h.writerHeld rfl h.excl hws hnv hn trivial rfl (.inl rfl), .nil rfl rfl⟩
  | format =>
    have hnn : updateName d.value = nameOfCount (n + 1) := by
      rw [hv]; simp [nameOfCount, WriterPc.valueAhead]
    exact ⟨h.writer_step h.writerHeld rfl h.excl hws hv hnn trivial rfl (.inl rfl), .nil rfl rfl⟩
  | loadWrites => exact ⟨h.writer_step h.writerHeld rfl h.excl hws hv hn rfl rfl (.inl rfl), .nil rfl rfl⟩
  | storeWrites tmp =>
    obtain rfl : tmp = d.writes := hl
    have hws' : (d.writes + 1) % 2 ^ bitsPerLong = (n + 1) % 2 ^ bitsPerLong := by
      rw [hws, Nat.mod_add_mod]
    exact ⟨h.writer_step h.writerHeld rfl h.excl hws' hv hn trivial rfl (.inl rfl),
      ⟨.refl _, id, .refl _, id, by simp [writerThread, SpinEvent.Whole]⟩⟩
  | unlock => exact ⟨h.writer_step rfl rfl (fun h => absurd h Bool.false_ne_true) hws hv hn trivial rfl
      (.inl rfl), .nil rfl rfl⟩
  | done => exact ⟨h.writer_step h.writerHeld rfl h.excl hws hv hn trivial rfl (.inr ⟨rfl, rfl, rfl⟩),
      .nil rfl rfl⟩

/-! ### `stats_show` -/

/-- Replacing the `k`-th entry of a list changes a count by the two
entries' shares. -/
theorem countP_set_add {l : List ShowPc} {k : ℕ} {p : ShowPc} (hk : l[k]? = some p) (f : ShowPc → Bool)
    (a : ShowPc) :
    (l.set k a).countP f + (if f p then 1 else 0) = l.countP f + (if f a then 1 else 0) := by
  obtain ⟨hlt, rfl⟩ := List.getElem?_eq_some_iff.1 hk
  rw [List.countP_set f l k a hlt]
  have := List.boole_getElem_le_countP f l k hlt
  omega

/-- A `stats_show` step on `basic`: it moves `basic.lock` with the holder
count, and keeps the count. -/
theorem SpinInv.show_step {b b' : BasicCounter} {counter : Fin 2 → CounterPc} {shows : List ShowPc}
    (h : SpinInv b counter shows) {k : ℕ} {p a : ShowPc} (hk : shows[k]? = some p) (hc : b'.count = b.count)
    (hheld : (if a.holdsSpin then 1 else 0) + (if b.locked then 1 else 0) =
      (if p.holdsSpin then 1 else 0) + (if b'.locked then 1 else 0)) :
    SpinInv b' counter (shows.set k a) := by
  refine ⟨?_, fun i tmp hi => hc ▸ h.loaded i tmp hi⟩
  have := countP_set_add hk ShowPc.holdsSpin a
  have := h.holders
  unfold spinHolders at *
  omega

/-- A `stats_show` step on `rwdata`: it moves the reader count with the
holders, keeps everything else, and has loaded only what is there. -/
theorem RwInv.show_step {n : ℕ} {d d' : RwData} {reader : ReaderPc} {writer : WriterPc} {shows : List ShowPc}
    (h : RwInv bitsPerLong n d reader writer shows) {k : ℕ} {p a : ShowPc} (hk : shows[k]? = some p)
    (hw : d'.writer = d.writer) (hv : d'.value = d.value) (hn : d'.name = d.name)
    (hws : d'.writes = d.writes) (hr : d'.reads = d.reads)
    (hrd : (if a.holdsRead then 1 else 0) + d.readers = (if p.holdsRead then 1 else 0) + d'.readers)
    (hex : d'.writer = true → d'.readers = 0) (ha : a.Loaded d') :
    RwInv bitsPerLong n d' reader writer (shows.set k a) where
  writerHeld := h.writerHeld.trans hw.symm
  readersHeld := by have := countP_set_add hk ShowPc.holdsRead a; have := h.readersHeld; omega
  excl := hex
  writes := hws.trans h.writes
  value := hv.trans h.value
  name := hn.trans h.name
  writerLoaded := h.writerLoaded.congr hv hws
  readerLoaded := h.readerLoaded.congr hv hr
  showsLoaded q hq := by
    rcases List.mem_or_eq_of_mem_set hq with hq | rfl
    · exact (h.showsLoaded q hq).congr hv hn hws
    · exact ha

/-- A `stats_show` step that takes and releases no lock and loads only what
is there keeps both invariants and the counts. -/
theorem show_step_frame {n : ℕ} {b : BasicCounter} {d : RwData} {counter : Fin 2 → CounterPc}
    {reader : ReaderPc} {writer : WriterPc} {shows : List ShowPc} (hs : SpinInv b counter shows)
    (hr : RwInv bitsPerLong n d reader writer shows) {k : ℕ} {p a : ShowPc} (hk : shows[k]? = some p)
    (hsa : a.holdsSpin = p.holdsSpin) (hra : a.holdsRead = p.holdsRead) (ha : a.Loaded d) :
    SpinInv b counter (shows.set k a) ∧ RwInv bitsPerLong n d reader writer (shows.set k a) ∧
      StepOk bitsPerLong b b d d [] :=
  ⟨hs.show_step hk rfl (by rw [hsa]), hr.show_step hk rfl rfl rfl rfl rfl (by rw [hra]) hr.excl ha,
    .nil rfl rfl⟩

/-- **A `stats_show` step** keeps both invariants; the record it prints is
one the writer left whole. -/
theorem statsShow_inv {n : ℕ} {b : BasicCounter} {d : RwData} {counter : Fin 2 → CounterPc}
    {reader : ReaderPc} {writer : WriterPc} {shows : List ShowPc} (hs : SpinInv b counter shows)
    (hr : RwInv bitsPerLong n d reader writer shows) {k : ℕ} {p : ShowPc} (hk : shows[k]? = some p) :
    SpinInv (statsShow b d p).1 counter (shows.set k (statsShow b d p).2.2.1) ∧
      RwInv bitsPerLong n (statsShow b d p).2.1 reader writer (shows.set k (statsShow b d p).2.2.1) ∧
      StepOk bitsPerLong b (statsShow b d p).1 d (statsShow b d p).2.1 (statsShow b d p).2.2.2 := by
  have hmem := List.getElem?_mem hk
  have hl := hr.showsLoaded p hmem
  have hread : p.holdsRead = true → d.writer = false ∧ 0 < d.readers := fun hp => by
    have hpos := List.countP_pos_iff.2 ⟨p, hmem, hp⟩
    exact ⟨hr.no_writer (by omega), by have := hr.readersHeld; omega⟩
  cases p with
  | spinLock =>
    cases hb : b.locked
    · simp only [statsShow, hb, Bool.false_eq_true, if_false]
      exact ⟨hs.show_step hk rfl (by simp [ShowPc.holdsSpin, hb]),
        hr.show_step hk rfl rfl rfl rfl rfl (by simp [ShowPc.holdsRead]) hr.excl trivial, .nil rfl rfl⟩
    · simp only [statsShow, hb, if_true]
      exact show_step_frame hs hr hk rfl rfl trivial
  | spinUnlock c =>
    have hb : b.locked = true := by
      have := countP_set_add hk ShowPc.holdsSpin (.spinUnlock c)
      have := hs.holders
      have := List.countP_pos_iff.2 ⟨_, hmem, (rfl : (ShowPc.spinUnlock c).holdsSpin = true)⟩
      unfold spinHolders at *
      cases hb : b.locked
      · simp only [hb, Bool.false_eq_true, if_false] at *; omega
      · rfl
    exact ⟨hs.show_step hk rfl (by simp [statsShow, ShowPc.holdsSpin, hb]),
      hr.show_step hk rfl rfl rfl rfl rfl (by simp [statsShow, ShowPc.holdsRead]) hr.excl trivial, .nil rfl rfl⟩
  | readLock c =>
    cases hw : d.writer
    · simp only [statsShow, hw, Bool.false_eq_true, if_false]
      exact ⟨hs.show_step hk rfl (by simp [ShowPc.holdsSpin]),
        hr.show_step hk hw.symm rfl rfl rfl rfl (by simp [ShowPc.holdsRead]; omega) (by simp) trivial,
        .nil rfl rfl⟩
    · simp only [statsShow, hw, if_true]
      exact show_step_frame hs hr hk rfl rfl trivial
  | readUnlock st =>
    obtain ⟨hw, hpos⟩ := hread rfl
    obtain ⟨hv, hn⟩ := hr.whole hw
    refine ⟨hs.show_step hk rfl (by simp [statsShow, ShowPc.holdsSpin]),
      hr.show_step hk rfl rfl rfl rfl rfl (by simp [statsShow, ShowPc.holdsRead]; omega) (by simp [statsShow, hw])
        trivial, ⟨.refl _, id, .refl _, id, ?_⟩⟩
    simp only [statsShow, List.mem_singleton, forall_eq, SpinEvent.Whole]
    obtain ⟨h1, h2, h3⟩ := hl
    exact ⟨n, h3.trans hr.writes, h1.trans hv, h2.trans hn⟩
  | loadCount => exact show_step_frame hs hr hk rfl rfl trivial
  | loadValue c => exact show_step_frame hs hr hk rfl rfl rfl
  | loadName c v => exact show_step_frame hs hr hk rfl rfl ⟨hl, rfl⟩
  | loadReads c v n => exact show_step_frame hs hr hk rfl rfl hl
  | loadWrites c v n r => exact show_step_frame hs hr hk rfl rfl ⟨hl.1, hl.2, rfl⟩
  | finished => exact show_step_frame hs hr hk rfl rfl trivial

/-! ### Runs -/

theorem statsShow_wrote (b : BasicCounter) (d : RwData) (p : ShowPc) :
    (statsShow b d p).2.2.2.countP SpinEvent.isWrote = 0 := by
  cases p <;> simp only [statsShow] <;> first | rfl | split_ifs <;> rfl

/-- A count below `2^BITS_PER_LONG` that was `c` modulo it and has moved by
`k` modulo it is `c + k` modulo it. -/
theorem eq_mod_of_modEq {x x' c k : ℕ} (hx : x = c % 2 ^ bitsPerLong) (h : x' ≡ x + k [MOD 2 ^ bitsPerLong])
    (hlt : x < 2 ^ bitsPerLong → x' < 2 ^ bitsPerLong) : x' = (c + k) % 2 ^ bitsPerLong := by
  rw [← Nat.mod_eq_of_lt (hlt (hx ▸ Nat.mod_lt _ (Nat.two_pow_pos _)))]
  exact (show x' % 2 ^ bitsPerLong = _ from h).trans (hx ▸ Nat.mod_add_mod c _ k)

/-- The invariants, and the counts and events of the run so far. -/
structure Traced (bitsPerLong : ℕ) (s : SpinSys) (evs : List SpinEvent) : Prop where
  spin : SpinInv s.basic s.counter s.shows
  rw : RwInv bitsPerLong (evs.countP SpinEvent.isWrote) s.rwdata s.reader s.writer s.shows
  count : s.basic.count = evs.countP SpinEvent.isIncremented % 2 ^ bitsPerLong
  reads : s.rwdata.reads = evs.countP SpinEvent.isReadCounted % 2 ^ bitsPerLong
  whole : ∀ e ∈ evs, e.Whole bitsPerLong

theorem Traced.step {s s' : SpinSys} {evs evs' : List SpinEvent} (h : Traced bitsPerLong s evs)
    (hs : SpinInv s'.basic s'.counter s'.shows)
    (hr : RwInv bitsPerLong (evs.countP SpinEvent.isWrote + evs'.countP SpinEvent.isWrote) s'.rwdata s'.reader
      s'.writer s'.shows)
    (ho : StepOk bitsPerLong s.basic s'.basic s.rwdata s'.rwdata evs') : Traced bitsPerLong s' (evs ++ evs') where
  spin := hs
  rw := by rwa [List.countP_append]
  count := by rw [List.countP_append]; exact eq_mod_of_modEq h.count ho.count ho.count_lt
  reads := by rw [List.countP_append]; exact eq_mod_of_modEq h.reads ho.reads ho.reads_lt
  whole e he := (List.mem_append.1 he).elim (h.whole e) (ho.whole e)

/-- A step that counts no write keeps `RwInv` at the same count. -/
theorem Traced.step_of_wrote {s s' : SpinSys} {evs evs' : List SpinEvent} (h : Traced bitsPerLong s evs)
    (hs : SpinInv s'.basic s'.counter s'.shows)
    (hr : RwInv bitsPerLong (evs.countP SpinEvent.isWrote) s'.rwdata s'.reader s'.writer s'.shows)
    (hw : evs'.countP SpinEvent.isWrote = 0)
    (ho : StepOk bitsPerLong s.basic s'.basic s.rwdata s'.rwdata evs') : Traced bitsPerLong s' (evs ++ evs') :=
  h.step hs (by rwa [hw, Nat.add_zero]) ho

end Width

theorem traced_init (bitsPerLong : ℕ) (started : Fin 4 → Bool) :
    Traced bitsPerLong (spinlockDemoInit started) [] := by
  have hc : ∀ i, (spinlockDemoInit started).counter i = .test ∨ (spinlockDemoInit started).counter i = .done :=
    fun i => by simp only [spinlockDemoInit]; split <;> simp
  have hc0 := hc 0
  have hc1 := hc 1
  refine ⟨⟨?_, fun i tmp hi => by rcases hc i with h | h <;> simp [h] at hi⟩,
    ⟨?_, ?_, by simp [spinlockDemoInit], (Nat.zero_mod _).symm, ?_, ?_, ?_, ?_, by simp [spinlockDemoInit]⟩,
    (Nat.zero_mod _).symm, (Nat.zero_mod _).symm, by simp⟩
  · unfold spinHolders
    rcases hc0 with h0 | h0 <;> rcases hc1 with h1 | h1 <;> rw [h0, h1] <;> rfl
  all_goals simp only [spinlockDemoInit]; split <;> first | decide | trivial

/-- A new `stats_show` holds no lock and has loaded nothing. -/
theorem traced_openStats {bitsPerLong : ℕ} {s : SpinSys} {evs : List SpinEvent} (h : Traced bitsPerLong s evs) :
    Traced bitsPerLong (spinStep bitsPerLong s .openStats).1 (evs ++ (spinStep bitsPerLong s .openStats).2) := by
  refine h.step_of_wrote ⟨?_, h.spin.loaded⟩ { h.rw with readersHeld := ?_, showsLoaded := ?_ } rfl (.nil rfl rfl)
  · simpa [spinStep, spinHolders, ShowPc.holdsSpin] using h.spin.holders
  · simpa [spinStep, ShowPc.holdsRead] using h.rw.readersHeld
  · simp only [spinStep, List.mem_append, List.mem_singleton]
    rintro p (hp | rfl)
    exacts [h.rw.showsLoaded p hp, trivial]

/-- **Every step keeps the invariants and the counts.** -/
theorem spinStep_traced {bitsPerLong : ℕ} {s : SpinSys} {evs : List SpinEvent} (h : Traced bitsPerLong s evs) :
    ∀ op, Traced bitsPerLong (spinStep bitsPerLong s op).1 (evs ++ (spinStep bitsPerLong s op).2)
  | .counter i =>
    have ⟨hs, ho⟩ := counterThread_spinInv bitsPerLong s.stopThreads h.spin i s.rwdata
    h.step_of_wrote hs h.rw (counterThread_wrote ..) ho
  | .reader =>
    have ⟨hr, ho⟩ := readerThread_rwInv bitsPerLong s.stopThreads (b := s.basic) h.rw
    h.step_of_wrote h.spin hr (readerThread_wrote ..) ho
  | .writer =>
    have ⟨hr, ho⟩ := writerThread_rwInv bitsPerLong s.stopThreads (b := s.basic) h.rw
    h.step h.spin hr ho
  | .openStats => traced_openStats h
  | .stats k => by
    simp only [spinStep]
    split
    · simpa using h
    · rename_i p hk
      obtain ⟨hs, hr, ho⟩ := statsShow_inv h.spin h.rw hk
      exact h.step_of_wrote hs hr (statsShow_wrote ..) ho
  | .exit => h.step_of_wrote h.spin h.rw rfl (.nil rfl rfl)

theorem spinlock_traced (bitsPerLong : ℕ) (started : Fin 4 → Bool) (ops : List SpinOp) :
    Traced bitsPerLong (run (spinStep bitsPerLong) (spinlockDemoInit started) ops).1
      (run (spinStep bitsPerLong) (spinlockDemoInit started) ops).2.flatten := by
  simpa using run_inv_trace (spinStep bitsPerLong) (fun _ => True) (Traced bitsPerLong)
    (fun _ _ op _ h => spinStep_traced h op) ops _ [] (fun _ _ => trivial) (traced_init bitsPerLong started)

/-- **Mutual exclusion.** In every run, at most one thread is inside the
critical sections of `basic.lock`, and while the writer is inside its
critical section neither the reader thread nor any `stats_show` is inside a
read-side one. -/
theorem spinlock_mutual_exclusion (bitsPerLong : ℕ) (started : Fin 4 → Bool) (ops : List SpinOp) :
    let s := (run (spinStep bitsPerLong) (spinlockDemoInit started) ops).1
    spinHolders s.counter s.shows ≤ 1 ∧
      (s.writer.holds = true → s.reader.held = 0 ∧ ∀ p ∈ s.shows, p.holdsRead = false) := by
  have h := spinlock_traced bitsPerLong started ops
  exact ⟨by have := h.spin.holders; split_ifs at this <;> omega, h.rw.no_readers⟩

/-- **No lost update.** In every run, `basic.count`, `rwdata.reads` and
`rwdata.writes` are the numbers of increments the threads made, modulo
`2^BITS_PER_LONG`. -/
theorem spinlock_no_lost_update (bitsPerLong : ℕ) (started : Fin 4 → Bool) (ops : List SpinOp) :
    let r := run (spinStep bitsPerLong) (spinlockDemoInit started) ops
    r.1.basic.count = r.2.flatten.countP SpinEvent.isIncremented % 2 ^ bitsPerLong ∧
      r.1.rwdata.reads = r.2.flatten.countP SpinEvent.isReadCounted % 2 ^ bitsPerLong ∧
      r.1.rwdata.writes = r.2.flatten.countP SpinEvent.isWrote % 2 ^ bitsPerLong :=
  have h := spinlock_traced bitsPerLong started ops
  ⟨h.count, h.reads, h.rw.writes⟩

/-- **Readers see whole updates.** In every run, every value and name the
reader thread copies is `0` and `"initial"` or a value and its
`"update_%d"`, and every record `stats_show` prints has the value and the
name of some number of writes whose remainder modulo `2^BITS_PER_LONG` is the
record's `writes`. -/
theorem spinlock_snapshots_consistent (bitsPerLong : ℕ) (started : Fin 4 → Bool) (ops : List SpinOp) :
    let evs := (run (spinStep bitsPerLong) (spinlockDemoInit started) ops).2.flatten
    (∀ v n, SpinEvent.copied v n ∈ evs → (v = 0 ∧ n = "initial") ∨ n = updateName v) ∧
      ∀ st, SpinEvent.shown st ∈ evs →
        ∃ n, st.writes = n % 2 ^ bitsPerLong ∧ st.value = intOfCount n ∧ st.name = nameOfCount n :=
  have h := spinlock_traced bitsPerLong started ops
  ⟨fun _ _ he => h.whole _ he, fun _ he => h.whole _ he⟩

end Spinlock
end DriverGuide
