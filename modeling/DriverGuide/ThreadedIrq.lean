/-
# The threaded-IRQ demo: its ring buffer, and the handlers nobody calls

`part7/threaded-irq-demo/threaded_irq_demo.c` keeps the last 64 values its
threaded handler stored in `data_buffer`, with `data_head` the next slot and
`data_count` the number of valid ones; `data_show` lists them oldest first.
Over any sequence of handler runs and resets the indices stay in the array
and `data_show` lists exactly the last `min k 64` values stored since the last
reset (`data_show_lists_last_stores`).

The timer callback `trigger_simulated_irq` is meant to run the handler chain
("we call the handler chain directly", lines 76-78 and 337-338), but its body
only sets `hw_data` and `pending_irq` and re-arms the timer: no path of the
module reaches `demo_hardirq` or `demo_thread_handler`, and their counters
stay 0 in every reachable state (`irqStep_counts_zero`), also after
interrupts were raised (`start_expire_leaves_counts_zero`).

Key definitions: `demoThreadHandler`, `dataShow`, `controlWrite`,
`triggerSimulatedIrq`, `irqStep`.
Key theorems: `bufferStep_inv`, `data_show_lists_last_stores`,
`irqStep_counts_zero`.
-/
import DriverGuide.Basic

namespace DriverGuide
namespace ThreadedIrq

/-! ### The device -/

def bufferSize : ℤ := 64

/-- `struct irq_demo_device` without the platform device, the mutex and the
wait queue; `timerPending` is whether `timer` is armed. The `atomic_t`
counters are `int`s. -/
structure IrqDemoDevice where
  timerPending : Bool
  pendingIrq : ℤ
  hwData : UInt32
  dataBuffer : ℤ → UInt32
  dataHead : ℤ
  dataCount : ℤ
  hardirqCount : ℤ
  threadCount : ℤ
  spuriousCount : ℤ
  lastIrqTime : UInt64
  totalLatencyNs : UInt64
  running : Bool
  intervalMs : ℕ

/-- The device after `demo_probe`: zeroed by `devm_kzalloc`, a 100 ms interval,
not running. -/
def demoProbe : IrqDemoDevice :=
  ⟨false, 0, 0, fun _ => 0, 0, 0, 0, 0, 0, 0, 0, false, 100⟩

/-- `trigger_simulated_irq`, the timer callback, with `get_random_u32()` and
`ktime_get_ns()` as arguments. -/
def triggerSimulatedIrq (dev : IrqDemoDevice) (rnd : UInt32) (now : UInt64) : IrqDemoDevice :=
  if !dev.running then dev
  else
    { dev with hwData := rnd &&& 0xFFFF, pendingIrq := 1, lastIrqTime := now, timerPending := true }

inductive IrqReturn
  | none
  | handled
  | wakeThread
  deriving DecidableEq, Repr

/-- `demo_hardirq`. -/
def demoHardirq (dev : IrqDemoDevice) : IrqDemoDevice × IrqReturn :=
  if dev.pendingIrq = 0 then ({ dev with spuriousCount := dev.spuriousCount + 1 }, .none)
  else ({ dev with pendingIrq := 0, hardirqCount := dev.hardirqCount + 1 }, .wakeThread)

/-- `demo_thread_handler` at time `now`. -/
def demoThreadHandler (dev : IrqDemoDevice) (now : UInt64) : IrqDemoDevice × IrqReturn :=
  ({ dev with
      threadCount := dev.threadCount + 1
      totalLatencyNs := dev.totalLatencyNs + (now - dev.lastIrqTime)
      dataBuffer := Function.update dev.dataBuffer dev.dataHead dev.hwData
      dataHead := (dev.dataHead + 1).tmod bufferSize
      dataCount := if dev.dataCount < bufferSize then dev.dataCount + 1 else dev.dataCount },
    .handled)

/-- The indices `data_show` reads, in the order it lists them. -/
def dataShowIdx (dev : IrqDemoDevice) : List ℤ :=
  (List.range dev.dataCount.toNat).map fun i : ℕ =>
    (dev.dataHead - dev.dataCount + (i : ℤ) + bufferSize).tmod bufferSize

/-- The values `data_show` lists. -/
def dataShow (dev : IrqDemoDevice) : List UInt32 := (dataShowIdx dev).map dev.dataBuffer

/-- The `reset` branch of `control_write`. -/
def controlReset (dev : IrqDemoDevice) : IrqDemoDevice :=
  { dev with
    hardirqCount := 0, threadCount := 0, spuriousCount := 0, totalLatencyNs := 0,
    dataCount := 0, dataHead := 0 }

/-- The dispatch of `control_write` on the command string `cmd`: `start` arms
the timer, `stop` disarms it (`del_timer_sync`), `reset` zeroes the
statistics and the buffer's indices, `interval <ms>` sets a positive
interval. -/
def controlCommand (dev : IrqDemoDevice) (cmd : List UInt8) (count : ℕ) : IrqDemoDevice × ℤ :=
  if cmd = asciiBytes "start" then
    (if !dev.running then { dev with running := true, timerPending := true } else dev, count)
  else if cmd = asciiBytes "stop" then ({ dev with running := false, timerPending := false }, count)
  else if cmd = asciiBytes "reset" then (controlReset dev, count)
  else if asciiBytes "interval " <+: cmd then
    (match kstrtouint (cmd.drop 9) with
      | some v => if 0 < v then { dev with intervalMs := v } else dev
      | none => dev, count)
  else (dev, -EINVAL)

/-- `control_write(file, buf, count, ppos)`: at most 31 bytes of command, a
trailing newline dropped. -/
def controlWrite (dev : IrqDemoDevice) (buf : UserBuf) (count : ℕ) : IrqDemoDevice × ℤ :=
  let len := min count 31
  if buf.readable.length < len then (dev, -EFAULT)
  else
    let cmd := buf.readable.take len
    controlCommand dev
      (cString (if 0 < len ∧ cmd.getD (len - 1) 0 = 10 then cmd.set (len - 1) 0 else cmd)) count

/-! ### The ring buffer

The buffer's users drive it with the threaded handler, run with any
`hw_data`, and the `reset` command. What `data` is for is the list of values
stored since the last reset, `storedSinceReset`, of which `data_show` is to
list the last 64. -/

inductive BufferOp
  | thread (hw : UInt32) (now : UInt64)
  | reset

/-- `demo_thread_handler` with `dev->hw_data = hw`, or the reset branch of
`control_write`. -/
def bufferStep (dev : IrqDemoDevice) : BufferOp → IrqDemoDevice × Unit
  | .thread hw now => ((demoThreadHandler { dev with hwData := hw } now).1, ())
  | .reset => (controlReset dev, ())

/-- The values stored since the last reset, oldest first. -/
def storedStep (vs : List UInt32) : BufferOp → List UInt32 × Unit
  | .thread hw _ => (vs ++ [hw], ())
  | .reset => ([], ())

def storedSinceReset (ops : List BufferOp) : List UInt32 := (run storedStep [] ops).1

/-- The ring holds the stored values `vs`: the head is the next slot, the
count is `min k 64`, and slot `i % 64` holds value `i` of the last 64. -/
structure BufferInv (dev : IrqDemoDevice) (vs : List UInt32) : Prop where
  head_eq : dev.dataHead = (vs.length % 64 : ℕ)
  count_eq : dev.dataCount = (min vs.length 64 : ℕ)
  slot_eq : ∀ (i : ℕ) (h : i < vs.length), vs.length - 64 ≤ i →
    dev.dataBuffer (i % 64 : ℕ) = vs[i]

theorem bufferInv_probe : BufferInv demoProbe [] :=
  ⟨rfl, rfl, fun _ h => absurd h (Nat.not_lt_zero _)⟩

theorem BufferInv.thread {dev : IrqDemoDevice} {vs : List UInt32} (h : BufferInv dev vs)
    (hw : UInt32) (now : UInt64) :
    BufferInv (bufferStep dev (.thread hw now)).1 (storedStep vs (.thread hw now)).1 := by
  have hh := h.head_eq
  have hc := h.count_eq
  simp only [bufferStep, storedStep, demoThreadHandler, bufferSize]
  refine ⟨?_, ?_, fun i hi hlo => ?_⟩
  · rw [Int.tmod_eq_emod (by omega) (by omega)]
    simp only [List.length_append, List.length_singleton]
    omega
  · simp only [List.length_append, List.length_singleton]
    split_ifs <;> omega
  · simp only [List.length_append, List.length_singleton] at hi hlo
    dsimp only
    by_cases hik : i = vs.length
    · subst hik
      rw [List.getElem_append_right (by omega), ← hh, Function.update_same]
      simp
    · rw [List.getElem_append_left (by omega), Function.update_noteq (by omega)]
      exact h.slot_eq i (by omega) (by omega)

/-- Each step keeps the ring and the stored values in step. -/
theorem bufferStep_inv {dev : IrqDemoDevice} {vs : List UInt32} (h : BufferInv dev vs) :
    ∀ op, BufferInv (bufferStep dev op).1 (storedStep vs op).1
  | .thread hw now => h.thread hw now
  | .reset => ⟨rfl, rfl, fun _ h => absurd h (Nat.not_lt_zero _)⟩

@[simp] theorem dataShow_length (dev : IrqDemoDevice) :
    (dataShow dev).length = dev.dataCount.toNat := by
  simp only [dataShow, dataShowIdx, List.length_map, List.length_range]

theorem BufferInv.idx_mem {dev : IrqDemoDevice} {vs : List UInt32} (h : BufferInv dev vs) :
    ∀ idx ∈ dataShowIdx dev, 0 ≤ idx ∧ idx < bufferSize := by
  simp only [dataShowIdx, List.mem_map, List.mem_range, bufferSize]
  rintro _ ⟨i, hi, rfl⟩
  have hh := h.head_eq
  have hc := h.count_eq
  rw [hc, Int.toNat_ofNat] at hi
  rw [Int.tmod_eq_emod (by omega) (by omega)]
  omega

theorem BufferInv.dataShow_eq {dev : IrqDemoDevice} {vs : List UInt32} (h : BufferInv dev vs) :
    dataShow dev = vs.drop (vs.length - 64) := by
  have hh := h.head_eq
  have hc := h.count_eq
  have hn : (dataShow dev).length = min vs.length 64 := by
    rw [dataShow_length, hc, Int.toNat_ofNat]
  apply List.ext_getElem (by rw [hn, List.length_drop]; omega)
  intro i hi _
  rw [hn] at hi
  simp only [dataShow, dataShowIdx, List.getElem_map, List.getElem_range, List.getElem_drop,
    bufferSize]
  rw [← h.slot_eq (vs.length - 64 + i) (by omega) (by omega),
    Int.tmod_eq_emod (by omega) (by omega)]
  congr 1
  omega

/-- **The ring buffer lists the last 64 stores.** Over every sequence of
threaded-handler runs with any `hw_data` and resets from `demo_probe`,
`data_head` stays in `[0, 64)`, `data_count` in `[0, 64]`, every index
`data_show` computes in `[0, 64)`, and `data_show` lists the last
`min k 64` values stored since the last reset, oldest first. -/
theorem data_show_lists_last_stores (ops : List BufferOp) :
    let dev := (run bufferStep demoProbe ops).1
    (0 ≤ dev.dataHead ∧ dev.dataHead < bufferSize) ∧
      (0 ≤ dev.dataCount ∧ dev.dataCount ≤ 64) ∧
      (∀ idx ∈ dataShowIdx dev, 0 ≤ idx ∧ idx < bufferSize) ∧
      dataShow dev = (storedSinceReset ops).drop ((storedSinceReset ops).length - 64) := by
  have h := run_rel bufferStep storedStep BufferInv (fun _ _ op h => bufferStep_inv h op) ops _ _
    bufferInv_probe
  have hh := h.head_eq
  have hc := h.count_eq
  exact ⟨by simp only [bufferSize]; omega, by omega, h.idx_mem, h.dataShow_eq⟩

/-! ### The handler chain is never run

The module's entry points: `control_write`, an expiry of `timer` (only while
it is armed) running `trigger_simulated_irq`, and the two proc reads, which
change nothing. What `control_write` can do to the device is said once, in
`controlWrite_cases`; from it, the counters of the handlers stay zero. -/

inductive IrqOp
  | control (buf : UserBuf) (count : ℕ)
  | expire (rnd : UInt32) (now : UInt64)
  | stats
  | data

/-- One entry into the module; the output is the call's return value. An
expiring timer is disarmed before its callback runs. -/
def irqStep (dev : IrqDemoDevice) : IrqOp → IrqDemoDevice × ℤ
  | .control buf count => controlWrite dev buf count
  | .expire rnd now =>
    (if dev.timerPending then triggerSimulatedIrq { dev with timerPending := false } rnd now
      else dev, 0)
  | .stats => (dev, 0)
  | .data => (dev, 0)

/-- A command leaves the device, sets `running` and the timer, resets the
statistics, or sets the interval. -/
theorem controlCommand_cases (dev : IrqDemoDevice) (cmd : List UInt8) (count : ℕ) :
    (controlCommand dev cmd count).1 = dev ∨
      (∃ r p, (controlCommand dev cmd count).1 = { dev with running := r, timerPending := p }) ∨
      (controlCommand dev cmd count).1 = controlReset dev ∨
      ∃ v, (controlCommand dev cmd count).1 = { dev with intervalMs := v } := by
  unfold controlCommand
  by_cases h1 : cmd = asciiBytes "start"
  · rw [if_pos h1]
    cases dev.running
    · exact .inr (.inl ⟨true, true, rfl⟩)
    · exact .inl rfl
  rw [if_neg h1]
  by_cases h2 : cmd = asciiBytes "stop"
  · exact .inr (.inl ⟨false, false, by rw [if_pos h2]⟩)
  rw [if_neg h2]
  by_cases h3 : cmd = asciiBytes "reset"
  · exact .inr (.inr (.inl (by rw [if_pos h3])))
  rw [if_neg h3]
  split_ifs
  · split
    · split_ifs
      · exact .inr (.inr (.inr ⟨_, rfl⟩))
      · exact .inl rfl
    · exact .inl rfl
  · exact .inl rfl

/-- So does `control_write`. -/
theorem controlWrite_cases (dev : IrqDemoDevice) (buf : UserBuf) (count : ℕ) :
    (controlWrite dev buf count).1 = dev ∨
      (∃ r p, (controlWrite dev buf count).1 = { dev with running := r, timerPending := p }) ∨
      (controlWrite dev buf count).1 = controlReset dev ∨
      ∃ v, (controlWrite dev buf count).1 = { dev with intervalMs := v } := by
  unfold controlWrite
  dsimp only
  split
  · exact .inl rfl
  · exact controlCommand_cases _ _ _

/-- The counters of the two handlers and the buffer's count are zero. -/
structure CountsZero (dev : IrqDemoDevice) : Prop where
  hardirq : dev.hardirqCount = 0
  thread : dev.threadCount = 0
  data : dev.dataCount = 0

theorem countsZero_probe : CountsZero demoProbe := ⟨rfl, rfl, rfl⟩

theorem CountsZero.triggerSimulatedIrq {dev : IrqDemoDevice} (h : CountsZero dev)
    (rnd : UInt32) (now : UInt64) : CountsZero (triggerSimulatedIrq dev rnd now) := by
  unfold ThreadedIrq.triggerSimulatedIrq
  split
  exacts [h, ⟨h.1, h.2, h.3⟩]

theorem irqStep_countsZero {dev : IrqDemoDevice} (h : CountsZero dev) :
    ∀ op, CountsZero (irqStep dev op).1
  | .control buf count => by
    rcases controlWrite_cases dev buf count with e | ⟨r, p, e⟩ | e | ⟨v, e⟩ <;>
      simp only [irqStep, e]
    exacts [h, ⟨h.1, h.2, h.3⟩, ⟨rfl, rfl, rfl⟩, ⟨h.1, h.2, h.3⟩]
  | .expire rnd now => by
    simp only [irqStep]
    split
    · refine CountsZero.triggerSimulatedIrq ?_ rnd now
      exact ⟨h.1, h.2, h.3⟩
    · exact h
  | .stats => h
  | .data => h

/-- **No path reaches the handlers.** In every state reachable from
`demo_probe`, `hardirq_count`, `thread_count` and `data_count` are 0. -/
theorem irqStep_counts_zero (ops : List IrqOp) :
    let dev := (run irqStep demoProbe ops).1
    dev.hardirqCount = 0 ∧ dev.threadCount = 0 ∧ dev.dataCount = 0 :=
  have h := run_inv irqStep CountsZero (fun _ op h => irqStep_countsZero h op) ops _
    countsZero_probe
  ⟨h.1, h.2, h.3⟩

/-- After `start` and one expiry an interrupt is pending, with `hw_data` set,
and no handler has counted it. -/
theorem start_expire_leaves_counts_zero :
    let ops : List IrqOp := [.control ⟨asciiBytes "start"⟩ 5, .expire 7 0]
    (run irqStep demoProbe ops).1.pendingIrq = 1 ∧ (run irqStep demoProbe ops).1.hwData = 7 ∧
      (run irqStep demoProbe ops).1.hardirqCount = 0 ∧
      (run irqStep demoProbe ops).1.threadCount = 0 ∧
      (run irqStep demoProbe ops).1.dataCount = 0 := by
  decide

end ThreadedIrq
end DriverGuide
