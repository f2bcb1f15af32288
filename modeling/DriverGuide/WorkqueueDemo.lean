/-
# The workqueue demo: four kinds of work behind `/proc/workqueue_demo`

`workqueue_demo.c` queues work from `stats_write`: `immediate_work` (a
`work_struct` on the system queue), `delayed_work` (a `delayed_work`, two
seconds out), one `struct custom_work` per `custom` command, `kmalloc`'d and
queued on the module's own `custom_wq`, and the periodic work behind `start`
and `stop`, the third `Periodic` callback.

An operation of the demo is a write by some process, a worker taking a work,
a handler's next statement, a step of a process inside `start`, `stop` or
`custom`, or the periodic work's expiry or handler step. Each moves one part
of the state: a `Work`, the `Periodic` machine, or the `Custom` works
(`step_work`, `step_periodic`, `step_custom`), so every run of the demo is a
run of each part on the operations that move it.

* A work's PENDING bit coalesces submissions: `schedule_work` on a pending
  work does nothing, and a worker clears the bit as it takes the work, before
  the handler runs. So `Immediate work count` and `Delayed work count` never
  exceed the number of `immediate` and `delayed` commands
  (`work_counts_bounded`).
* `custom` numbers its works with `++custom_id` on a plain `static int`: a
  load and a store, after which `submit_custom` reads the variable again for
  the id. With one process writing, every custom work's message names its
  own id; two processes can queue two works with one id, one of them with a
  message that names another id (`custom_id_numbering`).
* A `start` overlapping a `stop` can leave the periodic work with
  `Periodic running: yes` and nothing queued, although
  `cancel_delayed_work_sync` holds the work while it cancels
  (`periodic_work_start_stop_race`).

The two-second and one-second delays are not modelled: a delayed work may
run at any time after it is queued, which only adds runs. A process has a
place in the periodic commands and one in `custom`, so the model lets it
begin one while inside the other; that too only adds runs. `++custom_id`
wraps as `intInc` does, where C leaves the overflow undefined.

Key definitions: `Work`, `Custom`, `State`, `statsWrite`, `Op`, `step`.
Key theorems: `Work.Counted.step`, `CustomInv.step`, `run_work`,
`run_periodic`, `run_custom`, `work_counts_bounded`, `custom_id_numbering`,
`periodic_work_start_stop_race`.
-/
import DriverGuide.Periodic

namespace DriverGuide
namespace WorkqueueDemo

/-! ### Works on the system queue -/

/-- Where a work's handler is: not running, about to `atomic_inc` its count,
or in the `msleep` and `pr_info` before it returns. -/
inductive HandlerPc
  | idle
  | count
  | sleep
  deriving DecidableEq

/-- A work item with its handler's `atomic_t` count: `immediate_work` with
`immediate_work_count`, or `delayed_work` with `delayed_work_count`. -/
structure Work where
  pending : Bool
  handler : HandlerPc
  count : ℤ

/-- What moves a work: a submission, a worker taking it, or its handler's
next statement. -/
inductive WorkOp
  | schedule
  | start
  | handler
  deriving DecidableEq

namespace Work

/-- After `INIT_WORK` and `INIT_DELAYED_WORK`, with the count at 0. -/
def init : Work := ⟨false, .idle, 0⟩

/-- `schedule_work` and `schedule_delayed_work`: set PENDING, and queue the
work if it was clear. -/
def schedule (x : Work) : Work := { x with pending := true }

/-- A worker takes the work: PENDING is cleared before the handler is called,
and a work never runs on two workers at once. -/
def start (x : Work) : Work :=
  if x.pending ∧ x.handler = .idle then { x with pending := false, handler := .count } else x

/-- `immediate_work_handler`, `delayed_work_handler`: `atomic_inc`, then the
sleep and the return. -/
def handlerStep (x : Work) : Work :=
  match x.handler with
  | .idle => x
  | .count => { x with count := intInc x.count, handler := .sleep }
  | .sleep => { x with handler := .idle }

def step (x : Work) : WorkOp → Work × Unit
  | .schedule => (x.schedule, ())
  | .start => (x.start, ())
  | .handler => (x.handlerStep, ())

/-- The count is the wrap of `n` handler runs, and those runs, the run about
to count and the PENDING bit together took at most `subs` submissions. -/
def Counted (x : Work) (subs : ℕ) : Prop :=
  ∃ n, n + x.pending.toNat + (if x.handler = .count then 1 else 0) ≤ subs ∧ x.count = intOfCount n

theorem counted_init : Counted init 0 := ⟨0, by decide, rfl⟩

/-- A submission pays for the PENDING bit; a start turns the bit into the
run about to count; the count turns that run into one more. -/
theorem Counted.step {x : Work} {subs : ℕ} (h : Counted x subs) :
    ∀ o, Counted (x.step o).1 (subs + if o == .schedule then 1 else 0)
  | .schedule => by
    obtain ⟨n, hn, hc⟩ := h
    show Counted _ (subs + 1)
    refine ⟨n, ?_, hc⟩
    have := Bool.toNat_le x.pending
    simp only [Work.step, schedule, Bool.toNat_true]
    omega
  | .start => by
    obtain ⟨n, hn, hc⟩ := h
    show Counted _ (subs + 0)
    simp only [Work.step, start]
    split_ifs with hs
    · refine ⟨n, ?_, hc⟩
      rw [hs.1, hs.2] at hn
      simpa using hn
    · exact ⟨n, hn, hc⟩
  | .handler => by
    obtain ⟨n, hn, hc⟩ := h
    show Counted _ (subs + 0)
    simp only [Work.step, handlerStep]
    cases hh : x.handler <;> rw [hh] at hn <;> dsimp only
    · exact ⟨n, by simpa [hh] using hn, hc⟩
    · exact ⟨n + 1, by simp at hn ⊢; omega, by rw [hc, intInc_intOfCount]⟩
    · exact ⟨n, by simpa using hn, hc⟩

/-- **A handler runs no more often than its work was submitted**, in every
run of submissions, starts and handler steps. -/
theorem counted_run : ∀ (os : List WorkOp) (x : Work) (subs : ℕ), Counted x subs →
    Counted (run Work.step x os).1 (subs + os.count .schedule)
  | [], _, _, h => h
  | o :: os, x, subs, h => by
    rw [run_cons, List.count_cons, Nat.add_comm (List.count _ _), ← Nat.add_assoc]
    exact counted_run os _ _ (h.step o)

end Work

/-! ### Custom works -/

/-- A `struct custom_work` queued on `custom_wq`: its id and its message. -/
structure CustomWork where
  id : ℤ
  message : List UInt8
  deriving DecidableEq

/-- The message `snprintf` makes for the id `n`: `custom job %d`. It is at
most 22 bytes, so neither the 32-byte `msg` nor `strscpy` into the 64-byte
`message` cuts it. -/
def customMessage (n : ℤ) : List UInt8 := asciiBytes ("custom job " ++ toString n)

/-- Where a process is in the `custom` command: about to load `custom_id`,
to store the loaded value plus one (and format the message with it), to read
`custom_id` again for `submit_custom`, or to `kmalloc` and queue the work. -/
inductive CustomPc
  | idle
  | load
  | store (v : ℤ)
  | submit (msg : List UInt8)
  | queue (id : ℤ) (msg : List UInt8)

/-- The custom works: `custom_id`, each process's place in `custom`, the
works queued and not yet run, and `custom_work_count`. -/
structure Custom where
  id : ℤ
  pc : ℕ → CustomPc
  queue : List CustomWork
  count : ℤ

/-- What moves the custom works: a process beginning `custom`, its next
statement (with whether `kmalloc` succeeds), or a handler running the `i`-th
queued work. -/
inductive CustomOp
  | begin (w : ℕ)
  | writer (w : ℕ) (ok : Bool)
  | handler (i : ℕ)

namespace Custom

def init : Custom := ⟨0, fun _ => .idle, [], 0⟩

/-- Process `w` begins `custom`, if it is not inside it. -/
def begin (c : Custom) (w : ℕ) : Custom :=
  match c.pc w with
  | .idle => { c with pc := Function.update c.pc w .load }
  | _ => c

/-- Process `w`'s next statement of `custom`; `submit_custom` returns
`-ENOMEM` and queues nothing when `kmalloc` fails. -/
def writerStep (c : Custom) (w : ℕ) (ok : Bool) : Custom :=
  match c.pc w with
  | .idle => c
  | .load => { c with pc := Function.update c.pc w (.store c.id) }
  | .store v =>
    { c with id := intInc v, pc := Function.update c.pc w (.submit (customMessage (intInc v))) }
  | .submit msg => { c with pc := Function.update c.pc w (.queue c.id msg) }
  | .queue id msg =>
    { c with queue := if ok then c.queue ++ [⟨id, msg⟩] else c.queue,
             pc := Function.update c.pc w .idle }

/-- `custom_work_handler` on the `i`-th queued work: `atomic_inc`, the
message, and `kfree`. -/
def handler (c : Custom) (i : ℕ) : Custom :=
  if i < c.queue.length then { c with queue := c.queue.eraseIdx i, count := intInc c.count } else c

def step (c : Custom) : CustomOp → Custom × Unit
  | .begin w => (c.begin w, ())
  | .writer w ok => (c.writerStep w ok, ())
  | .handler i => (c.handler i, ())

end Custom

/-- An operation of process 0, or of a handler. -/
def CustomOp.FromZero : CustomOp → Prop
  | .begin w | .writer w _ => w = 0
  | .handler _ => True

/-- The message a process holds names the id it will queue: `custom_id`
before the id is read, the id read after. -/
def MessageOk (id : ℤ) : CustomPc → Prop
  | .submit msg => msg = customMessage id
  | .queue id' msg => msg = customMessage id'
  | _ => True

/-- With process 0 the only one in `custom`: every queued work's message
names its id, and so does process 0's. -/
structure CustomInv (c : Custom) : Prop where
  others : ∀ w, w ≠ 0 → c.pc w = .idle
  queued : ∀ cw ∈ c.queue, cw.message = customMessage cw.id
  pc : MessageOk c.id (c.pc 0)

theorem customInv_init : CustomInv Custom.init := ⟨fun _ _ => rfl, (fun _ h => nomatch h), trivial⟩

section CustomInv

variable {c : Custom}

/-- Process 0 moved to `pc`, the others still idle. -/
theorem CustomInv.update (h : CustomInv c) {c' : Custom} {pc : CustomPc}
    (hpc : c'.pc = Function.update c.pc 0 pc) (hq : ∀ cw ∈ c'.queue, cw.message = customMessage cw.id)
    (h0 : MessageOk c'.id pc) : CustomInv c' :=
  ⟨fun w hw => by rw [hpc, Function.update_noteq hw, h.others w hw], hq,
    by rw [hpc, Function.update_same]; exact h0⟩

/-- **Every step of process 0 and of the handlers keeps `CustomInv`.** -/
theorem CustomInv.step (h : CustomInv c) : ∀ o, o.FromZero → CustomInv (c.step o).1
  | .begin w, hw => by
    cases hw
    simp only [Custom.step, Custom.begin]
    split
    · exact h.update rfl h.queued trivial
    · exact h
  | .writer w ok, hw => by
    cases hw
    have hp := h.pc
    simp only [Custom.step, Custom.writerStep]
    split <;> rename_i heq <;> rw [heq] at hp
    · exact h
    · exact h.update rfl h.queued trivial
    · exact h.update rfl h.queued rfl
    · exact h.update rfl h.queued hp
    · refine h.update rfl (fun cw hcw => ?_) trivial
      split_ifs at hcw
      · rcases List.mem_append.1 hcw with hcw | hcw
        · exact h.queued cw hcw
        · rw [List.mem_singleton.1 hcw]; exact hp
      · exact h.queued cw hcw
  | .handler i, _ => by
    simp only [Custom.step, Custom.handler]
    split_ifs
    · exact ⟨h.others, fun cw hcw => h.queued cw (List.mem_of_mem_eraseIdx hcw), h.pc⟩
    · exact h

end CustomInv

/-! ### The demo -/

/-- The two works on the system queue. -/
inductive Which
  | immediate
  | delayed
  deriving DecidableEq

/-- What the demo holds: `immediate_work`, `delayed_work`, the periodic work
with `periodic_running`, and the custom works. -/
structure State where
  immediate : Work
  delayed : Work
  periodic : Periodic.State
  custom : Custom

/-- After `workqueue_demo_init`. -/
def init : State := ⟨Work.init, Work.init, Periodic.init, Custom.init⟩

def State.work (s : State) : Which → Work
  | .immediate => s.immediate
  | .delayed => s.delayed

def State.setWork (s : State) : Which → Work → State
  | .immediate, x => { s with immediate := x }
  | .delayed, x => { s with delayed := x }

@[simp] theorem setWork_work (s : State) (k : Which) (x : Work) (k' : Which) :
    (s.setWork k x).work k' = if k' = k then x else s.work k' := by
  cases k <;> cases k' <;> rfl

/-- The commands of `stats_write`. -/
inductive Command
  | immediate
  | delayed
  | custom
  | start
  | stop
  deriving DecidableEq

/-- The command that the `strcmp` chain of `stats_write` picks for `cmd`. -/
def command (cmd : List UInt8) : Option Command :=
  if cmd = asciiBytes "immediate" then some .immediate
  else if cmd = asciiBytes "delayed" then some .delayed
  else if cmd = asciiBytes "custom" then some .custom
  else if cmd = asciiBytes "start" then some .start
  else if cmd = asciiBytes "stop" then some .stop
  else none

/-- `stats_write` by process `w`: copy at most 31 bytes, drop one trailing
newline, and run or begin the command the text names. -/
def statsWrite (s : State) (w : ℕ) (buf : UserBuf) (count : ℕ) : State × ℤ :=
  match procCommand 32 buf count with
  | none => (s, -EFAULT)
  | some cmd =>
    (match command cmd with
      | some .immediate => { s with immediate := s.immediate.schedule }
      | some .delayed => { s with delayed := s.delayed.schedule }
      | some .custom => { s with custom := s.custom.begin w }
      | some .start => { s with periodic := Periodic.begin s.periodic w .start }
      | some .stop => { s with periodic := Periodic.begin s.periodic w .stop }
      | none => s,
      count)

/-- An operation of the demo. -/
inductive Op
  | write (w : ℕ) (buf : UserBuf) (count : ℕ)
  | worker (k : Which)
  | handler (k : Which)
  | periodicWriter (w : ℕ)
  | periodicExpire
  | periodicHandler
  | customWriter (w : ℕ) (ok : Bool)
  | customHandler (i : ℕ)

/-- One operation; a write returns what `stats_write` returns. -/
def step (s : State) : Op → State × Option ℤ
  | .write w buf count => ((statsWrite s w buf count).1, some (statsWrite s w buf count).2)
  | .worker k => (s.setWork k (s.work k).start, none)
  | .handler k => (s.setWork k (s.work k).handlerStep, none)
  | .periodicWriter w => ({ s with periodic := Periodic.writerStep Periodic.delayedWork s.periodic w }, none)
  | .periodicExpire => ({ s with periodic := Periodic.expire Periodic.delayedWork s.periodic }, none)
  | .periodicHandler =>
    ({ s with periodic := Periodic.callbackStep Periodic.delayedWork s.periodic }, none)
  | .customWriter w ok => ({ s with custom := s.custom.writerStep w ok }, none)
  | .customHandler i => ({ s with custom := s.custom.handler i }, none)

/-- The command a write runs, if it copies and names one. -/
def Op.command? : Op → Option Command
  | .write _ buf count => (procCommand 32 buf count).bind command
  | _ => none

/-- The process an operation belongs to, if any. -/
def Op.process? : Op → Option ℕ
  | .write w _ _ | .periodicWriter w | .customWriter w _ => some w
  | _ => none

def Which.command : Which → Command
  | .immediate => .immediate
  | .delayed => .delayed

/-- What an operation does to the work `k`. -/
def Op.onWork (k : Which) : Op → Option WorkOp
  | .write w buf count => if (Op.write w buf count).command? = some k.command then some .schedule else none
  | .worker k' => if k' = k then some .start else none
  | .handler k' => if k' = k then some .handler else none
  | _ => none

/-- What an operation does to the periodic work. -/
def Op.onPeriodic : Op → Option Periodic.Op
  | .write w buf count =>
    match (Op.write w buf count).command? with
    | some .start => some (.begin w .start)
    | some .stop => some (.begin w .stop)
    | _ => none
  | .periodicWriter w => some (.writer w)
  | .periodicExpire => some .expire
  | .periodicHandler => some .callback
  | _ => none

/-- What an operation does to the custom works. -/
def Op.onCustom : Op → Option CustomOp
  | .write w buf count => if (Op.write w buf count).command? = some .custom then some (.begin w) else none
  | .customWriter w ok => some (.writer w ok)
  | .customHandler i => some (.handler i)
  | _ => none

/-! ### Each part runs its own machine -/

theorem statsWrite_eq (s : State) (w : ℕ) (buf : UserBuf) (count : ℕ) :
    (statsWrite s w buf count).1 = match (Op.write w buf count).command? with
      | some .immediate => { s with immediate := s.immediate.schedule }
      | some .delayed => { s with delayed := s.delayed.schedule }
      | some .custom => { s with custom := s.custom.begin w }
      | some .start => { s with periodic := Periodic.begin s.periodic w .start }
      | some .stop => { s with periodic := Periodic.begin s.periodic w .stop }
      | none => s := by
  simp only [statsWrite, Op.command?]
  cases procCommand 32 buf count <;> rfl

theorem step_work (s : State) (op : Op) (k : Which) :
    (step s op).1.work k = (op.onWork k).elim (s.work k) fun o => (Work.step (s.work k) o).1 := by
  cases op with
  | write w buf count =>
    simp only [step, statsWrite_eq, Op.onWork]
    cases (Op.write w buf count).command? with
    | none => rfl
    | some c => cases c <;> cases k <;> rfl
  | worker k' | handler k' =>
    by_cases hk : k' = k
    · subst hk; simp [step, Op.onWork, Work.step]
    · simp [step, Op.onWork, hk, Ne.symm hk]
  | _ => cases k <;> rfl

theorem step_periodic (s : State) (op : Op) :
    (step s op).1.periodic =
      op.onPeriodic.elim s.periodic fun o => (Periodic.step Periodic.delayedWork s.periodic o).1 := by
  cases op with
  | write w buf count =>
    simp only [step, statsWrite_eq, Op.onPeriodic]
    cases (Op.write w buf count).command? with
    | none => rfl
    | some c => cases c <;> rfl
  | worker k | handler k => cases k <;> rfl
  | _ => rfl

theorem step_custom (s : State) (op : Op) :
    (step s op).1.custom = op.onCustom.elim s.custom fun o => (s.custom.step o).1 := by
  cases op with
  | write w buf count =>
    simp only [step, statsWrite_eq, Op.onCustom]
    cases (Op.write w buf count).command? with
    | none => rfl
    | some c => cases c <;> rfl
  | worker k | handler k => cases k <;> rfl
  | _ => rfl

/-- **Every run of the demo is, on each work, a run of that work.** -/
theorem run_work (k : Which) (ops : List Op) (s : State) :
    (run step s ops).1.work k = (run Work.step (s.work k) (ops.filterMap (Op.onWork k))).1 :=
  run_proj step Work.step (State.work · k) (Op.onWork k) (fun s op => step_work s op k) ops s

theorem run_periodic (ops : List Op) (s : State) :
    (run step s ops).1.periodic =
      (run (Periodic.step Periodic.delayedWork) s.periodic (ops.filterMap Op.onPeriodic)).1 :=
  run_proj step (Periodic.step Periodic.delayedWork) State.periodic Op.onPeriodic step_periodic ops s

theorem run_custom (ops : List Op) (s : State) :
    (run step s ops).1.custom = (run Custom.step s.custom (ops.filterMap Op.onCustom)).1 :=
  run_proj step Custom.step State.custom Op.onCustom step_custom ops s

/-! ### What the demo guarantees -/

/-- The submissions of a work among the operations are its commands. -/
theorem count_schedule (k : Which) :
    ∀ ops : List Op, (ops.filterMap (Op.onWork k)).count .schedule =
      ops.countP fun op => op.command? = some k.command
  | [] => rfl
  | op :: ops => by
    rw [List.filterMap_cons, List.countP_cons, ← count_schedule k ops]
    cases op <;> simp only [Op.onWork, Op.command?, reduceCtorEq, decide_False, if_false,
      Nat.add_zero]
    case write w buf count =>
      by_cases h : (procCommand 32 buf count).bind command = some k.command <;> simp [h]
    case worker k' | handler k' =>
      split_ifs <;> simp

/-- **Each handler runs no more often than its command was written.** In
every run of the demo, with any number of processes writing and any
interleaving of workers and handlers, `Immediate work count` is the wrap of
at most as many handler runs as there were `immediate` commands, and
`Delayed work count` of at most as many as there were `delayed` commands. -/
theorem work_counts_bounded (ops : List Op) :
    (∃ n ≤ ops.countP (fun op => op.command? = some .immediate),
      (run step init ops).1.immediate.count = intOfCount n) ∧
    (∃ n ≤ ops.countP (fun op => op.command? = some .delayed),
      (run step init ops).1.delayed.count = intOfCount n) := by
  have h (k : Which) : ∃ n ≤ ops.countP (fun op => op.command? = some k.command),
      ((run step init ops).1.work k).count = intOfCount n := by
    have hinit : init.work k = Work.init := by cases k <;> rfl
    rw [run_work, hinit, ← count_schedule]
    obtain ⟨n, hn, hc⟩ := Work.counted_run _ Work.init 0 Work.counted_init
    exact ⟨n, by omega, hc⟩
  exact ⟨h .immediate, h .delayed⟩

/-- An operation of process 0, or of a handler, moves the custom works only
by an operation of process 0 or of a handler. -/
theorem Op.onCustom_fromZero {o : CustomOp} :
    ∀ {op : Op}, (op.process? = none ∨ op.process? = some 0) → op.onCustom = some o → o.FromZero
  | .write w buf count, hw, ho => by
    obtain rfl : w = 0 := by simpa [Op.process?] using hw
    simp only [Op.onCustom] at ho
    split_ifs at ho
    cases ho; rfl
  | .customWriter w ok, hw, ho => by
    obtain rfl : w = 0 := by simpa [Op.process?] using hw
    cases ho; rfl
  | .customHandler i, _, ho => by cases ho; trivial
  | .worker _, _, ho | .handler _, _, ho | .periodicWriter _, _, ho | .periodicExpire, _, ho
  | .periodicHandler, _, ho => by cases ho

/-- A write of `text` and a newline by process `w`, as `echo` makes it. -/
def echo (w : ℕ) (text : String) : Op :=
  .write w ⟨asciiBytes text ++ [10]⟩ (text.length + 1)

/-- Processes 0 and 1 write `custom`; process 0 loads and stores
`custom_id` (1), then process 1 does (2), and both read it back and queue. -/
def customRace : List Op :=
  [echo 0 "custom", echo 1 "custom", .customWriter 0 true, .customWriter 0 true,
    .customWriter 1 true, .customWriter 1 true, .customWriter 0 true, .customWriter 0 true,
    .customWriter 1 true, .customWriter 1 true]

/-- **`custom_id` numbers the custom works for one writer only.** In every
run in which only process 0 writes, however its steps interleave with the
handlers and the other works, every queued custom work carries the message
`custom job <id>` of its own id. Two processes writing `custom` at once can
queue two works with the same id, one of them with a message that names
another id. That second half is about the source's interleaving semantics,
in which each plain access to `custom_id` (the load and the store of
`++custom_id`, and the read for `submit_custom`) is a step of its own; a
compiler may keep the incremented value in a register and not read
`custom_id` again. -/
theorem custom_id_numbering :
    (∀ ops : List Op, (∀ op ∈ ops, op.process? = none ∨ op.process? = some 0) →
      ∀ cw ∈ (run step init ops).1.custom.queue, cw.message = customMessage cw.id) ∧
    (run step init customRace).1.custom.queue = [⟨2, customMessage 1⟩, ⟨2, customMessage 2⟩] := by
  refine ⟨fun ops hops => ?_, by decide⟩
  rw [run_custom]
  refine (run_inv_of_inputs Custom.step CustomOp.FromZero CustomInv (fun c o ho h => h.step o ho) _
    Custom.init (fun o ho => ?_) customInv_init).queued
  obtain ⟨op, hop, hon⟩ := List.mem_filterMap.1 ho
  exact Op.onCustom_fromZero (hops op hop) hon

/-- `Periodic.raceOps` as writes of `start` and `stop`. -/
def raceWrites : List Op :=
  [echo 0 "start", .periodicWriter 0, .periodicWriter 0, .periodicWriter 0, echo 1 "stop",
    .periodicWriter 1, echo 0 "start", .periodicWriter 0, .periodicWriter 0, .periodicWriter 0,
    .periodicWriter 1, .periodicWriter 1]

theorem raceWrites_onPeriodic : raceWrites.filterMap Op.onPeriodic = Periodic.raceOps := by decide

/-- **An overlapping `start` and `stop` stop the periodic work for good.**
Two processes writing `start`, `stop` and `start` as in `raceWrites` leave
`periodic_running` set with the work neither queued nor running: the
second `start` set the flag after the `stop` cleared it and queued the work,
and the `stop`'s `cancel_delayed_work_sync` then took it off the queue. From
such a state no run without a `stop` (any writes, any handler
steps) runs the handler again or changes `Periodic work count`. -/
theorem periodic_work_start_stop_race :
    Periodic.Stuck (run step init raceWrites).1.periodic ∧
      ∀ s : State, Periodic.Stuck s.periodic →
        ∀ ops : List Op, (∀ op ∈ ops, ∀ w, op.onPeriodic ≠ some (.begin w .stop)) →
          Periodic.Stuck (run step s ops).1.periodic ∧
            (run step s ops).1.periodic.fires = s.periodic.fires := by
  refine ⟨?_, fun s hs ops hops => ?_⟩
  · rw [run_periodic, raceWrites_onPeriodic]
    exact (Periodic.start_stop_race Periodic.delayedWork).1
  · rw [run_periodic]
    refine (Periodic.start_stop_race Periodic.delayedWork).2 _ hs _ fun o ho w => ?_
    obtain ⟨op, hop, hon⟩ := List.mem_filterMap.1 ho
    rintro rfl
    exact hops op hop w hon

end WorkqueueDemo
end DriverGuide
