/-
# The kthread demo: an event thread on a wait queue

`kthread_demo.c` runs two kernel threads. `poll_thread_fn` sets
`simulated_sensor` from `poll_count` and sleeps a second at a time.
`event_thread_fn` sleeps in `wait_event_interruptible(event_wq,
event_pending || kthread_should_stop())` until `trigger_event`, run by
`stats_write` for the command `event`, sets `event_pending` and calls
`wake_up_interruptible`; it then clears the flag and counts the event. The
module's exit stops it with `kthread_stop`.

`wait_event_interruptible` is the kernel's loop: test the condition; if it
fails, `prepare_to_wait_event` (put the thread on the queue and mark it
`TASK_INTERRUPTIBLE`), test again, and `schedule()`, which returns at once if
a wake-up has already marked the thread `TASK_RUNNING`. `wake_up_interruptible`
wakes a thread that is on the queue and not running, and takes it off;
`wake_up_process`, in `kthread_stop`, marks it running and leaves the queue
entry to `finish_wait`. A step below is one of these statements, of the event
thread, of one writing process, or of `kthread_stop`.

* No wake-up is lost: whenever no `trigger_event` is between its store and
  its wake-up and `kthread_stop` is not between its two, the event thread is
  not asleep with `event_pending` or the stop bit set
  (`event_thread_never_sleeps_on_event`).
* `kthread_stop` returns: once it has set the stop bit and woken the thread,
  four steps of the event thread, interleaved with anything, end it
  (`kthread_stop_ends_event_thread`).

The poll thread's stop and the error paths of `kthread_demo_init` are not
modelled; the poll thread's early wake-ups by `wake_up_interruptible` change
nothing it computes.

Key definitions: `State`, `eventStep`, `triggerStep`, `stopperStep`, `Op`,
`step`, `Inv`, `toExit`.
Key theorems: `Inv.step`, `toExit_eventStep`,
`event_thread_never_sleeps_on_event`, `kthread_stop_ends_event_thread`.
-/
import DriverGuide.Basic

namespace DriverGuide
namespace KthreadDemo

/-- Where `event_thread_fn` is: at the `while` test of the stop bit, at the
first test of the wait condition, about to `prepare_to_wait_event`, at the
test after it, in `schedule()`, at the stop test after the wait, about to
clear `event_pending`, to count, in `msleep(10)`, or returned. -/
inductive EventPc
  | top
  | fast
  | prepare
  | check
  | sleep
  | stopTest
  | clear
  | count
  | nap
  | exited
  deriving DecidableEq

/-- Where a process is in `trigger_event`: about to set `event_pending`, or
to call `wake_up_interruptible`. -/
inductive TriggerPc
  | idle
  | store
  | wake
  deriving DecidableEq

/-- Where the module exit's `kthread_stop(event_thread)` is: not called, about
to `wake_up_process`, waiting for the thread to exit, or returned. -/
inductive StopperPc
  | idle
  | wake
  | wait
  | done
  deriving DecidableEq

/-- Where `poll_thread_fn` is: about to set `simulated_sensor`, to increment
`poll_count`, or in its one-second wait. -/
inductive PollPc
  | sense
  | inc
  | wait
  deriving DecidableEq

/-- The module's variables and the two threads. `running` is the event
thread's task state (`TASK_RUNNING` or `TASK_INTERRUPTIBLE`), `queued` whether
its entry is on `event_wq`, `stop` its `KTHREAD_SHOULD_STOP` bit. -/
structure State where
  pollCount : ℤ
  sensor : ℤ
  eventCount : ℤ
  pending : Bool
  event : EventPc
  running : Bool
  queued : Bool
  stop : Bool
  trigger : ℕ → TriggerPc
  stopper : StopperPc
  poll : PollPc

/-- After `kthread_demo_init` has started both threads. -/
def init : State :=
  ⟨0, 25, 0, false, .top, true, false, false, fun _ => .idle, .idle, .sense⟩

/-- The event thread's next statement. `schedule()` blocks (the state stays
as it is) while the thread is not running. -/
def eventStep (s : State) : State :=
  match s.event with
  | .top => { s with event := if s.stop then .exited else .fast }
  | .fast => { s with event := if s.pending ∨ s.stop then .stopTest else .prepare }
  | .prepare => { s with queued := true, running := false, event := .check }
  | .check =>
    if s.pending ∨ s.stop then { s with running := true, queued := false, event := .stopTest }
    else { s with event := .sleep }
  | .sleep => if s.running then { s with event := .prepare } else s
  | .stopTest => { s with event := if s.stop then .exited else .clear }
  | .clear => { s with pending := false, event := .count }
  | .count => { s with eventCount := intInc s.eventCount, event := .nap }
  | .nap => { s with event := .top }
  | .exited => s

/-- Process `w`'s next statement in `trigger_event`. -/
def triggerStep (s : State) (w : ℕ) : State :=
  match s.trigger w with
  | .idle => s
  | .store => { s with pending := true, trigger := Function.update s.trigger w .wake }
  | .wake =>
    if s.queued ∧ s.running = false then
      { s with running := true, queued := false, trigger := Function.update s.trigger w .idle }
    else { s with trigger := Function.update s.trigger w .idle }

/-- `kthread_stop(event_thread)` is called: it sets the stop bit. -/
def exit (s : State) : State :=
  match s.stopper with
  | .idle => { s with stop := true, stopper := .wake }
  | _ => s

/-- `kthread_stop`'s next statement: `wake_up_process`, then the wait for
the thread's exit. -/
def stopperStep (s : State) : State :=
  match s.stopper with
  | .wake => { s with running := true, stopper := .wait }
  | .wait => if s.event = .exited then { s with stopper := .done } else s
  | _ => s

/-- The poll thread's next statement; `%` of C is `Int.tmod`. -/
def pollStep (s : State) : State :=
  match s.poll with
  | .sense => { s with sensor := 20 + s.pollCount.tmod 15, poll := .inc }
  | .inc => { s with pollCount := intInc s.pollCount, poll := .wait }
  | .wait => { s with poll := .sense }

/-- `stats_write` by process `w`: copy at most 31 bytes, drop one trailing
newline, and begin `trigger_event` for `event`. -/
def statsWrite (s : State) (w : ℕ) (buf : UserBuf) (count : ℕ) : State × ℤ :=
  match procCommand 32 buf count with
  | none => (s, -EFAULT)
  | some cmd =>
    (if cmd = asciiBytes "event" ∧ s.trigger w = .idle then
      { s with trigger := Function.update s.trigger w .store }
    else s, count)

/-- An operation of the demo. -/
inductive Op
  | write (w : ℕ) (buf : UserBuf) (count : ℕ)
  | trigger (w : ℕ)
  | eventThread
  | pollThread
  | exit
  | stopper
  deriving DecidableEq

/-- One operation; a write returns what `stats_write` returns. -/
def step (s : State) : Op → State × Option ℤ
  | .write w buf count => ((statsWrite s w buf count).1, some (statsWrite s w buf count).2)
  | .trigger w => (triggerStep s w, none)
  | .eventThread => (eventStep s, none)
  | .pollThread => (pollStep s, none)
  | .exit => (exit s, none)
  | .stopper => (stopperStep s, none)

/-! ### The invariant -/

/-- The event thread is asleep: in `schedule()` and not running. -/
def Asleep (s : State) : Prop := s.event = .sleep ∧ s.running = false

/-- What every reachable state satisfies. Between `prepare_to_wait_event`
and `schedule()` the thread is on the queue or already woken; asleep, it is on
the queue, and a set flag or stop bit has its wake-up still to come. Once
`kthread_stop` is called the stop bit is set, and once it has woken the thread
the thread never sleeps again. -/
structure Inv (s : State) : Prop where
  check_queued : s.event = .check → s.queued = true ∨ s.running = true
  asleep_queued : Asleep s → s.queued = true
  asleep_pending : Asleep s → s.pending = true → ∃ w, s.trigger w = .wake
  asleep_stop : Asleep s → s.stop = true → s.stopper = .wake
  stop_of_stopper : s.stopper ≠ .idle → s.stop = true
  awake_of_woken : s.stopper = .wait ∨ s.stopper = .done → s.event = .sleep → s.running = true

section Inv

variable {s : State}

/-- A state whose event thread is not in `schedule()`. -/
theorem Inv.of_event (hss : s.stopper ≠ .idle → s.stop = true)
    (hq : s.event = .check → s.queued = true ∨ s.running = true) (hs : s.event ≠ .sleep) : Inv s :=
  ⟨hq, (fun h => absurd h.1 hs), (fun h => absurd h.1 hs), (fun h => absurd h.1 hs), hss,
    (fun _ h => absurd h hs)⟩

theorem inv_init : Inv init := Inv.of_event (fun h => absurd rfl h) nofun nofun

theorem Inv.eventStep (h : Inv s) : Inv (eventStep s) := by
  obtain ⟨hcq, haq, hap, has, hss, haw⟩ := h
  unfold KthreadDemo.eventStep
  cases he : s.event <;> dsimp only
  case top | fast | stopTest => exact Inv.of_event hss (by split <;> nofun) (by split <;> nofun)
  case prepare => exact Inv.of_event hss (fun _ => .inl rfl) nofun
  case clear | count | nap => exact Inv.of_event hss nofun nofun
  case check =>
    by_cases hc : s.pending = true ∨ s.stop = true
    · rw [if_pos hc]
      exact Inv.of_event hss nofun nofun
    · rw [if_neg hc]
      simp only [not_or, Bool.not_eq_true] at hc
      have hidle : s.stopper = .idle := by
        by_contra hne
        simpa [hc.2] using hss hne
      refine ⟨nofun, fun ha => ?_, fun _ hp => absurd hp (by simp [hc.1]),
        fun _ hst => absurd hst (by simp [hc.2]), hss, fun hw => by simp [hidle] at hw⟩
      rcases hcq he with hq | hr
      · exact hq
      · exact absurd ha.2 (by simp [hr])
  case sleep =>
    by_cases hr : s.running = true
    · rw [if_pos hr]
      exact Inv.of_event hss nofun nofun
    · rw [if_neg hr]
      exact ⟨hcq, haq, hap, has, hss, haw⟩
  case exited => exact ⟨hcq, haq, hap, has, hss, haw⟩

theorem Inv.triggerStep (h : Inv s) (w : ℕ) : Inv (triggerStep s w) := by
  obtain ⟨hcq, haq, hap, has, hss, haw⟩ := h
  unfold KthreadDemo.triggerStep
  cases htw : s.trigger w <;> dsimp only
  case idle => exact ⟨hcq, haq, hap, has, hss, haw⟩
  case store => exact ⟨hcq, haq, fun _ _ => ⟨w, Function.update_same _ _ _⟩, has, hss, haw⟩
  case wake =>
    by_cases hqr : s.queued = true ∧ s.running = false
    · rw [if_pos hqr]
      exact ⟨fun _ => .inr rfl, (fun ha => nomatch ha.2), (fun ha => nomatch ha.2),
        (fun ha => nomatch ha.2), hss, fun _ _ => rfl⟩
    · rw [if_neg hqr]
      exact ⟨hcq, haq, fun ha => absurd ⟨haq ha, ha.2⟩ hqr, has, hss, haw⟩

theorem Inv.exit (h : Inv s) : Inv (exit s) := by
  obtain ⟨hcq, haq, hap, has, hss, haw⟩ := h
  unfold KthreadDemo.exit
  cases hst : s.stopper <;> dsimp only
  case idle =>
    refine ⟨hcq, haq, hap, fun _ _ => rfl, fun _ => rfl, fun hw => ?_⟩
    rcases hw with hw | hw <;> cases hw
  all_goals exact ⟨hcq, haq, hap, has, hss, haw⟩

theorem Inv.stopperStep (h : Inv s) : Inv (stopperStep s) := by
  obtain ⟨hcq, haq, hap, has, hss, haw⟩ := h
  unfold KthreadDemo.stopperStep
  cases hst : s.stopper <;> dsimp only
  case wake =>
    exact ⟨fun _ => .inr rfl, (fun ha => nomatch ha.2), (fun ha => nomatch ha.2),
      (fun ha => nomatch ha.2), fun _ => hss (by rw [hst]; nofun), fun _ _ => rfl⟩
  case wait =>
    split_ifs with he
    · exact Inv.of_event (fun _ => hss (by rw [hst]; nofun)) (by rw [he]; nofun) (by rw [he]; nofun)
    · exact ⟨hcq, haq, hap, has, hss, haw⟩
  all_goals exact ⟨hcq, haq, hap, has, hss, haw⟩

theorem Inv.pollStep (h : Inv s) : Inv (pollStep s) := by
  obtain ⟨hcq, haq, hap, has, hss, haw⟩ := h
  unfold KthreadDemo.pollStep
  cases s.poll <;> exact ⟨hcq, haq, hap, has, hss, haw⟩

theorem Inv.statsWrite (h : Inv s) (w : ℕ) (buf : UserBuf) (count : ℕ) :
    Inv (statsWrite s w buf count).1 := by
  obtain ⟨hcq, haq, hap, has, hss, haw⟩ := h
  unfold KthreadDemo.statsWrite
  split
  · exact ⟨hcq, haq, hap, has, hss, haw⟩
  · dsimp only
    split_ifs with hc
    · refine ⟨hcq, haq, fun ha hp => ?_, has, hss, haw⟩
      obtain ⟨v, hv⟩ := hap ha hp
      have hvw : v ≠ w := fun e => by rw [e, hc.2] at hv; cases hv
      exact ⟨v, (Function.update_noteq hvw _ _).trans hv⟩
    · exact ⟨hcq, haq, hap, has, hss, haw⟩

/-- **Every operation keeps `Inv`.** -/
theorem Inv.step (h : Inv s) : ∀ op, Inv (step s op).1
  | .write w buf count => h.statsWrite w buf count
  | .trigger w => h.triggerStep w
  | .eventThread => h.eventStep
  | .pollThread => h.pollStep
  | .exit => h.exit
  | .stopper => h.stopperStep

end Inv

theorem inv_run (ops : List Op) : Inv (run step init ops).1 :=
  run_inv step Inv (fun _ op h => h.step op) ops init inv_init

/-- **No wake-up is lost.** In every run, with any number of processes
writing `event` and the module's exit at any point, whenever no
`trigger_event` is between setting `event_pending` and its
`wake_up_interruptible`, and `kthread_stop` is not between setting the stop
bit and its `wake_up_process`, the event thread is not asleep in
`schedule()` with `event_pending` or the stop bit set. -/
theorem event_thread_never_sleeps_on_event (ops : List Op)
    (htrig : ∀ w, (run step init ops).1.trigger w ≠ .wake)
    (hstop : (run step init ops).1.stopper ≠ .wake) :
    ¬(Asleep (run step init ops).1 ∧
      ((run step init ops).1.pending = true ∨ (run step init ops).1.stop = true)) := by
  have h := inv_run ops
  rintro ⟨ha, hp | hst⟩
  · obtain ⟨w, hw⟩ := h.asleep_pending ha hp
    exact htrig w hw
  · exact hstop (h.asleep_stop ha hst)

/-- The event thread goes to sleep with nothing pending. -/
theorem event_thread_asleep_idle :
    ¬(Asleep (run step init [.eventThread, .eventThread, .eventThread, .eventThread]).1 ∧
      ((run step init [.eventThread, .eventThread, .eventThread, .eventThread]).1.pending = true ∨
        (run step init [.eventThread, .eventThread, .eventThread, .eventThread]).1.stop = true)) :=
  event_thread_never_sleeps_on_event _ (fun _ => nofun) nofun

/-! ### `kthread_stop` returns -/

/-- How many of its own steps take the event thread to its return once the
stop bit is set and it cannot sleep. -/
def toExit : EventPc → ℕ
  | .exited => 0
  | .top | .stopTest => 1
  | .fast | .check | .nap => 2
  | .prepare | .count => 3
  | .sleep | .clear => 4

theorem toExit_le (e : EventPc) : toExit e ≤ 4 := by cases e <;> decide

theorem eq_exited_of_toExit (e : EventPc) (h : toExit e = 0) : e = .exited := by
  cases e <;> first | rfl | exact absurd h (by decide)

/-- `kthread_stop` has woken the thread. -/
def Woken (s : State) : Prop := s.stopper = .wait ∨ s.stopper = .done

/-- A write and a step of `trigger_event` move only `trigger` and what
`trigger_event` sets. -/
theorem statsWrite_fields {s : State} (w : ℕ) (buf : UserBuf) (count : ℕ) :
    (statsWrite s w buf count).1.event = s.event ∧ (statsWrite s w buf count).1.stopper = s.stopper := by
  unfold KthreadDemo.statsWrite
  split
  · exact ⟨rfl, rfl⟩
  · dsimp only; split_ifs <;> exact ⟨rfl, rfl⟩

theorem triggerStep_fields {s : State} (w : ℕ) :
    (triggerStep s w).event = s.event ∧ (triggerStep s w).stopper = s.stopper := by
  unfold KthreadDemo.triggerStep
  split <;> (try split_ifs) <;> exact ⟨rfl, rfl⟩

theorem Woken.step {s : State} (h : Woken s) : ∀ op, Woken (step s op).1
  | .write w buf count => by
    show Woken (statsWrite s w buf count).1
    rw [Woken, (statsWrite_fields w buf count).2]; exact h
  | .trigger w => by
    show Woken (triggerStep s w)
    rw [Woken, (triggerStep_fields w).2]; exact h
  | .eventThread => by
    show Woken (eventStep s)
    unfold eventStep
    split <;> (try split_ifs) <;> exact h
  | .pollThread => by
    show Woken (pollStep s)
    unfold pollStep
    split <;> exact h
  | .exit => by
    show Woken (exit s)
    unfold KthreadDemo.exit
    split
    · rename_i hi; rcases h with h | h <;> rw [h] at hi <;> cases hi
    · exact h
  | .stopper => by
    show Woken (stopperStep s)
    unfold stopperStep
    split
    · rename_i hi; rcases h with h | h <;> rw [h] at hi <;> cases hi
    · split_ifs
      · exact .inr rfl
      · exact h
    · exact h

/-- Every operation but the event thread's leaves its place alone. -/
theorem step_event {s : State} : ∀ op, op ≠ .eventThread → (step s op).1.event = s.event
  | .write w buf count, _ => (statsWrite_fields w buf count).1
  | .trigger w, _ => (triggerStep_fields w).1
  | .eventThread, h => absurd rfl h
  | .pollThread, _ => by
    show (pollStep s).event = s.event
    unfold pollStep; split <;> rfl
  | .exit, _ => by
    show (exit s).event = s.event
    unfold KthreadDemo.exit; split <;> rfl
  | .stopper, _ => by
    show (stopperStep s).event = s.event
    unfold stopperStep; split <;> (try split_ifs) <;> rfl

/-- Once woken by `kthread_stop`, each step of the event thread brings its
return one step nearer. -/
theorem toExit_eventStep {s : State} (h : Inv s) (hw : Woken s) :
    toExit (eventStep s).event = toExit s.event - 1 := by
  have hst : s.stop = true := h.stop_of_stopper (by rcases hw with hw | hw <;> rw [hw] <;> nofun)
  unfold eventStep
  cases he : s.event <;> simp only [hst, he, if_true, or_true] <;> try rfl
  rw [if_pos (h.awake_of_woken hw he)]
  rfl

theorem run_toExit : ∀ (ops : List Op) (s : State), Inv s → Woken s →
    toExit s.event ≤ ops.count .eventThread → (run step s ops).1.event = .exited
  | [], s, _, _, h => eq_exited_of_toExit _ (by simpa using h)
  | op :: ops, s, hI, hW, h => by
    rw [run_cons]
    refine run_toExit ops _ (hI.step op) (hW.step op) ?_
    rw [List.count_cons] at h
    by_cases hop : op = .eventThread
    · subst hop
      have := toExit_eventStep hI hW
      simp only [KthreadDemo.step, beq_self_eq_true, if_true] at h ⊢
      omega
    · rw [step_event op hop]
      simpa [hop] using h

/-- **`kthread_stop` returns.** From every reachable state in which
`kthread_stop(event_thread)` has set the stop bit and woken the thread, any
run with four steps of the event thread, interleaved in any way with writes,
`trigger_event`s and the poll thread, ends with the event thread returned, so
the wait of `kthread_stop` ends. -/
theorem kthread_stop_ends_event_thread (ops : List Op)
    (hs : (run step init ops).1.stopper = .wait) (ops' : List Op) (h4 : 4 ≤ ops'.count .eventThread) :
    (run step (run step init ops).1 ops').1.event = .exited :=
  run_toExit ops' _ (inv_run ops) (.inl hs) ((toExit_le _).trans h4)

/-- The module is unloaded right after it is loaded. -/
theorem exit_after_init :
    (run step (run step init [.exit, .stopper]).1
      [.eventThread, .eventThread, .eventThread, .eventThread]).1.event = .exited :=
  kthread_stop_ends_event_thread [.exit, .stopper] rfl _ (by decide)

end KthreadDemo
end DriverGuide
