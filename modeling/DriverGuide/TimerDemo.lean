/-
# The timer demo: two periodic callbacks behind `/proc/timer_demo`

`timer_demo.c` holds two `Periodic` machines side by side: `poll_timer`, a
`timer_list`, and `hr_timer`, an `hrtimer`. `stats_write` copies the command
in and runs `start_timer`, `stop_timer`, `start_hrtimer` or `stop_hrtimer`
for the words `start`, `stop`, `hstart` and `hstop`; any other text is only
warned about, and the write returns `count` in every case but a failed copy.

An operation of the demo is a write by some process, the next statement of a
process inside a timer's command, or a timer's expiry or callback step. Each
moves one timer and leaves the other alone (`step_timer`), so every run of
the demo is, on each timer, a run of that timer's `Periodic` machine
(`run_timer`), and what `Periodic` proves holds of the demo:

* with one process writing, the `Running:` lines of `stats_show` tell the
  truth whenever that process is between commands
  (`timer_demo_flag_truthful`);
* a `start` that overlaps a `stop` from another process can leave a timer
  saying `Running: yes` with nothing armed, its fire count frozen until the
  next `stop` (`timer_demo_start_stop_race`).

A process has a place in each timer's command, so the model lets it begin a
command on one timer while inside one on the other; that only adds runs.

Key definitions: `State`, `command`, `statsWrite`, `Op`, `step`, `Op.on`.
Key theorems: `step_timer`, `run_timer`, `timer_demo_flag_truthful`,
`timer_demo_start_stop_race`.
-/
import DriverGuide.Periodic

namespace DriverGuide
namespace TimerDemo

/-- `poll_timer` with `timer_running` and `timer_fire_count`, and `hr_timer`
with `hrtimer_running` and `hrtimer_fire_count`. -/
structure State where
  poll : Periodic.State
  hr : Periodic.State

/-- After `timer_demo_init`: both flags clear, nothing armed. -/
def init : State := ⟨Periodic.init, Periodic.init⟩

/-- The timer a command names: `hr_timer` for `hr`, else `poll_timer`. -/
def State.timer (s : State) : Bool → Periodic.State
  | false => s.poll
  | true => s.hr

/-- The state with the timer `hr` replaced. -/
def State.setTimer (s : State) : Bool → Periodic.State → State
  | false, t => { s with poll := t }
  | true, t => { s with hr := t }

/-- The kernel object behind each timer. -/
def kind : Bool → Periodic.Kind
  | false => Periodic.timerList
  | true => Periodic.hrtimer

@[simp] theorem setTimer_timer (s : State) (hr : Bool) (t : Periodic.State) (hr' : Bool) :
    (s.setTimer hr t).timer hr' = if hr' = hr then t else s.timer hr' := by
  cases hr <;> cases hr' <;> rfl

/-- The timer and the command that the `strcmp` chain of `stats_write` picks
for the string `cmd`. -/
def command (cmd : List UInt8) : Option (Bool × Periodic.Cmd) :=
  if cmd = asciiBytes "start" then some (false, .start)
  else if cmd = asciiBytes "stop" then some (false, .stop)
  else if cmd = asciiBytes "hstart" then some (true, .start)
  else if cmd = asciiBytes "hstop" then some (true, .stop)
  else none

/-- `stats_write` by process `w`: copy at most 31 bytes, drop one trailing
newline, and begin the command the text names. -/
def statsWrite (s : State) (w : ℕ) (buf : UserBuf) (count : ℕ) : State × ℤ :=
  match procCommand 32 buf count with
  | none => (s, -EFAULT)
  | some cmd =>
    match command cmd with
    | some (hr, c) => (s.setTimer hr (Periodic.begin (s.timer hr) w c), count)
    | none => (s, count)

/-- An operation of the demo: process `w` writes to `/proc/timer_demo`, or
takes the next step of its command on a timer; or a timer expires, or its
callback takes a step. -/
inductive Op
  | write (w : ℕ) (buf : UserBuf) (count : ℕ)
  | writer (hr : Bool) (w : ℕ)
  | expire (hr : Bool)
  | callback (hr : Bool)

/-- One operation; a write returns what `stats_write` returns. -/
def step (s : State) : Op → State × Option ℤ
  | .write w buf count => ((statsWrite s w buf count).1, some (statsWrite s w buf count).2)
  | .writer hr w => (s.setTimer hr (Periodic.writerStep (kind hr) (s.timer hr) w), none)
  | .expire hr => (s.setTimer hr (Periodic.expire (kind hr) (s.timer hr)), none)
  | .callback hr => (s.setTimer hr (Periodic.callbackStep (kind hr) (s.timer hr)), none)

/-- What an operation does to the timer `hr`, if anything. -/
def Op.on (hr : Bool) : Op → Option Periodic.Op
  | .write w buf count =>
    match procCommand 32 buf count with
    | some cmd =>
      match command cmd with
      | some (h, c) => if h = hr then some (.begin w c) else none
      | none => none
    | none => none
  | .writer h w => if h = hr then some (.writer w) else none
  | .expire h => if h = hr then some .expire else none
  | .callback h => if h = hr then some .callback else none

/-- The process an operation belongs to, if any. -/
def Op.process? : Op → Option ℕ
  | .write w _ _ | .writer _ w => some w
  | .expire _ | .callback _ => none

/-! ### Each timer runs its own machine -/

/-- **A step of the demo is a step of one timer's machine, or none.** -/
theorem step_timer (s : State) (op : Op) (hr : Bool) :
    (step s op).1.timer hr =
      (op.on hr).elim (s.timer hr) fun o => (Periodic.step (kind hr) (s.timer hr) o).1 := by
  cases op with
  | write w buf count =>
    simp only [step, statsWrite, Op.on]
    cases procCommand 32 buf count with
    | none => rfl
    | some cmd =>
      dsimp only
      cases command cmd with
      | none => rfl
      | some hc =>
        obtain ⟨h, c⟩ := hc
        by_cases hh : h = hr
        · subst hh; simp [Periodic.step]
        · simp [hh, Ne.symm hh]
  | writer h w | expire h | callback h =>
    by_cases hh : h = hr
    · subst hh; simp [step, Op.on, Periodic.step]
    · simp [step, Op.on, hh, Ne.symm hh]

/-- **Every run of the demo is, on each timer, a run of its machine** on the
operations that move it. -/
theorem run_timer (hr : Bool) (ops : List Op) (s : State) :
    (run step s ops).1.timer hr =
      (run (Periodic.step (kind hr)) (s.timer hr) (ops.filterMap (Op.on hr))).1 :=
  run_proj step (Periodic.step (kind hr)) (State.timer · hr) (Op.on hr)
    (fun s op => step_timer s op hr) ops s

/-- An operation of process 0, or of a timer, moves a timer only by an
operation of writer 0 or of the timer. -/
theorem Op.on_fromZero {hr : Bool} {o : Periodic.Op} :
    ∀ {op : Op}, (op.process? = none ∨ op.process? = some 0) → op.on hr = some o → o.FromZero
  | .write w buf count, hw, ho => by
    obtain rfl : w = 0 := by simpa [Op.process?] using hw
    simp only [Op.on] at ho
    split at ho
    · split at ho
      · split at ho
        · cases ho; rfl
        · cases ho
      · cases ho
    · cases ho
  | .writer h w, hw, ho => by
    obtain rfl : w = 0 := by simpa [Op.process?] using hw
    by_cases hh : h = hr <;> simp [Op.on, hh] at ho
    subst ho; rfl
  | .expire h, _, ho | .callback h, _, ho => by
    by_cases hh : h = hr <;> simp [Op.on, hh] at ho
    subst ho; trivial

/-- A write of `text` and a newline by process `w`, as `echo` makes it. -/
def echo (w : ℕ) (text : String) : Op :=
  .write w ⟨asciiBytes text ++ [10]⟩ (text.length + 1)

/-- **With one process writing, `Running:` tells the truth.** In every run
in which only process 0 writes to `/proc/timer_demo`, interleaved in any way
with both timers' expiries and callbacks, whenever process 0 is not inside a
command on a timer: that timer's flag set, it is armed or its callback is
under way; clear, nothing is armed and no callback runs. -/
theorem timer_demo_flag_truthful (ops : List Op)
    (hops : ∀ op ∈ ops, op.process? = none ∨ op.process? = some 0) (hr : Bool)
    (h0 : ((run step init ops).1.timer hr).writer 0 = .idle) :
    (((run step init ops).1.timer hr).running = true → Periodic.Alive ((run step init ops).1.timer hr)) ∧
      (((run step init ops).1.timer hr).running = false →
        Periodic.Dead ((run step init ops).1.timer hr)) := by
  have hinit : init.timer hr = Periodic.init := by cases hr <;> rfl
  rw [run_timer, hinit] at h0 ⊢
  refine Periodic.flag_truthful (kind hr) _ (fun o ho => ?_) h0
  obtain ⟨op, hop, hon⟩ := List.mem_filterMap.1 ho
  exact Op.on_fromZero (hops op hop) hon


/-- Process 0 writes `start` and runs the command to its end: the flag is
set and the poll timer armed. -/
theorem poll_timer_alive_after_start :
    Periodic.Alive ((run step init
      [echo 0 "start", .writer false 0, .writer false 0, .writer false 0]).1.timer false) :=
  (timer_demo_flag_truthful _ (by decide) false (by decide)).1 (by decide)

/-- `Periodic.raceOps` as writes: process 0 starts the timer, then process
1's `stop` and process 0's second `start` overlap. -/
def raceWrites (hr : Bool) : List Op :=
  let (start, stop) := if hr then ("hstart", "hstop") else ("start", "stop")
  [echo 0 start, .writer hr 0, .writer hr 0, .writer hr 0, echo 1 stop, .writer hr 1,
    echo 0 start, .writer hr 0, .writer hr 0, .writer hr 0, .writer hr 1, .writer hr 1]

theorem raceWrites_on (hr : Bool) : (raceWrites hr).filterMap (Op.on hr) = Periodic.raceOps := by
  cases hr <;> decide

/-- **An overlapping `start` and `stop` stop a timer for good.** For each
timer, two processes writing `start`, `stop` and `start` as in `raceWrites`
leave it stuck: the flag set, nothing armed. And from any state with a timer
stuck, no run without a `stop` of that timer (any writes, any expiries) runs
its callback again or changes its fire count, while `stats_show` keeps
printing `Running: yes`. -/
theorem timer_demo_start_stop_race (hr : Bool) :
    Periodic.Stuck ((run step init (raceWrites hr)).1.timer hr) ∧
      ∀ s : State, Periodic.Stuck (s.timer hr) →
        ∀ ops : List Op, (∀ op ∈ ops, ∀ w, op.on hr ≠ some (.begin w .stop)) →
          Periodic.Stuck ((run step s ops).1.timer hr) ∧
            ((run step s ops).1.timer hr).fires = (s.timer hr).fires := by
  have hinit : init.timer hr = Periodic.init := by cases hr <;> rfl
  refine ⟨?_, fun s hs ops hops => ?_⟩
  · rw [run_timer, hinit, raceWrites_on]
    exact (Periodic.start_stop_race (kind hr)).1
  · rw [run_timer]
    refine (Periodic.start_stop_race (kind hr)).2 _ hs _ fun o ho w => ?_
    obtain ⟨op, hop, hon⟩ := List.mem_filterMap.1 ho
    rintro rfl
    exact hops op hop w hon

end TimerDemo
end DriverGuide
