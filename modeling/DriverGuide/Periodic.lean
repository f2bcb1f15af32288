/-
# Periodic callbacks behind a `running` flag

Three callbacks of the guide re-arm themselves while a flag is set:
`poll_timer_callback` (`timer_demo.c`, a `timer_list`), `hrtimer_callback`
(the same file, an `hrtimer` restarted by its return value) and
`periodic_work_handler` (`workqueue_demo.c`, a `delayed_work`). Each has a
start that returns if the flag is set, else sets it and arms, and a stop that
clears the flag and cancels synchronously: `del_timer_sync`, `hrtimer_cancel`
or `cancel_delayed_work_sync`, which wait for a running callback. The three
differ only in what the kernel does with the object (`Kind`): a cancel of a
work holds it so that arming fails until the cancel returns, and the work's
handler tests the flag before it counts.

A step is one access of the flag or of the kernel object by one writer
(`start` and `stop` are run by `stats_write`, so by any number of processes)
or by the callback, or the object's expiry. The re-arm is the callback's
last statement, so it and the callback's return are one step; a writer step
in between commutes with the return.

* With one writer, the flag tells the truth whenever no command is under
  way: set, the object is armed or its callback is under way and will re-arm
  it; clear, it is neither (`flag_truthful`).
* A `start` that overlaps a `stop` can end with the flag set and nothing
  armed, and then no operation but a `stop` ever runs the callback again:
  every `start` returns at once (`start_stop_race`).

Key definitions: `Kind`, `State`, `expire`, `callbackStep`, `writerStep`,
`step`, `SingleInv`, `Stuck`.
Key theorems: `SingleInv.step`, `flag_truthful`, `Stuck.step`,
`start_stop_race`.
-/
import DriverGuide.Basic

namespace DriverGuide
namespace Periodic

/-! ### The kernel objects -/

/-- What the kernel does with the object behind a periodic callback. -/
structure Kind where
  /-- Arming fails while a cancel is in progress: `cancel_delayed_work_sync`
  takes the work's PENDING bit and disables it until the running handler has
  returned. `del_timer_sync` and `hrtimer_cancel` only wait, then delete. -/
  cancelBlocksArm : Bool
  /-- The callback returns before counting when the flag is clear. -/
  testsFirst : Bool
  deriving DecidableEq

/-- `poll_timer`: `timer_setup`, `mod_timer` and `del_timer_sync`. -/
def timerList : Kind := ⟨false, false⟩

/-- `hr_timer`: `hrtimer_start`, `HRTIMER_RESTART` and `hrtimer_cancel`. -/
def hrtimer : Kind := ⟨false, false⟩

/-- `periodic_work`: `schedule_delayed_work` and `cancel_delayed_work_sync`. -/
def delayedWork : Kind := ⟨true, true⟩

/-- Where the callback is: not running, or about to test the flag before
counting (`check`), to count, to test it before re-arming, or to re-arm. -/
inductive CallbackPc
  | idle
  | check
  | count
  | test
  | arm
  deriving DecidableEq, Repr

/-- Where a writer is in `start` (test the flag, set it, arm) or `stop`
(clear the flag, cancel; a work's cancel then waits). -/
inductive WriterPc
  | idle
  | startTest
  | startSet
  | startArm
  | stopSet
  | stopCancel
  | stopWait
  deriving DecidableEq, Repr

/-- The flag, the kernel object (armed or not, the cancels holding it, its
callback) and the callback's `atomic_t` count. -/
structure State where
  running : Bool
  pending : Bool
  cancels : ℕ
  callback : CallbackPc
  fires : ℤ
  writer : ℕ → WriterPc

/-- After the module's init: the flag clear, nothing armed. -/
def init : State := ⟨false, false, 0, .idle, 0, fun _ => .idle⟩

section Steps

variable (k : Kind)

/-- Arming: `mod_timer`, `hrtimer_start` and a restart always arm;
`schedule_delayed_work` does nothing while a cancel holds the work. -/
def armed (s : State) : Bool := if k.cancelBlocksArm ∧ s.cancels ≠ 0 then s.pending else true

/-- The object expires and its callback starts: the timer's softirq, or the
work's timer queuing it for a worker. A callback never runs twice at once. -/
def expire (s : State) : State :=
  if s.pending ∧ s.callback = .idle then
    { s with pending := false, callback := if k.testsFirst then .check else .count }
  else s

/-- The callback's next statement. -/
def callbackStep (s : State) : State :=
  match s.callback with
  | .idle => s
  | .check => { s with callback := if s.running then .count else .idle }
  | .count => { s with fires := intInc s.fires, callback := .test }
  | .test => { s with callback := if s.running then .arm else .idle }
  | .arm => { s with pending := armed k s, callback := .idle }

/-- Writer `w`'s next statement. A synchronous cancel waits (the state stays
as it is) while the callback runs. -/
def writerStep (s : State) (w : ℕ) : State :=
  match s.writer w with
  | .idle => s
  | .startTest => { s with writer := Function.update s.writer w (if s.running then .idle else .startSet) }
  | .startSet => { s with running := true, writer := Function.update s.writer w .startArm }
  | .startArm => { s with pending := armed k s, writer := Function.update s.writer w .idle }
  | .stopSet => { s with running := false, writer := Function.update s.writer w .stopCancel }
  | .stopCancel =>
    if k.cancelBlocksArm then
      { s with pending := false, cancels := s.cancels + 1, writer := Function.update s.writer w .stopWait }
    else if s.callback = .idle then
      { s with pending := false, writer := Function.update s.writer w .idle }
    else s
  | .stopWait =>
    if s.callback = .idle then
      { s with cancels := s.cancels - 1, writer := Function.update s.writer w .idle }
    else s

end Steps

/-- A command of `stats_write`. -/
inductive Cmd
  | start
  | stop
  deriving DecidableEq

/-- Writer `w` calls `start` or `stop`, if it is not inside a command. -/
def begin (s : State) (w : ℕ) (c : Cmd) : State :=
  if s.writer w = .idle then
    { s with writer := Function.update s.writer w (match c with | .start => .startTest | .stop => .stopSet) }
  else s

inductive Op
  | begin (w : ℕ) (c : Cmd)
  | writer (w : ℕ)
  | expire
  | callback
  deriving DecidableEq

def step (k : Kind) (s : State) : Op → State × Unit
  | .begin w c => (begin s w c, ())
  | .writer w => (writerStep k s w, ())
  | .expire => (expire k s, ())
  | .callback => (callbackStep k s, ())

/-- The writer an operation moves, if any. -/
def Op.writer? : Op → Option ℕ
  | .begin w _ | .writer w => some w
  | .expire | .callback => none

/-! ### What a step leaves alone -/

section Frame

variable (k : Kind) (s : State)

@[simp] theorem expire_running : (expire k s).running = s.running := by unfold expire; split <;> rfl
@[simp] theorem expire_cancels : (expire k s).cancels = s.cancels := by unfold expire; split <;> rfl
@[simp] theorem expire_writer : (expire k s).writer = s.writer := by unfold expire; split <;> rfl
@[simp] theorem expire_fires : (expire k s).fires = s.fires := by unfold expire; split <;> rfl

@[simp] theorem callbackStep_running : (callbackStep k s).running = s.running := by
  unfold callbackStep; split <;> rfl
@[simp] theorem callbackStep_cancels : (callbackStep k s).cancels = s.cancels := by
  unfold callbackStep; split <;> rfl
@[simp] theorem callbackStep_writer : (callbackStep k s).writer = s.writer := by
  unfold callbackStep; split <;> rfl

/-- A step moves no writer but its own. -/
theorem step_writer_of_ne {w : ℕ} :
    ∀ op : Op, op.writer? ≠ some w → (step k s op).1.writer w = s.writer w
  | .begin v c, hv => by
    have hw : w ≠ v := fun h => hv (by rw [h]; rfl)
    simp only [Periodic.step, begin]
    split_ifs <;> simp [Function.update_noteq hw]
  | .writer v, hv => by
    have hw : w ≠ v := fun h => hv (by rw [h]; rfl)
    simp only [Periodic.step, writerStep]
    split <;> (try split_ifs) <;> simp [Function.update_noteq hw]
  | .expire, _ => by simp [Periodic.step]
  | .callback, _ => by simp [Periodic.step]

/-- A run moves no writer but those of its operations. -/
theorem run_writer_of_ne {w : ℕ} (ops : List Op) (hops : ∀ op ∈ ops, op.writer? ≠ some w) :
    (run (step k) s ops).1.writer w = s.writer w :=
  run_inv_of_inputs (step k) (fun op => op.writer? ≠ some w) (fun t => t.writer w = s.writer w)
    (fun t op hop ht => (step_writer_of_ne k t op hop).trans ht) ops s hops rfl

end Frame

/-! ### One writer -/

/-- The object holds nothing armed and no callback runs. -/
def Dead (s : State) : Prop := s.pending = false ∧ s.callback = .idle

/-- The object is armed, or its callback is under way. -/
def Alive (s : State) : Prop := s.pending = true ∨ s.callback ≠ .idle

section Dead

variable {k : Kind} {s : State}

theorem Dead.expire (h : Dead s) : expire k s = s := by simp [Periodic.expire, h.1]

theorem Dead.callbackStep (h : Dead s) : callbackStep k s = s := by
  simp [Periodic.callbackStep, h.2]

end Dead

/-- Between commands: no cancel under way, and the flag says whether the
object is alive; an armed object has no callback running. -/
def Quiet (s : State) : Prop :=
  s.cancels = 0 ∧ (s.running = true → Alive s ∧ (s.pending = true → s.callback = .idle)) ∧
    (s.running = false → Dead s)

section Quiet

variable {k : Kind} {s : State}

theorem Quiet.expire (h : Quiet s) : Quiet (expire k s) := by
  obtain ⟨hc, hon, hoff⟩ := h
  refine ⟨by simpa using hc, fun hr => ?_, fun hr => ?_⟩
  · have hr' : s.running = true := by simpa using hr
    unfold Periodic.expire
    by_cases hp : s.pending = true ∧ s.callback = .idle
    · rw [if_pos hp]
      exact ⟨.inr (by cases k.testsFirst <;> simp), by simp⟩
    · rw [if_neg hp]
      exact hon hr'
  · rw [(hoff (by simpa using hr)).expire]
    exact hoff (by simpa using hr)

theorem Quiet.callbackStep (h : Quiet s) : Quiet (callbackStep k s) := by
  obtain ⟨hc, hon, hoff⟩ := h
  refine ⟨by simpa using hc, fun hr => ?_, fun hr => ?_⟩
  · have hr' : s.running = true := by simpa using hr
    obtain ⟨halive, hidle⟩ := hon hr'
    have hpf : s.callback ≠ .idle → s.pending = false := fun hcb => by
      cases hp : s.pending
      · rfl
      · exact absurd (hidle hp) hcb
    unfold Periodic.callbackStep
    split <;> rename_i hcb
    · exact ⟨halive, hidle⟩
    · simp only [hr', if_true]; exact ⟨.inr (by simp), fun hp => absurd hp (by simp [hpf (by simp [hcb])])⟩
    · exact ⟨.inr (by simp), fun hp => absurd hp (by simp [hpf (by simp [hcb])])⟩
    · simp only [hr', if_true]; exact ⟨.inr (by simp), fun hp => absurd hp (by simp [hpf (by simp [hcb])])⟩
    · simp only [armed, hc, ne_eq, not_true_eq_false, and_false, if_false]
      exact ⟨.inl rfl, fun _ => trivial⟩
  · rw [(hoff (by simpa using hr)).callbackStep]
    exact hoff (by simpa using hr)

end Quiet

/-- What holds at each statement of writer 0 when it is the only writer. -/
def PcInv (k : Kind) (s : State) : WriterPc → Prop
  | .idle | .startTest | .stopSet => Quiet s
  | .startSet => s.cancels = 0 ∧ s.running = false ∧ Dead s
  | .startArm => s.cancels = 0 ∧ s.running = true ∧ Dead s
  | .stopCancel => s.cancels = 0 ∧ s.running = false
  | .stopWait => k.cancelBlocksArm = true ∧ s.cancels = 1 ∧ s.running = false ∧ s.pending = false

/-- Writer 0 is the only writer, and `PcInv` holds at its statement. -/
structure SingleInv (k : Kind) (s : State) : Prop where
  others : ∀ w, w ≠ 0 → s.writer w = .idle
  pc : PcInv k s (s.writer 0)

theorem singleInv_init (k : Kind) : SingleInv k init :=
  ⟨fun _ _ => rfl, ⟨rfl, fun h => absurd h (by decide), fun _ => ⟨rfl, rfl⟩⟩⟩

/-- An operation of writer 0, or of the kernel object. -/
def Op.FromZero : Op → Prop
  | .begin w _ => w = 0
  | .writer w => w = 0
  | .expire | .callback => True

section Single

variable {k : Kind} {s : State}

/-- Writer 0 moved to `pc`, the others still idle. -/
theorem SingleInv.update (h : ∀ w, w ≠ 0 → s.writer w = .idle) {s' : State} {pc : WriterPc}
    (hs' : s'.writer = Function.update s.writer 0 pc) (hpc : PcInv k s' pc) : SingleInv k s' :=
  ⟨fun w hw => by rw [hs', Function.update_noteq hw, h w hw], by rwa [hs', Function.update_same]⟩

/-- The expiry and the callback keep what writer 0's statement needs. -/
theorem PcInv.object (h : PcInv k s (s.writer 0)) :
    PcInv k (expire k s) (s.writer 0) ∧ PcInv k (callbackStep k s) (s.writer 0) := by
  cases h0 : s.writer 0 <;> rw [h0] at h <;> simp only [PcInv] at h ⊢
  case idle | startTest | stopSet => exact ⟨h.expire, h.callbackStep⟩
  case startSet | startArm => rw [h.2.2.expire, h.2.2.callbackStep]; exact ⟨h, h⟩
  case stopCancel => simpa using h
  case stopWait =>
    obtain ⟨hb, hc, hr, hp⟩ := h
    refine ⟨⟨hb, by simpa using hc, by simpa using hr, ?_⟩, ⟨hb, by simpa using hc, by simpa using hr, ?_⟩⟩
    · simp [Periodic.expire, hp]
    · unfold Periodic.callbackStep
      split <;> simp [hp, armed, hb, hc]

/-- Writer 0's own statements keep `SingleInv`. -/
theorem SingleInv.writerStep (h : SingleInv k s) : SingleInv k (writerStep k s 0) := by
  obtain ⟨hw, hpc⟩ := h
  unfold Periodic.writerStep
  cases h0 : s.writer 0 <;> rw [h0] at hpc <;> simp only [PcInv] at hpc <;> dsimp only
  case idle => exact ⟨hw, by rw [h0]; exact hpc⟩
  case startTest =>
    by_cases hr : s.running = true
    · rw [if_pos hr]
      exact SingleInv.update hw rfl hpc
    · rw [if_neg hr]
      simp only [Bool.not_eq_true] at hr
      exact SingleInv.update hw rfl ⟨hpc.1, hr, hpc.2.2 hr⟩
  case startSet => exact SingleInv.update hw rfl ⟨hpc.1, rfl, hpc.2.2⟩
  case startArm =>
    refine SingleInv.update hw rfl ⟨hpc.1, fun _ => ⟨.inl ?_, fun _ => hpc.2.2.2⟩, fun hr => ?_⟩
    · simp [armed, hpc.1]
    · rw [show s.running = false from hr] at hpc
      simp at hpc
  case stopSet => exact SingleInv.update hw rfl ⟨hpc.1, rfl⟩
  case stopCancel =>
    cases hb : k.cancelBlocksArm
    · simp only [Bool.false_eq_true, if_false]
      split_ifs with hcb
      · refine SingleInv.update hw rfl ⟨hpc.1, fun hr => ?_, fun _ => ⟨rfl, hcb⟩⟩
        rw [show s.running = true from hr] at hpc
        simp at hpc
      · exact ⟨hw, by rw [h0]; exact hpc⟩
    · simp only [if_true]
      exact SingleInv.update hw rfl ⟨hb, by simp [hpc.1], hpc.2, rfl⟩
  case stopWait =>
    split_ifs with hcb
    · refine SingleInv.update hw rfl ⟨by simp [hpc.2.1], fun hr => ?_, fun _ => ⟨hpc.2.2.2, hcb⟩⟩
      rw [show s.running = true from hr] at hpc
      simp at hpc
    · exact ⟨hw, by rw [h0]; exact hpc⟩

/-- **Every step of writer 0 and of the object keeps `SingleInv`.** -/
theorem SingleInv.step (h : SingleInv k s) : ∀ op, op.FromZero → SingleInv k (step k s op).1
  | .begin w c, hw => by
    cases hw
    simp only [Periodic.step, begin]
    split_ifs with h0
    · have hq := h.pc
      rw [h0] at hq
      exact SingleInv.update h.others rfl (by cases c <;> exact hq)
    · exact h
  | .writer w, hw => by cases hw; exact h.writerStep
  | .expire, _ => by
    simp only [Periodic.step]
    exact ⟨fun w hw => by simpa using h.others w hw, by simpa using (PcInv.object h.pc).1⟩
  | .callback, _ => by
    simp only [Periodic.step]
    exact ⟨fun w hw => by simpa using h.others w hw, by simpa using (PcInv.object h.pc).2⟩

end Single

/-- **With one writer, the flag tells the truth.** In every run of writer
0's `start` and `stop` commands, interleaved in any way with the object's
expiries and its callback, whenever the writer is between commands: the flag
set, the object is armed or its callback is under way (and will re-arm it);
the flag clear, nothing is armed and no callback runs. -/
theorem flag_truthful (k : Kind) (ops : List Op) (hops : ∀ op ∈ ops, op.FromZero)
    (h0 : (run (step k) init ops).1.writer 0 = .idle) :
    ((run (step k) init ops).1.running = true → Alive (run (step k) init ops).1) ∧
      ((run (step k) init ops).1.running = false → Dead (run (step k) init ops).1) := by
  have h := run_inv_of_inputs (step k) Op.FromZero (SingleInv k) (fun _ op hop h => h.step op hop) ops
    init hops (singleInv_init k)
  have hq := h.pc
  rw [h0] at hq
  exact ⟨fun hr => (hq.2.1 hr).1, hq.2.2⟩

/-! ### Two writers -/

/-- The flag set and the object dead, with no cancel under way and every
writer between commands or about to test the flag. -/
def Stuck (s : State) : Prop :=
  s.running = true ∧ Dead s ∧ s.cancels = 0 ∧ ∀ w, s.writer w = .idle ∨ s.writer w = .startTest

/-- Every operation but a `stop` keeps a stuck object stuck, and never runs
its callback: a `start` finds the flag set and returns. -/
theorem Stuck.step {k : Kind} {s : State} (h : Stuck s) (op : Op) (hop : ∀ w, op ≠ .begin w .stop) :
    Stuck (step k s op).1 ∧ (step k s op).1.fires = s.fires := by
  obtain ⟨hr, hd, hc, hw⟩ := h
  cases op with
  | begin w c =>
    cases c
    · simp only [Periodic.step, begin]
      split_ifs
      · refine ⟨⟨hr, hd, hc, fun v => ?_⟩, rfl⟩
        by_cases hv : v = w
        · subst hv; simp
        · simp [Function.update_noteq hv, hw v]
      · exact ⟨⟨hr, hd, hc, hw⟩, rfl⟩
    · exact absurd rfl (hop w)
  | writer w =>
    simp only [Periodic.step, writerStep]
    rcases hw w with h0 | h0 <;> simp only [h0, hr, if_true]
    · exact ⟨⟨hr, hd, hc, hw⟩, trivial⟩
    · refine ⟨⟨rfl, hd, hc, fun v => ?_⟩, trivial⟩
      by_cases hv : v = w
      · subst hv; simp
      · simp [Function.update_noteq hv, hw v]
  | expire => simp only [Periodic.step, hd.expire]; exact ⟨⟨hr, hd, hc, hw⟩, trivial⟩
  | callback => simp only [Periodic.step, hd.callbackStep]; exact ⟨⟨hr, hd, hc, hw⟩, trivial⟩

/-- Writer 0 starts, then writer 1's `stop` and writer 0's second `start`
overlap: the stop clears the flag, the start sees it clear, sets it and arms,
and the stop's cancel then disarms what the start armed. -/
def raceOps : List Op :=
  [.begin 0 .start, .writer 0, .writer 0, .writer 0,
    .begin 1 .stop, .writer 1, .begin 0 .start, .writer 0, .writer 0, .writer 0, .writer 1, .writer 1]

/-- **An overlapping `start` and `stop` stop the callback for good.** For
each of the three objects, the run `raceOps` of two writers ends with the
flag set and nothing armed; and from such a state no sequence of operations
without a `stop` (any `start`s, any expiries) runs the callback again or
changes its count, while `stats_show` keeps saying it is running. -/
theorem start_stop_race (k : Kind) :
    Stuck (run (step k) init raceOps).1 ∧
      ∀ s, Stuck s → ∀ ops : List Op, (∀ op ∈ ops, ∀ w, op ≠ .begin w .stop) →
        Stuck (run (step k) s ops).1 ∧ (run (step k) s ops).1.fires = s.fires := by
  refine ⟨?_, fun s hs ops hops => ?_⟩
  · obtain ⟨b, t⟩ := k
    cases b <;> cases t <;> refine ⟨?_, ⟨?_, ?_⟩, ?_, fun w => .inl ?_⟩
    all_goals first | decide | rcases w with _ | _ | w
    all_goals first | decide | exact run_writer_of_ne _ init _ (by simp [raceOps, Op.writer?])
  · exact run_inv_of_inputs (step k) (fun op => ∀ w, op ≠ .begin w .stop)
      (fun s' => Stuck s' ∧ s'.fires = s.fires)
      (fun s' op hop h => ⟨(h.1.step op hop).1, (h.1.step op hop).2.trans h.2⟩) ops s hops ⟨hs, rfl⟩

end Periodic
end DriverGuide
