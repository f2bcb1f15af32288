/-
# The GPIO demo controller: its lines are independent

`part9/gpio-driver/gpio_chip_demo.c` keeps six virtual `u32` registers, one
bit per line in each. Every line operation and every IRQ-chip callback
changes its own line's bit with `|= BIT(offset)` or `&= ~BIT(offset)`,
`set_multiple` writes `(data & ~mask) | (bits & mask)`, and the debugfs write
simulates an input change on the pin it parses from `"%u %u"`, refusing lines
configured as output.

So an operation leaves every line it does not name as it was, in all six
registers (`gpioStep_frame`); `set_multiple` changes exactly the masked data
bits (`setMultiple_regData`); the data bit of a line is the last value written
to it, or the 0 of probe (`run_regData`, `gpio_lines_independent`); and a
debugfs write never changes an output line (`debugfsWrite_output`).

Not covered: the gpiolib and IRQ cores, which call the chip with an offset
below `ngpio`; this is taken as given (offsets are `Fin numGpios`). The
debugfs table, which only reads the registers, is left out. `BIT()` is an
`unsigned long`; on an offset below 32 its 32-bit form gives the same bits.

Key definitions: `DemoGpio`, `bit`, `sscanfPinValue`, `demoGpioDebugfsWrite`,
`gpioStep`, `lineBits`, `dataWrite`.
Key theorems: `gpioStep_frame`, `gpioStep_regData`, `run_regData`,
`debugfsWrite_output`, `gpio_lines_independent`.
-/
import DriverGuide.Basic

namespace DriverGuide
namespace Gpio

/-! ### Registers and bits -/

/-- The virtual registers of `struct demo_gpio`. -/
structure DemoGpio where
  regData : BitVec 32
  regDir : BitVec 32
  regIrqEn : BitVec 32
  regIrqType : BitVec 32
  regIrqPol : BitVec 32
  regIrqStatus : BitVec 32
  deriving DecidableEq

/-- `NUM_GPIOS`. -/
def numGpios : ℕ := 8

/-- `BIT(nr)`. -/
def bit (nr : ℕ) : BitVec 32 := BitVec.twoPow 32 nr

/-- `reg |= BIT(nr)`. -/
def setBit (reg : BitVec 32) (nr : ℕ) : BitVec 32 := reg ||| bit nr

/-- `reg &= ~BIT(nr)`. -/
def clearBit (reg : BitVec 32) (nr : ℕ) : BitVec 32 := reg &&& ~~~bit nr

/-- `if (value) reg |= BIT(nr); else reg &= ~BIT(nr);` -/
def assignBit (reg : BitVec 32) (nr : ℕ) (value : Bool) : BitVec 32 :=
  if value then setBit reg nr else clearBit reg nr

@[simp] theorem getLsbD_assignBit (reg : BitVec 32) (nr : ℕ) (value : Bool) (q : ℕ) :
    (assignBit reg nr value).getLsbD q = if nr = q ∧ nr < 32 then value else reg.getLsbD q := by
  rcases Nat.lt_or_ge q 32 with hq | hq
  · by_cases h : nr = q
    · subst h
      cases value <;> simp [assignBit, setBit, clearBit, bit, hq]
    · have hb : (bit nr).getLsbD q = false := by simp [bit, h]
      cases value <;> simp [assignBit, setBit, clearBit, hb, h, hq]
  · rw [BitVec.getLsbD_ge _ _ hq, BitVec.getLsbD_ge _ _ hq, if_neg (by omega)]

theorem setBit_eq (reg : BitVec 32) (nr : ℕ) : setBit reg nr = assignBit reg nr true := rfl

theorem clearBit_eq (reg : BitVec 32) (nr : ℕ) : clearBit reg nr = assignBit reg nr false := rfl

/-- `!(reg & BIT(nr))` tests the bit. -/
theorem and_bit_eq_zero {reg : BitVec 32} {nr : ℕ} (h : nr < 32) :
    reg &&& bit nr = 0 ↔ reg.getLsbD nr = false := by
  constructor
  · intro e
    simpa [bit, h] using congrArg (BitVec.getLsbD · nr) e
  · intro e
    apply BitVec.eq_of_getLsbD_eq
    intro i
    by_cases hi : nr = i.val <;> simp [bit, hi] at e ⊢
    exact e

/-! ### The chip's operations -/

/-- `demo_gpio_probe`: every register 0, every line an input. -/
def demoGpioProbe : DemoGpio := ⟨0, 0, 0, 0, 0, 0⟩

/-- `demo_gpio_get_direction`: 1 for an input, 0 for an output. -/
def demoGpioGetDirection (gpio : DemoGpio) (offset : ℕ) : ℤ :=
  if gpio.regDir &&& bit offset = 0 then 1 else 0

/-- `demo_gpio_direction_input`. -/
def demoGpioDirectionInput (gpio : DemoGpio) (offset : ℕ) : DemoGpio :=
  { gpio with regDir := clearBit gpio.regDir offset }

/-- `demo_gpio_direction_output`: the value first, then the direction. -/
def demoGpioDirectionOutput (gpio : DemoGpio) (offset : ℕ) (value : ℤ) : DemoGpio :=
  { gpio with regData := assignBit gpio.regData offset (value ≠ 0),
              regDir := setBit gpio.regDir offset }

/-- `demo_gpio_get`. -/
def demoGpioGet (gpio : DemoGpio) (offset : ℕ) : ℤ :=
  if gpio.regData &&& bit offset = 0 then 0 else 1

/-- `demo_gpio_set`. -/
def demoGpioSet (gpio : DemoGpio) (offset : ℕ) (value : ℤ) : DemoGpio :=
  { gpio with regData := assignBit gpio.regData offset (value ≠ 0) }

/-- `demo_gpio_set_multiple`, with `unsigned long` mask and bits: the
expression is computed in 64 bits and stored in the `u32`. -/
def demoGpioSetMultiple (gpio : DemoGpio) (mask bits : BitVec 64) : DemoGpio :=
  { gpio with regData := ((gpio.regData.setWidth 64 &&& ~~~mask) ||| (bits &&& mask)).setWidth 32 }

/-- `demo_gpio_get_multiple`: the bits it stores. -/
def demoGpioGetMultiple (gpio : DemoGpio) (mask : BitVec 64) : BitVec 64 :=
  gpio.regData.setWidth 64 &&& mask

/-- `demo_irq_mask`. -/
def demoIrqMask (gpio : DemoGpio) (hwirq : ℕ) : DemoGpio :=
  { gpio with regIrqEn := clearBit gpio.regIrqEn hwirq }

/-- `demo_irq_unmask`. -/
def demoIrqUnmask (gpio : DemoGpio) (hwirq : ℕ) : DemoGpio :=
  { gpio with regIrqEn := setBit gpio.regIrqEn hwirq }

/-- The cases of the `switch` in `demo_irq_set_type`: (edge, rising or high)
for `IRQ_TYPE_EDGE_RISING`, `IRQ_TYPE_EDGE_FALLING`, `IRQ_TYPE_LEVEL_HIGH` and
`IRQ_TYPE_LEVEL_LOW`. -/
def irqTypeBits : ℕ → Option (Bool × Bool)
  | 1 => some (true, true)
  | 2 => some (true, false)
  | 4 => some (false, true)
  | 8 => some (false, false)
  | _ => none

/-- `demo_irq_set_type`. -/
def demoIrqSetType (gpio : DemoGpio) (hwirq type : ℕ) : DemoGpio × ℤ :=
  match irqTypeBits type with
  | some (edge, high) =>
    ({ gpio with regIrqType := assignBit gpio.regIrqType hwirq edge,
                 regIrqPol := assignBit gpio.regIrqPol hwirq high }, 0)
  | none => (gpio, -EINVAL)

/-- `demo_irq_ack`. -/
def demoIrqAck (gpio : DemoGpio) (hwirq : ℕ) : DemoGpio :=
  { gpio with regIrqStatus := clearBit gpio.regIrqStatus hwirq }

/-! ### The debugfs write -/

/-- `isspace`: the `_S` bytes of `lib/ctype.c`, that is `\t`, `\n`, `\v`,
`\f`, `\r`, the space and the non-breaking space `0xA0`. -/
def isSpace (c : UInt8) : Bool := c = 32 ∨ 9 ≤ c ∧ c ≤ 13 ∨ c = 0xA0

/-- `isdigit`. -/
def isDigit (c : UInt8) : Bool := 48 ≤ c ∧ c ≤ 57

/-- One `%u` of `vsscanf`: white space, then at least one decimal digit;
`simple_strntoull` accumulates modulo `2^64` and the `unsigned int` keeps the
low 32 bits. The value and the rest of the string. -/
def scanUnsigned (s : List UInt8) : Option (ℕ × List UInt8) :=
  match s.dropWhile isSpace with
  | c :: cs =>
    if isDigit c then
      let ds := (c :: cs).takeWhile isDigit
      some (ds.foldl (fun v d => (10 * v + (d.toNat - 48)) % 2 ^ 64) 0 % 2 ^ 32,
        (c :: cs).drop ds.length)
    else none
  | [] => none

/-- `sscanf(buf, "%u %u", &pin, &value) == 2`: the white space of the format
matches any white space; the second `%u` skips it again. -/
def sscanfPinValue (s : List UInt8) : Option (ℕ × ℕ) := do
  let (pin, rest) ← scanUnsigned s
  let (value, _) ← scanUnsigned rest
  pure (pin, value)

/-- The command a debugfs write of `count` bytes of `buf` carries. -/
def debugfsCommand (buf : UserBuf) (count : ℕ) : Option (ℕ × ℕ) :=
  sscanfPinValue (cString (buf.readable.take count))

/-- `demo_gpio_debugfs_write`. -/
def demoGpioDebugfsWrite (gpio : DemoGpio) (buf : UserBuf) (count : ℕ) : DemoGpio × ℤ :=
  if count ≥ 32 then (gpio, -EINVAL)
  else if buf.readable.length < count then (gpio, -EFAULT)
  else
    match debugfsCommand buf count with
    | none => (gpio, -EINVAL)
    | some (pin, value) =>
      if pin ≥ numGpios then (gpio, -EINVAL)
      else if gpio.regDir &&& bit pin = 0 then
        ({ gpio with regData := assignBit gpio.regData pin (value ≠ 0) }, (count : ℤ))
      else (gpio, -EPERM)

example : debugfsCommand ⟨asciiBytes " 3  1\n"⟩ 6 = some (3, 1) := by decide

/-- Whether a debugfs write of `count` bytes of `buf` that names `pin` is
accepted: fewer than 32 bytes, all of them readable, a pin below `NUM_GPIOS`,
and that line an input. -/
def debugfsAccepts (gpio : DemoGpio) (buf : UserBuf) (count pin : ℕ) : Bool :=
  count < 32 ∧ count ≤ buf.readable.length ∧ pin < numGpios ∧ gpio.regDir.getLsbD pin = false

/-- **A debugfs write, by its input.** Either its command parses to a pin it
accepts, and it sets that line's data bit and returns `count`; or it fails
and changes nothing. -/
theorem demoGpioDebugfsWrite_cases (gpio : DemoGpio) (buf : UserBuf) (count : ℕ) :
    ((demoGpioDebugfsWrite gpio buf count).1 = gpio ∧ (demoGpioDebugfsWrite gpio buf count).2 < 0 ∧
        ∀ pin value, debugfsCommand buf count = some (pin, value) →
          debugfsAccepts gpio buf count pin = false) ∨
      ∃ pin value, debugfsCommand buf count = some (pin, value) ∧
        debugfsAccepts gpio buf count pin = true ∧
        demoGpioDebugfsWrite gpio buf count =
          ({ gpio with regData := assignBit gpio.regData pin (value ≠ 0) }, (count : ℤ)) := by
  have refused : ∀ {e : ℤ}, 0 < e → (∀ pin, debugfsAccepts gpio buf count pin = false) →
      (gpio, -e).1 = gpio ∧ (gpio, -e).2 < 0 ∧
        ∀ pin value, debugfsCommand buf count = some (pin, value) →
          debugfsAccepts gpio buf count pin = false :=
    fun he hp => ⟨rfl, Int.neg_neg_of_pos he, fun pin _ _ => hp pin⟩
  unfold demoGpioDebugfsWrite
  split_ifs with h1 h2
  · exact .inl (refused (by decide) fun _ => by simp [debugfsAccepts]; omega)
  · exact .inl (refused (by decide) fun _ => by simp [debugfsAccepts]; omega)
  rcases hc : debugfsCommand buf count with _ | ⟨pin, value⟩
  · exact .inl ⟨rfl, Int.neg_neg_of_pos (by decide), fun _ _ h => nomatch h⟩
  dsimp only
  have only : ∀ {e : ℤ}, 0 < e → debugfsAccepts gpio buf count pin = false →
      (gpio, -e).1 = gpio ∧ (gpio, -e).2 < 0 ∧
        ∀ pin' value', some (pin, value) = some (pin', value') →
          debugfsAccepts gpio buf count pin' = false := fun he hp =>
    ⟨rfl, Int.neg_neg_of_pos he, fun _ _ h => by cases h; exact hp⟩
  split_ifs with h3 h4
  · exact .inl (only (by decide) (by simp [debugfsAccepts]; omega))
  · have hp : pin < 32 := by simp only [numGpios] at h3; omega
    exact .inr ⟨pin, value, rfl, by simp [debugfsAccepts, (and_bit_eq_zero hp).mp h4]; omega, rfl⟩
  · have hp : pin < 32 := by simp only [numGpios] at h3; omega
    exact .inl (only (by decide) (by simp [debugfsAccepts, mt (and_bit_eq_zero hp).mpr h4]))

/-! ### Runs

The gpiolib and IRQ cores' calls, with offsets below `NUM_GPIOS`, and writes
to the debugfs file. -/

inductive GpioOp
  | getDirection (offset : Fin numGpios)
  | directionInput (offset : Fin numGpios)
  | directionOutput (offset : Fin numGpios) (value : ℤ)
  | get (offset : Fin numGpios)
  | set (offset : Fin numGpios) (value : ℤ)
  | setMultiple (mask bits : BitVec 64)
  | getMultiple (mask : BitVec 64)
  | irqMask (hwirq : Fin numGpios)
  | irqUnmask (hwirq : Fin numGpios)
  | irqSetType (hwirq : Fin numGpios) (type : ℕ)
  | irqAck (hwirq : Fin numGpios)
  | debugfsWrite (buf : UserBuf) (count : ℕ)

/-- What a call hands back: its return value, the bits `get_multiple`
stores, or nothing for the `void` callbacks. -/
inductive GpioOut
  | ret (r : ℤ)
  | bits (b : BitVec 64)
  | done

def gpioStep (gpio : DemoGpio) : GpioOp → DemoGpio × GpioOut
  | .getDirection o => (gpio, .ret (demoGpioGetDirection gpio o))
  | .directionInput o => (demoGpioDirectionInput gpio o, .ret 0)
  | .directionOutput o value => (demoGpioDirectionOutput gpio o value, .ret 0)
  | .get o => (gpio, .ret (demoGpioGet gpio o))
  | .set o value => (demoGpioSet gpio o value, .done)
  | .setMultiple mask bits => (demoGpioSetMultiple gpio mask bits, .done)
  | .getMultiple mask => (gpio, .bits (demoGpioGetMultiple gpio mask))
  | .irqMask o => (demoIrqMask gpio o, .done)
  | .irqUnmask o => (demoIrqUnmask gpio o, .done)
  | .irqSetType o type => let r := demoIrqSetType gpio o type; (r.1, .ret r.2)
  | .irqAck o => (demoIrqAck gpio o, .done)
  | .debugfsWrite buf count => let r := demoGpioDebugfsWrite gpio buf count; (r.1, .ret r.2)

/-! ### Every other line is left alone -/

/-- Line `q`'s bit in each of the six registers. -/
def lineBits (gpio : DemoGpio) (q : ℕ) : List Bool :=
  [gpio.regData.getLsbD q, gpio.regDir.getLsbD q, gpio.regIrqEn.getLsbD q,
    gpio.regIrqType.getLsbD q, gpio.regIrqPol.getLsbD q, gpio.regIrqStatus.getLsbD q]

/-- The lines an operation names: its own offset, the lines of its mask, or
the pin of a debugfs write. The reads name none. -/
def GpioOp.names (op : GpioOp) (q : ℕ) : Bool :=
  match op with
  | .directionInput o | .directionOutput o _ | .set o _ | .irqMask o | .irqUnmask o
  | .irqSetType o _ | .irqAck o => o.val = q
  | .setMultiple mask _ => mask.getLsbD q
  | .debugfsWrite buf count =>
    match debugfsCommand buf count with
    | some (pin, _) => pin = q
    | none => false
  | .getDirection _ | .get _ | .getMultiple _ => false

theorem lineBits_assign_data (gpio : DemoGpio) {nr q : ℕ} (h : nr ≠ q) (v : Bool) :
    lineBits { gpio with regData := assignBit gpio.regData nr v } q = lineBits gpio q := by
  simp [lineBits, h]

/-- `set_multiple` sets the masked data bits to those of `bits` and keeps the
others. -/
theorem setMultiple_regData (gpio : DemoGpio) (mask bits : BitVec 64) {q : ℕ} (hq : q < 32) :
    (demoGpioSetMultiple gpio mask bits).regData.getLsbD q =
      if mask.getLsbD q then bits.getLsbD q else gpio.regData.getLsbD q := by
  cases hm : mask.getLsbD q <;> simp [demoGpioSetMultiple, hq, hm]

/-- **Frame.** An operation leaves every line it does not name as it was, in
all six registers. -/
theorem gpioStep_frame (gpio : DemoGpio) (op : GpioOp) (q : ℕ) (h : op.names q = false) :
    lineBits (gpioStep gpio op).1 q = lineBits gpio q := by
  cases op with
  | getDirection | get | getMultiple => rfl
  | setMultiple mask bits =>
    simp only [GpioOp.names] at h
    rcases Nat.lt_or_ge q 32 with hq | hq
    · simp only [gpioStep, lineBits, setMultiple_regData gpio mask bits hq, h]
      rfl
    · simp only [gpioStep, demoGpioSetMultiple, lineBits, BitVec.getLsbD_ge _ _ hq]
  | irqSetType o type =>
    simp only [GpioOp.names, decide_eq_false_iff_not] at h
    simp only [gpioStep, demoIrqSetType]
    split <;> simp [lineBits, h]
  | debugfsWrite buf count =>
    rcases demoGpioDebugfsWrite_cases gpio buf count with ⟨he, -⟩ | ⟨pin, value, hc, -, he⟩
    · simp only [gpioStep, he]
    · simp only [GpioOp.names, hc, decide_eq_false_iff_not] at h
      simp only [gpioStep, he, lineBits_assign_data gpio h]
  | _ =>
    simp only [GpioOp.names, decide_eq_false_iff_not] at h
    simp [gpioStep, demoGpioDirectionInput, demoGpioDirectionOutput, demoGpioSet, demoIrqMask,
      demoIrqUnmask, demoIrqAck, setBit_eq, clearBit_eq, lineBits, h]

/-! ### The data bit is the last value written -/

/-- The value an operation writes to line `p`'s data bit in state `gpio`:
`set` and `direction_output` on `p`, `set_multiple` with `p` in its mask, and
a debugfs write on `p` that succeeds. -/
def dataWrite (gpio : DemoGpio) (op : GpioOp) (p : ℕ) : Option Bool :=
  match op with
  | .set o value | .directionOutput o value => if o.val = p then some (value ≠ 0) else none
  | .setMultiple mask bits => if mask.getLsbD p then some (bits.getLsbD p) else none
  | .debugfsWrite buf count =>
    match debugfsCommand buf count with
    | some (pin, value) => if pin = p ∧ debugfsAccepts gpio buf count pin then some (value ≠ 0) else none
    | none => none
  | _ => none

/-- One step: the data bit of `p` is what the step writes there, or what it was. -/
theorem gpioStep_regData (gpio : DemoGpio) (op : GpioOp) {p : ℕ} (hp : p < 32) :
    (gpioStep gpio op).1.regData.getLsbD p = (dataWrite gpio op p).getD (gpio.regData.getLsbD p) := by
  cases op with
  | set o value | directionOutput o value =>
    have : o.val < 32 := by have := o.isLt; simp only [numGpios] at this; omega
    by_cases ho : o.val = p <;>
      simp [gpioStep, dataWrite, demoGpioSet, demoGpioDirectionOutput, ho, this, hp]
  | setMultiple mask bits =>
    rw [gpioStep, setMultiple_regData gpio mask bits hp, dataWrite]
    cases mask.getLsbD p <;> rfl
  | debugfsWrite buf count =>
    rcases demoGpioDebugfsWrite_cases gpio buf count with ⟨he, -, hr⟩ | ⟨pin, value, hc, ha, he⟩
    · simp only [gpioStep, he, dataWrite]
      split
      · next pin value hc => simp [hr pin value hc]
      · rfl
    · have : pin < 32 := by simp only [debugfsAccepts, numGpios, decide_eq_true_eq] at ha; omega
      by_cases hq : pin = p
      · subst hq
        simp [gpioStep, he, dataWrite, hc, ha, this]
      · simp [gpioStep, he, dataWrite, hc, hq, this, hp]
  | irqSetType o type =>
    simp only [gpioStep, demoIrqSetType, dataWrite]
    split <;> rfl
  | _ => rfl

/-- The data bits a run writes to line `p`, in order, each op in the state it
runs in. -/
def dataWrites (p : ℕ) : DemoGpio → List GpioOp → List Bool
  | _, [] => []
  | gpio, op :: ops => (dataWrite gpio op p).toList ++ dataWrites p (gpioStep gpio op).1 ops

theorem getLast?_toList_append {α : Type} (o : Option α) (l : List α) (x : α) :
    (o.toList ++ l).getLast?.getD x = l.getLast?.getD (o.getD x) := by
  rw [List.getLast?_append]
  cases l.getLast? <;> cases o <;> rfl

/-- **The data bit of a line is the last value written to it**, or its value at
the start of the run if nothing wrote it. -/
theorem run_regData {p : ℕ} (hp : p < 32) :
    ∀ (gpio : DemoGpio) (ops : List GpioOp),
      (run gpioStep gpio ops).1.regData.getLsbD p =
        (dataWrites p gpio ops).getLast?.getD (gpio.regData.getLsbD p)
  | _, [] => rfl
  | gpio, op :: ops => by
    rw [run_cons, run_regData hp _ ops, dataWrites, getLast?_toList_append,
      gpioStep_regData gpio op hp]

/-- A debugfs write leaves the data bit of an output line alone. -/
theorem debugfsWrite_output (gpio : DemoGpio) (buf : UserBuf) (count : ℕ) {p : ℕ}
    (h : gpio.regDir.getLsbD p = true) :
    (gpioStep gpio (.debugfsWrite buf count)).1.regData.getLsbD p = gpio.regData.getLsbD p := by
  rcases demoGpioDebugfsWrite_cases gpio buf count with ⟨he, -⟩ | ⟨pin, value, -, ha, he⟩
  · simp only [gpioStep, he]
  · have hdir : gpio.regDir.getLsbD pin = false := by
      simp only [debugfsAccepts, decide_eq_true_eq] at ha; exact ha.2.2.2
    have hne : pin ≠ p := fun e => by rw [e, h] at hdir; cases hdir
    simp [gpioStep, he, hne]

/-- **The lines are independent.** From any state: an operation leaves the
six register bits of every line it does not name unchanged; `set_multiple`
changes exactly the masked data bits; a debugfs write never changes the data
bit of an output line. And after any run from probe, `get(p)` returns the last
data bit written to `p` by `set`, `direction_output`, `set_multiple` or a
debugfs write it accepts (`debugfsAccepts`), or 0. -/
theorem gpio_lines_independent :
    (∀ gpio (op : GpioOp) q, op.names q = false → lineBits (gpioStep gpio op).1 q = lineBits gpio q) ∧
    (∀ gpio mask bits q, q < 32 → (gpioStep gpio (.setMultiple mask bits)).1.regData.getLsbD q =
        if mask.getLsbD q then bits.getLsbD q else gpio.regData.getLsbD q) ∧
    (∀ gpio buf count p, gpio.regDir.getLsbD p = true →
      (gpioStep gpio (.debugfsWrite buf count)).1.regData.getLsbD p = gpio.regData.getLsbD p) ∧
    ∀ ops (p : Fin numGpios), demoGpioGet (run gpioStep demoGpioProbe ops).1 p =
      if (dataWrites p demoGpioProbe ops).getLast?.getD false then 1 else 0 := by
  refine ⟨gpioStep_frame, fun gpio mask bits _ hq => setMultiple_regData gpio mask bits hq,
    fun gpio buf count _ h => debugfsWrite_output gpio buf count h, fun ops p => ?_⟩
  have hp : p.val < 32 := by have := p.isLt; simp only [numGpios] at this; omega
  have hrun := run_regData hp demoGpioProbe ops
  rw [show demoGpioProbe.regData.getLsbD p = false from BitVec.getLsbD_zero] at hrun
  rw [demoGpioGet, ← hrun]
  by_cases hb : (run gpioStep demoGpioProbe ops).1.regData.getLsbD p
  · rw [if_neg (mt (and_bit_eq_zero hp).mp (by simp [hb])), if_pos hb]
  · rw [if_pos ((and_bit_eq_zero hp).mpr (by simpa using hb)), if_neg hb]

/-- From probe, a debugfs write of `"3 1\n"` is accepted and sets line 3,
which `get` then reads as 1. -/
theorem gpio_debugfs_write_reads_back :
    debugfsAccepts demoGpioProbe ⟨asciiBytes "3 1\n"⟩ 4 3 = true ∧
      demoGpioGet (run gpioStep demoGpioProbe [.debugfsWrite ⟨asciiBytes "3 1\n"⟩ 4]).1
        (⟨3, by decide⟩ : Fin numGpios) = 1 :=
  ⟨by decide, (gpio_lines_independent.2.2.2 [.debugfsWrite ⟨asciiBytes "3 1\n"⟩ 4] ⟨3, by decide⟩).trans
    (by decide)⟩

end Gpio
end DriverGuide
