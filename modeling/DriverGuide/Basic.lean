/-
# What the driver models share

Each example of the guide is a module of its own; what they share is the C
they are written in and the kernel calls they make. They are fixed here once:
the errno values, `loff_t` arithmetic (it wraps: the kernel is built with
`-fno-strict-overflow`), the byte arrays the drivers keep and the
`memcpy`/`memset` on them, `copy_from_user` and `copy_to_user` on a user buffer
that may fault, and the run of a driver on a list of operations.

Key definitions: `loff`, `writeBytes`, `readBytes`, `UserBuf`, `copyFromUser`,
`copyToUser`, `run`.
Key theorems: `readBytes_writeBytes`, `writeBytes_of_lt`, `writeBytes_of_ge`,
`run_sim`.
-/
import Mathlib

namespace DriverGuide

/-! ### Errno values and C arithmetic -/

def EPERM : ℤ := 1
def EIO : ℤ := 5
def E2BIG : ℤ := 7
def ENXIO : ℤ := 6
def ENOMEM : ℤ := 12
def EFAULT : ℤ := 14
def EBUSY : ℤ := 16
def ENODEV : ℤ := 19
def EINVAL : ℤ := 22
def ENOTTY : ℤ := 25
def ENOSPC : ℤ := 28
def ERANGE : ℤ := 34
def ETIMEDOUT : ℤ := 110

/-- A value of a signed 64-bit type (`loff_t`, `long long`): the integer taken
modulo `2^64` into `[-2^63, 2^63)`. -/
def loff (x : ℤ) : ℤ := (x + 2 ^ 63) % 2 ^ 64 - 2 ^ 63

/-- A `loff_t` converted to `size_t` (C's usual arithmetic conversions in a
comparison of the two): modulo `2^64`. -/
def toSizeT (x : ℤ) : ℕ := (x % 2 ^ 64).toNat

theorem loff_of_mem {x : ℤ} (h₀ : -2 ^ 63 ≤ x) (h₁ : x < 2 ^ 63) : loff x = x := by
  unfold loff
  rw [Int.emod_eq_of_lt (by omega) (by omega)]
  omega

theorem loff_lt (x : ℤ) : loff x < 2 ^ 63 := by
  unfold loff
  have := Int.emod_lt_of_pos (x + 2 ^ 63) (by omega : (0 : ℤ) < 2 ^ 64)
  omega

theorem toSizeT_of_nonneg {x : ℤ} (h₀ : 0 ≤ x) (h₁ : x < 2 ^ 64) : (toSizeT x : ℤ) = x := by
  unfold toSizeT
  rw [Int.emod_eq_of_lt h₀ h₁, Int.toNat_of_nonneg h₀]

/-- A property of every file's position survives setting one of them to a
value that has it. -/
theorem forall_update {P : ℤ → Prop} {fpos : ℕ → ℤ} (h : ∀ g, P (fpos g)) (f : ℕ) {x : ℤ}
    (hx : P x) : ∀ g, P (Function.update fpos f x g) := fun g => by
  by_cases hg : g = f
  · subst hg
    simpa using hx
  · simpa [hg] using h g

/-! ### Byte arrays

A driver's byte array is a function from offsets to bytes. Offsets outside the
C array are the memory around it, so that an access out of bounds is something
the model can show happening, and a bounds theorem can rule out. -/

/-- `memcpy(m + p, src, src.length)`: offset `i` takes byte `i - p` of `src`
when it lies in `[p, p + src.length)`. -/
def writeBytes (m : ℤ → UInt8) (p : ℤ) (src : List UInt8) : ℤ → UInt8 := fun i =>
  if p ≤ i ∧ i < p + src.length then src.getD (i - p).toNat 0 else m i

/-- The `n` bytes of `m` from offset `p`, as `memcpy(dst, m + p, n)` reads them. -/
def readBytes (m : ℤ → UInt8) (p : ℤ) : ℕ → List UInt8
  | 0 => []
  | n + 1 => m p :: readBytes m (p + 1) n

@[simp] theorem readBytes_length (m : ℤ → UInt8) (p : ℤ) (n : ℕ) :
    (readBytes m p n).length = n := by
  induction n generalizing p <;> simp [readBytes, *]

theorem readBytes_getElem (m : ℤ → UInt8) (p : ℤ) :
    ∀ (n k : ℕ) (h : k < (readBytes m p n).length), (readBytes m p n)[k] = m (p + k)
  | 0, _, h => by simp at h
  | n + 1, 0, _ => by simp [readBytes]
  | n + 1, k + 1, h => by
    simp only [readBytes, List.getElem_cons_succ]
    rw [readBytes_getElem m (p + 1) n k (by simpa [readBytes] using h)]
    congr 1
    omega

theorem readBytes_add (m : ℤ → UInt8) (p : ℤ) (a b : ℕ) :
    readBytes m p (a + b) = readBytes m p a ++ readBytes m (p + a) b := by
  induction a generalizing p with
  | zero => simp [readBytes]
  | succ a ih =>
    rw [Nat.succ_add, show p + ((a + 1 : ℕ) : ℤ) = p + 1 + a by omega]
    simp only [readBytes, ih, List.cons_append]

/-- Reading depends only on the bytes read. -/
theorem readBytes_congr {m m' : ℤ → UInt8} {p : ℤ} {n : ℕ}
    (h : ∀ k : ℕ, k < n → m (p + k) = m' (p + k)) : readBytes m p n = readBytes m' p n := by
  apply List.ext_getElem (by simp)
  intro k hk _
  rw [readBytes_getElem, readBytes_getElem]
  exact h k (by simpa using hk)

theorem writeBytes_of_lt (m : ℤ → UInt8) {p i : ℤ} (src : List UInt8) (h : i < p) :
    writeBytes m p src i = m i := by
  simp [writeBytes, show ¬ p ≤ i by omega]

theorem writeBytes_of_ge (m : ℤ → UInt8) {p i : ℤ} (src : List UInt8)
    (h : p + src.length ≤ i) : writeBytes m p src i = m i := by
  simp [writeBytes, show ¬ i < p + src.length by omega]

theorem writeBytes_add (m : ℤ → UInt8) (p : ℤ) (src : List UInt8) (k : ℕ)
    (h : k < src.length) : writeBytes m p src (p + k) = src[k] := by
  have hc : p ≤ p + k ∧ p + k < p + src.length := by omega
  have hk : (p + k - p).toNat = k := by omega
  simp [writeBytes, hc, hk, h]

theorem writeBytes_zero_of_lt (m : ℤ → UInt8) (src : List UInt8) {i : ℕ}
    (h : i < src.length) : writeBytes m 0 src i = src[i] := by
  simpa using writeBytes_add m 0 src i h

/-- `writeBytes` at a byte of a buffer that starts at an offset that is not
negative. -/
theorem writeBytes_natCast (m : ℤ → UInt8) {p : ℤ} (hp : 0 ≤ p) (src : List UInt8) (i : ℕ) :
    writeBytes m p src i =
      if p.toNat ≤ i ∧ i < p.toNat + src.length then src.getD (i - p.toNat) 0 else m i := by
  have hc : (p ≤ i ∧ (i : ℤ) < p + src.length) ↔ (p.toNat ≤ i ∧ i < p.toNat + src.length) := by
    omega
  have hd : ((i : ℤ) - p).toNat = i - p.toNat := by omega
  simp only [writeBytes, hc, hd]

/-- **Read after write**: `memcpy` out of the bytes just written gives them back. -/
theorem readBytes_writeBytes (m : ℤ → UInt8) (p : ℤ) (src : List UInt8) :
    readBytes (writeBytes m p src) p src.length = src := by
  apply List.ext_getElem (by simp)
  intro k hk _
  rw [readBytes_getElem, writeBytes_add m p src k (by simpa using hk)]

@[simp] theorem writeBytes_nil (m : ℤ → UInt8) (p : ℤ) : writeBytes m p [] = m := by
  funext i
  simp only [writeBytes, List.length_nil]
  rw [if_neg (by omega)]

/-- Two `memcpy`s of adjacent ranges are one of the two sources joined. -/
theorem writeBytes_append (m : ℤ → UInt8) (p : ℤ) (a b : List UInt8) :
    writeBytes (writeBytes m p a) (p + a.length) b = writeBytes m p (a ++ b) := by
  funext i
  simp only [writeBytes, List.length_append, List.getD_eq_getElem?_getD]
  by_cases ha : p ≤ i ∧ i < p + a.length
  · rw [if_neg (by omega), if_pos ha, if_pos (by omega), List.getElem?_append_left (by omega)]
  · by_cases hb : p + a.length ≤ i ∧ i < p + a.length + b.length
    · rw [if_pos hb, if_pos (by omega), List.getElem?_append_right (by omega)]
      congr 2
      omega
    · rw [if_neg hb, if_neg ha, if_neg (by omega)]

/-- Writing the bytes already there changes nothing. -/
theorem writeBytes_readBytes (m : ℤ → UInt8) (p : ℤ) (n : ℕ) :
    writeBytes m p (readBytes m p n) = m := by
  funext i
  by_cases h : p ≤ i ∧ i < p + n
  · obtain ⟨k, rfl⟩ : ∃ k : ℕ, i = p + k := ⟨(i - p).toNat, by omega⟩
    rw [writeBytes_add _ _ _ k (by simp; omega), readBytes_getElem]
  · simp only [writeBytes, readBytes_length, h, if_false]

/-! ### Integers in memory

The structures the drivers exchange with user space hold C integers, little
endian: `decodeLE` reads them, `encodeLE` writes the low bytes of a value (of
a negative one too, in two's complement). -/

/-- The value of bytes read least significant first. -/
def decodeLE : List UInt8 → ℕ
  | [] => 0
  | b :: bs => b.toNat + 256 * decodeLE bs

/-- The `k` low bytes of `n`, least significant first. -/
def encodeLE : ℕ → ℤ → List UInt8
  | 0, _ => []
  | k + 1, n => (n % 256).toNat.toUInt8 :: encodeLE k (n / 256)

@[simp] theorem encodeLE_length : ∀ (k : ℕ) (n : ℤ), (encodeLE k n).length = k
  | 0, _ => rfl
  | k + 1, n => by simp [encodeLE, encodeLE_length k]

/-- The `int` that four bytes of value `n` hold. -/
def int32 (n : ℕ) : ℤ := if n < 2 ^ 31 then n else n - 2 ^ 32

/-- `v++` on an `int`: it wraps, the kernel being built with
`-fno-strict-overflow`. -/
def intInc (v : ℤ) : ℤ := int32 ((v + 1) % 2 ^ 32).toNat

/-- An `int` after `w` increments from 0: `w` read as an `int`. -/
def intOfCount (w : ℕ) : ℤ := int32 (w % 2 ^ 32)

theorem intInc_intOfCount (w : ℕ) : intInc (intOfCount w) = intOfCount (w + 1) := by
  unfold intInc intOfCount int32
  split_ifs <;> omega

/-! ### User buffers

`copy_from_user` copies what it can read of the user buffer and, when it
faults, zero-fills the rest of the destination and returns the number of bytes
it did not copy (`_copy_from_user` in `lib/usercopy.c`). A user buffer is
therefore, to a driver, the bytes readable from its start. -/

/-- A user buffer: the bytes that can be read from its start before the first
fault (all of them, when it does not fault within what is asked). -/
structure UserBuf where
  readable : List UInt8
  deriving DecidableEq, Repr

/-- `copy_from_user(m + p, buf, n)`: the destination and the number of bytes
not copied. -/
def copyFromUser (m : ℤ → UInt8) (p : ℤ) (buf : UserBuf) (n : ℕ) : (ℤ → UInt8) × ℕ :=
  let k := min n buf.readable.length
  (writeBytes m p (buf.readable.take k ++ List.replicate (n - k) 0), n - k)

/-- `copy_to_user(buf, src, src.length)` into a user buffer with `room`
writable bytes: what the user buffer receives and the number of bytes not
copied. -/
def copyToUser (src : List UInt8) (room : ℕ) : List UInt8 × ℕ :=
  (src.take room, src.length - min src.length room)

/-- A copy that faults on none of its bytes copies them all. -/
theorem copyFromUser_of_le (m : ℤ → UInt8) (p : ℤ) (buf : UserBuf) {n : ℕ}
    (h : n ≤ buf.readable.length) :
    copyFromUser m p buf n = (writeBytes m p (buf.readable.take n), 0) := by
  simp [copyFromUser, Nat.min_eq_left h]

theorem copyFromUser_snd (m : ℤ → UInt8) (p : ℤ) (buf : UserBuf) (n : ℕ) :
    (copyFromUser m p buf n).2 = 0 ↔ n ≤ buf.readable.length := by
  simp only [copyFromUser]
  omega

/-- A copy to user space that faults on no byte delivers them all. -/
theorem copyToUser_fst_of_snd {src : List UInt8} {room : ℕ} (h : (copyToUser src room).2 = 0) :
    (copyToUser src room).1 = src := by
  simp only [copyToUser] at h ⊢
  exact List.take_of_length_le (by omega)

theorem copyToUser_of_le (src : List UInt8) {room : ℕ} (h : src.length ≤ room) :
    copyToUser src room = (src, 0) := by
  simp [copyToUser, List.take_of_length_le h, Nat.min_eq_left h]

/-! ### Command strings

The proc files take a command: `copy_from_user` into a `char` array, a NUL
after it, and `strcmp` against the known words. -/

/-- The bytes of an ASCII string. -/
def asciiBytes (s : String) : List UInt8 := s.toList.map fun c => c.toNat.toUInt8

/-- The C string held in a `char` array: its bytes up to the first NUL. -/
def cString (bs : List UInt8) : List UInt8 := bs.takeWhile (· ≠ 0)

/-- The command a proc file's `stats_write` reads into `char cmd[size]`:
`len = min(count, size - 1)` bytes by `copy_from_user` (`none` when it
faults), `cmd[len] = '\0'`, and a trailing newline, tested behind `len > 0`,
cleared. -/
def procCommand (size : ℕ) (buf : UserBuf) (count : ℕ) : Option (List UInt8) :=
  let len := min count (size - 1)
  if buf.readable.length < len then none
  else
    let cmd := buf.readable.take len
    some (cString (if 0 < len ∧ cmd.getD (len - 1) 0 = 10 then cmd.set (len - 1) 0 else cmd))

theorem cString_of_ne_zero {l : List UInt8} (h0 : 0 ∉ l) : cString l = l :=
  List.takeWhile_eq_self_iff.2 fun x hx => by simpa using ne_of_mem_of_not_mem hx h0

/-- What `echo` writes, a command and a newline or not, is the command. -/
theorem procCommand_echo {size : ℕ} {l nl : List UInt8} (hl : (l ++ nl).length < size)
    (h0 : 0 ∉ l) (h10 : 10 ∉ l) (hnl : nl = [] ∨ nl = [10]) :
    procCommand size ⟨l ++ nl⟩ (l ++ nl).length = some l := by
  have hlen : min (l ++ nl).length (size - 1) = (l ++ nl).length := by omega
  simp only [procCommand, hlen, lt_irrefl, if_false, List.take_length]
  rcases hnl with rfl | rfl
  · rw [List.append_nil, if_neg, cString_of_ne_zero h0]
    rintro ⟨hpos, hlast⟩
    rw [List.getD_eq_getElem _ _ (by omega)] at hlast
    exact h10 (hlast ▸ List.getElem_mem _)
  · rw [if_pos ⟨by simp, by simp⟩]
    simp only [List.length_append, List.length_singleton, Nat.add_sub_cancel, le_refl,
      List.set_append_right, Nat.sub_self, List.set_cons_zero]
    unfold cString
    rw [List.takeWhile_append_of_pos (by simpa using fun x hx => ne_of_mem_of_not_mem hx h0)]
    simp

/-- `kstrtouint(s, 10, &v)` (`lib/kstrtox.c`): an optional `+`, one or more
decimal digits, an optional newline and nothing after it, and a value below
`2^32`; `none` where the kernel returns `-EINVAL` or `-ERANGE`. -/
def kstrtouint (s : List UInt8) : Option ℕ :=
  let s := if s.head? = some 43 then s.tail else s
  let digits := s.takeWhile fun c => 48 ≤ c ∧ c ≤ 57
  let rest := s.drop digits.length
  let v := digits.foldl (fun v c => 10 * v + (c.toNat - 48)) 0
  if digits ≠ [] ∧ (rest = [] ∨ rest = [10]) ∧ v < 2 ^ 32 then some v else none

/-- The value `_parse_integer` gives a byte: `0`-`9`, then `a`-`f` after
`_tolower` (`c | 0x20`); 16, which no base admits, for any other byte. -/
def digitVal (c : UInt8) : ℕ :=
  if 48 ≤ c ∧ c ≤ 57 then c.toNat - 48
  else if 97 ≤ c ||| 0x20 ∧ c ||| 0x20 ≤ 102 then (c ||| 0x20).toNat - 87
  else 16

/-- `_parse_integer_fixup_radix(s, &base)`: base 0 means `0x` then a hex
digit for 16, a leading `0` for 8, else 10; a `0x` before base 16 is
skipped. Bytes past the end read as the terminating NUL. -/
def parseIntegerFixupRadix (s : List UInt8) (base : ℕ) : List UInt8 × ℕ :=
  let base :=
    if base = 0 then
      if s.getD 0 0 = 48 then
        if s.getD 1 0 ||| 0x20 = 120 ∧ digitVal (s.getD 2 0) < 16 then 16 else 8
      else 10
    else base
  (if base = 16 ∧ s.getD 0 0 = 48 ∧ s.getD 1 0 ||| 0x20 = 120 then s.drop 2 else s, base)

/-- `kstrtoull(s, base, &res)` on the C string `s`: an optional `+`, the
digits of the base, an optional newline and nothing after it. `-ERANGE` when
the digits' value passes `ULLONG_MAX` (the value of a prefix only grows, so
`_parse_integer` flags the overflow exactly then), `-EINVAL` without digits or
with anything after them. -/
def kstrtoull (s : List UInt8) (base : ℕ) : Except ℤ ℕ :=
  let s := if s.head? = some 43 then s.tail else s
  let r := parseIntegerFixupRadix s base
  let digits := r.1.takeWhile fun c => digitVal c < r.2
  let v := digits.foldl (fun v c => r.2 * v + digitVal c) 0
  let rest := r.1.drop digits.length
  if 2 ^ 64 ≤ v then .error (-ERANGE)
  else if digits = [] then .error (-EINVAL)
  else if rest = [] ∨ rest = [10] then .ok v
  else .error (-EINVAL)

/-- `kstrtou32(s, base, &res)`, that is `kstrtouint`: `kstrtoull`, and
`-ERANGE` for a value that does not fit in 32 bits. -/
def kstrtou32 (s : List UInt8) (base : ℕ) : Except ℤ ℕ :=
  match kstrtoull s base with
  | .ok v => if v < 2 ^ 32 then .ok v else .error (-ERANGE)
  | .error e => .error e

theorem kstrtou32_lt {s : List UInt8} {base v : ℕ} (h : kstrtou32 s base = .ok v) : v < 2 ^ 32 := by
  unfold kstrtou32 at h
  split at h
  · split_ifs at h with hv
    · cases h; exact hv
  · cases h

/-! ### Signed integers from text

`kstrtoint` (`lib/kstrtox.c`) goes through `kstrtoll`, which reads a `-` and
hands the rest to `_kstrtoull`, the part of `kstrtoull` after its optional
`+`: so `-+5` is refused. The range checks are the C casts: `(long long)`
of the `unsigned long long` and `(int)` of the `long long`. What `%d` prints,
with or without a newline, `kstrtoint` reads back in base 0 or 10
(`kstrtoint_toString`): the digits are those of `Nat.toDigits`, which
`_parse_integer` folds back into the number, and only `0` starts with the
`0` that base 0 would read as octal. -/

/-- `_kstrtoull(s, base, &res)`: `kstrtoull` after its `+`. -/
def _kstrtoull (s : List UInt8) (base : ℕ) : Except ℤ ℕ :=
  let r := parseIntegerFixupRadix s base
  let digits := r.1.takeWhile fun c => digitVal c < r.2
  let v := digits.foldl (fun v c => r.2 * v + digitVal c) 0
  let rest := r.1.drop digits.length
  if 2 ^ 64 ≤ v then .error (-ERANGE)
  else if digits = [] then .error (-EINVAL)
  else if rest = [] ∨ rest = [10] then .ok v
  else .error (-EINVAL)

theorem kstrtoull_eq (s : List UInt8) (base : ℕ) :
    kstrtoull s base = _kstrtoull (if s.head? = some 43 then s.tail else s) base := rfl

/-- `kstrtoll(s, base, &res)`: a `-` and `_kstrtoull` of the rest, refused
when `(long long)-tmp > 0`; else `kstrtoull`, refused when
`(long long)tmp < 0`. -/
def kstrtoll (s : List UInt8) (base : ℕ) : Except ℤ ℤ :=
  if s.head? = some 45 then
    match _kstrtoull s.tail base with
    | .ok v => if loff (-v) > 0 then .error (-ERANGE) else .ok (loff (-v))
    | .error e => .error e
  else
    match kstrtoull s base with
    | .ok v => if loff v < 0 then .error (-ERANGE) else .ok (loff v)
    | .error e => .error e

/-- `kstrtoint(s, base, &res)`: `kstrtoll`, refused when
`tmp != (int)tmp`. -/
def kstrtoint (s : List UInt8) (base : ℕ) : Except ℤ ℤ :=
  match kstrtoll s base with
  | .ok v => if v ≠ int32 (v % 2 ^ 32).toNat then .error (-ERANGE) else .ok v
  | .error e => .error e

/-- What `kstrtoint` accepts is an `int`. -/
theorem kstrtoint_mem {s : List UInt8} {base : ℕ} {v : ℤ} (h : kstrtoint s base = .ok v) :
    -2 ^ 31 ≤ v ∧ v < 2 ^ 31 := by
  unfold kstrtoint at h
  split at h
  · split_ifs at h with hv
    cases h
    rw [not_not] at hv
    rw [hv]
    unfold int32
    split_ifs <;> omega
  · cases h

example : kstrtoint (asciiBytes "2147483648") 10 = .error (-ERANGE) := rfl

theorem toDigitsCore_append (fuel n : ℕ) (ds : List Char) :
    Nat.toDigitsCore 10 fuel n ds = Nat.toDigitsCore 10 fuel n [] ++ ds := by
  induction fuel generalizing n ds with
  | zero => rfl
  | succ fuel ih =>
    simp only [Nat.toDigitsCore]
    split
    · rfl
    · rw [ih _ (_ :: ds), ih _ [_], List.append_assoc, List.singleton_append]

theorem toDigitsCore_fuel {f₁ f₂ n : ℕ} (h₁ : n < f₁) (h₂ : n < f₂) (ds : List Char) :
    Nat.toDigitsCore 10 f₁ n ds = Nat.toDigitsCore 10 f₂ n ds := by
  induction f₁ generalizing f₂ n ds with
  | zero => omega
  | succ f ih =>
    obtain ⟨g, rfl⟩ : ∃ g, f₂ = g + 1 := ⟨f₂ - 1, by omega⟩
    simp only [Nat.toDigitsCore]
    split
    · rfl
    · exact ih (by omega) (by omega) _

theorem toDigits_ten (n : ℕ) : Nat.toDigits 10 n =
    (if n < 10 then [] else Nat.toDigits 10 (n / 10)) ++ [Nat.digitChar (n % 10)] := by
  have h : Nat.toDigits 10 n = Nat.toDigitsCore 10 (n + 1) n [] := rfl
  rw [h]
  simp only [Nat.toDigitsCore]
  split
  · rw [if_pos (by omega)]; rfl
  · rw [if_neg (by omega), toDigitsCore_append, Nat.toDigits,
      toDigitsCore_fuel (by omega) (show n / 10 < n / 10 + 1 by omega)]

theorem digitVal_digitChar : ∀ d < 10, digitVal (Nat.digitChar d).toNat.toUInt8 = d ∧
    48 ≤ (Nat.digitChar d).toNat.toUInt8 ∧ (Nat.digitChar d).toNat.toUInt8 ≤ 57 := by
  decide

/-- The bytes of `n` printed by `%d`. -/
theorem asciiBytes_toString_nat (n : ℕ) :
    asciiBytes (toString n) = (Nat.toDigits 10 n).map fun c => c.toNat.toUInt8 := rfl

/-- The bytes `%d` prints for `n`: decimal digits, the first one `0` only
for `0`, that `_parse_integer` reads back as `n`. -/
theorem decimal_digits (n : ℕ) :
    let ds := asciiBytes (toString n)
    ds ≠ [] ∧ (∀ c ∈ ds, digitVal c < 10) ∧ ds.foldl (fun v c => 10 * v + digitVal c) 0 = n ∧
      (ds.head? = some 48 → n = 0) := by
  induction n using Nat.strong_induction_on with
  | _ n ih =>
    have hlt : n % 10 < 10 := Nat.mod_lt _ (by decide)
    obtain ⟨hv, -⟩ := digitVal_digitChar _ hlt
    have hlast : digitVal (Nat.digitChar (n % 10)).toNat.toUInt8 < 10 := by rw [hv]; exact hlt
    rw [asciiBytes_toString_nat, toDigits_ten]
    split_ifs with h
    · refine ⟨by simp, by simpa using hlast, by simp [hv]; omega, fun h48 => ?_⟩
      simp only [List.nil_append, List.map_cons, List.map_nil, List.head?_cons, Option.some.injEq] at h48
      rw [h48, show digitVal 48 = 0 by decide] at hv
      omega
    · obtain ⟨hne, hdig, hval, hhead⟩ := ih (n / 10) (by omega)
      rw [asciiBytes_toString_nat] at hne hdig hval hhead
      refine ⟨by simp, ?_, ?_, fun h48 => ?_⟩
      · simp only [List.map_append, List.mem_append, List.map_cons, List.map_nil, List.mem_singleton]
        rintro c (hc | rfl)
        exacts [hdig c hc, hlast]
      · rw [List.map_append, List.foldl_append, hval]
        simp only [List.map_cons, List.map_nil, List.foldl_cons, List.foldl_nil, hv]
        omega
      · rw [List.map_append, List.head?_append_of_ne_nil _ hne] at h48
        have := hhead h48
        omega

/-- `_kstrtoull` on digits of the base it settles on, then an optional
newline. -/
theorem _kstrtoull_digits {ds nl : List UInt8} {base b : ℕ}
    (hr : parseIntegerFixupRadix (ds ++ nl) base = (ds ++ nl, b)) (hb : b ≤ 16)
    (hds : ∀ c ∈ ds, digitVal c < b) (hne : ds ≠ []) (hnl : nl = [] ∨ nl = [10])
    (hv : ds.foldl (fun v c => b * v + digitVal c) 0 < 2 ^ 64) :
    _kstrtoull (ds ++ nl) base = .ok (ds.foldl (fun v c => b * v + digitVal c) 0) := by
  have htake : (ds ++ nl).takeWhile (fun c => decide (digitVal c < b)) = ds := by
    rw [List.takeWhile_append_of_pos (by simpa using hds)]
    rcases hnl with rfl | rfl
    · simp
    · simp [show digitVal 10 = 16 by decide, hb]
  simp only [_kstrtoull, hr, htake, List.drop_left, if_neg (Nat.not_le.2 hv), hne, hnl, if_false,
    if_true, or_self]

/-- `_kstrtoull` in base 0 or 10 reads back what `%d` printed. -/
theorem _kstrtoull_toString {n : ℕ} (hn : n < 2 ^ 64) {base : ℕ} (hb : base = 0 ∨ base = 10)
    {nl : List UInt8} (hnl : nl = [] ∨ nl = [10]) :
    _kstrtoull (asciiBytes (toString n) ++ nl) base = .ok n := by
  obtain ⟨hne, hdig, hval, hhead⟩ := decimal_digits n
  by_cases h0 : base = 0 ∧ n = 0
  · obtain ⟨rfl, rfl⟩ := h0
    rcases hnl with rfl | rfl <;> rfl
  · have hr : parseIntegerFixupRadix (asciiBytes (toString n) ++ nl) base =
        (asciiBytes (toString n) ++ nl, 10) := by
      rcases hb with rfl | rfl
      · obtain ⟨c, cs, hc⟩ := List.exists_cons_of_ne_nil hne
        rw [hc] at hhead ⊢
        have : c ≠ 48 := fun h => h0 ⟨rfl, hhead (by rw [h]; rfl)⟩
        simp [parseIntegerFixupRadix, this]
      · simp [parseIntegerFixupRadix]
    simpa [hval] using _kstrtoull_digits hr (by decide) hdig hne hnl (by rw [hval]; exact hn)

/-- No byte `%d` prints for a number is a sign. -/
theorem ne_sign_of_digit {c : UInt8} (h : digitVal c < 10) : c ≠ 43 ∧ c ≠ 45 := by
  constructor <;> rintro rfl <;> exact absurd h (by decide)

theorem kstrtoll_toString {i : ℤ} (h₀ : -2 ^ 63 ≤ i) (h₁ : i < 2 ^ 63) {base : ℕ}
    (hb : base = 0 ∨ base = 10) {nl : List UInt8} (hnl : nl = [] ∨ nl = [10]) :
    kstrtoll (asciiBytes (toString i) ++ nl) base = .ok i := by
  cases i with
  | ofNat m =>
    obtain ⟨hne, hdig, -, -⟩ := decimal_digits m
    obtain ⟨c, cs, hc⟩ := List.exists_cons_of_ne_nil hne
    have hs : asciiBytes (toString (Int.ofNat m)) = c :: cs := hc
    have hsign := ne_sign_of_digit (hdig c (hc ▸ List.mem_cons_self c cs))
    have hm : (m : ℤ) < 2 ^ 63 := h₁
    have hk : kstrtoull (asciiBytes (toString m) ++ nl) base = .ok m := by
      rw [kstrtoull_eq, hc]
      simp only [List.cons_append, List.head?_cons, Option.some.injEq, hsign.1, if_false]
      rw [← List.cons_append, ← hc]
      exact _kstrtoull_toString (by omega) hb hnl
    rw [hs, List.cons_append]
    rw [hc, List.cons_append] at hk
    simp only [kstrtoll, List.head?_cons, Option.some.injEq, hsign.2, if_false, hk]
    rw [loff_of_mem (by omega) hm, if_neg (by omega)]
    rfl
  | negSucc m =>
    have hs : asciiBytes (toString (Int.negSucc m)) = 45 :: asciiBytes (toString (m + 1)) := rfl
    have hm : (m : ℤ) + 1 ≤ 2 ^ 63 := by rw [Int.negSucc_eq] at h₀; omega
    simp only [hs, kstrtoll, List.cons_append, List.head?_cons, if_true, List.tail_cons,
      _kstrtoull_toString (show m + 1 < 2 ^ 64 by omega) hb hnl]
    rw [loff_of_mem (by push_cast; omega) (by push_cast; omega), if_neg (by push_cast; omega)]
    rfl

/-- **`kstrtoint` reads back `%d`.** For every `int`, `kstrtoint` in base 0
or 10 turns what `%d` prints, with or without a newline, back into it. -/
theorem kstrtoint_toString {i : ℤ} (h₀ : -2 ^ 31 ≤ i) (h₁ : i < 2 ^ 31) {base : ℕ}
    (hb : base = 0 ∨ base = 10) {nl : List UInt8} (hnl : nl = [] ∨ nl = [10]) :
    kstrtoint (asciiBytes (toString i) ++ nl) base = .ok i := by
  have hi : i = int32 (i % 2 ^ 32).toNat := by unfold int32; split_ifs <;> omega
  simp only [kstrtoint, kstrtoll_toString (i := i) (by omega) (by omega) hb hnl, ← hi, ne_eq,
    not_true_eq_false, if_false]

example : kstrtoint (asciiBytes "0\n") 0 = .ok 0 := rfl

/-- What `%d` prints for an `int` is at most 11 bytes, none of them NUL or a
newline. -/
theorem int_digits {n : ℤ} (h₀ : -2 ^ 31 ≤ n) (h₁ : n < 2 ^ 31) :
    (asciiBytes (toString n)).length ≤ 11 ∧ 0 ∉ asciiBytes (toString n) ∧
      10 ∉ asciiBytes (toString n) := by
  have hnat : ∀ m : ℕ, m < 10 ^ 10 → (asciiBytes (toString m)).length ≤ 10 ∧
      0 ∉ asciiBytes (toString m) ∧ 10 ∉ asciiBytes (toString m) := fun m hm => by
    obtain ⟨-, hdig, -, -⟩ := decimal_digits m
    refine ⟨?_, fun h => absurd (hdig 0 h) (by decide), fun h => absurd (hdig 10 h) (by decide)⟩
    have := Nat.repr_length m 10 (by decide) hm
    rw [asciiBytes_toString_nat, List.length_map]
    exact this
  cases n with
  | ofNat m =>
    have hs : asciiBytes (toString (Int.ofNat m)) = asciiBytes (toString m) := rfl
    have := hnat m (by change (m : ℤ) < 2 ^ 31 at h₁; omega)
    rw [hs]
    exact ⟨by omega, this.2⟩
  | negSucc m =>
    have hs : asciiBytes (toString (Int.negSucc m)) = 45 :: asciiBytes (toString (m + 1)) := rfl
    obtain ⟨hl, h0, h10⟩ := hnat (m + 1) (by rw [Int.negSucc_eq] at h₀; omega)
    rw [hs]
    simp only [List.length_cons, List.mem_cons, not_or]
    exact ⟨by omega, ⟨by decide, h0⟩, ⟨by decide, h10⟩⟩

/-! ### Command words and counts

An `ioctl` command word packs a direction, a type, a number and a size
(`_IOC` in `include/uapi/asm-generic/ioctl.h`); `vfs_read` and `vfs_write`
pass a driver at most `MAX_RW_COUNT` bytes. -/

/-- `_IOC(dir, type, nr, size)`. -/
def ioc (dir type nr size : UInt32) : UInt32 := dir <<< 30 ||| size <<< 16 ||| type <<< 8 ||| nr

def iocType (cmd : UInt32) : UInt32 := (cmd >>> 8) &&& 0xFF

def iocNr (cmd : UInt32) : UInt32 := cmd &&& 0xFF

/-- `MAX_RW_COUNT`: `INT_MAX & PAGE_MASK`. -/
def maxRwCount : ℕ := 0x7ffff000

/-! ### Runs

A driver is driven by a list of operations, each a call of one of its entry
points with its arguments and what the environment answers (a fault, a failed
allocation, a status byte). `run` gives the final state and each call's
result. -/

section Run

variable {σ τ ι ο : Type}

/-- The final state and the results of the operations `ops` run in order from
`s`. -/
def run (step : σ → ι → σ × ο) : σ → List ι → σ × List ο
  | s, [] => (s, [])
  | s, i :: is => ((run step (step s i).1 is).1, (step s i).2 :: (run step (step s i).1 is).2)

@[simp] theorem run_nil (step : σ → ι → σ × ο) (s : σ) : run step s [] = (s, []) := rfl

theorem run_cons (step : σ → ι → σ × ο) (s : σ) (i : ι) (is : List ι) :
    run step s (i :: is) =
      ((run step (step s i).1 is).1, (step s i).2 :: (run step (step s i).1 is).2) := rfl

theorem run_append (step : σ → ι → σ × ο) :
    ∀ (s : σ) (xs ys : List ι), run step s (xs ++ ys) =
      ((run step (run step s xs).1 ys).1, (run step s xs).2 ++ (run step (run step s xs).1 ys).2)
  | s, [], ys => rfl
  | s, i :: xs, ys => by simp [run_cons, run_append _ _ xs ys]

/-- A relation between two machines' states that every pair of steps keeps
holds after every pair of runs on the same operations. -/
theorem run_rel {ο' : Type} (step : σ → ι → σ × ο) (spec : τ → ι → τ × ο') (R : σ → τ → Prop)
    (h : ∀ s a i, R s a → R (step s i).1 (spec a i).1) :
    ∀ (ops : List ι) (s : σ) (a : τ), R s a → R (run step s ops).1 (run spec a ops).1
  | [], _, _, hR => hR
  | i :: is, s, a, hR => run_rel step spec R h is _ _ (h s a i hR)

/-- A part of the state that each operation either leaves alone or moves by
one step of another machine: after every run, it is that machine's run on
the operations that move it. -/
theorem run_proj {κ ο' : Type} (step : σ → ι → σ × ο) (step' : τ → κ → τ × ο') (p : σ → τ)
    (f : ι → Option κ)
    (h : ∀ s i, p (step s i).1 = (f i).elim (p s) fun j => (step' (p s) j).1) :
    ∀ (ops : List ι) (s : σ), p (run step s ops).1 = (run step' (p s) (ops.filterMap f)).1
  | [], _ => rfl
  | i :: is, s => by
    rw [run_cons, run_proj step step' p f h is, h s i, List.filterMap_cons]
    cases f i <;> rfl

/-- An invariant that every step keeps holds after every run. -/
theorem run_inv (step : σ → ι → σ × ο) (I : σ → Prop) (h : ∀ s i, I s → I (step s i).1) :
    ∀ (ops : List ι) (s : σ), I s → I (run step s ops).1
  | [], _, hs => hs
  | i :: is, s, hs => run_inv step I h is _ (h s i hs)

/-- An invariant kept by every step whose input has `P` holds after every run
of such inputs. -/
theorem run_inv_of_inputs (step : σ → ι → σ × ο) (P : ι → Prop) (I : σ → Prop)
    (h : ∀ s i, P i → I s → I (step s i).1) :
    ∀ (ops : List ι) (s : σ), (∀ i ∈ ops, P i) → I s → I (run step s ops).1
  | [], _, _, hs => hs
  | i :: is, s, hP, hs =>
    run_inv_of_inputs step P I h is _ (fun j hj => hP j (.tail _ hj)) (h s i (hP i (.head _)) hs)

/-- An invariant of a state and the results so far, each step's results a
list, that every step on an admitted operation keeps holds after every run of
admitted operations. -/
theorem run_inv_trace {ε : Type} (step : σ → ι → σ × List ε) (P : ι → Prop)
    (I : σ → List ε → Prop) (h : ∀ s evs i, P i → I s evs → I (step s i).1 (evs ++ (step s i).2)) :
    ∀ (ops : List ι) (s : σ) (evs : List ε), (∀ i ∈ ops, P i) → I s evs →
      I (run step s ops).1 (evs ++ (run step s ops).2.flatten)
  | [], _, evs, _, hI => by simpa using hI
  | i :: is, s, evs, hP, hI => by
    simpa [run_cons, List.append_assoc] using
      run_inv_trace step P I h is _ _ (fun j hj => hP j (List.mem_cons_of_mem i hj))
        (h s evs i (hP i (List.mem_cons_self i is)) hI)

/-- **Simulation up to a relation on results.** If a relation between the two
machines' states is kept by every pair of steps, which relate their results by
`O`, the two runs' results are related one by one. -/
theorem run_sim_rel {ο' : Type} (step : σ → ι → σ × ο) (spec : τ → ι → τ × ο')
    (R : σ → τ → Prop) (O : ο → ο' → Prop)
    (h : ∀ s a i, R s a → R (step s i).1 (spec a i).1 ∧ O (step s i).2 (spec a i).2) :
    ∀ (ops : List ι) (s : σ) (a : τ), R s a →
      R (run step s ops).1 (run spec a ops).1 ∧ List.Forall₂ O (run step s ops).2 (run spec a ops).2
  | [], _, _, hR => ⟨hR, .nil⟩
  | i :: is, s, a, hR => by
    obtain ⟨hR', hO⟩ := h s a i hR
    obtain ⟨hR'', hO'⟩ := run_sim_rel step spec R O h is _ _ hR'
    exact ⟨hR'', .cons hO hO'⟩

/-- **Simulation.** If a relation between the two machines' states is kept by
every step on an admitted operation whose result is acceptable, and the two
steps then give the same result, the two runs give the same results as long
as every operation is admitted and every result acceptable. -/
theorem run_sim_io (step : σ → ι → σ × ο) (spec : τ → ι → τ × ο) (R : σ → τ → Prop)
    (P : ι → Prop) (ok : ο → Prop)
    (h : ∀ s a i, R s a → P i → ok (step s i).2 →
      R (step s i).1 (spec a i).1 ∧ (step s i).2 = (spec a i).2) :
    ∀ (ops : List ι) (s : σ) (a : τ), R s a → (∀ i ∈ ops, P i) →
      (∀ o ∈ (run step s ops).2, ok o) →
      R (run step s ops).1 (run spec a ops).1 ∧ (run step s ops).2 = (run spec a ops).2
  | [], _, _, hR, _, _ => ⟨hR, rfl⟩
  | i :: is, s, a, hR, hP, hok => by
    simp only [run_cons, List.mem_cons, forall_eq_or_imp] at hP hok ⊢
    obtain ⟨hR', heq⟩ := h s a i hR hP.1 hok.1
    obtain ⟨hR'', heq'⟩ := run_sim_io step spec R P ok h is _ _ hR' hP.2 hok.2
    exact ⟨hR'', by rw [heq, heq']⟩

/-- Simulation over runs whose results are all acceptable. -/
theorem run_sim (step : σ → ι → σ × ο) (spec : τ → ι → τ × ο) (R : σ → τ → Prop)
    (ok : ο → Prop)
    (h : ∀ s a i, R s a → ok (step s i).2 →
      R (step s i).1 (spec a i).1 ∧ (step s i).2 = (spec a i).2)
    (ops : List ι) (s : σ) (a : τ) (hR : R s a) (hok : ∀ o ∈ (run step s ops).2, ok o) :
    R (run step s ops).1 (run spec a ops).1 ∧ (run step s ops).2 = (run spec a ops).2 :=
  run_sim_io step spec R (fun _ => True) ok (fun s a i hR _ => h s a i hR) ops s a hR
    (fun _ _ => trivial) hok

/-- Simulation over runs whose operations are all admitted. -/
theorem run_sim_of_inputs (step : σ → ι → σ × ο) (spec : τ → ι → τ × ο) (R : σ → τ → Prop)
    (P : ι → Prop)
    (h : ∀ s a i, R s a → P i → R (step s i).1 (spec a i).1 ∧ (step s i).2 = (spec a i).2)
    (ops : List ι) (s : σ) (a : τ) (hR : R s a) (hP : ∀ i ∈ ops, P i) :
    R (run step s ops).1 (run spec a ops).1 ∧ (run step s ops).2 = (run spec a ops).2 :=
  run_sim_io step spec R P (fun _ => True) (fun s a i hR hP _ => h s a i hR hP) ops s a hR hP
    (fun _ _ => trivial)

end Run

end DriverGuide
