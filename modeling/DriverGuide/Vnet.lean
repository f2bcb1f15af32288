/-
# The vnet RX ring is a lossless FIFO of 63 packets

`part12/virtual-netdev/vnet_demo.c` loops every transmitted packet back:
`vnet_start_xmit` copies it into the 64-slot ring `rx_ring` (or drops the
copy when `rx_ring_full`), `vnet_poll` takes packets out at `rx_tail` and
hands them to `napi_gro_receive`, and `vnet_stop` frees what is left. Each
ring access runs under `rx_lock`; one pass of the poll loop (the locked
dequeue and the hand-off after it) is one step, so runs of steps are the
interleavings of the three.

The ring refines a FIFO queue of capacity 63 (`Refines`, `vnetStep_refines`):
slot `(rx_tail + k) % 64` holds the `k`-th queued packet and every other slot
is `NULL`. The FIFO conserves packets (`Accounts`): those that left the
queue, followed by those still in it, are those that entered, in order. So in
every run of the driver (`vnet_rx_ring_lossless`) the indices stay in
`[0, 64)` and the occupied slots are the cyclic window from `rx_tail` to
`rx_head`, `vnet_poll` never meets a `NULL` slot, packets reach
`napi_gro_receive` in the order they were enqueued, and every copy is
queued or dropped, then received, freed by `vnet_stop`, or still queued,
exactly once. One call of `vnet_poll` (`vnet_poll_budget`) hands on the
first `min budget q` of the `q` queued packets, counts them in `rx_packets`
and their bytes after `eth_type_trans` (the Ethernet header pulled) in
`rx_bytes`, both `u64` counters that wrap, returns their number, and
completes NAPI exactly when that number is below the budget.

Key definitions: `vnetStartXmit`, `vnetPollPass`, `vnetPoll`, `vnetStop`,
`vnetStep`, `fifoStep`, `Refines`.
Key theorems: `Refines.enqueue`, `Refines.dequeue`, `Refines.stop`,
`vnetPollLoop_received`, `vnet_poll_budget`, `vnetStep_refines`,
`Accounts.step`, `vnet_rx_ring_lossless`.
-/
import DriverGuide.Basic

namespace DriverGuide
namespace Vnet

/-! ### The driver

`struct vnet_priv` with the ring, its indices and its counters (the NAPI
context is left out), and `ndev->stats.rx_dropped`. An `sk_buff` is named by
a number: `skb_copy` gives the `nextSkb`-th copy, and `skbLen` holds the
`len` each copy had when `vnet_start_xmit` made it. The statistics wrap: the
four `u64` counters modulo `2^64`, and `rx_dropped`, an `unsigned long`,
modulo `2^BITS_PER_LONG`. -/

/-- `RX_RING_SIZE`. -/
def rxRingSize : ℤ := 64

/-- `ETH_HLEN`. -/
def ethHlen : ℕ := 14

/-- A `u64`: arithmetic modulo `2^64`. -/
abbrev U64 := Fin (2 ^ 64)

/-- `skb->len` after `eth_type_trans`: its `skb_pull_inline(skb, ETH_HLEN)`
pulls the Ethernet header, unless the packet is shorter than one. -/
def ethTypeTransLen (len : ℕ) : ℕ := if ethHlen > len then len else len - ethHlen

structure VnetPriv where
  rxRing : ℤ → Option ℕ
  rxHead : ℤ
  rxTail : ℤ
  txPackets : U64
  rxPackets : U64
  rxDropped : ℕ
  nextSkb : ℕ
  txBytes : U64
  rxBytes : U64
  skbLen : ℕ → ℕ

/-- After `vnet_init`: `alloc_etherdev` zeroes the private data. -/
def vnetInit : VnetPriv := ⟨fun _ => none, 0, 0, 0, 0, 0, 0, 0, 0, fun _ => 0⟩

/-- What a call does with a packet. -/
inductive PktEvent
  | queue (skb : ℕ)
  | drop (skb : ℕ)
  | receive (skb : ℕ)
  | nullSkb
  | free (skb : ℕ)
  deriving DecidableEq, Repr

def rxRingFull (priv : VnetPriv) : Bool := (priv.rxHead + 1).tmod rxRingSize = priv.rxTail

def rxRingEmpty (priv : VnetPriv) : Bool := priv.rxHead = priv.rxTail

def rxRingEnqueue (priv : VnetPriv) (skb : ℕ) : VnetPriv :=
  { priv with
    rxRing := Function.update priv.rxRing priv.rxHead (some skb)
    rxHead := (priv.rxHead + 1).tmod rxRingSize }

def rxRingDequeue (priv : VnetPriv) : VnetPriv × Option ℕ :=
  ({ priv with
    rxRing := Function.update priv.rxRing priv.rxTail none
    rxTail := (priv.rxTail + 1).tmod rxRingSize }, priv.rxRing priv.rxTail)

/-- `vnet_start_xmit(skb, ndev)` of a packet of `len` bytes, with
`BITS_PER_LONG = bitsPerLong`; `copied` is whether `skb_copy` succeeded. -/
def vnetStartXmit (bitsPerLong : ℕ) (priv : VnetPriv) (len : ℕ) (copied : Bool) :
    VnetPriv × List PktEvent :=
  let priv := { priv with txPackets := priv.txPackets + 1, txBytes := priv.txBytes + (len : U64) }
  if copied then
    let skb := priv.nextSkb
    let priv := { priv with nextSkb := skb + 1, skbLen := Function.update priv.skbLen skb len }
    if !rxRingFull priv then (rxRingEnqueue priv skb, [.queue skb])
    else ({ priv with rxDropped := (priv.rxDropped + 1) % 2 ^ bitsPerLong }, [.drop skb])
  else (priv, [])

/-- One pass of the loop of `vnet_poll`: the ring access under `rx_lock`,
`eth_type_trans`, the counters, and the hand-off of the packet; the flag says
whether the loop goes on. -/
def vnetPollPass (priv : VnetPriv) : VnetPriv × List PktEvent × Bool :=
  if rxRingEmpty priv then (priv, [], false)
  else
    let r := rxRingDequeue priv
    match r.2 with
    | none => (r.1, [.nullSkb], false)
    | some skb =>
      ({ r.1 with
          rxPackets := r.1.rxPackets + 1,
          rxBytes := r.1.rxBytes + (ethTypeTransLen (r.1.skbLen skb) : U64) },
        [.receive skb], true)

/-- The loop of `vnet_poll` from `processed` packets on, for at most `fuel`
passes: the state, the events and the final `processed`. -/
def vnetPollLoop (budget : ℤ) : ℕ → VnetPriv → ℤ → VnetPriv × List PktEvent × ℤ
  | 0, priv, processed => (priv, [], processed)
  | fuel + 1, priv, processed =>
    if processed < budget then
      let r := vnetPollPass priv
      if r.2.2 then
        let r' := vnetPollLoop budget fuel r.1 (processed + 1)
        (r'.1, r.2.1 ++ r'.2.1, r'.2.2)
      else (r.1, r.2.1, processed)
    else (priv, [], processed)

/-- `vnet_poll(napi, budget)`: every pass that goes on counts a packet, so
`budget` passes are enough. The last component says whether it called
`napi_complete_done`. -/
def vnetPoll (priv : VnetPriv) (budget : ℤ) : VnetPriv × List PktEvent × ℤ × Bool :=
  let r := vnetPollLoop budget budget.toNat priv 0
  (r.1, r.2.1, r.2.2, decide (r.2.2 < budget))

/-- The loop of `vnet_stop` over the `n` slots from `i`. -/
def vnetStopLoop (ring : ℤ → Option ℕ) (i : ℤ) : ℕ → (ℤ → Option ℕ) × List PktEvent
  | 0 => (ring, [])
  | n + 1 =>
    match ring i with
    | some skb =>
      let r := vnetStopLoop (Function.update ring i none) (i + 1) n
      (r.1, .free skb :: r.2)
    | none => vnetStopLoop ring (i + 1) n

/-- `vnet_stop(ndev)`, after `napi_disable` has waited for the poller. -/
def vnetStop (priv : VnetPriv) : VnetPriv × List PktEvent :=
  let r := vnetStopLoop priv.rxRing 0 rxRingSize.toNat
  ({ priv with rxRing := r.1, rxHead := 0, rxTail := 0 }, r.2)

inductive VnetOp
  | xmit (len : ℕ) (copied : Bool)
  | pollPass
  | poll (budget : ℤ)
  | stop

def vnetStep (bitsPerLong : ℕ) (priv : VnetPriv) : VnetOp → VnetPriv × List PktEvent
  | .xmit len copied => vnetStartXmit bitsPerLong priv len copied
  | .pollPass => ((vnetPollPass priv).1, (vnetPollPass priv).2.1)
  | .poll budget => ((vnetPoll priv budget).1, (vnetPoll priv budget).2.1)
  | .stop => vnetStop priv

/-! ### The FIFO the ring stands for

A queue of at most 63 packets: a copy is dropped exactly when 63 are queued,
a poll pass receives the head, a poll of budget `b` receives the first `b`,
and a stop frees the queue. -/

def fifoCapacity : ℕ := 63

structure Fifo where
  queue : List ℕ
  next : ℕ
  dropped : ℕ

def Fifo.init : Fifo := ⟨[], 0, 0⟩

def fifoStep (f : Fifo) : VnetOp → Fifo × List PktEvent
  | .xmit _ copied =>
    if copied then
      if f.queue.length = fifoCapacity then
        ({ f with next := f.next + 1, dropped := f.dropped + 1 }, [.drop f.next])
      else ({ f with queue := f.queue ++ [f.next], next := f.next + 1 }, [.queue f.next])
    else (f, [])
  | .pollPass =>
    match f.queue with
    | [] => (f, [])
    | skb :: q => ({ f with queue := q }, [.receive skb])
  | .poll budget =>
    let n := min budget.toNat f.queue.length
    ({ f with queue := f.queue.drop n }, (f.queue.take n).map .receive)
  | .stop => ({ f with queue := [] }, f.queue.map .free)

namespace PktEvent

def queued : PktEvent → Option ℕ
  | .queue skb => some skb
  | _ => none

def received : PktEvent → Option ℕ
  | .receive skb => some skb
  | _ => none

/-- The packet that left the queue: received or freed. -/
def left : PktEvent → Option ℕ
  | .receive skb => some skb
  | .free skb => some skb
  | _ => none

/-- The copy that `vnet_start_xmit` made: queued or dropped. -/
def copied : PktEvent → Option ℕ
  | .queue skb => some skb
  | .drop skb => some skb
  | _ => none

/-- Events whose order is the driver's: all but the frees of `vnet_stop`,
which go by slot. -/
def ordered : PktEvent → Bool
  | .free _ => false
  | _ => true

end PktEvent

/-! ### The FIFO conserves packets -/

theorem filterMap_map_some (g : PktEvent → Option ℕ) (c : ℕ → PktEvent) (h : ∀ x, g (c x) = some x)
    (l : List ℕ) : (l.map c).filterMap g = l := by
  rw [List.filterMap_map]
  exact (List.filterMap_congr fun x _ => h x).trans (List.filterMap_some l)

theorem filterMap_map_none (g : PktEvent → Option ℕ) (c : ℕ → PktEvent) (h : ∀ x, g (c x) = none)
    (l : List ℕ) : (l.map c).filterMap g = [] :=
  List.filterMap_eq_nil_iff.2 fun e he => by
    obtain ⟨x, -, rfl⟩ := List.mem_map.1 he
    exact h x

theorem nullSkb_not_mem_map {c : ℕ → PktEvent} (h : ∀ x, c x ≠ .nullSkb) (l : List ℕ) :
    PktEvent.nullSkb ∉ l.map c := fun hm => by
  obtain ⟨x, -, hx⟩ := List.mem_map.1 hm
  exact h x hx

/-- What the FIFO's events say after a run: the packets that left, then the
queue, are those enqueued; the copies are numbered in order; no `NULL` was
met. -/
structure Accounts (f : Fifo) (evs : List PktEvent) : Prop where
  conserve : evs.filterMap PktEvent.left ++ f.queue = evs.filterMap PktEvent.queued
  copies : evs.filterMap PktEvent.copied = List.range f.next
  no_null : PktEvent.nullSkb ∉ evs

theorem accounts_init : Accounts Fifo.init [] := ⟨rfl, rfl, List.not_mem_nil _⟩

/-- A prefix of the queue leaves, one event per packet that says it left
(received or freed): the accounts still hold. -/
theorem Accounts.leave {f : Fifo} {evs : List PktEvent} (h : Accounts f evs) (c : ℕ → PktEvent)
    (hl : ∀ x, PktEvent.left (c x) = some x) (hq : ∀ x, PktEvent.queued (c x) = none)
    (hc : ∀ x, PktEvent.copied (c x) = none) (hn : ∀ x, c x ≠ .nullSkb) (n : ℕ) :
    Accounts { f with queue := f.queue.drop n } (evs ++ (f.queue.take n).map c) := by
  obtain ⟨hcons, hcop, hnull⟩ := h
  refine ⟨?_, ?_, fun hm => (List.mem_append.1 hm).elim hnull (nullSkb_not_mem_map hn _)⟩
  · rw [List.filterMap_append, List.filterMap_append, filterMap_map_some _ c hl,
      filterMap_map_none _ c hq, List.append_nil, List.append_assoc, List.take_append_drop, hcons]
  · rw [List.filterMap_append, filterMap_map_none _ c hc, List.append_nil, hcop]

theorem Accounts.step {f : Fifo} {evs : List PktEvent} (h : Accounts f evs) :
    ∀ op, Accounts (fifoStep f op).1 (evs ++ (fifoStep f op).2)
  | .xmit _ copied => by
    obtain ⟨hc, hn, hnull⟩ := h
    cases copied
    · simpa only [fifoStep, List.append_nil, Bool.false_eq_true, if_false] using ⟨hc, hn, hnull⟩
    · simp only [fifoStep, if_true]
      split_ifs
      · exact ⟨by simpa [PktEvent.left, PktEvent.queued] using hc,
          by simp [PktEvent.copied, hn, List.range_succ], by simpa using hnull⟩
      · exact ⟨by simp [PktEvent.left, PktEvent.queued, ← hc],
          by simp [PktEvent.copied, hn, List.range_succ], by simpa using hnull⟩
  | .pollPass => by
    simp only [fifoStep]
    split
    · simpa using h
    · next skb q hq =>
      have := h.leave .receive (fun _ => rfl) (fun _ => rfl) (fun _ => rfl) (fun _ h => by cases h) 1
      simpa only [hq, List.drop_succ_cons, List.drop_zero, List.take_succ_cons, List.take_zero,
        List.map_cons, List.map_nil] using this
  | .poll budget => h.leave .receive (fun _ => rfl) (fun _ => rfl) (fun _ => rfl) (fun _ h => by cases h) _
  | .stop => by
    have := h.leave .free (fun _ => rfl) (fun _ => rfl) (fun _ => rfl) (fun _ h => by cases h)
      f.queue.length
    rwa [List.drop_length, List.take_length] at this

theorem accounts_run (ops : List VnetOp) :
    Accounts (run fifoStep Fifo.init ops).1 (run fifoStep Fifo.init ops).2.flatten := by
  simpa using run_inv_trace fifoStep (fun _ => True) Accounts (fun _ _ op _ h => h.step op) ops _ []
    (fun _ _ => trivial) accounts_init

/-- A list read off the indices `0, …, n - 1` by a function that gives its
`k`-th element at `k` and nothing past its end. -/
theorem filterMap_range_eq {β : Type} : ∀ (q : List β) (g : ℕ → Option β) (n : ℕ), q.length ≤ n →
    (∀ k (hk : k < q.length), g k = some q[k]) → (∀ k, q.length ≤ k → k < n → g k = none) →
    (List.range n).filterMap g = q
  | [], g, n, _, _, hf =>
    List.filterMap_eq_nil_iff.2 fun k hk => hf k (Nat.zero_le _) (List.mem_range.1 hk)
  | x :: q, g, n + 1, hn, hq, hf => by
    rw [List.range_succ_eq_map, List.filterMap_cons_some (hq 0 (Nat.succ_pos _)), List.filterMap_map]
    exact congrArg (x :: ·) (filterMap_range_eq q (g ∘ Nat.succ) n
      (Nat.le_of_succ_le_succ hn) (fun k hk => hq (k + 1) (Nat.succ_lt_succ hk))
      (fun k hk hk' => hf (k + 1) (Nat.succ_le_succ hk) (Nat.succ_lt_succ hk')))
  | _ :: _, _, 0, hn, _, _ => absurd hn (Nat.not_succ_le_zero _)

/-! ### The ring holds the FIFO

Slot `(rx_tail + k) % 64` holds the `k`-th queued packet, every other slot is
`NULL`, and `rx_head` is `rx_tail` moved on by the queue's length. -/

structure Refines (bitsPerLong : ℕ) (priv : VnetPriv) (f : Fifo) : Prop where
  tail_mem : 0 ≤ priv.rxTail ∧ priv.rxTail < rxRingSize
  head_eq : priv.rxHead = (priv.rxTail + f.queue.length) % rxRingSize
  length_le : f.queue.length ≤ fifoCapacity
  slot_queued : ∀ k (hk : k < f.queue.length),
    priv.rxRing ((priv.rxTail + k) % rxRingSize) = some f.queue[k]
  slot_free : ∀ k : ℕ, f.queue.length ≤ k → (k : ℤ) < rxRingSize →
    priv.rxRing ((priv.rxTail + k) % rxRingSize) = none
  next_eq : priv.nextSkb = f.next
  dropped_eq : priv.rxDropped = f.dropped % 2 ^ bitsPerLong

variable {bitsPerLong : ℕ}

theorem refines_init : Refines bitsPerLong vnetInit Fifo.init :=
  ⟨⟨Int.le_refl 0, by decide⟩, rfl, Nat.zero_le _, fun _ hk => absurd hk (Nat.not_lt_zero _),
    fun _ _ _ => rfl, rfl, rfl⟩

/-- The indices are in `[0, RX_RING_SIZE)` and the occupied slots are exactly
the cyclic window from `rx_tail` (inclusive) to `rx_head` (exclusive). -/
structure RingInv (priv : VnetPriv) : Prop where
  tail_mem : 0 ≤ priv.rxTail ∧ priv.rxTail < rxRingSize
  head_mem : 0 ≤ priv.rxHead ∧ priv.rxHead < rxRingSize
  slot_iff : ∀ i, 0 ≤ i → i < rxRingSize →
    ((priv.rxRing i).isSome ↔ (i - priv.rxTail) % rxRingSize < (priv.rxHead - priv.rxTail) % rxRingSize)

section Ring

variable {priv : VnetPriv} {f : Fifo}

/-- `Refines` reads neither the counters nor the packets' lengths. -/
theorem Refines.withCounters (h : Refines bitsPerLong priv f) (tx rx tb rb : U64) (lens : ℕ → ℕ) :
    Refines bitsPerLong { priv with
      txPackets := tx, rxPackets := rx, txBytes := tb, rxBytes := rb, skbLen := lens } f :=
  ⟨h.tail_mem, h.head_eq, h.length_le, h.slot_queued, h.slot_free, h.next_eq, h.dropped_eq⟩

theorem Refines.ringInv (h : Refines bitsPerLong priv f) : RingInv priv := by
  obtain ⟨⟨h0, h1⟩, hh, hl, hq, hf, -, -⟩ := h
  simp only [rxRingSize, fifoCapacity] at *
  refine ⟨⟨h0, h1⟩, ⟨by omega, by simp only [rxRingSize]; omega⟩, fun i hi0 hi1 => ?_⟩
  simp only [rxRingSize] at hi1 ⊢
  have hw : (priv.rxHead - priv.rxTail) % 64 = f.queue.length := by omega
  obtain ⟨k, hk, hi⟩ : ∃ k : ℕ, (k : ℤ) = (i - priv.rxTail) % 64 ∧ (priv.rxTail + k) % 64 = i :=
    ⟨((i - priv.rxTail) % 64).toNat, by omega, by omega⟩
  rw [hw, ← hk, ← hi]
  rcases Nat.lt_or_ge k f.queue.length with hlt | hge
  · simp [hq k hlt, hlt]
  · simp [hf k hge (by omega), hge]

theorem Refines.full_iff (h : Refines bitsPerLong priv f) :
    (priv.rxHead + 1).tmod rxRingSize = priv.rxTail ↔ f.queue.length = fifoCapacity := by
  obtain ⟨⟨h0, h1⟩, hh, hl, -, -, -, -⟩ := h
  simp only [rxRingSize, fifoCapacity] at *
  rw [Int.tmod_eq_emod (by omega) (by omega), hh]
  omega

theorem Refines.empty_iff (h : Refines bitsPerLong priv f) : priv.rxHead = priv.rxTail ↔ f.queue = [] := by
  obtain ⟨⟨h0, h1⟩, hh, hl, -, -, -, -⟩ := h
  simp only [rxRingSize, fifoCapacity] at *
  rw [← List.length_eq_zero, hh]
  omega

/-- **Enqueueing appends**, when fewer than 63 packets are queued. -/
theorem Refines.enqueue (h : Refines bitsPerLong priv f) (hlen : f.queue.length ≠ fifoCapacity) (skb : ℕ) :
    Refines bitsPerLong (rxRingEnqueue priv skb) { f with queue := f.queue ++ [skb] } := by
  obtain ⟨⟨h0, h1⟩, hh, hl, hq, hf, hn, hd⟩ := h
  simp only [rxRingSize, fifoCapacity] at *
  have hne : ∀ k : ℕ, k < 64 → k ≠ f.queue.length → (priv.rxTail + k) % 64 ≠ priv.rxHead := by
    intro k hk hk'; rw [hh]; omega
  refine ⟨⟨h0, h1⟩, ?_, ?_, fun k hk => ?_, fun k hk hk' => ?_, hn, hd⟩
  · simp only [rxRingEnqueue, rxRingSize, List.length_append, List.length_singleton]
    rw [Int.tmod_eq_emod (by omega) (by omega), hh]
    omega
  · simp only [fifoCapacity, List.length_append, List.length_singleton]
    omega
  · simp only [rxRingEnqueue, rxRingSize, List.length_append, List.length_singleton] at hk ⊢
    rcases Nat.lt_or_ge k f.queue.length with hk' | hk'
    · rw [Function.update_noteq (hne k (by omega) (by omega)), hq k hk', List.getElem_append_left hk']
    · obtain rfl : k = f.queue.length := by omega
      rw [show (priv.rxTail + f.queue.length) % 64 = priv.rxHead by omega, Function.update_same]
      simp
  · simp only [rxRingEnqueue, rxRingSize, List.length_append, List.length_singleton] at hk hk' ⊢
    rw [Function.update_noteq (hne k (by omega) (by omega)), hf k (by omega) hk']

/-- **Dequeueing takes the head**, which is not `NULL`. -/
theorem Refines.dequeue {skb : ℕ} {q : List ℕ} {n d : ℕ} (h : Refines bitsPerLong priv ⟨skb :: q, n, d⟩) :
    (rxRingDequeue priv).2 = some skb ∧ Refines bitsPerLong (rxRingDequeue priv).1 ⟨q, n, d⟩ := by
  obtain ⟨⟨h0, h1⟩, hh, hl, hq, hf, hn, hd⟩ := h
  simp only [rxRingSize, fifoCapacity, List.length_cons] at *
  have ht : (priv.rxTail + 1).tmod 64 = (priv.rxTail + 1) % 64 :=
    Int.tmod_eq_emod (by omega) (by omega)
  have hidx : ∀ k : ℕ, ((priv.rxTail + 1) % 64 + k) % 64 = (priv.rxTail + (k + 1 : ℕ)) % 64 := by
    intro k; omega
  refine ⟨?_, ⟨?_, ?_, ?_, fun k hk => ?_, fun k hk hk' => ?_, hn, hd⟩⟩
  · simpa [Int.emod_eq_of_lt h0 h1] using hq 0 (Nat.succ_pos _)
  · simp only [rxRingDequeue, rxRingSize, ht]
    omega
  · simp only [rxRingDequeue, rxRingSize, ht]
    omega
  · simp only [fifoCapacity]
    omega
  · simp only [rxRingDequeue, rxRingSize, ht] at hk ⊢
    rw [hidx, Function.update_noteq (by omega), hq (k + 1) (by omega)]
    rfl
  · simp only [rxRingDequeue, rxRingSize, ht] at hk hk' ⊢
    rcases Nat.lt_or_ge k 63 with hk63 | hk63
    · rw [hidx, Function.update_noteq (by omega), hf (k + 1) (by omega) (by omega)]
    · rw [show ((priv.rxTail + 1) % 64 + k) % 64 = priv.rxTail by omega, Function.update_same]

theorem Refines.pollPass_nil (h : Refines bitsPerLong priv f) (hq : f.queue = []) :
    vnetPollPass priv = (priv, [], false) := by
  rw [vnetPollPass, if_pos (show rxRingEmpty priv = true from decide_eq_true (h.empty_iff.2 hq))]

/-- What a poll that receives the first `m` packets of `f`, from `priv`, ends
with: the ring holds the rest of the queue, the events are the receptions in
order, and the receive counters went up by `m` packets and their lengths. -/
structure Received (bitsPerLong : ℕ) (priv : VnetPriv) (f : Fifo) (m : ℕ) (r : VnetPriv × List PktEvent) :
    Prop where
  refines : Refines bitsPerLong r.1 { f with queue := f.queue.drop m }
  events : r.2 = (f.queue.take m).map .receive
  rxPackets : r.1.rxPackets = priv.rxPackets + (m : U64)
  rxBytes : r.1.rxBytes =
    priv.rxBytes + (((f.queue.take m).map fun skb => ethTypeTransLen (priv.skbLen skb)).sum : U64)
  skbLen : r.1.skbLen = priv.skbLen

theorem Received.zero (h : Refines bitsPerLong priv f) : Received bitsPerLong priv f 0 (priv, []) :=
  ⟨h, rfl, by simp, by simp, rfl⟩

/-- A poll that stops before its first pass receives nothing and returns the
count it was given. -/
theorem Received.nothing (h : Refines bitsPerLong priv f) {m : ℕ} (hm : m = 0) (processed : ℤ) :
    Received bitsPerLong priv f m (priv, []) ∧ processed = processed + m := by
  subst hm
  exact ⟨.zero h, (Int.add_zero processed).symm⟩

/-- Receiving `m₁` packets and then `m₂` more is receiving `m₁ + m₂`. -/
theorem Received.trans {m₁ m₂ : ℕ} {r₁ r₂ : VnetPriv × List PktEvent} (h₁ : Received bitsPerLong priv f m₁ r₁)
    (h₂ : Received bitsPerLong r₁.1 { f with queue := f.queue.drop m₁ } m₂ r₂) :
    Received bitsPerLong priv f (m₁ + m₂) (r₂.1, r₁.2 ++ r₂.2) := by
  obtain ⟨-, e₁, p₁, b₁, l₁⟩ := h₁
  obtain ⟨h₂, e₂, p₂, b₂, l₂⟩ := h₂
  refine ⟨by rwa [List.drop_drop] at h₂, ?_, ?_, ?_, l₂.trans l₁⟩
  · rw [e₁, e₂, List.take_add, List.map_append]
  · dsimp only
    rw [p₂, p₁, Nat.cast_add, add_assoc]
  · dsimp only at b₂ ⊢
    rw [b₂, b₁, l₁, List.take_add, List.map_append, List.sum_append, Nat.cast_add, add_assoc]

theorem Refines.pollPass_cons {skb : ℕ} {q : List ℕ} {n d : ℕ} (h : Refines bitsPerLong priv ⟨skb :: q, n, d⟩) :
    Received bitsPerLong priv ⟨skb :: q, n, d⟩ 1 ((vnetPollPass priv).1, (vnetPollPass priv).2.1) ∧
      (vnetPollPass priv).2.2 = true := by
  obtain ⟨h1, h2⟩ := h.dequeue
  rw [vnetPollPass, if_neg (show ¬rxRingEmpty priv = true from
    fun he => List.cons_ne_nil skb q (h.empty_iff.1 (of_decide_eq_true he)))]
  dsimp only
  rw [h1]
  exact ⟨⟨h2.withCounters _ _ _ _ _, rfl, by simp [rxRingDequeue], by simp [rxRingDequeue], rfl⟩, rfl⟩

/-- **A poll receives the first `budget - processed` packets**, given enough
passes, and returns `processed` plus their number. -/
theorem vnetPollLoop_received (budget : ℤ) : ∀ (fuel : ℕ) (priv : VnetPriv) (f : Fifo)
    (processed : ℤ), Refines bitsPerLong priv f → budget - processed ≤ fuel →
      Received bitsPerLong priv f (min (budget - processed).toNat f.queue.length)
          ((vnetPollLoop budget fuel priv processed).1, (vnetPollLoop budget fuel priv processed).2.1) ∧
        (vnetPollLoop budget fuel priv processed).2.2 =
          processed + min (budget - processed).toNat f.queue.length
  | 0, priv, f, processed, h, hfuel => Received.nothing h (by omega) processed
  | fuel + 1, priv, ⟨q, n, d⟩, processed, h, hfuel => by
    unfold vnetPollLoop
    dsimp only
    by_cases hp : processed < budget
    · rw [if_pos hp]
      cases q with
      | nil =>
        rw [h.pollPass_nil rfl]
        dsimp only
        rw [if_neg Bool.false_ne_true]
        exact Received.nothing h (by simp) processed
      | cons skb q =>
        obtain ⟨h1, h2⟩ := h.pollPass_cons
        obtain ⟨ih1, ih2⟩ := vnetPollLoop_received budget fuel _ ⟨q, n, d⟩ (processed + 1)
          h1.refines (by omega)
        have hm : min (budget - processed).toNat (skb :: q).length =
            1 + min (budget - (processed + 1)).toNat q.length := by
          simp only [List.length_cons]; omega
        rw [h2, if_pos rfl, hm]
        dsimp only
        dsimp only at ih2
        exact ⟨h1.trans ih1, by rw [ih2]; omega⟩
    · rw [if_neg hp]
      exact Received.nothing h (by omega) processed

end Ring

/-! ### `vnet_stop` frees the queue

It walks the slots in index order, so it frees the queued packets in the
order of the slots, the queue rotated by `rx_tail`. -/

/-- One slot of the loop, the same whether it is empty or not: clear it and
free what it held. -/
theorem vnetStopLoop_succ (ring : ℤ → Option ℕ) (i : ℤ) (n : ℕ) :
    vnetStopLoop ring i (n + 1) =
      ((vnetStopLoop (Function.update ring i none) (i + 1) n).1,
        ((ring i).map PktEvent.free).toList ++ (vnetStopLoop (Function.update ring i none) (i + 1) n).2) := by
  rw [vnetStopLoop]
  cases hr : ring i with
  | none =>
    have hu : Function.update ring i none = ring := by rw [← hr]; exact Function.update_eq_self i ring
    rw [hu]
    rfl
  | some skb => rfl

theorem vnetStopLoop_eq : ∀ (n : ℕ) (ring : ℤ → Option ℕ) (i : ℤ),
    vnetStopLoop ring i n = (fun j => if i ≤ j ∧ j < i + n then none else ring j,
      (List.range n).filterMap fun k : ℕ => (ring (i + (k : ℤ))).map PktEvent.free)
  | 0, ring, i => by
    rw [vnetStopLoop, List.range_zero, List.filterMap_nil]
    congr
    funext j
    rw [if_neg (by omega)]
  | n + 1, ring, i => by
    rw [vnetStopLoop_succ, vnetStopLoop_eq n _ (i + 1)]
    refine Prod.ext (funext fun j => ?_) ?_
    · dsimp only
      by_cases hw : i + 1 ≤ j ∧ j < i + 1 + n
      · rw [if_pos hw, if_pos (by omega)]
      · by_cases hj : j = i
        · rw [if_neg hw, if_pos (by omega), hj, Function.update_same]
        · rw [if_neg hw, if_neg (by omega), Function.update_noteq hj]
    · have hrest : ((List.range n).filterMap fun k : ℕ =>
            (Function.update ring i none (i + 1 + (k : ℤ))).map PktEvent.free) =
          (List.range n).filterMap ((fun k : ℕ => (ring (i + (k : ℤ))).map PktEvent.free) ∘ Nat.succ) :=
        List.filterMap_congr fun k _ => by
          rw [Function.comp_apply, Function.update_noteq (by omega),
            show i + 1 + (k : ℤ) = i + ((k.succ : ℕ) : ℤ) by omega]
      dsimp only
      rw [hrest, List.range_succ_eq_map, List.filterMap_cons, List.filterMap_map,
        show i + ((0 : ℕ) : ℤ) = i by omega]
      cases ring i <;> rfl

/-- The slots in index order hold the queue up to a rotation. -/
theorem Refines.stop_perm {priv : VnetPriv} {f : Fifo} (h : Refines bitsPerLong priv f) :
    ((List.range 64).filterMap fun k : ℕ => (priv.rxRing ((0 : ℤ) + (k : ℤ))).map PktEvent.free).Perm
      (f.queue.map .free) := by
  obtain ⟨⟨h0, h1⟩, -, hl, hq, hf, -, -⟩ := h
  simp only [rxRingSize, fifoCapacity] at *
  have hrot : (List.range 64).rotate priv.rxTail.toNat =
      (List.range 64).map fun k => (priv.rxTail.toNat + k) % 64 :=
    List.ext_getElem (by simp) fun k _ _ => by simp [List.getElem_rotate, Nat.add_comm]
  refine ((List.rotate_perm _ priv.rxTail.toNat).filterMap _).symm.trans ?_
  rw [hrot, List.filterMap_map, filterMap_range_eq (f.queue.map PktEvent.free) _ 64 (by simp; omega)
    (fun k hk => ?_) (fun k hk hk' => ?_)]
  · simp only [List.length_map] at hk
    simp only [Function.comp, List.getElem_map]
    rw [show (0 : ℤ) + ((priv.rxTail.toNat + k) % 64 : ℕ) = (priv.rxTail + k) % 64 by omega, hq k hk]
    rfl
  · simp only [List.length_map] at hk
    simp only [Function.comp]
    rw [show (0 : ℤ) + ((priv.rxTail.toNat + k) % 64 : ℕ) = (priv.rxTail + k) % 64 by omega,
      hf k hk (by omega)]
    rfl

/-! ### The driver refines the FIFO -/

/-- The same packet events, but for the frees of `vnet_stop`, which may come
in another order. -/
def SameEffect (c a : List PktEvent) : Prop :=
  c.Perm a ∧ c.filter PktEvent.ordered = a.filter PktEvent.ordered

theorem sameEffect_refl (c : List PktEvent) : SameEffect c c := ⟨List.Perm.refl c, rfl⟩

theorem sameEffect_of_frees {c a : List PktEvent} (hp : c.Perm a)
    (hc : ∀ e ∈ c, PktEvent.ordered e = false) : SameEffect c a := by
  refine ⟨hp, ?_⟩
  rw [List.filter_eq_nil_iff.2 fun e he => by simp [hc e he],
    List.filter_eq_nil_iff.2 fun e he => by simp [hc e (hp.symm.subset he)]]

theorem Refines.stop {priv : VnetPriv} {f : Fifo} (h : Refines bitsPerLong priv f) :
    Refines bitsPerLong (vnetStop priv).1 { f with queue := [] } ∧
      SameEffect (vnetStop priv).2 (f.queue.map .free) := by
  simp only [vnetStop, show rxRingSize.toNat = 64 from rfl, vnetStopLoop_eq]
  refine ⟨⟨⟨Int.le_refl 0, (by decide : (0 : ℤ) < 64)⟩, rfl, Nat.zero_le _,
    fun _ hk => absurd hk (Nat.not_lt_zero _), fun k _ hk => ?_, h.next_eq, h.dropped_eq⟩,
    sameEffect_of_frees h.stop_perm fun e he => ?_⟩
  · simp only [rxRingSize] at hk ⊢
    rw [if_pos (by omega)]
  · obtain ⟨k, -, hk⟩ := List.mem_filterMap.1 he
    obtain ⟨x, -, rfl⟩ := Option.map_eq_some'.1 hk
    rfl

/-- **Each call refines the FIFO's.** -/
theorem vnetStep_refines {priv : VnetPriv} {f : Fifo} (h : Refines bitsPerLong priv f) : ∀ op,
    Refines bitsPerLong (vnetStep bitsPerLong priv op).1 (fifoStep f op).1 ∧
      SameEffect (vnetStep bitsPerLong priv op).2 (fifoStep f op).2
  | .xmit _ false => ⟨h.withCounters _ _ _ _ _, sameEffect_refl _⟩
  | .xmit len true => by
    obtain ⟨q, n, d⟩ := f
    obtain rfl : n = priv.nextSkb := h.next_eq.symm
    have h' : Refines bitsPerLong { priv with
        txPackets := priv.txPackets + 1, txBytes := priv.txBytes + len, nextSkb := priv.nextSkb + 1,
        skbLen := Function.update priv.skbLen priv.nextSkb len } ⟨q, priv.nextSkb + 1, d⟩ :=
      { h with next_eq := rfl }
    simp only [vnetStep, vnetStartXmit, fifoStep, if_true, rxRingFull]
    by_cases hl : q.length = fifoCapacity
    · rw [if_pos hl, if_neg (by simpa using h.full_iff.2 hl)]
      refine ⟨{ h' with dropped_eq := ?_ }, sameEffect_refl _⟩
      show (priv.rxDropped + 1) % 2 ^ bitsPerLong = (d + 1) % 2 ^ bitsPerLong
      rw [h.dropped_eq, Nat.mod_add_mod]
    · rw [if_neg hl, if_pos (by simpa using mt h.full_iff.1 hl)]
      exact ⟨h'.enqueue hl _, sameEffect_refl _⟩
  | .pollPass => by
    obtain ⟨q, n, d⟩ := f
    cases q with
    | nil =>
      simp only [vnetStep, fifoStep, h.pollPass_nil rfl]
      exact ⟨h, sameEffect_refl _⟩
    | cons skb q =>
      obtain ⟨⟨h1, h2, -⟩, -⟩ := h.pollPass_cons
      simp only [vnetStep, fifoStep, h2]
      exact ⟨h1, sameEffect_refl _⟩
  | .poll budget => by
    obtain ⟨⟨h1, h2, -⟩, -⟩ := vnetPollLoop_received budget budget.toNat priv f 0 h (by omega)
    rw [Int.sub_zero] at h1 h2
    simp only [vnetStep, fifoStep, vnetPoll, h2]
    exact ⟨h1, sameEffect_refl _⟩
  | .stop => h.stop


/-! ### Every run of the driver -/

theorem received_sublist_left : ∀ evs : List PktEvent,
    (evs.filterMap PktEvent.received).Sublist (evs.filterMap PktEvent.left)
  | [] => .slnil
  | .receive x :: evs => .cons₂ x (received_sublist_left evs)
  | .free x :: evs => .cons x (received_sublist_left evs)
  | .queue _ :: evs | .drop _ :: evs | .nullSkb :: evs => received_sublist_left evs

theorem queued_sublist_copied : ∀ evs : List PktEvent,
    (evs.filterMap PktEvent.queued).Sublist (evs.filterMap PktEvent.copied)
  | [] => .slnil
  | .queue x :: evs => .cons₂ x (queued_sublist_copied evs)
  | .drop x :: evs => .cons x (queued_sublist_copied evs)
  | .receive _ :: evs | .free _ :: evs | .nullSkb :: evs => queued_sublist_copied evs

theorem SameEffect.flatten : ∀ {cs as : List (List PktEvent)}, List.Forall₂ SameEffect cs as →
    cs.flatten.Perm as.flatten ∧
      cs.flatten.filter PktEvent.ordered = as.flatten.filter PktEvent.ordered
  | [], [], .nil => ⟨.refl _, rfl⟩
  | _ :: _, _ :: _, .cons h hs => by
    obtain ⟨hp, hf⟩ := SameEffect.flatten hs
    exact ⟨h.1.append hp, by simp only [List.flatten_cons, List.filter_append, h.2, hf]⟩

/-- What does not look at frees sees the same events through `ordered`. -/
theorem filterMap_filter_ordered (g : PktEvent → Option ℕ) (hg : ∀ x, g (.free x) = none)
    (l : List PktEvent) : (l.filter PktEvent.ordered).filterMap g = l.filterMap g := by
  rw [List.filterMap_filter]
  exact List.filterMap_congr fun e _ => by cases e <;> simp [PktEvent.ordered, hg]

/-- **The RX ring is a lossless FIFO.** In every run from `vnet_init` of
transmits, poll passes, polls and stops: the indices stay in range and the
occupied slots are the window from `rx_tail` to `rx_head`; the ring holds the
FIFO's queue and each call does with packets what the FIFO's does, the frees
of `vnet_stop` in slot order; no poll meets a `NULL` slot; packets are
received in the order they were enqueued; the packets that left the ring
(received or freed), each once, followed by those still queued, are the
enqueued ones; and the copies are queued or dropped once each, in order. -/
theorem vnet_rx_ring_lossless (bitsPerLong : ℕ) (ops : List VnetOp) :
    let r : VnetPriv × List (List PktEvent) := run (vnetStep bitsPerLong) vnetInit ops
    let a : Fifo × List (List PktEvent) := run fifoStep Fifo.init ops
    RingInv r.1 ∧ Refines bitsPerLong r.1 a.1 ∧ List.Forall₂ SameEffect r.2 a.2 ∧
      PktEvent.nullSkb ∉ r.2.flatten ∧
      (r.2.flatten.filterMap PktEvent.received ++ a.1.queue).Sublist
        (r.2.flatten.filterMap PktEvent.queued) ∧
      (r.2.flatten.filterMap PktEvent.left ++ a.1.queue).Perm
        (r.2.flatten.filterMap PktEvent.queued) ∧
      (r.2.flatten.filterMap PktEvent.left).Nodup ∧
      r.2.flatten.filterMap PktEvent.copied = List.range r.1.nextSkb := by
  intro r a
  obtain ⟨hR, hO⟩ : Refines bitsPerLong r.1 a.1 ∧ List.Forall₂ SameEffect r.2 a.2 :=
    run_sim_rel (vnetStep bitsPerLong) fifoStep (Refines bitsPerLong) SameEffect
      (fun _ _ op h => vnetStep_refines h op) ops _ _
      refines_init
  obtain ⟨hc, hn, hnull⟩ : Accounts a.1 a.2.flatten := accounts_run ops
  obtain ⟨hp, hf⟩ := SameEffect.flatten hO
  have heq : ∀ g : PktEvent → Option ℕ, (∀ x, g (.free x) = none) →
      r.2.flatten.filterMap g = a.2.flatten.filterMap g := fun g hg => by
    rw [← filterMap_filter_ordered g hg, hf, filterMap_filter_ordered g hg]
  have hq := heq PktEvent.queued fun _ => rfl
  have hnd : (a.2.flatten.filterMap PktEvent.queued).Nodup :=
    (queued_sublist_copied _).nodup (hn ▸ List.nodup_range _)
  refine ⟨hR.ringInv, hR, hO, fun hm => hnull (hp.mem_iff.1 hm), ?_, ?_, ?_, ?_⟩
  · rw [heq PktEvent.received fun _ => rfl, hq, ← hc]
    exact (received_sublist_left _).append_right _
  · rw [hq, ← hc]
    exact (hp.filterMap _).append_right _
  · rw [← hc] at hnd
    exact (hp.filterMap _).nodup_iff.2 hnd.of_append_left
  · rw [heq PktEvent.copied fun _ => rfl, hn, hR.next_eq]

end Vnet
end DriverGuide
