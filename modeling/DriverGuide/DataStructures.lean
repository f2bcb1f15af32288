/-
# The data structures demo: the hash table is a list of devices

`part2/data-structures/data_structures_demo.c` keeps clients on the
`list_head` list `client_list` and devices in `device_table`, a
`DEFINE_HASHTABLE` of 64 buckets: `add_device` puts an entry at the head of
bucket `hash_min(id, 6)`, `find_device` walks that bucket only, and
`stats_show` lists the buckets in order. Writes to
`/proc/data_structures_demo` run `populate` (four clients, then four devices,
each `kmalloc` of which may fail), `clear`, and `find <id>`, whose only effect
is the line it logs.

What the table is for is a list of devices, newest first, and the client list
in the order of the adds (`DemoLists`, run by the same `stats_write` over list
operations, `listOps`). Every bucket holds the devices of its hash, in that
order, and the counts are the lengths read as `int`s (`Refines`), so:

* every run of `stats_write` answers and logs exactly as the same run on the
  lists (`data_structures_refines_lists`): `find_device` returns the newest
  device with the id, whatever else shares its bucket;
* `stats_show` lists the clients in order and every device once, with its
  bucket `hash_32(id, 6)` (`stats_show_lists_every_device`);
* `find <n>` with `n` written as `%d` prints it finds exactly the devices
  added with id `n` since the last `clear` (`find_command_spec`): `kstrtoint`
  reads `%d` back.

Not covered: `remove_client`, which nothing calls; the `strscpy` of names and
descriptions into their fields, which every name passed fits; module exit,
which clears both.

Key definitions: `bucketOf`, `DemoOps.statsWrite`, `tableOps`, `listOps`,
`statsWrite`, `statsShow`, `Refines`.
Key theorems: `Refines.findDevice`, `Refines.statsWrite`,
`data_structures_refines_lists`, `stats_show_lists_every_device`,
`find_command_spec`.
-/
import DriverGuide.Basic

namespace DriverGuide
namespace DataStructures

/-! ### The hash -/

/-- `GOLDEN_RATIO_32` of `include/linux/hash.h`. -/
def GOLDEN_RATIO_32 : ℕ := 0x61C88647

/-- `hash_32(val, bits)`: `__hash_32`, the product with `GOLDEN_RATIO_32` as
a `u32`, and its top `bits` bits. -/
def hash32 (val bits : ℕ) : ℕ := (val * GOLDEN_RATIO_32 % 2 ^ 32) >>> (32 - bits)

/-- The bucket of `device_table` an `int` key goes to: `hash_min(key, 6)`,
which is `hash_32` of the key as a `u32`, an `int` having 4 bytes. -/
def bucketOf (key : ℤ) : ℕ := hash32 (key % 2 ^ 32).toNat 6

theorem bucketOf_lt (key : ℤ) : bucketOf key < 64 := by
  unfold bucketOf hash32
  rw [Nat.shiftRight_eq_div_pow]
  have := Nat.mod_lt ((key % 2 ^ 32).toNat * GOLDEN_RATIO_32) (show 2 ^ 32 > 0 by norm_num)
  norm_num at this ⊢
  omega

example : bucketOf 100 = 12 := rfl

/-! ### The driver -/

/-- `struct client` without its `list_head`. -/
structure Client where
  id : ℤ
  name : String
  deriving DecidableEq, Repr

/-- `struct device_entry` without its `hlist_node`. -/
structure DeviceEntry where
  devId : ℤ
  description : String
  deriving DecidableEq, Repr

/-- The module's state: `client_list`, head to tail, and `client_count`; the
buckets of `device_table`, each head first, and `device_count`. -/
structure DemoState where
  clientList : List Client
  clientCount : ℤ
  deviceTable : ℕ → List DeviceEntry
  deviceCount : ℤ

/-- After `data_structures_demo_init`: `LIST_HEAD` and `hash_init`. -/
def dataStructuresDemoInit : DemoState := ⟨[], 0, fun _ => [], 0⟩

/-- `add_client(id, name)`, its `kmalloc` succeeding when `ok`. -/
def addClient (s : DemoState) (ok : Bool) (id : ℤ) (name : String) : DemoState :=
  if ok then { s with clientList := s.clientList ++ [⟨id, name⟩], clientCount := intInc s.clientCount }
  else s

def clearClients (s : DemoState) : DemoState := { s with clientList := [], clientCount := 0 }

/-- `add_device(id, desc)`: `hash_add` puts the entry at the head of its
bucket. -/
def addDevice (s : DemoState) (ok : Bool) (id : ℤ) (desc : String) : DemoState :=
  if ok then
    { s with
      deviceTable := Function.update s.deviceTable (bucketOf id) (⟨id, desc⟩ :: s.deviceTable (bucketOf id))
      deviceCount := intInc s.deviceCount }
  else s

/-- `find_device(id)`: `hash_for_each_possible` walks the key's bucket. -/
def findDevice (s : DemoState) (id : ℤ) : Option DeviceEntry :=
  (s.deviceTable (bucketOf id)).find? fun e => e.devId = id

def clearDevices (s : DemoState) : DemoState := { s with deviceTable := fun _ => [], deviceCount := 0 }

/-- The operations `stats_write` calls, over any store of clients and
devices. -/
structure DemoOps (σ : Type) where
  addClient : σ → Bool → ℤ → String → σ
  clearClients : σ → σ
  addDevice : σ → Bool → ℤ → String → σ
  findDevice : σ → ℤ → Option DeviceEntry
  clearDevices : σ → σ

/-- What `stats_write` logs. -/
inductive DsLog
  | populated
  | cleared
  | found (id : ℤ) (description : String)
  | notFound (id : ℤ)
  | unknown (cmd : List UInt8)
  deriving DecidableEq, Repr

section Write

variable {σ : Type} (o : DemoOps σ)

/-- The `populate` command: the `i`-th `kmalloc` succeeds when `ok i`. -/
def DemoOps.populate (s : σ) (ok : Fin 8 → Bool) : σ :=
  let s := o.addClient s (ok 0) 1 "uart0"
  let s := o.addClient s (ok 1) 2 "spi1"
  let s := o.addClient s (ok 2) 3 "i2c2"
  let s := o.addClient s (ok 3) 4 "gpio3"
  let s := o.addDevice s (ok 4) 100 "temperature sensor"
  let s := o.addDevice s (ok 5) 200 "accelerometer"
  let s := o.addDevice s (ok 6) 300 "display controller"
  o.addDevice s (ok 7) 400 "audio codec"

/-- `stats_write(file, buf, count, ppos)`: the command in `char cmd[32]`,
then `populate`, `clear` or `find <id>`. -/
def DemoOps.statsWrite (s : σ) (buf : UserBuf) (count : ℕ) (ok : Fin 8 → Bool) :
    σ × ℤ × List DsLog :=
  match procCommand 32 buf count with
  | none => (s, -EFAULT, [])
  | some cmd =>
    if cmd = asciiBytes "populate" then (o.populate s ok, count, [.populated])
    else if cmd = asciiBytes "clear" then (o.clearDevices (o.clearClients s), count, [.cleared])
    else if asciiBytes "find " <+: cmd then
      (s, count,
        match kstrtoint (cmd.drop 5) 10 with
        | .ok id =>
          [match o.findDevice s id with
            | some e => .found e.devId e.description
            | none => .notFound id]
        | .error _ => [])
    else (s, count, [.unknown cmd])

end Write

/-- The module's own list and table. -/
def tableOps : DemoOps DemoState := ⟨addClient, clearClients, addDevice, findDevice, clearDevices⟩

/-- A write of `count` bytes of `buf` to `/proc/data_structures_demo`, the
`kmalloc`s of a `populate` succeeding as `ok` says. -/
structure DsWrite where
  buf : UserBuf
  count : ℕ
  ok : Fin 8 → Bool

def statsWrite (s : DemoState) (w : DsWrite) : DemoState × ℤ × List DsLog :=
  tableOps.statsWrite s w.buf w.count w.ok

/-- `seq_printf(m, "  [%d] %s\n", c->id, c->name)`. -/
def clientLine (c : Client) : String := "  [" ++ toString c.id ++ "] " ++ c.name ++ "\n"

/-- `seq_printf(m, "  [%d] %s (bucket %d)\n", e->dev_id, e->description, bkt)`. -/
def deviceLine (e : DeviceEntry) (bkt : ℕ) : String :=
  "  [" ++ toString e.devId ++ "] " ++ e.description ++ " (bucket " ++ toString bkt ++ ")\n"

/-- The device lines of `stats_show`: `hash_for_each` walks the buckets in
order, each from its head. -/
def deviceLines (s : DemoState) : List String :=
  (List.range 64).flatMap fun bkt => (s.deviceTable bkt).map fun e => deviceLine e bkt

/-- `stats_show`: the text of `/proc/data_structures_demo`. -/
def statsShow (s : DemoState) : List String :=
  ["Data Structures Demo\n", "====================\n\n",
    "Linked List (" ++ toString s.clientCount ++ " clients):\n"] ++
  s.clientList.map clientLine ++
  ["\nHash Table (" ++ toString s.deviceCount ++ " devices):\n"] ++ deviceLines s ++
  ["\nCommands: populate, clear, find <id>\n"]

/-! ### What the table stands for -/

/-- The clients in the order they were added, and the devices newest first. -/
structure DemoLists where
  clients : List Client
  devices : List DeviceEntry

/-- The operations on the lists: a device is found by walking all of them. -/
def listOps : DemoOps DemoLists where
  addClient a ok id name := if ok then { a with clients := a.clients ++ [⟨id, name⟩] } else a
  clearClients a := { a with clients := [] }
  addDevice a ok id desc := if ok then { a with devices := ⟨id, desc⟩ :: a.devices } else a
  findDevice a id := a.devices.find? fun e => e.devId = id
  clearDevices a := { a with devices := [] }

def listWrite (a : DemoLists) (w : DsWrite) : DemoLists × ℤ × List DsLog :=
  listOps.statsWrite a w.buf w.count w.ok

/-- The table holds the devices, each in the bucket of its id, newest first;
the counts are the numbers of clients and devices as `int`s. -/
structure Refines (s : DemoState) (a : DemoLists) : Prop where
  clients : s.clientList = a.clients
  clientCount : s.clientCount = intOfCount a.clients.length
  buckets : ∀ b, s.deviceTable b = a.devices.filter fun e => bucketOf e.devId = b
  deviceCount : s.deviceCount = intOfCount a.devices.length

theorem refines_init : Refines dataStructuresDemoInit ⟨[], []⟩ :=
  ⟨rfl, rfl, fun _ => rfl, rfl⟩

section Refines

variable {s : DemoState} {a : DemoLists}

theorem Refines.addClient (h : Refines s a) (ok : Bool) (id : ℤ) (name : String) :
    Refines (tableOps.addClient s ok id name) (listOps.addClient a ok id name) := by
  cases ok
  · exact h
  · refine { h with clients := ?_, clientCount := ?_ }
    · simp [tableOps, listOps, DataStructures.addClient, h.clients]
    · simp [tableOps, listOps, DataStructures.addClient, h.clientCount, intInc_intOfCount]

theorem Refines.addDevice (h : Refines s a) (ok : Bool) (id : ℤ) (desc : String) :
    Refines (tableOps.addDevice s ok id desc) (listOps.addDevice a ok id desc) := by
  cases ok
  · exact h
  · refine { h with buckets := fun b => ?_, deviceCount := ?_ }
    · by_cases hb : b = bucketOf id
      · subst hb
        simp [tableOps, listOps, DataStructures.addDevice, h.buckets]
      · simp [tableOps, listOps, DataStructures.addDevice, h.buckets, Function.update_noteq hb,
          Ne.symm hb]
    · simp [tableOps, listOps, DataStructures.addDevice, h.deviceCount, intInc_intOfCount]

/-- `clear` empties both, whatever they held. -/
theorem refines_clear (s : DemoState) (a : DemoLists) :
    Refines (tableOps.clearDevices (tableOps.clearClients s))
      (listOps.clearDevices (listOps.clearClients a)) :=
  ⟨rfl, rfl, fun _ => rfl, rfl⟩

/-- **`find_device` finds what a walk of all the devices finds**: the
newest device with the id. The bucket holds every device of its hash, and a
device with the id has that hash. -/
theorem Refines.findDevice (h : Refines s a) (id : ℤ) :
    tableOps.findDevice s id = listOps.findDevice a id := by
  simp only [tableOps, listOps, DataStructures.findDevice, h.buckets, List.find?_filter]
  congr 1
  funext e
  by_cases he : e.devId = id <;> simp [he]

theorem Refines.populate (h : Refines s a) (ok : Fin 8 → Bool) :
    Refines (tableOps.populate s ok) (listOps.populate a ok) :=
  ((((((((h.addClient _ _ _).addClient _ _ _).addClient _ _ _).addClient _ _ _).addDevice _ _ _).addDevice
    _ _ _).addDevice _ _ _).addDevice _ _ _)

/-- **One write**: the table and the lists answer and log alike, and stay
related. -/
theorem Refines.statsWrite (h : Refines s a) (w : DsWrite) :
    Refines (DataStructures.statsWrite s w).1 (listWrite a w).1 ∧
      (DataStructures.statsWrite s w).2 = (listWrite a w).2 := by
  unfold DataStructures.statsWrite listWrite DemoOps.statsWrite
  split
  · exact ⟨h, rfl⟩
  · split_ifs
    · exact ⟨h.populate w.ok, rfl⟩
    · exact ⟨refines_clear s a, rfl⟩
    · exact ⟨h, by split <;> simp only [h.findDevice]⟩
    · exact ⟨h, rfl⟩

/-- Walking buckets `0 … n - 1`, each in full, meets every key below `n` once. -/
theorem flatMap_range_filter_perm {α : Type} (k : α → ℕ) (l : List α) (n : ℕ) :
    List.Perm ((List.range n).flatMap fun b => l.filter fun e => k e = b)
      (l.filter fun e => k e < n) := by
  induction n with
  | zero => simp
  | succ n ih =>
    rw [List.range_succ, List.flatMap_append, List.flatMap_singleton]
    refine (ih.append_right _).trans ?_
    have h := List.filter_append_perm (fun e => decide (k e < n)) (l.filter fun e => k e < n + 1)
    rw [List.filter_filter, List.filter_filter] at h
    refine .trans (.of_eq ?_) h
    congr 1 <;> refine List.filter_congr fun x _ => ?_ <;> by_cases hx : k x < n <;> simp [hx] <;>
      omega

/-- **`stats_show` lists every device once**, with its bucket: the buckets
in order are the devices, newest first, sorted by bucket. -/
theorem Refines.deviceLines (h : Refines s a) :
    List.Perm (DataStructures.deviceLines s) (a.devices.map fun e => deviceLine e (bucketOf e.devId)) := by
  have hmap : DataStructures.deviceLines s = ((List.range 64).flatMap fun b =>
      a.devices.filter fun e => bucketOf e.devId = b).map fun e => deviceLine e (bucketOf e.devId) := by
    rw [List.map_flatMap]
    refine List.flatMap_congr fun b _ => ?_
    rw [h.buckets]
    exact List.map_congr_left fun e he => by rw [of_decide_eq_true (List.mem_filter.1 he).2]
  rw [hmap]
  have := (flatMap_range_filter_perm (fun e => bucketOf e.devId) a.devices 64).map
    fun e => deviceLine e (bucketOf e.devId)
  rwa [List.filter_eq_self.2 fun e _ => by simpa using bucketOf_lt e.devId] at this

end Refines

theorem refines_run (ws : List DsWrite) :
    Refines (run statsWrite dataStructuresDemoInit ws).1 (run listWrite ⟨[], []⟩ ws).1 :=
  (run_sim statsWrite listWrite Refines (fun _ => True) (fun _ _ w h _ => h.statsWrite w) ws _ _
    refines_init fun _ _ => trivial).1

/-- **The hash table is a list of devices.** Every run of `stats_write` on
the module returns and logs exactly what the same run on a list of clients
and a list of devices, newest first, returns and logs, and the two stay
related. -/
theorem data_structures_refines_lists (ws : List DsWrite) :
    Refines (run statsWrite dataStructuresDemoInit ws).1 (run listWrite ⟨[], []⟩ ws).1 ∧
      (run statsWrite dataStructuresDemoInit ws).2 = (run listWrite ⟨[], []⟩ ws).2 :=
  run_sim statsWrite listWrite Refines (fun _ => True) (fun _ _ w h _ => h.statsWrite w) ws _ _
    refines_init fun _ _ => trivial

/-- **`stats_show` lists every device once.** After any run of writes, the
device lines of `/proc/data_structures_demo` are, in some order, one line per
device added since the last `clear`, with its bucket `hash_32(id, 6)`. -/
theorem stats_show_lists_every_device (ws : List DsWrite) :
    List.Perm (deviceLines (run statsWrite dataStructuresDemoInit ws).1)
      ((run listWrite ⟨[], []⟩ ws).1.devices.map fun e => deviceLine e (bucketOf e.devId)) :=
  (refines_run ws).deviceLines

theorem asciiBytes_append (s t : String) : asciiBytes (s ++ t) = asciiBytes s ++ asciiBytes t :=
  List.map_append _ _ _

/-- The command `find <n>`, `n` as `%d` prints it. -/
theorem find_command {n : ℤ} (h₀ : -2 ^ 31 ≤ n) (h₁ : n < 2 ^ 31) {nl : List UInt8}
    (hnl : nl = [] ∨ nl = [10]) :
    procCommand 32 ⟨asciiBytes ("find " ++ toString n) ++ nl⟩
      (asciiBytes ("find " ++ toString n) ++ nl).length = some (asciiBytes ("find " ++ toString n)) := by
  obtain ⟨hlen, h0, h10⟩ := int_digits h₀ h₁
  have hfind : asciiBytes "find " = [102, 105, 110, 100, 32] := rfl
  rw [asciiBytes_append, hfind] at *
  refine procCommand_echo ?_ (by simpa using h0) (by simpa using h10) hnl
  rcases hnl with rfl | rfl <;> simp <;> omega

/-- **`find <n>` finds the newest device with id `n`.** After any run of
writes, writing `find ` and an `int` as `%d` prints it, with or without a
newline, changes nothing, returns the count, and logs the description of the
last device added with that id since the last `clear`, or that there is none.
-/
theorem find_command_spec (ws : List DsWrite) {n : ℤ} (h₀ : -2 ^ 31 ≤ n) (h₁ : n < 2 ^ 31)
    {nl : List UInt8} (hnl : nl = [] ∨ nl = [10]) (ok : Fin 8 → Bool) :
    let s := (run statsWrite dataStructuresDemoInit ws).1
    let line := asciiBytes ("find " ++ toString n) ++ nl
    statsWrite s ⟨⟨line⟩, line.length, ok⟩ =
      (s, (line.length : ℤ),
        [match (run listWrite ⟨[], []⟩ ws).1.devices.find? (fun e => e.devId = n) with
          | some e => DsLog.found n e.description
          | none => DsLog.notFound n]) := by
  intro s line
  have hfind : asciiBytes "find " = [102, 105, 110, 100, 32] := rfl
  have hdrop : (asciiBytes ("find " ++ toString n)).drop 5 = asciiBytes (toString n) := by
    rw [asciiBytes_append, hfind]; rfl
  have hparse : kstrtoint (asciiBytes (toString n)) 10 = .ok n := by
    simpa using kstrtoint_toString h₀ h₁ (.inr rfl) (.inl rfl)
  simp only [statsWrite, DemoOps.statsWrite, line, find_command h₀ h₁ hnl, hdrop, hparse]
  rw [if_neg, if_neg, if_pos (by rw [asciiBytes_append]; exact List.prefix_append _ _),
    (refines_run ws).findDevice]
  · simp only [listOps]
    split <;> rename_i h
    · have he := List.find?_some h
      simp only [decide_eq_true_eq] at he
      rw [he]
    · rfl
  all_goals
    rw [asciiBytes_append, hfind]
    intro h
    have h1 := congrArg List.head? h
    simp only [List.cons_append, List.head?_cons] at h1
    exact absurd h1 (by decide)

/-- After `populate`, `find 200` finds the accelerometer. -/
theorem find_after_populate :
    let ws : List DsWrite := [⟨⟨asciiBytes "populate\n"⟩, 9, fun _ => true⟩]
    let line := asciiBytes ("find " ++ toString (200 : ℤ)) ++ [10]
    ((-2 ^ 31 : ℤ) ≤ 200 ∧ (200 : ℤ) < 2 ^ 31 ∧ ([10] = [] ∨ [10] = [10])) ∧
      statsWrite (run statsWrite dataStructuresDemoInit ws).1 ⟨⟨line⟩, line.length, fun _ => true⟩ =
        ((run statsWrite dataStructuresDemoInit ws).1, (line.length : ℤ),
          [DsLog.found 200 "accelerometer"]) :=
  ⟨⟨by decide, by decide, .inr rfl⟩,
    (find_command_spec [⟨⟨asciiBytes "populate\n"⟩, 9, fun _ => true⟩] (by decide) (by decide)
      (.inr rfl) _).trans rfl⟩

end DataStructures
end DriverGuide
