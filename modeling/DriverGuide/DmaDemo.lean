/-
# The DMA demo's streaming mapping: one at a time, directions unchecked

`part5/dma-demo/dma_demo.c` maps its streaming buffer with `dma_map_single`
on `smap_to` (for `DMA_TO_DEVICE`) or `smap_from` (for `DMA_FROM_DEVICE`),
and `streaming_mapped` guards every other use. The DMA API's side is the
list of the device's live mappings, each a handle and the direction it was
mapped with; the driver's calls change it.

For every sequence of commands (`streaming_protocol`): at most one mapping
is live, `streaming_mapped` says whether one is, and `streaming_maps -
streaming_unmaps` counts it; every `dma_unmap_single` and every sync names
the live mapping's handle; and after `dma_demo_remove` nothing is live. But
the direction of an unmap or a sync is fixed by the command, not by the
mapping: `sunmap_to` after `smap_from` unmaps a `DMA_FROM_DEVICE` mapping
with `DMA_TO_DEVICE`, and `dma_demo_remove` always unmaps with
`DMA_BIDIRECTIONAL` (`unmap_direction_differs`).

Not covered: the text commands before `sscanf` (a command is given parsed)
and `stats_show`.

Key definitions: `mapStreaming`, `unmapStreaming`, `statsWrite`,
`dmaDemoRemove`, `dmaApply`, `dmaStep`, `StreamingInv`.
Key theorems: `StreamingInv.step`, `dmaStep_names_live`, `streaming_protocol`,
`unmap_direction_differs`.
-/
import DriverGuide.Basic

namespace DriverGuide
namespace DmaDemo

/-! ### The driver -/

/-- `DMA_BUFFER_SIZE`. -/
def dmaBufferSize : ℕ := 4096

/-- `COHERENT_BUFFER_SIZE`. -/
def coherentBufferSize : ℕ := 1024

/-- `DMA_MAPPING_ERROR`, `~(dma_addr_t)0`. -/
def dmaMappingError : ℕ := 2 ^ 64 - 1

/-- `enum dma_data_direction` as the driver uses it. -/
inductive DmaDataDirection
  | bidirectional
  | toDevice
  | fromDevice
  deriving DecidableEq

/-- `struct dma_demo_dev` without the device pointer and the coherent
buffer's bus address. -/
structure DmaDemoDev where
  coherentBuf : ℤ → UInt8
  streamingBuf : ℤ → UInt8
  streamingDma : ℕ
  streamingMapped : Bool
  coherentWrites : ℕ
  coherentReads : ℕ
  streamingMaps : ℕ
  streamingUnmaps : ℕ

/-- A call that changes or uses a streaming mapping. -/
inductive DmaCall
  | map (handle : ℕ) (dir : DmaDataDirection)
  | unmap (handle : ℕ) (dir : DmaDataDirection)
  | syncForCpu (handle : ℕ) (dir : DmaDataDirection)
  | syncForDevice (handle : ℕ) (dir : DmaDataDirection)
  deriving DecidableEq

/-- The handle an unmap or a sync names. -/
def DmaCall.usedHandle : DmaCall → Option ℕ
  | .map _ _ => none
  | .unmap h _ | .syncForCpu h _ | .syncForDevice h _ => some h

/-- `write_coherent(dev, data, len)`. -/
def writeCoherent (dev : DmaDemoDev) (data : List UInt8) : DmaDemoDev :=
  { dev with
    coherentBuf := writeBytes dev.coherentBuf 0 (data.take (min data.length coherentBufferSize))
    coherentWrites := dev.coherentWrites + 1 }

/-- `read_coherent(dev, data, len)`: the device and the bytes read. -/
def readCoherent (dev : DmaDemoDev) (len : ℕ) : DmaDemoDev × List UInt8 :=
  ({ dev with coherentReads := dev.coherentReads + 1 },
    readBytes dev.coherentBuf 0 (min len coherentBufferSize))

/-- `dma_map_single(..., dir)` returning `handle`, and what both map
functions do after it. -/
def mapStreaming (dev : DmaDemoDev) (dir : DmaDataDirection) (handle : ℕ) :
    DmaDemoDev × ℤ × List DmaCall :=
  if handle = dmaMappingError then ({ dev with streamingDma := handle }, -ENOMEM, [])
  else
    ({ dev with
      streamingDma := handle
      streamingMapped := true
      streamingMaps := dev.streamingMaps + 1 }, 0, [.map handle dir])

/-- `map_streaming_to_device(dev, data, len)`. -/
def mapStreamingToDevice (dev : DmaDemoDev) (data : List UInt8) (handle : ℕ) :
    DmaDemoDev × ℤ × List DmaCall :=
  if dev.streamingMapped then (dev, -EBUSY, [])
  else
    mapStreaming
      { dev with
        streamingBuf := writeBytes dev.streamingBuf 0 (data.take (min data.length dmaBufferSize)) }
      .toDevice handle

/-- `map_streaming_from_device(dev)`. -/
def mapStreamingFromDevice (dev : DmaDemoDev) (handle : ℕ) : DmaDemoDev × ℤ × List DmaCall :=
  if dev.streamingMapped then (dev, -EBUSY, []) else mapStreaming dev .fromDevice handle

/-- `unmap_streaming(dev, dir)`. -/
def unmapStreaming (dev : DmaDemoDev) (dir : DmaDataDirection) : DmaDemoDev × List DmaCall :=
  if dev.streamingMapped then
    ({ dev with streamingMapped := false, streamingUnmaps := dev.streamingUnmaps + 1 },
      [.unmap dev.streamingDma dir])
  else (dev, [])

/-- `sync_streaming_for_cpu` and `sync_streaming_for_device`: the DMA sync
`sync` on the mapped buffer. -/
def syncStreaming (sync : ℕ → DmaDataDirection → DmaCall) (dev : DmaDemoDev)
    (dir : DmaDataDirection) : DmaDemoDev × List DmaCall :=
  (dev, if dev.streamingMapped then [sync dev.streamingDma dir] else [])

/-- `sync_streaming_for_cpu(dev, dir)`. -/
def syncStreamingForCpu (dev : DmaDemoDev) (dir : DmaDataDirection) : DmaDemoDev × List DmaCall :=
  syncStreaming .syncForCpu dev dir

/-- `sync_streaming_for_device(dev, dir)`. -/
def syncStreamingForDevice (dev : DmaDemoDev) (dir : DmaDataDirection) :
    DmaDemoDev × List DmaCall :=
  syncStreaming .syncForDevice dev dir

/-- A command of `stats_write` once `sscanf` has parsed it; a map command
carries the handle `dma_map_single` returns. -/
inductive DmaCmd
  | cwrite (data : List UInt8)
  | cread
  | smapTo (data : List UInt8) (handle : ℕ)
  | smapFrom (handle : ℕ)
  | sunmapTo
  | sunmapFrom
  | syncCpu
  | syncDev
  | unknown

/-- `stats_write`: each command passes the string it scanned with its
terminating zero, `strlen(data) + 1` bytes. -/
def statsWrite (dev : DmaDemoDev) : DmaCmd → DmaDemoDev × List DmaCall
  | .cwrite data => (writeCoherent dev (data ++ [0]), [])
  | .cread => ((readCoherent dev 64).1, [])
  | .smapTo data handle =>
    let r := mapStreamingToDevice dev (data ++ [0]) handle
    (r.1, r.2.2)
  | .smapFrom handle =>
    let r := mapStreamingFromDevice dev handle
    (r.1, r.2.2)
  | .sunmapTo => unmapStreaming dev .toDevice
  | .sunmapFrom => unmapStreaming dev .fromDevice
  | .syncCpu => syncStreamingForCpu dev .fromDevice
  | .syncDev => syncStreamingForDevice dev .toDevice
  | .unknown => (dev, [])

/-- The streaming part of `dma_demo_remove`. -/
def dmaDemoRemove (dev : DmaDemoDev) : List DmaCall :=
  if dev.streamingMapped then [.unmap dev.streamingDma .bidirectional] else []

/-! ### The DMA API's side

The live mappings of the device, each with the direction it was mapped
with. -/

def dmaApply (live : List (ℕ × DmaDataDirection)) : DmaCall → List (ℕ × DmaDataDirection)
  | .map h dir => live ++ [(h, dir)]
  | .unmap h _ => live.filter fun m => m.1 ≠ h
  | .syncForCpu _ _ | .syncForDevice _ _ => live

structure DmaSys where
  dev : DmaDemoDev
  live : List (ℕ × DmaDataDirection)

/-- After `dma_demo_probe`: `devm_kzalloc` zeroes the device. -/
def dmaInit : DmaSys := ⟨⟨fun _ => 0, fun _ => 0, 0, false, 0, 0, 0, 0⟩, []⟩

def dmaStep (s : DmaSys) (cmd : DmaCmd) : DmaSys × List DmaCall :=
  ((⟨(statsWrite s.dev cmd).1, (statsWrite s.dev cmd).2.foldl dmaApply s.live⟩),
    (statsWrite s.dev cmd).2)

def dmaRemove (s : DmaSys) : DmaSys × List DmaCall :=
  (⟨s.dev, (dmaDemoRemove s.dev).foldl dmaApply s.live⟩, dmaDemoRemove s.dev)

/-- `smap_from`, `sunmap_to`, `smap_to`, then `dma_demo_remove`: the first
mapping is unmapped with `DMA_TO_DEVICE`, the second with
`DMA_BIDIRECTIONAL`. -/
theorem unmap_direction_differs :
    let cmds : List DmaCmd := [.smapFrom 4096, .sunmapTo, .smapTo [65] 8192]
    (run dmaStep dmaInit cmds).2.flatten =
        [.map 4096 .fromDevice, .unmap 4096 .toDevice, .map 8192 .toDevice] ∧
      (dmaRemove (run dmaStep dmaInit cmds).1).2 = [.unmap 8192 .bidirectional] := by
  decide

/-! ### One mapping at a time

`streaming_mapped` is set exactly while one mapping is live, its handle is
`streaming_dma`, and the counters differ by the number of live mappings. -/

structure StreamingInv (s : DmaSys) : Prop where
  unmapped : s.dev.streamingMapped = false → s.live = []
  mapped : s.dev.streamingMapped = true → ∃ dir, s.live = [(s.dev.streamingDma, dir)]
  count : s.dev.streamingMaps = s.dev.streamingUnmaps + s.live.length

theorem streamingInv_init : StreamingInv dmaInit :=
  ⟨fun _ => rfl, (fun h => nomatch h), rfl⟩

section Inv

variable {s : DmaSys}

/-- A command that leaves the streaming fields alone and calls nothing. -/
theorem StreamingInv.of_streaming_eq (h : StreamingInv s) {dev : DmaDemoDev}
    (hd : dev.streamingDma = s.dev.streamingDma) (hm : dev.streamingMapped = s.dev.streamingMapped)
    (hc : dev.streamingMaps = s.dev.streamingMaps)
    (hu : dev.streamingUnmaps = s.dev.streamingUnmaps) : StreamingInv ⟨dev, s.live⟩ :=
  ⟨fun h' => h.unmapped (hm ▸ h'), fun h' => hd ▸ h.mapped (hm ▸ h'), hc ▸ hu ▸ h.count⟩

theorem StreamingInv.mapStreaming (h : StreamingInv s) (hm : s.dev.streamingMapped = false)
    {dev : DmaDemoDev} (hdm : dev.streamingMapped = false)
    (hc : dev.streamingMaps = s.dev.streamingMaps) (hu : dev.streamingUnmaps = s.dev.streamingUnmaps)
    (dir : DmaDataDirection) (handle : ℕ) :
    StreamingInv ⟨(mapStreaming dev dir handle).1,
      (mapStreaming dev dir handle).2.2.foldl dmaApply s.live⟩ := by
  have hl := h.unmapped hm
  have hcount := h.count
  rw [hl] at hcount
  unfold DmaDemo.mapStreaming
  split_ifs
  · exact ⟨fun _ => hl, fun h' => by simp [hdm] at h', by simpa [hl, hc, hu] using hcount⟩
  · refine ⟨(fun h' => nomatch h'), fun _ => ⟨dir, by simp [dmaApply, hl]⟩, ?_⟩
    simp [dmaApply, hl, hc, hu, hcount]

theorem StreamingInv.unmapStreaming (h : StreamingInv s) (dir : DmaDataDirection) :
    StreamingInv ⟨(unmapStreaming s.dev dir).1, (unmapStreaming s.dev dir).2.foldl dmaApply s.live⟩ := by
  unfold DmaDemo.unmapStreaming
  split_ifs with hm
  · obtain ⟨d, hl⟩ := h.mapped hm
    have hcount := h.count
    rw [hl] at hcount
    refine ⟨fun _ => by simp [dmaApply, hl], (fun h' => nomatch h'), ?_⟩
    simp [dmaApply, hl, hcount]
  · exact h.of_streaming_eq rfl rfl rfl rfl

theorem StreamingInv.syncStreaming (h : StreamingInv s) (sync : ℕ → DmaDataDirection → DmaCall)
    (hs : ∀ h d l, dmaApply l (sync h d) = l) (dir : DmaDataDirection) :
    StreamingInv ⟨(syncStreaming sync s.dev dir).1,
      (syncStreaming sync s.dev dir).2.foldl dmaApply s.live⟩ := by
  unfold DmaDemo.syncStreaming
  split_ifs
  · simpa [hs] using h
  · simpa using h

/-- **Each command keeps one mapping at a time.** -/
theorem StreamingInv.step (h : StreamingInv s) : ∀ cmd, StreamingInv (dmaStep s cmd).1
  | .cwrite data => h.of_streaming_eq rfl rfl rfl rfl
  | .cread => h.of_streaming_eq rfl rfl rfl rfl
  | .smapTo _ _ | .smapFrom _ => by
    simp only [dmaStep, statsWrite, mapStreamingToDevice, mapStreamingFromDevice]
    split_ifs with hm
    · exact h.of_streaming_eq rfl rfl rfl rfl
    · exact h.mapStreaming (by simpa using hm) (by simpa using hm) (by rfl) (by rfl) _ _
  | .sunmapTo => h.unmapStreaming _
  | .sunmapFrom => h.unmapStreaming _
  | .syncCpu => h.syncStreaming DmaCall.syncForCpu (fun _ _ _ => rfl) _
  | .syncDev => h.syncStreaming DmaCall.syncForDevice (fun _ _ _ => rfl) _
  | .unknown => h.of_streaming_eq rfl rfl rfl rfl

/-- **Unmaps and syncs name the live mapping**, and a map happens only when
none is live. -/
theorem dmaStep_names_live (h : StreamingInv s) (cmd : DmaCmd) :
    ∀ c ∈ (dmaStep s cmd).2,
      (∀ handle, c.usedHandle = some handle → ∃ dir, s.live = [(handle, dir)]) ∧
        (c.usedHandle = none → s.live = []) := by
  intro c hc
  cases cmd with
  | smapTo _ _ | smapFrom _ =>
    simp only [dmaStep, statsWrite, mapStreamingToDevice, mapStreamingFromDevice, mapStreaming] at hc
    split_ifs at hc with hm <;> simp at hc
    subst hc
    exact ⟨(fun _ h' => nomatch h'), fun _ => h.unmapped (by simpa using hm)⟩
  | sunmapTo | sunmapFrom | syncCpu | syncDev =>
    simp only [dmaStep, statsWrite, unmapStreaming, syncStreamingForCpu, syncStreamingForDevice,
      syncStreaming] at hc
    split_ifs at hc with hm <;> simp at hc
    subst hc
    obtain ⟨d, hl⟩ := h.mapped hm
    exact ⟨fun _ he => ⟨d, by simpa [DmaCall.usedHandle, hl] using he⟩, (fun he => nomatch he)⟩
  | cwrite _ | cread | unknown => simp [dmaStep, statsWrite] at hc

/-- `dma_demo_remove` unmaps the live mapping, if any. -/
theorem StreamingInv.remove (h : StreamingInv s) : (dmaRemove s).1.live = [] := by
  unfold dmaRemove dmaDemoRemove
  split_ifs with hm
  · obtain ⟨d, hl⟩ := h.mapped hm
    simp [dmaApply, hl]
  · simpa using h.unmapped (by simpa using hm)

end Inv

/-- **The streaming protocol, but for the directions.** After any commands,
at most one mapping is live, `streaming_mapped` says whether one is, and the
counters differ by it; every unmap and sync names the live mapping and every
map comes when none is; and after `dma_demo_remove` none is live. -/
theorem streaming_protocol (cmds : List DmaCmd) :
    let s : DmaSys := (run dmaStep dmaInit cmds).1
    s.live.length ≤ 1 ∧ (s.dev.streamingMapped = true ↔ s.live ≠ []) ∧
      s.dev.streamingMaps = s.dev.streamingUnmaps + s.live.length ∧
      (∀ cmd, ∀ c ∈ (dmaStep s cmd).2,
        (∀ handle, c.usedHandle = some handle → ∃ dir, s.live = [(handle, dir)]) ∧
          (c.usedHandle = none → s.live = [])) ∧
      (dmaRemove s).1.live = [] := by
  intro s
  have h : StreamingInv s :=
    run_inv dmaStep StreamingInv (fun _ cmd h => h.step cmd) cmds _ streamingInv_init
  refine ⟨?_, ⟨fun hm => ?_, fun hl => ?_⟩, h.count, fun cmd => dmaStep_names_live h cmd, h.remove⟩
  · cases hm : s.dev.streamingMapped
    · simp [h.unmapped hm]
    · obtain ⟨d, hl⟩ := h.mapped hm
      simp [hl]
  · obtain ⟨d, hl⟩ := h.mapped hm
    simp [hl]
  · cases hm : s.dev.streamingMapped
    · exact absurd (h.unmapped hm) hl
    · rfl

end DmaDemo
end DriverGuide
