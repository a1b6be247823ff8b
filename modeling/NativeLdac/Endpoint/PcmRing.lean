/-
  The PCM ring of the render miniport (`audio-endpoint/Source/Main/minwavert.cpp`).

  * `PcmRing` has the ring's fields of `CMiniportWaveRT`, with `beginPcmStream`,
    `endPcmStream`, `pushPcm` and the ring part of `propertyHandlerPcmRead`;
  * `PcmQueue` is what the ring is for: a queue of whole frames that forgets its oldest
    bytes;
  * every step of the ring is a step of the queue, and its counters add up.

  Offsets and sizes are natural numbers: the invariant bounds them, so that none of their
  operations wraps.  The counters of a stream are 64-bit.
-/
import Mathlib.Algebra.Order.Group.Nat
import Mathlib.Data.Nat.ModEq
import Mathlib.Tactic.SplitIfs
import NativeLdac.Lib.CircularBuffer
import NativeLdac.Lib.Reducer

namespace NativeLdac.Endpoint

open CircularBuffer

/-! ## The ring -/

def pcmRingCapacityBytes : Nat := 48000
def pcmMaxReadBytes : Nat := 4096
def pcmAbiVersion : Nat := 2
def pcmFlagStreamActive : UInt32 := 0x00000001
def pcmFlagDiscontinuity : UInt32 := 0x00000002

structure PcmInfo where
  size : Nat := 64
  abiVersion : Nat := pcmAbiVersion
  sampleRate : Nat
  channels : Nat
  bitsPerSample : Nat
  blockAlign : Nat
  capacityBytes : Nat := pcmRingCapacityBytes
  availableBytes : Nat
  flags : UInt32
  streamEpoch : UInt64
  totalBytesWritten : UInt64
  totalBytesRead : UInt64
  totalBytesDropped : UInt64
deriving DecidableEq, Repr

structure PcmReadHeader where
  infoBeforeRead : PcmInfo
  bytesReturned : Nat
  availableBytesAfterRead : Nat
deriving DecidableEq, Repr

def sizeofPcmReadHeader : Nat := 72

structure PcmRing where
  ringBuffer : List UInt8 := List.replicate pcmRingCapacityBytes 0
  readOffset : Nat := 0
  writeOffset : Nat := 0
  availableBytes : Nat := 0
  streamEpoch : UInt64 := 0
  totalBytesWritten : UInt64 := 0
  totalBytesRead : UInt64 := 0
  totalBytesDropped : UInt64 := 0
  sampleRate : Nat := 48000
  channels : Nat := 2
  bitsPerSample : Nat := 16
  blockAlign : Nat := 4
  streamActive : Bool := false

namespace PcmRing

def beginPcmStream (ring : PcmRing) (sampleRate channels bitsPerSample blockAlign : Nat) :
    PcmRing :=
  { ring with
    readOffset := 0
    writeOffset := 0
    availableBytes := 0
    totalBytesWritten := 0
    totalBytesRead := 0
    totalBytesDropped := 0
    sampleRate := sampleRate
    channels := channels
    bitsPerSample := bitsPerSample
    blockAlign := blockAlign
    streamEpoch := ring.streamEpoch + 1
    streamActive := true }

def endPcmStream (ring : PcmRing) : PcmRing :=
  { ring with
    totalBytesDropped := ring.totalBytesDropped + UInt64.ofNat ring.availableBytes
    readOffset := 0
    writeOffset := 0
    availableBytes := 0
    streamActive := false }

def wholeFrames (blockAlign : Nat) (data : List UInt8) : List UInt8 :=
  data.take (data.length - data.length % blockAlign)

/-- `PushPcm`: of data longer than the ring, the front is dropped. -/
def newest (data : List UInt8) : List UInt8 :=
  if data.length > pcmRingCapacityBytes then data.drop (data.length - pcmRingCapacityBytes)
  else data

/-- `PushPcm`: what is dropped of the data is counted. -/
def countExcess (ring : PcmRing) (byteCount : Nat) : PcmRing :=
  if byteCount > pcmRingCapacityBytes then
    { ring with
      totalBytesDropped :=
        ring.totalBytesDropped + UInt64.ofNat (byteCount - pcmRingCapacityBytes) }
  else ring

/-- `PushPcm`: the oldest bytes make room. -/
def makeRoom (ring : PcmRing) (byteCount : Nat) : PcmRing :=
  let freeBytes := pcmRingCapacityBytes - ring.availableBytes
  if byteCount > freeBytes then
    let bytesToDrop := byteCount - freeBytes
    { ring with
      readOffset := (ring.readOffset + bytesToDrop) % pcmRingCapacityBytes
      availableBytes := ring.availableBytes - bytesToDrop
      totalBytesDropped := ring.totalBytesDropped + UInt64.ofNat bytesToDrop }
  else ring

/-- `PushPcm`: the copy in two parts. -/
def store (ring : PcmRing) (data : List UInt8) : PcmRing :=
  let byteCount := data.length
  let firstCopy := min byteCount (pcmRingCapacityBytes - ring.writeOffset)
  let copied := overwrite ring.ringBuffer ring.writeOffset (data.take firstCopy)
  { ring with
    ringBuffer := if byteCount > firstCopy then overwrite copied 0 (data.drop firstCopy) else copied
    writeOffset := (ring.writeOffset + byteCount) % pcmRingCapacityBytes
    availableBytes := ring.availableBytes + byteCount }

/-- `PushPcm`: what is kept of the data is stored, and all of it counted. -/
def keep (ring : PcmRing) (data : List UInt8) (originalByteCount : Nat) : PcmRing :=
  let stored := (ring.makeRoom data.length).store data
  { stored with
    totalBytesWritten := stored.totalBytesWritten + UInt64.ofNat originalByteCount }

def pushPcm (ring : PcmRing) (data : List UInt8) : PcmRing :=
  if ¬ ring.streamActive then ring
  else if ring.blockAlign = 0 then ring
  else
    let frames := wholeFrames ring.blockAlign data
    if frames.length = 0 then ring
    else
      (ring.countExcess frames.length).keep (newest frames) frames.length

/-- The ring as the client is told of it. -/
def info (ring : PcmRing) : PcmInfo where
  sampleRate := ring.sampleRate
  channels := ring.channels
  bitsPerSample := ring.bitsPerSample
  blockAlign := ring.blockAlign
  availableBytes := ring.availableBytes
  flags := (if ring.streamActive then pcmFlagStreamActive else 0) |||
    (if ring.totalBytesDropped ≠ 0 then pcmFlagDiscontinuity else 0)
  streamEpoch := ring.streamEpoch
  totalBytesWritten := ring.totalBytesWritten
  totalBytesRead := ring.totalBytesRead
  totalBytesDropped := ring.totalBytesDropped

end PcmRing

inductive PcmReadAnswer where
  /-- `STATUS_BUFFER_OVERFLOW`, with the size that the header needs -/
  | bufferOverflow (valueSize : Nat)
  | bufferTooSmall
  | dataError
  | success (header : PcmReadHeader) (bytes : List UInt8)
deriving DecidableEq, Repr

/-- How many bytes a buffer has room for, in whole frames. -/
def pcmCapacity (blockAlign valueSize : Nat) : Nat :=
  let pcmCapacity := min (valueSize - sizeofPcmReadHeader) pcmMaxReadBytes
  pcmCapacity - pcmCapacity % blockAlign

/-- `PropertyHandlerPcmRead` for a buffer of `valueSize` bytes, of the client that may read -/
def PcmRing.propertyHandlerPcmRead (ring : PcmRing) (valueSize : Nat) : PcmReadAnswer × PcmRing :=
  if valueSize = 0 then (.bufferOverflow sizeofPcmReadHeader, ring)
  else if valueSize < sizeofPcmReadHeader then (.bufferTooSmall, ring)
  else if ring.blockAlign = 0 then (.dataError, ring)
  else
    let bytesToRead := min (pcmCapacity ring.blockAlign valueSize) ring.availableBytes
    let firstCopy := min bytesToRead (pcmRingCapacityBytes - ring.readOffset)
    let secondCopy := bytesToRead - firstCopy
    if firstCopy > pcmMaxReadBytes ∨ secondCopy > pcmMaxReadBytes - firstCopy then
      (.dataError, ring)
    else
      let after := { ring with
        readOffset := (ring.readOffset + bytesToRead) % pcmRingCapacityBytes
        availableBytes := ring.availableBytes - bytesToRead
        totalBytesRead := ring.totalBytesRead + UInt64.ofNat bytesToRead }
      (.success
        { infoBeforeRead := ring.info
          bytesReturned := bytesToRead
          availableBytesAfterRead := after.availableBytes }
        ((ring.ringBuffer.drop ring.readOffset).take firstCopy ++ ring.ringBuffer.take secondCopy),
        after)

/-! ## The queue -/

/-- What the ring is for. -/
structure PcmQueue where
  queue : BoundedFifo UInt8 pcmRingCapacityBytes := .empty
  blockAlign : Nat := 4
  active : Bool := false

inductive PcmRingStep where
  | beginPcmStream (sampleRate channels bitsPerSample blockAlign : Nat)
  | endPcmStream
  | pushPcm (data : List UInt8)
  | read (valueSize : Nat)
deriving DecidableEq, Repr

def PcmQueue.step (q : PcmQueue) : PcmRingStep → List UInt8 × PcmQueue
  | .beginPcmStream _ _ _ blockAlign =>
    ([], { queue := .empty, blockAlign := blockAlign, active := true })
  | .endPcmStream => ([], { q with queue := .empty, active := false })
  | .pushPcm data =>
    if q.active then
      ([], { q with queue := q.queue.push (PcmRing.wholeFrames q.blockAlign data) })
    else ([], q)
  | .read valueSize =>
    if valueSize < sizeofPcmReadHeader then ([], q)
    else
      let r := q.queue.pop (pcmCapacity q.blockAlign valueSize)
      (r.1, { q with queue := r.2 })

def PcmRing.step (ring : PcmRing) : PcmRingStep → Option PcmReadAnswer × PcmRing
  | .beginPcmStream sampleRate channels bitsPerSample blockAlign =>
    (none, ring.beginPcmStream sampleRate channels bitsPerSample blockAlign)
  | .endPcmStream => (none, ring.endPcmStream)
  | .pushPcm data => (none, ring.pushPcm data)
  | .read valueSize =>
    let r := ring.propertyHandlerPcmRead valueSize
    (some r.1, r.2)

def ringBesideQueue :
    Reducer (PcmRing × PcmQueue) PcmRingStep (Option PcmReadAnswer × List UInt8) where
  step s step :=
    let ring := s.1.step step
    let queue := s.2.step step
    ((ring.1, queue.1), (ring.2, queue.2))

/-! ## The invariant -/

namespace PcmRing

/-- The bytes retained, the oldest first. -/
def retained (ring : PcmRing) : List UInt8 :=
  view ring.ringBuffer ring.readOffset ring.availableBytes

/-- Where the retained bytes lie. -/
structure Laid (ring : PcmRing) : Prop where
  buffer : ring.ringBuffer.length = pcmRingCapacityBytes
  start : ring.readOffset < pcmRingCapacityBytes
  available : ring.availableBytes ≤ pcmRingCapacityBytes
  offsets : ring.writeOffset = (ring.readOffset + ring.availableBytes) % pcmRingCapacityBytes
  block : ring.blockAlign ∣ pcmRingCapacityBytes
  frames : ring.blockAlign ∣ ring.availableBytes

def Counted (ring : PcmRing) : Prop :=
  ring.totalBytesWritten =
    ring.totalBytesRead + ring.totalBytesDropped + UInt64.ofNat ring.availableBytes

variable {ring : PcmRing} {data : List UInt8}

theorem Laid.block_pos (h : ring.Laid) : 0 < ring.blockAlign :=
  Nat.pos_of_dvd_of_pos h.block (by decide)

theorem Laid.length_retained (h : ring.Laid) : ring.retained.length = ring.availableBytes :=
  length_view _ (h.buffer ▸ h.available)

/-! ### Begin and end -/

theorem laid_begin (h : ring.ringBuffer.length = pcmRingCapacityBytes) {blockAlign : Nat}
    (hb : blockAlign ∣ pcmRingCapacityBytes) (sampleRate channels bitsPerSample : Nat) :
    (ring.beginPcmStream sampleRate channels bitsPerSample blockAlign).Laid where
  buffer := h
  start := Nat.zero_lt_succ _
  available := Nat.zero_le _
  offsets := rfl
  block := hb
  frames := Nat.dvd_zero _

theorem laid_end (h : ring.Laid) : ring.endPcmStream.Laid where
  buffer := h.buffer
  start := Nat.zero_lt_succ _
  available := Nat.zero_le _
  offsets := rfl
  block := h.block
  frames := Nat.dvd_zero _

theorem counted_end (h : ring.Counted) : ring.endPcmStream.Counted := by
  have htotals : ring.totalBytesWritten = _ := h
  show ring.totalBytesWritten = ring.totalBytesRead +
    (ring.totalBytesDropped + UInt64.ofNat ring.availableBytes) + UInt64.ofNat 0
  rw [htotals, UInt64.add_assoc]
  simp

/-! ### Bytes that leave, and bytes that come -/

theorem Laid.leave (h : ring.Laid) {d : Nat} (hd : d ≤ ring.availableBytes)
    (hframes : ring.blockAlign ∣ d) (ring' : PcmRing)
    (hbuffer : ring'.ringBuffer = ring.ringBuffer) (hblock : ring'.blockAlign = ring.blockAlign)
    (hread : ring'.readOffset = (ring.readOffset + d) % pcmRingCapacityBytes)
    (hwrite : ring'.writeOffset = ring.writeOffset)
    (havailable : ring'.availableBytes = ring.availableBytes - d) :
    ring'.Laid ∧ ring'.retained = ring.retained.drop d := by
  have havail := h.available
  constructor
  · constructor
    · rw [hbuffer, h.buffer]
    · rw [hread]
      exact Nat.mod_lt _ (Nat.zero_lt_succ _)
    · omega
    · rw [hwrite, h.offsets, hread, havailable, Nat.mod_add_mod]
      congr 1
      omega
    · rw [hblock]
      exact h.block
    · rw [hblock, havailable]
      exact Nat.dvd_sub h.frames hframes
  · rw [retained, hbuffer, hread, havailable, ← h.buffer]
    exact view_drop hd (h.buffer ▸ h.available)

theorem store_ringBuffer (h : ring.Laid) (data : List UInt8) :
    (ring.store data).ringBuffer = overwriteAround ring.ringBuffer ring.writeOffset data := by
  simp only [store, overwriteAround, h.buffer]
  split_ifs with hsecond
  · rfl
  · rw [List.drop_eq_nil_of_le (by omega), overwrite_nil]

theorem Laid.store (h : ring.Laid)
    (hroom : ring.availableBytes + data.length ≤ pcmRingCapacityBytes)
    (hframes : ring.blockAlign ∣ data.length) :
    (ring.store data).Laid ∧ (ring.store data).retained = ring.retained ++ data := by
  have hbuffer := store_ringBuffer h data
  constructor
  · constructor
    · rw [hbuffer, length_overwriteAround, h.buffer]
      · rw [h.buffer, h.offsets]
        exact (Nat.mod_lt _ (Nat.zero_lt_succ _)).le
      · rw [h.buffer]
        omega
    · exact h.start
    · exact hroom
    · show (ring.writeOffset + data.length) % _ = (ring.readOffset + (ring.availableBytes +
        data.length)) % _
      rw [h.offsets, Nat.mod_add_mod, Nat.add_assoc]
    · exact h.block
    · exact Nat.dvd_add h.frames hframes
  · rw [retained, hbuffer, h.offsets, ← h.buffer]
    exact view_overwriteAround (h.buffer ▸ hroom)

/-! ### A push -/

theorem length_wholeFrames (blockAlign : Nat) (data : List UInt8) :
    (wholeFrames blockAlign data).length = data.length - data.length % blockAlign := by
  rw [wholeFrames, List.length_take]
  omega

theorem wholeFrames_dvd (blockAlign : Nat) (data : List UInt8) :
    blockAlign ∣ (wholeFrames blockAlign data).length := by
  rw [length_wholeFrames]
  exact Nat.dvd_sub_mod _

theorem newest_eq (data : List UInt8) :
    newest data = data.drop (data.length - pcmRingCapacityBytes) := by
  rw [newest]
  split_ifs with h
  · rfl
  · rw [Nat.sub_eq_zero_of_le (Nat.le_of_not_lt h), List.drop_zero]

theorem countExcess_eq (ring : PcmRing) (n : Nat) :
    ring.countExcess n = { ring with
      totalBytesDropped :=
        ring.totalBytesDropped + UInt64.ofNat (n - pcmRingCapacityBytes) } := by
  rw [countExcess]
  split_ifs with h
  · rfl
  · rw [Nat.sub_eq_zero_of_le (Nat.le_of_not_lt h)]
    simp

theorem Laid.makeRoom (h : ring.Laid) {n : Nat} (hn : n ≤ pcmRingCapacityBytes)
    (hframes : ring.blockAlign ∣ n) :
    (ring.makeRoom n).Laid ∧
      (ring.makeRoom n).retained =
        ring.retained.drop (ring.availableBytes + n - pcmRingCapacityBytes) ∧
      (ring.makeRoom n).availableBytes + n ≤ pcmRingCapacityBytes ∧
      ∃ d ≤ ring.availableBytes, ring.makeRoom n = { ring with
        readOffset := (ring.makeRoom n).readOffset
        availableBytes := ring.availableBytes - d
        totalBytesDropped := ring.totalBytesDropped + UInt64.ofNat d } := by
  have havail := h.available
  unfold PcmRing.makeRoom
  dsimp only
  split_ifs with hfree
  · have hd : n - (pcmRingCapacityBytes - ring.availableBytes) =
        ring.availableBytes + n - pcmRingCapacityBytes := by omega
    have hdvd : ring.blockAlign ∣ ring.availableBytes + n - pcmRingCapacityBytes :=
      Nat.dvd_sub (Nat.dvd_add h.frames hframes) h.block
    rw [hd]
    generalize ring.availableBytes + n - pcmRingCapacityBytes = d at hd hdvd ⊢
    obtain ⟨hlaid, hretained⟩ := h.leave (by omega) hdvd
      { ring with
        readOffset := (ring.readOffset + d) % pcmRingCapacityBytes
        availableBytes := ring.availableBytes - d
        totalBytesDropped := ring.totalBytesDropped + UInt64.ofNat d } rfl rfl rfl rfl rfl
    exact ⟨hlaid, hretained, by dsimp only; omega, d, by omega, rfl⟩
  · have hd : ring.availableBytes + n - pcmRingCapacityBytes = 0 := by omega
    exact ⟨h, by rw [hd, List.drop_zero], by omega, 0, Nat.zero_le _, by simp⟩

theorem counted_push {written read dropped : UInt64} {available n excess dropping : Nat}
    (h : written = read + dropped + UInt64.ofNat available)
    (he : excess ≤ n) (hd : dropping ≤ available) :
    written + UInt64.ofNat n =
      read + (dropped + UInt64.ofNat excess + UInt64.ofNat dropping) +
        UInt64.ofNat (available - dropping + (n - excess)) := by
  have hsum : UInt64.ofNat available + UInt64.ofNat n = UInt64.ofNat excess +
      UInt64.ofNat dropping + UInt64.ofNat (available - dropping + (n - excess)) := by
    simp only [← UInt64.ofNat_add]
    congr 1
    omega
  rw [h, UInt64.add_assoc, hsum]
  ac_rfl

theorem Laid.keep (h : ring.Laid) (hn : data.length ≤ pcmRingCapacityBytes)
    (hframes : ring.blockAlign ∣ data.length) (n : Nat) :
    (ring.keep data n).Laid ∧
      (ring.keep data n).retained =
        ring.retained.drop (ring.availableBytes + data.length - pcmRingCapacityBytes) ++ data ∧
      (ring.keep data n).blockAlign = ring.blockAlign ∧
      (ring.keep data n).streamActive = ring.streamActive ∧
      ∃ d ≤ ring.availableBytes,
        (ring.keep data n).totalBytesWritten = ring.totalBytesWritten + UInt64.ofNat n ∧
        (ring.keep data n).totalBytesRead = ring.totalBytesRead ∧
        (ring.keep data n).totalBytesDropped = ring.totalBytesDropped + UInt64.ofNat d ∧
        (ring.keep data n).availableBytes = ring.availableBytes - d + data.length := by
  obtain ⟨hmade, hretained, hroom, d, hd, heq⟩ := h.makeRoom hn hframes
  unfold PcmRing.keep
  generalize ring.makeRoom data.length = made at hmade hretained hroom heq ⊢
  have hblock : made.blockAlign = ring.blockAlign := by rw [heq]
  obtain ⟨hstored, happended⟩ := hmade.store hroom (hblock ▸ hframes)
  rw [hretained] at happended
  refine ⟨⟨hstored.buffer, hstored.start, hstored.available, hstored.offsets, hstored.block,
    hstored.frames⟩, happended, hblock, ?_, d, hd, ?_, ?_, ?_, ?_⟩
  · show made.streamActive = _
    rw [heq]
  · exact congrArg (fun r => r.totalBytesWritten + UInt64.ofNat n) heq
  · show made.totalBytesRead = _
    rw [heq]
  · exact congrArg PcmRing.totalBytesDropped heq
  · exact congrArg (fun r => r.availableBytes + data.length) heq

theorem Laid.countExcess (h : ring.Laid) (n : Nat) :
    (ring.countExcess n).Laid ∧ (ring.countExcess n).retained = ring.retained ∧
      (ring.countExcess n).availableBytes = ring.availableBytes ∧
      (ring.countExcess n).blockAlign = ring.blockAlign ∧
      (ring.countExcess n).streamActive = ring.streamActive ∧
      (ring.countExcess n).totalBytesWritten = ring.totalBytesWritten ∧
      (ring.countExcess n).totalBytesRead = ring.totalBytesRead ∧
      (ring.countExcess n).totalBytesDropped =
        ring.totalBytesDropped + UInt64.ofNat (n - pcmRingCapacityBytes) := by
  rw [countExcess_eq]
  exact ⟨⟨h.buffer, h.start, h.available, h.offsets, h.block, h.frames⟩,
    by simp only [retained], rfl, rfl, rfl, rfl, rfl, rfl⟩

theorem length_newest (data : List UInt8) :
    (newest data).length = data.length - (data.length - pcmRingCapacityBytes) := by
  rw [newest_eq, List.length_drop]

theorem newest_dvd (h : ring.Laid) {frames : List UInt8} (hdvd : ring.blockAlign ∣ frames.length) :
    ring.blockAlign ∣ (newest frames).length := by
  rw [length_newest]
  rcases Nat.le_total frames.length pcmRingCapacityBytes with hle | hle
  · rwa [Nat.sub_eq_zero_of_le hle, Nat.sub_zero]
  · rw [Nat.sub_sub_self hle]
    exact h.block

theorem pushPcm_kept (h : ring.Laid) (hc : ring.Counted) (hactive : ring.streamActive)
    {q : BoundedFifo UInt8 pcmRingCapacityBytes} (hq : ring.retained = q.contents)
    (data : List UInt8) :
    (ring.pushPcm data).Laid ∧ (ring.pushPcm data).Counted ∧
      (ring.pushPcm data).retained = (q.push (wholeFrames ring.blockAlign data)).contents ∧
      (ring.pushPcm data).blockAlign = ring.blockAlign ∧ (ring.pushPcm data).streamActive := by
  have hlength := h.length_retained
  have havail := h.available
  have hdvd := wholeFrames_dvd ring.blockAlign data
  unfold pushPcm
  rw [if_neg (by simp [hactive]), if_neg h.block_pos.ne']
  generalize wholeFrames ring.blockAlign data = frames at hdvd ⊢
  dsimp only
  split_ifs with hnone
  · have hnil := List.eq_nil_of_length_eq_zero hnone
    refine ⟨h, hc, ?_, rfl, hactive⟩
    rw [hnil, BoundedFifo.push_contents q (Nat.zero_le _), ← hq, hlength, List.append_nil,
      List.length_nil, Nat.add_zero, Nat.sub_eq_zero_of_le havail, List.drop_zero]
  have hkept := length_newest frames
  have hkeptdvd := newest_dvd h hdvd
  have hpush := BoundedFifo.push_drop q frames
  rw [← newest_eq, BoundedFifo.push_contents q (by omega), ← hq, hlength] at hpush
  obtain ⟨hcount, hsame, havailable, hblock, hon, hwritten, hread, hdropped⟩ :=
    h.countExcess frames.length
  obtain ⟨hlaid, hretained, hblock', hon', d, hd, hwritten', hread', hdropped', hleft⟩ :=
    hcount.keep (by omega) (hblock ▸ hkeptdvd) frames.length
  rw [hsame, havailable, hpush] at hretained
  refine ⟨hlaid, ?_, hretained, hblock'.trans hblock, (hon'.trans hon).trans hactive⟩
  rw [havailable] at hd hleft
  have hcounted := counted_push hc (Nat.sub_le frames.length pcmRingCapacityBytes) hd
  rw [Counted, hwritten', hread', hdropped', hleft, hwritten, hread, hdropped, hkept]
  exact hcounted

/-! ### A read -/

theorem pcmCapacity_dvd (blockAlign valueSize : Nat) :
    blockAlign ∣ pcmCapacity blockAlign valueSize := Nat.dvd_sub_mod _

theorem pcmCapacity_le (blockAlign valueSize : Nat) :
    pcmCapacity blockAlign valueSize ≤ pcmMaxReadBytes :=
  (Nat.sub_le _ _).trans (Nat.min_le_right _ _)

theorem propertyHandlerPcmRead_kept (h : ring.Laid) (hc : ring.Counted) {valueSize : Nat}
    (hsize : ¬ valueSize < sizeofPcmReadHeader) :
    ∃ header after, ring.propertyHandlerPcmRead valueSize =
        (.success header (ring.retained.take (pcmCapacity ring.blockAlign valueSize)), after) ∧
      header.bytesReturned =
        (ring.retained.take (pcmCapacity ring.blockAlign valueSize)).length ∧
      after.Laid ∧ after.Counted ∧
      after.retained = ring.retained.drop (pcmCapacity ring.blockAlign valueSize) ∧
      after.blockAlign = ring.blockAlign ∧ after.streamActive = ring.streamActive := by
  have hlength := h.length_retained
  have hle := pcmCapacity_le ring.blockAlign valueSize
  have hdvd := pcmCapacity_dvd ring.blockAlign valueSize
  unfold propertyHandlerPcmRead
  rw [if_neg (by simp only [sizeofPcmReadHeader] at hsize; omega), if_neg hsize,
    if_neg h.block_pos.ne']
  generalize pcmCapacity ring.blockAlign valueSize = capacity at hle hdvd ⊢
  dsimp only
  rw [if_neg (by omega)]
  -- the copy in two parts reads what is retained
  have hread : readAround ring.ringBuffer ring.readOffset (min capacity ring.availableBytes) =
      ring.retained.take capacity := by
    rw [readAround_eq (by rw [h.buffer]; exact h.start.le)
      (by rw [h.buffer]; exact (Nat.min_le_right _ _).trans h.available),
      ← view_take (Nat.min_le_right capacity ring.availableBytes)]
    rcases Nat.le_total capacity ring.availableBytes with hfits | hall
    · rw [Nat.min_eq_left hfits]
      rfl
    · rw [Nat.min_eq_right hall, List.take_of_length_le (hlength.trans_le hall)]
      exact List.take_of_length_le hlength.le
  rw [readAround, h.buffer] at hread
  rw [← hread]
  have hdrop : ring.retained.drop capacity =
      ring.retained.drop (min capacity ring.availableBytes) := by
    rcases Nat.le_total capacity ring.availableBytes with hfits | hall
    · rw [Nat.min_eq_left hfits]
    · rw [Nat.min_eq_right hall, List.drop_eq_nil_of_le (hlength.trans_le hall),
        List.drop_eq_nil_of_le hlength.le]
  have hframes : ring.blockAlign ∣ min capacity ring.availableBytes := by
    rcases Nat.le_total capacity ring.availableBytes with hfits | hall
    · rwa [Nat.min_eq_left hfits]
    · rw [Nat.min_eq_right hall]
      exact h.frames
  have hreturned : min capacity ring.availableBytes = (ring.retained.take capacity).length := by
    rw [List.length_take, hlength]
  rw [hread, hdrop]
  have hread := Nat.min_le_right capacity ring.availableBytes
  generalize min capacity ring.availableBytes = d at hframes hread hreturned ⊢
  obtain ⟨hlaid, hretained⟩ := h.leave hread hframes
    { ring with
      readOffset := (ring.readOffset + d) % pcmRingCapacityBytes
      availableBytes := ring.availableBytes - d
      totalBytesRead := ring.totalBytesRead + UInt64.ofNat d } rfl rfl rfl rfl rfl
  refine ⟨_, _, rfl, hreturned, hlaid, ?_, hretained, rfl, rfl⟩
  have hsum : UInt64.ofNat ring.availableBytes =
      UInt64.ofNat d + UInt64.ofNat (ring.availableBytes - d) := by
    rw [← UInt64.ofNat_add, Nat.add_sub_cancel' hread]
  show ring.totalBytesWritten = ring.totalBytesRead + UInt64.ofNat d + ring.totalBytesDropped +
    UInt64.ofNat (ring.availableBytes - d)
  rw [show ring.totalBytesWritten = _ from hc, hsum]
  ac_rfl

theorem wholeFrames_of_dvd {blockAlign : Nat} (h : blockAlign ∣ data.length) :
    wholeFrames blockAlign data = data := by
  rw [wholeFrames, Nat.mod_eq_zero_of_dvd h, Nat.sub_zero, List.take_length]

theorem wholeFrames_append {blockAlign : Nat} (h : blockAlign ∣ data.length) (more : List UInt8) :
    wholeFrames blockAlign (data ++ more) = data ++ wholeFrames blockAlign more := by
  obtain ⟨frames, hframes⟩ := h
  have hrest : (data ++ more).length % blockAlign = more.length % blockAlign := by
    rw [List.length_append, hframes, Nat.mul_add_mod]
  have hle := Nat.mod_le more.length blockAlign
  rw [wholeFrames, hrest, List.length_append, Nat.add_sub_assoc hle, List.take_length_add_append,
    wholeFrames]

theorem totalBytesWritten_pushPcm (hactive : ring.streamActive) (hblock : 0 < ring.blockAlign)
    (data : List UInt8) :
    (ring.pushPcm data).totalBytesWritten =
      ring.totalBytesWritten + UInt64.ofNat (wholeFrames ring.blockAlign data).length := by
  have hroom : ∀ (ring : PcmRing) n,
      (ring.makeRoom n).totalBytesWritten = ring.totalBytesWritten := by
    intro ring n
    unfold makeRoom
    dsimp only
    split_ifs <;> rfl
  unfold pushPcm
  rw [if_neg (by simp [hactive]), if_neg hblock.ne']
  generalize wholeFrames ring.blockAlign data = frames
  dsimp only
  split_ifs with hnone
  · simp [hnone]
  · rw [countExcess_eq]
    exact congrArg (fun written => written + UInt64.ofNat frames.length) (hroom _ _)

end PcmRing

/-! ## Runs -/

/-- The ring retains what the queue holds, and its offsets and counters fit. -/
structure Agree (s : PcmRing × PcmQueue) : Prop where
  retained : s.1.retained = s.2.queue.contents
  totals : s.1.totalBytesWritten =
    s.1.totalBytesRead + s.1.totalBytesDropped + UInt64.ofNat s.1.availableBytes
  offsets : s.1.writeOffset = (s.1.readOffset + s.1.availableBytes) % pcmRingCapacityBytes
  available : s.1.availableBytes ≤ pcmRingCapacityBytes

/-- After a step the ring agrees with the queue; a read that has room for the header succeeds, and
    returns what the queue does: whole frames, not more than a read may. -/
def RingStepAgrees (s : PcmRing × PcmQueue) (step : PcmRingStep) : Prop :=
  Agree (ringBesideQueue.next s step) ∧
    ∀ valueSize, step = .read valueSize → sizeofPcmReadHeader ≤ valueSize →
      ∃ header bytes, ringBesideQueue.out s step = (some (.success header bytes), bytes) ∧
        header.bytesReturned = bytes.length ∧ s.1.blockAlign ∣ bytes.length ∧
        bytes.length ≤ pcmMaxReadBytes

/-- The invariant of ring and queue. -/
structure Refines (s : PcmRing × PcmQueue) : Prop where
  laid : s.1.Laid
  counted : s.1.Counted
  retained : s.1.retained = s.2.queue.contents
  blockAlign : s.1.blockAlign = s.2.blockAlign
  active : s.1.streamActive = s.2.active

variable {s : PcmRing × PcmQueue}

theorem Refines.agree (h : Refines s) : Agree s :=
  ⟨h.retained, h.counted, h.laid.offsets, h.laid.available⟩

/-- A stream that is begun has frames that divide the ring. -/
def PcmRingStep.Aligned : PcmRingStep → Prop
  | .beginPcmStream _ _ _ blockAlign => blockAlign ∣ pcmRingCapacityBytes
  | _ => True

instance (step : PcmRingStep) : Decidable step.Aligned :=
  match step with
  | .beginPcmStream _ _ _ blockAlign =>
    inferInstanceAs (Decidable (blockAlign ∣ pcmRingCapacityBytes))
  | .endPcmStream | .pushPcm _ | .read _ => inferInstanceAs (Decidable True)

theorem refines_fresh : Refines ({}, {}) where
  laid :=
    { buffer := List.length_replicate
      start := Nat.zero_lt_succ _
      available := Nat.zero_le _
      offsets := rfl
      block := ⟨12000, rfl⟩
      frames := Nat.dvd_zero _ }
  counted := rfl
  retained := rfl
  blockAlign := rfl
  active := rfl

theorem PcmQueue.step_push (q : PcmQueue) (h : q.active) (data : List UInt8) :
    q.step (.pushPcm data) =
      ([], { q with queue := q.queue.push (PcmRing.wholeFrames q.blockAlign data) }) :=
  if_pos h

theorem PcmQueue.step_read (q : PcmQueue) {valueSize : Nat}
    (h : ¬ valueSize < sizeofPcmReadHeader) :
    q.step (.read valueSize) =
      ((q.queue.pop (pcmCapacity q.blockAlign valueSize)).1,
        { q with queue := (q.queue.pop (pcmCapacity q.blockAlign valueSize)).2 }) :=
  if_neg h

section
variable {ring : PcmRing} {q : PcmQueue} (h : Refines (ring, q))
include h

theorem refines_begin {blockAlign : Nat} (hb : blockAlign ∣ pcmRingCapacityBytes)
    (sampleRate channels bitsPerSample : Nat) :
    Refines (ring.beginPcmStream sampleRate channels bitsPerSample blockAlign,
      (q.step (.beginPcmStream sampleRate channels bitsPerSample blockAlign)).2) :=
  ⟨PcmRing.laid_begin h.laid.buffer hb _ _ _, rfl, rfl, rfl, rfl⟩

theorem refines_end : Refines (ring.endPcmStream, (q.step .endPcmStream).2) :=
  ⟨PcmRing.laid_end h.laid, PcmRing.counted_end h.counted, rfl, h.blockAlign, rfl⟩

theorem refines_of_kept {ring' : PcmRing} {queue : BoundedFifo UInt8 pcmRingCapacityBytes}
    (hlaid : ring'.Laid) (hcounted : ring'.Counted) (hretained : ring'.retained = queue.contents)
    (hblock : ring'.blockAlign = ring.blockAlign)
    (hactive : ring'.streamActive = ring.streamActive) :
    Refines (ring', { q with queue }) :=
  ⟨hlaid, hcounted, hretained, hblock.trans h.blockAlign, hactive.trans h.active⟩

theorem refines_push (data : List UInt8) :
    Refines (ring.pushPcm data, (q.step (.pushPcm data)).2) := by
  by_cases hon : ring.streamActive
  · have hstep := q.step_push (h.active.symm.trans hon) data
    have hwhole : ring.blockAlign = q.blockAlign := h.blockAlign
    obtain ⟨hlaid, hcounted, hretained, hblock, hactive⟩ :=
      PcmRing.pushPcm_kept h.laid h.counted hon h.retained data
    rw [hwhole] at hretained
    rw [hstep]
    exact refines_of_kept h hlaid hcounted hretained hblock (hactive.trans hon.symm)
  · have hqueue : q.step (.pushPcm data) = ([], q) := if_neg (h.active ▸ hon)
    have hring : ring.pushPcm data = ring := by
      unfold PcmRing.pushPcm
      exact if_pos hon
    rw [hqueue, hring]
    exact h

theorem refines_read (valueSize : Nat) :
    Refines ((ring.propertyHandlerPcmRead valueSize).2, (q.step (.read valueSize)).2) := by
  by_cases hsize : valueSize < sizeofPcmReadHeader
  · have hqueue : q.step (.read valueSize) = ([], q) := if_pos hsize
    have hring : (ring.propertyHandlerPcmRead valueSize).2 = ring := by
      unfold PcmRing.propertyHandlerPcmRead
      by_cases hzero : valueSize = 0
      · rw [if_pos hzero]
      · rw [if_neg hzero, if_pos hsize]
    rw [hqueue, hring]
    exact h
  · have hqueue : ring.retained = q.queue.contents := h.retained
    have hwhole : ring.blockAlign = q.blockAlign := h.blockAlign
    obtain ⟨header, after, hread, -, hlaid, hcounted, hretained, hblock, hactive⟩ :=
      PcmRing.propertyHandlerPcmRead_kept h.laid h.counted hsize
    rw [hread, q.step_read hsize]
    refine refines_of_kept h hlaid hcounted (hretained.trans ?_) hblock hactive
    show ring.retained.drop _ = q.queue.contents.drop _
    rw [hqueue, hwhole]

end

theorem refines_step (h : Refines s) {step : PcmRingStep} (ha : step.Aligned) :
    Refines (ringBesideQueue.next s step) := by
  cases step with
  | beginPcmStream sampleRate channels bitsPerSample blockAlign => exact refines_begin h ha _ _ _
  | endPcmStream => exact refines_end h
  | pushPcm data => exact refines_push h data
  | read valueSize => exact refines_read h valueSize

theorem ringStepAgrees_of_refines (h : Refines s) {step : PcmRingStep} (ha : step.Aligned) :
    RingStepAgrees s step := by
  refine ⟨(refines_step h ha).agree, ?_⟩
  rintro valueSize rfl hsize
  obtain ⟨ring, q⟩ := s
  obtain ⟨hlaid, hcounted, hretained, hblock, -⟩ := h
  obtain ⟨header, after, hread, hreturned, -⟩ :=
    PcmRing.propertyHandlerPcmRead_kept hlaid hcounted (Nat.not_lt.mpr hsize)
  have hout : ringBesideQueue.out (ring, q) (.read valueSize) =
      (some (ring.propertyHandlerPcmRead valueSize).1, (q.step (.read valueSize)).1) := rfl
  refine ⟨header, _, ?_, hreturned, ?_, ?_⟩
  · rw [hout, hread, q.step_read (Nat.not_lt.mpr hsize), hretained, hblock]
    rfl
  · rw [List.length_take, hlaid.length_retained]
    rcases Nat.le_total (pcmCapacity ring.blockAlign valueSize) ring.availableBytes with hfits | hall
    · rw [Nat.min_eq_left hfits]
      exact PcmRing.pcmCapacity_dvd _ _
    · rw [Nat.min_eq_right hall]
      exact hlaid.frames
  · rw [List.length_take]
    exact (Nat.min_le_left _ _).trans (PcmRing.pcmCapacity_le _ _)

/-- **The ring refines the queue** in every run whose streams have frames that divide it. -/
theorem pcm_ring_refines (steps : List PcmRingStep) (h : ∀ step ∈ steps, step.Aligned) :
    ringBesideQueue.Along RingStepAgrees ({}, {}) steps :=
  Reducer.along_of_inv (fun _ _ h ha => refines_step h ha)
    (fun _ _ h ha => ringStepAgrees_of_refines h ha) refines_fresh (Reducer.along_of_mem h _)

/-- Two frames and a half are pushed, and one is read. -/
theorem pcm_ring_refines_frames :
    ringBesideQueue.Along RingStepAgrees ({}, {})
      [.beginPcmStream 48000 2 16 4, .pushPcm [1, 2, 3, 4, 5, 6, 7, 8, 9, 10], .read 76,
        .endPcmStream] :=
  pcm_ring_refines _ (by decide)

end NativeLdac.Endpoint
