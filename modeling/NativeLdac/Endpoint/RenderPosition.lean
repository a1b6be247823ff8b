/-
  The position of a render stream (`audio-endpoint/Source/Main/minwavertstream.cpp`).

  * `WaveFormat` and `isFormatSupported` are the formats that the speaker pin takes, and
    `allocateAudioBuffer` the DMA buffer of a stream;
  * `RenderStream` has the position of a stream with its two carries, and `updatePosition`
    moves it on and pushes the bytes passed into the PCM ring;
  * the bytes passed enter the ring whole and in order as long as every update falls
    where the time that has run makes whole frames.

  Positions and times are natural numbers; products and casts that the source has in 32
  bits are taken modulo `2 ^ 32`.
-/
import NativeLdac.Endpoint.PcmRing

namespace NativeLdac.Endpoint

open CircularBuffer

/-! ## Formats -/

inductive Guid where
  | ksdataformatTypeAudio
  | ksdataformatSubtypePcm
  | ksdataformatSpecifierWaveformatex
  | other (n : Nat)
deriving DecidableEq, Repr

def waveFormatPcm : Nat := 1
def waveFormatExtensible : Nat := 0xFFFE
def ksaudioSpeakerStereo : Nat := 3

/-- `KSDATAFORMAT_WAVEFORMATEXTENSIBLE` -/
structure WaveFormat where
  majorFormat : Guid
  subFormat : Guid
  specifier : Guid
  wFormatTag : Nat
  nChannels : Nat
  nSamplesPerSec : Nat
  nAvgBytesPerSec : Nat
  nBlockAlign : Nat
  wBitsPerSample : Nat
  cbSize : Nat
  wValidBitsPerSample : Nat
  dwChannelMask : Nat
  extensibleSubFormat : Guid
deriving DecidableEq, Repr

def speakerPcmContainerBits (bits : Nat) : Nat := if bits = 24 then 32 else bits

def speakerPcmFormat (rate bits : Nat) : WaveFormat where
  majorFormat := .ksdataformatTypeAudio
  subFormat := .ksdataformatSubtypePcm
  specifier := .ksdataformatSpecifierWaveformatex
  wFormatTag := waveFormatExtensible
  nChannels := 2
  nSamplesPerSec := rate
  nAvgBytesPerSec := rate * 2 * (speakerPcmContainerBits bits / 8)
  nBlockAlign := 2 * (speakerPcmContainerBits bits / 8)
  wBitsPerSample := speakerPcmContainerBits bits
  cbSize := 22
  wValidBitsPerSample := bits
  dwChannelMask := ksaudioSpeakerStereo
  extensibleSubFormat := .ksdataformatSubtypePcm

def speakerHostPinSupportedDeviceFormats : List WaveFormat :=
  [speakerPcmFormat 48000 16, speakerPcmFormat 48000 24, speakerPcmFormat 44100 16,
    speakerPcmFormat 44100 24, speakerPcmFormat 88200 16, speakerPcmFormat 88200 24,
    speakerPcmFormat 96000 16, speakerPcmFormat 96000 24]

namespace WaveFormat

/-- A format is taken as the one of the table. -/
def Matches (format supported : WaveFormat) : Prop :=
  supported.majorFormat = format.majorFormat ∧ supported.subFormat = format.subFormat ∧
  supported.specifier = format.specifier ∧
  (format.wFormatTag = waveFormatExtensible ∨ format.wFormatTag = waveFormatPcm) ∧
  format.nChannels = supported.nChannels ∧
  format.nSamplesPerSec = supported.nSamplesPerSec ∧
  format.nBlockAlign = supported.nBlockAlign ∧
  format.wBitsPerSample = supported.wBitsPerSample ∧
  (format.wFormatTag ≠ waveFormatExtensible ∨
    22 ≤ format.cbSize ∧ format.wValidBitsPerSample = supported.wValidBitsPerSample ∧
    format.dwChannelMask = supported.dwChannelMask ∧
    format.extensibleSubFormat = supported.extensibleSubFormat)

instance (format supported : WaveFormat) : Decidable (format.Matches supported) :=
  inferInstanceAs (Decidable (_ ∧ _))

/-- `IsFormatSupported` on the render pin; the byte rate is not looked at. -/
def isFormatSupported (format : WaveFormat) : Prop :=
  ∃ supported ∈ speakerHostPinSupportedDeviceFormats, format.Matches supported

instance (format : WaveFormat) : Decidable format.isFormatSupported :=
  inferInstanceAs (Decidable (∃ supported ∈ speakerHostPinSupportedDeviceFormats, _))

end WaveFormat

/-! ## The stream -/

/-- A value cast to `ULONG` -/
def ulong (n : Nat) : Nat := n % 2 ^ 32

inductive KsState where
  | stop | acquire | pause | run
deriving DecidableEq, Repr

/-- The position of a `CMiniportWaveRTStream`, with the ring of its miniport -/
structure RenderStream where
  wfExt : WaveFormat
  dmaMovementRate : Nat
  dmaBufferSize : Nat
  ksState : KsState := .stop
  playPosition : Nat := 0
  writePosition : Nat := 0
  linearPosition : Nat := 0
  presentationPosition : Nat := 0
  dmaTimeStamp : Nat := 0
  hnsElapsedTimeCarryForward : Nat := 0
  byteDisplacementCarryForward : Nat := 0
  currentWritePosition : Nat := 0
  eosReceived : Bool := false
  lastBufferRendered : Bool := false
  ring : PcmRing

/-- `AllocateAudioBuffer`: the buffer has whole frames. -/
def allocateAudioBuffer (format : WaveFormat) (requestedSize : Nat) : Option Nat :=
  if requestedSize = 0 ∨ requestedSize < format.nBlockAlign then none
  else some (requestedSize - requestedSize % format.nBlockAlign)

/-- A stream that is created, with its buffer -/
def newStream (format : WaveFormat) (requestedSize : Nat) (ring : PcmRing) :
    Option RenderStream :=
  if format.isFormatSupported then
    (allocateAudioBuffer format requestedSize).map fun dmaBufferSize =>
      { wfExt := format
        dmaMovementRate := format.nAvgBytesPerSec
        dmaBufferSize := dmaBufferSize
        ring := ring }
  else none

/-- The bytes of the buffer from an offset on -/
def dmaBytes (dma : Nat → UInt8) (bufferOffset n : Nat) : List UInt8 :=
  (List.range n).map fun i => dma (bufferOffset + i)

/-- `ReadBytes`; the first argument bounds the rounds of the loop, each of which moves on. -/
def readBytes (dma : Nat → UInt8) (dmaBufferSize : Nat) : Nat → Nat → Nat → PcmRing → PcmRing
  | 0, _, _, ring => ring
  | rounds + 1, bufferOffset, byteDisplacement, ring =>
    if byteDisplacement = 0 then ring
    else
      let runWrite := min byteDisplacement (dmaBufferSize - bufferOffset)
      readBytes dma dmaBufferSize rounds ((bufferOffset + runWrite) % dmaBufferSize)
        (byteDisplacement - runWrite) (ring.pushPcm (dmaBytes dma bufferOffset runWrite))

namespace RenderStream

/-- The time since the last update, and what that one left over -/
def hnsElapsed (s : RenderStream) (hnsCurrentTime : Nat) : Nat :=
  hnsCurrentTime - s.dmaTimeStamp + s.hnsElapsedTimeCarryForward

def timeElapsedInMS (s : RenderStream) (hnsCurrentTime : Nat) : Nat :=
  ulong (s.hnsElapsed hnsCurrentTime) / 10000

/-- The bytes of the time elapsed in thousandths, and what the last update left over -/
def milliBytes (s : RenderStream) (hnsCurrentTime : Nat) : Nat :=
  ulong (ulong (s.dmaMovementRate * s.timeElapsedInMS hnsCurrentTime) +
    s.byteDisplacementCarryForward)

/-- The displacement does not pass the end of the stream. -/
def beforeEos (s : RenderStream) (byteDisplacement : Nat) : Nat :=
  if s.eosReceived then
    if s.writePosition ≤ s.currentWritePosition then
      min byteDisplacement (s.currentWritePosition - ulong s.writePosition)
    else if (s.writePosition + byteDisplacement) % s.dmaBufferSize < s.writePosition ∧
        s.currentWritePosition < (s.writePosition + byteDisplacement) % s.dmaBufferSize then
      byteDisplacement -
        (ulong (ulong s.writePosition + byteDisplacement) % s.dmaBufferSize -
          s.currentWritePosition)
    else byteDisplacement
  else byteDisplacement

/-- `UpdatePosition`, with the contents of the DMA buffer -/
def updatePosition (s : RenderStream) (hnsCurrentTime : Nat) (dma : Nat → UInt8) :
    RenderStream :=
  let presented := s.milliBytes hnsCurrentTime / 1000
  let byteDisplacement := s.beforeEos presented
  let position := (s.writePosition + byteDisplacement) % s.dmaBufferSize
  { s with
    hnsElapsedTimeCarryForward := s.hnsElapsed hnsCurrentTime % 10000
    byteDisplacementCarryForward := s.milliBytes hnsCurrentTime % 1000
    presentationPosition := s.presentationPosition + presented
    lastBufferRendered :=
      s.lastBufferRendered || (s.eosReceived && position == s.currentWritePosition)
    ring := readBytes dma s.dmaBufferSize byteDisplacement (s.linearPosition % s.dmaBufferSize)
      byteDisplacement s.ring
    playPosition := position
    writePosition := position
    linearPosition := s.linearPosition + byteDisplacement
    dmaTimeStamp := hnsCurrentTime }

/-- `GetPosition`, `GetPositions` -/
def getPosition (s : RenderStream) (hnsCurrentTime : Nat) (dma : Nat → UInt8) : RenderStream :=
  if s.ksState = .run then s.updatePosition hnsCurrentTime dma else s

/-- `SetState`: the branch of the new state -/
def enterState (s : RenderStream) (hnsCurrentTime : Nat) (dma : Nat → UInt8) :
    KsState → RenderStream
  | .stop =>
    { s with
      playPosition := 0
      writePosition := 0
      linearPosition := 0
      presentationPosition := 0
      currentWritePosition := 0
      eosReceived := false
      lastBufferRendered := false }
  | .acquire => s
  | .pause => s.getPosition hnsCurrentTime dma
  | .run =>
    { s with
      ring :=
        if s.ksState ≠ .run then
          s.ring.beginPcmStream s.wfExt.nSamplesPerSec s.wfExt.nChannels
            s.wfExt.wValidBitsPerSample s.wfExt.nBlockAlign
        else s.ring
      dmaTimeStamp := hnsCurrentTime }

def setState (s : RenderStream) (hnsCurrentTime : Nat) (dma : Nat → UInt8) (state : KsState) :
    RenderStream :=
  let entered := s.enterState hnsCurrentTime dma state
  { entered with
    ring := if s.ksState = .run ∧ state ≠ .run then entered.ring.endPcmStream else entered.ring
    ksState := state }

end RenderStream

/-! ## Runs -/

inductive StreamCall where
  | getPosition
  | setState (state : KsState)
  | pcmRead (valueSize : Nat)
deriving DecidableEq, Repr

/-- A call, the time since the one before it, and what the DMA buffer has in it then -/
structure StreamStep where
  elapsed : Nat
  call : StreamCall
  dma : Nat → UInt8 := fun _ => 0

/-- A stream, the clock, and (ghost) the time that the updates of the stream have counted -/
structure RenderRun where
  stream : RenderStream
  clock : Nat := 0
  counted : Nat := 0

def RenderStream.onCall (s : RenderStream) (hnsCurrentTime : Nat) (dma : Nat → UInt8) :
    StreamCall → RenderStream
  | .getPosition => s.getPosition hnsCurrentTime dma
  | .setState state => s.setState hnsCurrentTime dma state
  | .pcmRead valueSize => { s with ring := (s.ring.propertyHandlerPcmRead valueSize).2 }

namespace RenderRun

/-- The time of a step -/
def now (r : RenderRun) (i : StreamStep) : Nat := r.clock + i.elapsed

/-- A step updates the position. -/
def Updates (r : RenderRun) (i : StreamStep) : Prop :=
  r.stream.ksState = .run ∧ (i.call = .getPosition ∨ i.call = .setState .pause)

instance (r : RenderRun) (i : StreamStep) : Decidable (r.Updates i) :=
  inferInstanceAs (Decidable (_ ∧ _))

/-- The time counted when a step updates the position -/
def countedAt (r : RenderRun) (i : StreamStep) : Nat :=
  r.counted + (r.now i - r.stream.dmaTimeStamp)

end RenderRun

def renderRun : Reducer RenderRun StreamStep Unit where
  step r i := ((),
    { stream := r.stream.onCall (r.now i) i.dma i.call
      clock := r.now i
      counted := if r.Updates i then r.countedAt i else r.counted })

/-! ## What the ring gets -/

/-- The buffer as a stream: the bytes that a displacement passes, around its end -/
def dmaStream (dma : Nat → UInt8) (dmaBufferSize start n : Nat) : List UInt8 :=
  (List.range n).map fun i => dma ((start + i) % dmaBufferSize)

/-- Data enters a ring whole, behind what it retains. -/
structure Entered (ring ring' : PcmRing) (data : List UInt8) : Prop where
  retained : ring'.retained = (ring.retained ++ data).drop
    (ring.retained.length + data.length - pcmRingCapacityBytes)
  written : ring'.totalBytesWritten = ring.totalBytesWritten + UInt64.ofNat data.length

/-- An update starts at a frame, and the bytes that the position passes enter the ring. -/
structure RenderStream.InOrder (s : RenderStream) (hnsCurrentTime : Nat) (dma : Nat → UInt8) :
    Prop where
  boundary : s.wfExt.nBlockAlign ∣ s.linearPosition
  entered : Entered s.ring (s.updatePosition hnsCurrentTime dma).ring
    (dmaStream dma s.dmaBufferSize s.linearPosition
      ((s.updatePosition hnsCurrentTime dma).linearPosition - s.linearPosition))

namespace RenderRun

def EntersInOrder (r : RenderRun) (i : StreamStep) : Prop :=
  r.Updates i → r.stream.InOrder (r.now i) i.dma

/-- The products of the elapsed time have 32 bits. -/
def NoOverflow (r : RenderRun) (i : StreamStep) : Prop :=
  r.Updates i → r.stream.hnsElapsed (r.now i) < 2 ^ 32 ∧
    r.stream.dmaMovementRate * (r.stream.hnsElapsed (r.now i) / 10000) +
      r.stream.byteDisplacementCarryForward < 2 ^ 32

/-- In the whole milliseconds counted, the rate makes whole frames and less than a byte more. -/
def OnFrame (r : RenderRun) (i : StreamStep) : Prop :=
  r.Updates i → r.stream.dmaMovementRate * (r.countedAt i / 10000) %
    (1000 * r.stream.wfExt.nBlockAlign) < 1000

instance (r : RenderRun) (i : StreamStep) : Decidable (r.NoOverflow i) :=
  inferInstanceAs (Decidable (_ → _))

instance (r : RenderRun) (i : StreamStep) : Decidable (r.OnFrame i) :=
  inferInstanceAs (Decidable (_ → _))

end RenderRun

/-! ### The loop over the buffer -/

theorem length_dmaBytes (dma : Nat → UInt8) (bufferOffset n : Nat) :
    (dmaBytes dma bufferOffset n).length = n := by
  simp [dmaBytes]

theorem length_dmaStream (dma : Nat → UInt8) (dmaBufferSize start n : Nat) :
    (dmaStream dma dmaBufferSize start n).length = n := by
  simp [dmaStream]

@[simp] theorem dmaStream_zero (dma : Nat → UInt8) (dmaBufferSize start : Nat) :
    dmaStream dma dmaBufferSize start 0 = [] := rfl

@[simp] theorem readBytes_zero (dma : Nat → UInt8) (dmaBufferSize rounds bufferOffset : Nat)
    (ring : PcmRing) : readBytes dma dmaBufferSize rounds bufferOffset 0 ring = ring := by
  cases rounds with
  | zero => rfl
  | succ rounds => exact if_pos rfl

theorem dmaStream_mod (dma : Nat → UInt8) (dmaBufferSize start n : Nat) :
    dmaStream dma dmaBufferSize (start % dmaBufferSize) n = dmaStream dma dmaBufferSize start n := by
  simp only [dmaStream, Nat.mod_add_mod]

theorem dmaStream_split (dma : Nat → UInt8) {dmaBufferSize bufferOffset n : Nat}
    (h : bufferOffset + n ≤ dmaBufferSize) (m : Nat) :
    dmaStream dma dmaBufferSize bufferOffset (n + m) =
      dmaBytes dma bufferOffset n ++
        dmaStream dma dmaBufferSize ((bufferOffset + n) % dmaBufferSize) m := by
  rw [dmaStream_mod, dmaStream, List.range_add, List.map_append, List.map_map]
  congr 1
  · apply List.map_congr_left
    intro i hi
    have hlt := List.mem_range.mp hi
    rw [Nat.mod_eq_of_lt (by omega)]
  · apply List.map_congr_left
    intro i _
    simp [Nat.add_assoc]

/-- A ring that a stream runs into -/
structure PcmRing.Running (ring : PcmRing) (nBlockAlign : Nat) : Prop where
  laid : ring.Laid
  counted : ring.Counted
  active : ring.streamActive
  blockAlign : ring.blockAlign = nBlockAlign

theorem entered_nil {ring : PcmRing} (h : ring.Laid) : Entered ring ring [] where
  retained := by
    have havail := h.available
    rw [← h.length_retained] at havail
    rw [List.append_nil, List.length_nil, Nat.add_zero, Nat.sub_eq_zero_of_le havail, List.drop_zero]
  written := by simp

def PcmRing.Laid.queue {ring : PcmRing} (h : ring.Laid) : BoundedFifo UInt8 pcmRingCapacityBytes :=
  ⟨ring.retained, h.length_retained.trans_le h.available⟩

theorem Entered.trans {ring ring₁ ring₂ : PcmRing} {data more : List UInt8} (h : ring.Laid)
    (h₁ : ring₁.Laid) (hdata : Entered ring ring₁ data) (hmore : Entered ring₁ ring₂ more) :
    Entered ring ring₂ (data ++ more) where
  retained := by
    have hpush : h₁.queue = h.queue.push data := by
      apply BoundedFifo.ext
      rw [BoundedFifo.contents_push]
      exact hdata.retained
    have hboth := congrArg BoundedFifo.contents (h.queue.push_push data more)
    rw [← hpush, BoundedFifo.contents_push, BoundedFifo.contents_push] at hboth
    exact hmore.retained.trans hboth
  written := by
    rw [hmore.written, hdata.written, List.length_append, UInt64.ofNat_add, UInt64.add_assoc]

section
variable {ring : PcmRing} {nBlockAlign : Nat}

theorem PcmRing.Running.pushPcm (h : ring.Running nBlockAlign) (data : List UInt8) :
    (ring.pushPcm data).Running nBlockAlign ∧
      Entered ring (ring.pushPcm data) (PcmRing.wholeFrames nBlockAlign data) := by
  obtain ⟨hlaid, hcounted, hretained, hblock, hactive⟩ :=
    PcmRing.pushPcm_kept h.laid h.counted h.active (q := h.laid.queue) rfl data
  have hwritten := PcmRing.totalBytesWritten_pushPcm h.active h.laid.block_pos data
  rw [h.blockAlign] at hretained hwritten
  rw [BoundedFifo.contents_push] at hretained
  exact ⟨⟨hlaid, hcounted, hactive, hblock.trans h.blockAlign⟩, hretained, hwritten⟩

theorem PcmRing.Running.readBytes (dma : Nat → UInt8) {dmaBufferSize : Nat}
    (hsize : nBlockAlign ∣ dmaBufferSize) {rounds bufferOffset byteDisplacement : Nat}
    (hoffset : bufferOffset < dmaBufferSize) (hframe : nBlockAlign ∣ bufferOffset)
    (hrounds : byteDisplacement ≤ rounds) (h : ring.Running nBlockAlign) :
    (readBytes dma dmaBufferSize rounds bufferOffset byteDisplacement ring).Running nBlockAlign ∧
      Entered ring (readBytes dma dmaBufferSize rounds bufferOffset byteDisplacement ring)
        (PcmRing.wholeFrames nBlockAlign
          (dmaStream dma dmaBufferSize bufferOffset byteDisplacement)) := by
  induction rounds generalizing bufferOffset byteDisplacement ring with
  | zero =>
    obtain rfl : byteDisplacement = 0 := Nat.le_zero.mp hrounds
    rw [readBytes_zero, dmaStream_zero]
    exact ⟨h, entered_nil h.laid⟩
  | succ rounds ih =>
    rw [NativeLdac.Endpoint.readBytes]
    split_ifs with hzero
    · rw [hzero, dmaStream_zero]
      exact ⟨h, entered_nil h.laid⟩
    dsimp only
    rcases Nat.le_total byteDisplacement (dmaBufferSize - bufferOffset) with hlast | hwrap
    · -- the last push, which need not end at a frame
      have hin : bufferOffset + byteDisplacement ≤ dmaBufferSize := by omega
      have hstream := dmaStream_split dma hin 0
      rw [Nat.add_zero, dmaStream_zero, List.append_nil] at hstream
      rw [Nat.min_eq_left hlast, Nat.sub_self, readBytes_zero, hstream]
      exact h.pushPcm (dmaBytes dma bufferOffset byteDisplacement)
    · -- a push up to the end of the buffer
      obtain ⟨rest, rfl⟩ := Nat.exists_eq_add_of_le hwrap
      have hend : bufferOffset + (dmaBufferSize - bufferOffset) = dmaBufferSize := by omega
      have hchunk : nBlockAlign ∣ (dmaBytes dma bufferOffset (dmaBufferSize - bufferOffset)).length := by
        rw [length_dmaBytes]
        exact Nat.dvd_sub hsize hframe
      rw [Nat.min_eq_right hwrap, Nat.add_sub_cancel_left, dmaStream_split dma hend.le rest, hend,
        Nat.mod_self, PcmRing.wholeFrames_append hchunk]
      obtain ⟨hrunning, hpushed⟩ :=
        h.pushPcm (dmaBytes dma bufferOffset (dmaBufferSize - bufferOffset))
      rw [PcmRing.wholeFrames_of_dvd hchunk] at hpushed
      have hless : rest ≤ rounds := by omega
      obtain ⟨hrunning', hrest⟩ := ih (by omega) (Nat.dvd_zero _) hless hrunning
      exact ⟨hrunning', hpushed.trans h.laid hrunning.laid hrest⟩

theorem PcmRing.Running.propertyHandlerPcmRead (h : ring.Running nBlockAlign) (valueSize : Nat) :
    (ring.propertyHandlerPcmRead valueSize).2.Running nBlockAlign := by
  by_cases hsize : valueSize < sizeofPcmReadHeader
  · have hring : (ring.propertyHandlerPcmRead valueSize).2 = ring := by
      unfold PcmRing.propertyHandlerPcmRead
      split_ifs <;> rfl
    rw [hring]
    exact h
  · obtain ⟨header, after, hread, -, hlaid, hcounted, -, hblock, hactive⟩ :=
      PcmRing.propertyHandlerPcmRead_kept h.laid h.counted hsize
    rw [hread]
    exact ⟨hlaid, hcounted, hactive.trans h.active, hblock.trans h.blockAlign⟩

theorem PcmRing.ringBuffer_propertyHandlerPcmRead (ring : PcmRing) (valueSize : Nat) :
    (ring.propertyHandlerPcmRead valueSize).2.ringBuffer = ring.ringBuffer := by
  unfold PcmRing.propertyHandlerPcmRead
  dsimp only
  split_ifs <;> rfl

theorem PcmRing.running_begin (h : ring.ringBuffer.length = pcmRingCapacityBytes)
    (hb : nBlockAlign ∣ pcmRingCapacityBytes) (sampleRate channels bitsPerSample : Nat) :
    (ring.beginPcmStream sampleRate channels bitsPerSample nBlockAlign).Running nBlockAlign :=
  ⟨PcmRing.laid_begin h hb _ _ _, rfl, rfl, rfl⟩

end

/-! ### The carries -/

theorem carry_div (a b c : Nat) : (a % c + b) / c = (a + b) / c - a / c := by
  rcases Nat.eq_zero_or_pos c with rfl | hc
  · simp
  · have hsum : a + b = a % c + b + c * (a / c) := by
      have := Nat.mod_add_div a c
      omega
    rw [hsum, Nat.add_mul_div_left _ _ hc, Nat.add_sub_cancel]

theorem frames_iff (nBlockAlign n : Nat) :
    nBlockAlign ∣ n / 1000 ↔ n % (1000 * nBlockAlign) < 1000 := by
  rw [Nat.dvd_iff_mod_eq_zero, ← Nat.mod_mul_right_div_self, Nat.div_eq_zero_iff_lt (by decide)]

namespace RenderRun

/-- **The invariant**: the carries are what the time counted leaves over, and positions and buffer
    are at frames. -/
structure Inv (r : RenderRun) : Prop where
  aligned : r.stream.wfExt.nBlockAlign ∣ pcmRingCapacityBytes
  buffer : 0 < r.stream.dmaBufferSize
  bufferFrames : r.stream.wfExt.nBlockAlign ∣ r.stream.dmaBufferSize
  stamp : r.stream.dmaTimeStamp ≤ r.clock
  hnsCarry : r.stream.hnsElapsedTimeCarryForward = r.counted % 10000
  byteCarry : r.stream.byteDisplacementCarryForward =
    r.stream.dmaMovementRate * (r.counted / 10000) % 1000
  passed : r.stream.wfExt.nBlockAlign ∣ r.stream.dmaMovementRate * (r.counted / 10000) / 1000
  boundary : r.stream.wfExt.nBlockAlign ∣ r.stream.linearPosition
  goesOn : r.stream.eosReceived = false
  array : r.stream.ring.ringBuffer.length = pcmRingCapacityBytes
  running : r.stream.ksState = .run → r.stream.ring.Running r.stream.wfExt.nBlockAlign

section
variable {r : RenderRun} {i : StreamStep}

theorem Inv.hnsElapsed (h : r.Inv) :
    r.stream.hnsElapsed (r.now i) / 10000 = r.countedAt i / 10000 - r.counted / 10000 ∧
      r.stream.hnsElapsed (r.now i) % 10000 = r.countedAt i % 10000 := by
  rw [RenderStream.hnsElapsed, h.hnsCarry, Nat.add_comm]
  exact ⟨carry_div _ _ _, Nat.mod_add_mod _ _ _⟩

theorem Inv.milliBytes (h : r.Inv) (hu : r.Updates i) (ho : r.NoOverflow i) :
    r.stream.milliBytes (r.now i) / 1000 =
        r.stream.dmaMovementRate * (r.countedAt i / 10000) / 1000 -
          r.stream.dmaMovementRate * (r.counted / 10000) / 1000 ∧
      r.stream.milliBytes (r.now i) % 1000 =
        r.stream.dmaMovementRate * (r.countedAt i / 10000) % 1000 := by
  obtain ⟨htime, hbytes⟩ := ho hu
  have hle : r.counted / 10000 ≤ r.countedAt i / 10000 :=
    Nat.div_le_div_right (Nat.le_add_right _ _)
  have hmilli : r.stream.milliBytes (r.now i) =
      r.stream.dmaMovementRate * (r.counted / 10000) % 1000 +
        r.stream.dmaMovementRate * (r.countedAt i / 10000 - r.counted / 10000) := by
    rw [RenderStream.milliBytes, RenderStream.timeElapsedInMS, ulong, ulong, ulong,
      Nat.mod_eq_of_lt htime, Nat.mod_eq_of_lt (Nat.lt_of_le_of_lt (Nat.le_add_right _ _) hbytes),
      Nat.mod_eq_of_lt hbytes, h.byteCarry, h.hnsElapsed.1, Nat.add_comm]
  have hsum : r.stream.dmaMovementRate * (r.counted / 10000) +
      r.stream.dmaMovementRate * (r.countedAt i / 10000 - r.counted / 10000) =
        r.stream.dmaMovementRate * (r.countedAt i / 10000) := by
    rw [← Nat.mul_add, Nat.add_sub_cancel' hle]
  rw [hmilli]
  constructor
  · rw [carry_div, hsum]
  · rw [Nat.mod_add_mod, hsum]

theorem Inv.linearPosition (h : r.Inv) (hu : r.Updates i) (ho : r.NoOverflow i) :
    (r.stream.updatePosition (r.now i) i.dma).linearPosition = r.stream.linearPosition +
      (r.stream.dmaMovementRate * (r.countedAt i / 10000) / 1000 -
        r.stream.dmaMovementRate * (r.counted / 10000) / 1000) := by
  rw [← (h.milliBytes hu ho).1]
  show r.stream.linearPosition + r.stream.beforeEos _ = _
  rw [RenderStream.beforeEos, if_neg (by simp [h.goesOn])]

theorem Inv.pushed (h : r.Inv) (hu : r.Updates i) :
    (r.stream.updatePosition (r.now i) i.dma).ring.Running r.stream.wfExt.nBlockAlign ∧
      Entered r.stream.ring (r.stream.updatePosition (r.now i) i.dma).ring
        (PcmRing.wholeFrames r.stream.wfExt.nBlockAlign
          (dmaStream i.dma r.stream.dmaBufferSize r.stream.linearPosition
            ((r.stream.updatePosition (r.now i) i.dma).linearPosition -
              r.stream.linearPosition))) := by
  have hdisplaced : (r.stream.updatePosition (r.now i) i.dma).linearPosition -
      r.stream.linearPosition = r.stream.beforeEos (r.stream.milliBytes (r.now i) / 1000) :=
    Nat.add_sub_cancel_left _ _
  have hframe : r.stream.wfExt.nBlockAlign ∣ r.stream.linearPosition % r.stream.dmaBufferSize :=
    (Nat.dvd_mod_iff h.bufferFrames).mpr h.boundary
  rw [hdisplaced, ← dmaStream_mod]
  exact (h.running hu.1).readBytes i.dma h.bufferFrames (Nat.mod_lt _ h.buffer) hframe le_rfl

theorem Inv.inOrder_iff (h : r.Inv) (hu : r.Updates i) (ho : r.NoOverflow i) :
    r.stream.InOrder (r.now i) i.dma ↔
      r.stream.wfExt.nBlockAlign ∣
        r.stream.dmaMovementRate * (r.countedAt i / 10000) / 1000 := by
  obtain ⟨-, hpushed⟩ := h.pushed hu
  have hlinear := h.linearPosition hu ho
  have hbytes := (h.milliBytes hu ho).1
  have hless : r.stream.milliBytes (r.now i) < 2 ^ 32 := Nat.mod_lt _ (by decide)
  have hle : r.stream.dmaMovementRate * (r.counted / 10000) / 1000 ≤
      r.stream.dmaMovementRate * (r.countedAt i / 10000) / 1000 :=
    Nat.div_le_div_right (Nat.mul_le_mul_left _ (Nat.div_le_div_right (Nat.le_add_right _ _)))
  obtain ⟨displacement, hsum⟩ := Nat.exists_eq_add_of_le hle
  rw [hsum, Nat.add_sub_cancel_left] at hlinear hbytes
  have hdisplaced : (r.stream.updatePosition (r.now i) i.dma).linearPosition -
      r.stream.linearPosition = displacement := by
    rw [hlinear, Nat.add_sub_cancel_left]
  rw [hdisplaced] at hpushed
  rw [hsum, (Nat.dvd_add_iff_right h.passed).symm]
  constructor
  · rintro ⟨-, hentered⟩
    rw [hdisplaced] at hentered
    have hwritten := hpushed.written.symm.trans hentered.written
    rw [PcmRing.length_wholeFrames, length_dmaStream, UInt64.add_right_inj] at hwritten
    have hsmall : displacement < UInt64.size := by
      have hsize : UInt64.size = 2 ^ 64 := rfl
      omega
    have hnat := congrArg UInt64.toNat hwritten
    rw [UInt64.toNat_ofNat_of_lt' ((Nat.sub_le _ _).trans_lt hsmall),
      UInt64.toNat_ofNat_of_lt' hsmall] at hnat
    have hmod := Nat.mod_le displacement r.stream.wfExt.nBlockAlign
    apply Nat.dvd_of_mod_eq_zero
    omega
  · intro hframes
    refine ⟨h.boundary, ?_⟩
    rw [hdisplaced]
    rwa [PcmRing.wholeFrames_of_dvd (by rwa [length_dmaStream])] at hpushed

theorem Inv.update (h : r.Inv) (hu : r.Updates i) (ho : r.NoOverflow i)
    (hframes : r.stream.wfExt.nBlockAlign ∣
      r.stream.dmaMovementRate * (r.countedAt i / 10000) / 1000) :
    Inv { stream := r.stream.updatePosition (r.now i) i.dma
          clock := r.now i
          counted := r.countedAt i } where
  aligned := h.aligned
  buffer := h.buffer
  bufferFrames := h.bufferFrames
  stamp := le_rfl
  hnsCarry := h.hnsElapsed.2
  byteCarry := (h.milliBytes hu ho).2
  passed := hframes
  boundary := by
    rw [h.linearPosition hu ho]
    exact Nat.dvd_add h.boundary (Nat.dvd_sub hframes h.passed)
  goesOn := h.goesOn
  array := (h.pushed hu).1.laid.buffer
  running _ := (h.pushed hu).1

theorem Inv.wait (h : r.Inv) (i : StreamStep) : Inv { r with clock := r.now i } :=
  { h with stamp := h.stamp.trans (Nat.le_add_right _ _) }

theorem Inv.getPosition (h : r.Inv) (hu : r.stream.ksState = .run → r.Updates i)
    (ho : r.NoOverflow i) (hframe : r.OnFrame i) :
    Inv { stream := r.stream.getPosition (r.now i) i.dma
          clock := r.now i
          counted := if r.stream.ksState = .run then r.countedAt i else r.counted } := by
  unfold RenderStream.getPosition
  split_ifs with hrun
  · exact h.update (hu hrun) ho ((frames_iff _ _).mpr (hframe (hu hrun)))
  · exact h.wait i

theorem Inv.enterState (h : r.Inv) {state : KsState} (hcall : i.call = .setState state)
    (ho : r.NoOverflow i) (hframe : r.OnFrame i) :
    Inv { stream := r.stream.enterState (r.now i) i.dma state
          clock := r.now i
          counted := if r.Updates i then r.countedAt i else r.counted } ∧
      (state = .run → (r.stream.enterState (r.now i) i.dma state).ring.Running
        r.stream.wfExt.nBlockAlign) := by
  have hpause : r.Updates i ↔ r.stream.ksState = .run ∧ state = .pause := by
    simp [RenderRun.Updates, hcall]
  cases state with
  | stop =>
    rw [if_neg (by simp [hpause])]
    exact ⟨{ h.wait i with boundary := Nat.dvd_zero _, goesOn := rfl }, nofun⟩
  | acquire =>
    rw [if_neg (by simp [hpause])]
    exact ⟨h.wait i, nofun⟩
  | pause =>
    simp only [hpause, and_true]
    exact ⟨h.getPosition (fun hrun => hpause.mpr ⟨hrun, rfl⟩) ho hframe, nofun⟩
  | run =>
    rw [if_neg (by simp [hpause])]
    have hbegun : (r.stream.enterState (r.now i) i.dma .run).ring.Running
        r.stream.wfExt.nBlockAlign := by
      show PcmRing.Running (if r.stream.ksState ≠ .run then _ else r.stream.ring) _
      split_ifs with hstart
      · exact PcmRing.running_begin h.array h.aligned _ _ _
      · exact h.running (not_not.mp hstart)
    exact ⟨{ h.wait i with
      stamp := le_rfl
      array := hbegun.laid.buffer
      running := fun _ => hbegun }, fun _ => hbegun⟩

theorem Inv.next (h : r.Inv) (ho : r.NoOverflow i) (hframe : r.OnFrame i) :
    (renderRun.next r i).Inv := by
  have hnext : renderRun.next r i =
      { stream := r.stream.onCall (r.now i) i.dma i.call
        clock := r.now i
        counted := if r.Updates i then r.countedAt i else r.counted } := rfl
  rw [hnext]
  cases hcall : i.call with
  | getPosition =>
    have hu : r.Updates i ↔ r.stream.ksState = .run := by simp [RenderRun.Updates, hcall]
    simp only [hu]
    exact h.getPosition hu.mpr ho hframe
  | setState state =>
    obtain ⟨hentered, hrun⟩ := h.enterState hcall ho hframe
    refine { hentered with array := ?_, running := ?_ }
    · show List.length (PcmRing.ringBuffer (if _ then _ else _)) = _
      split_ifs
      · exact hentered.array
      · exact hentered.array
    · intro hstate
      obtain rfl : state = .run := hstate
      have hkept : ¬ (r.stream.ksState = .run ∧ KsState.run ≠ .run) := fun hleft => hleft.2 rfl
      show PcmRing.Running (if r.stream.ksState = .run ∧ KsState.run ≠ .run then _ else _) _
      rw [if_neg hkept]
      exact hrun rfl
  | pcmRead valueSize =>
    have hu : ¬ r.Updates i := by simp [RenderRun.Updates, hcall]
    rw [if_neg hu]
    exact { h.wait i with
      array := (congrArg List.length
        (r.stream.ring.ringBuffer_propertyHandlerPcmRead valueSize)).trans h.array
      running := fun hrun => (h.running hrun).propertyHandlerPcmRead valueSize }

end

end RenderRun

/-! ### Runs -/

theorem WaveFormat.isFormatSupported.aligned {format : WaveFormat} (h : format.isFormatSupported) :
    0 < format.nBlockAlign ∧ format.nBlockAlign ∣ pcmRingCapacityBytes := by
  obtain ⟨supported, hmem, -, -, -, -, -, -, hblock, -⟩ := h
  have hall : ∀ supported ∈ speakerHostPinSupportedDeviceFormats,
      0 < supported.nBlockAlign ∧ supported.nBlockAlign ∣ pcmRingCapacityBytes := by decide
  rw [hblock]
  exact hall supported hmem

theorem inv_newStream {format : WaveFormat} {requestedSize : Nat} {ring : PcmRing}
    {stream : RenderStream} (hring : ring.ringBuffer.length = pcmRingCapacityBytes)
    (hnew : newStream format requestedSize ring = some stream) : RenderRun.Inv { stream } := by
  unfold newStream allocateAudioBuffer at hnew
  split_ifs at hnew with hformat hsize
  · cases hnew
  obtain ⟨hpos, haligned⟩ := hformat.aligned
  have hrest := Nat.mod_lt requestedSize hpos
  obtain rfl := Option.some.inj hnew
  exact
    { aligned := haligned
      buffer := by
        show 0 < requestedSize - requestedSize % format.nBlockAlign
        omega
      bufferFrames := Nat.dvd_sub_mod _
      stamp := le_rfl
      hnsCarry := rfl
      byteCarry := by simp
      passed := ⟨0, by simp⟩
      boundary := Nat.dvd_zero _
      goesOn := rfl
      array := hring
      running := nofun }

theorem RenderRun.Inv.entersInOrder_iff {r : RenderRun} {i : StreamStep} (h : r.Inv)
    (ho : r.NoOverflow i) : r.EntersInOrder i ↔ r.OnFrame i :=
  forall_congr' fun hu => (h.inOrder_iff hu ho).trans (frames_iff _ _)

theorem entersInOrder_iff {r : RenderRun} (h : r.Inv) {steps : List StreamStep}
    (ho : renderRun.Along RenderRun.NoOverflow r steps) :
    renderRun.Along RenderRun.EntersInOrder r steps ↔ renderRun.Along RenderRun.OnFrame r steps :=
  Reducer.along_congr (fun _ _ h ho hin => h.next ho ((h.entersInOrder_iff ho).mp hin))
    (fun _ _ h ho => h.entersInOrder_iff ho) h ho

/-- **The bytes that the DMA position passes enter the ring in order** in the runs whose updates
    fall on frames, and in no others. -/
theorem rendered_in_order_iff {format : WaveFormat} {requestedSize : Nat} {ring : PcmRing}
    {stream : RenderStream} (hring : ring.ringBuffer.length = pcmRingCapacityBytes)
    (hnew : newStream format requestedSize ring = some stream) (steps : List StreamStep)
    (ho : renderRun.Along RenderRun.NoOverflow { stream } steps) :
    renderRun.Along RenderRun.EntersInOrder { stream } steps ↔
      renderRun.Along RenderRun.OnFrame { stream } steps :=
  entersInOrder_iff (inv_newStream hring hnew) ho

/-- A stream of 48 kHz runs, is paused and runs on; all of its updates are in order. -/
theorem rendered_in_order_iff_pause : ∃ stream,
    newStream (speakerPcmFormat 48000 16) 4098 {} = some stream ∧
      renderRun.Along RenderRun.EntersInOrder { stream }
        [⟨5, .setState .run, fun _ => 0⟩, ⟨31234, .getPosition, fun i => i.toUInt8⟩,
          ⟨25000, .setState .pause, fun _ => 1⟩, ⟨70000, .setState .run, fun _ => 0⟩,
          ⟨500, .pcmRead 300, fun _ => 0⟩, ⟨412345, .getPosition, fun i => i.toUInt8⟩] := by
  have hnew : newStream (speakerPcmFormat 48000 16) 4098 {} = some _ := rfl
  exact ⟨_, hnew,
    (rendered_in_order_iff List.length_replicate hnew _ (by decide)).mpr (by decide)⟩

/-- At 44.1 kHz an update after 3 ms passes 529 bytes, of which the ring gets 528. -/
theorem rendered_out_of_order : ∃ stream,
    newStream (speakerPcmFormat 44100 16) 4096 {} = some stream ∧
      renderRun.Along RenderRun.NoOverflow { stream }
        [⟨0, .setState .run, fun _ => 0⟩, ⟨30000, .getPosition, fun i => i.toUInt8⟩] ∧
      ¬ renderRun.Along RenderRun.EntersInOrder { stream }
        [⟨0, .setState .run, fun _ => 0⟩, ⟨30000, .getPosition, fun i => i.toUInt8⟩] := by
  have hnew : newStream (speakerPcmFormat 44100 16) 4096 {} = some _ := rfl
  refine ⟨_, hnew, by decide, fun h => ?_⟩
  have hinv := inv_newStream List.length_replicate hnew
  have honframe := (entersInOrder_iff hinv (by decide)).mp h
  exact absurd honframe (by decide)

end NativeLdac.Endpoint
