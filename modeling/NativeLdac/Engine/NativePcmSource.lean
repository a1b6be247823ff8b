/-
  The reader of the endpoint's PCM stream
  (`engine/windows/native_pcm_source.cpp`): it drains replies of the driver into
  a queue of samples and serves reads of whole frames from it.

  * a reply is the header of the endpoint with the bytes behind it;
  * a read is given the replies that it drains, with the tick after each; a read
    whose replies are used up is still waiting;
  * samples are exact: the `float` values are fractions of a power of two;
  * the endpoint volume is not applied.
-/
import NativeLdac.Endpoint.PcmRing
import NativeLdac.Lib.EpochFifo
import NativeLdac.Protocol.LdacCodec

namespace NativeLdac.Engine

open Endpoint Protocol

inductive NativePcmSourceStatus where
  | ok | invalidArgument | noMemory | notFound | ioError | unsupportedFormat | timeout
  | unsupportedProperty
deriving DecidableEq, Repr

def errorSuccess : UInt32 := 0
def errorInvalidData : UInt32 := 13
def waitTimeout : UInt32 := 258

/-- `sizeof(NATIVE_LDAC_PCM_INFO)` -/
def sizeofPcmInfo : Nat := 64

inductive PcmPropertyRead where
  | failed (error : UInt32)
  /-- fewer bytes than a header -/
  | short
  | answered (header : PcmReadHeader) (payload : List UInt8)
deriving DecidableEq, Repr

/-- `native_pcm_source`, without the device, its volume and the consumer lease. -/
structure NativePcmSource where
  info : PcmInfo
  fifo : List Rat
  lastError : UInt32
  fifoEpoch : UInt64
deriving DecidableEq, Repr

def supportedFormat (info : PcmInfo) : Prop :=
  info.size ≥ sizeofPcmInfo ∧ info.abiVersion = pcmAbiVersion ∧
    (info.sampleRate = 44100 ∨ info.sampleRate = 48000 ∨ info.sampleRate = 88200 ∨
      info.sampleRate = 96000) ∧
    info.channels = 2 ∧ (info.bitsPerSample = 16 ∨ info.bitsPerSample = 24) ∧
    info.blockAlign = if info.bitsPerSample = 24 then info.channels * 4 else info.channels * 2

instance (info : PcmInfo) : Decidable (supportedFormat info) :=
  inferInstanceAs (Decidable (_ ∧ _))

/-! ## Samples -/

def sample16 (samples : List UInt8) (offset : Nat) : Rat :=
  let bits := (byteAt samples offset).toUInt16 ||| ((byteAt samples (offset + 1)).toUInt16 <<< 8)
  (bits.toInt16.toInt : Rat) / 32768

/-- A packed 24-bit sample. -/
def sample24 (samples : List UInt8) (offset : Nat) : Rat :=
  let value := (byteAt samples offset).toUInt32 |||
    ((byteAt samples (offset + 1)).toUInt32 <<< 8) |||
    ((byteAt samples (offset + 2)).toUInt32 <<< 16)
  let value := if value &&& 0x00800000 ≠ 0 then value ||| 0xFF000000 else value
  (value.toInt32.toInt : Rat) / 8388608

/-- A 24-bit sample, left-aligned in a container of 32 bits. -/
def sample24In32 (samples : List UInt8) (offset : Nat) : Rat :=
  let value := (byteAt samples offset).toUInt32 |||
    ((byteAt samples (offset + 1)).toUInt32 <<< 8) |||
    ((byteAt samples (offset + 2)).toUInt32 <<< 16) |||
    ((byteAt samples (offset + 3)).toUInt32 <<< 24)
  ((value.toInt32 >>> 8).toInt : Rat) / 8388608

/-- The samples of a reply, or none for a width that the source does not know. -/
def decodeSamples (header : PcmReadHeader) (samples : List UInt8) : Option (List Rat) :=
  let bytesPerSample := header.infoBeforeRead.blockAlign / header.infoBeforeRead.channels
  let sampleCount := header.bytesReturned / bytesPerSample
  if bytesPerSample = 2 then
    some ((List.range sampleCount).map fun index => sample16 samples (index * 2))
  else if bytesPerSample = 3 then
    some ((List.range sampleCount).map fun index => sample24 samples (index * 3))
  else if bytesPerSample = 4 ∧ header.infoBeforeRead.bitsPerSample = 24 then
    some ((List.range sampleCount).map fun index => sample24In32 samples (index * 4))
  else none

/-! ## The driver's replies -/

namespace NativePcmSource

def drainDriver (source : NativePcmSource) :
    PcmPropertyRead → NativePcmSourceStatus × NativePcmSource
  | .failed error => (.ioError, { source with lastError := error })
  | .short => (.ioError, { source with lastError := errorInvalidData })
  | .answered header payload =>
    let source := { source with lastError := errorSuccess }
    if ¬ supportedFormat header.infoBeforeRead ∨ header.bytesReturned > payload.length ∨
        header.bytesReturned % header.infoBeforeRead.blockAlign ≠ 0 then
      (.ioError, { source with lastError := errorInvalidData })
    else
      let source := if source.fifoEpoch ≠ header.infoBeforeRead.streamEpoch then
        { source with fifo := [], fifoEpoch := header.infoBeforeRead.streamEpoch } else source
      let source := { source with info := { header.infoBeforeRead with
        availableBytes := header.availableBytesAfterRead } }
      match decodeSamples header payload with
      | some samples => (.ok, { source with fifo := source.fifo ++ samples })
      | none => (.ioError, { source with lastError := errorInvalidData })

end NativePcmSource

/-! ## Reads -/

/-- A reply that a read drains, and the tick after it. -/
structure PcmDrain where
  reply : PcmPropertyRead
  tick : UInt64
deriving DecidableEq, Repr

/-- A call of `native_pcm_source_read_f32_stereo`. -/
structure F32ReadCall where
  requestedFrames : UInt64
  timeoutMs : UInt32
  startTick : UInt64
  drains : List PcmDrain
deriving DecidableEq, Repr

structure F32ReadAnswer where
  status : NativePcmSourceStatus
  framesRead : UInt64
  interleavedStereo : List Rat
deriving DecidableEq, Repr

/-- The epoch and the samples that an accepted reply delivers. -/
def PcmPropertyRead.delivery? : PcmPropertyRead → Option (UInt64 × List Rat)
  | .answered header payload =>
    if ¬ supportedFormat header.infoBeforeRead ∨ header.bytesReturned > payload.length ∨
        header.bytesReturned % header.infoBeforeRead.blockAlign ≠ 0 then none
    else (decodeSamples header payload).map fun samples =>
      (header.infoBeforeRead.streamEpoch, samples)
  | .failed _ | .short => none

/-- The delivery of a reply, as an event. -/
def PcmPropertyRead.event? (reply : PcmPropertyRead) : Option (EpochFifo.Event UInt64 Rat) :=
  reply.delivery?.map fun delivery => .delivered delivery.1 delivery.2

/-- The source with the samples delivered to it and taken from it so far. -/
structure TracedPcmSource where
  source : NativePcmSource
  events : List (EpochFifo.Event UInt64 Rat)
deriving DecidableEq, Repr

namespace TracedPcmSource

/-- A source after `native_pcm_source_create`. -/
def opened (candidateInfo : PcmInfo) : TracedPcmSource where
  source := { info := candidateInfo, fifo := [], lastError := errorSuccess
              fifoEpoch := candidateInfo.streamEpoch }
  events := []

def drain (t : TracedPcmSource) (reply : PcmPropertyRead) :
    NativePcmSourceStatus × TracedPcmSource :=
  ((t.source.drainDriver reply).1,
    { source := (t.source.drainDriver reply).2, events := t.events ++ reply.event?.toList })

def take (t : TracedPcmSource) (samples : Nat) : TracedPcmSource where
  source := { t.source with fifo := t.source.fifo.drop samples }
  events := t.events ++ [.taken (t.source.fifo.take samples)]

def readLoop (requestedFrames deadline : UInt64) :
    TracedPcmSource → List PcmDrain → Option F32ReadAnswer × TracedPcmSource
  | t, drains =>
    let requestedSamples := requestedFrames.toNat * 2
    if requestedSamples ≤ t.source.fifo.length then
      (some ⟨.ok, requestedFrames, t.source.fifo.take requestedSamples⟩, t.take requestedSamples)
    else match drains with
      | [] => (none, t)
      | drain :: rest =>
        let drained := t.drain drain.reply
        if drained.1 ≠ .ok then (some ⟨drained.1, 0, []⟩, drained.2)
        else if ¬ requestedSamples ≤ drained.2.source.fifo.length ∧ deadline ≤ drain.tick then
          (some ⟨.timeout, 0, []⟩, { drained.2 with
            source := { drained.2.source with lastError := waitTimeout } })
        else readLoop requestedFrames deadline drained.2 rest

def readF32Stereo (t : TracedPcmSource) (call : F32ReadCall) :
    Option F32ReadAnswer × TracedPcmSource :=
  if call.requestedFrames = 0 ∨ call.requestedFrames > 0x7FFFFFFFFFFFFFFF then
    (some ⟨.invalidArgument, 0, []⟩, t)
  else t.readLoop call.requestedFrames (call.startTick + call.timeoutMs.toUInt64) call.drains

end TracedPcmSource

def nativePcmSource : Reducer TracedPcmSource F32ReadCall (Option F32ReadAnswer) where
  step := TracedPcmSource.readF32Stereo

/-! ## Replies -/

/-- The samples not yet read, with their epoch. -/
def NativePcmSource.queue (source : NativePcmSource) : EpochFifo UInt64 Rat :=
  { epoch := source.fifoEpoch, queue := source.fifo }

theorem decodeSamples_of_supportedFormat {header : PcmReadHeader}
    (h : supportedFormat header.infoBeforeRead) (samples : List UInt8) :
    ∃ decoded, decodeSamples header samples = some decoded := by
  obtain ⟨-, -, -, hchannels, hbits, hblock⟩ := h
  unfold decodeSamples
  rw [hblock, hchannels]
  rcases hbits with hbits | hbits
  · simp [hbits]
  · simp [hbits]

theorem drainDriver_queue (source : NativePcmSource) (reply : PcmPropertyRead) :
    match reply.delivery? with
    | some (epoch, samples) => (source.drainDriver reply).1 = .ok ∧
      (source.drainDriver reply).2.queue = source.queue.push epoch samples
    | none => (source.drainDriver reply).1 = .ioError ∧
      (source.drainDriver reply).2.queue = source.queue := by
  cases reply with
  | failed error => exact ⟨rfl, rfl⟩
  | short => exact ⟨rfl, rfl⟩
  | answered header payload =>
    by_cases hrefused : ¬ supportedFormat header.infoBeforeRead ∨
        header.bytesReturned > payload.length ∨
        header.bytesReturned % header.infoBeforeRead.blockAlign ≠ 0
    · simp only [PcmPropertyRead.delivery?, NativePcmSource.drainDriver, if_pos hrefused]
      exact ⟨trivial, rfl⟩
    · have hsupported : supportedFormat header.infoBeforeRead := by
        by_contra h
        exact hrefused (.inl h)
      obtain ⟨samples, hsamples⟩ := decodeSamples_of_supportedFormat hsupported payload
      simp only [PcmPropertyRead.delivery?, NativePcmSource.drainDriver, if_neg hrefused, hsamples,
        Option.map_some]
      refine ⟨trivial, ?_⟩
      by_cases he : source.fifoEpoch = header.infoBeforeRead.streamEpoch
      · simp [NativePcmSource.queue, EpochFifo.push, he]
      · simp [NativePcmSource.queue, EpochFifo.push, he]

namespace TracedPcmSource

variable {epoch : UInt64} {t : TracedPcmSource}

/-- The queue holds what was delivered and not taken. -/
def Conserves (epoch : UInt64) (t : TracedPcmSource) : Prop :=
  t.source.queue.Conserves (EpochFifo.periods epoch t.events)

theorem Conserves.drain (h : t.Conserves epoch) (reply : PcmPropertyRead) :
    (t.drain reply).2.Conserves epoch := by
  have hqueue := drainDriver_queue t.source reply
  unfold Conserves TracedPcmSource.drain PcmPropertyRead.event?
  dsimp only
  generalize reply.delivery? = delivery at hqueue ⊢
  rcases delivery with _ | ⟨epoch', samples⟩
  · rw [hqueue.2, Option.map_none, Option.toList_none, List.append_nil]
    exact h
  · rw [hqueue.2, Option.map_some, Option.toList_some, EpochFifo.periods_concat]
    exact h.push epoch' samples

theorem Conserves.take (h : t.Conserves epoch) (samples : Nat) :
    (t.take samples).Conserves epoch := by
  have hpop := EpochFifo.Conserves.pop h samples
  rw [← EpochFifo.periods_concat] at hpop
  exact hpop

/-- What a read takes from the queue. -/
def takenBy : Option F32ReadAnswer → List (EpochFifo.Event UInt64 Rat)
  | some answer => if answer.status = .ok then [.taken answer.interleavedStereo] else []
  | none => []

/-- What one read does: it drains some of its replies, and takes exactly the
    frames requested if it succeeds, and nothing otherwise. -/
structure Reads (requestedFrames : UInt64) (t : TracedPcmSource) (drains : List PcmDrain)
    (result : Option F32ReadAnswer × TracedPcmSource) : Prop where
  exact : ∀ answer, result.1 = some answer → answer.status = .ok →
    answer.framesRead = requestedFrames ∧
      answer.interleavedStereo.length = 2 * requestedFrames.toNat
  events : ∃ n, result.2.events = t.events ++
    (drains.take n).filterMap (·.reply.event?) ++ takenBy result.1

variable {requestedFrames deadline : UInt64} {drains : List PcmDrain}

theorem reads_nothing {answer : Option F32ReadAnswer} {t' : TracedPcmSource}
    (hanswer : ∀ a, answer = some a → a.status ≠ .ok) (n : Nat)
    (hevents : t'.events = t.events ++ (drains.take n).filterMap (·.reply.event?)) :
    Reads requestedFrames t drains (answer, t') where
  exact := fun a ha hok => absurd hok (hanswer a ha)
  events := by
    refine ⟨n, ?_⟩
    have htaken : takenBy answer = [] := by
      cases answer with
      | none => rfl
      | some a => exact if_neg (hanswer a rfl)
    rw [hevents, htaken, List.append_nil]

theorem reads_take (h : requestedFrames.toNat * 2 ≤ t.source.fifo.length) :
    Reads requestedFrames t drains
      (some ⟨.ok, requestedFrames, t.source.fifo.take (requestedFrames.toNat * 2)⟩,
        t.take (requestedFrames.toNat * 2)) where
  exact := by
    rintro answer ha -
    cases ha
    refine ⟨rfl, ?_⟩
    show (List.take _ _).length = _
    rw [List.length_take, Nat.min_eq_left h, Nat.mul_comm]
  events := by
    refine ⟨0, ?_⟩
    rw [List.take_zero, List.filterMap_nil, List.append_nil]
    rfl

theorem reads_readLoop (requestedFrames deadline : UInt64) (t : TracedPcmSource)
    (drains : List PcmDrain) :
    Reads requestedFrames t drains (readLoop requestedFrames deadline t drains) ∧
      (t.Conserves epoch → (readLoop requestedFrames deadline t drains).2.Conserves epoch) := by
  induction drains generalizing t with
  | nil =>
    unfold readLoop
    dsimp only
    split_ifs with hserved
    · exact ⟨reads_take hserved, fun h => h.take _⟩
    · exact ⟨reads_nothing nofun 0 (List.append_nil _).symm, id⟩
  | cons drain rest ih =>
    have hdrained : (t.drain drain.reply).2.events =
        t.events ++ ((drain :: rest).take 1).filterMap (·.reply.event?) := by
      rw [List.take_succ_cons, List.take_zero, List.filterMap_cons, List.filterMap_nil]
      cases h : drain.reply.event? <;> simp [TracedPcmSource.drain, h]
    unfold readLoop
    dsimp only
    split_ifs with hserved hfailed htimeout
    · exact ⟨reads_take hserved, fun h => h.take _⟩
    · refine ⟨reads_nothing ?_ 1 hdrained, fun h => h.drain _⟩
      rintro a ha
      cases ha
      exact hfailed
    · refine ⟨reads_nothing ?_ 1 hdrained, fun h => h.drain drain.reply⟩
      rintro a ha
      cases ha
      nofun
    · obtain ⟨⟨hexact, n, hevents⟩, hconserves⟩ := ih (t.drain drain.reply).2
      refine ⟨⟨hexact, n + 1, ?_⟩, fun h => hconserves (h.drain _)⟩
      rw [hevents, hdrained, List.take_succ_cons, List.take_succ_cons, List.take_zero,
        List.filterMap_cons, List.filterMap_cons, List.filterMap_nil]
      cases drain.reply.event? <;> simp

theorem reads_step (t : TracedPcmSource) (call : F32ReadCall) :
    Reads call.requestedFrames t call.drains (nativePcmSource.step t call) ∧
      (t.Conserves epoch → (nativePcmSource.next t call).Conserves epoch) := by
  show Reads _ _ _ (t.readF32Stereo call) ∧ (_ → (t.readF32Stereo call).2.Conserves epoch)
  unfold readF32Stereo
  split_ifs
  · refine ⟨reads_nothing ?_ 0 (List.append_nil _).symm, id⟩
    rintro a ha
    cases ha
    nofun
  · exact reads_readLoop _ _ _ _

theorem conserves_opened (candidateInfo : PcmInfo) :
    (opened candidateInfo).Conserves candidateInfo.streamEpoch :=
  EpochFifo.conserves_empty _

theorem Conserves.newEpoch (h : t.Conserves epoch) {reply : PcmPropertyRead} {epoch' : UInt64}
    {samples : List Rat} (hdelivery : reply.delivery? = some (epoch', samples))
    (hne : epoch' ≠ t.source.fifoEpoch) :
    (∃ p past, EpochFifo.periods epoch t.events = p :: past ∧
      p.epoch = t.source.fifoEpoch ∧ p.taken ++ t.source.fifo = p.delivered) ∧
      (t.source.drainDriver reply).2.fifo = samples := by
  refine ⟨h.current, ?_⟩
  have hqueue := drainDriver_queue t.source reply
  rw [hdelivery] at hqueue
  have hpush : t.source.queue.push epoch' samples = ⟨epoch', samples⟩ := if_neg hne.symm
  exact congrArg EpochFifo.queue (hqueue.2.trans hpush)

end TracedPcmSource

/-- **The source after any reads**, whatever the driver replied.  An epoch lasts as
    long as the replies carry its number.

    * in each epoch, what the reads returned is a prefix of what was delivered,
      and the rest of the last epoch is still to be read;
    * the next read returns exactly the frames requested, or nothing: then it
      leaves all samples in place;
    * a reply of another epoch discards what was not read, and nothing else. -/
theorem nativePcmSource_faithful (candidateInfo : PcmInfo) (calls : List F32ReadCall) :
    let t := nativePcmSource.after (.opened candidateInfo) calls
    t.Conserves candidateInfo.streamEpoch ∧
      (∀ call, (nativePcmSource.step t call).2.Conserves candidateInfo.streamEpoch ∧
        TracedPcmSource.Reads call.requestedFrames t call.drains (nativePcmSource.step t call)) ∧
      ∀ reply epoch samples, reply.delivery? = some (epoch, samples) →
        epoch ≠ t.source.fifoEpoch →
        (∃ p past, EpochFifo.periods candidateInfo.streamEpoch t.events = p :: past ∧
          p.epoch = t.source.fifoEpoch ∧ p.taken ++ t.source.fifo = p.delivered) ∧
        (t.source.drainDriver reply).2.fifo = samples := by
  intro t
  have hconserves : t.Conserves candidateInfo.streamEpoch :=
    Reducer.after_inv (fun t call h _ => (TracedPcmSource.reads_step t call).2 h)
      (TracedPcmSource.conserves_opened candidateInfo)
      (Reducer.along_of_forall (Q := fun _ _ => True) (fun _ _ => trivial) _ calls)
  refine ⟨hconserves, fun call => ?_, fun reply epoch samples => hconserves.newEpoch⟩
  obtain ⟨hreads, hnext⟩ := TracedPcmSource.reads_step t call
  exact ⟨hnext hconserves, hreads⟩

end NativeLdac.Engine
