/-
  What the report and the calls of a PCM session say, for every environment,
  every options and every fuel: the packets written form one stream, the stream
  is left started exactly if the report says so, the lease and the signaling
  channel are given back once unless a pause fails to release the lease, and
  the commands of the peer are answered in order or end the session.
-/
import NativeLdac.Agent.PcmStream
import Mathlib.Algebra.Order.Floor.Ring
import Mathlib.Data.Rat.Floor

namespace NativeLdac.Agent

open Engine Protocol

/-! ## Runs -/

section
variable {F H Ω : Type} [FloatArith F] {r : Option Unit × PcmSession F H Ω}

theorem RunEnds.media (h : RunEnds r) :
    Media r.2.view.core.rate r.2.view.place (mediaPackets r.2.calls) := by
  obtain ⟨_ | ⟨⟩, s⟩ := r
  · exact Over.media h
  · exact Finished.media h

theorem RunEnds.stream (h : RunEnds r) : StreamIs r.2.view.core.cleanupRequired r.2.calls := by
  obtain ⟨_ | ⟨⟩, s⟩ := r
  · exact Over.stream h
  · exact Finished.stream h

theorem RunEnds.finished (h : RunEnds r) (hr : r.1 = some ()) : Finished r.2.view := by
  obtain ⟨_ | ⟨⟩, s⟩ := r
  · cases hr
  · exact h

end

/-! ## The media stream -/

theorem samplesOf_reverse (rate : UInt32) (packets : List (List UInt8)) :
    samplesOf rate packets.reverse = samplesOf rate packets := by
  rw [samplesOf, List.map_reverse, List.sum_reverse, samplesOf]

theorem Continuous.getElem {rate : UInt32} {packets : List (List UInt8)}
    (h : Continuous rate packets) (i : Nat) (hi : i < packets.reverse.length) :
    RtpPacket.sequenceNumber packets.reverse[i] = i % 2 ^ 16 ∧
      RtpPacket.timestamp packets.reverse[i] =
        samplesOf rate (packets.reverse.take i) % 2 ^ 32 := by
  induction packets with
  | nil => exact absurd hi (Nat.not_lt_zero i)
  | cons packet earlier ih =>
    obtain ⟨hsequence, htimestamp, hearlier⟩ := h
    simp only [List.reverse_cons] at hi ⊢
    by_cases hlast : i < earlier.reverse.length
    · rw [List.getElem_append_left hlast, List.take_append_of_le_length hlast.le]
      exact ih hearlier hlast
    · obtain rfl : i = earlier.reverse.length := by
        rw [List.length_append, List.length_singleton] at hi
        omega
      rw [List.getElem_concat_length rfl, List.take_left, samplesOf_reverse, List.length_reverse]
      exact ⟨hsequence, htimestamp⟩

section
variable {F H Ω : Type} [FloatArith F]

/-- The packets written with success, in the order of sending. -/
def PcmSession.packets (s : PcmSession F H Ω) : List (List UInt8) := (mediaPackets s.calls).reverse

/-- Counted from the first packet, the sequence number of a packet is the number
    of earlier ones, its timestamp the number of their samples; and every frame
    sent is counted. -/
structure OneStream (s : PcmSession F H Ω) : Prop where
  sequence : ∀ i (hi : i < s.packets.length), RtpPacket.sequenceNumber s.packets[i] =
    (RtpPacket.sequenceNumber (s.packets.headD []) + i) % 2 ^ 16
  timestamp : ∀ i (hi : i < s.packets.length), RtpPacket.timestamp s.packets[i] =
    (RtpPacket.timestamp (s.packets.headD []) +
      samplesOf s.result.pcmFormat.sampleRateHz (s.packets.take i)) % 2 ^ 32
  accounted : s.result.pcmFramesSent + s.result.startupSilenceFramesSent =
    s.result.transportFramesSent

theorem Continuous.head {rate : UInt32} {packets : List (List UInt8)}
    (h : Continuous rate packets) (hp : 0 < packets.reverse.length) :
    RtpPacket.sequenceNumber (packets.reverse.headD []) = 0 ∧
      RtpPacket.timestamp (packets.reverse.headD []) = 0 := by
  have hhead : packets.reverse.headD [] = packets.reverse[0] := by
    rw [List.headD_eq_head?_getD, List.head?_eq_getElem?, List.getElem?_eq_getElem hp,
      Option.getD_some]
  rw [hhead]
  exact h.getElem 0 hp

variable (env : PcmEnvironment F H Ω) (options : V1TransportPcmOptions F)

/-- **The packets written are one continuous stream**, wherever the session
    ends. -/
theorem media_stream_continuous (fuel : Nat) (world : Ω) :
    OneStream (runV1TransportPcmBurstOnce env options fuel world).2 := by
  have hmedia := (run_holds env options fuel world).media
  refine ⟨fun i hi => ?_, fun i hi => ?_, hmedia.accounted.trans hmedia.reported.symm⟩
  · obtain ⟨hfirst, -⟩ := hmedia.continuous.head (Nat.zero_lt_of_lt hi)
    obtain ⟨hsequence, -⟩ := hmedia.continuous.getElem i hi
    refine hsequence.trans ?_
    rw [PcmSession.packets, hfirst, Nat.zero_add]
  · obtain ⟨-, hfirst⟩ := hmedia.continuous.head (Nat.zero_lt_of_lt hi)
    obtain ⟨-, htimestamp⟩ := hmedia.continuous.getElem i hi
    refine htimestamp.trans ?_
    rw [PcmSession.packets, hfirst, Nat.zero_add]
    rfl

/-! ## The last stream command -/

/-- **The stream is left started exactly if the report says so**, wherever the
    session ends. -/
theorem cleanup_required_iff (fuel : Nat) (world : Ω) :
    (runV1TransportPcmBurstOnce env options fuel world).2.result.remoteStreamCleanupRequired =
        true ↔
      lastStreamCommand (runV1TransportPcmBurstOnce env options fuel world).2.calls =
        some avdtpSignalStart :=
  Iff.symm (run_holds env options fuel world).stream

/-! ## The lease and the channel -/

/-- **A run that returns gives everything back exactly once** if no release at a
    pause fails; otherwise `Finish` releases the lease a second time. -/
theorem returned_iff (fuel : Nat) (world : Ω)
    (h : (runV1TransportPcmBurstOnce env options fuel world).1 = some ()) :
    Returned (runV1TransportPcmBurstOnce env options fuel world).2.calls ↔
      ¬ PauseReleaseFailed (runV1TransportPcmBurstOnce env options fuel world).2.calls := by
  have hfinished := (run_holds env options fuel world).finished h
  obtain ⟨hlease, hpause⟩ | ⟨hlease, hpause⟩ := hfinished.lease
  · exact ⟨fun _ => hpause, fun _ => ⟨hlease, hfinished.signaling⟩⟩
  · refine ⟨fun hreturned => ?_, fun hp => absurd hpause hp⟩
    have htwice := hlease.symm.trans hreturned.lease
    cases htwice

end

instance (calls : List PcmCall) : Decidable (PauseReleaseFailed calls) :=
  inferInstanceAs (Decidable (_ ∈ calls))

/-- Exact arithmetic. -/
instance : FloatArith ℚ where
  isFinite _ := true
  ofNat n := n
  ceil x := (⌈x⌉ : ℤ)
  toUInt64 x := ⌊x⌋.toNat.toUInt64
  decLe := inferInstance
  decLt := inferInstance

def renderFormat : V1TransportPcmFormat ℚ :=
  { V1TransportPcmFormat.empty ℚ with sampleRateHz := 96000, bitsPerSample := 24 }

/-- A sink with one LDAC endpoint, which accepts every command. -/
def sinkReply : List UInt8 → List UInt8
  | first :: 0x01 :: _ => [first ||| 0x02, 0x01, 0x04, 0x08]
  | first :: 0x0C :: _ =>
    [first ||| 0x02, 0x0C, 0x01, 0x00, 0x07, 0x0A, 0x00, 0xFF] ++ ldacBuildCodecInfo ldacSfAll 0x07
  | first :: signal :: _ => [first ||| 0x02, signal]
  | _ => []

/-- A render stream of one block, which is prepared once; the world counts its
    reads.  `releaseOk` is the answer of `Release`, `polled` that of a poll. -/
def oneBlockEnvironment (releaseOk : Bool) (polled : PollAnswer) :
    PcmEnvironment ℚ Unit Nat where
  backend :=
    { openSignaling := fun _ _ w => (⟨true, 0⟩, w)
      closeSignaling := fun _ w => (⟨true, 0⟩, w)
      exchangeSignaling := fun sent _ _ w => (⟨⟨true, 0⟩, sinkReply sent⟩, w)
      openMedia := fun _ _ _ w => (⟨⟨true, 0⟩, 1000, 1000⟩, w)
      writeMedia := fun _ _ _ w => (⟨true, 0⟩, w)
      beginPeerSignalingRead := fun _ _ w => (⟨true, 0⟩, w)
      pollPeerSignalingRead := fun _ w => (polled, w)
      sendPeerSignalingResponse := fun _ _ _ w => (⟨true, 0⟩, w)
      cancelPeerSignalingRead := fun _ w => (⟨true, 0⟩, w) }
  source :=
    { prepare := fun _ _ _ w => (⟨⟨w = 0, 5⟩, renderFormat⟩, w)
      readFrames := fun _ _ _ _ w =>
        (if w = 0 then ⟨.data, List.replicate 256 1, 128, 0⟩ else ⟨.streamStopped, [], 0, 0⟩,
          w + 1)
      queryFormat := fun _ _ w => (⟨⟨true, 0⟩, renderFormat⟩, w)
      querySnapshot := id
      waitUntilSample := fun _ _ _ w => (⟨true, 0⟩, w)
      resetPacing := fun _ w => (⟨true, 0⟩, w)
      release := fun _ w => (⟨releaseOk, 5⟩, w) }
  host :=
    { now := fun w => (0, w)
      sleepForMs := fun _ w => w
      stopProbe := none
      startedNotifier := none }
  library :=
    { allocate := fun w => (true, w)
      getHandle := fun w => (some (), w)
      initHandleEncode := fun _ _ _ _ _ w => (0, w)
      freeHandle := fun _ w => w
      getErrorCode := fun _ w => (0, w)
      encode := fun _ _ w => (⟨0, 1024, 0, 0, []⟩, w) }
  limiter := fun block _ _ _ state => some (block, state)

/-- The render stream stops after its block, and the session pauses. -/
def pausedRun (releaseOk : Bool) : Option Unit × PcmSession ℚ Unit Nat :=
  runV1TransportPcmBurstOnce (oneBlockEnvironment releaseOk ⟨.noPacket, [], 0⟩)
    { pauseSuspend := true } 20 0

theorem pausedRun_returned : Returned (pausedRun true).2.calls :=
  (returned_iff _ _ _ _ (by decide +kernel)).mpr (by decide +kernel)

theorem pausedRun_released_twice :
    (pausedRun false).1 = some () ∧ ¬ Returned (pausedRun false).2.calls :=
  ⟨by decide +kernel, fun h => absurd h.lease (by decide +kernel)⟩

/-! ## The peer -/

section
variable {F H Ω : Type} [FloatArith F] (env : PcmEnvironment F H Ω)
  (options : V1TransportPcmOptions F)

/-- The calls of a run are a dialogue with the peer, whose last command the
    report accounts for. -/
def InDialogue (r : Option Unit × PcmSession F H Ω) : Prop :=
  ∃ turn, PeerDialogue r.2.calls turn ∧
    if r.1 = some () then Concluded r.2.view turn else Underway r.2.view turn

/-- **The dialogue with the peer.**  A command of the peer is answered only if
    it is the next one, from an unchanged source; any other one is the last thing
    that happens, and a protocol failure. -/
theorem peer_dialogue (fuel : Nat) (world : Ω) :
    InDialogue (runV1TransportPcmBurstOnce env options fuel world) := by
  have hends := run_holds env options fuel world
  generalize runV1TransportPcmBurstOnce env options fuel world = r at hends ⊢
  obtain ⟨_ | ⟨⟩, s⟩ := r
  · exact Over.dialogue hends
  · exact Finished.dialogue hends

end

/-- The commands in the order DISCOVER, a capability query, SET_CONFIGURATION,
    CLOSE. -/
def InListedOrder (signals : List UInt8) : Prop :=
  ∃ query, IsCapabilityQuery query ∧
    signals <+: [avdtpSignalDiscover, query, avdtpSignalSetConfiguration, avdtpSignalClose]

def leavingPeerRun : Option Unit × PcmSession ℚ Unit Nat :=
  runV1TransportPcmBurstOnce (oneBlockEnvironment true ⟨.packet, [0x10, 0x08, 0x04], 0⟩)
    { observePeerCloseWhileStreaming := true } 20 0

theorem leavingPeerRun_not_inListedOrder :
    leavingPeerRun.1 = some () ∧ ¬ InListedOrder (answered leavingPeerRun.2.calls).reverse := by
  have hanswered : answered leavingPeerRun.2.calls = [avdtpSignalClose] := by decide +kernel
  refine ⟨by decide +kernel, ?_⟩
  rw [hanswered]
  rintro ⟨query, -, hprefix⟩
  obtain ⟨hfirst, -⟩ := List.cons_prefix_cons.mp hprefix
  exact absurd hfirst (by decide)

end NativeLdac.Agent
