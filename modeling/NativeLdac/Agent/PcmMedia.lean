/-
  Media packets of the PCM session: a packet is built for the place of the
  stream, written at most once with success, and only then the place advances.
-/
import NativeLdac.Agent.PcmSpec

namespace NativeLdac.Agent

open Engine Protocol

/-- The encoder runs at the rate of the stream. -/
structure PcmCore.Encoding (c : PcmCore) : Prop where
  encoderRate : c.encoderRate = some c.rate
  samplesPerFrame : c.samplesPerFrame = frameSamples c.rate

/-- The stream is started and the lease is held. -/
structure PcmCore.Streaming (c : PcmCore) : Prop extends c.Encoding where
  held : c.leaseHeld = true
  unsuspended : c.suspendedForPause = false

/-- The stream may be closed in order. -/
def PcmCore.Stopping (c : PcmCore) : Prop :=
  c.suspendedForPause = true → c.cleanupRequired = false

theorem PcmCore.Streaming.stopping {c : PcmCore} (h : c.Streaming) : c.Stopping := by
  intro hs
  rw [h.unsuspended] at hs
  cases hs

/-- The session goes on, and the packet continues the stream. -/
structure Fitting (e : PcmCore → Prop) (packet : List UInt8) (samples : UInt32) (v : PcmView) :
    Prop extends Going e v where
  fits : Fits v.core.rate v.place packet samples

/-- A packet that was built reads back as the place of the stream and the frames
    encoded. -/
structure Built (e : PcmCore → Prop) (encoded : LdacEncoder.Encoded)
    (built : LdacRtpStatus × List UInt8) (v : PcmView) : Prop extends Going e v where
  reads : built.1 = .ok → RtpPacket.sequenceNumber built.2 = v.place.sequence.toNat ∧
    RtpPacket.timestamp built.2 = v.place.timestamp.toNat ∧
    RtpPacket.frameCount built.2 = encoded.transportFrameCount.toNat

/-- A write that succeeded is counted next. -/
def WriteEnds (e : PcmCore → Prop) (samples : UInt32) (ok : Bool) (v : PcmView) : Prop :=
  if ok then Going e { v with place := v.place.advance samples } else Going e v

/-- After one attempt the packet is written, or may be tried again. -/
def AttemptEnds (e : PcmCore → Prop) (packet : List UInt8) (samples : UInt32) :
    Bool → PcmView → Prop
  | true => WriteEnds e samples true
  | false => Fitting e packet samples

section
variable {e e' : PcmCore → Prop} {v : PcmView} {packet : List UInt8} {samples : UInt32}

theorem Going.mono (h : Going e v) (he : ∀ c, e c → e' c) : Going e' v := ⟨h.good, he _ h.core⟩

theorem Built.fitting {encoded : LdacEncoder.Encoded} {built : LdacRtpStatus × List UInt8}
    (h : Built e encoded built v) (hok : built.1 = .ok) {samplesPerFrame : UInt32}
    (hs : samplesPerFrame = frameSamples v.core.rate) :
    Fitting e built.2 (encoded.transportFrameCount.toUInt32 * samplesPerFrame) v := by
  obtain ⟨hsequence, htimestamp, hcount⟩ := h.reads hok
  refine ⟨h.toGoing, hsequence, htimestamp, ?_⟩
  have hframe : (frameSamples v.core.rate).toNat ≤ 256 := by
    unfold frameSamples
    split <;> decide
  have hbound := encoded.transportFrameCount.toNat_lt
  have hmul : encoded.transportFrameCount.toNat * (frameSamples v.core.rate).toNat ≤ 256 * 256 :=
    Nat.mul_le_mul (by omega) hframe
  rw [hs, packetSamples, hcount, UInt32.toNat_mul, UInt8.toNat_toUInt32]
  omega

theorem Fitting.attempt (h : Fitting e packet samples v) (ok : Bool) :
    AttemptEnds e packet samples ok { v with calls := .writeMedia packet ok :: v.calls } := by
  cases ok with
  | true => exact ⟨h.good.written h.fits, h.core⟩
  | false => exact ⟨⟨h.good.writeFailed packet, h.core⟩, h.fits⟩

end

section
variable {F H Ω : Type} [FloatArith F] (env : PcmEnvironment F H Ω)
  (options : V1TransportPcmOptions F) {e : PcmCore → Prop}

/-! ## Building -/

theorem calm_encodeBlock (pcm : PcmBlock F) : Calm (encodeBlock env pcm) := by
  refine .step fun s => ?_
  cases hs : s.encoder with
  | none => rfl
  | some encoder =>
    have hrate : (encoder.encodeF32 env.library pcm s.world).2.1.sampleRateHz =
        encoder.sampleRateHz :=
      LdacEncoder.sampleRateHz_encodeF32 encoder pcm s.world
    simp only [PcmSession.view, hs, Option.map_some, hrate]

theorem spec_buildMediaPacket (encoded : LdacEncoder.Encoded) :
    Spec (Going e) (buildMediaPacket encoded : Prog (PcmSession F H Ω) _) (Built e encoded) :=
  .read fun _ h => ⟨h, fun hok => RtpPacket.read_build hok⟩

/-! ## Writing -/

theorem spec_writeMediaAttempts (packet : List UInt8) (allowGracefulStop : Bool)
    {samples : UInt32} (left : Nat) (error : UInt32) :
    Spec (Fitting e packet samples)
      (writeMediaAttempts env options packet allowGracefulStop left error)
      fun answer => WriteEnds e samples answer.ok := by
  induction left generalizing error with
  | zero => exact .pure fun v h => h.toGoing
  | succ left ih =>
    unfold writeMediaAttempts
    refine .bind (Q := fun answer => AttemptEnds e packet samples answer.ok)
      (spec_askLogged fun answer v h => h.attempt _) ?_
    intro answer
    refine .ite ?_ ?_
    · intro hok
      refine .pure fun v h => ?_
      rw [hok] at h ⊢
      exact h
    intro hok
    rw [Bool.not_eq_true] at hok
    rw [hok]
    refine .calm_bind (calm_probeStop env) ?_
    intro stop
    refine .ite (fun _ => ?_) fun _ => ?_
    · refine .calm_bind (.onlyIf (calm_report fun _ => rfl)) fun _ => ?_
      exact .pure fun v h => h.toGoing
    · refine .calm_bind (calm_report fun _ => rfl) fun _ => ?_
      refine .calm_bind (calm_ask _) fun _ => ?_
      exact ih _

/-! ## Boundary silence -/

theorem spec_sendSilencePacket (allowGracefulStop : Bool) (encoded : LdacEncoder.Encoded)
    {samplesPerFrame : UInt32} (he : ∀ c, e c → samplesPerFrame = frameSamples c.rate) :
    Spec (Going e) (sendSilencePacket env options allowGracefulStop encoded
      (encoded.transportFrameCount.toUInt32 * samplesPerFrame)) (Yields (Going e)) := by
  have hfails (disposition : V1TransportConfigurationDisposition) {P : PcmView → Prop}
      (hP : ∀ v, P v → Going e v) :
      Spec P (setFailure disposition .writePcm : Prog (PcmSession F H Ω) Unit) fun _ => Done :=
    (fails_setFailure _ _).pre hP
  unfold sendSilencePacket
  refine .bind (spec_buildMediaPacket encoded) ?_
  intro built
  refine .ite ?_ ?_
  · intro _
    exact .fails ((fails_protocolFailure _ _).pre fun v h => h.toGoing) fun v h => h
  intro hok
  refine Spec.pre (?_ : Spec (Fitting e built.2 _) _ _) fun v h =>
    h.fitting (not_not.mp hok) (he _ h.core)
  refine .calm_bind (.read _) ?_
  intro written
  refine .ite (fun _ => ?_) fun _ => ?_
  · exact .fails ((fails_protocolFailure _ _).pre fun v h => h.toGoing) fun v h => h
  refine .calm_bind (.read _) ?_
  intro place
  refine .calm_bind (calm_ask _) ?_
  intro waited
  refine .ite (fun _ => ?_) fun _ => ?_
  · refine .calm_bind (calm_probeStop env) ?_
    intro stop
    refine .calm_bind (calm_report fun _ => rfl) fun _ => ?_
    exact .fails (hfails _ fun v h => h.toGoing) fun v h => h
  refine .calm_bind (calm_report fun _ => rfl) fun _ => ?_
  refine .calm_bind (calm_probeStop env) ?_
  intro stop
  refine .ite (fun _ => ?_) fun _ => ?_
  · exact .fails (hfails _ fun v h => h.toGoing) fun v h => h
  refine .bind (spec_writeMediaAttempts env options _ _ _ _) ?_
  intro sent
  refine .ite ?_ ?_
  · intro hsent
    rw [hsent]
    refine .calm_bind (calm_report fun _ => rfl) fun _ => ?_
    refine .calm_bind (calm_probeStop env) ?_
    intro stop
    exact .fails (hfails _ fun v h => h) fun v h => h
  intro hsent
  rw [Bool.not_eq_false] at hsent
  rw [hsent]
  refine .bind (.update fun s h => ?_) fun _ => .pure fun v h => h
  have hplace (n : UInt64) : s.result.pcmFramesSent + (s.result.startupSilenceFramesSent + n) =
      s.result.pcmFramesSent + s.result.startupSilenceFramesSent + n :=
    (UInt64.add_assoc _ _ _).symm
  simp only [PcmSession.view, countPacket, hplace]
  exact h

theorem spec_silenceRound (allowGracefulStop : Bool) {samplesPerFrame : UInt32}
    (he : ∀ c, e c → samplesPerFrame = frameSamples c.rate) (targetFrames : UInt64)
    (round : SilenceRound) :
    Spec (Going e) (silenceRound env options allowGracefulStop samplesPerFrame targetFrames round)
      fun r v => r.elim (fun _ => Going e v) fun ok => Yields (Going e) ok v := by
  unfold silenceRound
  refine .ite (fun _ => ?_) fun _ => ?_
  · exact .pure fun v h => h
  refine .ite (fun _ => ?_) fun _ => ?_
  · exact .fails (fails_protocolFailure _ _) fun v h => h
  refine .calm_bind (calm_encodeBlock env _) ?_
  intro encoded
  refine .ite (fun _ => ?_) fun _ => ?_
  · exact .fails (fails_protocolFailure _ _) fun v h => h
  refine .ite (fun _ => ?_) fun _ => ?_
  · exact .pure fun v h => h
  refine .ite (fun _ => ?_) fun _ => ?_
  · exact .fails (fails_protocolFailure _ _) fun v h => h
  refine .bind (spec_sendSilencePacket env options allowGracefulStop encoded he) ?_
  intro ok
  cases ok with
  | true => exact .pure fun v h => h
  | false => exact .pure fun v h => h

theorem spec_sendBoundarySilence (fuel : Nat) (durationMs : F) (allowGracefulStop : Bool) :
    Spec (Going PcmCore.Streaming)
      (sendBoundarySilence env options fuel durationMs allowGracefulStop)
      (Yields (Going PcmCore.Streaming)) := by
  unfold sendBoundarySilence
  refine .ite (fun _ => ?_) fun _ => ?_
  · exact .pure fun v h => h
  refine .calm_bind (.read _) ?_
  intro rate
  refine Spec.read_bind (fun v => v.core.encoderRate.map frameSamples) (fun s => ?_)
    fun samplesPerFrame => ?_
  · cases hs : s.encoder <;> simp [PcmSession.view, hs, LdacEncoder.samplesPerTransportFrame,
      frameSamples]
  cases samplesPerFrame with
  | none => exact .pure fun v h => h.1.good.done
  | some samplesPerFrame =>
    refine Spec.pre (?_ : Spec
      (Going fun c => c.Streaming ∧ samplesPerFrame = frameSamples c.rate) _ _) fun v h => ?_
    · refine .ite (fun _ => ?_) fun _ => ?_
      · exact .pure fun v h => h.good.done
      refine .ite (fun _ => ?_) fun _ => ?_
      · exact .pure fun v h => h.mono fun _ hc => hc.1
      refine (Spec.iterate (I := fun _ => Going _) (fun round => spec_silenceRound env options
        allowGracefulStop (fun _ hc => hc.2) _ round) (fun _ _ h => h.good.stuck) _ _).post ?_
      intro ok v h
      cases ok with
      | true => exact h.mono fun _ hc => hc.1
      | false => exact h
    · obtain ⟨hgoing, hsamples⟩ := h
      rw [hgoing.core.encoderRate, Option.map_some, Option.some.injEq] at hsamples
      exact ⟨hgoing.good, hgoing.core, hsamples⟩

/-! ## The encoder -/

/-- An encoder that was created runs at the rate of the stream. -/
structure Created (e : PcmCore → Prop) (created : LdacEncoderStatus × Option (LdacEncoder H))
    (v : PcmView) : Prop extends Going e v where
  rate : ∀ encoder, created.2 = some encoder → encoder.sampleRateHz = v.core.rate

theorem spec_createEncoder : Spec (Going e) (createEncoder env options) (Created e) :=
  .step fun _ h => ⟨h, fun _ hc => LdacEncoder.sampleRateHz_of_create hc⟩

theorem calm_destroyEncoder : Calm (destroyEncoder env) := by
  refine .update fun s => ?_
  cases hs : s.encoder with
  | none => rfl
  | some encoder => simp only [PcmSession.view, hs]

theorem spec_resetTransportEncoder :
    Spec (Going PcmCore.Streaming) (resetTransportEncoder env options)
      (Yields (Going PcmCore.Streaming)) := by
  unfold resetTransportEncoder
  refine .bind (spec_createEncoder env options) ?_
  intro created
  split
  next replacement =>
    refine .calm_bind (calm_destroyEncoder env) fun _ => ?_
    refine .bind (Q := fun _ => Going PcmCore.Streaming) (.update fun s h => ?_) fun _ => .pure
      fun v h => h
    have hrate : some replacement.sampleRateHz = s.encoder.map LdacEncoder.sampleRateHz :=
      (congrArg some (h.rate replacement rfl)).trans h.core.encoderRate.symm
    have hview : PcmSession.view { s with encoder := some replacement } = s.view := by
      simp only [PcmSession.view, Option.map_some, hrate]
    rw [hview]
    exact h.toGoing
  next => exact .fails ((fails_protocolFailure _ _).pre fun v h => h.toGoing) fun v h => h

theorem spec_sendStartupSilence (fuel : Nat) :
    Spec (Going PcmCore.Streaming) (sendStartupSilence env options fuel)
      (Yields (Going PcmCore.Streaming)) := by
  unfold sendStartupSilence
  refine .ite (fun _ => ?_) fun _ => ?_
  · exact spec_sendBoundarySilence env options fuel _ _
  · exact .pure fun _ h => h

theorem spec_restartEncoding (fuel : Nat) :
    Spec (Going PcmCore.Streaming) (restartEncoding env options fuel)
      (Yields (Going PcmCore.Streaming)) :=
  .andAlso (spec_resetTransportEncoder env options) <|
    .andAlso (spec_sendStartupSilence env options fuel) <|
    .calm_bind (.update fun _ => rfl) fun _ => .pure fun _ h => h

/-! ## A block of the main loop -/

theorem spec_fadeBlock :
    Spec (Going e) (fadeBlock options : Prog (PcmSession F H Ω) _) fun block v =>
      block.elim (Done v) fun _ => Going e v := by
  unfold fadeBlock
  refine .calm_bind (.read _) ?_
  intro s
  refine .ite (fun _ => ?_) fun _ => ?_
  · exact .pure fun v h => h
  refine .ite (fun _ => ?_) fun _ => ?_
  · exact .fails (fails_protocolFailure _ _) fun v h => h
  dsimp only
  split
  · exact .fails (fails_protocolFailure _ _) fun v h => h
  · refine .calm_bind (.update fun _ => rfl) fun _ => ?_
    exact .pure fun v h => h

theorem calm_fadeAfterBoundary (block : PcmBlock F) :
    Calm (fadeAfterBoundary block : Prog (PcmSession F H Ω) _) := by
  refine .step fun s => ?_
  dsimp only
  split <;> rfl

theorem spec_shapeBlock :
    Spec (Going e) (shapeBlock env options) fun block v =>
      block.elim (Done v) fun _ => Going e v := by
  unfold shapeBlock
  refine .bind (spec_fadeBlock options) ?_
  intro block
  cases block with
  | none => exact .pure fun v h => h
  | some block =>
    refine .calm_bind (calm_fadeAfterBoundary block) ?_
    intro block
    refine .calm_bind (.read _) ?_
    intro s
    dsimp only
    split
    · exact .fails (fails_protocolFailure _ _) fun v h => h
    · refine .calm_bind (.update fun _ => rfl) fun _ => ?_
      exact .pure fun v h => h

theorem calm_checkStableVolume : Calm (checkStableVolume env options) := by
  unfold checkStableVolume
  refine .bind (.read _) ?_
  intro error
  refine .bind (calm_ask _) ?_
  intro answer
  refine .bind (.update fun _ => rfl) fun _ => ?_
  refine .ite ?_ ?_
  · refine .bind (calm_report fun _ => rfl) fun _ => ?_
    exact .pure _
  · refine .bind (.read _) ?_
    intro locked
    refine .ite ?_ ?_
    · refine .bind (calm_report fun _ => rfl) fun _ => ?_
      exact .pure _
    · refine .bind (.read _) ?_
      intro observed
      refine .bind (.onlyIf ?_) fun _ => ?_
      · refine .bind (calm_report fun _ => rfl) fun _ => ?_
        exact .update fun _ => rfl
      refine .ite (.pure _) (.ite ?_ ?_)
      · exact .pure _
      · exact .pure _

section
variable {p : PcmView → Prop}

theorem spec_volumeGate (hp : ∀ v, p v → Going PcmCore.Stopping v) :
    Spec p (volumeGate env options) (FlowIs p (Going PcmCore.Stopping)) := by
  unfold volumeGate
  refine .ite (fun _ => ?_) fun _ => ?_
  · exact .pure fun _ h => h
  refine .calm_bind (calm_checkStableVolume env options) ?_
  intro volume
  refine .ite (fun _ => ?_) fun _ => ?_
  · refine .ite (fun _ => ?_) fun _ => ?_
    · refine .calm_bind (.update fun _ => rfl) fun _ => ?_
      exact .pure fun v h => h
    · refine .calm_bind (.update fun _ => rfl) fun _ => ?_
      exact .pure hp
  refine .ite (fun _ => ?_) fun _ => ?_
  · refine .calm_bind (.update fun s => ?_) fun _ => .pure hp
    dsimp only
    split <;> rfl
  · exact .pure fun v h => h

theorem spec_commitFade (hp : ∀ v, p v → Going e v) (packetSamples : UInt32) :
    Spec p (commitFade options packetSamples : Prog (PcmSession F H Ω) _) fun committed v =>
      committed.elim (Done v) fun _ => p v := by
  unfold commitFade
  refine .calm_bind (.read _) ?_
  intro s
  refine .ite (fun _ => ?_) fun _ => ?_
  · exact .pure fun _ h => h
  dsimp only
  split
  · exact .pure fun v h => h
  · refine .calm_bind (calm_report fun _ => rfl) fun _ => ?_
    exact .fails ((fails_protocolFailure _ _).pre hp) fun v h => h

theorem spec_paceWrite (hp : ∀ v, p v → Going PcmCore.Stopping v) :
    Spec p (paceWrite env) (FlowIs p (Going PcmCore.Stopping)) := by
  have hfails (disposition : V1TransportConfigurationDisposition) :
      Spec p (setFailure disposition .writePcm : Prog (PcmSession F H Ω) Unit) fun _ => Done :=
    (fails_setFailure _ _).pre hp
  have hstop : Spec p (do stopGracefully; return .leave : Prog (PcmSession F H Ω) Flow)
      (FlowIs p (Going PcmCore.Stopping)) :=
    .calm_bind (.update fun _ => rfl) fun _ => .pure hp
  unfold paceWrite
  refine .calm_bind (.read _) ?_
  intro s
  refine .calm_bind (calm_askError _) ?_
  intro ok
  refine .ite (fun _ => ?_) fun _ => ?_
  · refine .calm_bind (calm_probeStop env) ?_
    intro waitStop
    refine .ite (fun _ => ?_) fun _ => ?_
    · exact hstop
    refine .calm_bind (.read _) ?_
    intro error
    refine .calm_bind (calm_report fun _ => rfl) fun _ => ?_
    exact .fails (hfails _) fun v h => h
  refine .calm_bind (calm_report fun _ => rfl) fun _ => ?_
  refine .calm_bind (calm_probeStop env) ?_
  intro writeStop
  refine .ite (fun _ => ?_) fun _ => ?_
  · exact .fails (hfails _) fun v h => h
  · refine .ite (fun _ => ?_) fun _ => ?_
    · exact hstop
    · exact .pure fun v h => h

end

theorem spec_writePacket (packet : List UInt8) (packetSamples : UInt32)
    (committedFadeState : V1SentFrameFadeState) {q : PcmView → Prop} :
    Spec (Fitting e packet packetSamples)
      (writePacket env options packet packetSamples committedFadeState) (FlowIs (Going e) q) := by
  unfold writePacket
  refine .calm_bind (.read _) ?_
  intro error
  refine .bind (spec_writeMediaAttempts env options _ _ _ _) ?_
  intro sent
  refine .calm_bind (.update fun _ => rfl) fun _ => ?_
  refine .ite ?_ ?_
  · intro hsent
    rw [hsent]
    refine .calm_bind (calm_report fun _ => rfl) fun _ => ?_
    refine .calm_bind (calm_stopIsCancel env) ?_
    intro cancelled
    exact .fails (fails_setFailure _ _) fun v h => h
  intro hsent
  rw [Bool.not_eq_false] at hsent
  rw [hsent]
  refine .calm_bind (.onlyIf (.update fun _ => rfl)) fun _ => ?_
  refine .bind (.update fun s h => ?_) fun _ => .pure fun v h => h
  have hplace (n : UInt64) : s.result.pcmFramesSent + n + s.result.startupSilenceFramesSent =
      s.result.pcmFramesSent + s.result.startupSilenceFramesSent + n := by
    rw [UInt64.add_assoc, UInt64.add_comm n, UInt64.add_assoc]
  simp only [PcmSession.view, countPacket, hplace]
  exact h

theorem spec_sendBlock :
    Spec (Going PcmCore.Streaming) (sendBlock env options)
      (FlowIs (Going PcmCore.Streaming) (Going PcmCore.Stopping)) := by
  unfold sendBlock
  refine .bind (spec_shapeBlock env options) ?_
  intro block
  cases block with
  | none => exact .pure fun v h => h
  | some block =>
    refine .calm_bind (calm_encodeBlock env block) ?_
    intro encoded
    refine .ite (fun _ => ?_) fun _ => ?_
    · exact .fails (fails_protocolFailure _ _) fun v h => h
    refine .ite (fun _ => ?_) fun _ => ?_
    · exact .pure fun v h => h
    refine .bind (spec_buildMediaPacket encoded) ?_
    intro built
    refine .ite ?_ ?_
    · intro _
      exact .fails ((fails_protocolFailure _ _).pre fun v h => h.toGoing) fun v h => h
    intro hok
    refine .calm_bind (.read _) ?_
    intro written
    refine .ite (fun _ => ?_) fun _ => ?_
    · exact .fails ((fails_protocolFailure _ _).pre fun v h => h.toGoing) fun v h => h
    refine Spec.read_bind (fun v => v.core.samplesPerFrame) (fun _ => rfl) ?_
    intro samplesPerFrame
    refine Spec.pre (?_ : Spec (Fitting PcmCore.Streaming built.2
      (encoded.transportFrameCount.toUInt32 * samplesPerFrame)) _ _) fun v h =>
      h.1.fitting (not_not.mp hok) (h.2.trans h.1.core.samplesPerFrame)
    refine .bind (spec_commitFade options (fun v h => h.toGoing) _) ?_
    intro committed
    cases committed with
    | none => exact .pure fun v h => h
    | some committedFadeState =>
      have hstopping {samples : UInt32} (v : PcmView)
          (h : Fitting PcmCore.Streaming built.2 samples v) : Going PcmCore.Stopping v :=
        h.toGoing.mono fun _ hc => hc.stopping
      refine .andThen (spec_paceWrite env hstopping) (fun v h => h.toGoing) ?_
      refine .andThen (spec_volumeGate env options hstopping) (fun v h => h.toGoing) ?_
      exact spec_writePacket env options _ _ _

end

end NativeLdac.Agent
