/-
  Pauses and rebinds of the PCM session: the stream is suspended and started
  again, and the consumer lease is given back and acquired again.
-/
import NativeLdac.Agent.PcmControl
import NativeLdac.Agent.PcmMedia

namespace NativeLdac.Agent

open Engine Protocol

/-! ## Reports that lag behind -/

/-- The invariant, whatever the report says of the stream. -/
structure StreamLags (e : PcmCore → Prop) (started : Bool) (v : PcmView) : Prop where
  core : e v.core
  sound : Sound started v.core.leaseHeld v.core.signalingOpened v

/-- The invariant, whatever the report says of the lease. -/
structure LeaseLags (e : PcmCore → Prop) (held : Bool) (v : PcmView) : Prop where
  core : e v.core
  sound : Sound v.core.cleanupRequired held v.core.signalingOpened v

section
variable {e e' : PcmCore → Prop} {v : PcmView} {started held : Bool}

theorem StreamLags.report (h : StreamLags e started v)
    (he : ∀ c, e c → e' { c with cleanupRequired := started }) :
    Going e' { v with core := { v.core with cleanupRequired := started } } :=
  ⟨h.sound.withCore rfl, he _ h.core⟩

theorem LeaseLags.report (h : LeaseLags e held v)
    (he : ∀ c, e c → e' { c with leaseHeld := held }) :
    Going e' { v with core := { v.core with leaseHeld := held } } :=
  ⟨h.sound.withCore rfl, he _ h.core⟩

theorem Going.release (h : Going e v) (hl : v.core.leaseHeld = true) {site : ReleaseSite}
    {ok : Bool} (hs : site = .pause → ok = true) :
    LeaseLags e false { v with calls := .release site ok :: v.calls } := by
  have hsound : Sound v.core.cleanupRequired true v.core.signalingOpened v := by
    rw [← hl]
    exact h.good
  exact ⟨h.core, hsound.releaseCall hs⟩

theorem Going.releaseFailed (h : Going e v) (hl : v.core.leaseHeld = true)
    (primary : V1TransportConfigurationDisposition) :
    Done { v with calls := .release .pause false :: v.calls, primary := primary } where
  media := h.good.media
  channel := h.good.channel.other rfl rfl
  lease := .inr ⟨Bracket.after_close rfl rfl (h.good.lease.trans (congrArg some hl)), hl, .head _⟩
  stream := h.good.stream
  dialogue := ⟨.idle, .silent rfl h.good.dialogue, trivial⟩

theorem Going.acquire (h : Going e v) (hl : v.core.leaseHeld = false) (ok : Bool) :
    LeaseLags e ok { v with calls := .prepare ok :: v.calls } := by
  have hsound : Sound v.core.cleanupRequired false v.core.signalingOpened v := by
    rw [← hl]
    exact h.good
  cases ok with
  | true => exact ⟨h.core, hsound.prepared⟩
  | false => exact ⟨h.core, hsound.prepareFailed⟩

theorem LeaseLags.going (h : LeaseLags e held v) (hl : v.core.leaseHeld = held) : Going e v := by
  refine ⟨?_, h.core⟩
  unfold Good
  rw [hl]
  exact h.sound

end

section
variable {F H Ω β : Type} [FloatArith F] (env : PcmEnvironment F H Ω)
  (options : V1TransportPcmOptions F) {e e' : PcmCore → Prop}

/-! ## Stream commands -/

theorem spec_avdtpStep {P : PcmView → Prop} {f : AvdtpSource → AvdtpAction × AvdtpSource}
    {r : AvdtpAction × AvdtpSource → Prop} (hf : ∀ v, P v → Going e v ∧ r (f v.avdtp)) :
    Spec P (avdtpStep f : Prog (PcmSession F H Ω) _) fun action v =>
      Going e v ∧ r (action, v.avdtp) :=
  .step fun s h => by
    obtain ⟨hgoing, hr⟩ := hf s.view h
    exact ⟨⟨hgoing.good.withAvdtp _, hgoing.core⟩, hr⟩

theorem spec_streamCommand {signal : UInt8} {kind : AvdtpActionKind} {state' : AvdtpSourceState}
    {f : AvdtpSource → AvdtpAction × AvdtpSource}
    (hf : ∀ source, AvdtpSource.Issued signal kind state' (f source)) {fuel : Nat}
    {stage : V1TransportSilenceStage} {cancelOnly : Bool}
    {k : Option AvdtpAction → Prog (PcmSession F H Ω) β} {R : β → PcmView → Prop}
    (hnone : Spec Done (k none) R) (hsome : ∀ next, next.kind = kind →
      Spec (StreamLags e (signal = avdtpSignalStart)) (k (some next)) R) :
    Spec (Going e)
      (avdtpStep f >>= fun action => exchange env options fuel action stage cancelOnly >>= k) R := by
  refine .bind (spec_avdtpStep fun v h => ⟨h, hf v.avdtp⟩) ?_
  intro action
  refine .bind (spec_exchange_stream env options fuel action stage cancelOnly) ?_
  intro next
  cases next with
  | none => exact hnone
  | some next =>
    by_cases hk : next.kind = kind
    · exact (hsome next hk).pre fun v h => ⟨h.2.1, h.1⟩
    · exact .absurd fun v h => hk h.2.2

theorem spec_suspendStream (fuel : Nat)
    (he : ∀ c, e c → e' { c with cleanupRequired := false }) :
    Spec (Going e) (suspendStream env options fuel) (Yields (Going e')) := by
  unfold suspendStream
  refine spec_streamCommand env options AvdtpSource.suspend_issued (.pure fun v h => h)
    fun next hk => .ite (fun hne => absurd hk hne) fun _ => ?_
  refine .bind (Q := fun _ => Going e') (.update fun s h => h.report he) fun _ => ?_
  exact .pure fun v h => h

theorem spec_restartStream (fuel : Nat)
    (he : ∀ c, e c → e' { c with suspendedForPause := false, cleanupRequired := true }) :
    Spec (Going e) (restartStream env options fuel) (Yields (Going e')) := by
  unfold restartStream
  refine spec_streamCommand env options AvdtpSource.start_issued (.pure fun v h => h)
    fun next hk => .ite (fun hne => absurd hk hne) fun _ => ?_
  refine .bind (Q := fun _ => Going e') (.update fun s h => ?_) fun _ => .pure fun v h => h
  exact ⟨h.sound.withCore rfl, he _ h.core⟩

theorem spec_startStream (fuel : Nat) (he : ∀ c, e c → e' { c with cleanupRequired := true }) :
    Spec (Going e) (startStream env options fuel) (Yields (Going e')) := by
  unfold startStream
  refine spec_streamCommand env options AvdtpSource.start_issued (.pure fun v h => h)
    fun next hk => ?_
  refine .bind (Q := fun _ => Going e') (.update fun s h => h.report he) fun _ => ?_
  refine .ite ?_ ?_
  · intro hne
    exact absurd hk hne
  · intro _
    refine .calm_bind (calm_report fun _ => rfl) fun _ => ?_
    exact .pure fun v h => h

theorem spec_closeStream (fuel : Nat) :
    Spec (Going fun c => c.cleanupRequired = false) (closeStream env options fuel)
      fun _ => Done := by
  unfold closeStream
  refine spec_streamCommand env options AvdtpSource.close_issued (.pure fun v h => h)
    fun next hk => .ite (fun hne => absurd hk hne) fun _ => ?_
  refine .bind (Q := fun _ => Done) (.update fun s h => ?_) fun _ => .pure fun v h => h
  have hgood : Good s.view := by
    unfold Good
    rw [h.core]
    exact h.sound
  exact hgood.failed _

/-! ## Pauses -/

/-- The stream is suspended for a pause, with or without the lease. -/
structure Paused (held : Bool) (c : PcmCore) : Prop extends c.Encoding where
  held : c.leaseHeld = held
  suspended : c.suspendedForPause = true
  unstarted : c.cleanupRequired = false

theorem Paused.stopping {held : Bool} {c : PcmCore} (h : Paused held c) : c.Stopping :=
  fun _ => h.unstarted

theorem spec_releaseForPause :
    Spec (Going fun c => Paused true { c with suspendedForPause := true }) (releaseForPause env)
      (Yields (Going (Paused false))) := by
  unfold releaseForPause
  refine .calm_bind (calm_report fun _ => rfl) fun _ => ?_
  refine .bind (Q := fun _ => Going (Paused true)) (.update fun s h => ?_) fun _ => ?_
  · exact ⟨h.good.withCore rfl, h.core⟩
  refine .calm_bind (.update fun _ => rfl) fun _ => ?_
  refine .calm_bind (calm_report fun _ => rfl) fun _ => ?_
  refine .calm_bind (.read _) ?_
  intro error
  refine .bind (Q := fun released v => (released.ok = true → LeaseLags (Paused true) false v) ∧
    (released.ok = false → ∀ primary, Done { v with primary := primary }))
    (spec_askLogged fun released v h => ?_) fun released => ?_
  · refine ⟨fun hok => h.release h.core.held fun _ => hok, fun hok primary => ?_⟩
    rw [hok]
    exact h.releaseFailed h.core.held primary
  refine .calm_bind (.update fun _ => rfl) fun _ => ?_
  refine .ite ?_ ?_
  · intro hok
    refine .calm_bind (calm_report fun _ => rfl) fun _ => ?_
    exact .fails (spec_setFailure _ _ fun v h => h.2 hok _) fun v h => h
  · intro hok
    rw [Bool.not_eq_false] at hok
    refine .bind (Q := fun _ => Going (Paused false)) (.update fun s h => ?_) fun _ => ?_
    · exact (h.1 hok).report fun c hc => { hc with held := rfl }
    refine .calm_bind (calm_report fun _ => rfl) fun _ => ?_
    exact .pure fun v h => h

def PauseIs (resumed : PcmView → Prop) : PauseTransitionResult → PcmView → Prop
  | .resumed => resumed
  | .gracefulStop => Going PcmCore.Stopping
  | .ended => Done

theorem spec_waitForRenderRound (resumedFormat : V1TransportPcmFormat F) :
    Spec (Going (Paused false)) (waitForRenderRound env options resumedFormat) fun r v =>
      r.elim (fun _ => Going (Paused false) v) fun waited =>
        PauseIs (Going (Paused true)) waited.1 v := by
  have hstop {a : V1TransportPcmFormat F ⊕ (PauseTransitionResult × V1TransportPcmFormat F)}
      {R : _ → PcmView → Prop} (hR : ∀ v, Going PcmCore.Stopping v → R a v) :
      Spec (Going (Paused false)) (do stopGracefully; return a : Prog (PcmSession F H Ω) _) R :=
    .calm_bind (.update fun _ => rfl) fun _ => .pure fun v h => hR v (h.mono fun _ hc => hc.stopping)
  unfold waitForRenderRound
  refine .calm_bind (calm_probeStop env) ?_
  intro pausedStop
  refine .ite (fun _ => ?_) fun _ => ?_
  · exact .fails (fails_setFailure _ _) fun v h => h
  refine .ite (fun _ => ?_) fun _ => ?_
  · exact hstop fun v h => h
  refine spec_checkPeer env options (fun v h => h) ?_
  refine .calm_bind (calm_report fun _ => rfl) fun _ => ?_
  refine .calm_bind (.read _) ?_
  intro error
  refine .bind (Q := fun answer => LeaseLags (Paused false) answer.ok)
    (spec_askLogged fun answer v h => h.acquire h.core.held answer.ok) ?_
  intro answer
  refine .calm_bind (.update fun _ => rfl) fun _ => ?_
  refine .ite ?_ ?_
  · intro hok
    rw [hok]
    refine .bind (Q := fun _ => Going (Paused true))
      (.update fun s h => h.report fun c hc => { hc with held := rfl }) fun _ => ?_
    exact .pure fun v h => h
  intro hok
  rw [Bool.not_eq_true] at hok
  rw [hok]
  refine Spec.pre (?_ : Spec (Going (Paused false)) _ _) fun v h => h.going h.core.held
  refine .calm_bind (calm_probeStop env) ?_
  intro prepareStop
  refine .ite (fun _ => ?_) fun _ => ?_
  · exact .fails (fails_setFailure _ _) fun v h => h
  refine .ite (fun _ => ?_) fun _ => ?_
  · exact hstop fun v h => h
  · refine .ite (fun _ => ?_) fun _ => ?_
    · exact .fails (fails_backendFailure _ _) fun v h => h
    · exact .pure fun v h => h

theorem spec_resumeStream (fuel : Nat) (resumedFormat : V1TransportPcmFormat F) :
    Spec (Going (Paused true)) (resumeStream env options fuel resumedFormat)
      (Yields (Going PcmCore.Streaming)) := by
  unfold resumeStream
  refine .calm_bind (.read _) ?_
  intro locked
  refine .ite (fun _ => ?_) fun _ => ?_
  · exact .fails (fails_protocolFailure _ _) fun v h => h
  refine .calm_bind (.update fun _ => rfl) fun _ => ?_
  have hstart : Spec (Going (Paused true)) (restartStream env options fuel)
      (Yields (Going PcmCore.Streaming)) :=
    spec_restartStream env options fuel fun c hc => { hc with unsuspended := rfl }
  refine .andAlso (spec_cancelPeerSignalingRead env options _) ?_
  refine .andAlso hstart ?_
  refine .andAlso (spec_beginPeerSignalingRead env options _) ?_
  refine .andAlso (spec_restartEncoding env options fuel) ?_
  refine .calm_bind (calm_report fun _ => rfl) fun _ => ?_
  exact .pure fun v h => h

theorem spec_suspendAndWaitForRender (fuel : Nat) :
    Spec (Going PcmCore.Streaming) (suspendAndWaitForRender env options fuel)
      (PauseIs (Going PcmCore.Streaming)) := by
  unfold suspendAndWaitForRender
  have hsuspend : Spec (Going PcmCore.Streaming) (suspendStream env options fuel)
      (Yields (Going fun c => Paused true { c with suspendedForPause := true })) :=
    spec_suspendStream env options fuel fun c hc =>
      { hc with suspended := rfl, unstarted := rfl }
  refine .bind (.andAlso (spec_cancelPeerSignalingRead env options _) <| .andAlso hsuspend <|
    .andAlso (spec_releaseForPause env) (spec_beginPeerSignalingRead env options _)) ?_
  intro paused
  cases paused with
  | false => exact .pure fun v h => h
  | true =>
    refine .bind (Spec.iterate (I := fun _ => Going (Paused false))
      (spec_waitForRenderRound env options) (fun _ _ h => h.good.stuck) fuel (.empty F)) ?_
    intro waited
    obtain ⟨result, format⟩ := waited
    cases result with
    | gracefulStop => exact .pure fun v h => h
    | ended => exact .pure fun v h => h
    | resumed =>
      refine .bind (spec_resumeStream env options fuel format) ?_
      intro resumed
      cases resumed with
      | true => exact .pure fun v h => h
      | false => exact .pure fun v h => h

/-! ## Rebinds -/

/-- The stream is started, and the lease is given back for a rebind. -/
structure Unbound (c : PcmCore) : Prop extends c.Encoding where
  unheld : c.leaseHeld = false
  unsuspended : c.suspendedForPause = false

theorem Unbound.stopping {c : PcmCore} (h : Unbound c) : c.Stopping := by
  intro hs
  rw [h.unsuspended] at hs
  cases hs

/-- How the main loop goes on after an interrupted read. -/
abbrev StreamFlow : Flow → PcmView → Prop :=
  FlowIs (Going PcmCore.Streaming) (Going PcmCore.Stopping)

theorem spec_leave (he : ∀ c, e c → c.Stopping) :
    Spec (Going e) (do stopGracefully; return .leave : Prog (PcmSession F H Ω) Flow) StreamFlow :=
  .calm_bind (.update fun _ => rfl) fun _ => .pure fun _ h => h.mono he

theorem spec_rebindPcm (fuel : Nat) :
    Spec (Going PcmCore.Streaming) (rebindPcm env options fuel) StreamFlow := by
  unfold rebindPcm
  refine .calm_bind (.update fun _ => rfl) fun _ => ?_
  refine .calm_bind (.update fun _ => rfl) fun _ => ?_
  refine .calm_bind (calm_report fun _ => rfl) fun _ => ?_
  refine .calm_bind (.read _) ?_
  intro error
  refine .bind (Q := fun _ => LeaseLags PcmCore.Streaming false)
    (spec_askLogged fun released v h => h.release h.core.held (by simp)) ?_
  intro released
  refine .calm_bind (.update fun _ => rfl) fun _ => ?_
  refine .bind (Q := fun _ => Going Unbound) (.update fun s h => h.report fun c hc =>
    { hc with unheld := rfl }) fun _ => ?_
  refine .ite (fun _ => ?_) fun _ => ?_
  · refine .calm_bind (calm_report fun _ => rfl) fun _ => ?_
    exact .fails (fails_setFailure _ _) fun v h => h
  refine .calm_bind (calm_report fun _ => rfl) fun _ => ?_
  refine .calm_bind (.read _) ?_
  intro restarts
  refine .ite (fun _ => ?_) fun _ => ?_
  · refine .calm_bind (calm_report fun _ => rfl) fun _ => ?_
    exact spec_leave fun _ hc => hc.stopping
  refine .calm_bind (calm_report fun _ => rfl) fun _ => ?_
  refine .bind (Q := fun answer => LeaseLags Unbound answer.ok)
    (spec_askLogged fun answer v h => h.acquire h.core.unheld answer.ok) ?_
  intro answer
  refine .calm_bind (.update fun _ => rfl) fun _ => ?_
  refine .ite ?_ ?_
  · intro hok
    rw [hok]
    refine Spec.pre (?_ : Spec (Going Unbound) _ _) fun v h => h.going h.core.unheld
    refine .calm_bind (calm_report fun _ => rfl) fun _ => ?_
    refine .calm_bind (calm_probeStop env) ?_
    intro readStop
    refine .ite (fun _ => ?_) fun _ => ?_
    · exact spec_leave fun _ hc => hc.stopping
    · refine .calm_bind (calm_report fun _ => rfl) fun _ => ?_
      exact .fails (fails_setFailure _ _) fun v h => h
  intro hok
  rw [Bool.not_eq_false] at hok
  rw [hok]
  refine .calm_bind (calm_report fun _ => rfl) fun _ => ?_
  refine .bind (Q := fun _ => Going PcmCore.Streaming)
    (.update fun s h => h.report fun c hc => { hc with held := rfl }) fun _ => ?_
  refine .calm_bind (calm_probeStop env) ?_
  intro readStop
  refine .ite (fun _ => ?_) fun _ => ?_
  · exact .fails (fails_setFailure _ _) fun v h => h
  refine .ite (fun _ => ?_) fun _ => ?_
  · exact spec_leave fun _ hc => hc.stopping
  refine .calm_bind (.read _) ?_
  intro locked
  refine .ite (fun _ => ?_) fun _ => ?_
  · refine .calm_bind (calm_report fun _ => rfl) fun _ => ?_
    exact spec_leave fun _ hc => hc.stopping
  refine .calm_bind (.read _) ?_
  intro observed
  refine .calm_bind (.onlyIf (calm_report fun _ => rfl)) fun _ => ?_
  refine .ite (fun _ => ?_) fun _ => ?_
  · refine .calm_bind (calm_report fun _ => rfl) fun _ => ?_
    exact spec_leave fun _ hc => hc.stopping
  refine .calm_bind (.update fun _ => rfl) fun _ => ?_
  refine .bind (spec_restartEncoding env options fuel) ?_
  intro ok
  cases ok with
  | true => exact .pure fun v h => h
  | false => exact .pure fun v h => h

/-! ## Reads -/

theorem spec_waitForExplicitStop (fuel : Nat) (timeoutMs : UInt32) :
    Spec (Going e) (waitForExplicitStop env fuel timeoutMs) fun _ => Going e := by
  unfold waitForExplicitStop
  refine .calm_bind (calm_probeStop env) ?_
  intro stop
  refine .ite (fun _ => ?_) fun _ => ?_
  · exact .pure fun v h => h
  refine .calm_bind (calm_ask _) ?_
  intro start
  refine .loop ?_ (fun v h => h.good.stuck) fuel
  refine .calm_bind (calm_ask _) fun _ => ?_
  refine .calm_bind (calm_probeStop env) ?_
  intro stop
  refine .ite (fun _ => ?_) fun _ => ?_
  · exact .pure fun v h => h
  refine .calm_bind (calm_ask _) ?_
  intro now
  refine .ite (fun _ => ?_) fun _ => ?_
  · exact .pure fun v h => h
  · exact .pure fun v h => h

theorem spec_classifyStop (fuel : Nat) (readStop : V1TransportPcmStopDisposition)
    (disposition : V1TransportPcmReadDisposition) :
    Spec (Going PcmCore.Streaming) (classifyStop env options fuel readStop disposition)
      StreamFlow := by
  unfold classifyStop
  refine .bind (Q := fun _ => Going PcmCore.Streaming) (.ite (fun _ => ?_) fun _ => ?_)
    fun readStop => ?_
  · exact spec_waitForExplicitStop env fuel _
  · exact .pure fun v h => h
  refine .ite (fun _ => ?_) fun _ => ?_
  · exact spec_leave fun _ hc => hc.stopping
  refine .calm_bind (.read _) ?_
  intro error
  refine .calm_bind (calm_report fun _ => rfl) fun _ => ?_
  exact .fails (fails_setFailure _ _) fun v h => h

theorem spec_handleInterruptedRead (fuel : Nat) (forcedRebind : Bool)
    (disposition : V1TransportPcmReadDisposition) :
    Spec (Going PcmCore.Streaming)
      (handleInterruptedRead env options fuel forcedRebind disposition) StreamFlow := by
  unfold handleInterruptedRead
  refine .calm_bind (calm_probeStop env) ?_
  intro readStop
  refine .ite (fun _ => ?_) fun _ => ?_
  · refine .calm_bind (.update fun _ => rfl) fun _ => ?_
    refine .bind (spec_suspendAndWaitForRender env options fuel) ?_
    intro result
    cases result with
    | ended => exact .pure fun v h => h
    | gracefulStop => exact .pure fun v h => h
    | resumed =>
      refine .calm_bind (.update fun _ => rfl) fun _ => ?_
      exact .pure fun v h => h
  refine .calm_bind (.onlyIf (calm_ask _)) fun _ => ?_
  refine .ite (fun _ => ?_) fun _ => ?_
  · exact spec_rebindPcm env options fuel
  · exact spec_classifyStop env options fuel _ _

theorem spec_recoverFromTimeouts (fuel : Nat) :
    Spec (Going PcmCore.Streaming) (recoverFromTimeouts env options fuel)
      (Yields (Going PcmCore.Streaming)) := by
  unfold recoverFromTimeouts
  refine .calm_bind (.read _) ?_
  intro streak
  refine .ite (fun _ => ?_) fun _ => ?_
  · exact .pure fun v h => h
  refine .calm_bind (.update fun _ => rfl) fun _ => ?_
  refine .calm_bind (.update fun _ => rfl) fun _ => ?_
  refine .calm_bind (calm_askError _) ?_
  intro ok
  refine .ite (fun _ => ?_) fun _ => ?_
  · refine .calm_bind (.read _) ?_
    intro error
    exact .fails (fails_backendFailure _ _) fun v h => h
  · exact spec_restartEncoding env options fuel

theorem calm_readPcm (forcedRebind : Bool) : Calm (readPcm env options forcedRebind) := by
  unfold readPcm
  refine .bind (.read _) ?_
  intro pcm
  refine .bind (.read _) ?_
  intro error
  refine .ite (.pure _) ?_
  refine .bind (calm_ask _) ?_
  intro answer
  refine .bind (.update fun _ => rfl) fun _ => ?_
  exact .pure _

theorem spec_readBlock (fuel : Nat) :
    Spec (Going PcmCore.Streaming) (readBlock env options fuel) StreamFlow := by
  unfold readBlock
  refine .calm_bind (.read _) ?_
  intro forcedRebind
  refine .calm_bind (calm_readPcm env options _) ?_
  intro answer
  refine .calm_bind (.update fun _ => rfl) fun _ => ?_
  refine .calm_bind (.onlyIf (.update fun _ => rfl)) fun _ => ?_
  refine .calm_bind (.read _) ?_
  intro streak
  refine .ite (fun _ => ?_) fun _ => ?_
  · exact .pure fun v h => h
  refine .ite (fun _ => ?_) fun _ => ?_
  · exact spec_handleInterruptedRead env options fuel _ _
  refine .bind (spec_recoverFromTimeouts env options fuel) ?_
  intro recovered
  cases recovered with
  | false => exact .pure fun v h => h
  | true =>
    refine .calm_bind (calm_report fun _ => rfl) fun _ => ?_
    exact .pure fun v h => h

end

end NativeLdac.Agent
