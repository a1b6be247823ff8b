/-
  What one lifecycle event can do: `reduce_effect` inverts the reducer, so
  that the invariants of the runs are proved from its nine cases and never
  from the reducer itself.
-/
import Mathlib.Tactic.SplitIfs
import Mathlib.Tactic.ByContra
import NativeLdac.Agent.Lifecycle

namespace NativeLdac.Agent

open V1LifecycleAction
open V1MediaSession (live)

/-- A transport is open or being opened. -/
def V1LifecycleState.Transporting (s : V1LifecycleState) : Prop :=
  s.mediaSession = .opening ∨ s.mediaSession = .streaming

/-- The settled lifecycle states: a lease needs the headset, a transport an
    engine with an attempt spent on it, and no stop is under way. -/
structure V1LifecycleState.Wf (s : V1LifecycleState) : Prop where
  presence : s.engineLease ≠ .absent → s.physicalPresence = .present
  ready : s.engineLease = .ready → s.openAttemptsForGeneration ≠ 0
  transporting : s.Transporting → s.engineLease = .ready
  stopping : s.mediaSession ≠ .stopping

/-- The word neither publishes the endpoint nor starts or opens anything. -/
structure Quiet (w : UInt32) : Prop where
  noPresent : hasV1LifecycleAction w .publishEndpointPresent = false := by simp
  noAbsent : hasV1LifecycleAction w .publishEndpointAbsent = false := by simp
  noStart : hasV1LifecycleAction w .startEngine = false := by simp
  noOpen : hasV1LifecycleAction w .openTransport = false := by simp

def V1LifecycleEvent.SparesEngine (e : V1LifecycleEvent) : Prop :=
  e ≠ .engineExited ∧ e ≠ .mediaStopped

/-- What one event does to the endpoint, the engine and the transport. -/
inductive Effect (s : V1LifecycleState) (e : V1LifecycleEvent) :
    UInt32 → V1LifecycleState → Prop where
  /-- the headset arrives -/
  | connect {s'} : s.physicalPresence = .absent → s'.physicalPresence = .present →
      s'.engineLease = .absent → s'.mediaSession = .stopped →
      Effect s e publishEndpointPresent.bit s'
  /-- the headset leaves -/
  | disconnect : e = .aclDisconnected ∨ e = .watcherLeaseExpired →
      Effect s e (disconnectActions s) (resetDisconnectedState s)
  /-- an engine is started -/
  | start {s'} : s.engineLease = .absent → s.physicalPresence = .present →
      s'.physicalPresence = .present → s'.aclGeneration = s.aclGeneration →
      s'.engineLease = .starting → s'.mediaSession = s.mediaSession →
      Effect s e startEngine.bit s'
  /-- the started engine opens a transport -/
  | opened {s'} : e.SparesEngine → s.engineLease = .starting → s'.physicalPresence = s.physicalPresence →
      s'.aclGeneration = s.aclGeneration → s'.engineLease = .ready →
      s'.mediaSession = .opening → s'.openAttemptsForGeneration ≠ 0 →
      Effect s e openTransport.bit s'
  /-- a graceful stop, to be confirmed by `mediaStopped` -/
  | stopGraceful {w s'} : Quiet w → hasV1LifecycleAction w .stopEngine →
      hasV1LifecycleAction w .gracefulStopTransport →
      hasV1LifecycleAction w .cancelTransport = false →
      s'.physicalPresence = s.physicalPresence → Effect s e w s'
  /-- an engine without a transport is stopped -/
  | stopLocal {w s'} : Quiet w → hasV1LifecycleAction w .stopEngine →
      hasV1LifecycleAction w .gracefulStopTransport = false →
      hasV1LifecycleAction w .cancelTransport = false →
      ¬ s.Transporting → ¬ s'.mediaSession.live →
      s'.physicalPresence = s.physicalPresence → Effect s e w s'
  /-- engine and transport are revoked at once -/
  | revoke {w s'} : Quiet w → hasV1LifecycleAction w .stopEngine →
      hasV1LifecycleAction w .gracefulStopTransport = false →
      hasV1LifecycleAction w .cancelTransport →
      s'.engineLease = .absent → ¬ s'.mediaSession.live →
      s'.physicalPresence = s.physicalPresence → Effect s e w s'
  /-- the engine is gone already -/
  | exited {w s'} : e = .engineExited ∨ e = .mediaStopped → Quiet w →
      hasV1LifecycleAction w .stopEngine = false →
      hasV1LifecycleAction w .gracefulStopTransport = false →
      (s.Transporting → hasV1LifecycleAction w .cancelTransport ∨ e = .mediaStopped) →
      s'.engineLease = .absent → ¬ s'.mediaSession.live →
      s'.physicalPresence = s.physicalPresence → Effect s e w s'
  /-- the engine lease goes on -/
  | keep {w s'} : e.SparesEngine → Quiet w → hasV1LifecycleAction w .stopEngine = false →
      hasV1LifecycleAction w .gracefulStopTransport = false →
      s'.physicalPresence = s.physicalPresence → s'.aclGeneration = s.aclGeneration →
      s'.engineLease = s.engineLease →
      (s'.engineLease = .ready → s'.openAttemptsForGeneration = s.openAttemptsForGeneration) →
      (s'.Transporting → s.Transporting) → s'.mediaSession ≠ .stopping →
      (s.Transporting → s'.Transporting ∨ e = .transportOpenSuppressed ∨ e = .mediaFailed) →
      Effect s e w s'

variable {s s' : V1LifecycleState}

theorem keep_same {e : V1LifecycleEvent} (he : e.SparesEngine) (h : s.Wf)
    (hp : s'.physicalPresence = s.physicalPresence) (hg : s'.aclGeneration = s.aclGeneration)
    (hl : s'.engineLease = s.engineLease) (hm : s'.mediaSession = s.mediaSession)
    (ha : s'.engineLease = .ready → s'.openAttemptsForGeneration = s.openAttemptsForGeneration) :
    Effect s e v1ActionNone s' := by
  have ht : s'.Transporting ↔ s.Transporting := by simp only [V1LifecycleState.Transporting, hm]
  exact .keep he {} (by simp) (by simp) hp hg hl ha ht.1 (hm ▸ h.stopping) fun h => .inl (ht.2 h)

theorem stop_transport {e : V1LifecycleEvent} (h : s.Wf) (ht : s.Transporting)
    (hp : s'.physicalPresence = s.physicalPresence) :
    Effect s e (stopTransportAction s ||| stopEngineAction s) s' := by
  have hl : s.engineLease = .ready := h.transporting ht
  have h₁ : stopTransportAction s = gracefulStopTransport.bit :=
    if_pos (h.presence (by simp [hl]))
  have h₂ : stopEngineAction s = stopEngine.bit := if_pos (by simp [hl])
  rw [h₁, h₂]
  exact .stopGraceful {} (by simp) (by simp) (by simp) hp

variable {s : V1LifecycleState}

theorem not_live (h : s.Wf) (ht : ¬ s.Transporting) :
    ¬ s.mediaSession.live := by
  intro hl
  cases hm : s.mediaSession <;> simp [hm, live] at hl
  · exact ht (.inl hm)
  · exact ht (.inr hm)
  · exact h.stopping hm

theorem not_transporting_of_not_live (h : ¬ s.mediaSession.live) :
    ¬ s.Transporting := by
  rintro (ht | ht) <;> simp [ht, live] at h

theorem wf_of_absent (hl : s.engineLease = .absent) (hm : ¬ s.mediaSession.live) : s.Wf where
  presence h := absurd hl h
  ready h := by simp [hl] at h
  transporting h := absurd h (not_transporting_of_not_live hm)
  stopping h := by simp [h, live] at hm

theorem reduce_engineExited (h : ¬ s.mediaSession.live) :
    reduceV1Lifecycle s .engineExited = (v1ActionNone, { s with engineLease := .absent }) :=
  if_neg h

theorem stop_engine {e : V1LifecycleEvent} (he : e.SparesEngine) (ht : ¬ s.Transporting)
    (hm : ¬ s'.mediaSession.live) (hp : s'.physicalPresence = s.physicalPresence)
    (hg : s'.aclGeneration = s.aclGeneration) (hl : s'.engineLease = s.engineLease)
    (ha : s'.openAttemptsForGeneration = s.openAttemptsForGeneration) :
    Effect s e (stopEngineAction s) s' := by
  have ht' : ¬ s'.Transporting := by rintro (h | h) <;> simp [h, live] at hm
  unfold stopEngineAction
  split_ifs
  · exact .stopLocal {} (by simp) (by simp) (by simp) ht hm hp
  · exact .keep he {} (by simp) (by simp) hp hg hl (fun _ => ha) (fun h => absurd h ht')
      (by rintro h; simp [h, live] at hm) fun h => absurd h ht

theorem succ_ne_zero_of_lt {a b : UInt32} (h : a < b) : a + 1 ≠ 0 := by
  intro ha
  have hb := b.toNat_lt
  have := congrArg UInt32.toNat ha
  simp only [UInt32.lt_iff_toNat_lt, UInt32.toNat_add, UInt32.toNat_one, UInt32.toNat_zero] at h this
  omega

theorem reduce_effect (h : s.Wf) (e : V1LifecycleEvent) :
    Effect s e (reduceV1Lifecycle s e).1 (reduceV1Lifecycle s e).2 := by
  cases e <;> simp only [reduceV1Lifecycle]
  case aclConnected =>
    cases hp : s.physicalPresence with
    | absent => exact .connect hp rfl rfl rfl
    | present => exact keep_same ⟨nofun, nofun⟩ h rfl rfl rfl rfl fun _ => rfl
  case aclDisconnected => exact .disconnect (.inl rfl)
  case watcherLeaseExpired => exact .disconnect (.inr rfl)
  case renderStarted =>
    split_ifs with hf h1 h2 h3
    · exact keep_same ⟨nofun, nofun⟩ h rfl rfl rfl rfl fun _ => rfl
    · exact .start h2.2.1 h2.1 h2.1 rfl rfl rfl
    · exact absurd ⟨h1.2.2.1, h1.2.2.2.1, rfl⟩ h2
    · exact .start h3.2.1 h3.1 h3.1 rfl rfl rfl
    · exact keep_same ⟨nofun, nofun⟩ h rfl rfl rfl rfl fun _ => rfl
  case renderStopped =>
    split_ifs with h1 h2 h3
    · exact keep_same ⟨nofun, nofun⟩ h rfl rfl rfl rfl fun _ => rfl
    · exact stop_transport h h2 rfl
    · exact stop_engine ⟨nofun, nofun⟩ h2 (by simp [live]) rfl rfl rfl rfl
    · exact stop_engine ⟨nofun, nofun⟩ (s := s) h2 (not_live (s := s) h h2) rfl rfl rfl rfl
  case hfpSuspendLdac =>
    split_ifs with h1
    · exact stop_transport h (by_contra fun ht => not_live h ht h1) rfl
    · refine stop_engine ⟨nofun, nofun⟩ (fun ht => h1 ?_) h1 rfl rfl rfl rfl
      rcases ht with ht | ht <;> simp [ht, live]
  case hfpResumeLdac =>
    split_ifs with h1 h2
    · exact .start h2.2.2.1 h2.1 h2.1 rfl rfl rfl
    · exact keep_same ⟨nofun, nofun⟩ h rfl rfl rfl rfl fun _ => rfl
    · exact keep_same ⟨nofun, nofun⟩ h rfl rfl rfl rfl fun _ => rfl
  case engineReady =>
    split_ifs with h1 h2
    · exact keep_same ⟨nofun, nofun⟩ h rfl rfl rfl rfl fun _ => rfl
    · have ht : ¬ s.Transporting := fun ht => h1 ⟨h.transporting ht, h.ready (h.transporting ht)⟩
      exact .stopLocal {} (by simp) (by simp) (by simp) ht (not_live (s := s) h ht) rfl
    · simp only [not_or, not_not, ne_eq, ge_iff_le, UInt32.not_le] at h2
      exact .opened ⟨nofun, nofun⟩ h2.2.2.2.1 rfl rfl rfl rfl (succ_ne_zero_of_lt h2.2.2.2.2)
  case engineExited =>
    split_ifs with h1
    · exact .exited (.inl rfl) {} (by simp) (by simp) (fun _ => .inl (by simp)) rfl
        (by simp [live]) rfl
    · refine .exited (.inl rfl) {} (by simp) (by simp) (fun ht => absurd ?_ h1) rfl h1 rfl
      rcases ht with ht | ht <;> simp [ht, live]
  case transportOpenSuppressed =>
    split_ifs with h1
    · exact .keep ⟨nofun, nofun⟩ {} (by simp) (by simp) rfl rfl rfl (fun _ => rfl) (fun _ => .inl h1) (by simp)
        fun _ => .inr (.inl rfl)
    · exact keep_same ⟨nofun, nofun⟩ h rfl rfl rfl rfl fun _ => rfl
  case mediaStarted =>
    split_ifs with h1
    · exact .keep ⟨nofun, nofun⟩ {} (by simp) (by simp) rfl rfl rfl (fun _ => rfl) (fun _ => .inl h1.2.2.2.2)
        (by simp) fun _ => .inl (.inr rfl)
    · exact keep_same ⟨nofun, nofun⟩ h rfl rfl rfl rfl fun _ => rfl
  case mediaStopped =>
    split_ifs <;> exact .exited (.inr rfl) {} (by simp) (by simp) (fun _ => .inr rfl) rfl
      (by simp [live]) rfl
  case transportRetryableFailure =>
    split_ifs <;> exact .revoke {} (by simp) (by simp) (by simp) rfl
      (by simp [live]) rfl
  case transportRetryDue =>
    split_ifs with h1
    · exact .start h1.2.2.1 h1.1 h1.1 rfl rfl rfl
    · exact keep_same ⟨nofun, nofun⟩ h rfl rfl rfl rfl fun _ => rfl
  case mediaFailed =>
    unfold stopEngineAction
    split_ifs with h1 h2 h2
    · exact .revoke {} (by simp) (by simp) (by simp) rfl (by simp [live]) rfl
    · exact .keep ⟨nofun, nofun⟩ {} (by simp) (by simp) rfl rfl (not_not.1 h2).symm (by simp)
        (by simp [V1LifecycleState.Transporting]) (by simp) fun _ => .inr (.inr rfl)
    · have ht : ¬ s.Transporting := by simp [V1LifecycleState.Transporting, not_not.1 h1]
      exact .stopLocal {} (by simp) (by simp) (by simp) ht (by simp [live]) rfl
    · exact .keep ⟨nofun, nofun⟩ {} (by simp) (by simp) rfl rfl (not_not.1 h2).symm (by simp)
        (by simp [V1LifecycleState.Transporting]) (by simp) fun _ => .inr (.inr rfl)

end NativeLdac.Agent
