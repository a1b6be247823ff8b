/-
  The lease of the observer's host: it is held by the mapper only while a media
  session lasts, each session has its own, and the sink is called only in a
  session.

  * `AvrcpObserverEnvironment.traced` records what the driver is asked, the last
    moment first;
  * `LeaseHeld` is the invariant of the mapper and the host, `ActivatedOnce` that
    of the trace;
  * `Confined`: a program calls the sink only in a media session.
-/
import NativeLdac.Agent.AvrcpObserverHost
import NativeLdac.Agent.AvrcpFrames

namespace NativeLdac.Agent

open AvrcpStage V1AvrcpControlMapperState Prog

variable {Ω α β : Type}

/-! ## What the driver is asked -/

inductive ObserverDriverMoment where
  | opened (answer : Except UInt32 Unit)
  | version (answer : Except UInt32 NldAvrcpObserverAbiVersion)
  | status (answer : Except UInt32 NldAvrcpObserverStatus)
  | begun (answer : Except UInt32 Unit)
  | closed

/-- The call, with its answer on record. -/
def recorded {μ : Type} (moment : α → μ) (call : Ω → α × Ω) : Ω × List μ → α × Ω × List μ :=
  fun w => ((call w.1).1, (call w.1).2, moment (call w.1).1 :: w.2)

/-- The call, off the record. -/
def unrecorded {μ : Type} (call : Ω → α × Ω) : Ω × List μ → α × Ω × List μ :=
  fun w => ((call w.1).1, (call w.1).2, w.2)

/-- The environment that records what the driver is asked. -/
def AvrcpObserverEnvironment.traced (env : AvrcpObserverEnvironment Ω) :
    AvrcpObserverEnvironment (Ω × List ObserverDriverMoment) where
  ensureVolume := unrecorded env.ensureVolume
  setWindowsVolume volume := unrecorded (env.setWindowsVolume volume)
  queryWindowsVolume := unrecorded env.queryWindowsVolume
  windowsVolumeNotificationsActive := unrecorded env.windowsVolumeNotificationsActive
  consumeWindowsVolumeChange := unrecorded env.consumeWindowsVolumeChange
  injectVirtualKey vk := unrecorded (env.injectVirtualKey vk)
  writeAvrcp pdu response parameters := unrecorded (env.writeAvrcp pdu response parameters)
  getTickCount := unrecorded env.getTickCount
  openReadOnly := recorded .opened env.openReadOnly
  openReadWrite := recorded .opened env.openReadWrite
  closeDriver := recorded (fun _ => .closed) env.closeDriver
  getVersion := recorded .version env.getVersion
  getStatus := recorded .status env.getStatus
  beginObservation := recorded .begun env.beginObservation
  dequeueEvent := unrecorded env.dequeueEvent

/-- The driver's generation that was last seen since the transport was released. -/
def lastGeneration : List ObserverDriverMoment → UInt64
  | [] => 0
  | .closed :: _ => 0
  | .status (.ok status) :: trace =>
    if status.size = sizeofStatus then status.aclGeneration else lastGeneration trace
  | _ :: trace => lastGeneration trace

/-- The status shows that the driver's generation changed. -/
def Regenerates (status : NldAvrcpObserverStatus) (trace : List ObserverDriverMoment) : Prop :=
  status.size = sizeofStatus ∧ lastGeneration trace ≠ 0 ∧
    lastGeneration trace ≠ status.aclGeneration

instance (status : NldAvrcpObserverStatus) (trace : List ObserverDriverMoment) :
    Decidable (Regenerates status trace) :=
  inferInstanceAs (Decidable (_ ∧ _))

/-- The observation was begun since the driver's generation changed or the
    transport was released. -/
def BegunSince : List ObserverDriverMoment → Prop
  | [] => False
  | .closed :: _ => False
  | .begun _ :: _ => True
  | .status (.ok status) :: trace => ¬ Regenerates status trace ∧ BegunSince trace
  | _ :: trace => BegunSince trace

/-- The observation is begun at most once between such moments. -/
def BegunOnce : List ObserverDriverMoment → Prop
  | [] => True
  | .begun _ :: trace => ¬ BegunSince trace ∧ BegunOnce trace
  | _ :: trace => BegunOnce trace

/-! ## The lease of the mapper -/

theorem ownerLease_step (m : V1AvrcpControlMapperState) (op : V1AvrcpMapperOp) :
    (avrcpMapper.next m op).ownerLease = m.ownerLease ∨
      (avrcpMapper.next m op).ownerLease = 0 ∨
      ∃ g lease, op = .acquireOwnerLease g lease ∧
        (avrcpMapper.next m op).ownerLease = lease := by
  cases (own_next m op).2 with
  | same _ _ hl => exact .inl hl
  | sees g volume event _ _ hl => exact .inl hl
  | begins g hl => exact .inr (.inl hl)
  | ends g hl => exact .inr (.inl hl)
  | revokes g lease _ _ hl => exact .inr (.inl hl)
  | acquires g lease _ _ hl => exact .inr (.inr ⟨g, lease, rfl, hl⟩)

theorem dormant_step {m : V1AvrcpControlMapperState}
    (h : ¬ m.aclGenerationCurrent → m.ownerLease = 0) (op : V1AvrcpMapperOp)
    (hc : ¬ (avrcpMapper.next m op).aclGenerationCurrent) :
    (avrcpMapper.next m op).ownerLease = 0 := by
  cases (own_next m op).2 with
  | same _ hcurrent hl => exact hl.trans (h (hcurrent ▸ hc))
  | sees g volume event _ hcurrent hl => exact hl.trans (h (hcurrent ▸ hc))
  | acquires g lease _ hcurrent _ _ hg =>
    -- the mapper refuses leases then
    rw [hcurrent] at hc
    exact absurd (isCurrentGeneration_iff.mp hg).2.1 hc
  | begins g hl => exact hl
  | ends g hl => exact hl
  | revokes g lease _ _ hl => exact hl

def V1AvrcpObserverHost.sessions (host : V1AvrcpObserverHost) :=
  (host.mediaSessionActive, host.ownerLease, host.mediaSessionsStarted, host.mediaSessionsEnded)

def V1AvrcpObserverHost.activation (host : V1AvrcpObserverHost) :=
  (host.observerGeneration, host.observationRequested, host.activationTerminalFailure)

/-- **The lease**: the mapper holds it only for the media session of the host. -/
structure LeaseHeld (m : V1AvrcpControlMapperState) (host : V1AvrcpObserverHost) : Prop where
  synced : m.Synced
  dormant : ¬ m.aclGenerationCurrent → m.ownerLease = 0
  held : m.ownerLease ≠ 0 → host.mediaSessionActive ∧ m.ownerLease = host.ownerLease
  nonzero : host.mediaSessionActive → host.ownerLease ≠ 0
  sessions : host.mediaSessionsStarted - host.mediaSessionsEnded =
    if host.mediaSessionActive then 1 else 0

section
variable {m : V1AvrcpControlMapperState} {host : V1AvrcpObserverHost}

/-- Only the lease of the session is acquired. -/
def AcquiresOwn (host : V1AvrcpObserverHost) : V1AvrcpMapperOp → Prop
  | .acquireOwnerLease _ lease => host.mediaSessionActive ∧ lease = host.ownerLease
  | _ => True

theorem LeaseHeld.step (h : LeaseHeld m host) (op : V1AvrcpMapperOp)
    (hr : ¬ RepeatsGeneration m op) (hown : AcquiresOwn host op) :
    LeaseHeld (avrcpMapper.next m op) host := by
  refine ⟨synced_step h.synced hr, dormant_step h.dormant op, ?_, h.nonzero, h.sessions⟩
  intro hne
  rcases ownerLease_step m op with hl | hl | ⟨g, lease, rfl, hl⟩
  · rw [hl] at hne ⊢
    exact h.held hne
  · exact absurd hl hne
  · obtain ⟨hactive, hlease⟩ := hown
    exact ⟨hactive, hl.trans hlease⟩

theorem LeaseHeld.untouched {m' : V1AvrcpControlMapperState} (h : LeaseHeld m host)
    (hu : Untouched m m') : LeaseHeld m' host := by
  have hlease := congrArg Authorization.ownerLease hu.media
  have hcurrent := congrArg Authorization.current hu.media
  refine ⟨hu.synced h.synced, ?_, ?_, h.nonzero, h.sessions⟩
  · intro hc
    exact hlease.trans (h.dormant fun hc' => hc (hcurrent.trans hc'))
  · intro hne
    rw [show m'.ownerLease = m.ownerLease from hlease] at hne ⊢
    exact h.held hne

theorem LeaseHeld.congr_host {host' : V1AvrcpObserverHost} (h : LeaseHeld m host)
    (hh : host'.sessions = host.sessions) : LeaseHeld m host' := by
  simp only [V1AvrcpObserverHost.sessions, Prod.mk.injEq] at hh
  obtain ⟨hactive, hlease, hstarted, hended⟩ := hh
  refine ⟨h.synced, h.dormant, ?_, ?_, ?_⟩
  · rw [hactive, hlease]
    exact h.held
  · rw [hactive, hlease]
    exact h.nonzero
  · rw [hactive, hstarted, hended]
    exact h.sessions

theorem revoke_ownerLease (hs : m.Synced) (hc : m.aclGenerationCurrent) (hne : m.ownerLease ≠ 0) :
    (avrcpMapper.next m (.revokeOwnerLease m.aclGeneration m.ownerLease)).ownerLease = 0 := by
  have hcur : m.isCurrentGeneration m.aclGeneration :=
    isCurrentGeneration_iff.mpr ⟨hs.nonzero hc, hc, rfl⟩
  simp only [Reducer.next, avrcpMapper, v1AvrcpRevokeOwnerLease]
  rw [if_neg]
  simp [hcur, hne]

theorem LeaseHeld.ended (h : LeaseHeld m host) (hactive : host.mediaSessionActive)
    (hlease : m.ownerLease = 0) :
    LeaseHeld m { host with
      mediaSessionActive := false
      mediaSessionsEnded := host.mediaSessionsEnded + 1 } := by
  refine ⟨h.synced, h.dormant, fun hne => absurd hlease hne, fun ha => absurd ha Bool.false_ne_true, ?_⟩
  have hsessions := h.sessions
  rw [if_pos hactive] at hsessions
  rw [if_neg (by simp)]
  grind

theorem LeaseHeld.started (h : LeaseHeld m host) (hactive : ¬ host.mediaSessionActive)
    {lease : UInt64} (hne : lease ≠ 0) :
    LeaseHeld m { host with
      mediaSessionActive := true
      ownerLease := lease
      mediaSessionsStarted := host.mediaSessionsStarted + 1 } := by
  refine ⟨h.synced, h.dormant, fun hm => absurd (h.held hm).1 hactive, fun _ => hne, ?_⟩
  have hsessions := h.sessions
  rw [if_neg hactive] at hsessions
  rw [if_pos rfl]
  grind

end

/-- **The activation**: the host knows whether it was requested. -/
structure ActivatedOnce (trace : List ObserverDriverMoment) (host : V1AvrcpObserverHost) :
    Prop where
  seen : lastGeneration trace = host.observerGeneration
  requested : BegunSince trace → host.observationRequested ∨ host.activationTerminalFailure
  rejected : host.activationTerminalFailure →
    ∃ e, ObserverDriverMoment.begun (.error e) ∈ trace
  once : BegunOnce trace

section
variable {trace : List ObserverDriverMoment} {host : V1AvrcpObserverHost}

theorem ActivatedOnce.congr_host {host' : V1AvrcpObserverHost} (h : ActivatedOnce trace host)
    (hh : host'.activation = host.activation) : ActivatedOnce trace host' := by
  simp only [V1AvrcpObserverHost.activation, Prod.mk.injEq] at hh
  obtain ⟨hgeneration, hrequested, hterminal⟩ := hh
  refine ⟨h.seen.trans hgeneration.symm, ?_, ?_, h.once⟩
  · rw [hrequested, hterminal]
    exact h.requested
  · rw [hterminal]
    exact h.rejected

theorem ActivatedOnce.silent (h : ActivatedOnce trace host) (moment : ObserverDriverMoment)
    (hl : lastGeneration (moment :: trace) = lastGeneration trace)
    (hb : BegunSince (moment :: trace) → BegunSince trace)
    (ho : BegunOnce trace → BegunOnce (moment :: trace)) : ActivatedOnce (moment :: trace) host :=
  ⟨hl.trans h.seen, fun hs => h.requested (hb hs),
    fun hr => (h.rejected hr).imp fun _ => List.mem_cons_of_mem _, ho h.once⟩

theorem ActivatedOnce.status (h : ActivatedOnce trace host) {status : NldAvrcpObserverStatus}
    (hsize : status.size = sizeofStatus) :
    ActivatedOnce (.status (.ok status) :: trace)
      (V1AvrcpObserverHost.observeStatus status host) := by
  have hmem : host.activationTerminalFailure →
      ∃ e, ObserverDriverMoment.begun (.error e) ∈ .status (.ok status) :: trace :=
    fun hr => (h.rejected hr).imp fun _ => List.mem_cons_of_mem _
  have hseen : lastGeneration (.status (.ok status) :: trace) = status.aclGeneration :=
    if_pos hsize
  by_cases hg : Regenerates status trace
  · have hreset : host.observerGeneration ≠ 0 ∧
        host.observerGeneration ≠ status.aclGeneration := by
      rw [← h.seen]
      exact hg.2
    simp only [V1AvrcpObserverHost.observeStatus, if_pos hreset]
    exact ⟨hseen, fun hs => absurd hg hs.1, fun hr => absurd hr Bool.false_ne_true, h.once⟩
  · have hkept : ¬ (host.observerGeneration ≠ 0 ∧
        host.observerGeneration ≠ status.aclGeneration) := by
      rw [← h.seen]
      exact fun hc => hg ⟨hsize, hc⟩
    simp only [V1AvrcpObserverHost.observeStatus, if_neg hkept]
    exact ⟨hseen, fun hs => h.requested hs.2, hmem, h.once⟩

end

namespace V1AvrcpObserverHost

/-- A stage whose driver is on record. -/
abbrev TracedStage (Ω : Type) := AvrcpStage (Ω × List ObserverDriverMoment) V1AvrcpObserverHost

/-- The invariant of the runs, with the lease given out last and the number of media
    sessions started. -/
structure Leased (k : UInt64 × UInt64) (s : TracedStage Ω) : Prop where
  lease : LeaseHeld s.mapper s.host
  activation : ActivatedOnce s.world.2 s.host
  counted : (s.host.ownerLease, s.host.mediaSessionsStarted) = k

/-- The invariant, in a media session. -/
def InSession (k : UInt64 × UInt64) (s : TracedStage Ω) : Prop :=
  Leased k s ∧ s.host.mediaSessionActive

/-- What the invariant depends on. -/
def leaseView (s : TracedStage Ω) :=
  (s.world.2, s.host, s.mapper.mediaAuthorization, s.mapper.volumeAuthorization,
    s.mapper.passThrough.authorization, s.mapper.absoluteVolume.authorization)

variable (env : AvrcpObserverEnvironment Ω) {k : UInt64 × UInt64}

theorem backstage_leaseView : Backstage env.traced.toAvrcpEnvironment (leaseView (Ω := Ω)) where
  world h s := by cases h <;> rfl
  sink _ _ _ := rfl
  mapper s mapper log h := by
    simp only [leaseView, h.media, h.volume, h.passThrough, h.absoluteVolume]

theorem leased_congr (s s' : TracedStage Ω) (hv : leaseView s' = leaseView s) (h : Leased k s) :
    Leased k s' := by
  simp only [leaseView, Prod.mk.injEq] at hv
  obtain ⟨htrace, hhost, hmedia, hvolume, hpass, habsolute⟩ := hv
  constructor
  · rw [hhost]
    exact h.lease.untouched ⟨hmedia, hvolume, hpass, habsolute⟩
  · rw [htrace, hhost]
    exact h.activation
  · rw [hhost]
    exact h.counted

theorem inSession_congr (s s' : TracedStage Ω) (hv : leaseView s' = leaseView s)
    (h : InSession k s) : InSession k s' := by
  refine ⟨leased_congr s s' hv h.1, ?_⟩
  simp only [leaseView, Prod.mk.injEq] at hv
  rw [hv.2.1]
  exact h.2

variable {env}

theorem session_executes {α : Type}
    {x : Prog (TracedStage Ω) α} (h : Executes env.traced.toAvrcpEnvironment x) :
    Triple (InSession k) x (fun _ => InSession k) (Leased k) :=
  (h.keeps (backstage_leaseView env) inSession_congr).conseq (fun _ => id) (fun _ _ => id)
    fun _ => And.left

variable {s : TracedStage Ω} {D : TracedStage Ω → Prop}

theorem wp_modify {Q : Unit → TracedStage Ω → Prop}
    (f : V1AvrcpObserverHost → V1AvrcpObserverHost) :
    wp (modify f) Q D s ↔ Q () { s with host := f s.host } := Iff.rfl

theorem wp_discarded {Q : Unit → TracedStage Ω → Prop} (op : V1AvrcpMapperOp) :
    wp (discarded op) Q D s ↔ Q () { s with
      mapper := avrcpMapper.next s.mapper op
      log := .mapped s.mapper s.sink op false :: s.log } := Iff.rfl

theorem wp_mapped {Q : V1AvrcpActionSet → TracedStage Ω → Prop} (op : V1AvrcpMapperOp)
    (dispatched : Bool) :
    wp (mapped op dispatched) Q D s ↔ Q (avrcpMapper.out s.mapper op) { s with
      mapper := avrcpMapper.next s.mapper op
      log := .mapped s.mapper s.sink op dispatched :: s.log } := Iff.rfl

theorem Leased.step (h : Leased k s) (op : V1AvrcpMapperOp) (hr : ¬ RepeatsGeneration s.mapper op)
    (hown : AcquiresOwn s.host op) (log : List AvrcpMoment) :
    Leased k { s with mapper := avrcpMapper.next s.mapper op, log := log } :=
  ⟨h.lease.step op hr hown, h.activation, h.counted⟩

theorem endMediaSession_leased :
    Triple (Leased (Ω := Ω) k) endMediaSession
      (fun _ s => Leased k s ∧ ¬ s.host.mediaSessionActive) (Leased k) := by
  intro s h
  show wp endMediaSession _ _ s
  simp only [endMediaSession, wp_bind, wp_read, id, wp_ite, wp_pure, wp_discarded, wp_modify]
  split_ifs with hactive hown
  · have hne : s.mapper.ownerLease ≠ 0 := by
      rw [hown.2]
      exact h.lease.nonzero hactive
    have hzero := revoke_ownerLease h.lease.synced hown.1 hne
    rw [hown.2] at hzero
    have hstep := h.lease.step (.revokeOwnerLease s.mapper.aclGeneration s.host.ownerLease) id
      trivial
    exact ⟨⟨hstep.ended hactive hzero, h.activation.congr_host rfl, h.counted⟩, id⟩
  · have hzero : s.mapper.ownerLease = 0 := by
      by_contra hne
      refine hown ⟨?_, (h.lease.held hne).2⟩
      by_contra hc
      exact hne (h.lease.dormant hc)
    exact ⟨⟨h.lease.ended hactive hzero, h.activation.congr_host rfl, h.counted⟩, id⟩
  · exact ⟨h, hactive⟩

theorem releaseTransport_leased :
    Triple (Leased k) (releaseTransport env.traced)
      (fun _ s => Leased k s ∧ ¬ s.host.mediaSessionActive) (Leased k) := by
  refine .bind endMediaSession_leased fun _ s h => ?_
  obtain ⟨⟨hlease, hactivation, hcounted⟩, hactive⟩ := h
  refine ⟨⟨hlease.congr_host rfl, ?_, hcounted⟩, hactive⟩
  exact ⟨rfl, False.elim, fun hr => absurd hr Bool.false_ne_true, hactivation.once⟩

theorem endMapperGeneration_leased {P : V1AvrcpObserverHost → Prop} :
    Triple (fun s : TracedStage Ω => Leased k s ∧ P s.host) endMapperGeneration
      (fun _ s => Leased k s ∧ P s.host) fun s => Leased k s ∧ P s.host := by
  intro s h
  show wp endMapperGeneration _ _ s
  simp only [endMapperGeneration, wp_bind, wp_read, wp_ite, wp_pure, wp_discarded]
  split_ifs
  · exact ⟨h.1.step (.endAclGeneration s.mapper.aclGeneration) id trivial _, h.2⟩
  · exact h

theorem close_leased :
    Triple (Leased k) (close env.traced) (fun _ s => Leased k s ∧ ¬ s.host.mediaSessionActive) (Leased k) :=
  .bind releaseTransport_leased fun _ =>
    (endMapperGeneration_leased (P := fun host => ¬ host.mediaSessionActive)).conseq
      (fun _ => id) (fun _ _ => id) fun _ => And.left

theorem Leased.congr_host (h : Leased k s) {host : V1AvrcpObserverHost}
    (hs : host.sessions = s.host.sessions) (ha : host.activation = s.host.activation) :
    Leased k { s with host := host } :=
  ⟨h.lease.congr_host hs, h.activation.congr_host ha, by
    simp only [V1AvrcpObserverHost.sessions, Prod.mk.injEq] at hs
    rw [hs.2.1, hs.2.2.1]
    exact h.counted⟩

theorem inSession_read (f : TracedStage Ω → α) :
    Triple (InSession k) (Prog.read f) (fun _ => InSession k) (Leased k) :=
  .read fun _ h => h

theorem inSession_pure (a : α) :
    Triple (InSession (Ω := Ω) k) (Pure.pure a) (fun _ => InSession k) (Leased k) :=
  .pure fun _ h => h

theorem inSession_observeWindows (observed : AvrcpWindowsVolume) :
    Triple (InSession k) (do
      let generation ← Prog.read fun s : TracedStage Ω => s.mapper.aclGeneration
      mapAndDispatch env.traced.toAvrcpEnvironment (.observeWindowsVolume generation observed))
      (fun _ => InSession k) (Leased k) :=
  .bind (inSession_read _) fun generation =>
    session_executes (executes_mapAndDispatch _ (.observeWindowsVolume generation observed) trivial)

theorem inSession_modify {f : V1AvrcpObserverHost → V1AvrcpObserverHost}
    (hs : ∀ host, (f host).sessions = host.sessions)
    (ha : ∀ host, (f host).activation = host.activation) :
    Triple (InSession (Ω := Ω) k) (modify f) (fun _ => InSession k) (Leased k) := by
  refine .update fun s h => ⟨h.1.congr_host (hs s.host) (ha s.host), ?_⟩
  exact (congrArg Prod.fst (hs s.host)).trans h.2

theorem inSession_silent {call : Ω → α × Ω} {moment : α → ObserverDriverMoment}
    (hl : ∀ a trace, lastGeneration (moment a :: trace) = lastGeneration trace)
    (hb : ∀ a trace, BegunSince (moment a :: trace) → BegunSince trace)
    (ho : ∀ a trace, BegunOnce trace → BegunOnce (moment a :: trace)) :
    Triple (InSession k) (ask (recorded moment call)) (fun _ => InSession k) (Leased k) :=
  .step fun _ h => ⟨⟨h.1.lease, h.1.activation.silent _ (hl _ _) (hb _ _) (ho _ _), h.1.counted⟩, h.2⟩

theorem openDriver_inSession :
    Triple (InSession k) (openDriver env.traced) (fun _ => InSession k) (Leased k) := by
  refine .bind (inSession_read _) fun host => .ite (fun _ => inSession_pure _) fun _ => ?_
  have hopen : ∀ call : Ω → Except UInt32 Unit × Ω,
      Triple (InSession k) (ask (recorded .opened call)) (fun _ => InSession k) (Leased k) :=
    fun _ => inSession_silent (fun _ _ => rfl) (fun _ _ => id) fun _ _ => id
  refine .bind (Q := fun _ => InSession k) ?_ fun answer => ?_
  · by_cases hw : host.writeEnabled
    · rw [if_pos hw]
      exact hopen _
    · rw [if_neg hw]
      exact hopen _
  · rcases answer with e | _
    · exact inSession_pure _
    · exact .bind (inSession_modify (fun _ => rfl) fun _ => rfl) fun _ => inSession_pure _

theorem ensureOpened_inSession :
    Triple (InSession k) (ensureOpened env.traced)
      (fun r s => Leased k s ∧ (r = .ok () → s.host.mediaSessionActive)) (Leased k) := by
  have hclosed : ∀ e : V1AvrcpObserverActivationResult × UInt32, Triple (InSession k) (do
        close env.traced
        return (.error e : Except (V1AvrcpObserverActivationResult × UInt32) Unit))
      (fun r s => Leased k s ∧ (r = .ok () → s.host.mediaSessionActive)) (Leased k) := by
    intro e
    refine .bind (close_leased.pre fun _ => And.left) fun _ => .pure fun _ h => ⟨h.1, ?_⟩
    intro hr
    cases hr
  refine .bind openDriver_inSession fun opened => ?_
  rcases opened with e | _
  · refine .ite (fun _ => .pure fun s h => ⟨h.1, ?_⟩) fun _ => .pure fun s h => ⟨h.1, ?_⟩
    · intro hr
      cases hr
    · intro hr
      cases hr
  · refine .bind (Q := fun _ => InSession k)
      (inSession_silent (fun _ _ => rfl) (fun _ _ => id) fun _ _ => id) fun answer => ?_
    rcases answer with e | version
    · exact hclosed _
    · refine .ite (fun _ => hclosed _) fun _ => .ite (fun _ => hclosed _) fun _ => ?_
      exact .pure fun s h => ⟨h.1, fun _ => h.2⟩

theorem readStatus_inSession :
    Triple (InSession k) (readStatus env.traced) (fun _ => InSession k) (Leased k) := by
  refine .bind (Q := fun answer s => LeaseHeld s.mapper s.host ∧ s.host.mediaSessionActive ∧
      (s.host.ownerLease, s.host.mediaSessionsStarted) = k ∧
      ∃ trace, s.world.2 = .status answer :: trace ∧ ActivatedOnce trace s.host)
    (.step fun s h => ⟨h.1.lease, h.2, h.1.counted, s.world.2, rfl, h.1.activation⟩)
    fun answer => ?_
  rcases answer with e | status
  · refine .pure ?_
    rintro s ⟨hlease, hactive, hcounted, trace, htrace, hactivation⟩
    refine ⟨⟨hlease, ?_, hcounted⟩, hactive⟩
    rw [htrace]
    exact hactivation.silent _ rfl id id
  · refine .ite (fun hsize => .pure ?_) fun hsize => .bind (.update ?_) fun _ => inSession_pure _
    · rintro s ⟨hlease, hactive, hcounted, trace, htrace, hactivation⟩
      refine ⟨⟨hlease, ?_, hcounted⟩, hactive⟩
      rw [htrace]
      exact hactivation.silent _ (if_neg hsize) And.right id
    · rintro s ⟨hlease, hactive, hcounted, trace, htrace, hactivation⟩
      have hkept : (observeStatus status s.host).sessions = s.host.sessions := by
        simp only [observeStatus]
        split_ifs <;> rfl
      have hcount : ((observeStatus status s.host).ownerLease,
          (observeStatus status s.host).mediaSessionsStarted) = k := by
        simp only [V1AvrcpObserverHost.sessions, Prod.mk.injEq] at hkept
        rw [hkept.2.1, hkept.2.2.1]
        exact hcounted
      refine ⟨⟨hlease.congr_host hkept, ?_, hcount⟩, (congrArg Prod.fst hkept).trans hactive⟩
      show ActivatedOnce s.world.2 _
      rw [htrace]
      exact hactivation.status (not_not.mp hsize)

theorem ensureMapperLease_inSession :
    Triple (InSession (Ω := Ω) k) ensureMapperLease (fun _ => InSession k) (Leased k) := by
  intro s h
  show wp ensureMapperLease _ _ s
  simp only [ensureMapperLease, wp_bind, wp_read, id, wp_ite, wp_pure, wp_discarded]
  split_ifs
  · exact h
  · exact h
  · exact ⟨h.1.step (.acquireOwnerLease s.mapper.aclGeneration s.host.ownerLease) id ⟨h.2, rfl⟩ _,
      h.2⟩

theorem beginGeneration_inSession (generation : UInt64) :
    Triple (InSession (Ω := Ω) k) (beginGeneration generation) (fun _ => InSession k) (Leased k) := by
  have hbegin : Triple (InSession (Ω := Ω) k) (beginUnlessCurrent generation)
      (fun _ => InSession k) (Leased k) := by
    intro s h
    show wp (beginUnlessCurrent _) _ _ s
    simp only [beginUnlessCurrent, wp_bind, wp_read, wp_ite, wp_pure, wp_mapped, ite_self]
    split_ifs with hc
    · exact h
    · refine ⟨h.1.step (.beginAclGeneration generation) ?_ trivial _, h.2⟩
      intro hr
      exact hc (isCurrentGeneration_iff.mp hr.1).2.1
  refine .bind (inSession_read _) fun mapper => .ite (fun _ => ?_) fun _ => hbegin
  refine .bind (endMapperGeneration_leased (P := fun host => host.mediaSessionActive)
    |>.conseq (fun _ => id) (fun _ _ => id) fun _ => And.left) fun _ => hbegin

theorem inSession_headsetPreferred :
    Triple (InSession (Ω := Ω) k) (Prog.update fun s => { s with mapper := { s.mapper with
      headsetPreferred := s.host.options.headsetPreferred } }) (fun _ => InSession k) (Leased k) :=
  .update fun _ h => ⟨⟨h.1.lease.untouched ⟨rfl, rfl, rfl, rfl⟩, h.1.activation, h.1.counted⟩, h.2⟩

theorem configureMapper_inSession (generation : UInt64) :
    Triple (InSession k) (configureMapper env.traced generation) (fun _ => InSession k) (Leased k) := by
  have hrest : Triple (InSession k) (tellOptions env.traced generation)
      (fun _ => InSession k) (Leased k) := by
    intro s h
    show wp (tellOptions _ _) _ _ s
    simp only [tellOptions, wp_bind, wp_read, wp_discarded]
    refine session_executes (executes_mapAndDispatch _
      (.setMediaSessionSnapshot s.host.options.mediaSession) trivial) _ ⟨?_, h.2⟩
    have hmode := h.1.step
      (.setControlMode generation s.host.options.volumeSync s.host.options.mediaRouting) id
      trivial s.log
    have hlease := hmode.step (.acquireOwnerLease generation s.host.ownerLease) id ⟨h.2, rfl⟩ s.log
    exact hlease.step (.observeWindowsVolume generation s.host.options.initialWindowsVolume) id
      trivial _
  refine .bind inSession_headsetPreferred fun _ =>
    .bind (inSession_modify (fun _ => rfl) fun _ => rfl) fun _ =>
      .bind (session_executes (.ask .queryWindowsVolume)) fun current => ?_
  rcases current with _ | current
  · exact hrest
  · exact .bind (inSession_modify (fun _ => rfl) fun _ => rfl) fun _ => hrest

theorem preparePhysicalMapper_inSession :
    Triple (InSession k) (preparePhysicalMapper env.traced) (fun _ => InSession k) (Leased k) := by
  refine .bind (inSession_read _) fun generation => .ite (fun _ => inSession_pure _) fun _ => ?_
  refine .bind (beginGeneration_inSession generation) fun begun => ?_
  rcases begun with e | _
  · exact inSession_pure _
  · refine .bind (configureMapper_inSession generation) fun _ =>
      .bind ensureMapperLease_inSession fun _ => ?_
    exact .ite (fun _ => inSession_pure _) fun _ => inSession_pure _

theorem mapDriverEvent_kind {event : NldAvrcpObserverEvent} {g : UInt64}
    {observed : V1AvrcpObservedEvent} (h : mapDriverEvent event g = some observed) :
    observed.kind ≠ .generationStarted ∧ observed.kind ≠ .generationEnded := by
  by_cases hg : g = 0
  · rw [mapDriverEvent, if_pos hg] at h
    cases h
  · rw [mapDriverEvent, if_neg hg] at h
    split at h
    · cases h
      simp
    · cases h
      simp
    · cases h
      simp
    · split_ifs at h
      cases h
      simp
    · split_ifs at h
      cases h
      simp
    · cases h

theorem feedDriverEvent_inSession (event : NldAvrcpObserverEvent) :
    Triple (InSession k) (feedDriverEvent env.traced event) (fun _ => InSession k) (Leased k) := by
  refine .bind (inSession_read _) fun generation => ?_
  rcases hevent : mapDriverEvent event generation with _ | observed
  · exact inSession_pure _
  · obtain ⟨hs, he⟩ := mapDriverEvent_kind hevent
    refine .bind (inSession_read _) fun options => ?_
    refine .bind (session_executes (executes_feedEvent _ hs he options)) fun _ => ?_
    exact .ite (fun _ => ensureMapperLease_inSession) fun _ => inSession_pure _

theorem pollEvents_inSession (n : Nat) (observed : Bool) :
    Triple (InSession k) (pollEvents env.traced n observed) (fun _ => InSession k) (Leased k) := by
  induction n generalizing observed with
  | zero => exact inSession_pure _
  | succ n ih =>
    refine .bind (Q := fun _ => InSession k) (.step fun _ h => ⟨⟨h.1.lease, h.1.activation, h.1.counted⟩, h.2⟩)
      fun answer => ?_
    rcases answer with e | event
    · exact .ite (fun _ => inSession_pure _) fun _ => inSession_pure _
    · refine .bind (feedDriverEvent_inSession event) fun fed => ?_
      exact .ite (fun _ => ih _) fun _ => inSession_pure _

theorem queryWindowsVolumeUnnotified_inSession :
    Triple (InSession k) (queryWindowsVolumeUnnotified env.traced) (fun _ => InSession k) (Leased k) := by
  refine .bind (session_executes (.ask .getTickCount)) fun now => ?_
  refine .bind (session_executes (.ask .windowsVolumeNotificationsActive)) fun active => ?_
  refine .bind (inSession_read _) fun last => .ite (fun _ => ?_) fun _ => inSession_pure _
  refine .bind (inSession_modify (fun _ => rfl) fun _ => rfl) fun _ => ?_
  refine .bind (session_executes (.ask .queryWindowsVolume)) fun current => ?_
  rcases current with _ | current
  · exact inSession_pure _
  · exact inSession_observeWindows current

theorem pollWindowsVolume_inSession :
    Triple (InSession k) (pollWindowsVolume env.traced) (fun _ => InSession k) (Leased k) := by
  refine .bind (session_executes (.ask .consumeWindowsVolumeChange)) fun notified => ?_
  rcases notified with _ | notified
  · exact queryWindowsVolumeUnnotified_inSession
  · refine .bind (inSession_read _) fun generation => ?_
    refine .bind (session_executes (executes_mapAndDispatch _
      (.observeWindowsVolume generation notified) trivial)) fun _ => ?_
    exact queryWindowsVolumeUnnotified_inSession

theorem poll_leased : Triple (Leased k) (poll env.traced) (fun _ => Leased k) (Leased k) := by
  refine .bind (Q := fun host s => Leased k s ∧ s.host = host) (.read fun _ h => ⟨h, rfl⟩)
    fun host => .ite (fun _ => .pure fun _ => And.left) fun hlive => ?_
  rw [not_or, not_not] at hlive
  have hstart : ∀ s : TracedStage Ω, Leased k s ∧ s.host = host → InSession k s := by
    rintro s ⟨h, rfl⟩
    exact ⟨h, hlive.1⟩
  have hleave : ∀ (r : Except UInt32 Unit) (s : TracedStage Ω), InSession k s → Leased k s :=
    fun _ _ => And.left
  refine Triple.pre (Triple.post ?_ hleave) hstart
  refine .bind readStatus_inSession fun status => ?_
  rcases status with e | status
  · exact inSession_pure _
  · refine .bind (pollEvents_inSession _ _) fun polled => ?_
    rcases polled with e | observed
    · exact inSession_pure _
    · refine .bind (inSession_read _) fun s => .bind (Q := fun _ => InSession k) ?_ fun _ => ?_
      · exact .ite (fun _ => pollWindowsVolume_inSession) fun _ => inSession_pure _
      · refine .bind (inSession_read _) fun ready => .bind (Q := fun _ => InSession k) ?_
          fun _ => inSession_pure _
        exact .ite (fun _ => session_executes (executes_retryPendingWrites _)) fun _ =>
          inSession_pure _

theorem setMediaSessionSnapshot_leased (snapshot : V1MediaSessionSnapshot) :
    Triple (Leased k) (setMediaSessionSnapshot env.traced snapshot) (fun _ => Leased k) (Leased k) := by
  refine .bind (Q := fun _ => Leased k) (.update fun _ h => h.congr_host rfl rfl) fun _ => ?_
  refine .bind (Q := fun _ => Leased k) (.read fun _ h => h) fun current => ?_
  refine .ite (fun _ => ?_) fun _ => .pure fun _ h => h
  exact (executes_mapAndDispatch _ (.setMediaSessionSnapshot snapshot) trivial).keeps
    (backstage_leaseView env) leased_congr

theorem abandon_leased (starting : Bool) (result : V1AvrcpObserverActivationResult)
    (error : UInt32) :
    Triple (Leased (Ω := Ω) k) (abandon starting result error) (fun _ => Leased k) (Leased k) := by
  refine .bind (Q := fun _ => Leased k) ?_ fun _ => .pure fun _ h => h
  exact .ite (fun _ => endMediaSession_leased.post fun _ _ => And.left) fun _ => .pure fun _ h => h

theorem activate_inSession (status : NldAvrcpObserverStatus) :
    Triple (InSession k) (activate env.traced status) (fun _ => InSession k) (Leased k) := by
  refine .bind (Q := fun host s => InSession k s ∧ s.host = host) (.read fun _ h => ⟨h, rfl⟩)
    fun host => ?_
  have hpure : ∀ r : Except (V1AvrcpObserverActivationResult × UInt32) Unit,
      Triple (fun s : TracedStage Ω => InSession k s ∧ s.host = host) (Pure.pure r)
        (fun _ => InSession k) (Leased k) :=
    fun _ => .pure fun _ => And.left
  refine .ite (fun _ => hpure _) fun hterminal => .ite (fun hready => ?_) fun _ =>
    .ite (fun _ => ?_) fun _ => hpure _
  · refine .bind (Q := fun answer s => LeaseHeld s.mapper s.host ∧ s.host.mediaSessionActive ∧
        (s.host.ownerLease, s.host.mediaSessionsStarted) = k ∧
        ∃ trace, s.world.2 = .begun answer :: trace ∧ ActivatedOnce trace s.host ∧
          ¬ BegunSince trace) (.step ?_) fun answer => ?_
    · rintro s ⟨h, rfl⟩
      refine ⟨h.1.lease, h.2, h.1.counted, s.world.2, rfl, h.1.activation, fun hs => ?_⟩
      exact (h.1.activation.requested hs).elim hready.1 hterminal
    · rcases answer with e | _
      · refine .bind (.update ?_) fun _ => inSession_pure _
        rintro s ⟨hlease, hactive, hcounted, trace, htrace, hactivation, hbegun⟩
        refine ⟨⟨hlease.congr_host rfl, ?_, hcounted⟩, hactive⟩
        show ActivatedOnce s.world.2 _
        rw [htrace]
        exact ⟨hactivation.seen, fun _ => .inr rfl, fun _ => ⟨e, List.mem_cons_self⟩, hbegun,
          hactivation.once⟩
      · refine .bind (.update ?_) fun _ => inSession_pure _
        rintro s ⟨hlease, hactive, hcounted, trace, htrace, hactivation, hbegun⟩
        refine ⟨⟨hlease.congr_host rfl, ?_, hcounted⟩, hactive⟩
        show ActivatedOnce s.world.2 _
        rw [htrace]
        refine ⟨hactivation.seen, fun _ => .inl rfl, fun hr => ?_, hbegun, hactivation.once⟩
        exact (hactivation.rejected hr).imp fun _ => List.mem_cons_of_mem _
  · refine .bind (.update ?_) fun _ => inSession_pure _
    rintro s ⟨h, -⟩
    have ha := h.1.activation
    refine ⟨⟨h.1.lease.congr_host rfl, ?_, h.1.counted⟩, h.2⟩
    exact ⟨ha.seen, fun _ => .inl rfl, ha.rejected, ha.once⟩

theorem nextOwnerLease_ne_zero (lease : UInt64) : nextOwnerLease lease ≠ 0 := by
  unfold nextOwnerLease
  split_ifs with h
  · decide
  · intro hzero
    apply h
    have : lease = 0 - 1 := by grind
    rw [this]
    decide

/-- The last lease and the number of sessions, once a session is active. -/
def startedCounts (active : Bool) (k : UInt64 × UInt64) : UInt64 × UInt64 :=
  if active then k else (nextOwnerLease k.1, k.2 + 1)

theorem startSession_inSession {active starting : Bool} :
    Triple (fun s : TracedStage Ω =>
        Leased k s ∧ s.host.mediaSessionActive = active ∧ starting = !active)
      (Prog.onlyIf starting (modify fun h => { h with
        mediaSessionActive := true
        ownerLease := nextOwnerLease h.ownerLease
        mediaSessionsStarted := h.mediaSessionsStarted + 1 }))
      (fun _ => InSession (startedCounts active k)) (Leased (startedCounts active k)) := by
  refine .ite (fun hstarting => .update ?_) fun hstarting => .pure ?_
  · rintro s ⟨h, hactive, rfl⟩
    have hoff : active = false := by simpa using hstarting
    subst hoff
    have hinactive : ¬ s.host.mediaSessionActive := by simp [hactive]
    refine ⟨⟨h.lease.started hinactive (nextOwnerLease_ne_zero _), h.activation.congr_host rfl, ?_⟩,
      rfl⟩
    rw [← h.counted]
    rfl
  · rintro s ⟨h, hactive, rfl⟩
    have hon : active = true := by simpa using hstarting
    subst hon
    exact ⟨h, hactive⟩

theorem beginMediaSession_leased (options : V1AvrcpReplayOptions) {active : Bool} :
    Triple (fun s => Leased k s ∧ s.host.mediaSessionActive = active)
      (beginMediaSession env.traced options) (fun _ => Leased (startedCounts active k))
      (Leased (startedCounts active k)) := by
  refine .bind (Q := fun _ s => Leased k s ∧ s.host.mediaSessionActive = active)
    (.update fun _ h => ⟨h.1.congr_host rfl rfl, h.2⟩) fun _ => ?_
  refine .bind (Q := fun starting s =>
      Leased k s ∧ s.host.mediaSessionActive = active ∧ starting = !active)
    (.read fun s h => ⟨h.1, h.2, congrArg not h.2⟩) fun starting => ?_
  refine .bind startSession_inSession fun _ => ?_
  generalize startedCounts active k = k'
  have habandon : ∀ result e, Triple (InSession (Ω := Ω) k') (abandon starting result e)
      (fun _ => Leased k') (Leased k') :=
    fun result e => (abandon_leased starting result e).pre fun _ => And.left
  refine .bind ensureOpened_inSession fun opened => ?_
  rcases opened with e | _
  · exact (abandon_leased starting e.1 e.2).pre fun _ => And.left
  refine Triple.pre ?_ fun (s : TracedStage Ω) h => (⟨h.1, h.2 rfl⟩ : InSession k' s)
  refine .bind readStatus_inSession fun status => ?_
  rcases status with e | status
  · exact habandon _ _
  refine .bind preparePhysicalMapper_inSession fun prepared => ?_
  rcases prepared with e | _
  · exact habandon _ _
  refine .bind (activate_inSession status) fun activated => ?_
  rcases activated with e | _
  · exact habandon _ _
  refine .bind ensureMapperLease_inSession fun _ => ?_
  exact .ite (fun _ => .pure fun _ => And.left) fun _ => habandon _ _

/-- The last lease and the number of sessions, after a call. -/
def Call.counts (active : Bool) (k : UInt64 × UInt64) : Call → UInt64 × UInt64
  | .beginMediaSession _ => startedCounts active k
  | _ => k

theorem call_leased (call : Call) {active : Bool} :
    Triple (fun s => Leased k s ∧ s.host.mediaSessionActive = active) (call.program env.traced)
      (fun _ => Leased (call.counts active k)) (Leased (call.counts active k)) := by
  have hpre : ∀ s : TracedStage Ω, Leased k s ∧ s.host.mediaSessionActive = active → Leased k s :=
    fun _ => And.left
  cases call with
  | beginMediaSession options =>
    exact .bind (beginMediaSession_leased options) fun _ => .pure fun _ h => h
  | poll => exact .pre (.bind poll_leased fun _ => .pure fun _ h => h) hpre
  | setMediaSessionSnapshot snapshot => exact (setMediaSessionSnapshot_leased snapshot).pre hpre
  | endMediaSession => exact (endMediaSession_leased.post fun _ _ => And.left).pre hpre
  | releaseTransport => exact (releaseTransport_leased.post fun _ _ => And.left).pre hpre
  | close => exact (close_leased.post fun _ _ => And.left).pre hpre

theorem leased_fresh (writeEnabled : Bool) (world : Ω) :
    Leased (0, 0) (fresh writeEnabled (world, [])) where
  lease :=
    ⟨synced_init, fun _ => rfl, fun hne => absurd rfl hne, fun ha => absurd ha Bool.false_ne_true,
      by simp [fresh]⟩
  activation := ⟨rfl, False.elim, fun hr => absurd hr Bool.false_ne_true, trivial⟩
  counted := rfl

theorem leased_next (h : Leased k s) (call : Call) :
    Leased (call.counts s.host.mediaSessionActive k) ((machine env.traced).next s call) := by
  have hcall := (call_leased call : Triple _ (call.program env.traced) _ _) s ⟨h, rfl⟩
  show Leased _ (call.program env.traced s).2
  generalize call.program env.traced s = r at hcall ⊢
  rcases r with ⟨_ | a, s'⟩
  · exact hcall
  · exact hcall

theorem leased_after (env : AvrcpObserverEnvironment Ω) (writeEnabled : Bool) (world : Ω)
    (calls : List Call) :
    ∃ k, Leased k ((machine env.traced).after (fresh writeEnabled (world, [])) calls) := by
  refine Reducer.Reach.inv (I := (fresh writeEnabled (world, []) = ·))
    (P := fun s => ∃ k, Leased k s) ?_ ?_ (.after (.init rfl) calls)
  · rintro _ rfl
    exact ⟨_, leased_fresh writeEnabled world⟩
  · rintro s call ⟨k, h⟩
    exact ⟨_, leased_next h call⟩

end V1AvrcpObserverHost

end NativeLdac.Agent
