/-
  The sink of the observer's host is called only in a media session, and no two
  media sessions share a lease.

  `Confined`: run from the stage, the program calls the sink only while a media
  session is active.
-/
import NativeLdac.Agent.AvrcpObserverLease

namespace NativeLdac.Agent

open AvrcpStage V1AvrcpControlMapperState Prog

variable {Ω α β : Type}

inductive AvrcpObserverEnvironment.DriverCall (env : AvrcpObserverEnvironment Ω) :
    {α : Type} → (Ω → α × Ω) → Prop
  | openReadOnly : env.DriverCall env.openReadOnly
  | openReadWrite : env.DriverCall env.openReadWrite
  | closeDriver : env.DriverCall env.closeDriver
  | getVersion : env.DriverCall env.getVersion
  | getStatus : env.DriverCall env.getStatus
  | beginObservation : env.DriverCall env.beginObservation
  | dequeueEvent : env.DriverCall env.dequeueEvent

namespace V1AvrcpObserverHost

/-- Run from the stage, the program calls the sink only in a media session: what it
    does otherwise is to compute, to set fields of the host and the mapper, and to call
    the driver. -/
inductive Confined (env : AvrcpObserverEnvironment Ω) :
    {α : Type} → Program Ω α → AvrcpStage Ω V1AvrcpObserverHost → Prop
  | pure {α : Type} (a : α) (s : AvrcpStage Ω V1AvrcpObserverHost) :
    Confined env (Pure.pure a) s
  | read {α : Type} (f : AvrcpStage Ω V1AvrcpObserverHost → α)
    (s : AvrcpStage Ω V1AvrcpObserverHost) : Confined env (Prog.read f) s
  | modify (f : V1AvrcpObserverHost → V1AvrcpObserverHost)
    (s : AvrcpStage Ω V1AvrcpObserverHost) : Confined env (modify f) s
  | headsetPreferred (s : AvrcpStage Ω V1AvrcpObserverHost) :
    Confined env (Prog.update fun s => { s with mapper := { s.mapper with
      headsetPreferred := s.host.options.headsetPreferred } }) s
  | mapped (op : V1AvrcpMapperOp) (dispatched : Bool) (s : AvrcpStage Ω V1AvrcpObserverHost) :
    Confined env (mapped op dispatched) s
  | driver {α : Type} {call : Ω → α × Ω} (h : env.DriverCall call)
    (s : AvrcpStage Ω V1AvrcpObserverHost) : Confined env (ask call) s
  | sink {α : Type} {x : Program Ω α} {s : AvrcpStage Ω V1AvrcpObserverHost}
    (h : Executes env.toAvrcpEnvironment x) (hs : s.host.mediaSessionActive) : Confined env x s
  | bind {α β : Type} {x : Program Ω α} {f : α → Program Ω β}
    {s : AvrcpStage Ω V1AvrcpObserverHost} (hx : Confined env x s)
    (hf : ∀ a s', x s = (some a, s') → Confined env (f a) s') : Confined env (x >>= f) s

variable {env : AvrcpObserverEnvironment Ω} {x : Program (Ω × List ObserverDriverMoment) α}
variable {k : UInt64 × UInt64}

theorem Confined.ite {c : Prop} [Decidable c] {x y : Program Ω α}
    {s : AvrcpStage Ω V1AvrcpObserverHost} (hx : c → Confined env x s)
    (hy : ¬ c → Confined env y s) : Confined env (if c then x else y) s := by
  by_cases h : c
  · rw [if_pos h]
    exact hx h
  · rw [if_neg h]
    exact hy h

theorem confined_discarded (op : V1AvrcpMapperOp) (s : AvrcpStage Ω V1AvrcpObserverHost) :
    Confined env (discarded op) s :=
  .bind (.mapped op false s) fun _ s' _ => .pure () s'

/-! ## Without the sink -/

theorem confined_endMediaSession (s : AvrcpStage Ω V1AvrcpObserverHost) :
    Confined env endMediaSession s := by
  refine .bind (.read _ s) fun s₁ s₂ _ => .ite (fun _ => .ite (fun _ => ?_) fun _ => .modify _ _)
    fun _ => .pure _ _
  exact .bind (confined_discarded _ _) fun _ _ _ => .modify _ _

theorem confined_releaseTransport (s : AvrcpStage Ω V1AvrcpObserverHost) :
    Confined env (releaseTransport env) s :=
  .bind (confined_endMediaSession s) fun _ s' _ => .bind (.driver .closeDriver s') fun _ _ _ =>
    .modify _ _

theorem confined_endMapperGeneration (s : AvrcpStage Ω V1AvrcpObserverHost) :
    Confined env endMapperGeneration s :=
  .bind (.read _ s) fun _ s' _ => .ite (fun _ => confined_discarded _ s') fun _ => .pure _ s'

theorem confined_close (s : AvrcpStage Ω V1AvrcpObserverHost) : Confined env (close env) s :=
  .bind (confined_releaseTransport s) fun _ s' _ => confined_endMapperGeneration s'

theorem confined_openDriver (s : AvrcpStage Ω V1AvrcpObserverHost) :
    Confined env (openDriver env) s := by
  refine .bind (.read _ s) fun host s' _ => .ite (fun _ => .pure _ _) fun _ => .bind ?_ ?_
  · by_cases h : host.writeEnabled
    · rw [if_pos h]
      exact .driver .openReadWrite s'
    · rw [if_neg h]
      exact .driver .openReadOnly s'
  · intro answer s' _
    rcases answer with e | _
    · exact .pure _ _
    · exact .bind (.modify _ _) fun _ _ _ => .pure _ _

theorem confined_ensureOpened (s : AvrcpStage Ω V1AvrcpObserverHost) :
    Confined env (ensureOpened env) s := by
  have hclosed : ∀ (r : Except (V1AvrcpObserverActivationResult × UInt32) Unit)
      (s : AvrcpStage Ω V1AvrcpObserverHost), Confined env (do
        close env
        return r) s :=
    fun _ s => .bind (confined_close s) fun _ _ _ => .pure _ _
  refine .bind (confined_openDriver s) fun opened s' _ => ?_
  rcases opened with e | _
  · exact .ite (fun _ => .pure _ _) fun _ => .pure _ _
  · refine .bind (.driver .getVersion s') fun answer s'' _ => ?_
    rcases answer with e | version
    · exact hclosed _ _
    · exact .ite (fun _ => hclosed _ _) fun _ => .ite (fun _ => hclosed _ _) fun _ => .pure _ _

theorem confined_readStatus (s : AvrcpStage Ω V1AvrcpObserverHost) :
    Confined env (readStatus env) s := by
  refine .bind (.driver .getStatus s) fun answer s' _ => ?_
  rcases answer with e | status
  · exact .pure _ _
  · exact .ite (fun _ => .pure _ _) fun _ => .bind (.modify _ _) fun _ _ _ => .pure _ _

theorem confined_ensureMapperLease (s : AvrcpStage Ω V1AvrcpObserverHost) :
    Confined env ensureMapperLease s := by
  refine .bind (.read _ s) fun _ s' _ => .ite (fun _ => .pure _ _) fun _ =>
    .ite (fun _ => .pure _ _) fun _ => ?_
  exact .bind (confined_discarded _ s') fun _ _ _ => .read _ _

theorem confined_beginGeneration (generation : UInt64)
    (s : AvrcpStage Ω V1AvrcpObserverHost) : Confined env (beginGeneration generation) s := by
  have hbegin : ∀ s : AvrcpStage Ω V1AvrcpObserverHost,
      Confined env (beginUnlessCurrent generation) s := by
    intro s
    refine .bind (.read _ s) fun _ s' _ => .ite (fun _ => .pure _ _) fun _ => ?_
    exact .bind (.mapped _ _ s') fun _ _ _ => .ite (fun _ => .pure _ _) fun _ => .pure _ _
  refine .bind (.read _ s) fun _ s' _ => .ite (fun _ => ?_) fun _ => hbegin s'
  exact .bind (confined_endMapperGeneration s') fun _ s'' _ => hbegin s''

theorem confined_abandon (starting : Bool) (result : V1AvrcpObserverActivationResult)
    (error : UInt32) (s : AvrcpStage Ω V1AvrcpObserverHost) :
    Confined env (abandon starting result error) s :=
  .bind (.ite (fun _ => confined_endMediaSession s) fun _ => .pure _ _) fun _ _ _ => .pure _ _

theorem confined_activate (status : NldAvrcpObserverStatus)
    (s : AvrcpStage Ω V1AvrcpObserverHost) : Confined env (activate env status) s := by
  refine .bind (.read _ s) fun _ s' _ => .ite (fun _ => .pure _ _) fun _ => .ite (fun _ => ?_)
    fun _ => .ite (fun _ => ?_) fun _ => .pure _ _
  · refine .bind (.driver .beginObservation s') fun answer s'' _ => ?_
    rcases answer with e | _
    · exact .bind (.modify _ _) fun _ _ _ => .pure _ _
    · exact .bind (.modify _ _) fun _ _ _ => .pure _ _
  · exact .bind (.modify _ _) fun _ _ _ => .pure _ _

/-! ## In a session -/

/-- Run in a session, the program calls the sink only in a session. -/
def Confines (env : AvrcpObserverEnvironment Ω)
    (x : Program (Ω × List ObserverDriverMoment) α) : Prop :=
  ∀ k s, InSession k s → Confined env.traced x s

theorem Confines.executes (h : Executes env.traced.toAvrcpEnvironment x) : Confines env x :=
  fun _ _ hs => .sink h hs.2

theorem Confines.of_confined (h : ∀ s, Confined env.traced x s) : Confines env x :=
  fun _ s _ => h s

theorem Confines.pure (a : α) : Confines env (Pure.pure a) :=
  .of_confined fun s => .pure a s

theorem Confines.bind {f : α → Program (Ω × List ObserverDriverMoment) β}
    (hx : ∀ k, Triple (InSession k) x (fun _ => InSession k) (Leased k)) (hc : Confines env x)
    (hf : ∀ a, Confines env (f a)) : Confines env (x >>= f) := by
  intro k s hs
  refine .bind (hc k s hs) fun a s' hrun => hf a k s' ?_
  exact Triple.returns (Q := fun _ => InSession k) hrun (hx k) hs

theorem Confines.ite {c : Prop} [Decidable c] {x y : Program (Ω × List ObserverDriverMoment) α}
    (hx : Confines env x) (hy : Confines env y) : Confines env (if c then x else y) :=
  fun k s hs => .ite (fun _ => hx k s hs) fun _ => hy k s hs

theorem Confines.read_bind (f : TracedStage Ω → α)
    {g : α → Program (Ω × List ObserverDriverMoment) β} (hg : ∀ a, Confines env (g a)) :
    Confines env (Prog.read f >>= g) :=
  .bind (fun _ => inSession_read f) (.of_confined fun s => .read f s) hg

theorem Confines.executes_bind (h : Executes env.traced.toAvrcpEnvironment x)
    {f : α → Program (Ω × List ObserverDriverMoment) β} (hf : ∀ a, Confines env (f a)) :
    Confines env (x >>= f) :=
  .bind (fun _ => session_executes h) (.executes h) hf

theorem confines_configureMapper (generation : UInt64) :
    Confines env (configureMapper env.traced generation) := by
  have hrest : Confines env (tellOptions env.traced generation) := by
    intro k s hs
    -- the operations before leave the session active
    refine .bind (.read _ s) fun host s₁ h₁ => ?_
    cases h₁
    refine .bind (confined_discarded _ _) fun _ s₂ h₂ => ?_
    cases h₂
    refine .bind (confined_discarded _ _) fun _ s₃ h₃ => ?_
    cases h₃
    refine .bind (confined_discarded _ _) fun _ s₄ h₄ => ?_
    cases h₄
    exact .sink (executes_mapAndDispatch _ (.setMediaSessionSnapshot _) trivial) hs.2
  refine .bind (fun _ => inSession_headsetPreferred) (.of_confined fun s => .headsetPreferred s)
    fun _ => .bind (fun _ => inSession_modify (fun _ => rfl) fun _ => rfl)
      (.of_confined fun s => .modify _ s) fun _ =>
        .executes_bind (.ask .queryWindowsVolume) fun current => ?_
  rcases current with _ | current
  · exact hrest
  · exact .bind (fun _ => inSession_modify (fun _ => rfl) fun _ => rfl)
      (.of_confined fun s => .modify _ s) fun _ => hrest

theorem confines_preparePhysicalMapper :
    Confines env (preparePhysicalMapper env.traced) := by
  refine .read_bind _ fun generation => .ite (.pure _) ?_
  refine .bind (fun _ => beginGeneration_inSession generation)
    (.of_confined (confined_beginGeneration generation)) fun begun => ?_
  rcases begun with e | _
  · exact .pure _
  · refine .bind (fun _ => configureMapper_inSession generation)
      (confines_configureMapper generation) fun _ => ?_
    exact .bind (fun _ => ensureMapperLease_inSession) (.of_confined confined_ensureMapperLease)
      fun _ => .ite (.pure _) (.pure _)

theorem confines_feedDriverEvent (event : NldAvrcpObserverEvent) :
    Confines env (feedDriverEvent env.traced event) := by
  refine .read_bind _ fun generation => ?_
  rcases hevent : mapDriverEvent event generation with _ | observed
  · exact .pure _
  · obtain ⟨hs, he⟩ := mapDriverEvent_kind hevent
    refine .read_bind _ fun options => .executes_bind (executes_feedEvent _ hs he options) fun _ => ?_
    exact .ite (.of_confined confined_ensureMapperLease) (.pure _)

theorem dequeueEvent_inSession (k : UInt64 × UInt64) :
    Triple (InSession k) (ask env.traced.dequeueEvent) (fun _ => InSession k) (Leased k) :=
  .step fun _ h => ⟨⟨h.1.lease, h.1.activation, h.1.counted⟩, h.2⟩

theorem confines_pollEvents (n : Nat) (observed : Bool) :
    Confines env (pollEvents env.traced n observed) := by
  induction n generalizing observed with
  | zero => exact .pure _
  | succ n ih =>
    refine .bind dequeueEvent_inSession (.of_confined fun s => .driver .dequeueEvent s)
      fun answer => ?_
    rcases answer with e | event
    · exact .ite (.pure _) (.pure _)
    · refine .bind (fun _ => feedDriverEvent_inSession event) (confines_feedDriverEvent event)
        fun _ => ?_
      exact .ite (ih _) (.pure _)

theorem confines_queryWindowsVolumeUnnotified :
    Confines env (queryWindowsVolumeUnnotified env.traced) := by
  refine .executes_bind (.ask .getTickCount) fun now =>
    .executes_bind (.ask .windowsVolumeNotificationsActive) fun active =>
      .read_bind _ fun last => .ite ?_ (.pure _)
  refine .bind (fun _ => inSession_modify (fun _ => rfl) fun _ => rfl)
    (.of_confined fun s => .modify _ s) fun _ =>
      .executes_bind (.ask .queryWindowsVolume) fun current => ?_
  rcases current with _ | current
  · exact .pure _
  · exact .read_bind _ fun generation =>
      .executes (executes_mapAndDispatch _ (.observeWindowsVolume generation current) trivial)

theorem confines_pollWindowsVolume : Confines env (pollWindowsVolume env.traced) := by
  refine .executes_bind (.ask .consumeWindowsVolumeChange) fun notified => ?_
  rcases notified with _ | notified
  · exact confines_queryWindowsVolumeUnnotified
  · refine .read_bind _ fun generation => ?_
    exact .executes_bind
      (executes_mapAndDispatch _ (.observeWindowsVolume generation notified) trivial)
      fun _ => confines_queryWindowsVolumeUnnotified

theorem confined_poll (s : TracedStage Ω) (h : Leased k s) :
    Confined env.traced (poll env.traced) s := by
  refine .bind (.read _ s) fun host s' hrun => .ite (fun _ => .pure _ _) fun hlive => ?_
  cases hrun
  rw [not_or, not_not] at hlive
  refine Confines.bind (fun _ => readStatus_inSession) (.of_confined confined_readStatus)
    (fun status => ?_) k s ⟨h, hlive.1⟩
  rcases status with e | status
  · exact .pure _
  refine .bind (fun _ => pollEvents_inSession _ _) (confines_pollEvents _ _) fun polled => ?_
  rcases polled with e | observed
  · exact .pure _
  refine .read_bind _ fun t => .bind (fun _ => ?_) (.ite confines_pollWindowsVolume (.pure _))
    fun _ => .read_bind _ fun ready => .executes_bind ?_ fun _ => .pure _
  · exact .ite (fun _ => pollWindowsVolume_inSession) fun _ => inSession_pure _
  · exact .ite (executes_retryPendingWrites _) (.pure _)

theorem confined_beginMediaSession (options : V1AvrcpReplayOptions) (s : TracedStage Ω)
    (h : Leased k s) :
    Confined env.traced (beginMediaSession env.traced options) s := by
  refine .bind (.modify _ s) fun _ s₁ h₁ => ?_
  cases h₁
  refine .bind (.read _ _) fun starting s₂ h₂ => ?_
  cases h₂
  have habandon : ∀ starting result error, Confines env (abandon starting result error) :=
    fun starting result error => .of_confined (confined_abandon starting result error)
  refine .bind (.ite (fun _ => .modify _ _) fun _ => .pure _ _) fun _ s₃ h₃ => ?_
  have hs₃ := Triple.returns h₃ startSession_inSession ⟨h.congr_host rfl rfl, rfl, rfl⟩
  refine .bind (confined_ensureOpened s₃) fun opened s₄ h₄ => ?_
  have hopened := Triple.returns h₄ ensureOpened_inSession hs₃
  rcases opened with e | _
  · exact confined_abandon _ _ _ _
  refine Confines.bind (fun _ => readStatus_inSession) (.of_confined confined_readStatus)
    (fun status => ?_) _ s₄ ⟨hopened.1, hopened.2 rfl⟩
  rcases status with e | status
  · exact habandon _ _ _
  refine .bind (fun _ => preparePhysicalMapper_inSession) confines_preparePhysicalMapper
    fun prepared => ?_
  rcases prepared with e | _
  · exact habandon _ _ _
  refine .bind (fun _ => activate_inSession status) (.of_confined (confined_activate status))
    fun activated => ?_
  rcases activated with e | _
  · exact habandon _ _ _
  refine .bind (fun _ => ensureMapperLease_inSession) (.of_confined confined_ensureMapperLease)
    fun _ => ?_
  exact .ite (.pure _) (habandon _ _ _)

/-! ## Snapshots between sessions -/

theorem snapshot_authorized {m : V1AvrcpControlMapperState} {snapshot : V1MediaSessionSnapshot}
    (h : (avrcpMapper.out m (.setMediaSessionSnapshot snapshot)).authorizedCurrent) :
    m.ownerLease ≠ 0 := by
  simp only [Reducer.out, avrcpMapper, v1AvrcpSetMediaSessionSnapshot] at h
  split_ifs at h
  · exact (of_decide_eq_true h).2
  · exact (of_decide_eq_true h).2

theorem confined_setMediaSessionSnapshot (snapshot : V1MediaSessionSnapshot) (s : TracedStage Ω)
    (h : Leased k s) :
    Confined env.traced (setMediaSessionSnapshot env.traced snapshot) s := by
  refine .bind (.modify _ s) fun _ s₁ h₁ => ?_
  cases h₁
  refine .bind (.read _ _) fun current s₂ h₂ => .ite (fun _ => ?_) fun _ => .pure _ _
  cases h₂
  by_cases hactive : s.host.mediaSessionActive
  · exact .sink (executes_mapAndDispatch _ (.setMediaSessionSnapshot snapshot) trivial) hactive
  · refine .bind (.mapped _ _ _) fun actions s₃ h₃ => ?_
    cases h₃
    have hunauthorized : ¬ (avrcpMapper.out s.mapper
        (.setMediaSessionSnapshot snapshot)).authorizedCurrent :=
      fun ha => hactive (h.lease.held (snapshot_authorized ha)).1
    show Confined _ (v1AvrcpDispatchAuthorizedActions _ _) _
    rw [dispatch_nothing _ (.inr hunauthorized)]
    exact .pure _ _

/-! ## Runs -/

theorem confined_call (call : Call) (s : TracedStage Ω) (h : Leased k s) :
    Confined env.traced (call.program env.traced) s := by
  cases call with
  | beginMediaSession options =>
    exact .bind (confined_beginMediaSession options s h) fun _ _ _ => .pure _ _
  | poll => exact .bind (confined_poll s h) fun _ _ _ => .pure _ _
  | setMediaSessionSnapshot snapshot => exact confined_setMediaSessionSnapshot snapshot s h
  | endMediaSession => exact confined_endMediaSession s
  | releaseTransport => exact confined_releaseTransport s
  | close => exact confined_close s

def sessionLeases (env : AvrcpObserverEnvironment Ω) (s : AvrcpStage Ω V1AvrcpObserverHost) :
    List Call → List UInt64
  | [] => []
  | call :: calls =>
    let s' := (machine env).next s call
    if s'.host.mediaSessionsStarted ≠ s.host.mediaSessionsStarted then
      s'.host.ownerLease :: sessionLeases env s' calls
    else sessionLeases env s' calls

theorem nextOwnerLease_toNat {lease : UInt64} (h : lease.toNat < UInt64.size - 1) :
    (nextOwnerLease lease).toNat = lease.toNat + 1 := by
  have hne : lease ≠ 0xffffffffffffffff := by
    rintro rfl
    exact absurd h (by decide)
  rw [nextOwnerLease, if_neg hne, UInt64.toNat_add]
  exact Nat.mod_eq_of_lt (by simp [UInt64.size] at h ⊢; omega)

theorem counts_cases (call : Call) (active : Bool) (k : UInt64 × UInt64) :
    call.counts active k = k ∨ call.counts active k = (nextOwnerLease k.1, k.2 + 1) := by
  cases call with
  | beginMediaSession options =>
    cases active with
    | true => exact .inl rfl
    | false => exact .inr rfl
  | _ => exact .inl rfl

theorem sessionLeases_sorted (calls : List Call) {s : TracedStage Ω} (h : Leased k s)
    (hlast : k.1.toNat + (sessionLeases env.traced s calls).length < UInt64.size) :
    (sessionLeases env.traced s calls).Pairwise (· < ·) ∧
      ∀ lease ∈ sessionLeases env.traced s calls, k.1 < lease := by
  induction calls generalizing s k with
  | nil => exact ⟨.nil, by simp [sessionLeases]⟩
  | cons call calls ih =>
    have hnext : Leased _ ((machine env.traced).next s call) := leased_next h call
    have hs := h.counted
    have hcounted := hnext.counted
    rw [sessionLeases] at hlast ⊢
    rcases counts_cases call s.host.mediaSessionActive k with hk | hk
    · rw [hk] at hnext hcounted
      have hsame : ¬ ((machine env.traced).next s call).host.mediaSessionsStarted ≠
          s.host.mediaSessionsStarted :=
        not_not_intro ((congrArg Prod.snd hcounted).trans (congrArg Prod.snd hs).symm)
      rw [if_neg hsame] at hlast ⊢
      exact ih hnext hlast
    · rw [hk] at hnext hcounted
      obtain ⟨hlease, hstarted⟩ := Prod.mk.inj hcounted
      have hmore : ((machine env.traced).next s call).host.mediaSessionsStarted ≠
          s.host.mediaSessionsStarted := by
        rw [hstarted, ← hs]
        simp
      rw [if_pos hmore, List.length_cons] at hlast
      rw [if_pos hmore, hlease]
      have hsucc := nextOwnerLease_toNat (show k.1.toNat < UInt64.size - 1 by omega)
      obtain ⟨hsorted, hafter⟩ := ih hnext (by rw [hsucc]; omega)
      have hfirst : k.1 < nextOwnerLease k.1 := by
        rw [UInt64.lt_iff_toNat_lt, hsucc]
        omega
      refine ⟨hsorted.cons hafter, ?_⟩
      intro lease hmem
      rcases List.mem_cons.mp hmem with rfl | hmem
      · exact hfirst
      · exact UInt64.lt_trans hfirst (hafter lease hmem)

/-- **Lease confinement**: in every run, the mapper holds a lease only in a media
    session, and then that of the session; the sink is called only in a session; no two
    sessions share a lease; the sessions started are the ones ended and the active one;
    and the observation is begun at most once for a generation of the driver. -/
theorem lease_confined (env : AvrcpObserverEnvironment Ω) (writeEnabled : Bool) (world : Ω)
    (calls : List Call) :
    let start := fresh writeEnabled (world, [])
    let s := (machine env.traced).after start calls
    (s.mapper.ownerLease ≠ 0 →
        s.host.mediaSessionActive ∧ s.mapper.ownerLease = s.host.ownerLease) ∧
      (∀ call : Call, Confined env.traced (call.program env.traced) s) ∧
      ((sessionLeases env.traced start calls).length < UInt64.size - 1 →
        (sessionLeases env.traced start calls).Nodup) ∧
      (s.host.mediaSessionsStarted - s.host.mediaSessionsEnded =
        if s.host.mediaSessionActive then 1 else 0) ∧
      BegunOnce s.world.2 := by
  intro start s
  obtain ⟨k, h⟩ := leased_after env writeEnabled world calls
  refine ⟨h.lease.held, fun call => confined_call call s h, ?_, h.lease.sessions,
    h.activation.once⟩
  intro hlength
  have hsorted := (sessionLeases_sorted calls (leased_fresh writeEnabled world) (by
    simp only [UInt64.toNat_zero]
    omega) : (sessionLeases env.traced start calls).Pairwise (· < ·) ∧ _).1
  exact hsorted.imp fun hlt => UInt64.ne_of_lt hlt

end V1AvrcpObserverHost

end NativeLdac.Agent
