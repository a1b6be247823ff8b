/-
  The sessions of the two AVRCP hosts under a reconciliation: what begins one, what
  leaves it active, and in which ways the reconciliation of the filter's host fails.
-/
import NativeLdac.Agent.AvrcpFilterRecovery
import NativeLdac.Agent.AvrcpObserverHost
import NativeLdac.Agent.AvrcpRetryRuns

namespace NativeLdac.Agent

open AvrcpStage Prog

variable {Ω : Type}

theorem quiet_discarded {H ν : Type} {v : AvrcpStage Ω H → ν}
    (hv : ∀ s mapper log, v { s with mapper := mapper, log := log } = v s)
    (op : V1AvrcpMapperOp) : Prog.Quiet v (discarded op) :=
  .bind (.step fun s => hv s _ _) fun _ => .pure _

/-! ## The executor -/

section
variable {H : Type} (env : AvrcpEnvironment Ω)

theorem returns_attempt (write : PendingWrite) :
    Returns (write.attempt env : Prog (AvrcpStage Ω H) Bool) := by
  cases write with
  | windowsVolume volume => exact .step fun _ => rfl
  | xm5Volume volume => exact .step fun _ => rfl
  | playbackStatus status => exact .step fun _ => rfl

theorem returns_handleKeys (actions : V1AvrcpActionSet) (keys : List V1AvrcpAction) :
    Returns (handleKeys env actions keys : Prog (AvrcpStage Ω H) Bool) := by
  induction keys with
  | nil => exact .pure _
  | cons action rest ih =>
    have hrest : ∀ injected : Bool, Returns (do
        let ok ← handleKeys env actions rest
        return injected && ok : Prog (AvrcpStage Ω H) Bool) :=
      fun injected => .bind ih fun _ => .pure _
    refine .bind (.read _) fun apply => .ite (.ite ?_ ?_) ?_
    · exact .bind (.step fun _ => rfl) hrest
    · exact .bind (.pure _) hrest
    · exact .bind (.pure _) hrest

theorem returns_handle (actions : V1AvrcpActionSet) :
    Returns (handle env actions : Prog (AvrcpStage Ω H) Bool) := by
  have hwrite : ∀ action write,
      Returns (handleWrite env actions action write : Prog (AvrcpStage Ω H) Unit) := by
    intro action write
    refine .ite (.bind (.read _) fun sink => .ite ?_ (.pure _)) (.pure _)
    exact .bind (returns_attempt env write) fun _ => .ite (.update fun _ => rfl) (.update fun _ => rfl)
  have hvolume : Returns (handleWindowsVolume env actions : Prog (AvrcpStage Ω H) Bool) := by
    have hkept : ∀ applied : Bool, Returns (do
        if applied then
          drop .windowsVolume
          return true
        else
          keep (.windowsVolume actions.windowsVolume) actions.aclGeneration
          return false : Prog (AvrcpStage Ω H) Bool) :=
      fun applied => .ite (.bind (.update fun _ => rfl) fun _ => .pure _)
        (.bind (.update fun _ => rfl) fun _ => .pure _)
    refine .ite (.bind (.read _) fun apply => .ite ?_ ?_) (.pure _)
    · exact .bind (returns_attempt env _) hkept
    · exact .bind (.pure _) hkept
  exact .bind hvolume fun _ => .bind (returns_handleKeys env actions _) fun _ =>
    .bind (hwrite _ _) fun _ => .bind (hwrite _ _) fun _ => .pure _

theorem dispatchRound_returns (actions : V1AvrcpActionSet) (s : AvrcpStage Ω H) :
    ∃ r s', dispatchRound env actions s = (some r, s') ∧
      ∀ feedback, r = .inl feedback → v1AvrcpHasAction actions .setWindowsVolume ∧
        ¬ v1AvrcpHasAction feedback .setWindowsVolume := by
  have hdone : Triple (fun _ => True) (Pure.pure (.inr ()) :
      Prog (AvrcpStage Ω H) (V1AvrcpActionSet ⊕ Unit))
      (fun r _ => ∀ feedback, r = .inl feedback → v1AvrcpHasAction actions .setWindowsVolume ∧
        ¬ v1AvrcpHasAction feedback .setWindowsVolume) fun _ => False :=
    .pure fun s _ feedback hr => nomatch hr
  have hround : Triple (fun _ => True) (dispatchRound env actions)
      (fun r (_ : AvrcpStage Ω H) => ∀ feedback, r = .inl feedback →
        v1AvrcpHasAction actions .setWindowsVolume ∧
          ¬ v1AvrcpHasAction feedback .setWindowsVolume) fun _ => False := by
    refine .ite (fun _ => hdone) fun _ => ?_
    refine .bind (.quiet (p := fun _ => True) (returns_handle env actions)) fun applied =>
      .ite (fun _ => .ite (fun hset => ?_) fun _ => hdone) fun _ => hdone
    refine .bind (Q := fun _ _ => True) (.step fun _ _ => trivial) fun answer => ?_
    rcases answer with _ | readback
    · exact hdone
    · refine .bind (Q := fun _ _ => True) (.read fun _ _ => trivial) fun generation => ?_
      refine .bind (Q := fun feedback _ => ¬ v1AvrcpHasAction feedback .setWindowsVolume)
        (.step fun s _ => observeWindowsVolume_sets_nothing _ _ _) fun feedback => ?_
      refine .pure fun s hnothing feedback' hr => ?_
      cases hr
      exact ⟨hset, hnothing⟩
  obtain ⟨r, s', hrun, hr⟩ := wp_run (hround s trivial)
  exact ⟨r, s', hrun, hr⟩

theorem returns_dispatch (actions : V1AvrcpActionSet) :
    Returns (v1AvrcpDispatchAuthorizedActions env actions : Prog (AvrcpStage Ω H) Unit) := by
  intro s
  obtain ⟨r, s₁, hfirst, hfeedback⟩ := dispatchRound_returns env actions s
  rcases r with feedback | ⟨⟨⟩⟩
  · obtain ⟨r, s₂, hsecond, hset⟩ := dispatchRound_returns env feedback s₁
    rcases r with again | ⟨⟨⟩⟩
    · exact absurd (hset again rfl).1 (hfeedback feedback rfl).2
    · exact ⟨(), s₂, (bind_run hfirst).trans (bind_run hsecond), rfl⟩
  · exact ⟨(), s₁, bind_run hfirst, rfl⟩

theorem returns_mapAndDispatch (op : V1AvrcpMapperOp) :
    Returns (mapAndDispatch env op : Prog (AvrcpStage Ω H) Unit) :=
  .bind (.step fun _ => rfl) fun actions => returns_dispatch env actions

end

/-! ## The filter -/

namespace V1AvrcpFilterHost

theorem offstage_sessionActive :
    Offstage fun s : AvrcpStage Ω V1AvrcpFilterHost => s.host.sessionActive where
  world _ _ := rfl
  sink _ _ _ := rfl
  mapper _ _ _ _ := rfl

section
variable (env : AvrcpFilterEnvironment Ω)

theorem pollEvents_sessionActive (n : Nat) :
    Frames (fun s => s.host.sessionActive) (pollEvents env n) := by
  induction n with
  | zero => exact .pure _
  | succ n ih =>
    have hdequeue : Frames (fun s : AvrcpStage Ω V1AvrcpFilterHost => s.host.sessionActive)
        (dequeue env) :=
      .bind (.read _) fun _ => .ite (offstage_sessionActive.ask _) (.pure _)
    refine .bind hdequeue fun answer => ?_
    rcases answer with e | event
    · exact .ite (.pure _) (.pure _)
    · refine .bind (.read _) fun generation => ?_
      rcases hobserved : observedEvent generation event with _ | observed
      · exact ih
      · obtain ⟨hs, he⟩ := observedEvent_kind hobserved
        have hgesture : Frames (fun s : AvrcpStage Ω V1AvrcpFilterHost => s.host.sessionActive)
            (observeGesture env event) :=
          .bind (offstage_sessionActive.ask _) fun _ => .update fun _ => rfl
        refine .bind (.onlyIf hgesture) fun _ => .bind (.read _) fun options => ?_
        exact .bind (offstage_sessionActive.feedEvent _ hs he options) fun _ => .ite ih (.pure _)

theorem poll_sessionActive : Frames (fun s => s.host.sessionActive) (poll env) := by
  refine .bind (.read _) fun active => .ite ?_ (.pure _)
  refine .bind (pollEvents_sessionActive env _) fun polled => ?_
  rcases polled with e | _
  · exact .bind (.update fun _ => rfl) fun _ => .pure _
  have harbitrate : Frames (fun s : AvrcpStage Ω V1AvrcpFilterHost => s.host.sessionActive)
      (arbitrate env) := by
    refine .bind (offstage_sessionActive.ask _) fun now => .bind (.read _) fun host => ?_
    refine .bind (.update fun _ => rfl) fun _ => .ite ?_ (.pure _)
    exact .bind (.read _) fun _ => offstage_sessionActive.dispatch _ _
  refine .bind harbitrate fun _ => .bind (offstage_sessionActive.retryPendingWrites _) fun _ => ?_
  refine .bind (offstage_sessionActive.ask _) fun answer => ?_
  rcases answer with _ | notified
  · exact .pure _
  · exact .bind (.read _) fun _ =>
      .bind (offstage_sessionActive.mapAndDispatch _ trivial) fun _ => .pure _

theorem beginSession_active (generation : UInt64) (media : V1MediaSessionSnapshot) :
    Triple (fun _ => True) (beginSession env generation media)
      (fun r s => r = .ok () → s.host.sessionActive) fun _ => True := by
  have hfailed : ∀ e : UInt32, Triple (fun _ => True)
      (Pure.pure (.error e : Except UInt32 Unit) : Program Ω (Except UInt32 Unit))
      (fun r s => r = .ok () → s.host.sessionActive) fun _ => True :=
    fun e => .pure fun s _ hr => by cases hr
  refine .bind .trivial fun s => .ite (fun _ => hfailed _) fun _ => ?_
  refine .bind .trivial fun opened => ?_
  rcases opened with e | _
  · exact hfailed e
  refine .bind .trivial fun prepared => ?_
  rcases prepared with e | _
  · exact hfailed e
  refine .bind .trivial fun begun => ?_
  rcases begun with e | _
  · exact hfailed e
  have hactivate : Triple (fun _ => True)
      (modify fun h => { h with sessionActive := true } : Program Ω Unit)
      (fun _ s => s.host.sessionActive) fun _ => True :=
    .update fun _ _ => rfl
  refine .bind (Q := fun _ s => s.host.sessionActive) ?_ fun _ => .pure fun _ h _ => h
  refine .bind .trivial fun _ => .bind .trivial fun _ => .bind .trivial fun _ => ?_
  refine .bind .trivial fun _ => .bind .trivial fun lease => .bind .trivial fun _ => ?_
  refine .bind .trivial fun answer => ?_
  rcases answer with _ | current
  · exact .bind .trivial fun _ => hactivate
  · exact .bind .trivial fun _ => .bind .trivial fun _ => hactivate

theorem ensureSession_active (r : AvrcpReconciliation) :
    Triple (fun _ => True) (ensureSession env r) (fun r s => r = .ok () → s.host.sessionActive)
      fun _ => True := by
  refine .bind (Q := fun active s => s.host.sessionActive = active) (.read fun _ _ => rfl)
    fun active => .ite (fun _ => ?_) fun hactive => ?_
  · exact (beginSession_active env _ _).pre fun _ _ => trivial
  · rw [not_not] at hactive
    have hsnapshot : Frames (fun s => s.host.sessionActive) (setMediaSessionSnapshot env r.media) := by
      refine .bind (.update fun _ => rfl) fun _ => .bind (.read _) fun _ => .ite ?_ (.pure _)
      exact offstage_sessionActive.mapAndDispatch _ trivial
    refine .bind (Q := fun _ s => s.host.sessionActive) ?_ fun _ => .pure fun _ h _ => h
    exact (Triple.frames (p := fun active => active = true) hsnapshot).conseq
      (fun s h => h.trans hactive) (fun _ _ => id) fun _ _ => trivial

theorem reconcile_polled (r : AvrcpReconciliation) :
    Triple (fun _ => True) (reconcile env r) (fun way s => way = .polled → s.host.sessionActive)
      fun _ => True := by
  have hother : ∀ way : FilterReconciled, way ≠ .polled → Triple (fun _ => True)
      (Pure.pure way : Program Ω FilterReconciled) (fun way s => way = .polled → s.host.sessionActive)
      fun _ => True :=
    fun way hway => .pure fun s _ hr => absurd hr hway
  refine .ite (fun _ => .bind .trivial fun _ => hother _ nofun) fun _ => ?_
  refine .bind (ensureSession_active env r) fun begun => ?_
  rcases begun with e | _
  · exact (hother (.refused e) nofun).pre fun _ _ => trivial
  refine .bind (Q := fun _ s => s.host.sessionActive) ?_ fun polled => ?_
  · exact (Triple.frames (p := fun active => active = true) (poll_sessionActive env)).conseq
      (fun s h => h rfl) (fun _ _ => id) fun _ _ => trivial
  rcases polled with e | _
  · exact .bind .trivial fun _ => hother _ nofun
  · exact .pure fun s h _ => h

theorem returns_endSession : Returns (endSession : Program Ω Unit) := by
  refine .bind (.read _) fun s => .ite ?_ (.update fun _ => rfl)
  exact .bind (quiet_discarded (fun _ _ _ => rfl) _) fun _ => .update fun _ => rfl

/-- The session is to be kept, and it cannot be begun or its poll fails. -/
def Fails (r : AvrcpReconciliation) (s : AvrcpStage Ω V1AvrcpFilterHost) : Prop :=
  (r.avrcpVolumeSyncEnabled ∧ r.lifecycle.physicalPresence = .present ∧
      ¬ r.lifecycle.hfpSuspended) ∧
    ((∃ e, (ensureSession env r s).1 = some (.error e)) ∨
      (ensureSession env r s).1 = some (.ok ()) ∧
        ∃ e, (poll env (ensureSession env r s).2).1 = some (.error e))

theorem reconcile_fails (r : AvrcpReconciliation) (s : AvrcpStage Ω V1AvrcpFilterHost) :
    Fails env r s ↔ ∃ e, (reconcile env r s).1 = some (.refused e) ∨
      (reconcile env r s).1 = some (.pollFailed e) := by
  unfold reconcile Fails
  by_cases hkept : r.avrcpVolumeSyncEnabled ∧ r.lifecycle.physicalPresence = .present ∧
      ¬ r.lifecycle.hfpSuspended
  · rw [if_neg (by tauto)]
    obtain ⟨⟨begun, s₁⟩, hbegin⟩ : ∃ run, ensureSession env r s = run := ⟨_, rfl⟩
    rw [hbegin]
    rcases begun with _ | (e | ⟨⟨⟩⟩)
    · rw [bind_stuck hbegin]
      simp
    · rw [bind_run hbegin]
      exact iff_of_true ⟨hkept, .inl ⟨e, rfl⟩⟩ ⟨e, .inl rfl⟩
    · rw [bind_run hbegin]
      dsimp only
      obtain ⟨⟨polled, s₂⟩, hpoll⟩ : ∃ run, poll env s₁ = run := ⟨_, rfl⟩
      rcases polled with _ | (e | ⟨⟨⟩⟩)
      · rw [bind_stuck hpoll]
        simp [hpoll]
      · obtain ⟨a, s₃, hend, -⟩ := returns_endSession s₂
        rw [bind_run hpoll]
        have hrun : (do endSession; return .pollFailed e : Program Ω FilterReconciled) s₂ =
            (some (.pollFailed e), s₃) :=
          bind_run hend
        exact iff_of_true ⟨hkept, .inr ⟨rfl, e, congrArg Prod.fst hpoll⟩⟩
          ⟨e, .inr (congrArg Prod.fst hrun)⟩
      · rw [bind_run hpoll]
        refine iff_of_false ?_ ?_
        · rintro ⟨-, ⟨e, he⟩ | ⟨-, e, he⟩⟩
          · cases he
          · rw [hpoll] at he
            cases he
        · rintro ⟨e, he | he⟩ <;> cases he
  · rw [if_pos (by tauto)]
    obtain ⟨a, s₁, hend, -⟩ := returns_endSession s
    have hrun : (do endSession; return .disabled : Program Ω FilterReconciled) s =
        (some .disabled, s₁) :=
      bind_run hend
    rw [hrun]
    refine iff_of_false (fun h => hkept h.1) ?_
    rintro ⟨e, he | he⟩ <;> cases he

end

end V1AvrcpFilterHost

/-! ## The observer -/

namespace V1AvrcpObserverHost

theorem offstage_mediaSessionActive :
    Offstage fun s : AvrcpStage Ω V1AvrcpObserverHost => s.host.mediaSessionActive where
  world _ _ := rfl
  sink _ _ _ := rfl
  mapper _ _ _ _ := rfl

theorem discarded_mediaSessionActive (op : V1AvrcpMapperOp) :
    Frames (fun s : AvrcpStage Ω V1AvrcpObserverHost => s.host.mediaSessionActive) (discarded op) :=
  (quiet_discarded (fun _ _ _ => rfl) op).frames

section
variable (env : AvrcpObserverEnvironment Ω)

theorem ensureMapperLease_mediaSessionActive :
    Frames (fun s : AvrcpStage Ω V1AvrcpObserverHost => s.host.mediaSessionActive)
      ensureMapperLease := by
  refine .bind (.read _) fun s => .ite (.pure _) (.ite (.pure _) ?_)
  exact .bind (discarded_mediaSessionActive _) fun _ => .read _

theorem readStatus_mediaSessionActive :
    Frames (fun s => s.host.mediaSessionActive) (readStatus env) := by
  refine .bind (offstage_mediaSessionActive.ask _) fun answer => ?_
  rcases answer with e | status
  · exact .pure _
  · refine .ite (.pure _) (.bind (.update fun s => ?_) fun _ => .pure _)
    simp only [observeStatus]
    split_ifs <;> rfl

theorem preparePhysicalMapper_mediaSessionActive :
    Frames (fun s => s.host.mediaSessionActive) (preparePhysicalMapper env) := by
  have hend : Frames (fun s : AvrcpStage Ω V1AvrcpObserverHost => s.host.mediaSessionActive)
      endMapperGeneration :=
    .bind (.read _) fun _ => .onlyIf (discarded_mediaSessionActive _)
  have hbegin : ∀ generation, Frames
      (fun s : AvrcpStage Ω V1AvrcpObserverHost => s.host.mediaSessionActive)
      (beginGeneration generation) := by
    intro generation
    have hnew : Frames (fun s : AvrcpStage Ω V1AvrcpObserverHost => s.host.mediaSessionActive)
        (beginUnlessCurrent generation) :=
      .bind (.read _) fun _ => .ite (.pure _)
        (.bind (.step fun _ => rfl) fun _ => .ite (.pure _) (.pure _))
    exact .bind (.read _) fun _ => .ite (.bind hend fun _ => hnew) hnew
  have hconfigure : ∀ generation, Frames (fun s => s.host.mediaSessionActive)
      (configureMapper env generation) := by
    intro generation
    have hrest : Frames (fun s : AvrcpStage Ω V1AvrcpObserverHost => s.host.mediaSessionActive)
        (tellOptions env generation) :=
      .bind (.read _) fun _ => .bind (discarded_mediaSessionActive _) fun _ =>
        .bind (discarded_mediaSessionActive _) fun _ =>
          .bind (discarded_mediaSessionActive _) fun _ =>
            offstage_mediaSessionActive.mapAndDispatch _ trivial
    refine .bind (.update fun _ => rfl) fun _ => .bind (.update fun _ => rfl) fun _ =>
      .bind (offstage_mediaSessionActive.ask _) fun answer => ?_
    rcases answer with _ | current
    · exact hrest
    · exact .bind (.update fun _ => rfl) fun _ => hrest
  refine .bind (.read _) fun generation => .ite (.pure _) (.bind (hbegin generation) fun begun => ?_)
  rcases begun with e | _
  · exact .pure _
  · refine .bind (hconfigure generation) fun _ =>
      .bind ensureMapperLease_mediaSessionActive fun _ => .ite (.pure _) (.pure _)

/-- What a step of the activation returns, while the session is active. -/
def StaysActive {β : Type} (r : Except (V1AvrcpObserverActivationResult × UInt32) β)
    (s : AvrcpStage Ω V1AvrcpObserverHost) : Prop :=
  match r with
  | .error (result, _) => result ≠ .active
  | .ok _ => s.host.mediaSessionActive

theorem ensureOpened_staysActive :
    Triple (fun s => s.host.mediaSessionActive) (ensureOpened env) StaysActive fun _ => True := by
  have hclosed : ∀ result e, result ≠ V1AvrcpObserverActivationResult.active →
      Triple (fun s => s.host.mediaSessionActive) (do
        close env
        return .error (result, e) :
          Program Ω (Except (V1AvrcpObserverActivationResult × UInt32) Unit)) StaysActive
        fun _ => True :=
    fun _ _ hresult => .bind .trivial fun _ => .pure fun _ _ => hresult
  have hopen : Frames (fun s => s.host.mediaSessionActive) (openDriver env) := by
    refine .bind (.read _) fun host => .ite (.pure _) ?_
    refine .bind (offstage_mediaSessionActive.ask _) fun answer => ?_
    rcases answer with e | _
    · exact .pure _
    · exact .bind (.update fun _ => rfl) fun _ => .pure _
  refine .bind ((Triple.frames (p := fun active => active = true) hopen).conseq (fun _ => id)
    (fun _ _ => id) fun _ _ => trivial) fun opened => ?_
  rcases opened with e | _
  · exact .ite (fun _ => .pure fun _ _ => nofun) fun _ => .pure fun _ _ => nofun
  refine .bind (Q := fun _ s => s.host.mediaSessionActive) (.step fun _ h => h) fun answer => ?_
  rcases answer with e | version
  · exact hclosed _ _ nofun
  · exact .ite (fun _ => hclosed _ _ nofun) fun _ => .ite (fun _ => hclosed _ _ nofun) fun _ =>
      .pure fun _ h => h

theorem activate_staysActive (status : NldAvrcpObserverStatus) :
    Triple (fun s => s.host.mediaSessionActive) (activate env status) StaysActive
      fun _ => True := by
  refine .bind (Q := fun _ s => s.host.mediaSessionActive) (.read fun _ h => h) fun host =>
    .ite (fun _ => .pure fun _ _ => nofun) fun _ => .ite (fun _ => ?_) fun _ => .ite (fun _ => ?_)
      fun _ => .pure fun _ _ => nofun
  · refine .bind (Q := fun _ s => s.host.mediaSessionActive) (.step fun _ h => h) fun answer => ?_
    rcases answer with e | _
    · exact .bind .trivial fun _ => .pure fun _ _ => nofun
    · exact .bind (Q := fun _ s => s.host.mediaSessionActive) (.update fun _ h => h) fun _ =>
        .pure fun _ h => h
  · exact .bind (Q := fun _ s => s.host.mediaSessionActive) (.update fun _ h => h) fun _ =>
      .pure fun _ h => h

theorem beginMediaSession_active (options : V1AvrcpReplayOptions) :
    Triple (fun _ => True) (beginMediaSession env options)
      (fun r s => r.1 = .active → s.host.mediaSessionActive) fun _ => True := by
  have habandon : ∀ (starting : Bool) (result : V1AvrcpObserverActivationResult) (e : UInt32),
      result ≠ .active → Triple (fun _ => True) (abandon starting result e :
        Program Ω (V1AvrcpObserverActivationResult × UInt32))
        (fun r s => r.1 = .active → s.host.mediaSessionActive) fun _ => True :=
    fun starting result e hresult => .bind .trivial fun _ => .pure fun s _ hr => absurd hr hresult
  have hframes : ∀ {β : Type} {x : Program Ω β},
      Frames (fun s : AvrcpStage Ω V1AvrcpObserverHost => s.host.mediaSessionActive) x →
      Triple (fun s => s.host.mediaSessionActive) x (fun _ s => s.host.mediaSessionActive)
        fun _ => True :=
    fun hx => (Triple.frames (p := fun active => active = true) hx).conseq (fun _ => id)
      (fun _ _ => id) fun _ _ => trivial
  refine .bind .trivial fun _ => .bind (Q := fun starting s => starting = !s.host.mediaSessionActive)
    (.read fun _ _ => rfl) fun starting => ?_
  refine .bind (Q := fun _ s => s.host.mediaSessionActive) ?_ fun _ => ?_
  · refine .ite (fun _ => .update fun _ _ => rfl) fun hstarting => .pure fun s h => ?_
    subst h
    simpa using hstarting
  refine .bind (ensureOpened_staysActive env) fun opened => ?_
  rcases opened with ⟨result, e⟩ | _
  · exact fun s h => habandon starting result e h s trivial
  refine .bind (hframes (readStatus_mediaSessionActive env)) fun status => ?_
  rcases status with e | status
  · exact (habandon starting .failed e nofun).pre fun _ _ => trivial
  refine .bind (hframes (preparePhysicalMapper_mediaSessionActive env)) fun prepared => ?_
  rcases prepared with e | _
  · exact (habandon starting .failed e nofun).pre fun _ _ => trivial
  refine .bind (activate_staysActive env status) fun activated => ?_
  rcases activated with ⟨result, e⟩ | _
  · exact fun s h => habandon starting result e h s trivial
  refine .bind (hframes ensureMapperLease_mediaSessionActive) fun held => .ite (fun _ => ?_)
    fun _ => (habandon starting .failed _ nofun).pre fun _ _ => trivial
  exact .pure fun _ h _ => h

theorem returns_endMediaSession : Returns (endMediaSession : Program Ω Unit) := by
  have hend : Returns (modify fun h => { h with
      mediaSessionActive := false
      mediaSessionsEnded := h.mediaSessionsEnded + 1 } : Program Ω Unit) :=
    .update fun _ => rfl
  refine .bind (.read _) fun s => .ite (.ite ?_ hend) (.pure _)
  exact .bind (quiet_discarded (fun _ _ _ => rfl) _) fun _ => hend

theorem setMediaSessionSnapshot_mediaSessionActive (snapshot : V1MediaSessionSnapshot) :
    Frames (fun s => s.host.mediaSessionActive) (setMediaSessionSnapshot env snapshot) :=
  .bind (.update fun _ => rfl) fun _ => .bind (.read _) fun _ =>
    .ite (offstage_mediaSessionActive.mapAndDispatch _ trivial) (.pure _)

theorem returns_setMediaSessionSnapshot (snapshot : V1MediaSessionSnapshot) :
    Returns (setMediaSessionSnapshot env snapshot) :=
  .bind (.update fun _ => rfl) fun _ => .bind (.read _) fun _ =>
    .ite (returns_mapAndDispatch env.toAvrcpEnvironment _) (.pure _)

theorem returns_releaseTransport : Returns (releaseTransport env) :=
  .bind returns_endMediaSession fun _ => .bind (.step fun _ => rfl) fun _ => .update fun _ => rfl

end

end V1AvrcpObserverHost

end NativeLdac.Agent
