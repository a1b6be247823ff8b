/-
  Retried writes in the runs of the two AVRCP hosts.

  `Guarded` is the invariant of the runs: as long as no operation of the mapper
  has disturbed a pending write, the pending writes are authorized and up to
  date.  An action set that is about to be handled may replace the pending
  headset volume (`Dispatchable`).
-/
import NativeLdac.Agent.AvrcpFilterHost
import NativeLdac.Agent.AvrcpObserverHost
import NativeLdac.Agent.AvrcpRetries

namespace NativeLdac.Agent

open AvrcpStage V1AvrcpControlMapperState Prog

variable {Ω H α : Type} {s : AvrcpStage Ω H} {op : V1AvrcpMapperOp} {actions : V1AvrcpActionSet}

/-! ## The invariant -/

/-- The pending writes are authorized, and so were the retries; if `upToDate`,
    the pending headset volume is the projected one. -/
structure RetrySound (upToDate : Prop) (s : AvrcpStage Ω H) : Prop where
  synced : s.mapper.Synced
  applies : s.sink.apply ∧ s.sink.hasWriter
  held : ∀ slot write, s.sink.pending slot = some write →
    ∃ g lease, lastKept slot s.log = some (write, g, lease) ∧ Held s.mapper slot g lease
  projected : upToDate →
    ∀ volume, s.sink.pendingXm5Volume = some volume → volume = projectedVolume s.mapper
  timely : RetriesTimely s.log

/-- Undisturbed so far, the stage is sound. -/
def Guarded (s : AvrcpStage Ω H) : Prop := Undisturbed s.log → RetrySound True s

/-- Undisturbed so far, the stage is sound for an action set of its mapper. -/
def Dispatchable (actions : V1AvrcpActionSet) (s : AvrcpStage Ω H) : Prop :=
  Undisturbed s.log →
    RetrySound (¬ v1AvrcpHasAction actions .sendXm5Volume) s ∧ Warranted s.mapper actions

/-- The same, once the headset volume of the set is handled. -/
def AvrcpHandled (actions : V1AvrcpActionSet) (s : AvrcpStage Ω H) : Prop :=
  Undisturbed s.log → RetrySound True s ∧ Warranted s.mapper actions

theorem RetrySound.mono {p q : Prop} (h : RetrySound p s) (hpq : q → p) :
    RetrySound q s :=
  ⟨h.synced, h.applies, h.held, fun hq => h.projected (hpq hq), h.timely⟩

theorem AvrcpHandled.guarded (h : AvrcpHandled actions s) :
    Guarded s :=
  fun hu => (h hu).1

/-! ## The mapper -/

theorem sound_mapped {dispatched : Bool} (h : RetrySound True s) (hc : Continues op)
    (hu : Undisturbed (.mapped s.mapper s.sink op dispatched :: s.log)) :
    RetrySound (¬ (dispatched ∧ v1AvrcpHasAction (avrcpMapper.out s.mapper op) .sendXm5Volume))
      (mapped op dispatched s).2 := by
  have hnot := hu _ List.mem_cons_self
  unfold Disturbs at hnot
  rw [not_or, not_exists, not_exists] at hnot
  refine ⟨synced_of_continues h.synced hc, h.applies, ?_, ?_, h.timely⟩
  · intro slot write hpending
    obtain ⟨g, lease, hkept, hheld⟩ := h.held slot write hpending
    refine ⟨g, lease, hkept, held_step h.synced hc hheld ?_⟩
    intro hw
    exact hnot.1 slot ⟨Option.isSome_of_eq_some hpending, hw⟩
  · intro hnotsent volume hpending
    show volume = projectedVolume (avrcpMapper.next s.mapper op)
    rw [projectedVolume_step h.synced hc]
    have hold := h.projected trivial volume hpending
    cases op with
    | observeWindowsVolume g observed =>
      simp only [observedBy]
      by_cases hcur : s.mapper.isCurrentGeneration g
      · rw [if_pos hcur]
        by_contra hne
        exact hnot.2 volume ⟨hpending, hcur, Ne.symm hne, hnotsent⟩
      · rw [if_neg hcur]
        exact hold
    | _ => exact hold

theorem mapped_dispatchable (op : V1AvrcpMapperOp) (hc : Continues op) :
    Triple (Guarded (Ω := Ω) (H := H)) (mapped op true) Dispatchable fun _ => False := by
  refine Triple.step fun s h hu => ?_
  have hs := h hu.tail
  refine ⟨(sound_mapped hs hc hu).mono ?_, warranted_step hs.synced hc⟩
  intro hno hsent
  exact hno hsent.2

theorem keeps_discarded (hc : Continues op) :
    Keeps (Guarded (Ω := Ω) (H := H)) (discarded op) := by
  refine .bind (.step fun s h hu => ?_) fun _ => .pure ()
  exact (sound_mapped (h hu.tail) hc hu).mono fun _ hsent => Bool.false_ne_true hsent.1

theorem mapped_begin (g : UInt64) :
    Triple (fun s : AvrcpStage Ω H => Guarded s ∧ ¬ s.mapper.aclGenerationCurrent)
      (mapped (.beginAclGeneration g) false) (fun _ => Guarded) fun _ => False := by
  refine Triple.step fun s h hu => ?_
  obtain ⟨hguarded, hcur⟩ := h
  have hs := hguarded hu.tail
  have hnone : ∀ slot write, s.sink.pending slot ≠ some write := by
    intro slot write hpending
    obtain ⟨g', lease, -, hheld⟩ := hs.held slot write hpending
    exact hcur (isCurrentGeneration_iff.mp hheld.current).2.1
  refine ⟨synced_step hs.synced ?_, hs.applies, ?_, ?_, hs.timely⟩
  · intro hr
    exact hcur (isCurrentGeneration_iff.mp hr.1).2.1
  · intro slot write hpending
    exact absurd hpending (hnone slot write)
  · intro _ volume hpending
    have : s.sink.pending .xm5Volume = some (.xm5Volume volume) := by
      rw [V1AvrcpWindowsSink.pending, show s.sink.pendingXm5Volume = some volume from hpending]
      rfl
    exact absurd this (hnone _ _)

/-! ## The sink -/

theorem keeps_ask {I : AvrcpStage Ω H → Prop} (call : Ω → α × Ω)
    (h : ∀ s world, I s → I { s with world := world }) : Keeps I (ask call) :=
  .step fun s hs => h s _ hs

theorem guarded_world (s : AvrcpStage Ω H) (world : Ω) (h : Guarded s) :
    Guarded { s with world := world } :=
  fun hu => ⟨(h hu).synced, (h hu).applies, (h hu).held, (h hu).projected, (h hu).timely⟩

theorem dispatchable_world (s : AvrcpStage Ω H) (world : Ω) (h : Dispatchable actions s) :
    Dispatchable actions { s with world := world } := by
  intro hu
  obtain ⟨hs, hw⟩ := h hu
  exact ⟨⟨hs.synced, hs.applies, hs.held, hs.projected, hs.timely⟩, hw⟩

theorem retrySound_keep {p q : Prop} (h : RetrySound p s) {write : PendingWrite} {g : UInt64}
    (hheld : Held s.mapper write.slot g s.mapper.ownerLease)
    (hq : q → p ∨ write.slot = .xm5Volume)
    (hx : ∀ volume, write = .xm5Volume volume → volume = projectedVolume s.mapper) :
    RetrySound q (keep write g s).2 := by
  refine ⟨h.synced, ?_, ?_, ?_, h.timely⟩
  · cases write <;> exact h.applies
  · intro slot write' hpending
    have hkept : (s.sink.keep write).pending slot = some write' := hpending
    rw [V1AvrcpWindowsSink.pending_keep] at hkept
    show ∃ g' lease, (if write.slot = slot then some (write, g, s.mapper.ownerLease)
      else lastKept slot s.log) = some (write', g', lease) ∧ _
    split_ifs at hkept with hslot
    · cases hkept
      subst hslot
      rw [if_pos rfl]
      exact ⟨g, _, rfl, hheld⟩
    · rw [if_neg (Ne.symm hslot)]
      exact h.held slot write' hkept
  · intro hold volume hpending
    cases write with
    | xm5Volume volume' =>
      cases hpending
      exact hx _ rfl
    | windowsVolume volume' =>
      rcases hq hold with hp | hslot
      · exact h.projected hp volume hpending
      · cases hslot
    | playbackStatus status =>
      rcases hq hold with hp | hslot
      · exact h.projected hp volume hpending
      · cases hslot

theorem retrySound_drop {p q : Prop} (h : RetrySound p s) (slot : PendingSlot)
    (hq : q → p ∨ slot = .xm5Volume) : RetrySound q (drop slot s).2 := by
  refine ⟨h.synced, ?_, ?_, ?_, h.timely⟩
  · cases slot <;> exact h.applies
  · intro slot' write hpending
    have hdropped : (s.sink.drop slot).pending slot' = some write := hpending
    rw [V1AvrcpWindowsSink.pending_drop] at hdropped
    split_ifs at hdropped
    exact h.held slot' write hdropped
  · intro hold volume hpending
    cases slot with
    | xm5Volume => cases hpending
    | windowsVolume =>
      rcases hq hold with hp | hslot
      · exact h.projected hp volume hpending
      · cases hslot
    | playbackStatus =>
      rcases hq hold with hp | hslot
      · exact h.projected hp volume hpending
      · cases hslot

theorem held_of_warranted {m : V1AvrcpControlMapperState} (hs : m.Synced)
    (hw : Warranted m actions) (ha : actions.authorizedCurrent) {slot : PendingSlot}
    (henabled : slot.enabled m) :
    Held m slot actions.aclGeneration m.ownerLease := by
  obtain ⟨hg, hcur, hlease⟩ := hw.authorized ha
  refine ⟨?_, ⟨hlease, rfl⟩, henabled⟩
  rw [hg]
  exact isCurrentGeneration_iff.mpr ⟨hs.nonzero hcur, hcur, rfl⟩

/-! ### Handling an action set -/

variable (env : AvrcpEnvironment Ω) {actions : V1AvrcpActionSet}

theorem keeps_attempt {I : AvrcpStage Ω H → Prop}
    (h : ∀ s world, I s → I { s with world := world }) (write : PendingWrite) :
    Keeps I (write.attempt env) := by
  cases write <;> exact keeps_ask _ h

theorem keeps_handleWindowsVolume (ha : actions.authorizedCurrent) :
    Keeps (Dispatchable (Ω := Ω) (H := H) actions) (handleWindowsVolume env actions) := by
  unfold handleWindowsVolume
  by_cases hset : v1AvrcpHasAction actions .setWindowsVolume
  · rw [if_pos hset]
    refine .bind (.read _) fun apply => ?_
    have hkept : Keeps (Dispatchable (Ω := Ω) (H := H) actions)
        (keep (.windowsVolume actions.windowsVolume) actions.aclGeneration) := by
      refine .update fun s h hu => ?_
      obtain ⟨hs, hw⟩ := h hu.tail
      refine ⟨retrySound_keep hs ?_ (fun hx => .inl hx) (by rintro _ ⟨⟩), hw⟩
      exact held_of_warranted hs.synced hw ha (hw.volume (.inl hset))
    have hdropped : Keeps (Dispatchable (Ω := Ω) (H := H) actions) (drop .windowsVolume) := by
      refine .update fun s h hu => ?_
      obtain ⟨hs, hw⟩ := h hu
      exact ⟨retrySound_drop hs _ fun hx => .inl hx, hw⟩
    have hrest : ∀ applied : Bool, Keeps (Dispatchable (Ω := Ω) (H := H) actions)
        (if applied then do
          drop .windowsVolume
          return true
        else do
          keep (.windowsVolume actions.windowsVolume) actions.aclGeneration
          return false) := by
      intro applied
      exact .ite (.bind hdropped fun _ => .pure _) (.bind hkept fun _ => .pure _)
    exact .ite (.bind (keeps_attempt env dispatchable_world _) hrest) (.bind (.pure _) hrest)
  · rw [if_neg hset]
    exact .pure _

theorem keeps_handleKeys (keys : List V1AvrcpAction) :
    Keeps (Dispatchable (Ω := Ω) (H := H) actions) (handleKeys env actions keys) := by
  induction keys with
  | nil => exact .pure _
  | cons action rest ih =>
    refine .bind (.read _) fun apply => ?_
    have hrest : ∀ injected : Bool, Keeps (Dispatchable (Ω := Ω) (H := H) actions) (do
        let ok ← handleKeys env actions rest
        return injected && ok) :=
      fun _ => .bind ih fun _ => .pure _
    exact .ite (.ite (.bind (keeps_ask _ dispatchable_world) hrest) (.bind (.pure _) hrest))
      (.bind (.pure _) hrest)

theorem handled_world (s : AvrcpStage Ω H) (world : Ω) (h : AvrcpHandled actions s) :
    AvrcpHandled actions { s with world := world } := by
  intro hu
  obtain ⟨hs, hw⟩ := h hu
  exact ⟨⟨hs.synced, hs.applies, hs.held, hs.projected, hs.timely⟩, hw⟩

theorem handleWrite_xm5Volume (ha : actions.authorizedCurrent) :
    Triple (Dispatchable (Ω := Ω) (H := H) actions)
      (handleWrite env actions .sendXm5Volume (.xm5Volume actions.xm5AbsoluteVolume))
      (fun _ => AvrcpHandled actions) fun _ => False := by
  unfold handleWrite
  by_cases hsend : v1AvrcpHasAction actions .sendXm5Volume
  · rw [if_pos hsend]
    refine .bind (Q := fun sink s => Dispatchable actions s ∧ sink = s.sink)
      (.read fun s h => ⟨h, rfl⟩) fun sink => ?_
    refine .ite (fun _ => ?_) fun hoff => ?_
    · refine .bind (Q := fun _ => Dispatchable actions) ?_ fun written => ?_
      · exact (keeps_attempt env dispatchable_world _).pre fun s h => h.1
      · refine .ite (fun _ => .update fun s h hu => ?_) fun _ => .update fun s h hu => ?_
        · obtain ⟨hs, hw⟩ := h hu
          exact ⟨retrySound_drop hs _ fun _ => .inr rfl, hw⟩
        · obtain ⟨hs, hw⟩ := h hu.tail
          have hsends := hw.sends hsend
          refine ⟨retrySound_keep hs ?_ (fun _ => .inr rfl) ?_, hw⟩
          · exact held_of_warranted hs.synced hw ha (hw.volume (.inr hsend))
          · intro volume heq
            cases heq
            exact hsends.2
    · -- a sink that applies has a writer
      refine .pure fun s h hu => ?_
      exact absurd (h.2 ▸ (h.1 hu).1.applies) hoff
  · rw [if_neg hsend]
    exact .pure fun s h hu => ⟨(h hu).1.mono fun _ => hsend, (h hu).2⟩

theorem keeps_handleWrite_playbackStatus (ha : actions.authorizedCurrent) (status : UInt8) :
    Keeps (AvrcpHandled (Ω := Ω) (H := H) actions)
      (handleWrite env actions .notifyPlaybackStatus (.playbackStatus status)) := by
  unfold handleWrite
  by_cases hnotify : v1AvrcpHasAction actions .notifyPlaybackStatus
  · rw [if_pos hnotify]
    refine .bind (.read _) fun sink => .ite ?_ (.pure _)
    refine .bind (keeps_attempt env handled_world _) fun written => ?_
    refine .ite (.update fun s h hu => ?_) (.update fun s h hu => ?_)
    · obtain ⟨hs, hw⟩ := h hu
      exact ⟨retrySound_drop hs _ fun _ => .inl trivial, hw⟩
    · obtain ⟨hs, hw⟩ := h hu.tail
      refine ⟨retrySound_keep hs ?_ (fun _ => .inl trivial) (by rintro _ ⟨⟩), hw⟩
      exact held_of_warranted hs.synced hw ha (hw.status hnotify)
  · rw [if_neg hnotify]
    exact .pure _

theorem handle_handled (ha : actions.authorizedCurrent) :
    Triple (Dispatchable (Ω := Ω) (H := H) actions) (handle env actions)
      (fun _ => AvrcpHandled actions) fun _ => False :=
  .bind (keeps_handleWindowsVolume env ha) fun _ =>
    .bind (keeps_handleKeys env keyActions) fun _ =>
      .bind (handleWrite_xm5Volume env ha) fun _ =>
        .bind (keeps_handleWrite_playbackStatus env ha _) fun _ => .pure fun _ h => h

/-! ### Retrying -/

theorem keeps_retrySlot (slot : PendingSlot) :
    Keeps (Guarded (Ω := Ω) (H := H)) (retrySlot env slot) := by
  unfold retrySlot
  refine Triple.bind (Q := fun pending s => Guarded s ∧ s.sink.pending slot = pending)
    (.read fun s h => ⟨h, rfl⟩) fun pending => ?_
  cases pending with
  | none => exact .pure fun s h => h.1
  | some write =>
    refine .bind (Q := fun _ => Guarded) (.update fun s h hu => ?_) fun _ => ?_
    · obtain ⟨hguarded, hpending⟩ := h
      have hs := hguarded hu.tail
      obtain rfl := V1AvrcpWindowsSink.slot_of_pending hpending
      refine ⟨hs.synced, hs.applies, hs.held, hs.projected, ⟨hs.held _ _ hpending, ?_⟩, hs.timely⟩
      rintro volume rfl
      refine hs.projected trivial volume ?_
      simpa [V1AvrcpWindowsSink.pending, PendingWrite.slot] using hpending
    · refine Keeps.bind (keeps_attempt env guarded_world write) fun written => ?_
      refine .ite (.update fun s h hu => ?_) (.pure _)
      exact retrySound_drop (h hu) slot fun _ => .inl trivial

theorem keeps_retryPendingWrites :
    Keeps (Guarded (Ω := Ω) (H := H)) (retryPendingWrites env) := by
  have hwriter : ∀ sink : V1AvrcpWindowsSink, Keeps (Guarded (Ω := Ω) (H := H))
      (if sink.hasWriter then do
        retrySlot env .xm5Volume
        retrySlot env .playbackStatus
      else pure ()) :=
    fun sink => .ite (.bind (keeps_retrySlot env _) fun _ => keeps_retrySlot env _) (.pure _)
  refine .bind (.read _) fun sink => .ite ?_ (.pure _)
  refine .ite ?_ (hwriter sink)
  refine .bind (keeps_ask _ guarded_world) fun bound => .ite ?_ (hwriter sink)
  exact .bind (keeps_retrySlot env _) fun _ => hwriter sink

/-! ### Dispatching -/

theorem observeWindowsVolume_sets_nothing (m : V1AvrcpControlMapperState) (g : UInt64)
    (observed : AvrcpWindowsVolume) :
    ¬ v1AvrcpHasAction (avrcpMapper.out m (.observeWindowsVolume g observed))
      .setWindowsVolume := by
  have hgate : ¬ hasAvrcpAbsoluteVolumeAction
      (observeWindowsEndpointVolumeThroughGate m.absoluteVolume g observed).1.volume
      .setWindowsEndpoint := by
    unfold observeWindowsEndpointVolumeThroughGate
    dsimp only
    split_ifs
    · exact fun h => observeWindows_sets_nothing (authorize_sends h).2
    · exact activate_sets_nothing
    · exact not_hasVolumeAction_none _
    · exact not_hasVolumeAction_none _
  have hmerged : ¬ v1AvrcpHasAction (mergeVolumeActions (snapshot { m with absoluteVolume :=
      (observeWindowsEndpointVolumeThroughGate m.absoluteVolume g observed).2 })
      (observeWindowsEndpointVolumeThroughGate m.absoluteVolume g observed).1)
      .setWindowsVolume := by
    rw [mergeVolumeActions_has]
    simp [hgate]
  simp only [Reducer.out, avrcpMapper, v1AvrcpObserveWindowsVolume]
  split_ifs
  · unfold filterHeadsetPreferredPush
    split_ifs
    · exact hmerged
    · intro h
      refine hmerged ?_
      simp only [v1AvrcpHasAction, decide_eq_true_eq] at h ⊢
      exact List.mem_of_mem_erase h
  · exact not_hasAction_none _

theorem dispatchRound_guarded (actions : V1AvrcpActionSet) :
    Triple (Dispatchable (Ω := Ω) (H := H) actions) (dispatchRound env actions)
      (fun r s => match r with
        | .inl feedback => (v1AvrcpHasAction actions .setWindowsVolume ∧
          ¬ v1AvrcpHasAction feedback .setWindowsVolume) ∧ Dispatchable feedback s
        | .inr () => Guarded s) fun _ => False := by
  unfold dispatchRound
  refine .ite (fun hidle => .pure fun s h hu => ?_) fun hready => ?_
  · obtain ⟨hs, hw⟩ := h hu
    refine hs.mono fun _ hsend => ?_
    rcases hidle with hnone | hunauthorized
    · unfold v1AvrcpHasAction at hsend
      rw [hnone] at hsend
      simp at hsend
    · exact hunauthorized (hw.sends hsend).1
  · rw [not_or, not_not] at hready
    refine .bind (handle_handled env hready.2) fun accepted => ?_
    refine .ite (fun _ => ?_) fun _ => .pure fun s h => h.guarded
    refine .ite (fun hset => ?_) fun _ => .pure fun s h => h.guarded
    refine .bind (Q := fun _ => Guarded) ((keeps_ask _ guarded_world).pre fun s h => h.guarded)
      fun readback => ?_
    cases readback with
    | none => exact .pure fun s h => h
    | some readback =>
      refine .bind (Keeps.read _) fun generation => ?_
      refine .bind (Q := fun feedback s => ¬ v1AvrcpHasAction feedback .setWindowsVolume ∧
        Dispatchable feedback s) ?_ fun feedback => .pure fun s h => ⟨⟨hset, h.1⟩, h.2⟩
      intro s h
      exact ⟨observeWindowsVolume_sets_nothing _ _ _,
        mapped_dispatchable (.observeWindowsVolume generation readback) trivial s h⟩

theorem dispatch_guarded (actions : V1AvrcpActionSet) :
    Triple (Dispatchable (Ω := Ω) (H := H) actions) (v1AvrcpDispatchAuthorizedActions env actions)
      (fun _ => Guarded) fun _ => False := by
  refine .bind (dispatchRound_guarded env actions) fun r => ?_
  cases r with
  | inr _ => exact .pure fun s h => h
  | inl feedback =>
    -- the feedback sets no Windows volume, so its own round is the last one
    by_cases hset : v1AvrcpHasAction feedback .setWindowsVolume
    · intro s h
      exact absurd hset h.1.2
    · refine .bind (Q := fun r s => r = .inr () ∧ Guarded s) ?_ fun r => ?_
      · refine (dispatchRound_guarded env feedback).conseq (fun s h => h.2) ?_ fun _ => id
        rintro (_ | _) s h
        · exact absurd h.1.1 hset
        · exact ⟨rfl, h⟩
      · cases r with
        | inl _ => exact fun s h => nomatch h.1
        | inr _ => exact .pure fun s h => h.2

theorem keeps_mapAndDispatch (hc : Continues op) :
    Keeps (Guarded (Ω := Ω) (H := H)) (mapAndDispatch env op) :=
  Triple.bind (mapped_dispatchable op hc) fun actions => dispatch_guarded env actions

/-! ### Feeding events -/

theorem keeps_switches {f : AvrcpStage Ω H → V1AvrcpControlMapperState}
    (h : ∀ s, ∃ preferred seen,
      f s = { s.mapper with headsetPreferred := preferred, xm5VolumeSeen := seen }) :
    Keeps (Guarded (Ω := Ω) (H := H)) (update fun s => { s with mapper := f s }) := by
  refine .update fun s hs hu => ?_
  obtain ⟨preferred, seen, heq⟩ := h s
  obtain ⟨hsynced, happlies, hheld, hprojected, htimely⟩ := hs hu
  rw [heq]
  refine ⟨⟨hsynced.1, hsynced.2, hsynced.3⟩, happlies, ?_, hprojected, htimely⟩
  intro slot write hpending
  obtain ⟨g, lease, hkept, hauth⟩ := hheld slot write hpending
  exact ⟨g, lease, hkept, hauth.congr rfl rfl⟩

theorem keeps_feedGenerationStarted (generation : UInt64) (options : V1AvrcpReplayOptions) :
    Keeps (Guarded (Ω := Ω) (H := H)) (feedGenerationStarted env generation options) := by
  unfold feedGenerationStarted
  refine Triple.bind (Q := fun current s => Guarded s ∧ s.mapper.aclGenerationCurrent = current)
    (.read fun s h => ⟨h, rfl⟩) fun current => ?_
  refine .ite (fun _ => .pure fun s h => h.1) fun hcur => ?_
  refine .bind ((mapped_begin generation).pre fun s h => ⟨h.1, by rw [h.2]; exact hcur⟩)
    fun actions => ?_
  refine Keeps.ite (.pure _) ?_
  refine .bind (keeps_discarded trivial) fun _ => .bind (keeps_discarded trivial) fun _ => ?_
  refine .bind (keeps_switches fun s => ⟨_, _, rfl⟩) fun _ => ?_
  refine .bind (keeps_discarded trivial) fun _ => ?_
  exact .bind (keeps_mapAndDispatch env trivial) fun _ => .pure _

theorem continues_of_event {event : V1AvrcpObservedEvent} (h : event.op = some op) :
    Continues op := by
  unfold V1AvrcpObservedEvent.op at h
  cases hkind : event.kind <;> rw [hkind] at h <;> cases h <;> trivial

theorem keeps_feedEvent (event : V1AvrcpObservedEvent) (options : V1AvrcpReplayOptions) :
    Keeps (Guarded (Ω := Ω) (H := H)) (v1AvrcpFeedEvent env event options) := by
  unfold v1AvrcpFeedEvent
  refine .bind (.read _) fun mapper => ?_
  refine .ite (.pure _) (.ite (keeps_feedGenerationStarted env _ _) (.ite ?_ ?_))
  · exact .ite (.pure _) (.bind (keeps_discarded trivial) fun _ => .pure _)
  · refine .ite (.pure _) ?_
    cases hop : event.op with
    | none => exact .pure _
    | some op =>
      exact .bind (keeps_mapAndDispatch env (continues_of_event hop)) fun _ => .pure _

theorem guarded_host {H : Type} (s : AvrcpStage Ω H) (host : H) (h : Guarded s) :
    Guarded { s with host := host } :=
  fun hu => ⟨(h hu).synced, (h hu).applies, (h hu).held, (h hu).projected, (h hu).timely⟩

theorem keeps_beginUnlessCurrent (generation : UInt64) (error : UInt32) :
    Keeps (Guarded (Ω := Ω) (H := H)) (do
      if ← Prog.read (·.mapper.aclGenerationCurrent) then
        return (.ok () : Except UInt32 Unit)
      else
        let begun ← mapped (.beginAclGeneration generation) false
        if begun.aclGeneration ≠ generation then
          return .error error
        else
          return .ok ()) := by
  refine Triple.bind (Q := fun current s => Guarded s ∧ s.mapper.aclGenerationCurrent = current)
    (.read fun s h => ⟨h, rfl⟩) fun current => ?_
  refine .ite (fun _ => .pure fun s h => h.1) fun hcur => ?_
  refine .bind ((mapped_begin generation).pre fun s h => ⟨h.1, by rw [h.2]; exact hcur⟩)
    fun begun => ?_
  exact Keeps.ite (.pure _) (.pure _)

/-! ## The filter's host -/

namespace V1AvrcpFilterHost

variable (env : AvrcpFilterEnvironment Ω)

theorem keeps_modify (f : V1AvrcpFilterHost → V1AvrcpFilterHost) :
    Keeps (Guarded (Ω := Ω)) (modify f) :=
  .update fun s h => guarded_host s _ h

theorem keeps_open : Keeps Guarded (open_ env) := by
  refine .bind (keeps_modify _) fun _ => .bind (keeps_ask _ guarded_world) fun answer => ?_
  cases answer with
  | ok _ => exact .bind (keeps_modify _) fun _ => .pure _
  | error e => exact .pure _

theorem keeps_dequeue : Keeps Guarded (dequeue env) :=
  .bind (.read _) fun _ => .ite (keeps_ask _ guarded_world) (.pure _)

theorem keeps_drain (n : Nat) : Keeps Guarded (drain env n) := by
  induction n with
  | zero => exact .pure _
  | succ n ih =>
    refine .bind (keeps_dequeue env) fun answer => ?_
    cases answer with
    | ok _ => exact ih
    | error e => exact .ite (.pure _) (.pure _)

theorem keeps_prepareGeneration (generation : UInt64) :
    Keeps Guarded (prepareGeneration env generation) :=
  .bind (.read _) fun _ =>
    .ite (.bind (keeps_modify _) fun _ => keeps_drain env _) (.pure _)

theorem keeps_beginGeneration (generation : UInt64) :
    Keeps (Guarded (Ω := Ω)) (beginGeneration generation) := by
  refine .bind (.read _) fun mapper => .ite ?_ (keeps_beginUnlessCurrent _ _)
  exact .bind (keeps_discarded trivial) fun _ => keeps_beginUnlessCurrent _ _

theorem keeps_startSession (generation : UInt64) (media : V1MediaSessionSnapshot) :
    Keeps Guarded (startSession env generation media) := by
  have hrest : Keeps Guarded (do
      mapAndDispatch env.toAvrcpEnvironment (.setMediaSessionSnapshot media)
      modify (Ω := Ω) fun h => { h with sessionActive := true }) :=
    .bind (keeps_mapAndDispatch _ trivial) fun _ => keeps_modify _
  refine .bind (keeps_modify _) fun _ => .bind (keeps_switches fun s => ⟨_, _, rfl⟩) fun _ => ?_
  refine .bind (keeps_modify _) fun _ => .bind (keeps_discarded trivial) fun _ => ?_
  refine .bind (.read _) fun lease => .bind (keeps_discarded trivial) fun _ => ?_
  refine .bind (keeps_ask _ guarded_world) fun current => ?_
  cases current with
  | none => exact hrest
  | some current => exact .bind (keeps_discarded trivial) fun _ => hrest

theorem keeps_beginSession (generation : UInt64) (media : V1MediaSessionSnapshot) :
    Keeps Guarded (beginSession env generation media) := by
  refine .bind (.read _) fun s => .ite (.pure _) ?_
  refine .bind (.bind (.read _) fun _ => .ite (.pure _) (keeps_open env)) fun opened => ?_
  cases opened with
  | error e => exact .pure _
  | ok _ =>
    refine .bind (keeps_prepareGeneration env generation) fun prepared => ?_
    cases prepared with
    | error e => exact .pure _
    | ok _ =>
      refine .bind (keeps_beginGeneration generation) fun begun => ?_
      cases begun with
      | error e => exact .pure _
      | ok _ => exact .bind (keeps_startSession env generation media) fun _ => .pure _

theorem keeps_pollEvents (n : Nat) : Keeps Guarded (pollEvents env n) := by
  induction n with
  | zero => exact .pure _
  | succ n ih =>
    refine .bind (keeps_dequeue env) fun answer => ?_
    cases answer with
    | error e => exact .ite (.pure _) (.pure _)
    | ok event =>
      refine .bind (.read _) fun generation => ?_
      cases hobserved : observedEvent generation event with
      | none => exact ih
      | some observed =>
        refine .bind (.onlyIf ?_) fun _ => .bind (.read _) fun options => ?_
        · exact .bind (keeps_ask _ guarded_world) fun now => keeps_modify _
        · exact .bind (keeps_feedEvent _ observed options) fun fed => .ite ih (.pure _)

theorem warranted_fallback (m : V1AvrcpControlMapperState) : Warranted m (fallback m) := by
  have hhas : ∀ x : V1AvrcpAction, v1AvrcpHasAction (fallback m) x → x = .mediaPlay := by
    intro x hx
    simpa [v1AvrcpHasAction, fallback] using hx
  refine Idle.warranted ⟨rfl, rfl, ?_, ?_, ?_⟩
  · exact fun h => absurd (hhas _ h) (by decide)
  · exact fun h => absurd (hhas _ h) (by decide)
  · exact fun h => absurd (hhas _ h) (by decide)

theorem keeps_arbitrate : Keeps Guarded (arbitrate env) := by
  refine .bind (keeps_ask _ guarded_world) fun now => .bind (.read _) fun host => ?_
  refine .bind (keeps_modify _) fun _ => .ite ?_ (.pure _)
  refine Triple.bind (Q := fun mapper s => Guarded s ∧ s.mapper = mapper)
    (.read fun s h => ⟨h, rfl⟩) fun mapper => ?_
  refine (dispatch_guarded env.toAvrcpEnvironment (fallback mapper)).pre ?_
  rintro s ⟨h, rfl⟩ hu
  exact ⟨(h hu).mono fun _ => trivial, warranted_fallback s.mapper⟩

theorem keeps_poll : Keeps Guarded (poll env) := by
  refine .bind (.read _) fun active => .ite ?_ (.pure _)
  refine .bind (keeps_pollEvents env _) fun polled => ?_
  cases polled with
  | error e => exact .bind (keeps_modify _) fun _ => .pure _
  | ok _ =>
    refine .bind (keeps_arbitrate env) fun _ => .bind (keeps_retryPendingWrites _) fun _ => ?_
    refine .bind (keeps_ask _ guarded_world) fun notified => ?_
    cases notified with
    | none => exact .pure _
    | some notified =>
      exact .bind (.read _) fun generation =>
        .bind (keeps_mapAndDispatch _ trivial) fun _ => .pure _

theorem keeps_endSession : Keeps (Guarded (Ω := Ω)) endSession := by
  refine .bind (.read _) fun s => .ite ?_ (keeps_modify _)
  exact .bind (keeps_discarded trivial) fun _ => keeps_modify _

theorem keeps_call (call : Call) : Keeps Guarded (call.program env) := by
  cases call with
  | openFilter => exact .bind (keeps_open env) fun _ => .pure _
  | close => exact keeps_modify fun h => { h with isOpen := false }
  | beginSession generation media =>
    exact .bind (keeps_beginSession env generation media) fun _ => .pure _
  | poll => exact .bind (keeps_poll env) fun _ => .pure _
  | setMediaSessionSnapshot media =>
    exact .bind (keeps_modify _) fun _ => .bind (.read _) fun active =>
      .ite (keeps_mapAndDispatch _ trivial) (.pure _)
  | endSession => exact keeps_endSession

end V1AvrcpFilterHost

/-! ## The observer's host -/

namespace V1AvrcpObserverHost

variable (env : AvrcpObserverEnvironment Ω)

theorem keeps_modify (f : V1AvrcpObserverHost → V1AvrcpObserverHost) :
    Keeps (Guarded (Ω := Ω)) (modify f) :=
  .update fun s h => guarded_host s _ h

theorem keeps_endMediaSession : Keeps (Guarded (Ω := Ω)) endMediaSession := by
  refine .bind (.read _) fun s => .ite ?_ (.pure _)
  exact .ite (.bind (keeps_discarded trivial) fun _ => keeps_modify _) (keeps_modify _)

theorem keeps_releaseTransport : Keeps Guarded (releaseTransport env) :=
  .bind keeps_endMediaSession fun _ =>
    .bind (keeps_ask _ guarded_world) fun _ => keeps_modify _

theorem keeps_endMapperGeneration : Keeps (Guarded (Ω := Ω)) endMapperGeneration :=
  .bind (.read _) fun _ => .ite (keeps_discarded trivial) (.pure _)

theorem keeps_close : Keeps Guarded (close env) :=
  .bind (keeps_releaseTransport env) fun _ => keeps_endMapperGeneration

theorem keeps_openDriver : Keeps Guarded (openDriver env) := by
  refine .bind (.read _) fun host => .ite (.pure _) ?_
  refine .bind (keeps_ask _ guarded_world) fun answer => ?_
  cases answer with
  | ok _ => exact .bind (keeps_modify _) fun _ => .pure _
  | error e => exact .pure _

theorem keeps_ensureOpened : Keeps Guarded (ensureOpened env) := by
  refine .bind (keeps_openDriver env) fun opened => ?_
  cases opened with
  | error e => exact .ite (.pure _) (.pure _)
  | ok _ =>
    refine .bind (keeps_ask _ guarded_world) fun answer => ?_
    have hclosed : ∀ result : Except (V1AvrcpObserverActivationResult × UInt32) Unit,
        Keeps Guarded (do
          close env
          return result) :=
      fun _ => .bind (keeps_close env) fun _ => .pure _
    cases answer with
    | error e => exact hclosed _
    | ok version => exact .ite (hclosed _) (.ite (hclosed _) (.pure _))

theorem keeps_readStatus : Keeps Guarded (readStatus env) := by
  refine .bind (keeps_ask _ guarded_world) fun answer => ?_
  cases answer with
  | error e => exact .pure _
  | ok status => exact .ite (.pure _) (.bind (keeps_modify _) fun _ => .pure _)

theorem keeps_ensureMapperLease : Keeps (Guarded (Ω := Ω)) ensureMapperLease := by
  refine .bind (.read _) fun s => .ite (.pure _) (.ite (.pure _) ?_)
  exact .bind (keeps_discarded trivial) fun _ => .read _

theorem keeps_beginGeneration (generation : UInt64) :
    Keeps (Guarded (Ω := Ω)) (beginGeneration generation) := by
  refine .bind (.read _) fun mapper => .ite ?_ (keeps_beginUnlessCurrent _ _)
  exact .bind keeps_endMapperGeneration fun _ => keeps_beginUnlessCurrent _ _

theorem keeps_configureMapper (generation : UInt64) :
    Keeps Guarded (configureMapper env generation) := by
  have hrest : Keeps (Guarded (Ω := Ω)) (tellOptions env generation) := by
    refine .bind (.read _) fun host => .bind (keeps_discarded trivial) fun _ => ?_
    refine .bind (keeps_discarded trivial) fun _ => .bind (keeps_discarded trivial) fun _ => ?_
    exact keeps_mapAndDispatch _ trivial
  refine .bind (keeps_switches fun s => ⟨_, _, rfl⟩) fun _ => .bind (keeps_modify _) fun _ => ?_
  refine .bind (keeps_ask _ guarded_world) fun current => ?_
  cases current with
  | none => exact hrest
  | some current => exact .bind (keeps_modify _) fun _ => hrest

theorem keeps_preparePhysicalMapper : Keeps Guarded (preparePhysicalMapper env) := by
  refine .bind (.read _) fun generation => .ite (.pure _) ?_
  refine .bind (keeps_beginGeneration generation) fun begun => ?_
  cases begun with
  | error e => exact .pure _
  | ok _ =>
    refine .bind (keeps_configureMapper env generation) fun _ => ?_
    exact .bind keeps_ensureMapperLease fun _ => .ite (.pure _) (.pure _)

theorem keeps_feedDriverEvent (event : NldAvrcpObserverEvent) :
    Keeps Guarded (feedDriverEvent env event) := by
  refine .bind (.read _) fun generation => ?_
  cases mapDriverEvent event generation with
  | none => exact .pure _
  | some observed =>
    refine .bind (.read _) fun options => ?_
    exact .bind (keeps_feedEvent _ observed options) fun _ => .ite keeps_ensureMapperLease (.pure _)

theorem keeps_abandon (starting : Bool) (result : V1AvrcpObserverActivationResult)
    (error : UInt32) : Keeps (Guarded (Ω := Ω)) (abandon starting result error) :=
  .bind (.onlyIf keeps_endMediaSession) fun _ => .pure _

theorem keeps_activate (status : NldAvrcpObserverStatus) :
    Keeps Guarded (activate env status) := by
  refine .bind (.read _) fun host => .ite (.pure _) (.ite ?_ (.ite ?_ (.pure _)))
  · refine .bind (keeps_ask _ guarded_world) fun answer => ?_
    cases answer with
    | error e => exact .bind (keeps_modify _) fun _ => .pure _
    | ok _ => exact .bind (keeps_modify _) fun _ => .pure _
  · exact .bind (keeps_modify _) fun _ => .pure _

theorem keeps_beginMediaSession (options : V1AvrcpReplayOptions) :
    Keeps Guarded (beginMediaSession env options) := by
  refine .bind (keeps_modify _) fun _ => .bind (.read _) fun starting => ?_
  refine .bind (.onlyIf (keeps_modify _)) fun _ => .bind (keeps_ensureOpened env) fun opened => ?_
  cases opened with
  | error e => exact keeps_abandon _ _ _
  | ok _ =>
    refine .bind (keeps_readStatus env) fun status => ?_
    cases status with
    | error e => exact keeps_abandon _ _ _
    | ok status =>
      refine .bind (keeps_preparePhysicalMapper env) fun prepared => ?_
      cases prepared with
      | error e => exact keeps_abandon _ _ _
      | ok _ =>
        refine .bind (keeps_activate env status) fun activated => ?_
        cases activated with
        | error e => exact keeps_abandon _ _ _
        | ok _ =>
          exact .bind keeps_ensureMapperLease fun _ => .ite (.pure _) (keeps_abandon _ _ _)

theorem keeps_pollEvents (n : Nat) (observed : Bool) :
    Keeps Guarded (pollEvents env n observed) := by
  induction n generalizing observed with
  | zero => exact .pure _
  | succ n ih =>
    refine .bind (keeps_ask _ guarded_world) fun answer => ?_
    cases answer with
    | error e => exact .ite (.pure _) (.pure _)
    | ok event => exact .bind (keeps_feedDriverEvent env event) fun _ => .ite (ih _) (.pure _)

theorem keeps_observeWindows (observed : AvrcpWindowsVolume) :
    Keeps (Guarded (Ω := Ω)) (do
      let generation ← Prog.read fun s : AvrcpStage Ω V1AvrcpObserverHost => s.mapper.aclGeneration
      mapAndDispatch env.toAvrcpEnvironment (.observeWindowsVolume generation observed)) :=
  .bind (.read _) fun _ => keeps_mapAndDispatch _ trivial

theorem keeps_queryWindowsVolumeUnnotified :
    Keeps Guarded (queryWindowsVolumeUnnotified env) := by
  refine .bind (keeps_ask _ guarded_world) fun now => ?_
  refine .bind (keeps_ask _ guarded_world) fun active => .bind (.read _) fun last => ?_
  refine .ite (.bind (keeps_modify _) fun _ => ?_) (.pure _)
  refine .bind (keeps_ask _ guarded_world) fun current => ?_
  cases current with
  | none => exact .pure _
  | some current => exact keeps_observeWindows env current

theorem keeps_pollWindowsVolume : Keeps Guarded (pollWindowsVolume env) := by
  refine .bind (keeps_ask _ guarded_world) fun notified => ?_
  have hrest := keeps_queryWindowsVolumeUnnotified env
  cases notified with
  | none => exact hrest
  | some notified =>
    exact .bind (.read _) fun _ => .bind (keeps_mapAndDispatch _ trivial) fun _ => hrest

theorem keeps_poll : Keeps Guarded (poll env) := by
  refine .bind (.read _) fun host => .ite (.pure _) ?_
  refine .bind (keeps_readStatus env) fun status => ?_
  cases status with
  | error e => exact .pure _
  | ok status =>
    refine .bind (keeps_pollEvents env _ _) fun polled => ?_
    cases polled with
    | error e => exact .pure _
    | ok observed =>
      refine .bind (.read _) fun s => .bind (.onlyIf (keeps_pollWindowsVolume env)) fun _ => ?_
      refine .bind (.read _) fun ready => ?_
      exact .bind (.onlyIf (keeps_retryPendingWrites _)) fun _ => .pure _

theorem keeps_call (call : Call) : Keeps Guarded (call.program env) := by
  cases call with
  | beginMediaSession options =>
    exact .bind (keeps_beginMediaSession env options) fun _ => .pure _
  | poll => exact .bind (keeps_poll env) fun _ => .pure _
  | setMediaSessionSnapshot snapshot =>
    exact .bind (keeps_modify _) fun _ => .bind (.read _) fun current =>
      .ite (keeps_mapAndDispatch _ trivial) (.pure _)
  | endMediaSession => exact keeps_endMediaSession
  | releaseTransport => exact keeps_releaseTransport env
  | close => exact keeps_close env

end V1AvrcpObserverHost

/-! ## Runs -/

theorem guarded_fresh (world : Ω) (host : H) :
    Guarded ({ world := world, host := host } : AvrcpStage Ω H) := by
  intro _
  refine ⟨synced_init, ⟨rfl, rfl⟩, ?_, fun _ => nofun, trivial⟩
  intro slot write hpending
  cases slot <;> cases hpending

theorem V1AvrcpFilterHost.guarded_after (env : AvrcpFilterEnvironment Ω) (world : Ω)
    (calls : List V1AvrcpFilterHost.Call) :
    Guarded ((machine env).after (fresh world) calls) := by
  refine Reducer.Reach.inv (I := (fresh world = ·)) ?_ ?_ (.after (.init rfl) calls)
  · rintro _ rfl
    exact guarded_fresh _ _
  · intro s call h
    exact ((keeps_call env call).run h).2

theorem V1AvrcpObserverHost.guarded_after (env : AvrcpObserverEnvironment Ω)
    (writeEnabled : Bool) (world : Ω) (calls : List V1AvrcpObserverHost.Call) :
    Guarded ((machine env).after (fresh writeEnabled world) calls) := by
  refine Reducer.Reach.inv (I := (fresh writeEnabled world = ·)) ?_ ?_ (.after (.init rfl) calls)
  · rintro _ rfl
    exact guarded_fresh _ _
  · intro s call h
    exact ((keeps_call env call).run h).2

/-- **Retried writes are never stale** in the runs of either host in which no
    operation of the mapper disturbs a pending write. -/
theorem retries_timely {Ω : Type} (world : Ω) :
    (∀ (env : AvrcpFilterEnvironment Ω) (calls : List V1AvrcpFilterHost.Call),
      let s := (V1AvrcpFilterHost.machine env).after (V1AvrcpFilterHost.fresh world) calls
      Undisturbed s.log → RetriesTimely s.log) ∧
    ∀ (env : AvrcpObserverEnvironment Ω) (writeEnabled : Bool)
      (calls : List V1AvrcpObserverHost.Call),
      let s := (V1AvrcpObserverHost.machine env).after
        (V1AvrcpObserverHost.fresh writeEnabled world) calls
      Undisturbed s.log → RetriesTimely s.log :=
  ⟨fun env calls hu => (V1AvrcpFilterHost.guarded_after env world calls hu).timely,
    fun env writeEnabled calls hu =>
      (V1AvrcpObserverHost.guarded_after env writeEnabled world calls hu).timely⟩

/-- What a scripted world answers next: the events the filter decodes, the
    Windows volumes that are notified, and whether the writer takes a write. -/
structure AvrcpScript where
  events : List (Except UInt32 AvrcpObserverEvent) := []
  volumes : List AvrcpWindowsVolume := []
  writes : List Bool := []

def scriptedFilter : AvrcpFilterEnvironment AvrcpScript where
  ensureVolume script := (true, script)
  setWindowsVolume _ script := (true, script)
  queryWindowsVolume script := (none, script)
  windowsVolumeNotificationsActive script := (true, script)
  consumeWindowsVolumeChange script :=
    (script.volumes.head?, { script with volumes := script.volumes.tail })
  injectVirtualKey _ script := (true, script)
  writeAvrcp _ _ _ script :=
    (script.writes.headD false, { script with writes := script.writes.tail })
  getTickCount script := (0, script)
  openFilter script := (.ok (), script)
  dequeueEvent script :=
    (script.events.headD (.error errorNoMoreItems), { script with events := script.events.tail })

/-- The headset supports absolute volume, and announces its own; then the PC
    changes the Windows volume. -/
def volumeChange (writes : List Bool) : AvrcpScript where
  events := [.error errorNoMoreItems, .ok { kind := .volumeCapability, volumeSupported := 1 },
    .ok { kind := .volumeChanged, absoluteVolume := 64, responseCode := avrcpResponseChanged }]
  volumes := [⟨80, false⟩]
  writes := writes

/-- The filter's host after calls in the scripted world. -/
def scriptedRun (writes : List Bool) (calls : List V1AvrcpFilterHost.Call) :
    AvrcpStage AvrcpScript V1AvrcpFilterHost :=
  (V1AvrcpFilterHost.machine scriptedFilter).after
    (V1AvrcpFilterHost.fresh (volumeChange writes)) calls

/-- A write refused at first is tried again in its session. -/
theorem retries_timely_refused :
    Undisturbed (scriptedRun [false, true]
        [.beginSession 1 { aclGeneration := 1 }, .poll, .poll]).log ∧
      RetriesTimely (scriptedRun [false, true]
        [.beginSession 1 { aclGeneration := 1 }, .poll, .poll]).log := by
  have hretried : ∀ writes calls, Undisturbed (scriptedRun writes calls).log →
      Undisturbed (scriptedRun writes calls).log ∧
        RetriesTimely (scriptedRun writes calls).log :=
    fun writes calls hu =>
      ⟨hu, (retries_timely (volumeChange writes)).1 scriptedFilter calls hu⟩
  apply hretried
  decide +kernel

/-- A write refused in one session is tried again in the next one. -/
theorem retry_outlives_session :
    ∃ calls, ¬ RetriesTimely (scriptedRun [] calls).log := by
  refine ⟨[.beginSession 1 { aclGeneration := 1 }, .poll, .endSession,
    .beginSession 1 { aclGeneration := 1 }, .poll], ?_⟩
  decide +kernel

end NativeLdac.Agent
