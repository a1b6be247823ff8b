/-
  When a media session can be begun after others failed to.

  A `BeginMediaSession` whose driver calls all succeed is active exactly when the
  mapper is still in the generation or the generation is a newer one
  (`GenerationOpen`), and the driver's status lets the activation go ahead
  (`ActivationOpen`).  Closing the host for a failed `GetVersion` ends the
  mapper's generation, which cannot be begun again.
-/
import NativeLdac.Agent.AvrcpObserverLease
import NativeLdac.Agent.AvrcpRetryRuns

namespace NativeLdac.Agent

open AvrcpStage V1AvrcpControlMapperState Prog

variable {Ω α β : Type}

/-! ## What the driver allows -/

/-- The driver does what it is asked; its status lets the observation begin or shows that
    it was requested. -/
def ObserverDriverMoment.Succeeds : ObserverDriverMoment → Prop
  | .opened answer => answer = .ok ()
  | .version answer => answer = .ok ⟨sizeofAbiVersion, abiMajor, abiMinor⟩
  | .status (.error _) => False
  | .status (.ok shown) => shown.size = sizeofStatus ∧
      (isReadyForActivation shown ∨ shown.flags &&& statusActivationRequested ≠ 0)
  | .begun answer => answer = .ok ()
  | .closed => True

instance : DecidablePred ObserverDriverMoment.Succeeds
  | .opened answer => inferInstanceAs (Decidable (answer = .ok ()))
  | .version answer =>
    inferInstanceAs (Decidable (answer = .ok ⟨sizeofAbiVersion, abiMajor, abiMinor⟩))
  | .status (.error _) => inferInstanceAs (Decidable False)
  | .status (.ok shown) => inferInstanceAs (Decidable (shown.size = sizeofStatus ∧
      (isReadyForActivation shown ∨ shown.flags &&& statusActivationRequested ≠ 0)))
  | .begun answer => inferInstanceAs (Decidable (answer = .ok ()))
  | .closed => inferInstanceAs (Decidable True)

def ObserverDriverMoment.rejects : ObserverDriverMoment → Bool
  | .begun (.error _) => true
  | _ => false

def V1AvrcpControlMapperState.GenerationOpen (m : V1AvrcpControlMapperState) (g : UInt64) : Prop :=
  m.aclGenerationCurrent ∧ m.aclGeneration = g ∨ isNewerGeneration g m.aclGeneration

/-- The status shows that the observation was requested, or the host has yet to
    request it. -/
def V1AvrcpObserverHost.ActivationOpen (host : V1AvrcpObserverHost)
    (status : NldAvrcpObserverStatus) : Prop :=
  status.flags &&& statusActivationRequested ≠ 0 ∨ ¬ (observeStatus status host).observationRequested

/-! ## The mapper -/

section
variable {m : V1AvrcpControlMapperState} {g lease : UInt64}

theorem acquire_ownerLease (hs : m.Synced) (hc : m.isCurrentGeneration g) (hne : lease ≠ 0)
    (hfree : m.ownerLease = 0 ∨ m.ownerLease = lease) :
    (avrcpMapper.next m (.acquireOwnerLease g lease)).ownerLease = lease := by
  have hacquired : ∀ a : Authorization, a.ownerLease = m.ownerLease → a.isCurrent g →
      (a.acquire g lease).ownerLease = lease := by
    intro a ha hcur
    rw [Authorization.acquire, if_neg]
    rw [not_or, not_or, not_not, ha]
    exact ⟨hcur, hne, fun hother => hfree.elim hother.1 hother.2⟩
  have hp := congrArg Authorization.ownerLease
    (AvrcpPassThroughGateState.acquire_authorization m.passThrough g lease)
  have hv := congrArg Authorization.ownerLease
    (AvrcpAbsoluteVolumeGateState.acquire_authorization m.absoluteVolume g lease)
  rw [hs.passThrough, hacquired m.mediaAuthorization rfl hc] at hp
  rw [hs.absoluteVolume, hacquired m.volumeAuthorization rfl hc] at hv
  simp only [Reducer.next, avrcpMapper, v1AvrcpAcquireOwnerLease]
  rw [if_neg (by simp [hc, hne]), if_neg]
  rw [not_or, not_not, not_not]
  exact ⟨hp, hv⟩

theorem begin_dormant (hs : m.Synced) (hc : ¬ m.aclGenerationCurrent) (hg : g ≠ 0) :
    ((avrcpMapper.out m (.beginAclGeneration g)).aclGeneration = g ↔
        isNewerGeneration g m.aclGeneration) ∧
      (isNewerGeneration g m.aclGeneration →
        (avrcpMapper.next m (.beginAclGeneration g)).generation = (g, true)) := by
  have hpass := AvrcpPassThroughGateState.begin_authorization m.passThrough g
  rw [hs.passThrough, Authorization.begin_] at hpass
  change _ = if ¬ isNewerGeneration g m.aclGeneration then m.mediaAuthorization else _ at hpass
  have hgate : (avrcpMapper.next m (.beginAclGeneration g)).passThrough =
      (beginAvrcpPassThroughAclGeneration m.passThrough g).2 := by
    simp only [Reducer.next, avrcpMapper, v1AvrcpBeginAclGeneration]
    split_ifs <;> rfl
  by_cases hnew : isNewerGeneration g m.aclGeneration
  · rcases generation_begin m g with ⟨hgeneration, hout⟩ | ⟨hkept, -⟩
    · exact ⟨⟨fun _ => hnew, fun _ => hout⟩, fun _ => hgeneration⟩
    · -- the gate of the mapper has moved on
      have hfollows := (follows_step hs.follows (.beginAclGeneration g)).passThroughCurrent
      rw [if_neg (not_not_intro hnew)] at hpass
      have hcurrent : (beginAvrcpPassThroughAclGeneration m.passThrough g).2.aclGenerationCurrent =
          true := congrArg Authorization.current hpass
      rw [hgate, hcurrent] at hfollows
      exact absurd (hfollows.trans (congrArg Prod.snd hkept)).symm hc
  · rcases generation_begin m g with ⟨hgeneration, -⟩ | ⟨-, hzero⟩
    · have hfollows := (follows_step hs.follows (.beginAclGeneration g)).passThroughCurrent
      rw [if_pos hnew] at hpass
      have hcurrent : (beginAvrcpPassThroughAclGeneration m.passThrough g).2.aclGenerationCurrent =
          m.aclGenerationCurrent := congrArg Authorization.current hpass
      rw [hgate, hcurrent] at hfollows
      exact absurd (hfollows.trans (congrArg Prod.snd hgeneration)) hc
    · exact ⟨⟨fun hout => absurd (hout.symm.trans hzero) hg, fun h => absurd h hnew⟩,
        fun h => absurd h hnew⟩

end

namespace V1AvrcpObserverHost

/-! ## A call on record -/

/-- The stage, with a new record of the driver. -/
def onRecord (s : TracedStage Ω) : TracedStage Ω := { s with world := (s.world.1, []) }

/-- A call of the driver failed. -/
def Spoiled (s : TracedStage Ω) : Prop := ∃ moment ∈ s.world.2, ¬ moment.Succeeds

/-- A step of the call went well, or a call of the driver failed. -/
def OrSpoiled {ε : Type} (Q : α → TracedStage Ω → Prop) : Except ε α → TracedStage Ω → Prop
  | .error _ => Spoiled
  | .ok a => Q a

theorem Spoiled.recorded {s s' : TracedStage Ω} {moment : ObserverDriverMoment}
    (h : Spoiled s) (hs : s'.world.2 = moment :: s.world.2) : Spoiled s' := by
  obtain ⟨failed, hmem, hfailed⟩ := h
  exact ⟨failed, hs ▸ List.mem_cons_of_mem _ hmem, hfailed⟩

variable {env : AvrcpObserverEnvironment Ω}

theorem endMediaSession_record :
    Frames (fun s : TracedStage Ω => s.world.2) endMediaSession := by
  have hmodify : ∀ f, Frames (fun s : TracedStage Ω => s.world.2) (modify f) :=
    fun _ => .update fun _ => rfl
  refine .bind (.read _) fun s => .ite (.ite (.bind ?_ fun _ => hmodify _) (hmodify _)) (.pure _)
  exact .bind (.step fun _ => rfl) fun _ => .pure _

theorem ensureMapperLease_record :
    Frames (fun s : TracedStage Ω => s.world.2) ensureMapperLease := by
  refine .bind (.read _) fun s => .ite (.pure _) (.ite (.pure _) (.bind ?_ fun _ => .read _))
  exact .bind (.step fun _ => rfl) fun _ => .pure _

theorem endMapperGeneration_record :
    Frames (fun s : TracedStage Ω => s.world.2) endMapperGeneration :=
  .bind (.read _) fun _ => .ite (.bind (.step fun _ => rfl) fun _ => .pure _) (.pure _)

theorem abandon_record (P : List ObserverDriverMoment → Prop) (starting : Bool)
    (result : V1AvrcpObserverActivationResult) (error : UInt32) :
    Triple (fun s : TracedStage Ω => P s.world.2) (abandon starting result error)
      (fun r s => r = (result, error) ∧ P s.world.2) fun _ => True := by
  have hend := (Triple.frames endMediaSession_record : Triple (fun s : TracedStage Ω =>
    P s.world.2) _ _ _).conseq (fun _ => id) (fun _ _ => id) fun _ _ => trivial
  exact .bind (.ite (fun _ => hend) fun _ => .pure fun _ h => h) fun _ => .pure fun _ h => ⟨rfl, h⟩

theorem spoiled_frames {x : Program (Ω × List ObserverDriverMoment) α}
    (hx : Frames (fun s : TracedStage Ω => s.world.2) x) :
    Triple Spoiled x (fun _ => Spoiled) fun _ => True :=
  (Triple.frames (p := fun trace => ∃ moment ∈ trace, ¬ moment.Succeeds) hx).conseq
    (fun _ => id) (fun _ _ => id) fun _ _ => trivial

theorem spoiled_close :
    Triple Spoiled (close env.traced) (fun _ => Spoiled) fun _ => True := by
  refine .bind (.bind (spoiled_frames endMediaSession_record) fun _ => ?_) fun _ =>
    spoiled_frames endMapperGeneration_record
  exact .bind (Q := fun _ => Spoiled) (.step fun s h => h.recorded rfl) fun _ => .update fun _ h => h

/-- The stage of a session, before the driver's status is known. -/
structure Under (m : V1AvrcpControlMapperState) (host : V1AvrcpObserverHost) (g : UInt64)
    (s : TracedStage Ω) : Prop where
  mapper : s.mapper = m
  lease : LeaseHeld m s.host
  active : s.host.mediaSessionActive
  options : s.host.options.aclGeneration = g
  activation : s.host.activation = host.activation

/-- The driver's status was not asked for. -/
def Unasked (s : TracedStage Ω) : Prop :=
  ∀ status, ObserverDriverMoment.status status ∉ s.world.2

/-- The driver's status is the one on record. -/
def Asked (status : NldAvrcpObserverStatus) (s : TracedStage Ω) : Prop :=
  ∀ answer, ObserverDriverMoment.status answer ∈ s.world.2 ↔ answer = .ok status

section
variable {m : V1AvrcpControlMapperState} {host : V1AvrcpObserverHost} {g : UInt64}
  {s s' : TracedStage Ω} {status : NldAvrcpObserverStatus}

theorem Unasked.recorded {moment : ObserverDriverMoment} (h : Unasked s)
    (hs : s'.world.2 = moment :: s.world.2) (hm : ∀ status, moment ≠ .status status) :
    Unasked s' := by
  intro status hmem
  rw [hs, List.mem_cons] at hmem
  exact hmem.elim (fun heq => hm status heq.symm) (h status)

theorem openDriver_under :
    Triple (fun s => Under m host g s ∧ Unasked s) (openDriver env.traced)
      (OrSpoiled fun _ s => Under m host g s ∧ Unasked s)
      fun _ => True := by
  refine .bind (Q := fun h s => (Under m host g s ∧ Unasked s) ∧ s.host = h)
    (.read fun _ h => ⟨h, rfl⟩) fun h => .ite (fun _ => .pure fun _ => And.left) fun _ => ?_
  have hopen : ∀ call : Ω → Except UInt32 Unit × Ω,
      Triple (fun s => (Under m host g s ∧ Unasked s) ∧ s.host = h) (ask (recorded .opened call))
        (fun answer s => (Under m host g s ∧ Unasked s) ∧
          (answer ≠ .ok () → Spoiled s)) fun _ => True := by
    intro call
    refine .step fun s h => ⟨⟨⟨h.1.1.mapper, h.1.1.lease, h.1.1.active, h.1.1.options,
      h.1.1.activation⟩, h.1.2.recorded rfl fun status => ?_⟩, fun hfailed => ?_⟩
    · rintro ⟨⟩
    · exact ⟨_, List.mem_cons_self, hfailed⟩
  refine .bind (Q := fun answer s => (Under m host g s ∧ Unasked s) ∧
    (answer ≠ .ok () → Spoiled s)) ?_ fun answer => ?_
  · by_cases hw : h.writeEnabled
    · rw [if_pos hw]
      exact hopen _
    · rw [if_neg hw]
      exact hopen _
  · rcases answer with e | _
    · exact .pure fun s h => h.2 (by simp)
    · refine .bind (Q := fun _ s => Under m host g s ∧ Unasked s) (.update fun s h => ?_) fun _ =>
        .pure fun _ h => h
      exact ⟨⟨h.1.1.mapper, h.1.1.lease.congr_host rfl, h.1.1.active, h.1.1.options,
        h.1.1.activation⟩, h.1.2⟩

theorem ensureOpened_under :
    Triple (fun s => Under m host g s ∧ Unasked s) (ensureOpened env.traced)
      (OrSpoiled fun _ s => Under m host g s ∧ Unasked s)
      fun _ => True := by
  have hclosed : ∀ e : V1AvrcpObserverActivationResult × UInt32,
      Triple Spoiled (do
        close env.traced
        return (.error e : Except (V1AvrcpObserverActivationResult × UInt32) Unit))
      (OrSpoiled fun _ s => Under m host g s ∧ Unasked s)
      fun _ => True :=
    fun e => .bind spoiled_close fun _ => .pure fun _ h => h
  refine .bind openDriver_under fun opened => ?_
  rcases opened with e | _
  · exact .ite (fun _ => .pure fun _ h => h) fun _ => .pure fun _ h => h
  · refine .bind (Q := fun answer s => (Under m host g s ∧ Unasked s) ∧
      (answer ≠ .ok ⟨sizeofAbiVersion, abiMajor, abiMinor⟩ → Spoiled s)) (.step fun s h => ?_)
      fun answer => ?_
    · refine ⟨⟨⟨h.1.mapper, h.1.lease, h.1.active, h.1.options, h.1.activation⟩,
        h.2.recorded rfl fun status => ?_⟩, fun hfailed => ?_⟩
      · rintro ⟨⟩
      · exact ⟨_, List.mem_cons_self, hfailed⟩
    · rcases answer with e | version
      · exact (hclosed _).pre fun s h => h.2 (by simp)
      · refine .ite (fun hsize => ?_) fun hsize => .ite (fun habi => ?_) fun _ =>
          .pure fun _ h => h.1
        · refine (hclosed _).pre fun s h => h.2 fun heq => hsize ?_
          rw [Except.ok.inj heq]
        · refine (hclosed _).pre fun s h => h.2 fun heq => ?_
          rw [Except.ok.inj heq] at habi
          exact habi.elim (fun h => h rfl) fun h => h rfl

theorem readStatus_under :
    Triple (fun s => Under m host g s ∧ Unasked s) (readStatus env.traced)
      (OrSpoiled fun status s => Under m (observeStatus status host) g s ∧ Asked status s)
      fun _ => True := by
  refine .bind (Q := fun answer s => Under m host g s ∧
      (∀ status, ObserverDriverMoment.status status ∈ s.world.2 ↔ status = answer) ∧
      (∀ status, answer = .ok status → status.size ≠ sizeofStatus → Spoiled s) ∧
      (∀ e, answer = .error e → Spoiled s)) (.step fun s h => ?_) fun answer => ?_
  · refine ⟨⟨h.1.mapper, h.1.lease, h.1.active, h.1.options, h.1.activation⟩, ?_, ?_, ?_⟩
    · intro status
      show _ ∈ .status (env.getStatus s.world.1).1 :: s.world.2 ↔ _
      rw [List.mem_cons]
      refine ⟨fun hmem => hmem.elim (fun heq => ?_) fun hold => absurd hold (h.2 status), ?_⟩
      · exact ObserverDriverMoment.status.inj heq
      · rintro rfl
        exact .inl rfl
    · intro status heq hsize
      have heq : (env.getStatus s.world.1).1 = .ok status := heq
      refine ⟨.status (env.getStatus s.world.1).1, List.mem_cons_self, ?_⟩
      rw [heq]
      exact fun h => hsize h.1
    · intro e heq
      have heq : (env.getStatus s.world.1).1 = .error e := heq
      refine ⟨.status (env.getStatus s.world.1).1, List.mem_cons_self, ?_⟩
      rw [heq]
      exact id
  · rcases answer with e | status
    · exact .pure fun s h => h.2.2.2 e rfl
    · refine .ite (fun hsize => .pure fun s h => h.2.2.1 status rfl hsize) fun _ => ?_
      refine .bind (Q := fun _ s => Under m (observeStatus status host) g s ∧ Asked status s)
        (.update fun s h => ?_) fun _ => .pure fun _ h => h
      have hsessions : (observeStatus status s.host).sessions = s.host.sessions := by
        simp only [observeStatus]
        split_ifs <;> rfl
      have hoptions : (observeStatus status s.host).options = s.host.options := by
        simp only [observeStatus]
        split_ifs <;> rfl
      have hactivation : (observeStatus status s.host).activation =
          (observeStatus status host).activation := by
        have h := h.1.activation
        simp only [V1AvrcpObserverHost.activation, Prod.mk.injEq] at h
        obtain ⟨hgeneration, hrequested, hterminal⟩ := h
        simp only [observeStatus, V1AvrcpObserverHost.activation, hgeneration]
        split_ifs
        · rfl
        · simp only [hrequested, hterminal]
      refine ⟨⟨h.1.mapper, h.1.lease.congr_host hsessions, ?_, ?_, hactivation⟩, h.2.1⟩
      · exact (congrArg Prod.fst hsessions).trans h.1.active
      · exact (congrArg V1AvrcpReplayOptions.aclGeneration hoptions).trans h.1.options

/-- The mapper is in the generation, and the session holds or can acquire the lease. -/
structure Begun (host : V1AvrcpObserverHost) (g : UInt64) (s : TracedStage Ω) : Prop where
  generation : s.mapper.generation = (g, true)
  lease : LeaseHeld s.mapper s.host
  active : s.host.mediaSessionActive
  activation : s.host.activation = host.activation

theorem beginGeneration_under (status : NldAvrcpObserverStatus) (hg : g ≠ 0) :
    Triple (fun s : TracedStage Ω => Under m host g s ∧ Asked status s) (beginGeneration g)
      (fun r s => Asked status s ∧ ((∃ e, r = .error e) ∧ ¬ m.GenerationOpen g ∨
        r = .ok () ∧ m.GenerationOpen g ∧ Begun host g s)) fun _ => True := by
  -- the mapper is in the generation, or between generations
  have hbegin : Triple (fun s : TracedStage Ω => Asked status s ∧ LeaseHeld s.mapper s.host ∧
        s.host.mediaSessionActive ∧ s.host.activation = host.activation ∧
        (s.mapper.aclGenerationCurrent → m.GenerationOpen g ∧ s.mapper.aclGeneration = g) ∧
        (¬ s.mapper.aclGenerationCurrent →
          (isNewerGeneration g s.mapper.aclGeneration ↔ m.GenerationOpen g)))
      (beginUnlessCurrent g)
      (fun r s => Asked status s ∧ ((∃ e, r = .error e) ∧ ¬ m.GenerationOpen g ∨
        r = .ok () ∧ m.GenerationOpen g ∧ Begun host g s)) fun _ => True := by
    rintro s ⟨hasked, hlease, hactive, hactivation, hcurrent, hdormant⟩
    show wp (beginUnlessCurrent _) _ _ s
    simp only [beginUnlessCurrent, wp_bind, wp_read, wp_ite, wp_pure, wp_mapped]
    split_ifs with hc hout
    · obtain ⟨hopen, hg'⟩ := hcurrent hc
      exact ⟨hasked, .inr ⟨trivial, hopen, Prod.ext hg' hc, hlease, hactive, hactivation⟩⟩
    · have hdo := begin_dormant hlease.synced hc hg
      exact ⟨hasked, .inl ⟨⟨_, rfl⟩, fun hopen => hout (hdo.1.mpr ((hdormant hc).mpr hopen))⟩⟩
    · have hdo := begin_dormant hlease.synced hc hg
      have hnewer := hdo.1.mp (not_not.mp hout)
      refine ⟨hasked, .inr ⟨trivial, (hdormant hc).mp hnewer, hdo.2 hnewer, ?_, hactive,
        hactivation⟩⟩
      refine hlease.step (.beginAclGeneration g) ?_ trivial
      exact fun hr => hc (isCurrentGeneration_iff.mp hr.1).2.1
  refine .bind (Q := fun mapper s => mapper = m ∧ Under m host g s ∧ Asked status s)
    (.read fun s h => ⟨h.1.mapper, h⟩) fun mapper => .ite (fun hother => ?_) fun hsame => ?_
  · -- the mapper leaves another generation
    refine .bind (Q := fun _ s => _) ?_ fun _ => hbegin
    rintro s ⟨rfl, h, hasked⟩
    obtain ⟨hm, hlease, hactive, -, hactivation⟩ := h
    subst hm
    show wp endMapperGeneration _ _ s
    simp only [endMapperGeneration, wp_bind, wp_read, hother.1, if_true, wp_discarded]
    have hended := generation_end hother.1 (hlease.synced.nonzero hother.1)
    refine ⟨hasked, hlease.step (.endAclGeneration s.mapper.aclGeneration) id trivial, hactive,
      hactivation, fun hc => ?_, fun _ => ?_⟩
    · exact absurd ((congrArg Prod.snd hended).symm.trans hc) Bool.false_ne_true
    · have hgeneration : (avrcpMapper.next s.mapper
          (.endAclGeneration s.mapper.aclGeneration)).aclGeneration = s.mapper.aclGeneration :=
        congrArg Prod.fst hended
      rw [hgeneration]
      exact ⟨.inr, fun hopen => hopen.elim (fun h => absurd h.2 hother.2) id⟩
  · refine hbegin.pre ?_
    rintro s ⟨rfl, h, hasked⟩
    obtain ⟨hm, hlease, hactive, -, hactivation⟩ := h
    subst hm
    refine ⟨hasked, hlease, hactive, hactivation, fun hc => ?_, fun hc => ?_⟩
    · have hg' : s.mapper.aclGeneration = g := not_not.mp fun hne => hsame ⟨hc, hne⟩
      exact ⟨.inl ⟨hc, hg'⟩, hg'⟩
    · exact ⟨.inr, fun hopen => hopen.elim (fun h => absurd h.1 hc) id⟩

/-- The session holds the lease of the mapper. -/
def Holding (host : V1AvrcpObserverHost) (g : UInt64) (status : NldAvrcpObserverStatus)
    (s : TracedStage Ω) : Prop :=
  Begun host g s ∧ s.mapper.ownerLease = s.host.ownerLease ∧ Asked status s

theorem holding_congr (status : NldAvrcpObserverStatus) (s s' : TracedStage Ω)
    (hv : leaseView s' = leaseView s) (h : Holding host g status s) :
    Holding host g status s' := by
  simp only [leaseView, Prod.mk.injEq] at hv
  obtain ⟨htrace, hhost, hmedia, hvolume, hpass, habsolute⟩ := hv
  have hu : Untouched s.mapper s'.mapper := ⟨hmedia, hvolume, hpass, habsolute⟩
  refine ⟨⟨(generation_untouched hu).trans h.1.generation, ?_, ?_, ?_⟩, ?_, ?_⟩
  · rw [hhost]
    exact h.1.lease.untouched hu
  · rw [hhost]
    exact h.1.active
  · rw [hhost]
    exact h.1.activation
  · rw [hhost]
    exact (congrArg Authorization.ownerLease hmedia).trans h.2.1
  · intro answer
    rw [htrace]
    exact h.2.2 answer

theorem configureMapper_holding (status : NldAvrcpObserverStatus) (hg : g ≠ 0) :
    Triple (fun s : TracedStage Ω => Begun host g s ∧ Asked status s)
      (configureMapper env.traced g) (fun _ => Holding host g status) fun _ => True := by
  have hmodify : ∀ (f : V1AvrcpObserverHost → V1AvrcpObserverHost),
      (∀ h, (f h).sessions = h.sessions) → (∀ h, (f h).activation = h.activation) →
      Triple (fun s : TracedStage Ω => Begun host g s ∧ Asked status s) (modify f)
        (fun _ s => Begun host g s ∧ Asked status s) fun _ => True := by
    intro f hs ha
    refine .update fun s h => ⟨⟨h.1.generation, h.1.lease.congr_host (hs s.host), ?_, ?_⟩, h.2⟩
    · exact (congrArg Prod.fst (hs s.host)).trans h.1.active
    · exact (ha s.host).trans h.1.activation
  have hrest : Triple (fun s : TracedStage Ω => Begun host g s ∧ Asked status s)
      (tellOptions env.traced g) (fun _ => Holding host g status) fun _ => True := by
    intro s h
    show wp (tellOptions _ _) _ _ s
    simp only [tellOptions, wp_bind, wp_read, wp_discarded]
    have hmode := h.1.lease.step
      (.setControlMode g s.host.options.volumeSync s.host.options.mediaRouting) id trivial
    have hwithin : WithinGeneration
      (.setControlMode g s.host.options.volumeSync s.host.options.mediaRouting) := trivial
    have hgeneration := (generation_step s.mapper hwithin).trans h.1.generation
    generalize avrcpMapper.next s.mapper
      (.setControlMode g s.host.options.volumeSync s.host.options.mediaRouting) = m' at *
    have hcurrent : m'.isCurrentGeneration g := isCurrentGeneration_iff.mpr
      ⟨hg, congrArg Prod.snd hgeneration, congrArg Prod.fst hgeneration⟩
    have hfree : m'.ownerLease = 0 ∨ m'.ownerLease = s.host.ownerLease := by
      by_cases hzero : m'.ownerLease = 0
      · exact .inl hzero
      · exact .inr (hmode.held hzero).2
    have hlease := acquire_ownerLease hmode.synced hcurrent (h.1.lease.nonzero h.1.active) hfree
    have hacquired := hmode.step (.acquireOwnerLease g s.host.ownerLease) id ⟨h.1.active, rfl⟩
    have hobserves : Observes (.observeWindowsVolume g s.host.options.initialWindowsVolume) :=
      trivial
    have hu := hobserves.untouched (avrcpMapper.next m' (.acquireOwnerLease g s.host.ownerLease))
    refine (executes_mapAndDispatch _ (.setMediaSessionSnapshot s.host.options.mediaSession)
      trivial).keeps (backstage_leaseView env) (holding_congr status) |>.conseq (fun _ => id)
        (fun _ _ => id) (fun _ _ => trivial) _ ?_
    refine ⟨⟨?_, hacquired.untouched hu, h.1.active, h.1.activation⟩, ?_, h.2⟩
    · have hacquire : WithinGeneration (.acquireOwnerLease g s.host.ownerLease) := trivial
      exact (generation_untouched hu).trans ((generation_step m' hacquire).trans hgeneration)
    · exact (congrArg Authorization.ownerLease hu.media).trans hlease
  refine .bind (Q := fun _ s => Begun host g s ∧ Asked status s) (.update fun s h => ?_) fun _ =>
    .bind (hmodify _ (fun _ => rfl) fun _ => rfl) fun _ =>
      .bind (Q := fun _ s => Begun host g s ∧ Asked status s) (.step fun s h => ?_)
        fun current => ?_
  · exact ⟨⟨h.1.generation, h.1.lease.untouched ⟨rfl, rfl, rfl, rfl⟩, h.1.active,
      h.1.activation⟩, h.2⟩
  · exact ⟨⟨h.1.generation, h.1.lease, h.1.active, h.1.activation⟩, h.2⟩
  · rcases current with _ | current
    · exact hrest
    · exact .bind (hmodify _ (fun _ => rfl) fun _ => rfl) fun _ => hrest

theorem ensureMapperLease_held (P : TracedStage Ω → Prop) :
    Triple (fun s => s.mapper.ownerLease = s.host.ownerLease ∧ P s) ensureMapperLease
      (fun held s => held = true ∧ P s) fun _ => True := by
  intro s h
  show wp ensureMapperLease _ _ s
  simp only [ensureMapperLease, wp_bind, wp_read, id, wp_ite, wp_pure]
  split_ifs with hidle hheld
  · exact ⟨trivial, h.2⟩
  · exact ⟨trivial, h.2⟩
  · exact absurd h.1 hheld

theorem preparePhysicalMapper_under (status : NldAvrcpObserverStatus) :
    Triple (fun s => Under m host g s ∧ Asked status s) (preparePhysicalMapper env.traced)
      (fun r s => Asked status s ∧ ((∃ e, r = .error e) ∧ ¬ m.GenerationOpen g ∨
        r = .ok () ∧ m.GenerationOpen g ∧ Holding host g status s)) fun _ => True := by
  refine .bind (Q := fun generation s => generation = g ∧ Under m host g s ∧ Asked status s)
    (.read fun s h => ⟨h.1.options, h⟩) fun generation => .ite (fun hzero => ?_) fun hg => ?_
  · refine .pure ?_
    rintro s ⟨rfl, h, hasked⟩
    refine ⟨hasked, .inl ⟨⟨_, rfl⟩, fun hopen => ?_⟩⟩
    subst hzero
    rcases hopen with ⟨hc, hzero⟩ | hnewer
    · exact h.lease.synced.nonzero hc hzero
    · exact absurd hnewer Bool.false_ne_true
  · by_cases hgen : generation = g
    · subst hgen
      refine .bind ((beginGeneration_under status hg).pre fun _ => And.right) fun begun => ?_
      rcases begun with e | _
      · refine .pure ?_
        rintro s ⟨hasked, ⟨-, hclosed⟩ | ⟨hok, -⟩⟩
        · exact ⟨hasked, .inl ⟨⟨e, rfl⟩, hclosed⟩⟩
        · cases hok
      · have hconfigure : m.GenerationOpen generation →
            Triple (fun s => Begun host generation s ∧ Asked status s) (do
              configureMapper env.traced generation
              if ← ensureMapperLease then
                return .ok ()
              else
                return .error errorInvalidState :
                  Program (Ω × List ObserverDriverMoment) (Except UInt32 Unit))
            (fun r s => Asked status s ∧ ((∃ e, r = .error e) ∧ ¬ m.GenerationOpen generation ∨
              r = .ok () ∧ m.GenerationOpen generation ∧ Holding host generation status s))
            fun _ => True := by
          intro hopen
          refine .bind (configureMapper_holding status hg) fun _ =>
            .bind ((ensureMapperLease_held (Holding host generation status)).pre fun _ h =>
              ⟨h.2.1, h⟩) fun held => ?_
          refine .ite (fun _ => .pure fun s h => ?_) fun hnot s h => absurd h.1 hnot
          exact ⟨h.2.2.2, .inr ⟨rfl, hopen, h.2⟩⟩
        rintro s ⟨hasked, ⟨⟨e, he⟩, -⟩ | ⟨-, hopen, hbegun⟩⟩
        · cases he
        · exact hconfigure hopen s ⟨hbegun, hasked⟩
    · exact fun s h => absurd h.1 hgen

theorem observeStatus_terminal (h : (observeStatus status host).activationTerminalFailure) :
    host.activationTerminalFailure := by
  simp only [observeStatus] at h
  split_ifs at h
  exact h

theorem activate_holding (hterminal : ¬ host.activationTerminalFailure) :
    Triple (Holding (observeStatus status host) g status) (activate env.traced status)
      (fun r s => Spoiled s ∨ Asked status s ∧ (r = .error (.pending, errorNotReady) ∧
          ¬ host.ActivationOpen status ∨
        r = .ok () ∧ host.ActivationOpen status ∧ s.mapper.ownerLease = s.host.ownerLease))
      fun _ => True := by
  refine .bind (Q := fun h s => s.host = h ∧ Holding (observeStatus status host) g status s)
    (.read fun s h => ⟨rfl, h⟩) fun h => .ite (fun hfailed => ?_) fun _ =>
      .ite (fun hready => ?_) fun hnot => .ite (fun hflag => ?_) fun hflag => .pure ?_
  · rintro s ⟨rfl, hs⟩
    have hactivation := congrArg (fun a => a.2.2) hs.1.activation
    exact absurd (observeStatus_terminal (hactivation.symm.trans hfailed)) hterminal
  · refine .bind (Q := fun answer s => (answer ≠ .ok () → Spoiled s) ∧
      host.ActivationOpen status ∧ Holding (observeStatus status host) g status s)
      (.step fun s hs => ?_) fun answer => ?_
    · obtain ⟨rfl, hs⟩ := hs
      refine ⟨fun hfailed => ⟨_, List.mem_cons_self, hfailed⟩, .inr ?_, ?_⟩
      · have hrequested := congrArg (fun a => a.2.1) hs.1.activation
        exact fun hc => hready.1 (hrequested.trans hc)
      · refine ⟨⟨hs.1.generation, hs.1.lease, hs.1.active, hs.1.activation⟩, hs.2.1, fun answer => ?_⟩
        show _ ∈ .begun (env.beginObservation s.world.1).1 :: s.world.2 ↔ _
        rw [List.mem_cons, ← hs.2.2 answer]
        exact ⟨fun h => h.resolve_left (by simp), .inr⟩
    · rcases answer with e | _
      · exact .bind (.update (Q := fun _ => Spoiled) fun s hs => hs.1 (by simp)) fun _ =>
          .pure fun _ => .inl
      · refine .bind (.update (Q := fun _ s => Asked status s ∧ host.ActivationOpen status ∧
          s.mapper.ownerLease = s.host.ownerLease) fun s hs => ?_) fun _ => .pure fun _ hs => ?_
        · exact ⟨hs.2.2.2.2, hs.2.1, hs.2.2.2.1⟩
        · exact .inr ⟨hs.1, .inr ⟨rfl, hs.2⟩⟩
  · refine .bind (.update (Q := fun _ s => Asked status s ∧ host.ActivationOpen status ∧
      s.mapper.ownerLease = s.host.ownerLease) fun s hs => ?_) fun _ => .pure fun _ hs => ?_
    · exact ⟨hs.2.2.2, .inl hflag, hs.2.2.1⟩
    · exact .inr ⟨hs.1, .inr ⟨rfl, hs.2⟩⟩
  · rintro s ⟨rfl, hs⟩
    by_cases hr : isReadyForActivation status
    · refine .inr ⟨hs.2.2, .inl ⟨rfl, fun hopen => hopen.elim hflag fun hidle => hnot ⟨?_, hr⟩⟩⟩
      have hrequested := congrArg (fun a => a.2.1) hs.1.activation
      exact fun hc => hidle (hrequested.symm.trans hc)
    · refine .inl ⟨_, (hs.2.2 _).mpr rfl, ?_⟩
      exact fun h => h.2.elim hr hflag

/-- What the call returns, unless the driver failed. -/
def Verdict (m : V1AvrcpControlMapperState) (host : V1AvrcpObserverHost) (g : UInt64)
    (r : V1AvrcpObserverActivationResult × UInt32) (s : TracedStage Ω) : Prop :=
  Spoiled s ∨ (r = (.active, 0) ↔ m.GenerationOpen g ∧
    ∀ status, .status (.ok status) ∈ s.world.2 → host.ActivationOpen status)

theorem Verdict.failed {r : V1AvrcpObserverActivationResult × UInt32} {s : TracedStage Ω}
    (hasked : Asked status s) (hr : r ≠ (.active, 0))
    (h : ¬ (m.GenerationOpen g ∧ host.ActivationOpen status)) : Verdict m host g r s :=
  .inr ⟨fun hactive => absurd hactive hr,
    fun hopen => absurd ⟨hopen.1, hopen.2 status ((hasked _).mpr rfl)⟩ h⟩

theorem Verdict.active {s : TracedStage Ω} (hasked : Asked status s) (hg : m.GenerationOpen g)
    (ha : host.ActivationOpen status) :
    Verdict m host g (.active, 0) s := by
  refine .inr ⟨fun _ => ⟨hg, fun status' hmem => ?_⟩, fun _ => rfl⟩
  rw [Except.ok.inj ((hasked _).mp hmem)]
  exact ha

theorem beginMediaSession_verdict (options : V1AvrcpReplayOptions)
    (hlease : LeaseHeld m host) (hterminal : ¬ host.activationTerminalFailure) :
    Triple (fun s => s.mapper = m ∧ s.host = host ∧ s.world.2 = [])
      (beginMediaSession env.traced options) (Verdict m host options.aclGeneration)
      fun _ => True := by
  have hspoiled : ∀ (starting : Bool) (result : V1AvrcpObserverActivationResult) (e : UInt32),
      Triple (Spoiled (Ω := Ω)) (abandon starting result e) (Verdict m host options.aclGeneration)
        fun _ => True :=
    fun starting result e => (abandon_record (fun trace => ∃ moment ∈ trace, ¬ moment.Succeeds)
      starting result e).post fun _ _ h => .inl h.2
  have hbegin : Triple (fun s : TracedStage Ω => s.mapper = m ∧ s.host = host ∧ s.world.2 = [])
      (modify fun h => { h with options := options })
      (fun _ s => s.mapper = m ∧ s.host = { host with options := options } ∧ s.world.2 = [])
      fun _ => True :=
    .update fun s h => ⟨h.1, by rw [← h.2.1], h.2.2⟩
  refine .bind hbegin fun _ => .bind (Q := fun starting s => starting = !host.mediaSessionActive ∧
    s.mapper = m ∧ s.host = { host with options := options } ∧ s.world.2 = [])
    (.read fun s h => ⟨congrArg (fun h => !h.mediaSessionActive) h.2.1, h⟩) fun starting => ?_
  have hunasked : ∀ s : TracedStage Ω, s.world.2 = [] → Unasked s := by
    intro s htrace status hmem
    rw [htrace] at hmem
    cases hmem
  refine .bind (Q := fun _ s => Under m host options.aclGeneration s ∧ Unasked s)
    (.ite (fun hstarting => .update ?_) fun hstarting => .pure ?_) fun _ => ?_
  · rintro s ⟨rfl, hm, hh, htrace⟩
    have hinactive : ¬ s.host.mediaSessionActive := by
      rw [hh]
      simpa using hstarting
    have hkept : LeaseHeld m s.host := hlease.congr_host (by rw [hh]; rfl)
    have hstarted := hkept.started hinactive (nextOwnerLease_ne_zero s.host.ownerLease)
    exact ⟨⟨hm, hstarted, rfl, by rw [hh], by rw [hh]; rfl⟩, hunasked s htrace⟩
  · rintro s ⟨rfl, hm, hh, htrace⟩
    have hactive : s.host.mediaSessionActive := by
      rw [hh]
      simpa using hstarting
    exact ⟨⟨hm, hlease.congr_host (by rw [hh]; rfl), hactive, by rw [hh], by rw [hh]; rfl⟩,
      hunasked s htrace⟩
  refine .bind ensureOpened_under fun opened => ?_
  rcases opened with ⟨result, e⟩ | _
  · exact hspoiled starting result e
  refine .bind readStatus_under fun status => ?_
  rcases status with e | status
  · exact hspoiled starting .failed e
  -- from here on the status is on record
  have hfailed : ∀ (result : V1AvrcpObserverActivationResult) (e : UInt32), result ≠ .active →
      ¬ (m.GenerationOpen options.aclGeneration ∧ host.ActivationOpen status) →
      Triple (Asked (Ω := Ω) status) (abandon starting result e)
        (Verdict m host options.aclGeneration) fun _ => True := by
    intro result e hresult hopen
    refine (abandon_record (fun trace => ∀ answer, ObserverDriverMoment.status answer ∈ trace ↔
      answer = .ok status) starting result e).post fun r s h =>
        Verdict.failed h.2 (fun hr => hresult ?_) hopen
    exact congrArg Prod.fst (h.1.symm.trans hr)
  refine .bind (preparePhysicalMapper_under status) fun prepared => ?_
  by_cases hgeneration : m.GenerationOpen options.aclGeneration
  · rcases prepared with e | _
    · rintro s ⟨-, ⟨-, hclosed⟩ | ⟨hok, -⟩⟩
      · exact absurd hgeneration hclosed
      · cases hok
    refine .bind ((activate_holding (g := options.aclGeneration) hterminal).pre ?_)
      fun activated => ?_
    · rintro s ⟨-, ⟨⟨e, he⟩, -⟩ | ⟨-, -, hholding⟩⟩
      · cases he
      · exact hholding
    rcases activated with ⟨result, e⟩ | _
    · rintro s (hs | ⟨hasked, ⟨hpending, hclosed⟩ | ⟨hok, -⟩⟩)
      · exact hspoiled starting result e s hs
      · obtain ⟨rfl, rfl⟩ : result = .pending ∧ e = errorNotReady := by simpa using hpending
        exact hfailed .pending errorNotReady (by simp) (fun hopen => hclosed hopen.2) s hasked
      · cases hok
    · rintro s (hs | ⟨hasked, ⟨hpending, -⟩ | ⟨-, hactivation, hheld⟩⟩)
      · refine Triple.bind (spoiled_frames ensureMapperLease_record) (fun held => ?_) s hs
        exact .ite (fun _ => .pure fun _ => .inl) fun _ => hspoiled starting .failed _
      · cases hpending
      · refine Triple.bind (ensureMapperLease_held (Asked status)) (fun held => ?_) s
          ⟨hheld, hasked⟩
        refine .ite (fun _ => .pure fun s h => ?_) fun hnot s h => absurd h.1 hnot
        exact .active h.2 hgeneration hactivation
  · rcases prepared with e | _
    · exact (hfailed .failed e (by simp) fun hopen => hgeneration hopen.1).pre fun _ => And.left
    · rintro s ⟨-, ⟨⟨e, he⟩, -⟩ | ⟨-, hopen, -⟩⟩
      · cases he
      · exact absurd hopen hgeneration

end

/-- **A media session can be begun after others failed** if the mapper is still in the
    generation, or has yet to see it, and the status lets the activation go ahead. -/
theorem begins_iff_open (env : AvrcpObserverEnvironment Ω) (writeEnabled : Bool) (world : Ω)
    (calls : List Call) (options : V1AvrcpReplayOptions) :
    let s := (machine env.traced).after (fresh writeEnabled (world, [])) calls
    let r := beginMediaSession env.traced options (onRecord s)
    (∀ moment ∈ s.world.2, ¬ moment.rejects) → (∀ moment ∈ r.2.world.2, moment.Succeeds) →
      (r.1 = some (.active, 0) ↔ s.mapper.GenerationOpen options.aclGeneration ∧
        ∀ status, .status (.ok status) ∈ r.2.world.2 → s.host.ActivationOpen status) := by
  intro s r haccepted hsucceeds
  obtain ⟨k, h⟩ := leased_after env writeEnabled world calls
  have hterminal : ¬ s.host.activationTerminalFailure := fun hr =>
    (h.activation.rejected hr).elim fun e he => haccepted _ he rfl
  have hguarded := guarded_world s (s.world.1, []) (guarded_after env.traced writeEnabled _ calls)
  have hreturns : r.1.isSome :=
    ((keeps_beginMediaSession env.traced options).run hguarded).1
  obtain ⟨answer, hanswer⟩ := Option.isSome_iff_exists.mp hreturns
  have hverdict : Verdict s.mapper s.host options.aclGeneration answer r.2 :=
    Triple.returns (s := onRecord s) (Prod.ext hanswer rfl)
      (beginMediaSession_verdict options h.lease hterminal) ⟨rfl, rfl, rfl⟩
  rw [hanswer, Option.some.injEq]
  rcases hverdict with ⟨moment, hmem, hfailed⟩ | hiff
  · exact absurd (hsucceeds moment hmem) hfailed
  · exact hiff

def requestedStatus : NldAvrcpObserverStatus where
  size := sizeofStatus
  flags := statusOutboundOpen ||| statusActivationRequired ||| statusActivationRequested
  aclGeneration := 1

/-- A driver whose version is queried in vain now and then. -/
def hastyDriver : AvrcpObserverEnvironment (List Bool) where
  ensureVolume world := (true, world)
  setWindowsVolume _ world := (true, world)
  queryWindowsVolume world := (none, world)
  windowsVolumeNotificationsActive world := (true, world)
  consumeWindowsVolumeChange world := (none, world)
  injectVirtualKey _ world := (true, world)
  writeAvrcp _ _ _ world := (true, world)
  getTickCount world := (0, world)
  openReadOnly world := (.ok (), world)
  openReadWrite world := (.ok (), world)
  closeDriver world := ((), world)
  getVersion world := (if world.headD true then .ok ⟨sizeofAbiVersion, abiMajor, abiMinor⟩
    else .error errorNotReady, world.tail)
  getStatus world := (.ok requestedStatus, world)
  beginObservation world := (.ok (), world)
  dequeueEvent world := (.error errorNoMoreItems, world)

def hastyRun (calls : List Call) : TracedStage (List Bool) :=
  (machine hastyDriver.traced).after (fresh true ([true, false, true], [])) calls

def hastyOptions : V1AvrcpReplayOptions := { aclGeneration := 1 }

/-- The version is queried in vain once in the generation; no session begins in it
    again. -/
theorem begin_refused_after_version :
    let s := hastyRun [.beginMediaSession hastyOptions, .endMediaSession]
    let t := hastyRun [.beginMediaSession hastyOptions, .endMediaSession,
      .beginMediaSession hastyOptions]
    let r := beginMediaSession hastyDriver.traced hastyOptions (onRecord t)
    (beginMediaSession hastyDriver.traced hastyOptions s).1 = some (.failed, errorNotReady) ∧
      (∀ moment ∈ t.world.2, ¬ moment.rejects) ∧
      (∀ moment ∈ r.2.world.2, moment.Succeeds) ∧
      r.1 = some (.failed, errorInvalidState) := by
  decide +kernel

/-- A session is begun in the generation again if only the session ended. -/
theorem begins_iff_open_resumed :
    let s := (machine hastyDriver.traced).after (fresh true ([], []))
      [.beginMediaSession hastyOptions, .endMediaSession]
    (beginMediaSession hastyDriver.traced hastyOptions (onRecord s)).1 = some (.active, 0) := by
  refine (begins_iff_open hastyDriver true [] [.beginMediaSession hastyOptions, .endMediaSession]
    hastyOptions ?_ ?_).mpr ⟨?_, ?_⟩
  · decide +kernel
  · decide +kernel
  · exact .inl ⟨rfl, rfl⟩
  · intro status hmem
    have hmem : .status (.ok status) ∈ [ObserverDriverMoment.status (.ok requestedStatus),
      .version (.ok ⟨sizeofAbiVersion, abiMajor, abiMinor⟩)] := hmem
    simp only [List.mem_cons, ObserverDriverMoment.status.injEq, Except.ok.injEq,
      reduceCtorEq, List.not_mem_nil, or_false] at hmem
    rw [hmem]
    exact .inl (by decide)

end V1AvrcpObserverHost

end NativeLdac.Agent
