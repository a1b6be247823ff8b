/-
  The bootstrap PLAY over the runs of the filter's host.

  A play-like press is scheduled while the player is paused and no fallback
  waits; a scheduled press ends in one outcome, and PLAY is injected only after
  the delay, the player having been paused all along.  `Arbitrated` is the
  invariant of the runs; the arbiter is armed in every session that is not begun
  in the generation of an earlier one.
-/
import NativeLdac.Agent.AvrcpFilterHost
import NativeLdac.Agent.AvrcpFrames
import NativeLdac.Lib.Bracket

namespace NativeLdac.Agent

open AvrcpStage V1AvrcpControlMapperState Prog

/-! ## Histories -/

def BootstrapMoment.schedules : BootstrapMoment → Bool
  | .gesture _ _ _ decision => decision = .scheduled
  | _ => false

/-- A scheduled press has its outcome: handled by Microsoft, cancelled, injected
    or session ended. -/
def BootstrapMoment.settles : BootstrapMoment → Bool
  | .polled _ _ decision =>
    decision = .microsoftHandled ∨ decision = .cancelled ∨ decision = .injectPlay
  | .sessionEnded pending => pending
  | _ => false

/-- Whether a scheduled press waits for its outcome; none if a press was
    scheduled while one waited, or had a second outcome. -/
def fallbackWaits (history : List BootstrapMoment) : Option Bool :=
  Bracket.after BootstrapMoment.schedules BootstrapMoment.settles history

/-- Every play-like press is scheduled, if the player is paused with play enabled
    and no fallback waits. -/
def PressesScheduled : List BootstrapMoment → Prop
  | [] => True
  | .gesture media press _ decision :: older =>
    (press → media.AwaitsPlay → fallbackWaits older = some false → decision = .scheduled) ∧
      PressesScheduled older
  | _ :: older => PressesScheduled older

/-- `PressesScheduled` is decided by reading the history. -/
def PressesScheduled.decide : ∀ history, Decidable (PressesScheduled history)
  | [] => isTrue trivial
  | .gesture _ _ _ _ :: older => @instDecidableAnd _ _ inferInstance (decide older)
  | .polled _ _ _ :: older => decide older
  | .pollFailed _ :: older => decide older
  | .sessionEnded _ :: older => decide older

instance (history : List BootstrapMoment) : Decidable (PressesScheduled history) :=
  PressesScheduled.decide history

/-- Since the last scheduled press, whose time satisfies `p`, the player is
    paused with play enabled at every poll. -/
def AwaitsPlaySince (p : UInt64 → Prop) : List BootstrapMoment → Prop
  | [] => False
  | .gesture _ _ press decision :: older =>
    if decision = .scheduled then p press else AwaitsPlaySince p older
  | .polled media _ _ :: older => media.AwaitsPlay ∧ AwaitsPlaySince p older
  | .pollFailed media :: older => media.AwaitsPlay ∧ AwaitsPlaySince p older
  | .sessionEnded _ :: _ => False

/-- PLAY is injected only if the player is paused with play enabled at every poll
    from the press on, and the delay has passed. -/
def InjectionsAwaited : List BootstrapMoment → Prop
  | [] => True
  | .polled media now decision :: older =>
    (decision = .injectPlay → media.AwaitsPlay ∧
      AwaitsPlaySince (fun press => press.toNat + kV1AvrcpBootstrapPlayDelayMs.toNat ≤ now.toNat)
        older) ∧
      InjectionsAwaited older
  | _ :: older => InjectionsAwaited older

theorem AwaitsPlaySince.mono {p q : UInt64 → Prop} (hpq : ∀ press, p press → q press) :
    ∀ {history : List BootstrapMoment}, AwaitsPlaySince p history → AwaitsPlaySince q history
  | .gesture _ _ press decision :: older, h => by
    unfold AwaitsPlaySince at h ⊢
    split_ifs at h ⊢
    · exact hpq press h
    · exact h.mono hpq
  | .polled _ _ _ :: _, ⟨hmedia, h⟩ => ⟨hmedia, h.mono hpq⟩
  | .pollFailed _ :: _, ⟨hmedia, h⟩ => ⟨hmedia, h.mono hpq⟩

def LastPollFailed : List BootstrapMoment → Prop
  | .pollFailed _ :: _ => True
  | _ => False

instance : DecidablePred LastPollFailed
  | .pollFailed _ :: _ => isTrue trivial
  | [] | .gesture _ _ _ _ :: _ | .polled _ _ _ :: _ | .sessionEnded _ :: _ => isFalse id

/-! ## The arbiter -/

/-- What the arbitration of a host depends on. -/
structure Arbitration where
  generation : UInt64 × Bool
  sessionActive : Bool
  media : V1MediaSessionSnapshot
  play : V1AvrcpBootstrapPlayState
  history : List BootstrapMoment

def FallsDue (deadline press : UInt64) : Prop :=
  deadline = press + kV1AvrcpBootstrapPlayDelayMs ∧
    press.toNat + kV1AvrcpBootstrapPlayDelayMs.toNat < UInt64.size

/-- **The invariant**: in a session the arbiter is armed for the generation of the
    mapper and of the player, and waits for the outcome of the last scheduled
    press, if it has none. -/
structure Arbitrated (a : Arbitration) : Prop where
  nonzero : a.generation.2 → a.generation.1 ≠ 0
  idle : ¬ a.sessionActive → ¬ a.play.pending
  armed : a.sessionActive → a.generation.2 ∧ a.play.aclGeneration = a.generation.1 ∧
    a.media.aclGeneration = a.generation.1
  waits : fallbackWaits a.history = some a.play.pending
  awaits : a.play.pending → ¬ LastPollFailed a.history →
    AwaitsPlaySince (FallsDue a.play.deadlineMs) a.history
  presses : PressesScheduled a.history
  injections : InjectionsAwaited a.history

variable {a : Arbitration}

/-- The arbitration after a pass-through event. -/
def Arbitration.gesture (a : Arbitration) (press : Bool) (now : UInt64) : Arbitration :=
  let r := observeV1AvrcpBootstrapPlayGesture a.play a.media press now
  { a with play := r.2, history := .gesture a.media press now r.1 :: a.history }

def Arbitration.polled (a : Arbitration) (now : UInt64) : Arbitration :=
  let r := reconcileV1AvrcpBootstrapPlay a.play a.media now
  { a with play := r.2, history := .polled a.media now r.1 :: a.history }

theorem arbitrated_gesture (h : Arbitrated a) (hactive : a.sessionActive)
    (hpolled : ¬ LastPollFailed a.history) (press : Bool) {now : UInt64}
    (hnow : now.toNat + kV1AvrcpBootstrapPlayDelayMs.toNat < UInt64.size) :
    Arbitrated (a.gesture press now) := by
  obtain ⟨hcurrent, hplay, hmedia⟩ := h.armed hactive
  have hgeneration := h.nonzero hcurrent
  unfold Arbitration.gesture observeV1AvrcpBootstrapPlayGesture
  by_cases hskip : ¬ press ∨ a.media.aclGeneration = 0 ∨
      a.media.aclGeneration ≠ a.play.aclGeneration ∨ a.media.playback ≠ .paused ∨
      ¬ a.media.playEnabled
  · rw [if_pos hskip]
    refine ⟨h.nonzero, h.idle, h.armed, h.waits, fun hp _ => h.awaits hp hpolled, ?_, h.injections⟩
    refine ⟨fun hpress hawaits _ => absurd hskip ?_, h.presses⟩
    have hzero : a.play.aclGeneration ≠ 0 := hplay ▸ hgeneration
    have hsame : a.media.aclGeneration = a.play.aclGeneration := hmedia.trans hplay.symm
    simp [hpress, hzero, hsame, hawaits.1, hawaits.2]
  · rw [if_neg hskip]
    by_cases hpending : a.play.pending
    · rw [if_pos hpending]
      refine ⟨h.nonzero, h.idle, h.armed, h.waits, fun hp _ => h.awaits hp hpolled, ?_,
        h.injections⟩
      refine ⟨fun _ _ hwaits => ?_, h.presses⟩
      rw [h.waits, hpending] at hwaits
      cases hwaits
    · rw [if_neg hpending]
      have hclosed : fallbackWaits a.history = some false := by
        rw [h.waits, eq_false_of_ne_true hpending]
      refine ⟨h.nonzero, fun hi => absurd hactive hi, fun _ => ⟨hcurrent, hplay, hmedia⟩, ?_, ?_,
        ⟨fun _ _ _ => rfl, h.presses⟩, h.injections⟩
      · exact Bracket.after_open rfl hclosed
      · exact fun _ _ => ⟨rfl, hnow⟩

theorem FallsDue.delay {deadline press now : UInt64} (h : FallsDue deadline press)
    (hnow : ¬ now < deadline) :
    press.toNat + kV1AvrcpBootstrapPlayDelayMs.toNat ≤ now.toNat := by
  obtain ⟨rfl, hbound⟩ := h
  have hsum : (press + kV1AvrcpBootstrapPlayDelayMs).toNat =
      press.toNat + kV1AvrcpBootstrapPlayDelayMs.toNat := by
    rw [UInt64.toNat_add, Nat.mod_eq_of_lt hbound]
  rw [UInt64.not_lt, UInt64.le_iff_toNat_le, hsum] at hnow
  exact hnow

theorem arbitrated_polled (h : Arbitrated a) (hactive : a.sessionActive)
    (hpolled : ¬ LastPollFailed a.history) (now : UInt64) : Arbitrated (a.polled now) := by
  obtain ⟨hcurrent, hplay, hmedia⟩ := h.armed hactive
  have hsettled : ∀ (decision : V1AvrcpBootstrapPlayDecision) (play : V1AvrcpBootstrapPlayState),
      a.play.pending → (BootstrapMoment.polled a.media now decision).settles →
      play.pending = false → play.aclGeneration = a.play.aclGeneration →
      (decision = .injectPlay → a.media.AwaitsPlay ∧ ¬ now < a.play.deadlineMs) →
      Arbitrated { a with play := play, history := .polled a.media now decision :: a.history } := by
    intro decision play hpending hsettles hnone hsame hinject
    refine ⟨h.nonzero, fun hi => absurd hactive hi, fun _ => ⟨hcurrent, hsame.trans hplay, hmedia⟩,
      ?_, ?_, h.presses, ⟨fun hd => ?_, h.injections⟩⟩
    · have hopen : fallbackWaits a.history = some true := by rw [h.waits, hpending]
      rw [hnone]
      exact Bracket.after_close rfl hsettles hopen
    · intro hp
      rw [hnone] at hp
      cases hp
    · obtain ⟨hawaits, hdue⟩ := hinject hd
      exact ⟨hawaits, (h.awaits hpending hpolled).mono fun _ hp => hp.delay hdue⟩
  unfold Arbitration.polled reconcileV1AvrcpBootstrapPlay
  by_cases hpending : a.play.pending
  · rw [if_neg (not_not.mpr hpending), if_neg (not_not.mpr (hmedia.trans hplay.symm))]
    split_ifs with hplaying hother hearly
    · exact hsettled _ _ hpending rfl rfl rfl nofun
    · exact hsettled _ _ hpending rfl rfl rfl nofun
    · rw [not_or, not_not, not_not] at hother
      exact ⟨h.nonzero, h.idle, h.armed, h.waits, fun hp _ => ⟨hother, h.awaits hp hpolled⟩,
        h.presses, nofun, h.injections⟩
    · rw [not_or, not_not, not_not] at hother
      exact hsettled _ _ hpending rfl rfl rfl fun _ => ⟨hother, hearly⟩
  · rw [if_pos hpending]
    exact ⟨h.nonzero, h.idle, h.armed, h.waits, fun hp _ => absurd hp hpending, h.presses, nofun,
      h.injections⟩

theorem arbitrated_pollFailed (h : Arbitrated a) (media : V1MediaSessionSnapshot) :
    Arbitrated { a with history := .pollFailed media :: a.history } :=
  ⟨h.nonzero, h.idle, h.armed, h.waits, fun _ hnot => absurd trivial hnot, h.presses, h.injections⟩

theorem arbitrated_ended (h : Arbitrated a) :
    Arbitrated { a with
      sessionActive := false
      play := resetV1AvrcpBootstrapPlay a.play 0
      history := .sessionEnded a.play.pending :: a.history } := by
  refine ⟨h.nonzero, fun _ => Bool.false_ne_true, nofun, ?_, nofun, h.presses, h.injections⟩
  cases hpending : a.play.pending
  · exact (Bracket.after_other rfl rfl).trans (h.waits.trans (congrArg some hpending))
  · exact Bracket.after_close rfl rfl (h.waits.trans (congrArg some hpending))

namespace V1AvrcpFilterHost

variable {Ω : Type}

/-- What the arbitration of the host depends on. -/
def arbitration (s : AvrcpStage Ω V1AvrcpFilterHost) : Arbitration where
  generation := s.mapper.generation
  sessionActive := s.host.sessionActive
  media := s.host.options.mediaSession
  play := s.host.bootstrapPlay
  history := s.host.history

theorem offstage_arbitration : Offstage (arbitration (Ω := Ω)) where
  world _ _ := rfl
  sink _ _ _ := rfl
  mapper s mapper log h := by simp only [arbitration, h]

variable (env : AvrcpFilterEnvironment Ω)

theorem frames_open : Frames arbitration (open_ env) := by
  refine .bind (.update fun _ => rfl) fun _ => .bind (offstage_arbitration.ask _) fun answer => ?_
  rcases answer with e | _
  · exact .pure _
  · exact .bind (.update fun _ => rfl) fun _ => .pure _

theorem frames_dequeue : Frames arbitration (dequeue env) :=
  .bind (.read _) fun _ => .ite (offstage_arbitration.ask _) (.pure _)

theorem frames_drain (n : Nat) : Frames arbitration (drain env n) := by
  induction n with
  | zero => exact .pure _
  | succ n ih =>
    refine .bind (frames_dequeue env) fun answer => ?_
    rcases answer with e | _
    · exact .ite (.pure _) (.pure _)
    · exact ih

theorem frames_ensureOpen : Frames arbitration (ensureOpen env) :=
  .bind (.read _) fun _ => .ite (.pure _) (frames_open env)

/-! ## Polls -/

/-- The invariant, in a session whose last poll did not fail. -/
def InSession (a : Arbitration) : Prop :=
  Arbitrated a ∧ a.sessionActive ∧ ¬ LastPollFailed a.history

/-- The clock does not end before the delay of a press does. -/
def ClockLasts : Prop :=
  ∀ world, (env.getTickCount world).1.toNat + kV1AvrcpBootstrapPlayDelayMs.toNat < UInt64.size

variable {env}

theorem observeGesture_inSession (hclock : ClockLasts env) (event : AvrcpObserverEvent) :
    Triple (fun s => InSession (arbitration s)) (observeGesture env event)
      (fun _ s => InSession (arbitration s)) fun s => InSession (arbitration s) := by
  refine .bind (Q := fun now s => InSession (arbitration s) ∧
    now.toNat + kV1AvrcpBootstrapPlayDelayMs.toNat < UInt64.size) ?_ fun now => ?_
  · exact .step fun s h => ⟨h, hclock s.world⟩
  · refine .update fun s h => ?_
    obtain ⟨⟨harb, hactive, hpolled⟩, hnow⟩ := h
    exact ⟨arbitrated_gesture harb hactive hpolled _ hnow, hactive, id⟩

theorem pollEvents_inSession (hclock : ClockLasts env) (n : Nat) :
    Triple (fun s => InSession (arbitration s)) (pollEvents env n)
      (fun _ s => InSession (arbitration s)) fun s => InSession (arbitration s) := by
  induction n with
  | zero => exact .pure fun _ h => h
  | succ n ih =>
    refine .bind (.frames (frames_dequeue env)) fun answer => ?_
    rcases answer with e | event
    · exact .frames (.ite (.pure _) (.pure _))
    · refine .bind (Q := fun _ s => InSession (arbitration s)) (.read fun _ h => h)
        fun generation => ?_
      rcases hobserved : observedEvent generation event with _ | observed
      · exact ih
      · obtain ⟨hs, he⟩ := observedEvent_kind hobserved
        refine .bind (Q := fun _ s => InSession (arbitration s)) ?_ fun _ => ?_
        · exact .ite (fun _ => observeGesture_inSession hclock event) fun _ => .pure fun _ h => h
        · refine .bind (Q := fun _ s => InSession (arbitration s)) (.read fun _ h => h)
            fun options => ?_
          refine .bind (.frames (offstage_arbitration.feedEvent _ hs he options)) fun fed => ?_
          exact .ite (fun _ => ih) fun _ => .pure fun _ h => h

theorem arbitrate_inSession :
    Triple (fun s => InSession (arbitration s)) (arbitrate env)
      (fun _ s => InSession (arbitration s)) fun s => InSession (arbitration s) := by
  refine .bind (.frames (offstage_arbitration.ask _)) fun now => ?_
  refine .bind (Q := fun host s => InSession (arbitration s) ∧ s.host = host)
    (.read fun _ h => ⟨h, rfl⟩) fun host => ?_
  refine .bind (Q := fun _ s => InSession (arbitration s)) (.update fun s h => ?_) fun _ => ?_
  · obtain ⟨⟨harb, hactive, hpolled⟩, rfl⟩ := h
    exact ⟨arbitrated_polled harb hactive hpolled now, hactive, id⟩
  · refine .ite (fun _ => ?_) fun _ => .pure fun _ h => h
    exact .bind (Q := fun _ s => InSession (arbitration s)) (.read fun _ h => h)
      fun mapper => .frames (offstage_arbitration.dispatch _ _)

theorem poll_arbitrated (hclock : ClockLasts env) :
    Triple (fun s => Arbitrated (arbitration s) ∧ ¬ LastPollFailed s.host.history) (poll env)
      (fun _ s => Arbitrated (arbitration s)) fun s => Arbitrated (arbitration s) := by
  refine .bind (Q := fun (active : Bool) s => Arbitrated (arbitration s) ∧
    (active → InSession (arbitration s))) ?_ fun active => ?_
  · exact .read fun s h => ⟨h.1, fun hactive => ⟨h.1, hactive, h.2⟩⟩
  refine .ite (fun hactive => ?_) fun _ => .pure fun _ h => h.1
  refine Triple.pre (?_ : Triple (fun s => InSession (arbitration s)) _ _ _) fun _ h => h.2 hactive
  refine .bind ((pollEvents_inSession hclock _).conseq (fun _ => id) (fun _ _ => id)
    fun _ h => h.1) fun polled => ?_
  rcases polled with e | _
  · exact .bind (Q := fun _ s => Arbitrated (arbitration s))
      (.update fun s h => arbitrated_pollFailed h.1 _) fun _ => .pure fun _ h => h
  · refine .bind (arbitrate_inSession.conseq (fun _ => id) (fun _ _ => id) fun _ h => h.1)
      fun _ => ?_
    refine (Triple.frames (p := InSession) ?_).conseq (fun _ => id) (fun _ _ h => h.1)
      fun _ h => h.1
    refine .bind (offstage_arbitration.retryPendingWrites _) fun _ => ?_
    refine .bind (offstage_arbitration.ask _) fun notified => ?_
    rcases notified with _ | notified
    · exact .pure _
    · exact .bind (.read _) fun _ =>
        .bind (offstage_arbitration.mapAndDispatch _ trivial) fun _ => .pure _

/-! ## Sessions -/

theorem endSession_arbitrated :
    Triple (fun s : AvrcpStage Ω V1AvrcpFilterHost => Arbitrated (arbitration s)) endSession
      (fun _ s => Arbitrated (arbitration s)) fun s => Arbitrated (arbitration s) := by
  have hend : Triple (fun s : AvrcpStage Ω V1AvrcpFilterHost => Arbitrated (arbitration s))
      (modify fun h => { h with
        sessionActive := false
        bootstrapPlay := resetV1AvrcpBootstrapPlay h.bootstrapPlay 0
        history := .sessionEnded h.bootstrapPlay.pending :: h.history })
      (fun _ s => Arbitrated (arbitration s)) fun s => Arbitrated (arbitration s) :=
    .update fun s h => arbitrated_ended h
  refine .bind (Q := fun _ s => Arbitrated (arbitration s)) (.read fun _ h => h) fun s => ?_
  refine .ite (fun _ => .bind (.frames ?_) fun _ => hend) fun _ => hend
  exact offstage_arbitration.discarded trivial

theorem setMediaSessionSnapshot_arbitrated (media : V1MediaSessionSnapshot) :
    Triple (fun s => Arbitrated (arbitration s) ∧
        (s.host.sessionActive → media.aclGeneration = s.mapper.aclGeneration))
      (setMediaSessionSnapshot env media) (fun _ s => Arbitrated (arbitration s))
      fun s => Arbitrated (arbitration s) := by
  refine .bind (Q := fun _ s => Arbitrated (arbitration s)) (.update fun s h => ?_) fun _ => ?_
  · obtain ⟨harb, hmedia⟩ := h
    refine ⟨harb.nonzero, harb.idle, fun hactive => ?_, harb.waits, harb.awaits, harb.presses,
      harb.injections⟩
    obtain ⟨hcurrent, hplay, -⟩ := harb.armed hactive
    exact ⟨hcurrent, hplay, hmedia hactive⟩
  · refine .bind (Q := fun _ s => Arbitrated (arbitration s)) (.read fun _ h => h) fun active => ?_
    exact .ite (fun _ => .frames (offstage_arbitration.mapAndDispatch _ trivial))
      fun _ => .pure fun _ h => h

/-- The arbiter is armed for a generation, which an active session is in. -/
structure ArmedFor (g : UInt64) (a : Arbitration) : Prop where
  arbitrated : Arbitrated a
  nonzero : g ≠ 0
  play : a.play.aclGeneration = g
  active : a.sessionActive → a.generation = (g, true)

theorem prepareGeneration_armed {g : UInt64} (hg : g ≠ 0) :
    Triple (fun s => Arbitrated (arbitration s) ∧
        (s.host.sessionActive ↔ s.mapper.generation = (g, true)))
      (prepareGeneration env g)
      (fun _ s => ArmedFor g (arbitration s)) fun s => Arbitrated (arbitration s) := by
  refine .bind (Q := fun mapper s => (Arbitrated (arbitration s) ∧
    (s.host.sessionActive ↔ s.mapper.generation = (g, true))) ∧ s.mapper = mapper)
    (.read fun s h => ⟨h, rfl⟩) fun mapper => ?_
  refine .ite (fun hnew => ?_) fun hold => .pure fun s h => ?_
  · refine .bind (Q := fun _ s => ArmedFor g (arbitration s)) (.update fun s h => ?_) fun _ => ?_
    · obtain ⟨⟨harb, hiff⟩, rfl⟩ := h
      have hidle : ¬ s.host.sessionActive := by
        intro hactive
        have hgeneration := hiff.mp hactive
        rcases hnew with hc | hne
        · exact hc (congrArg Prod.snd hgeneration)
        · exact hne (congrArg Prod.fst hgeneration)
      have hpending : s.host.bootstrapPlay.pending = false :=
        eq_false_of_ne_true (harb.idle hidle)
      refine ⟨⟨harb.nonzero, fun _ => Bool.false_ne_true, fun hactive => absurd hactive hidle, ?_,
        nofun, harb.presses, harb.injections⟩, hg, rfl, fun hactive => absurd hactive hidle⟩
      exact harb.waits.trans (congrArg some hpending)
    · exact (Triple.frames (p := ArmedFor g) (frames_drain env _)).conseq (fun _ => id)
        (fun _ _ => id) fun _ h => h.arbitrated
  · obtain ⟨⟨harb, hiff⟩, rfl⟩ := h
    rw [not_or, not_not, not_not] at hold
    have hgeneration : s.mapper.generation = (g, true) := Prod.ext hold.2 hold.1
    obtain ⟨-, hplay, -⟩ := harb.armed (hiff.mpr hgeneration)
    exact ⟨harb, hg, hplay.trans (congrArg Prod.fst hgeneration), fun _ => hgeneration⟩

theorem ArmedFor.regenerate {g : UInt64} {a : Arbitration} (h : ArmedFor g a)
    (hidle : ¬ a.sessionActive) {generation : UInt64 × Bool}
    (hnonzero : generation.2 → generation.1 ≠ 0) :
    ArmedFor g { a with generation := generation } := by
  obtain ⟨harb, hg, hplay, -⟩ := h
  refine ⟨⟨hnonzero, harb.idle, ?_, harb.waits, harb.awaits, harb.presses, harb.injections⟩, hg,
    hplay, ?_⟩
  · exact fun hactive => absurd hactive hidle
  · exact fun hactive => absurd hactive hidle

/-- Armed for a generation, which the mapper is in if it is in any. -/
def Settling (g : UInt64) (s : AvrcpStage Ω V1AvrcpFilterHost) : Prop :=
  ArmedFor g (arbitration s) ∧ (s.mapper.aclGenerationCurrent → s.mapper.aclGeneration = g)

/-- What a result says of the mapper's generation. -/
def BegunFor (g : UInt64) (r : Except UInt32 Unit) (s : AvrcpStage Ω V1AvrcpFilterHost) : Prop :=
  Arbitrated (arbitration s) ∧
    (r = .ok () → ArmedFor g (arbitration s) ∧ s.mapper.generation = (g, true))

theorem beginUnlessCurrent_begun (g : UInt64) :
    Triple (Settling (Ω := Ω) g) (beginUnlessCurrent g) (BegunFor g)
      fun s => Arbitrated (arbitration s) := by
  refine .bind (Q := fun current s => Settling g s ∧ s.mapper.aclGenerationCurrent = current)
    (.read fun s h => ⟨h, rfl⟩) fun current => ?_
  refine .ite (fun hcurrent => .pure fun s h => ?_) fun hcurrent => ?_
  · obtain ⟨⟨harmed, hsame⟩, rfl⟩ := h
    exact ⟨harmed.arbitrated, fun _ => ⟨harmed, Prod.ext (hsame hcurrent) hcurrent⟩⟩
  · refine .bind (Q := fun begun s => ArmedFor g (arbitration s) ∧
      (begun.aclGeneration = g → s.mapper.generation = (g, true))) (.step fun s h => ?_)
      fun begun => ?_
    · obtain ⟨⟨harmed, -⟩, rfl⟩ := h
      have hidle : ¬ s.host.sessionActive := fun hactive =>
        hcurrent (congrArg Prod.snd (harmed.active hactive))
      rcases generation_begin s.mapper g with ⟨hbegun, -⟩ | ⟨hkept, hzero⟩
      · refine ⟨harmed.regenerate hidle fun _ => ?_, fun _ => hbegun⟩
        rw [hbegun]
        exact harmed.nonzero
      · refine ⟨harmed.regenerate hidle ?_, fun hg => absurd (hg.symm.trans hzero) harmed.nonzero⟩
        rw [hkept]
        exact harmed.arbitrated.nonzero
    · refine .ite (fun _ => .pure fun s h => ⟨h.1.arbitrated, nofun⟩) fun hg => .pure fun s h => ?_
      exact ⟨h.1.arbitrated, fun _ => ⟨h.1, h.2 (not_not.mp hg)⟩⟩

theorem beginGeneration_begun (g : UInt64) :
    Triple (fun s : AvrcpStage Ω V1AvrcpFilterHost => ArmedFor g (arbitration s))
      (beginGeneration g) (BegunFor g) fun s => Arbitrated (arbitration s) := by
  refine .bind (Q := fun mapper s => ArmedFor g (arbitration s) ∧ s.mapper = mapper)
    (.read fun s h => ⟨h, rfl⟩) fun mapper => .ite (fun hother => ?_) fun hsame => ?_
  · refine .bind (Q := fun _ => Settling g) ?_ fun _ => beginUnlessCurrent_begun g
    refine .bind (Q := fun _ => Settling g) (.step fun s h => ?_) fun _ => .pure fun _ h => h
    obtain ⟨harmed, rfl⟩ := h
    have hidle : ¬ s.host.sessionActive := fun hactive =>
      hother.2 (congrArg Prod.fst (harmed.active hactive))
    have hended := generation_end hother.1 (harmed.arbitrated.nonzero hother.1)
    refine ⟨harmed.regenerate hidle ?_, fun hcurrent => ?_⟩
    · rw [hended]
      exact nofun
    · exact absurd (hcurrent.symm.trans (congrArg Prod.snd hended)) Bool.false_ne_true.symm
  · refine (beginUnlessCurrent_begun g).pre ?_
    rintro s ⟨harmed, rfl⟩
    exact ⟨harmed, fun hcurrent => not_not.mp fun hne => hsame ⟨hcurrent, hne⟩⟩

/-- A session of the generation is about to start, with its player. -/
structure Starting (g : UInt64) (media : V1MediaSessionSnapshot) (a : Arbitration) : Prop where
  armed : ArmedFor g a
  generation : a.generation = (g, true)
  media : a.media = media

theorem startSession_arbitrated {g : UInt64} {media : V1MediaSessionSnapshot}
    (hmedia : media.aclGeneration = g) :
    Triple (fun s => ArmedFor g (arbitration s) ∧ s.mapper.generation = (g, true))
      (startSession env g media) (fun _ s => Arbitrated (arbitration s))
      fun s => Arbitrated (arbitration s) := by
  refine Triple.conseq (?_ : Triple _ _ _ fun s => Starting g media (arbitration s))
    (fun _ => id) (fun _ _ => id) fun _ h => h.armed.arbitrated
  have hstart : Triple (fun s => Starting g media (arbitration s)) (do
      mapAndDispatch env.toAvrcpEnvironment (.setMediaSessionSnapshot media)
      modify (Ω := Ω) fun h => { h with sessionActive := true })
      (fun _ s => Arbitrated (arbitration s)) fun s => Starting g media (arbitration s) := by
    refine .bind (.frames (offstage_arbitration.mapAndDispatch _ trivial)) fun _ => ?_
    refine .update fun s ⟨⟨harb, hg, hplay, _⟩, hgeneration, hsame⟩ => ?_
    refine ⟨harb.nonzero, nofun, fun _ => ?_, harb.waits, harb.awaits, harb.presses,
      harb.injections⟩
    show s.mapper.generation.2 ∧ s.host.bootstrapPlay.aclGeneration = s.mapper.generation.1 ∧
      s.host.options.mediaSession.aclGeneration = s.mapper.generation.1
    rw [show s.mapper.generation = (g, true) from hgeneration,
      show s.host.options.mediaSession = media from hsame]
    exact ⟨rfl, hplay, hmedia⟩
  refine .bind (Q := fun _ s => Starting g media (arbitration s)) (.update fun s h => ?_) fun _ => ?_
  · obtain ⟨⟨harb, hg, hplay, hactive⟩, hgeneration⟩ := h
    refine ⟨⟨⟨harb.nonzero, harb.idle, fun ha => ?_, harb.waits, harb.awaits, harb.presses,
      harb.injections⟩, hg, hplay, hactive⟩, hgeneration, rfl⟩
    obtain ⟨hcurrent, hsame, -⟩ := harb.armed ha
    exact ⟨hcurrent, hsame, hmedia.trans (congrArg Prod.fst hgeneration).symm⟩
  · refine .bind (.frames (.update fun _ => rfl)) fun _ => ?_
    refine .bind (.frames (.update fun _ => rfl)) fun _ => ?_
    refine .bind (.frames (offstage_arbitration.discarded trivial)) fun _ => ?_
    refine .bind (.frames (.read _)) fun lease => ?_
    refine .bind (.frames (offstage_arbitration.discarded trivial)) fun _ => ?_
    refine .bind (.frames (offstage_arbitration.ask _)) fun current => ?_
    rcases current with _ | current
    · exact hstart
    · exact .bind (.frames (offstage_arbitration.discarded trivial)) fun _ => hstart

/-- A session is started in the generation of an earlier one. -/
def Resumes (s : AvrcpStage Ω V1AvrcpFilterHost) : Call → Prop
  | .beginSession g _ => ¬ s.host.sessionActive ∧ s.mapper.generation = (g, true)
  | _ => False

instance (s : AvrcpStage Ω V1AvrcpFilterHost) : DecidablePred (Resumes s)
  | .beginSession _ _ => inferInstanceAs (Decidable (_ ∧ _))
  | .openFilter | .close | .poll | .setMediaSessionSnapshot _ | .endSession => isFalse id

theorem beginSession_arbitrated {g : UInt64} {media : V1MediaSessionSnapshot}
    (hmedia : media.aclGeneration = g) :
    Triple (fun s => Arbitrated (arbitration s) ∧ ¬ Resumes s (.beginSession g media))
      (beginSession env g media) (fun _ s => Arbitrated (arbitration s))
      fun s => Arbitrated (arbitration s) := by
  refine .bind (Q := fun r s => (Arbitrated (arbitration s) ∧ ¬ Resumes s (.beginSession g media)) ∧
    s = r) (.read fun s h => ⟨h, rfl⟩) fun r => .ite (fun _ => .pure fun s h => h.1.1) fun hok => ?_
  rw [not_or] at hok
  obtain ⟨hg, hsame⟩ := hok
  refine Triple.pre (?_ : Triple (fun s => Arbitrated (arbitration s) ∧
    (s.host.sessionActive ↔ s.mapper.generation = (g, true))) _ _ _) ?_
  · have hopen := Triple.frames (frames_ensureOpen env)
      (p := fun a => Arbitrated a ∧ (a.sessionActive ↔ a.generation = (g, true)))
    refine .bind (hopen.conseq (fun _ => id) (fun _ _ => id) fun _ h => h.1) fun opened => ?_
    rcases opened with e | _
    · exact .pure fun s h => h.1
    · refine .bind (prepareGeneration_armed hg) fun prepared => ?_
      rcases prepared with e | _
      · exact .pure fun s h => h.arbitrated
      · refine .bind (beginGeneration_begun g) fun begun => ?_
        rcases begun with e | _
        · exact .pure fun s h => h.1
        · refine .bind ((startSession_arbitrated hmedia).pre ?_) fun _ => .pure fun _ h => h
          exact fun s h => h.2 rfl
  · rintro s ⟨⟨harb, hresumes⟩, rfl⟩
    refine ⟨harb, fun hactive => ?_, fun hgeneration => ?_⟩
    · obtain ⟨hcurrent, -⟩ := harb.armed hactive
      exact Prod.ext (not_not.mp fun hne => hsame ⟨hactive, hne⟩) hcurrent
    · exact not_not.mp fun hidle => hresumes ⟨hidle, hgeneration⟩

/-! ## Runs -/

/-- The player's snapshots are of the current generation. -/
def CurrentMedia (s : AvrcpStage Ω V1AvrcpFilterHost) : Call → Prop
  | .beginSession g media => media.aclGeneration = g
  | .setMediaSessionSnapshot media =>
    s.host.sessionActive → media.aclGeneration = s.mapper.aclGeneration
  | _ => True

instance (s : AvrcpStage Ω V1AvrcpFilterHost) : DecidablePred (CurrentMedia s)
  | .beginSession _ _ => inferInstanceAs (Decidable (_ = _))
  | .setMediaSessionSnapshot _ => inferInstanceAs (Decidable (_ → _))
  | .openFilter | .close | .poll | .endSession => isTrue trivial

/-- The calls of the agent: the player's snapshots are of the current generation,
    and a failed poll ends the session. -/
def Regular (s : AvrcpStage Ω V1AvrcpFilterHost) (call : Call) : Prop :=
  CurrentMedia s call ∧ (LastPollFailed s.host.history → call = .endSession)

instance (s : AvrcpStage Ω V1AvrcpFilterHost) (call : Call) : Decidable (Regular s call) :=
  inferInstanceAs (Decidable (_ ∧ _))

theorem call_arbitrated (hclock : ClockLasts env) (call : Call) :
    Triple (fun s => Arbitrated (arbitration s) ∧ Regular s call ∧ ¬ Resumes s call)
      (call.program env) (fun _ s => Arbitrated (arbitration s))
      fun s => Arbitrated (arbitration s) := by
  cases call with
  | openFilter =>
    exact (Triple.frames (.bind (frames_open env) fun _ => .pure _)).pre fun s h => h.1
  | close =>
    exact (Triple.frames (v := arbitration) (.update fun _ => rfl)).pre fun s h => h.1
  | beginSession g media =>
    refine .bind (Q := fun _ s => Arbitrated (arbitration s)) ?_ fun _ => .pure fun _ h => h
    intro s h
    exact (beginSession_arbitrated h.2.1.1) s ⟨h.1, h.2.2⟩
  | poll =>
    refine .bind (Q := fun _ s => Arbitrated (arbitration s)) ?_ fun _ => .pure fun _ h => h
    exact (poll_arbitrated hclock).pre fun s h => ⟨h.1, fun hf => nomatch h.2.1.2 hf⟩
  | setMediaSessionSnapshot media =>
    exact (setMediaSessionSnapshot_arbitrated media).pre fun s h => ⟨h.1, h.2.1.1⟩
  | endSession => exact endSession_arbitrated.pre fun s h => h.1

theorem arbitrated_fresh (world : Ω) : Arbitrated (arbitration (fresh world)) :=
  ⟨nofun, fun _ => Bool.false_ne_true, nofun, rfl, nofun, trivial, trivial⟩

theorem arbitrated_after (hclock : ClockLasts env) (world : Ω) {calls : List Call}
    (hcalls : (machine env).Along (fun s call => Regular s call ∧ ¬ Resumes s call)
      (fresh world) calls) :
    Arbitrated (arbitration ((machine env).after (fresh world) calls)) := by
  refine Reducer.after_inv (P := fun s => Arbitrated (arbitration s)) ?_ (arbitrated_fresh world)
    hcalls
  intro s call harb hcall
  have h := call_arbitrated hclock call s ⟨harb, hcall⟩
  show Arbitrated (arbitration (call.program env s).2)
  generalize call.program env s = r at h ⊢
  rcases r with ⟨_ | _, s'⟩
  · exact h
  · exact h

/-- **Bootstrap PLAY** in the runs that start no session in the generation of an
    earlier one: every press is scheduled, a scheduled press has one outcome or
    still waits for it, and PLAY is injected after the delay only. -/
theorem bootstrap_play (hclock : ClockLasts env) (world : Ω) {calls : List Call}
    (hcalls : (machine env).Along (fun s call => Regular s call ∧ ¬ Resumes s call)
      (fresh world) calls) :
    let history := ((machine env).after (fresh world) calls).host.history
    PressesScheduled history ∧
      (∃ waits : Bool, fallbackWaits history = some waits ∧
        history.countP BootstrapMoment.schedules =
          history.countP BootstrapMoment.settles + waits.toNat) ∧
      InjectionsAwaited history := by
  have harb := arbitrated_after hclock world hcalls
  have hdisjoint : ∀ moment : BootstrapMoment, moment.schedules → moment.settles = false := by
    intro moment hs
    cases moment with
    | gesture => rfl
    | _ => cases hs
  exact ⟨harb.presses, ⟨_, harb.waits, Bracket.count_of_after hdisjoint harb.waits⟩,
    harb.injections⟩

/-- What a scripted filter decodes next, and its clock. -/
structure PressScript where
  events : List (Except UInt32 AvrcpObserverEvent)
  clock : UInt32 := 0

/-- The filter of a script, whose clock moves by 100 ms at each reading. -/
def pressFilter : AvrcpFilterEnvironment PressScript where
  ensureVolume script := (true, script)
  setWindowsVolume _ script := (true, script)
  queryWindowsVolume script := (none, script)
  windowsVolumeNotificationsActive script := (true, script)
  consumeWindowsVolumeChange script := (none, script)
  injectVirtualKey _ script := (true, script)
  writeAvrcp _ _ _ script := (true, script)
  getTickCount script := (script.clock.toUInt64, { script with clock := script.clock + 100 })
  openFilter script := (.ok (), script)
  dequeueEvent script :=
    (script.events.headD (.error errorNoMoreItems), { script with events := script.events.tail })

def playPressed : PressScript where
  events := [.error errorNoMoreItems, .ok { kind := .passThrough, operationId := avrcpOperationPlay }]

def pausedPlayer : V1MediaSessionSnapshot where
  aclGeneration := 1
  playback := .paused
  playEnabled := true

theorem clockLasts_pressFilter : ClockLasts pressFilter := by
  intro script
  have hbound := script.clock.toNat_lt
  show script.clock.toUInt64.toNat + 200 < UInt64.size
  rw [UInt32.toNat_toUInt64, UInt64.size]
  omega

/-- A press at 0 ms is injected at 200 ms. -/
theorem bootstrap_play_injected :
    let s := (machine pressFilter).after (fresh playPressed)
      [.beginSession 1 pausedPlayer, .poll, .poll]
    s.host.bootstrapPlay.fallbackInjectedCount = 1 ∧ PressesScheduled s.host.history := by
  refine ⟨by decide +kernel, (bootstrap_play clockLasts_pressFilter playPressed ?_).1⟩
  decide +kernel

/-- In the second session of a generation, a press is not scheduled. -/
theorem bootstrap_play_resumed :
    ∃ calls, (machine pressFilter).Along Regular (fresh playPressed) calls ∧
      ¬ PressesScheduled ((machine pressFilter).after (fresh playPressed) calls).host.history := by
  refine ⟨[.beginSession 1 pausedPlayer, .endSession, .beginSession 1 pausedPlayer, .poll], ?_, ?_⟩
  · decide +kernel
  · decide +kernel

end V1AvrcpFilterHost

end NativeLdac.Agent
