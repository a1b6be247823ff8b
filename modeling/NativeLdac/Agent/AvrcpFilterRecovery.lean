/-
  The reconciliation of the filter's host (`ReconcileAvrcpFilterHost` of
  `agent/v1_presence_agent.cpp`), and what becomes of it once the device breaks.

  A handle is opened only if there is none, and closed by no path of the
  reconciliation: the host of a broken handle keeps it (`stranded_step`).
-/
import NativeLdac.Agent.AvrcpFilterHost
import NativeLdac.Agent.AvrcpFrames
import NativeLdac.Agent.Lifecycle

namespace NativeLdac.Agent

open AvrcpStage Prog

variable {Ω α β : Type}

/-! ## The reconciliation -/

/-- What the agent reads for a reconciliation: its option, its lifecycle and the
    snapshot of the media sessions, if their monitor is ready. -/
structure AvrcpReconciliation where
  avrcpVolumeSyncEnabled : Bool
  lifecycle : V1LifecycleState
  monitored : Option V1MediaSessionSnapshot

def AvrcpReconciliation.media (r : AvrcpReconciliation) : V1MediaSessionSnapshot :=
  match r.monitored with
  | some snapshot => snapshot
  | none =>
    if r.lifecycle.mediaSession = .streaming then
      { aclGeneration := r.lifecycle.aclGeneration
        playback := .playing
        pauseEnabled := true
        nextEnabled := true
        previousEnabled := true }
    else
      { aclGeneration := r.lifecycle.aclGeneration }

inductive FilterReconciled where
  | disabled
  | refused (error : UInt32)
  | pollFailed (error : UInt32)
  | polled
  deriving DecidableEq, Repr

namespace V1AvrcpFilterHost

variable (env : AvrcpFilterEnvironment Ω)

/-- A session is active after this, unless it is refused. -/
def ensureSession (r : AvrcpReconciliation) : Program Ω (Except UInt32 Unit) := do
  if ¬ (← Prog.read (·.host.sessionActive)) then
    beginSession env r.lifecycle.aclGeneration r.media
  else
    setMediaSessionSnapshot env r.media
    return .ok ()

/-- `ReconcileAvrcpFilterHost`, as far as the host goes -/
def reconcile (r : AvrcpReconciliation) : Program Ω FilterReconciled := do
  if ¬ r.avrcpVolumeSyncEnabled ∨ r.lifecycle.physicalPresence ≠ .present ∨
      r.lifecycle.hfpSuspended then
    endSession
    return .disabled
  else
    match ← ensureSession env r with
    | .error e => return .refused e
    | .ok () =>
      match ← poll env with
      | .error e =>
        endSession
        return .pollFailed e
      | .ok () => return .polled

/-- The host under reconciliations, with the way out of each. -/
def reconciler : Reducer (AvrcpStage Ω V1AvrcpFilterHost) AvrcpReconciliation
    (Option FilterReconciled) where
  step s r := reconcile env r s

/-! ## A broken handle -/

/-- Broken for good: nothing can be dequeued any more, and no call of the sink mends
    it. -/
structure BreaksForGood (broken : Ω → Prop) : Prop where
  dequeue : ∀ world, broken world → ∃ e, e ≠ errorNoMoreItems ∧
    (env.dequeueEvent world).1 = .error e ∧ broken (env.dequeueEvent world).2
  sink : ∀ {α : Type} {call : Ω → α × Ω}, env.toAvrcpEnvironment.Call call →
    ∀ world, broken world → broken (call world).2

/-- The host holds a broken handle. -/
def Stranded (broken : Ω → Prop) (s : AvrcpStage Ω V1AvrcpFilterHost) : Prop :=
  s.host.isOpen ∧ broken s.world

/-- The host holds a broken handle, with its session active or not. -/
def StrandedIn (broken : Ω → Prop) (active : Bool) (s : AvrcpStage Ω V1AvrcpFilterHost) : Prop :=
  Stranded broken s ∧ s.host.sessionActive = active

section
variable {env} {broken : Ω → Prop} {active : Bool}

theorem strandedIn_discarded (op : V1AvrcpMapperOp) :
    Triple (StrandedIn (Ω := Ω) broken active) (discarded op) (fun _ => StrandedIn broken active)
      (Stranded broken) :=
  .bind (Q := fun _ => StrandedIn broken active) (.step fun _ h => h) fun _ => .pure fun _ h => h

theorem strandedIn_modify {f : V1AvrcpFilterHost → V1AvrcpFilterHost}
    (ho : ∀ host, (f host).isOpen = host.isOpen)
    (ha : ∀ host, (f host).sessionActive = host.sessionActive) :
    Triple (StrandedIn (Ω := Ω) broken active) (modify f) (fun _ => StrandedIn broken active)
      (Stranded broken) :=
  .update fun s h => ⟨⟨(ho s.host).trans h.1.1, h.1.2⟩, (ha s.host).trans h.2⟩

variable (hb : BreaksForGood env broken)
include hb

theorem sturdy_stranded : Sturdy env.toAvrcpEnvironment (StrandedIn broken active) where
  world h s hs := ⟨⟨hs.1.1, hb.sink h s.world hs.1.2⟩, hs.2⟩
  sink _ _ _ hs := hs
  mapper _ _ _ _ hs := hs

theorem strandedIn_executes {x : Program Ω α} (h : Executes env.toAvrcpEnvironment x) :
    Triple (StrandedIn broken active) x (fun _ => StrandedIn broken active) (Stranded broken) :=
  (h.sturdy (sturdy_stranded hb)).conseq (fun _ => id) (fun _ _ => id) fun _ => And.left

theorem strandedIn_dequeue :
    Triple (StrandedIn broken active) (dequeue env)
      (fun r s => (∃ e, e ≠ errorNoMoreItems ∧ r = .error e) ∧ StrandedIn broken active s)
      (Stranded broken) := by
  refine .bind (Q := fun isOpen s => isOpen = true ∧ StrandedIn broken active s)
    (.read fun s h => ⟨h.1.1, h⟩) fun isOpen => .ite (fun _ => .step fun s h => ?_)
      fun hclosed s h => absurd h.1 hclosed
  obtain ⟨e, hne, he, hworld⟩ := hb.dequeue s.world h.2.1.2
  exact ⟨⟨e, hne, he⟩, ⟨h.2.1.1, hworld⟩, h.2.2⟩

theorem strandedIn_drain (n : Nat) :
    Triple (StrandedIn broken active) (drain env n) (fun _ => StrandedIn broken active)
      (Stranded broken) := by
  induction n with
  | zero => exact .pure fun _ h => h
  | succ n ih =>
    refine .bind (strandedIn_dequeue hb) fun answer => ?_
    rcases answer with e | event
    · exact .ite (fun _ => .pure fun _ => And.right) fun _ => .pure fun _ => And.right
    · rintro s ⟨⟨e, -, he⟩, -⟩
      cases he

omit hb in
theorem strandedIn_ensureOpen :
    Triple (StrandedIn broken active) (ensureOpen env) (fun _ => StrandedIn broken active)
      (Stranded broken) := by
  refine .bind (Q := fun isOpen s => isOpen = true ∧ StrandedIn broken active s)
    (.read fun s h => ⟨h.1.1, h⟩) fun isOpen => ?_
  exact .ite (fun _ => .pure fun _ => And.right) fun hclosed s h => absurd h.1 hclosed

theorem strandedIn_prepareGeneration (generation : UInt64) :
    Triple (StrandedIn broken active) (prepareGeneration env generation)
      (fun _ => StrandedIn broken active) (Stranded broken) := by
  refine .bind (Q := fun _ => StrandedIn broken active) (.read fun _ h => h) fun mapper =>
    .ite (fun _ => ?_) fun _ => .pure fun _ h => h
  exact .bind (strandedIn_modify (fun _ => rfl) fun _ => rfl) fun _ => strandedIn_drain hb _

omit hb in
theorem strandedIn_beginGeneration (generation : UInt64) :
    Triple (StrandedIn (Ω := Ω) broken active) (beginGeneration generation)
      (fun _ => StrandedIn broken active) (Stranded broken) := by
  have hbegin : Triple (StrandedIn (Ω := Ω) broken active) (beginUnlessCurrent generation)
      (fun _ => StrandedIn broken active) (Stranded broken) := by
    refine .bind (Q := fun _ => StrandedIn broken active) (.read fun _ h => h) fun current =>
      .ite (fun _ => .pure fun _ h => h) fun _ => ?_
    exact .bind (Q := fun _ => StrandedIn broken active) (.step fun _ h => h) fun _ =>
      .ite (fun _ => .pure fun _ h => h) fun _ => .pure fun _ h => h
  refine .bind (Q := fun _ => StrandedIn broken active) (.read fun _ h => h) fun mapper =>
    .ite (fun _ => ?_) fun _ => hbegin
  exact .bind (strandedIn_discarded _) fun _ => hbegin

theorem strandedIn_startSession (generation : UInt64) (media : V1MediaSessionSnapshot) :
    Triple (StrandedIn broken active) (startSession env generation media)
      (fun _ => StrandedIn broken true) (Stranded broken) := by
  have hmedia : Triple (StrandedIn broken active) (do
      mapAndDispatch env.toAvrcpEnvironment (.setMediaSessionSnapshot media)
      modify fun h => { h with sessionActive := true }) (fun _ => StrandedIn broken true)
      (Stranded broken) :=
    .bind (strandedIn_executes hb (executes_mapAndDispatch _ (.setMediaSessionSnapshot media)
      trivial)) fun _ => .update fun s h => ⟨h.1, rfl⟩
  refine .bind (strandedIn_modify (fun _ => rfl) fun _ => rfl) fun _ =>
    .bind (Q := fun _ => StrandedIn broken active) (.update fun _ h => h) fun _ =>
      .bind (strandedIn_modify (fun _ => rfl) fun _ => rfl) fun _ =>
        .bind (strandedIn_discarded _) fun _ =>
          .bind (Q := fun _ => StrandedIn broken active) (.read fun _ h => h) fun lease =>
            .bind (strandedIn_discarded _) fun _ =>
              .bind (strandedIn_executes hb (.ask .queryWindowsVolume)) fun current => ?_
  rcases current with _ | current
  · exact hmedia
  · exact .bind (strandedIn_discarded _) fun _ => hmedia

theorem beginSession_stranded (generation : UInt64) (media : V1MediaSessionSnapshot) :
    Triple (StrandedIn broken active) (beginSession env generation media)
      (fun r s => Stranded broken s ∧ (r = .ok () → s.host.sessionActive)) (Stranded broken) := by
  have hfailed : ∀ e : UInt32, Triple (StrandedIn (Ω := Ω) broken active)
      (Pure.pure (.error e : Except UInt32 Unit))
      (fun r s => Stranded broken s ∧ (r = .ok () → s.host.sessionActive)) (Stranded broken) :=
    fun e => .pure fun s h => ⟨h.1, fun hr => by cases hr⟩
  refine .bind (Q := fun _ => StrandedIn broken active) (.read fun _ h => h) fun s =>
    .ite (fun _ => hfailed _) fun _ => ?_
  refine .bind (strandedIn_ensureOpen) fun opened => ?_
  rcases opened with e | _
  · exact hfailed e
  refine .bind (strandedIn_prepareGeneration hb generation) fun prepared => ?_
  rcases prepared with e | _
  · exact hfailed e
  refine .bind (strandedIn_beginGeneration generation) fun begun => ?_
  rcases begun with e | _
  · exact hfailed e
  exact .bind (strandedIn_startSession hb generation media) fun _ =>
    .pure fun s h => ⟨h.1, fun _ => h.2⟩

theorem poll_stranded :
    Triple (StrandedIn broken true) (poll env) (fun r s => r ≠ .ok () ∧ Stranded broken s)
      (Stranded broken) := by
  refine .bind (Q := fun active s => active = true ∧ StrandedIn broken true s)
    (.read fun s h => ⟨h.2, h⟩) fun active => .ite (fun _ => ?_) fun hinactive s h =>
      absurd h.1 hinactive
  refine .bind (Q := fun r s => r ≠ .ok () ∧ Stranded broken s) ?_ fun polled => ?_
  · refine Triple.pre (.bind (strandedIn_dequeue hb) fun answer => ?_) fun _ => And.right
    rcases answer with e | event
    · refine .ite (fun hnone => ?_) fun _ => .pure fun s h => ⟨by simp, h.2.1⟩
      rintro s ⟨⟨e', hne, he⟩, -⟩
      cases he
      exact absurd hnone hne
    · rintro s ⟨⟨e, -, he⟩, -⟩
      cases he
  · rcases polled with e | _
    · exact .bind (Q := fun _ => Stranded broken) (.update fun s h => h.2) fun _ =>
        .pure fun s h => ⟨by simp, h⟩
    · exact fun s h => absurd rfl h.1

omit hb in
theorem endSession_stranded :
    Triple (Stranded (Ω := Ω) broken) endSession (fun _ => Stranded broken) (Stranded broken) := by
  have hmodify : ∀ f : V1AvrcpFilterHost → V1AvrcpFilterHost,
      (∀ host, (f host).isOpen = host.isOpen) →
      Triple (Stranded (Ω := Ω) broken) (modify f) (fun _ => Stranded broken) (Stranded broken) :=
    fun f hf => .update fun s h => ⟨(hf s.host).trans h.1, h.2⟩
  refine .bind (Q := fun _ => Stranded broken) (.read fun _ h => h) fun s =>
    .ite (fun _ => ?_) fun _ => hmodify _ fun _ => rfl
  have hrevoke : ∀ op, Triple (Stranded (Ω := Ω) broken) (discarded op) (fun _ => Stranded broken)
      (Stranded broken) :=
    fun op => .bind (Q := fun _ => Stranded broken) (.step fun _ h => h) fun _ => .pure fun _ h => h
  exact .bind (hrevoke _) fun _ => hmodify _ fun _ => rfl

theorem reconcile_stranded (r : AvrcpReconciliation) :
    Triple (Stranded broken) (reconcile env r)
      (fun way s => way ≠ .polled ∧ Stranded broken s) (Stranded broken) := by
  refine .ite (fun _ => .bind endSession_stranded fun _ => .pure fun s h => ⟨by simp, h⟩)
    fun _ => ?_
  have hsession : Triple (Stranded broken) (ensureSession env r)
      (fun r s => Stranded broken s ∧ (r = .ok () → s.host.sessionActive)) (Stranded broken) := by
    refine .bind (Q := fun active => StrandedIn broken active) (.read fun s h => ⟨h, rfl⟩)
      fun active => .ite (fun _ => beginSession_stranded hb _ _) fun hactive => ?_
    rw [not_not] at hactive
    subst hactive
    refine .bind (Q := fun _ => StrandedIn broken true) ?_ fun _ =>
      .pure fun s h => ⟨h.1, fun _ => h.2⟩
    refine .bind (strandedIn_modify (fun _ => rfl) fun _ => rfl) fun _ =>
      .bind (Q := fun _ => StrandedIn broken true) (.read fun _ h => h) fun active =>
        .ite (fun _ => ?_) fun _ => .pure fun _ h => h
    exact strandedIn_executes hb
      (executes_mapAndDispatch _ (.setMediaSessionSnapshot r.media) trivial)
  refine .bind hsession fun begun => ?_
  rcases begun with e | _
  · exact .pure fun s h => ⟨by simp, h.1⟩
  refine Triple.pre (.bind (poll_stranded hb) fun polled => ?_) fun s h => ⟨h.1, h.2 rfl⟩
  rcases polled with e | _
  · exact .bind (endSession_stranded.pre fun _ => And.right) fun _ =>
      .pure fun s h => ⟨by simp, h⟩
  · exact fun s h => absurd rfl h.1

theorem stranded_along {s : AvrcpStage Ω V1AvrcpFilterHost} (hs : Stranded broken s)
    (rs : List AvrcpReconciliation) :
    (reconciler env).Along (fun s r => (reconciler env).out s r ≠ some .polled) s rs ∧
      Stranded broken ((reconciler env).after s rs) := by
  have hstep : ∀ s r, Stranded broken s →
      (reconciler env).out s r ≠ some .polled ∧ Stranded broken ((reconciler env).next s r) := by
    intro s r h
    have h := reconcile_stranded hb r s h
    simp only [Reducer.out, Reducer.next, reconciler]
    generalize reconcile env r s = result at h ⊢
    rcases result with ⟨_ | way, s'⟩
    · exact ⟨by simp, h⟩
    · exact ⟨fun heq => h.1 (Option.some.inj heq), h.2⟩
  refine ⟨Reducer.along_of_inv (P := Stranded broken) (Q := fun _ _ => True)
    (fun s r h _ => (hstep s r h).2) (fun s r h _ => (hstep s r h).1) hs ?_, ?_⟩
  · exact Reducer.along_of_forall (fun _ _ => trivial) _ _
  · exact Reducer.after_inv (Q := fun _ _ => True) (fun s r h _ => (hstep s r h).2) hs
      (Reducer.along_of_forall (fun _ _ => trivial) _ _)

end

/-- **A broken handle is for good**: once the handle that the host holds is broken, no
    reconciliation ends with a poll, and none opens another handle. -/
theorem never_recovers (env : AvrcpFilterEnvironment Ω) {broken : Ω → Prop}
    (hb : BreaksForGood env broken) (s : AvrcpStage Ω V1AvrcpFilterHost) (hopen : s.host.isOpen)
    (hbroken : broken s.world) (rs : List AvrcpReconciliation) :
    (reconciler env).Along (fun s r => (reconciler env).out s r ≠ some .polled) s rs ∧
      ((reconciler env).after s rs).host.isOpen ∧ broken ((reconciler env).after s rs).world :=
  stranded_along hb ⟨hopen, hbroken⟩ rs

def HandleBroken (world : List Nat) : Prop := world.head? = some 0

instance (world : List Nat) : Decidable (HandleBroken world) :=
  inferInstanceAs (Decidable (_ = _))

def errorNoSuchDevice : UInt32 := 433

/-- A device whose handles break: the world counts what can be dequeued on each of them,
    and the handles that come last work for good. -/
def fragileFilter : AvrcpFilterEnvironment (List Nat) where
  ensureVolume world := (true, world)
  setWindowsVolume _ world := (true, world)
  queryWindowsVolume world := (none, world)
  windowsVolumeNotificationsActive world := (true, world)
  consumeWindowsVolumeChange world := (none, world)
  injectVirtualKey _ world := (true, world)
  writeAvrcp _ _ _ world := (true, world)
  getTickCount world := (0, world)
  openFilter world := (.ok (), world.tail)
  dequeueEvent world :=
    (.error (if world.head? = some 0 then errorNoSuchDevice else errorNoMoreItems),
      world.modifyHead (· - 1))

theorem fragileFilter_breaks : BreaksForGood fragileFilter HandleBroken where
  dequeue world h := by
    obtain ⟨rest, rfl⟩ := List.head?_eq_some_iff.mp h
    exact ⟨errorNoSuchDevice, by decide, rfl, rfl⟩
  sink h world hw := by
    cases h <;> exact hw

def connected (aclGeneration : UInt64) : AvrcpReconciliation where
  avrcpVolumeSyncEnabled := true
  lifecycle := { physicalPresence := .present, aclGeneration := aclGeneration }
  monitored := none

/-- The host after its handle broke. -/
def brokenRun : AvrcpStage (List Nat) V1AvrcpFilterHost :=
  (reconciler fragileFilter).after (fresh [0, 3]) [connected 1, connected 1]

/-- The device can be opened again, and would work; the host does not open it. -/
theorem reopening_missed :
    (reconciler fragileFilter).Along
        (fun s r => (reconciler fragileFilter).out s r = some .polled) (fresh [0, 3])
        [connected 1, connected 1] ∧
      fragileFilter.openFilter brokenRun.world = (.ok (), []) ∧
      ∀ rs, (reconciler fragileFilter).Along
        (fun s r => (reconciler fragileFilter).out s r ≠ some .polled) brokenRun rs := by
  refine ⟨by decide +kernel, rfl, fun rs => ?_⟩
  exact (stranded_along fragileFilter_breaks ⟨by decide +kernel, by decide +kernel⟩ rs).1

/-- A reconnection does not mend it either. -/
theorem never_recovers_reconnected :
    (reconciler fragileFilter).Along
      (fun s r => (reconciler fragileFilter).out s r ≠ some .polled) brokenRun
      [connected 1, connected 1, connected 2] :=
  (never_recovers fragileFilter fragileFilter_breaks brokenRun (by decide +kernel)
    (by decide +kernel) [connected 1, connected 1, connected 2]).1

end V1AvrcpFilterHost

end NativeLdac.Agent
