/-
  What the AVRCP executor leaves alone: the host that drives it, and the
  mapper's ACL generation.

  * `Executes`: a program is made of calls of the sink and observations of the
    mapper; the programs of the executor are;
  * `Backstage`: a view of the stage that such programs leave unchanged
    (`Executes.frames`).
-/
import NativeLdac.Agent.AvrcpExecutor
import NativeLdac.Agent.AvrcpMapperGates

namespace NativeLdac.Agent

open AvrcpStage Prog

def WithinGeneration : V1AvrcpMapperOp → Prop
  | .beginAclGeneration _ | .endAclGeneration _ => False
  | _ => True

def V1AvrcpControlMapperState.generation (m : V1AvrcpControlMapperState) : UInt64 × Bool :=
  (m.aclGeneration, m.aclGenerationCurrent)

theorem generation_untouched {m m' : V1AvrcpControlMapperState} (h : Untouched m m') :
    m'.generation = m.generation := by
  have hg := congrArg Authorization.aclGeneration h.media
  have hc := congrArg Authorization.current h.media
  exact Prod.ext hg hc

theorem generation_step (m : V1AvrcpControlMapperState) {op : V1AvrcpMapperOp}
    (h : WithinGeneration op) : (avrcpMapper.next m op).generation = m.generation := by
  cases (own_next m op).2 with
  | begins g => exact h.elim
  | ends g => exact h.elim
  | same hg hc => exact Prod.ext hg hc
  | acquires g lease hg hc => exact Prod.ext hg hc
  | revokes g lease hg hc => exact Prod.ext hg hc
  | sees g volume event hg hc => exact Prod.ext hg hc

theorem generation_begin (m : V1AvrcpControlMapperState) (g : UInt64) :
    (avrcpMapper.next m (.beginAclGeneration g)).generation = (g, true) ∧
        (avrcpMapper.out m (.beginAclGeneration g)).aclGeneration = g ∨
      (avrcpMapper.next m (.beginAclGeneration g)).generation = m.generation ∧
        (avrcpMapper.out m (.beginAclGeneration g)).aclGeneration = 0 := by
  simp only [Reducer.next, Reducer.out, avrcpMapper, v1AvrcpBeginAclGeneration]
  split_ifs
  · exact .inr ⟨rfl, rfl⟩
  · exact .inl ⟨rfl, rfl⟩

theorem generation_end {m : V1AvrcpControlMapperState} (hcurrent : m.aclGenerationCurrent)
    (hnonzero : m.aclGeneration ≠ 0) :
    (avrcpMapper.next m (.endAclGeneration m.aclGeneration)).generation =
      (m.aclGeneration, false) := by
  have hc : m.isCurrentGeneration m.aclGeneration :=
    isCurrentGeneration_iff.mpr ⟨hnonzero, hcurrent, rfl⟩
  simp only [Reducer.next, avrcpMapper, v1AvrcpEndAclGeneration]
  rw [if_neg (not_not.mpr hc)]
  rfl

variable {Ω H ν : Type} {env : AvrcpEnvironment Ω}

/-! ## Programs of the executor -/

/-- An operation that only observes, or sets the media session. -/
def Observes : V1AvrcpMapperOp → Prop
  | .observeVolumeCapability .. | .observeWindowsVolume .. | .observeXm5AbsoluteVolume ..
  | .observePassThrough .. | .setMediaSessionSnapshot .. => True
  | _ => False

theorem Observes.untouched {op : V1AvrcpMapperOp} (h : Observes op)
    (m : V1AvrcpControlMapperState) : Untouched m (avrcpMapper.next m op) := by
  apply untouched_observation
  cases op <;> exact h

inductive AvrcpEnvironment.Call (env : AvrcpEnvironment Ω) : {α : Type} → (Ω → α × Ω) → Prop
  | ensureVolume : env.Call env.ensureVolume
  | setWindowsVolume (volume : AvrcpWindowsVolume) : env.Call (env.setWindowsVolume volume)
  | queryWindowsVolume : env.Call env.queryWindowsVolume
  | windowsVolumeNotificationsActive : env.Call env.windowsVolumeNotificationsActive
  | consumeWindowsVolumeChange : env.Call env.consumeWindowsVolumeChange
  | injectVirtualKey (vk : UInt16) : env.Call (env.injectVirtualKey vk)
  | writeAvrcp (pdu response : UInt32) (parameters : List UInt8) :
    env.Call (env.writeAvrcp pdu response parameters)
  | getTickCount : env.Call env.getTickCount

/-- A program made of calls of the sink, observations of the mapper and changes of
    the sink's own fields. -/
inductive Executes (env : AvrcpEnvironment Ω) : {α : Type} → Prog (AvrcpStage Ω H) α → Prop
  | stuck {α : Type} : Executes env (fun s => ((none : Option α), s))
  | pure {α : Type} (a : α) : Executes env (Pure.pure a)
  | read {α : Type} (f : AvrcpStage Ω H → α) : Executes env (Prog.read f)
  | ask {α : Type} {call : Ω → α × Ω} (h : env.Call call) : Executes env (ask call)
  | mapped (op : V1AvrcpMapperOp) (h : Observes op) (dispatched : Bool) :
    Executes env (mapped op dispatched)
  | keep (write : PendingWrite) (g : UInt64) : Executes env (keep write g)
  | drop (slot : PendingSlot) : Executes env (drop slot)
  | retried (write : PendingWrite) : Executes env (retried write)
  | bind {α β : Type} {x : Prog (AvrcpStage Ω H) α} {f : α → Prog (AvrcpStage Ω H) β}
    (hx : Executes env x) (hf : ∀ a, Executes env (f a)) : Executes env (x >>= f)

section
variable {env : AvrcpEnvironment Ω}

theorem Executes.ite {α : Type} {c : Prop} [Decidable c] {x y : Prog (AvrcpStage Ω H) α}
    (hx : Executes env x) (hy : Executes env y) : Executes env (if c then x else y) := by
  by_cases h : c
  · rw [if_pos h]
    exact hx
  · rw [if_neg h]
    exact hy

theorem Executes.iterate {ι β : Type} {body : ι → Prog (AvrcpStage Ω H) (ι ⊕ β)}
    (hb : ∀ i, Executes env (body i)) (n : Nat) (i : ι) :
    Executes env (Prog.iterate body n i) := by
  induction n generalizing i with
  | zero => exact .stuck
  | succ n ih =>
    refine .bind (hb i) fun r => ?_
    rcases r with j | b
    · exact ih j
    · exact .pure b

end

section
variable (env : AvrcpEnvironment Ω)

theorem executes_attempt (write : PendingWrite) :
    Executes (H := H) env (write.attempt env) := by
  cases write with
  | windowsVolume volume => exact .ask (.setWindowsVolume volume)
  | xm5Volume volume => exact .ask (.writeAvrcp _ _ _)
  | playbackStatus status => exact .ask (.writeAvrcp _ _ _)

theorem executes_handleWindowsVolume (actions : V1AvrcpActionSet) :
    Executes (H := H) env (handleWindowsVolume env actions) := by
  have hrest : ∀ applied : Bool, Executes (H := H) env (if applied then do
        AvrcpStage.drop .windowsVolume
        return true
      else do
        AvrcpStage.keep (.windowsVolume actions.windowsVolume) actions.aclGeneration
        return false) := by
    intro applied
    exact .ite (.bind (.drop _) fun _ => .pure _) (.bind (.keep _ _) fun _ => .pure _)
  refine .ite (.bind (.read _) fun apply => ?_) (.pure _)
  exact .ite (.bind (executes_attempt env _) hrest) (.bind (.pure _) hrest)

theorem executes_handleKeys (actions : V1AvrcpActionSet) (keys : List V1AvrcpAction) :
    Executes (H := H) env (handleKeys env actions keys) := by
  induction keys with
  | nil => exact .pure _
  | cons action rest ih =>
    have hrest : ∀ injected : Bool, Executes (H := H) env (do
        let ok ← handleKeys env actions rest
        return injected && ok) :=
      fun _ => .bind ih fun _ => .pure _
    refine .bind (.read _) fun apply => .ite (.ite ?_ ?_) (.bind (.pure _) hrest)
    · exact .bind (.ask (.injectVirtualKey _)) hrest
    · exact .bind (.pure _) hrest

theorem executes_handleWrite (actions : V1AvrcpActionSet) (action : V1AvrcpAction)
    (write : PendingWrite) : Executes (H := H) env (handleWrite env actions action write) := by
  refine .ite (.bind (.read _) fun sink => .ite ?_ (.pure _)) (.pure _)
  exact .bind (executes_attempt env write) fun _ => .ite (.drop _) (.keep _ _)

theorem executes_handle (actions : V1AvrcpActionSet) :
    Executes (H := H) env (handle env actions) :=
  .bind (executes_handleWindowsVolume env actions) fun _ =>
    .bind (executes_handleKeys env actions _) fun _ =>
      .bind (executes_handleWrite env actions _ _) fun _ =>
        .bind (executes_handleWrite env actions _ _) fun _ => .pure _

theorem executes_retrySlot (slot : PendingSlot) : Executes (H := H) env (retrySlot env slot) := by
  refine .bind (.read _) fun pending => ?_
  rcases pending with _ | write
  · exact .pure _
  · refine .bind (.retried write) fun _ => .bind (executes_attempt env write) fun _ => ?_
    exact .ite (.drop slot) (.pure _)

theorem executes_retryPendingWrites : Executes (H := H) env (retryPendingWrites env) := by
  have hslots : Executes (H := H) env (do
      retrySlot env .xm5Volume
      retrySlot env .playbackStatus) :=
    .bind (executes_retrySlot env _) fun _ => executes_retrySlot env _
  refine .bind (.read _) fun sink => .ite ?_ (.pure _)
  refine .ite (.bind (.ask .ensureVolume) fun _ => .ite ?_ ?_) ?_
  · exact .bind (executes_retrySlot env _) fun _ => .ite hslots (.pure _)
  · exact .bind (.pure _) fun _ => .ite hslots (.pure _)
  · exact .bind (.pure _) fun _ => .ite hslots (.pure _)

theorem executes_dispatchRound (actions : V1AvrcpActionSet) :
    Executes (H := H) env (dispatchRound env actions) := by
  refine .ite (.pure _) (.bind (executes_handle env actions) fun _ =>
    .ite (.ite ?_ (.pure _)) (.pure _))
  refine .bind (.ask .queryWindowsVolume) fun readback => ?_
  rcases readback with _ | readback
  · exact .pure _
  · refine .bind (.read _) fun generation => .bind ?_ fun _ => .pure _
    exact .mapped (.observeWindowsVolume generation readback) trivial true

theorem executes_dispatch (actions : V1AvrcpActionSet) :
    Executes (H := H) env (v1AvrcpDispatchAuthorizedActions env actions) :=
  .iterate (executes_dispatchRound env) 2 actions

theorem dispatch_nothing {actions : V1AvrcpActionSet}
    (h : actions.actions = [] ∨ ¬ actions.authorizedCurrent) :
    v1AvrcpDispatchAuthorizedActions (H := H) env actions = Pure.pure () := by
  show (dispatchRound env actions >>= fun r => _) = _
  rw [dispatchRound, if_pos h]
  rfl

theorem executes_mapAndDispatch (op : V1AvrcpMapperOp) (hop : Observes op) :
    Executes (H := H) env (mapAndDispatch env op) :=
  .bind (.mapped op hop true) fun _ => executes_dispatch env _

theorem observes_event {event : V1AvrcpObservedEvent} {op : V1AvrcpMapperOp}
    (h : event.op = some op) : Observes op := by
  unfold V1AvrcpObservedEvent.op at h
  cases hkind : event.kind <;> rw [hkind] at h <;> cases h <;> trivial

theorem executes_feedEvent {event : V1AvrcpObservedEvent} (hs : event.kind ≠ .generationStarted)
    (he : event.kind ≠ .generationEnded) (options : V1AvrcpReplayOptions) :
    Executes (H := H) env (v1AvrcpFeedEvent env event options) := by
  refine .bind (.read _) fun mapper => .ite (.pure _) ?_
  rw [if_neg hs, if_neg he]
  refine .ite (.pure _) ?_
  rcases hop : event.op with _ | op
  · exact .pure _
  · exact .bind (executes_mapAndDispatch env op (observes_event hop)) fun _ => .pure _

end

/-- A view of the stage that neither the sink nor its calls nor the mapper's
    observations change. -/
structure Backstage (env : AvrcpEnvironment Ω) (v : AvrcpStage Ω H → ν) : Prop where
  world : ∀ {α : Type} {call : Ω → α × Ω}, env.Call call → ∀ s,
    v { s with world := (call s.world).2 } = v s
  sink : ∀ s sink log, v { s with sink := sink, log := log } = v s
  mapper : ∀ s mapper log, Untouched s.mapper mapper →
    v { s with mapper := mapper, log := log } = v s

theorem Executes.frames {α : Type} {x : Prog (AvrcpStage Ω H) α} {v : AvrcpStage Ω H → ν}
    (h : Executes env x) (hv : Backstage env v) : Frames v x := by
  induction h with
  | stuck => exact fun _ => rfl
  | pure a => exact .pure a
  | read f => exact .read f
  | ask h => exact .step fun s => hv.world h s
  | mapped op h dispatched => exact .step fun s => hv.mapper s _ _ (h.untouched s.mapper)
  | keep write g => exact .update fun s => hv.sink s _ _
  | drop slot => exact .update fun s => hv.sink s _ s.log
  | retried write => exact .update fun s => hv.sink s s.sink _
  | bind hx hf ihx ihf => exact .bind ihx ihf

theorem Executes.keeps {α : Type} {x : Prog (AvrcpStage Ω H) α} {v : AvrcpStage Ω H → ν}
    {P : AvrcpStage Ω H → Prop} (h : Executes env x) (hv : Backstage env v)
    (hP : ∀ s s', v s' = v s → P s → P s') :
    Triple P x (fun _ => P) P := by
  intro s hs
  have hframe := h.frames hv s
  generalize x s = r at hframe ⊢
  rcases r with ⟨_ | a, s'⟩
  · exact hP s s' hframe hs
  · exact hP s s' hframe hs

/-- What neither the sink nor its calls nor the mapper's observations break. -/
structure Sturdy (env : AvrcpEnvironment Ω) (I : AvrcpStage Ω H → Prop) : Prop where
  world : ∀ {α : Type} {call : Ω → α × Ω}, env.Call call → ∀ s, I s →
    I { s with world := (call s.world).2 }
  sink : ∀ s sink log, I s → I { s with sink := sink, log := log }
  mapper : ∀ s mapper log, Untouched s.mapper mapper → I s →
    I { s with mapper := mapper, log := log }

theorem Executes.sturdy {α : Type} {x : Prog (AvrcpStage Ω H) α} {I : AvrcpStage Ω H → Prop}
    (h : Executes env x) (hI : Sturdy env I) :
    Triple I x (fun _ => I) I := by
  induction h with
  | stuck => exact fun _ hs => hs
  | pure a => exact .pure fun _ hs => hs
  | read f => exact .read fun _ hs => hs
  | ask h => exact .step fun s hs => hI.world h s hs
  | mapped op h dispatched => exact .step fun s hs => hI.mapper s _ _ (h.untouched s.mapper) hs
  | keep write g => exact .update fun s hs => hI.sink s _ _ hs
  | drop slot => exact .update fun s hs => hI.sink s _ s.log hs
  | retried write => exact .update fun s hs => hI.sink s s.sink _ hs
  | bind hx hf ihx ihf => exact .bind ihx ihf

/-! ## Views of the host -/

/-- A view of the stage that sees neither the world nor the sink nor the log, and
    only the generation of the mapper. -/
structure Offstage (v : AvrcpStage Ω H → ν) : Prop where
  world : ∀ s world, v { s with world := world } = v s
  sink : ∀ s sink log, v { s with sink := sink, log := log } = v s
  mapper : ∀ s mapper log, mapper.generation = s.mapper.generation →
    v { s with mapper := mapper, log := log } = v s

namespace Offstage

variable {v : AvrcpStage Ω H → ν} (hv : Offstage v)
include hv

theorem backstage (env : AvrcpEnvironment Ω) : Backstage env v where
  world _ s := hv.world s _
  sink := hv.sink
  mapper s mapper log h := hv.mapper s mapper log (generation_untouched h)

theorem ask {α : Type} (call : Ω → α × Ω) : Frames v (ask call) :=
  .step fun s => hv.world s _

theorem mapped (op : V1AvrcpMapperOp) (hop : WithinGeneration op) (dispatched : Bool) :
    Frames v (mapped op dispatched) :=
  .step fun s => hv.mapper s _ _ (generation_step s.mapper hop)

theorem discarded {op : V1AvrcpMapperOp} (hop : WithinGeneration op) :
    Frames v (discarded op) :=
  .bind (hv.mapped op hop _) fun _ => .pure ()

variable (env : AvrcpEnvironment Ω)

theorem retryPendingWrites : Frames v (retryPendingWrites env) :=
  (executes_retryPendingWrites env).frames (hv.backstage env)

theorem dispatch (actions : V1AvrcpActionSet) :
    Frames v (v1AvrcpDispatchAuthorizedActions env actions) :=
  (executes_dispatch env actions).frames (hv.backstage env)

theorem mapAndDispatch {op : V1AvrcpMapperOp} (hop : WithinGeneration op) :
    Frames v (mapAndDispatch env op) :=
  .bind (hv.mapped op hop true) fun _ => hv.dispatch env _

theorem feedEvent {event : V1AvrcpObservedEvent} (hs : event.kind ≠ .generationStarted)
    (he : event.kind ≠ .generationEnded) (options : V1AvrcpReplayOptions) :
    Frames v (v1AvrcpFeedEvent env event options) :=
  (executes_feedEvent env hs he options).frames (hv.backstage env)

end Offstage

end NativeLdac.Agent
