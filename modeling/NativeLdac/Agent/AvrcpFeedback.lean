/-
  The recursion of the AVRCP action executor (`agent/v1_avrcp_action_executor.cpp`,
  `V1AvrcpDispatchAuthorizedActions`): an applied Windows volume is read back, the mapper observes
  it, and what the mapper answers is dispatched in turn.

  * `V1AvrcpActionSink` is any sink, with a world of its own;
  * `FeedStage.dispatch` and `FeedStage.feedEvent` have the recursion with fuel: without fuel they
    return nothing;
  * `dispatchRound_feedback`: what the mapper answers to a read back volume sets no Windows volume,
    so that the recursion ends there.
-/
import NativeLdac.Agent.AvrcpRetryRuns

namespace NativeLdac.Agent

structure V1AvrcpReplayStats where
  recognizedEvents : UInt64 := 0
  ignoredLines : UInt64 := 0
  actionSets : UInt64 := 0
  sinkAccepted : UInt64 := 0
  generationEnded : UInt64 := 0
  errors : UInt64 := 0
deriving DecidableEq, Repr

/-- The calls of a sink, which may change its world `Ω`; a query that fails gives no volume. -/
structure V1AvrcpActionSink (Ω : Type) where
  handle : V1AvrcpActionSet → Ω → Bool × Ω
  queryWindowsVolume : Ω → Option AvrcpWindowsVolume × Ω

/-- The world of the sink, the mapper, the counters, and the sets that `Handle` was called with. -/
structure FeedStage (Ω : Type) where
  world : Ω
  mapper : V1AvrcpControlMapperState := {}
  stats : V1AvrcpReplayStats := {}
  handled : List V1AvrcpActionSet := []

namespace FeedStage

variable {Ω : Type}

def mapped (s : FeedStage Ω) (op : V1AvrcpMapperOp) : V1AvrcpActionSet × FeedStage Ω :=
  (avrcpMapper.out s.mapper op, { s with mapper := avrcpMapper.next s.mapper op })

def discarded (s : FeedStage Ω) (op : V1AvrcpMapperOp) : FeedStage Ω := (s.mapped op).2

def count (s : FeedStage Ω) (f : V1AvrcpReplayStats → V1AvrcpReplayStats) : FeedStage Ω :=
  { s with stats := f s.stats }

def error (s : FeedStage Ω) : FeedStage Ω :=
  s.count fun stats => { stats with errors := stats.errors + 1 }

def recognized (s : FeedStage Ω) : FeedStage Ω :=
  s.count fun stats => { stats with recognizedEvents := stats.recognizedEvents + 1 }

def ignored (s : FeedStage Ω) : FeedStage Ω :=
  s.count fun stats => { stats with ignoredLines := stats.ignoredLines + 1 }

section
variable (sink : Option (V1AvrcpActionSink Ω))

/-- One call of `V1AvrcpDispatchAuthorizedActions`, up to the one it makes of itself: the set that
it makes it with, if it does. -/
def dispatchRound (actions : V1AvrcpActionSet) (s : FeedStage Ω) :
    Option V1AvrcpActionSet × FeedStage Ω :=
  if actions.actions = [] ∨ ¬ actions.authorizedCurrent then (none, s)
  else
    let s := s.count fun stats => { stats with actionSets := stats.actionSets + 1 }
    match sink with
    | none => (none, s)
    | some sink =>
      let (accepted, world) := sink.handle actions s.world
      let s := { s with world := world, handled := s.handled ++ [actions] }
      if ¬ accepted then (none, s)
      else
        let s := s.count fun stats => { stats with sinkAccepted := stats.sinkAccepted + 1 }
        if v1AvrcpHasAction actions .setWindowsVolume then
          let (answer, world) := sink.queryWindowsVolume s.world
          let s := { s with world := world }
          match answer with
          | none => (none, s)
          | some readback =>
            let (feedback, s) := s.mapped (.observeWindowsVolume s.mapper.aclGeneration readback)
            (some feedback, s)
        else (none, s)

/-- `V1AvrcpDispatchAuthorizedActions` -/
def dispatch : Nat → V1AvrcpActionSet → FeedStage Ω → Option (FeedStage Ω)
  | 0, _, _ => none
  | fuel + 1, actions, s =>
    match dispatchRound sink actions s with
    | (none, s) => some s
    | (some feedback, s) => dispatch fuel feedback s

/-- The branch of `V1AvrcpFeedEvent` that starts a generation. -/
def feedGenerationStarted (fuel : Nat) (generation : UInt64) (options : V1AvrcpReplayOptions)
    (s : FeedStage Ω) : Option (Bool × FeedStage Ω) :=
  if s.mapper.aclGenerationCurrent then some (false, s.error)
  else
    let (actions, s) := s.mapped (.beginAclGeneration generation)
    if actions.aclGeneration = 0 then some (false, s.error)
    else
      let s := s.discarded (.setControlMode generation options.volumeSync options.mediaRouting)
      let s := s.discarded (.acquireOwnerLease generation options.ownerLease)
      let s := { s with mapper := { s.mapper with
        headsetPreferred := options.headsetPreferred
        xm5VolumeSeen := false } }
      let s := s.discarded (.observeWindowsVolume generation options.initialWindowsVolume)
      let (mediaActions, s) := s.mapped
        (.setMediaSessionSnapshot { options.mediaSession with aclGeneration := generation })
      (dispatch sink fuel mediaActions s).map fun s => (true, s.recognized)

def feedEvent (fuel : Nat) (event : V1AvrcpObservedEvent) (options : V1AvrcpReplayOptions)
    (s : FeedStage Ω) : Option (Bool × FeedStage Ω) :=
  if event.generation = 0 then some (false, s.error)
  else if event.kind = .generationStarted then
    feedGenerationStarted sink fuel event.generation options s
  else if event.kind = .generationEnded then
    if ¬ s.mapper.aclGenerationCurrent then some (false, s.error)
    else
      let s := (s.discarded (.endAclGeneration event.generation)).recognized
      some (true, s.count fun stats => { stats with generationEnded := stats.generationEnded + 1 })
  else if ¬ s.mapper.aclGenerationCurrent then some (true, s.ignored)
  else if event.generation ≠ s.mapper.aclGeneration then some (true, s.error)
  else
    match event.op with
    | none => some (true, s.ignored)
    | some op =>
      let (actions, s) := s.mapped op
      (dispatch sink fuel actions s.recognized).map fun s => (true, s)

end

/-! ## The rounds -/

/-- What one round does to the sets that are handled. -/
inductive Round (actions : V1AvrcpActionSet) (s : FeedStage Ω) :
    Option V1AvrcpActionSet × FeedStage Ω → Prop
  /-- nothing is handled -/
  | skipped {s'} : s'.handled = s.handled → Round actions s (none, s')
  | handled {s'} : s'.handled = s.handled ++ [actions] → Round actions s (none, s')
  /-- the Windows volume was set and read back -/
  | feedback {feedback s'} : s'.handled = s.handled ++ [actions] →
      v1AvrcpHasAction actions .setWindowsVolume →
      ¬ v1AvrcpHasAction feedback .setWindowsVolume → Round actions s (some feedback, s')

section
variable {sink : Option (V1AvrcpActionSink Ω)} {actions : V1AvrcpActionSet} {s : FeedStage Ω}

theorem dispatchRound_round : Round actions s (dispatchRound sink actions s) := by
  unfold dispatchRound
  split
  · exact .skipped rfl
  · cases sink with
    | none => exact .skipped rfl
    | some sink =>
      dsimp only
      split
      · exact .handled rfl
      · split
        · rename_i hset
          split
          · exact .handled rfl
          · exact .feedback rfl hset (observeWindowsVolume_sets_nothing _ _ _)
        · exact .handled rfl

theorem dispatch_once (hset : ¬ v1AvrcpHasAction actions .setWindowsVolume) :
    ∃ s', (∀ more, dispatch sink (1 + more) actions s = some s') ∧
      (s'.handled = s.handled ∨ s'.handled = s.handled ++ [actions]) := by
  have hround : Round actions s (dispatchRound sink actions s) := dispatchRound_round
  have hdispatch : ∀ more, dispatch sink (1 + more) actions s =
      match dispatchRound sink actions s with
      | (none, s) => some s
      | (some feedback, s) => dispatch sink more feedback s := fun more => by
    rw [Nat.add_comm, dispatch]
  simp only [hdispatch]
  generalize dispatchRound sink actions s = round at hround ⊢
  cases hround with
  | @skipped s' hhandled => exact ⟨s', fun _ => rfl, .inl hhandled⟩
  | @handled s' hhandled => exact ⟨s', fun _ => rfl, .inr hhandled⟩
  | feedback _ hset' => exact absurd hset' hset

/-- The sets that one event leads to: none, one, or one and then the feedback to the Windows volume
that it set. -/
inductive Handled : List V1AvrcpActionSet → Prop
  | nothing : Handled []
  | once (actions : V1AvrcpActionSet) : Handled [actions]
  | twice {actions feedback : V1AvrcpActionSet} : v1AvrcpHasAction actions .setWindowsVolume →
      ¬ v1AvrcpHasAction feedback .setWindowsVolume → Handled [actions, feedback]

theorem dispatch_twice (sink : Option (V1AvrcpActionSink Ω)) (actions : V1AvrcpActionSet)
    (s : FeedStage Ω) :
    ∃ s' sets, (∀ more, dispatch sink (2 + more) actions s = some s') ∧
      s'.handled = s.handled ++ sets ∧ Handled sets := by
  have hround : Round actions s (dispatchRound sink actions s) := dispatchRound_round
  have hdispatch : ∀ more, dispatch sink (2 + more) actions s =
      match dispatchRound sink actions s with
      | (none, s) => some s
      | (some feedback, s) => dispatch sink (1 + more) feedback s := fun more => by
    rw [show 2 + more = (1 + more) + 1 by omega, dispatch]
  simp only [hdispatch]
  generalize dispatchRound sink actions s = round at hround ⊢
  cases hround with
  | @skipped s' hhandled =>
    exact ⟨s', [], fun _ => rfl, by rw [hhandled, List.append_nil], .nothing⟩
  | @handled s' hhandled => exact ⟨s', [actions], fun _ => rfl, hhandled, .once actions⟩
  | @feedback feedback s' hhandled hset hset' =>
    obtain ⟨s'', hlast, hskipped | hfed⟩ := @dispatch_once _ sink feedback s' hset'
    · exact ⟨s'', [actions], hlast, hskipped.trans hhandled, .once actions⟩
    · refine ⟨s'', [actions, feedback], hlast, ?_, .twice hset hset'⟩
      rw [hfed, hhandled, List.append_assoc]
      rfl

end

end FeedStage

open FeedStage

theorem handled_sends {sets : List V1AvrcpActionSet} (h : Handled sets) :
    sets.length ≤ 2 ∧ (∀ feedback ∈ sets.tail, ¬ v1AvrcpHasAction feedback .setWindowsVolume) ∧
      sets.tail.countP (fun feedback => v1AvrcpHasAction feedback .sendXm5Volume) ≤ 1 := by
  have hone : ∀ sets : List V1AvrcpActionSet, sets.length ≤ 1 →
      sets.countP (fun feedback => v1AvrcpHasAction feedback .sendXm5Volume) ≤ 1 :=
    fun sets hsets => List.countP_le_length.trans hsets
  cases h with
  | nothing => exact ⟨by decide, by simp, hone _ (by decide)⟩
  | once actions => exact ⟨by simp, by simp, hone _ (by simp)⟩
  | @twice actions feedback _ hset =>
    refine ⟨by simp, fun feedback' hmem => ?_, hone _ (by simp)⟩
    rwa [List.mem_singleton.mp hmem]

/-- **Every event is fed**, whatever the sink answers and in whatever state the mapper is: two
rounds of dispatching are enough, the second one is made for a set that sets no Windows volume, and
at most one volume is sent to the headset in it. -/
theorem feedEvent_ends {Ω : Type} (sink : Option (V1AvrcpActionSink Ω))
    (event : V1AvrcpObservedEvent) (options : V1AvrcpReplayOptions) (s : FeedStage Ω) :
    (∀ mapper generation observed, ¬ v1AvrcpHasAction
      (avrcpMapper.out mapper (.observeWindowsVolume generation observed)) .setWindowsVolume) ∧
    ∃ result s' sets, (∀ more, feedEvent sink (2 + more) event options s = some (result, s')) ∧
      s'.handled = s.handled ++ sets ∧ sets.length ≤ 2 ∧
      (∀ feedback ∈ sets.tail, ¬ v1AvrcpHasAction feedback .setWindowsVolume) ∧
      sets.tail.countP (fun feedback => v1AvrcpHasAction feedback .sendXm5Volume) ≤ 1 := by
  refine ⟨observeWindowsVolume_sets_nothing, ?_⟩
  suffices h : ∃ result s' sets,
      (∀ more, feedEvent sink (2 + more) event options s = some (result, s')) ∧
        s'.handled = s.handled ++ sets ∧ Handled sets by
    obtain ⟨result, s', sets, hends, hhandled, hsets⟩ := h
    exact ⟨result, s', sets, hends, hhandled, handled_sends hsets⟩
  have hnone : ∀ (result : Bool) (s' : FeedStage Ω), s'.handled = s.handled →
      ∃ result' s'' sets, (∀ _more : Nat, some (result, s') = some (result', s'')) ∧
        s''.handled = s.handled ++ sets ∧ Handled sets := fun result s' hs' =>
    ⟨result, s', [], fun _ => rfl, by rw [hs', List.append_nil], .nothing⟩
  have hdispatch : ∀ actions (result : Bool) (f : FeedStage Ω → FeedStage Ω) (s' : FeedStage Ω),
      s'.handled = s.handled → (∀ s, (f s).handled = s.handled) →
      ∃ result' s'' sets, (∀ more, (dispatch sink (2 + more) actions s').map
          (fun s => (result, f s)) = some (result', s'')) ∧
        s''.handled = s.handled ++ sets ∧ Handled sets := fun actions result f s' hs' hf => by
    obtain ⟨s'', sets, hends, hhandled, hsets⟩ := dispatch_twice sink actions s'
    refine ⟨result, f s'', sets, fun more => ?_, ?_, hsets⟩
    · rw [hends]
      rfl
    · rw [hf, hhandled, hs']
  unfold feedEvent
  split
  · exact hnone _ _ rfl
  · split
    · unfold FeedStage.feedGenerationStarted
      split
      · exact hnone _ _ rfl
      · dsimp only
        split
        · exact hnone _ _ rfl
        · exact hdispatch _ true recognized _ rfl fun _ => rfl
    · split
      · split
        · exact hnone _ _ rfl
        · exact hnone _ _ rfl
      · split
        · exact hnone _ _ rfl
        · split
          · exact hnone _ _ rfl
          · split
            · exact hnone _ _ rfl
            · exact hdispatch _ true id _ rfl fun _ => rfl

end NativeLdac.Agent
