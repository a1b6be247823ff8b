/-
  Repeated presses in a routing session of the pass-through gate
  (`agent/avrcp_passthrough_state.cpp`).

  The gate remembers one held key, the last one pressed, so a repeated press is filtered
  until another key is pressed over it.
-/
import Mathlib.Data.List.Induction
import NativeLdac.Agent.PassThroughDecisions

namespace NativeLdac.Agent

/-! ## What the events say of a key -/

/-- The key was pressed, and not released since. -/
def keyDown (operation : AvrcpPassThroughOperation) (events : List AvrcpPassThroughEvent) : Bool :=
  events.foldl
    (fun down event => if event.operation = operation then event.keyState = .pressed else down)
    false

def lastPressed (events : List AvrcpPassThroughEvent) : Option AvrcpPassThroughOperation :=
  events.foldl
    (fun last event =>
      if event.operation ≠ .unknown ∧ event.keyState = .pressed then some event.operation
      else last)
    none

/-- A known key that is pressed while it is down was also the last one pressed. -/
def RepeatsInTurn (events : List AvrcpPassThroughEvent) : Prop :=
  ∀ before event later, events = before ++ event :: later →
    event.operation ≠ .unknown → event.keyState = .pressed →
    keyDown event.operation before → lastPressed before = some event.operation

namespace AvrcpPassThroughGateState

variable (s : AvrcpPassThroughGateState)

/-- The operation begins a session in which a press may act. -/
def StartsRouting (op : AvrcpPassThroughGateOp) : Prop :=
  ¬ s.Routing ∧ (passThroughGate.next s op).Routing

instance (op : AvrcpPassThroughGateOp) : Decidable (s.StartsRouting op) :=
  inferInstanceAs (Decidable (_ ∧ _))

def heldKey : Option AvrcpPassThroughOperation :=
  if s.heldOperationValid then some s.heldOperation else none

/-- The state after events of the generation. -/
def afterEvents (events : List AvrcpPassThroughEvent) : AvrcpPassThroughGateState :=
  passThroughGate.after s (events.map (.observeEvent s.aclGeneration))

/-- The event acts when it is observed after the others. -/
def Fires (before : List AvrcpPassThroughEvent) (event : AvrcpPassThroughEvent) : Prop :=
  (observeAvrcpPassThroughEvent (s.afterEvents before) s.aclGeneration event).1.acts

instance (before : List AvrcpPassThroughEvent) (event : AvrcpPassThroughEvent) :
    Decidable (s.Fires before event) :=
  inferInstanceAs (Decidable (_ = true))

/-- Between two presses of a key that act the key is released. -/
def FiresOnce (events : List AvrcpPassThroughEvent) : Prop :=
  ∀ before press between again later,
    events = before ++ press :: (between ++ again :: later) →
    s.Fires before press → s.Fires (before ++ press :: between) again →
    again.operation = press.operation →
    ∃ event ∈ between, event.operation = press.operation ∧ event.keyState = .released

/-- A press of the current generation may act. -/
def Authorized : Prop :=
  s.Routing ∧ s.aclGeneration ≠ 0

end AvrcpPassThroughGateState

open AvrcpPassThroughGateState

/-! ## One event -/

theorem keyDown_concat (operation : AvrcpPassThroughOperation)
    (events : List AvrcpPassThroughEvent) (event : AvrcpPassThroughEvent) :
    keyDown operation (events ++ [event]) =
      if event.operation = operation then decide (event.keyState = .pressed)
      else keyDown operation events := by
  simp [keyDown, List.foldl_append]

theorem lastPressed_concat (events : List AvrcpPassThroughEvent) (event : AvrcpPassThroughEvent) :
    lastPressed (events ++ [event]) =
      if event.operation ≠ .unknown ∧ event.keyState = .pressed then some event.operation
      else lastPressed events := by
  simp [lastPressed, List.foldl_append]

theorem lastPressed_ne_unknown (events : List AvrcpPassThroughEvent) :
    lastPressed events ≠ some .unknown := by
  induction events using List.reverseRecOn with
  | nil => simp [lastPressed]
  | append_singleton events event ih =>
    rw [lastPressed_concat]
    split_ifs with hpress
    · intro heq
      exact hpress.1 (Option.some.inj heq)
    · exact ih

namespace AvrcpPassThroughGateState

variable {s : AvrcpPassThroughGateState} {operation : AvrcpPassThroughOperation}

theorem Authorized.isCurrent (h : s.Authorized) : s.isCurrent s.aclGeneration = true := by
  obtain ⟨⟨hcurrent, -, -⟩, hgeneration⟩ := h
  exact decide_eq_true ⟨hgeneration, hcurrent, rfl⟩

theorem generation_ne_zero {g : UInt64} (h : s.isCurrent g = true) : s.aclGeneration ≠ 0 := by
  simp only [AvrcpPassThroughGateState.isCurrent, decide_eq_true_eq] at h
  obtain ⟨hg, -, rfl⟩ := h
  exact hg

theorem SameAuthorization.authorized {s' : AvrcpPassThroughGateState}
    (hsame : s.SameAuthorization s') (h : s.Authorized) : s'.Authorized := by
  obtain ⟨⟨hcurrent, hmode, hlease⟩, hgeneration⟩ := h
  refine ⟨⟨?_, ?_, ?_⟩, ?_⟩
  · rwa [hsame.aclGenerationCurrent]
  · rwa [hsame.mode]
  · rwa [hsame.ownerLease]
  · rwa [hsame.aclGeneration]

theorem heldKey_eq_some :
    s.heldKey = some operation ↔ s.heldOperationValid ∧ s.heldOperation = operation := by
  unfold heldKey
  split_ifs with hvalid
  · simp [hvalid]
  · simp [hvalid]

theorem observe_heldKey (h : s.Authorized) (event : AvrcpPassThroughEvent) :
    (observeAvrcpPassThroughEvent s s.aclGeneration event).2.heldKey =
      if event.operation = .unknown then s.heldKey
      else if event.keyState = .released then
        if s.heldKey = some event.operation then none else s.heldKey
      else some event.operation := by
  simp only [heldKey_eq_some]
  unfold observeAvrcpPassThroughEvent
  dsimp only
  rw [if_neg (not_not.mpr h.isCurrent)]
  split_ifs with hunknown hreleased hheld hrepeat
  · rfl
  · rfl
  · rfl
  · exact heldKey_eq_some.mpr hrepeat
  · rfl
  · rfl
  · rfl

theorem actionForOperation_eq_nil (operation : AvrcpPassThroughOperation) :
    actionForOperation operation = [] ↔ operation = .unknown := by
  cases operation <;> simp [actionForOperation]

theorem observe_acts (h : s.Authorized) (event : AvrcpPassThroughEvent) :
    (observeAvrcpPassThroughEvent s s.aclGeneration event).1.acts = true ↔
      event.operation ≠ .unknown ∧ event.keyState = .pressed ∧
        s.heldKey ≠ some event.operation := by
  obtain ⟨-, hmode, hlease⟩ := h.1
  simp only [ne_eq, heldKey_eq_some, acts_iff]
  unfold observeAvrcpPassThroughEvent
  dsimp only
  rw [if_neg (not_not.mpr h.isCurrent)]
  split_ifs with hunknown hreleased hheld hrepeat hroute haction
  · simp [snapshot, hunknown]
  · simp [snapshot, hreleased]
  · simp [snapshot, hreleased]
  · simp [snapshot, hrepeat]
  · exact absurd hroute (by simp [hmode, hlease])
  · exact absurd ((actionForOperation_eq_nil _).mp haction) hunknown
  · have hpressed : event.keyState = .pressed := by
      cases hkey : event.keyState with
      | pressed => rfl
      | released => exact absurd hkey hreleased
    exact ⟨fun _ => ⟨hunknown, hpressed, hrepeat⟩, fun _ => haction⟩

/-! ## A run of events -/

theorem afterEvents_concat (events : List AvrcpPassThroughEvent) (event : AvrcpPassThroughEvent) :
    s.afterEvents (events ++ [event]) =
      (observeAvrcpPassThroughEvent (s.afterEvents events) s.aclGeneration event).2 := by
  rw [afterEvents, List.map_append, Reducer.after_append]
  rfl

theorem afterEvents_authorization (events : List AvrcpPassThroughEvent) :
    s.SameAuthorization (s.afterEvents events) := by
  induction events using List.reverseRecOn with
  | nil => exact sameAuthorization_self s
  | append_singleton events event ih =>
    rw [afterEvents_concat]
    have hsame := observeAvrcpPassThroughEvent_authorization (s.afterEvents events)
      s.aclGeneration event
    exact ⟨hsame.1.trans ih.1, hsame.2.trans ih.2, hsame.3.trans ih.3, hsame.4.trans ih.4⟩

theorem fires_iff (h : s.Authorized) (before : List AvrcpPassThroughEvent)
    (event : AvrcpPassThroughEvent) :
    s.Fires before event ↔ event.operation ≠ .unknown ∧ event.keyState = .pressed ∧
      ¬ (s.afterEvents before).heldKey = some event.operation := by
  have hsame := s.afterEvents_authorization before
  rw [Fires, ← hsame.aclGeneration]
  exact observe_acts (hsame.authorized h) event

theorem afterEvents_heldKey (h : s.Authorized) (hnone : s.heldKey = none)
    (events : List AvrcpPassThroughEvent) (operation : AvrcpPassThroughOperation) :
    (s.afterEvents events).heldKey = some operation ↔
      lastPressed events = some operation ∧ keyDown operation events := by
  induction events using List.reverseRecOn with
  | nil =>
    show s.heldKey = some operation ↔ _
    simp [hnone, lastPressed]
  | append_singleton events event ih =>
    have hsame := s.afterEvents_authorization events
    rw [afterEvents_concat, ← hsame.aclGeneration, observe_heldKey (hsame.authorized h),
      lastPressed_concat, keyDown_concat]
    by_cases hunknown : event.operation = .unknown
    · rw [if_pos hunknown, if_neg (fun hand => hand.1 hunknown), ih]
      refine and_congr_right fun hlast => ?_
      have hne : event.operation ≠ operation := by
        rintro rfl
        exact lastPressed_ne_unknown events (hunknown ▸ hlast)
      rw [if_neg hne]
    · rw [if_neg hunknown]
      cases hkey : event.keyState with
      | released =>
        simp only [reduceCtorEq, and_false, ↓reduceIte, decide_false]
        by_cases heq : event.operation = operation
        · subst heq
          rw [if_pos rfl]
          split_ifs with hheld
          · simp
          · simp [hheld]
        · rw [if_neg heq, ← ih]
          split_ifs with hheld
          · simp [hheld, heq]
          · rfl
      | pressed =>
        simp only [reduceCtorEq, ne_eq, hunknown, not_false_eq_true, and_self, ↓reduceIte]
        refine (and_iff_left_of_imp ?_).symm
        intro heq
        rw [if_pos (Option.some.inj heq)]
        rfl

/-! ## Firing once -/

theorem fired_of_keyDown (h : s.Authorized) (hnone : s.heldKey = none)
    (hknown : operation ≠ .unknown) (events : List AvrcpPassThroughEvent)
    (hdown : keyDown operation events) :
    ∃ before press between, events = before ++ press :: between ∧
      press.operation = operation ∧ s.Fires before press ∧
      ∀ event ∈ between, event.operation = operation → event.keyState = .pressed := by
  induction events using List.reverseRecOn with
  | nil => exact absurd hdown (by simp [keyDown])
  | append_singleton events event ih =>
    rw [keyDown_concat] at hdown
    by_cases heq : event.operation = operation
    · rw [if_pos heq, decide_eq_true_iff] at hdown
      by_cases hbefore : keyDown operation events = true
      · obtain ⟨before, press, between, rfl, hpress, hfires, hbetween⟩ := ih hbefore
        refine ⟨before, press, between ++ [event], by simp, hpress, hfires, ?_⟩
        intro other hother hsame
        rcases List.mem_append.mp hother with hother | hother
        · exact hbetween other hother hsame
        · rwa [List.mem_singleton.mp hother]
      · refine ⟨events, event, [], rfl, heq, ?_, fun _ hother => absurd hother List.not_mem_nil⟩
        rw [fires_iff h, heq, afterEvents_heldKey h hnone]
        exact ⟨hknown, hdown, fun hand => hbefore hand.2⟩
    · rw [if_neg heq] at hdown
      obtain ⟨before, press, between, rfl, hpress, hfires, hbetween⟩ := ih hdown
      refine ⟨before, press, between ++ [event], by simp, hpress, hfires, ?_⟩
      intro other hother hsame
      rcases List.mem_append.mp hother with hother | hother
      · exact hbetween other hother hsame
      · rw [List.mem_singleton.mp hother] at hsame
        exact absurd hsame heq

theorem keyDown_of_pressed {before between : List AvrcpPassThroughEvent}
    {press : AvrcpPassThroughEvent} (hpress : press.operation = operation)
    (hpressed : press.keyState = .pressed)
    (hbetween : ∀ event ∈ between, event.operation = operation → event.keyState = .pressed) :
    keyDown operation (before ++ press :: between) = true := by
  induction between using List.reverseRecOn with
  | nil => rw [keyDown_concat, if_pos hpress, hpressed]; rfl
  | append_singleton between event ih =>
    have hsplit : before ++ press :: (between ++ [event]) =
        (before ++ press :: between) ++ [event] := by simp
    rw [hsplit, keyDown_concat]
    split_ifs with heq
    · exact decide_eq_true (hbetween event (by simp) heq)
    · exact ih fun other hother => hbetween other (List.mem_append_left _ hother)

theorem firesOnce_of_repeatsInTurn (h : s.Authorized) (hnone : s.heldKey = none)
    {events : List AvrcpPassThroughEvent} (hturn : RepeatsInTurn events) :
    s.FiresOnce events := by
  intro before press between again later hsplit hpress hagain hsame
  by_contra hreleased
  have hbetween : ∀ event ∈ between, event.operation = press.operation →
      event.keyState = .pressed := by
    intro event hevent heq
    cases hkey : event.keyState with
    | pressed => rfl
    | released => exact absurd ⟨event, hevent, heq, hkey⟩ hreleased
  obtain ⟨-, hpressed, -⟩ := (fires_iff h before press).mp hpress
  obtain ⟨hknown, hrepeated, hheld⟩ := (fires_iff h _ again).mp hagain
  have hdown : keyDown again.operation (before ++ press :: between) = true :=
    keyDown_of_pressed hsame.symm hpressed (hsame ▸ hbetween)
  have hlast := hturn (before ++ press :: between) again later (by simp [hsplit]) hknown
    hrepeated hdown
  exact hheld ((afterEvents_heldKey h hnone _ _).mpr ⟨hlast, hdown⟩)

theorem repeatsInTurn_of_firesOnce (h : s.Authorized) (hnone : s.heldKey = none)
    {events : List AvrcpPassThroughEvent} (honce : s.FiresOnce events) :
    RepeatsInTurn events := by
  rintro before event later rfl hknown hpressed hdown
  by_contra hlast
  obtain ⟨front, press, between, rfl, hpress, hfires, hbetween⟩ :=
    fired_of_keyDown h hnone hknown before hdown
  have hagain : s.Fires (front ++ press :: between) event := by
    rw [fires_iff h, afterEvents_heldKey h hnone]
    exact ⟨hknown, hpressed, fun hand => hlast hand.1⟩
  obtain ⟨release, hmem, hkey, hreleased⟩ :=
    honce front press between event later (by simp) hfires hagain hpress.symm
  have hdownStill := hbetween release hmem (hkey.trans hpress)
  rw [hreleased] at hdownStill
  exact nomatch hdownStill

end AvrcpPassThroughGateState

/-! ## Sessions -/

theorem startsRouting {s : AvrcpPassThroughGateState} {op : AvrcpPassThroughGateOp}
    (hstart : s.StartsRouting op) :
    (passThroughGate.next s op).Authorized ∧ (passThroughGate.next s op).heldKey = none := by
  obtain ⟨hbefore, hafter⟩ := hstart
  revert hafter
  cases op with
  | beginAclGeneration g =>
    simp only [Reducer.next, passThroughGate, beginAvrcpPassThroughAclGeneration]
    split_ifs
    · exact fun hafter => absurd hafter.2.1 (by simp [resetHeldOperation])
    · exact fun hafter => absurd hafter hbefore
  | endAclGeneration g =>
    simp only [Reducer.next, passThroughGate, endAvrcpPassThroughAclGeneration]
    split_ifs
    · exact fun hafter => absurd hafter.2.1 (by simp [resetHeldOperation])
    · exact fun hafter => absurd hafter hbefore
  | setGateMode g mode =>
    simp only [Reducer.next, passThroughGate, setAvrcpPassThroughGateMode]
    split_ifs with hcurrent hmode
    · exact fun hafter => ⟨⟨hafter, generation_ne_zero hcurrent⟩, rfl⟩
    · exact fun hafter => absurd hafter hbefore
    · exact fun hafter => absurd hafter hbefore
  | acquireOwnerLease g lease =>
    simp only [Reducer.next, passThroughGate, acquireAvrcpPassThroughOwnerLease]
    split_ifs with hrefused hfree
    · exact fun hafter => absurd hafter hbefore
    · exact fun hafter =>
        ⟨⟨hafter, generation_ne_zero (not_not.mp (not_or.mp hrefused).1)⟩, rfl⟩
    · exact fun hafter => absurd hafter hbefore
  | revokeOwnerLease g lease =>
    simp only [Reducer.next, passThroughGate, revokeAvrcpPassThroughOwnerLease]
    split_ifs
    · exact fun hafter => absurd hafter hbefore
    · exact fun hafter => absurd rfl hafter.2.2
  | observeEvent g event =>
    have hsame := observeAvrcpPassThroughEvent_authorization s g event
    rintro ⟨hcurrent, hmode, hlease⟩
    exact absurd ⟨hsame.aclGenerationCurrent ▸ hcurrent, hsame.mode ▸ hmode,
      hsame.ownerLease ▸ hlease⟩ hbefore

/-- **When a held key acts once**: the presses of a session act once until a release where no
    key is pressed again, while it is down, after another one. -/
theorem firesOnce_iff {s : AvrcpPassThroughGateState} {op : AvrcpPassThroughGateOp}
    (hstart : s.StartsRouting op) (events : List AvrcpPassThroughEvent) :
    (passThroughGate.next s op).FiresOnce events ↔ RepeatsInTurn events := by
  obtain ⟨hauthorized, hnone⟩ := startsRouting hstart
  exact ⟨repeatsInTurn_of_firesOnce hauthorized hnone,
    firesOnce_of_repeatsInTurn hauthorized hnone⟩

/-- The routing mode is set, and the lease about to be taken. -/
def routeRequested : AvrcpPassThroughGateState :=
  passThroughGate.after {}
    [.beginAclGeneration 1, .setGateMode 1 .routeToCurrentMediaSession]

def volumeUpPressed : AvrcpPassThroughEvent := makeAvrcpPassThroughEvent 0x41 false

/-- A key that is repeated before another one is pressed acts once. -/
theorem firesOnce_iff_repeated :
    (passThroughGate.next routeRequested (.acquireOwnerLease 1 7)).FiresOnce
        [volumeUpPressed, volumeUpPressed] ↔
      RepeatsInTurn [volumeUpPressed, volumeUpPressed] :=
  firesOnce_iff (by decide) _

/-- The key for the volume is held while the one for playing is pressed, and acts again when
    it is repeated. -/
theorem not_firesOnce :
    routeRequested.StartsRouting (.acquireOwnerLease 1 7) ∧
      ¬ (passThroughGate.next routeRequested (.acquireOwnerLease 1 7)).FiresOnce
        [volumeUpPressed, makeAvrcpPassThroughEvent 0x44 false, volumeUpPressed] := by
  refine ⟨by decide, fun honce => ?_⟩
  obtain ⟨event, hmem, -, hreleased⟩ :=
    honce [] volumeUpPressed [makeAvrcpPassThroughEvent 0x44 false] volumeUpPressed [] rfl
      (by decide) (by decide) rfl
  rw [List.mem_singleton.mp hmem] at hreleased
  exact nomatch hreleased

end NativeLdac.Agent
