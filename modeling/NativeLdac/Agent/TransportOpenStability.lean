/-
  The stability gate before a transport is opened (`agent/v1_transport_open_stability.cpp`): the
  render stream has to run for a while before the headset is asked for a channel.

  * `openStability`, the machine of its three calls;
  * `ArmedBy` and `StartsWindow` speak of the log of calls: the arming that is outstanding, and
    where the window of running observations begins;
  * `GateLogged`, the invariant: what the gate remembers is what the log says.
-/
import Mathlib.Data.List.Induction
import NativeLdac.Agent.TrialState

namespace NativeLdac.Agent

inductive Observed (gate : V1TransportOpenStabilityGate) (g : UInt64) (running : Bool)
    (epoch now : UInt64) : V1TransportOpenStabilityObservation × V1TransportOpenStabilityGate → Prop
  | idle : gate.pending = false → Observed gate g running epoch now (.none, gate)
  | outdated : g ≠ gate.aclGeneration →
      Observed gate g running epoch now (.cancelled, cancelV1TransportOpenStability gate)
  | stands : gate.pending = true → running = false → gate.observingRunning = false →
      Observed gate g running epoch now (.none, gate)
  | stops : gate.pending = true → running = false →
      Observed gate g running epoch now
        (.reset, { gate with observingRunning := false, renderEpoch := 0, runningSinceMs := 0 })
  | starts : gate.pending = true → g = gate.aclGeneration → running = true →
      gate.observingRunning = false →
      Observed gate g running epoch now
        (.none,
          { gate with observingRunning := true, renderEpoch := epoch, runningSinceMs := now })
  | restarts : gate.pending = true → g = gate.aclGeneration → running = true →
      gate.observingRunning = true →
      Observed gate g running epoch now
        (.reset, { gate with renderEpoch := epoch, runningSinceMs := now })
  | runs : gate.pending = true → g = gate.aclGeneration → running = true →
      gate.observingRunning = true → epoch = gate.renderEpoch → gate.runningSinceMs ≤ now →
      Observed gate g running epoch now (.none, gate)
  | ready : gate.pending = true → g = gate.aclGeneration → running = true →
      gate.observingRunning = true → epoch = gate.renderEpoch → gate.runningSinceMs ≤ now →
      gate.requiredMs.toUInt64 ≤ now - gate.runningSinceMs →
      Observed gate g running epoch now
        (.ready, { gate with pending := false, observingRunning := false })

theorem observe_observed (gate : V1TransportOpenStabilityGate) (g : UInt64) (running : Bool)
    (epoch now : UInt64) :
    Observed gate g running epoch now
      (observeV1TransportOpenStability gate g running epoch now) := by
  unfold observeV1TransportOpenStability
  by_cases hpending : gate.pending = true
  · rw [if_neg (not_not.mpr hpending)]
    by_cases hother : g = gate.aclGeneration
    · rw [if_neg (not_not.mpr hother)]
      cases running with
      | false =>
        rw [if_pos Bool.false_ne_true]
        by_cases hobserving : gate.observingRunning = true
        · rw [if_neg (not_not.mpr hobserving)]
          exact .stops hpending rfl
        · rw [if_pos hobserving]
          exact .stands hpending rfl (Bool.eq_false_iff.mpr hobserving)
      | true =>
        rw [if_neg (not_not.mpr rfl)]
        by_cases hobserving : gate.observingRunning = true
        · rw [if_neg (not_not.mpr hobserving)]
          split_ifs with hrestart hshort
          · exact .restarts hpending hother rfl hobserving
          · rw [not_or, not_not, UInt64.not_lt] at hrestart
            exact .runs hpending hother rfl hobserving hrestart.1 hrestart.2
          · rw [not_or, not_not, UInt64.not_lt] at hrestart
            rw [UInt64.not_lt] at hshort
            exact .ready hpending hother rfl hobserving hrestart.1 hrestart.2 hshort
        · rw [if_pos hobserving]
          exact .starts hpending hother rfl (Bool.eq_false_iff.mpr hobserving)
    · rw [if_pos hother]
      exact .outdated hother
  · rw [if_pos hpending]
    exact .idle (Bool.eq_false_iff.mpr hpending)

/-! ## The log of calls -/

inductive OpenStabilityCall where
  | arm (requiredMs : UInt32) (aclGeneration : UInt64) (renderRunning : Bool)
      (renderEpoch nowMs : UInt64)
  | cancel
  | observe (aclGeneration : UInt64) (renderRunning : Bool) (renderEpoch nowMs : UInt64)
  deriving DecidableEq, Repr

/-- The gate as a machine; only observations are answered. -/
def openStability : Reducer V1TransportOpenStabilityGate OpenStabilityCall
    (Option V1TransportOpenStabilityObservation) where
  step gate
    | .arm requiredMs g running epoch now =>
      (none, armV1TransportOpenStability requiredMs g running epoch now)
    | .cancel => (none, cancelV1TransportOpenStability gate)
    | .observe g running epoch now =>
      let r := observeV1TransportOpenStability gate g running epoch now
      (some r.1, r.2)

/-- The call reports that render runs in the epoch, at the time. -/
def OpenStabilityCall.Runs (g epoch now : UInt64) : OpenStabilityCall → Prop
  | .arm _ g' running epoch' now' | .observe g' running epoch' now' =>
    g' = g ∧ running = true ∧ epoch' = epoch ∧ now' = now
  | .cancel => False

/-- The call reports that render does not run. -/
def OpenStabilityCall.Stands : OpenStabilityCall → Prop
  | .arm _ _ running _ _ | .observe _ running _ _ => running = false
  | .cancel => False

def ArmedBy (requiredMs : UInt32) (g : UInt64) (_ : List OpenStabilityCall) :
    OpenStabilityCall → Prop
  | .arm requiredMs' g' _ _ _ => requiredMs' = requiredMs ∧ g' = g
  | _ => False

/-- An observation that leaves the arming outstanding. -/
def LeavesArmed (gate : V1TransportOpenStabilityGate) : OpenStabilityCall → Prop
  | .observe g running epoch now =>
    openStability.out gate (.observe g running epoch now) ≠ some .ready ∧
      openStability.out gate (.observe g running epoch now) ≠ some .cancelled
  | _ => False

/-- A window begins with the running render that the call reports: it arms the gate, or resets it,
    or the call before it reported that render stands. -/
def StartsWindow (g epoch start : UInt64) (js : List OpenStabilityCall)
    (call : OpenStabilityCall) : Prop :=
  call.Runs g epoch start ∧
    ((∃ requiredMs g, ArmedBy requiredMs g js call) ∨
      openStability.out (openStability.after {} js) call = some .reset ∨
      ∃ ks last, js = ks ++ [last] ∧ last.Stands)

/-- An observation that goes on with the window: render runs in its epoch, not before its start,
    and nothing is answered. -/
def ContinuesWindow (g epoch start : UInt64) (gate : V1TransportOpenStabilityGate)
    (call : OpenStabilityCall) : Prop :=
  ∃ now, call = .observe g true epoch now ∧ start ≤ now ∧
    openStability.out gate call = some .none

/-! ## The invariant -/

/-- The gate remembers what the log says of the outstanding arming and of its window. -/
structure GateLogged (calls : List OpenStabilityCall) (gate : V1TransportOpenStabilityGate) :
    Prop where
  armed : gate.pending = true →
    openStability.Since (ArmedBy gate.requiredMs gate.aclGeneration) LeavesArmed {} calls
  window : gate.pending = true → gate.observingRunning = true →
    openStability.Since (StartsWindow gate.aclGeneration gate.renderEpoch gate.runningSinceMs)
      (ContinuesWindow gate.aclGeneration gate.renderEpoch gate.runningSinceMs) {} calls
  stands : gate.pending = true → gate.observingRunning = false →
    ∃ ks last, calls = ks ++ [last] ∧ last.Stands

theorem gateLogged_idle {calls : List OpenStabilityCall} {gate : V1TransportOpenStabilityGate}
    (h : gate.pending = false) : GateLogged calls gate := by
  constructor <;> intro hpending <;> simp [h] at hpending

theorem gateLogged_arm (calls : List OpenStabilityCall) (requiredMs : UInt32) (g : UInt64)
    (running : Bool) (epoch now : UInt64) :
    GateLogged (calls ++ [.arm requiredMs g running epoch now])
      (armV1TransportOpenStability requiredMs g running epoch now) := by
  cases running with
  | true =>
    constructor
    · exact fun _ => Reducer.since_now ⟨rfl, rfl⟩
    · exact fun _ _ => Reducer.since_now
        ⟨⟨rfl, rfl, rfl, rfl⟩, .inl ⟨requiredMs, g, rfl, rfl⟩⟩
    · intro _ hstands
      simp [armV1TransportOpenStability] at hstands
  | false =>
    constructor
    · exact fun _ => Reducer.since_now ⟨rfl, rfl⟩
    · intro _ hruns
      simp [armV1TransportOpenStability] at hruns
    · exact fun _ _ => ⟨_, _, rfl, rfl⟩

section
variable {calls : List OpenStabilityCall} {gate gate' : V1TransportOpenStabilityGate}
  {g epoch now : UInt64} {running : Bool} {answer : V1TransportOpenStabilityObservation}

theorem armed_observe (h : GateLogged calls gate) (hgate : openStability.after {} calls = gate)
    (hpending : gate.pending = true)
    (hstep : observeV1TransportOpenStability gate g running epoch now = (answer, gate'))
    (hready : answer ≠ .ready) (hcancelled : answer ≠ .cancelled) :
    openStability.Since (ArmedBy gate.requiredMs gate.aclGeneration) LeavesArmed {}
      (calls ++ [.observe g running epoch now]) := by
  refine (h.armed hpending).snoc ?_
  rw [hgate]
  have hanswer : openStability.out gate (.observe g running epoch now) = some answer := by
    simp [Reducer.out, openStability, hstep]
  refine ⟨?_, ?_⟩ <;> rw [hanswer]
  · simpa using hready
  · simpa using hcancelled

theorem window_begins (hgate : openStability.after {} calls = gate)
    (hstep : (observeV1TransportOpenStability gate g true epoch now).1 = answer)
    (hstart : answer = .reset ∨ ∃ ks last, calls = ks ++ [last] ∧ last.Stands) :
    openStability.Since (StartsWindow g epoch now) (ContinuesWindow g epoch now) {}
      (calls ++ [.observe g true epoch now]) := by
  refine Reducer.since_now ⟨⟨rfl, rfl, rfl, rfl⟩, .inr ?_⟩
  refine hstart.imp_left fun hreset => ?_
  rw [hgate, ← hreset, ← hstep]
  rfl

theorem gateLogged_observe (h : GateLogged calls gate)
    (hgate : openStability.after {} calls = gate) (g : UInt64) (running : Bool)
    (epoch now : UInt64) :
    GateLogged (calls ++ [.observe g running epoch now])
      (observeV1TransportOpenStability gate g running epoch now).2 := by
  have hobserved := observe_observed gate g running epoch now
  rcases hstep : observeV1TransportOpenStability gate g running epoch now with ⟨answer, gate'⟩
  have harmed := fun hpending => armed_observe h hgate hpending hstep
  rw [hstep] at hobserved
  cases hobserved with
  | idle hidle => exact gateLogged_idle hidle
  | outdated => exact gateLogged_idle rfl
  | stands hpending hstands hobserving =>
    exact ⟨fun _ => harmed hpending (by simp) (by simp),
      fun _ hruns => by simp [hobserving] at hruns, fun _ _ => ⟨_, _, rfl, hstands⟩⟩
  | stops hpending hstands =>
    exact ⟨fun _ => harmed hpending (by simp) (by simp), fun _ hruns => by simp at hruns,
      fun _ _ => ⟨_, _, rfl, hstands⟩⟩
  | starts hpending hg hruns hobserving =>
    subst hg hruns
    refine ⟨fun _ => harmed hpending (by simp) (by simp), fun _ _ => ?_,
      fun _ hstands => by simp at hstands⟩
    exact window_begins hgate (congrArg Prod.fst hstep) (.inr (h.stands hpending hobserving))
  | restarts hpending hg hruns hobserving =>
    subst hg hruns
    refine ⟨fun _ => harmed hpending (by simp) (by simp), fun _ _ => ?_,
      fun _ hstands => by simp [hobserving] at hstands⟩
    exact window_begins hgate (congrArg Prod.fst hstep) (.inl rfl)
  | runs hpending hg hruns hobserving hepoch hstart =>
    subst hg hruns hepoch
    refine ⟨fun _ => harmed hpending (by simp) (by simp), fun _ _ => ?_,
      fun _ hstands => by simp [hobserving] at hstands⟩
    refine (h.window hpending hobserving).snoc ⟨now, rfl, hstart, ?_⟩
    rw [hgate]
    exact congrArg (fun r => some r.1) hstep
  | ready => exact gateLogged_idle rfl

end

theorem gateLogged_after (calls : List OpenStabilityCall) :
    GateLogged calls (openStability.after {} calls) := by
  induction calls using List.reverseRecOn with
  | nil => exact gateLogged_idle rfl
  | append_singleton calls call ih =>
    rw [Reducer.after_snoc]
    cases call with
    | arm requiredMs g running epoch now => exact gateLogged_arm calls requiredMs g running epoch now
    | cancel => exact gateLogged_idle rfl
    | observe g running epoch now => exact gateLogged_observe ih rfl g running epoch now

/-! ## Ready -/

theorem observe_ready {gate : V1TransportOpenStabilityGate} {call : OpenStabilityCall}
    (h : openStability.out gate call = some .ready) :
    ∃ now, call = .observe gate.aclGeneration true gate.renderEpoch now ∧ gate.pending = true ∧
      gate.observingRunning = true ∧ gate.runningSinceMs ≤ now ∧
      gate.requiredMs.toUInt64 ≤ now - gate.runningSinceMs := by
  cases call with
  | arm requiredMs g running epoch now => cases h
  | cancel => cases h
  | observe g running epoch now =>
    have hobserved := observe_observed gate g running epoch now
    rcases hstep : observeV1TransportOpenStability gate g running epoch now with ⟨answer, gate'⟩
    have hanswer : (observeV1TransportOpenStability gate g running epoch now).1 = .ready :=
      Option.some.inj h
    rw [hstep] at hobserved hanswer
    cases hobserved with
    | ready hpending hg hruns hobserving hepoch hstart hrequired =>
      exact ⟨now, by rw [hg, hruns, hepoch], hpending, hobserving, hstart, hrequired⟩
    | _ => cases hanswer

/-- **Ready, once per arming, after a stable window**: the arming is outstanding, that is, since it
    there were only observations, and none was answered ready or cancelled; and since a running
    render began the window, every observation reported that it runs, in the one epoch and in the
    generation of the arming, never before the start, and the last one the required time after it. -/
theorem openStability_ready (calls : List OpenStabilityCall) (call : OpenStabilityCall)
    (h : openStability.out (openStability.after {} calls) call = some .ready) :
    ∃ requiredMs g epoch start now, call = .observe g true epoch now ∧
      openStability.Since (ArmedBy requiredMs g) LeavesArmed {} calls ∧
      openStability.Since (StartsWindow g epoch start) (ContinuesWindow g epoch start) {} calls ∧
      start ≤ now ∧ requiredMs.toNat ≤ now.toNat - start.toNat := by
  have hlogged := gateLogged_after calls
  obtain ⟨now, hcall, hpending, hobserving, hstart, hrequired⟩ := observe_ready h
  refine ⟨_, _, _, _, now, hcall, hlogged.armed hpending, hlogged.window hpending hobserving,
    hstart, ?_⟩
  rw [UInt64.le_iff_toNat_le, UInt64.toNat_sub_of_le _ _ hstart] at hrequired
  exact hrequired

/-- Armed for 5 ms while render stands; it starts at 10 ms. -/
def openStabilityTrace : List OpenStabilityCall :=
  [.arm 5 1 false 0 0, .observe 1 true 7 10, .observe 1 true 7 12]

theorem openStability_ready_trace :
    ∃ requiredMs g epoch start now,
      OpenStabilityCall.observe 1 true 7 15 = .observe g true epoch now ∧
      openStability.Since (ArmedBy requiredMs g) LeavesArmed {} openStabilityTrace ∧
      openStability.Since (StartsWindow g epoch start) (ContinuesWindow g epoch start) {}
        openStabilityTrace ∧
      start ≤ now ∧ requiredMs.toNat ≤ now.toNat - start.toNat :=
  openStability_ready openStabilityTrace (.observe 1 true 7 15) (by decide)

end NativeLdac.Agent
