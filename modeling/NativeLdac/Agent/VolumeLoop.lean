/-
  The shared volume with its loop closed: the endpoint applies what the reducer sets and reports
  it back, the headset answers what the reducer sends and notifies it. One event from outside
  sets going a few deliveries and then the loop is quiet.
-/
import NativeLdac.Agent.VolumeEcho

namespace NativeLdac.Agent

open AvrcpAbsoluteVolumeAction

/-! ## The closed loop -/

/-- The reducer, what the endpoint is about to report and what the headset is about to answer. -/
structure VolumeLoop where
  reducer : AvrcpAbsoluteVolumeState
  endpoint : List AvrcpWindowsVolume := []
  headset : List (Nat × AvrcpXm5VolumeEvent) := []
  deriving DecidableEq

/-- Nothing is in flight. -/
def VolumeLoop.Quiet (loop : VolumeLoop) : Prop :=
  loop.endpoint = [] ∧ loop.headset = []

def endpointReports (decision : AvrcpAbsoluteVolumeDecision) : List AvrcpWindowsVolume :=
  if hasAvrcpAbsoluteVolumeAction decision .setWindowsEndpoint then [decision.windowsVolume]
  else []

def headsetAnswers (decision : AvrcpAbsoluteVolumeDecision) : List (Nat × AvrcpXm5VolumeEvent) :=
  if hasAvrcpAbsoluteVolumeAction decision .sendXm5AbsoluteVolume then
    [(decision.xm5AbsoluteVolume, .commandResponse),
      (decision.xm5AbsoluteVolume, .remoteNotification)]
  else []

/-- The loop after the reducer decided. -/
def VolumeLoop.perform (loop : VolumeLoop)
    (r : AvrcpAbsoluteVolumeDecision × AvrcpAbsoluteVolumeState) : VolumeLoop where
  reducer := r.2
  endpoint := loop.endpoint ++ endpointReports r.1
  headset := loop.headset ++ headsetAnswers r.1

/-- One delivery, with the decision the reducer takes on it. -/
inductive VolumeLoop.Step : VolumeLoop → AvrcpAbsoluteVolumeDecision → VolumeLoop → Prop
  | endpoint (s : AvrcpAbsoluteVolumeState) (volume endpoint headset) :
      Step ⟨s, volume :: endpoint, headset⟩ (observeWindowsEndpointVolume s s.generation volume).1
        (VolumeLoop.perform ⟨s, endpoint, headset⟩
          (observeWindowsEndpointVolume s s.generation volume))
  | headset (s : AvrcpAbsoluteVolumeState) (endpoint value event headset) :
      Step ⟨s, endpoint, (value, event) :: headset⟩
        (observeXm5AbsoluteVolume s s.generation value event).1
        (VolumeLoop.perform ⟨s, endpoint, headset⟩
          (observeXm5AbsoluteVolume s s.generation value event))

/-- Deliveries in any order of the two sides, with the decisions taken. -/
inductive VolumeLoop.Run : VolumeLoop → List AvrcpAbsoluteVolumeDecision → VolumeLoop → Prop
  | nil (loop : VolumeLoop) : Run loop [] loop
  | cons {loop next last : VolumeLoop} {decision decisions} :
      VolumeLoop.Step loop decision next → Run next decisions last →
      Run loop (decision :: decisions) last

/-- What comes from outside: the user moves the Windows volume or the volume of the headset. -/
inductive VolumeEvent where
  | windows (volume : AvrcpWindowsVolume)
  | remote (value : Nat)
  deriving DecidableEq

def VolumeEvent.observe (s : AvrcpAbsoluteVolumeState) :
    VolumeEvent → AvrcpAbsoluteVolumeDecision × AvrcpAbsoluteVolumeState
  | windows volume => observeWindowsEndpointVolume s s.generation volume
  | remote value => observeXm5AbsoluteVolume s s.generation value .remoteNotification

def countActions (action : AvrcpAbsoluteVolumeAction)
    (decisions : List AvrcpAbsoluteVolumeDecision) : Nat :=
  decisions.countP (hasAvrcpAbsoluteVolumeAction · action)

/-! ## What the reducer decides -/

/-- The session takes part in the shared volume. -/
structure Listening (s : AvrcpAbsoluteVolumeState) : Prop where
  generation : s.generation ≠ 0
  active : s.sessionActive = true
  supported : s.support = .supported
  known : s.windowsVolumeKnown = true

section
variable {s : AvrcpAbsoluteVolumeState}

theorem SessionInv.listening (h : SessionInv s) (ha : s.sessionActive = true)
    (hs : s.support = .supported) : Listening s :=
  ⟨h.generation ha, ha, hs, h.known ha⟩

theorem Listening.session (h : Listening s) : SessionInv s :=
  ⟨fun _ => h.generation, fun _ => h.known⟩

theorem Listening.current (h : Listening s) : isCurrentSession s s.generation = true :=
  isCurrentSession_self h.session h.active

/-- A report of the endpoint is taken in silence, or the headset is told the volume Windows has. -/
inductive WindowsObserved : AvrcpAbsoluteVolumeDecision × AvrcpAbsoluteVolumeState → Prop
  | silent {s' : AvrcpAbsoluteVolumeState} : Listening s' → WindowsObserved ({}, s')
  | told {s' : AvrcpAbsoluteVolumeState} (u : Nat) :
      Listening s' → projectWindowsVolumeToXm5 s'.windowsVolume = u →
      WindowsObserved ({ actions := sendXm5AbsoluteVolume.bit, xm5AbsoluteVolume := u }, s')

theorem sendAuthoritative_observed (h : Listening s) :
    WindowsObserved (sendAuthoritativeWindowsVolume s) := by
  unfold sendAuthoritativeWindowsVolume
  rw [if_neg (by simp [h.supported, h.known])]
  exact .told _ ⟨h.generation, h.active, h.supported, h.known⟩ rfl

theorem observeWindows_observed (h : Listening s) (w : AvrcpWindowsVolume) :
    WindowsObserved (observeWindowsEndpointVolume s s.generation w) := by
  unfold observeWindowsEndpointVolume
  rw [if_neg (by simp [h.current])]
  dsimp only
  split_ifs
  · exact .silent ⟨h.generation, h.active, h.supported, rfl⟩
  · exact sendAuthoritative_observed ⟨h.generation, h.active, h.supported, rfl⟩
  · exact .silent ⟨h.generation, h.active, h.supported, rfl⟩
  · exact .silent ⟨h.generation, h.active, h.supported, rfl⟩
  · exact sendAuthoritative_observed ⟨h.generation, h.active, h.supported, rfl⟩

theorem observeResponse_silent (h : Listening s) (u : Nat) :
    ∃ s', observeXm5AbsoluteVolume s s.generation u .commandResponse = ({}, s') ∧ Listening s' ∧
      s'.windowsVolume = s.windowsVolume := by
  simp only [observeXm5AbsoluteVolume, if_true]
  split_ifs
  · exact ⟨s, rfl, h, rfl⟩
  · exact ⟨_, rfl, ⟨h.generation, h.active, h.supported, h.known⟩, rfl⟩
  · exact ⟨s, rfl, h, rfl⟩

theorem observeNotification_cases (h : Listening s) (v : Nat) :
    (∃ s', observeXm5AbsoluteVolume s s.generation v .remoteNotification = ({}, s') ∧
      Listening s') ∨
    ∃ s', observeXm5AbsoluteVolume s s.generation v .remoteNotification =
        ({ actions := setWindowsEndpoint.bit, windowsVolume := convertXm5Volume v }, s') ∧
      Listening s' ∧ projectWindowsVolumeToXm5 s.windowsVolume ≠ v := by
  rcases Nat.lt_or_ge 127 v with hv | hv
  · exact .inl ⟨s, by simp [observeXm5AbsoluteVolume, hv], h⟩
  rw [observeRemote_eq h.session h.active h.supported hv]
  split_ifs with hrepeated hequal
  · exact .inl ⟨s, rfl, h⟩
  · exact .inl ⟨_, rfl, h.generation, h.active, h.supported, h.known⟩
  · exact .inr ⟨_, rfl, ⟨h.generation, h.active, h.supported, h.known⟩, hequal⟩

end

/-! ## The loop settles -/

@[simp] theorem perform_silent (loop : VolumeLoop) (s : AvrcpAbsoluteVolumeState) :
    loop.perform ({}, s) = { loop with reducer := s } := by
  simp [VolumeLoop.perform, endpointReports, headsetAnswers]

@[simp] theorem perform_set (loop : VolumeLoop) (s : AvrcpAbsoluteVolumeState)
    (w : AvrcpWindowsVolume) (x : Nat) :
    loop.perform (⟨setWindowsEndpoint.bit, w, x⟩, s) =
      { loop with reducer := s, endpoint := loop.endpoint ++ [w] } := by
  simp [VolumeLoop.perform, endpointReports, headsetAnswers]

@[simp] theorem perform_send (loop : VolumeLoop) (s : AvrcpAbsoluteVolumeState)
    (w : AvrcpWindowsVolume) (u : Nat) :
    loop.perform (⟨sendXm5AbsoluteVolume.bit, w, u⟩, s) =
      { loop with
        reducer := s
        headset := loop.headset ++ [(u, .commandResponse), (u, .remoteNotification)] } := by
  simp [VolumeLoop.perform, endpointReports, headsetAnswers]

/-- A loop with at most `n` deliveries and `k` sends to come. -/
inductive Settling : VolumeLoop → Nat → Nat → Prop
  | quiet {s} (n k) : Listening s → Settling ⟨s, [], []⟩ n k
  | applied {s} (w n k) : Listening s → Settling ⟨s, [w], []⟩ (n + 3) (k + 1)
  | sent {s} (u n k) : Listening s → projectWindowsVolumeToXm5 s.windowsVolume = u →
      Settling ⟨s, [], [(u, .commandResponse), (u, .remoteNotification)]⟩ (n + 2) k
  | answered {s} (u n k) : Listening s → projectWindowsVolumeToXm5 s.windowsVolume = u →
      Settling ⟨s, [], [(u, .remoteNotification)]⟩ (n + 1) k

theorem observeWindows_settling {s : AvrcpAbsoluteVolumeState} (h : Listening s)
    (w : AvrcpWindowsVolume) (n k : Nat) :
    ∃ k', k + 1 = k' + countActions sendXm5AbsoluteVolume
        [(observeWindowsEndpointVolume s s.generation w).1] ∧
      countActions setWindowsEndpoint [(observeWindowsEndpointVolume s s.generation w).1] = 0 ∧
      Settling (VolumeLoop.perform ⟨s, [], []⟩ (observeWindowsEndpointVolume s s.generation w))
        (n + 2) k' := by
  have hobserved := observeWindows_observed h w
  generalize observeWindowsEndpointVolume s s.generation w = r at hobserved ⊢
  cases hobserved with
  | silent h' =>
    refine ⟨k + 1, by simp [countActions], by simp [countActions], ?_⟩
    rw [perform_silent]
    exact .quiet _ _ h'
  | told u h' hu =>
    refine ⟨k, by simp [countActions], by simp [countActions], ?_⟩
    rw [perform_send]
    exact .sent u n k h' hu

theorem observe_settling {s : AvrcpAbsoluteVolumeState} (h : Listening s) (event : VolumeEvent) :
    ∃ k, 1 = k + countActions sendXm5AbsoluteVolume [(event.observe s).1] ∧
      Settling (VolumeLoop.perform ⟨s, [], []⟩ (event.observe s)) 3 k := by
  cases event with
  | windows w =>
    obtain ⟨k, hk, -, hsettling⟩ := observeWindows_settling h w 1 0
    exact ⟨k, hk, hsettling⟩
  | remote v =>
    refine ⟨1, ?_⟩
    rcases observeNotification_cases h v with ⟨s', hs', h'⟩ | ⟨s', hs', h', -⟩
    · rw [VolumeEvent.observe, hs', perform_silent]
      exact ⟨by simp [countActions], .quiet 3 1 h'⟩
    · rw [VolumeEvent.observe, hs', perform_set]
      exact ⟨by simp [countActions], .applied _ 0 0 h'⟩

theorem Settling.step {loop next : VolumeLoop} {n k : Nat} {decision : AvrcpAbsoluteVolumeDecision}
    (h : Settling loop n k) (hstep : loop.Step decision next) :
    ∃ n' k', n = n' + 1 ∧ k = k' + countActions sendXm5AbsoluteVolume [decision] ∧
      countActions setWindowsEndpoint [decision] = 0 ∧ Settling next n' k' := by
  cases h with
  | quiet n k h => cases hstep
  | applied w n k h =>
    cases hstep
    obtain ⟨k', hk, hsets, hsettling⟩ := observeWindows_settling h w n k
    exact ⟨n + 2, k', rfl, hk, hsets, hsettling⟩
  | @sent s u n k h hu =>
    cases hstep
    obtain ⟨s', hs', h', hw⟩ := observeResponse_silent h u
    rw [hs', perform_silent]
    exact ⟨n + 1, k, rfl, by simp [countActions], by simp [countActions],
      .answered u n k h' (by rw [hw, hu])⟩
  | @answered s u n k h hu =>
    cases hstep
    -- the headset notifies the volume that Windows has
    rcases observeNotification_cases h u with ⟨s', hs', h'⟩ | ⟨s', -, -, hne⟩
    · rw [hs', perform_silent]
      exact ⟨n, k, rfl, by simp [countActions], by simp [countActions], .quiet n k h'⟩
    · exact absurd hu hne

theorem countActions_cons (action : AvrcpAbsoluteVolumeAction)
    (decision : AvrcpAbsoluteVolumeDecision) (decisions : List AvrcpAbsoluteVolumeDecision) :
    countActions action (decision :: decisions) =
      countActions action [decision] + countActions action decisions := by
  unfold countActions
  rw [← List.singleton_append, List.countP_append]

theorem Settling.run {loop last : VolumeLoop} {n k : Nat}
    {decisions : List AvrcpAbsoluteVolumeDecision} (h : Settling loop n k)
    (hrun : loop.Run decisions last) :
    ∃ n' k', n = n' + decisions.length ∧ k = k' + countActions sendXm5AbsoluteVolume decisions ∧
      countActions setWindowsEndpoint decisions = 0 ∧ Settling last n' k' := by
  induction hrun generalizing n k with
  | nil => exact ⟨n, k, rfl, rfl, rfl, h⟩
  | @cons _ _ _ decision decisions hstep _ ih =>
    obtain ⟨n₁, k₁, rfl, rfl, hsets, h₁⟩ := h.step hstep
    obtain ⟨n₂, k₂, rfl, rfl, hrest, h₂⟩ := ih h₁
    refine ⟨n₂, k₂, ?_, ?_, ?_, h₂⟩
    · rw [List.length_cons, Nat.add_assoc]
    · rw [countActions_cons _ decision decisions]
      omega
    · rw [countActions_cons, hsets, hrest]

theorem Settling.progress {loop : VolumeLoop} {n k : Nat} (h : Settling loop n k) :
    loop.Quiet ∨ ∃ decision next, loop.Step decision next := by
  cases h with
  | quiet => exact .inl ⟨rfl, rfl⟩
  | applied => exact .inr ⟨_, _, .endpoint _ _ _ _⟩
  | sent => exact .inr ⟨_, _, .headset _ _ _ _ _⟩
  | answered => exact .inr ⟨_, _, .headset _ _ _ _ _⟩

theorem Settling.settles {loop : VolumeLoop} {n k : Nat} (h : Settling loop n k) :
    ∃ decisions last, loop.Run decisions last ∧ last.Quiet := by
  induction n generalizing loop k with
  | zero =>
    rcases h.progress with hquiet | ⟨decision, next, hstep⟩
    · exact ⟨[], loop, .nil loop, hquiet⟩
    · obtain ⟨_, _, hn, _⟩ := h.step hstep
      exact absurd hn (Nat.succ_ne_zero _).symm
  | succ n ih =>
    rcases h.progress with hquiet | ⟨decision, next, hstep⟩
    · exact ⟨[], loop, .nil loop, hquiet⟩
    · obtain ⟨n', k', hn, -, -, h'⟩ := h.step hstep
      obtain rfl := Nat.succ.inj hn
      obtain ⟨decisions, last, hrun, hquiet⟩ := ih h'
      exact ⟨decision :: decisions, last, .cons hstep hrun, hquiet⟩

/-- **No feedback**: in every reachable session that supports the absolute volume, an event from
    outside leads to three deliveries at most, whatever their order; the endpoint is set once and
    the headset is sent to once, at most; and the loop becomes quiet. -/
theorem volumeLoop_settles {s : AvrcpAbsoluteVolumeState}
    (hr : absoluteVolume.Reach (· = {}) s) (ha : s.sessionActive = true)
    (hs : s.support = .supported) (event : VolumeEvent)
    {decisions : List AvrcpAbsoluteVolumeDecision} {loop : VolumeLoop}
    (hrun : (VolumeLoop.perform ⟨s, [], []⟩ (event.observe s)).Run decisions loop) :
    decisions.length ≤ 3 ∧
      countActions setWindowsEndpoint ((event.observe s).1 :: decisions) ≤ 1 ∧
      countActions sendXm5AbsoluteVolume ((event.observe s).1 :: decisions) ≤ 1 ∧
      ∃ rest last, loop.Run rest last ∧ last.Quiet := by
  obtain ⟨k, hk, hsettling⟩ := observe_settling ((session_inv hr).listening ha hs) event
  obtain ⟨n', k', hn, hk', hsets, hlast⟩ := hsettling.run hrun
  have hone : countActions setWindowsEndpoint [(event.observe s).1] ≤ 1 := List.countP_le_length
  refine ⟨by omega, ?_, ?_, hlast.settles⟩
  · rw [countActions_cons, hsets]
    exact hone
  · rw [countActions_cons]
    omega

/-- The headset asks for 2, Windows applies the 2 percent it is converted to, and the headset is
    told 3. -/
theorem volumeLoop_settles_at_thirty :
    ∃ decisions loop,
      (VolumeLoop.perform ⟨absoluteVolume.after {} sessionAtThirty, [], []⟩
        ((VolumeEvent.remote 2).observe (absoluteVolume.after {} sessionAtThirty))).Run
          decisions loop ∧
      countActions sendXm5AbsoluteVolume decisions = 1 ∧
      decisions.length ≤ 3 ∧
      ∃ rest last, loop.Run rest last ∧ last.Quiet := by
  have hrun := VolumeLoop.Run.cons
    (.endpoint ((VolumeEvent.remote 2).observe (absoluteVolume.after {} sessionAtThirty)).2
      (convertXm5Volume 2) [] []) (.nil _)
  have h := volumeLoop_settles (reach_ops sessionAtThirty) (by decide) (by decide) (.remote 2) hrun
  exact ⟨_, _, hrun, by decide, h.1, h.2.2.2⟩

end NativeLdac.Agent
