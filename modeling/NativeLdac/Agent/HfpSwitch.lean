/-
  The HFP switch (`agent/v1_hfp_switch_state.cpp`): the phases between the
  LDAC output and the hands-free output of one ACL generation, and the two
  seconds that the hands-free output is held for after the capture ends.

  * `V1HfpSwitchState.step` is the switch, `v1HfpSwitch` the machine;
  * `V1HfpCourse` says what one input can do.
-/
import Mathlib.Algebra.Order.Group.Nat
import Mathlib.Data.List.Chain
import Mathlib.Tactic.SplitIfs
import Mathlib.Tactic.Tauto
import NativeLdac.Lib.Reducer

namespace NativeLdac.Agent


/-! ## The switch -/

def kV1HfpReleaseStabilityMs : UInt64 := 2000

inductive V1HfpSwitchPhase where
  | disconnected | ldacAvailable | waitingForLdacStop | hfpActive | releaseDelay
  deriving DecidableEq, Repr

structure V1HfpSwitchInput where
  aclGeneration : UInt64 := 0
  nowMs : UInt64 := 0
  physicalConnected : Bool := false
  captureActive : Bool := false
  ldacPathActive : Bool := false
  renderDemand : Bool := false
  deriving DecidableEq, Repr

inductive V1HfpSwitchAction where
  | stopLdac | enterHfpOutput | exitHfpOutput | resumeLdac
  deriving DecidableEq, Repr

def V1HfpSwitchAction.bit : V1HfpSwitchAction → UInt32
  | stopLdac => (1 : UInt32) <<< 0
  | enterHfpOutput => (1 : UInt32) <<< 1
  | exitHfpOutput => (1 : UInt32) <<< 2
  | resumeLdac => (1 : UInt32) <<< 3

def v1HfpActionNone : UInt32 := 0

structure V1HfpSwitchDecision where
  actions : UInt32 := v1HfpActionNone
  phase : V1HfpSwitchPhase := .disconnected
  aclGeneration : UInt64 := 0
  releaseDeadlineMs : UInt64 := 0
  stale : Bool := false
  deriving DecidableEq, Repr

def hasV1HfpSwitchAction (decision : V1HfpSwitchDecision) (action : V1HfpSwitchAction) : Bool :=
  decision.actions &&& action.bit != 0

structure V1HfpSwitchState where
  phase : V1HfpSwitchPhase := .disconnected
  aclGeneration : UInt64 := 0
  releaseDeadlineMs : UInt64 := 0
  hfpOutputActive : Bool := false
  deriving DecidableEq, Repr

def V1HfpSwitchState.isNewerGeneration (candidate current : UInt64) : Bool :=
  if candidate = 0 then false
  else if current = 0 then true
  else candidate - current ≠ 0 ∧ candidate - current < (1 : UInt64) <<< 63

namespace V1HfpSwitchState

open V1HfpSwitchAction

def snapshot (state : V1HfpSwitchState) (actions : UInt32) (stale : Bool) : V1HfpSwitchDecision :=
  { actions := actions
    phase := state.phase
    aclGeneration := state.aclGeneration
    releaseDeadlineMs := state.releaseDeadlineMs
    stale := stale }

def resetDisconnected (state : V1HfpSwitchState) : V1HfpSwitchState :=
  { state with phase := .disconnected, releaseDeadlineMs := 0, hfpOutputActive := false }

/-- The output is left, if it is active. -/
def exitAction (state : V1HfpSwitchState) : UInt32 :=
  if state.hfpOutputActive then exitHfpOutput.bit else v1HfpActionNone

/-- `Step`: a new generation starts over. -/
def enterGeneration (state : V1HfpSwitchState) (input : V1HfpSwitchInput) :
    UInt32 × V1HfpSwitchState :=
  if input.aclGeneration ≠ state.aclGeneration then
    let reset := { state with aclGeneration := input.aclGeneration }.resetDisconnected
    (state.exitAction,
      if input.physicalConnected then { reset with phase := .ldacAvailable } else reset)
  else (v1HfpActionNone, state)

/-- `Step`: a connected headset is available. -/
def connect (state : V1HfpSwitchState) : V1HfpSwitchState :=
  if state.phase = .disconnected then { state with phase := .ldacAvailable } else state

/-- `Step`, while the capture is active. -/
def capture (state : V1HfpSwitchState) (input : V1HfpSwitchInput) (actions : UInt32) :
    UInt32 × V1HfpSwitchState :=
  let state := { state with releaseDeadlineMs := 0 }
  if input.ldacPathActive then
    (if state.phase ≠ .waitingForLdacStop then actions ||| stopLdac.bit else actions,
      { state with phase := .waitingForLdacStop })
  else if ¬ state.hfpOutputActive then
    (actions ||| enterHfpOutput.bit, { state with hfpOutputActive := true, phase := .hfpActive })
  else (actions, { state with phase := .hfpActive })

/-- `Step`, while it is not. -/
def release (state : V1HfpSwitchState) (input : V1HfpSwitchInput) (actions : UInt32) :
    UInt32 × V1HfpSwitchState :=
  if state.phase = .waitingForLdacStop then
    if input.ldacPathActive then (actions, state)
    else
      (actions,
        { state with
          phase := .releaseDelay, releaseDeadlineMs := input.nowMs + kV1HfpReleaseStabilityMs })
  else if state.phase = .hfpActive then
    (actions,
      { state with
        phase := .releaseDelay, releaseDeadlineMs := input.nowMs + kV1HfpReleaseStabilityMs })
  else if state.phase = .releaseDelay ∧ input.nowMs ≥ state.releaseDeadlineMs then
    let actions := actions ||| state.exitAction
    (if input.renderDemand ∧ ¬ input.ldacPathActive then actions ||| resumeLdac.bit else actions,
      { state with phase := .ldacAvailable, releaseDeadlineMs := 0, hfpOutputActive := false })
  else (actions, state)

def step (state : V1HfpSwitchState) (input : V1HfpSwitchInput) :
    V1HfpSwitchDecision × V1HfpSwitchState :=
  if input.aclGeneration = 0 then (state.snapshot v1HfpActionNone true, state)
  else if state.aclGeneration ≠ 0 ∧ input.aclGeneration ≠ state.aclGeneration ∧
      ¬ isNewerGeneration input.aclGeneration state.aclGeneration then
    (state.snapshot v1HfpActionNone true, state)
  else
    let entered := state.enterGeneration input
    if ¬ input.physicalConnected then
      let reset := entered.2.resetDisconnected
      (reset.snapshot (entered.1 ||| entered.2.exitAction) false, reset)
    else
      let available := entered.2.connect
      let moved :=
        if input.captureActive then available.capture input entered.1
        else available.release input entered.1
      (moved.2.snapshot moved.1 false, moved.2)

end V1HfpSwitchState

/-- The switch as a machine: inputs in, decisions out. -/
def v1HfpSwitch : Reducer V1HfpSwitchState V1HfpSwitchInput V1HfpSwitchDecision where
  step := V1HfpSwitchState.step

/-! ## Action words -/

/-- The word holds the action. -/
def hfpWordHas (word : UInt32) (action : V1HfpSwitchAction) : Bool := word &&& action.bit != 0

@[simp] theorem hfpWordHas_none (a : V1HfpSwitchAction) : hfpWordHas v1HfpActionNone a = false := by
  cases a <;> rfl

@[simp] theorem hfpWordHas_bit (a b : V1HfpSwitchAction) :
    hfpWordHas a.bit b = decide (a = b) := by
  cases a <;> cases b <;> rfl

@[simp] theorem hfpWordHas_or (x y : UInt32) (a : V1HfpSwitchAction) :
    hfpWordHas (x ||| y) a = (hfpWordHas x a || hfpWordHas y a) := by
  have h : (x ||| y) &&& a.bit = (x &&& a.bit) ||| (y &&& a.bit) := by
    simp [← UInt32.toBitVec_inj, BitVec.and_or_distrib_right]
  rw [hfpWordHas, h, Bool.eq_iff_iff]
  simp [hfpWordHas, UInt32.or_eq_zero_iff]
  tauto

@[simp] theorem hfpWordHas_exitAction (s : V1HfpSwitchState) (a : V1HfpSwitchAction) :
    hfpWordHas s.exitAction a = (s.hfpOutputActive && decide (.exitHfpOutput = a)) := by
  unfold V1HfpSwitchState.exitAction
  split_ifs with h <;> simp [h]

/-! ## What one input does -/

/-- The input is of a stale generation. -/
def V1HfpSwitchState.Stale (s : V1HfpSwitchState) (i : V1HfpSwitchInput) : Prop :=
  i.aclGeneration = 0 ∨ s.aclGeneration ≠ 0 ∧ i.aclGeneration ≠ s.aclGeneration ∧
    ¬ V1HfpSwitchState.isNewerGeneration i.aclGeneration s.aclGeneration

instance (s : V1HfpSwitchState) (i : V1HfpSwitchInput) : Decidable (s.Stale i) :=
  inferInstanceAs (Decidable (_ ∨ _))

open V1HfpSwitchPhase V1HfpSwitchAction

/-- What a connected input does to a connected switch. -/
inductive V1HfpMove (s : V1HfpSwitchState) (i : V1HfpSwitchInput) (w : UInt32) :
    UInt32 × V1HfpSwitchState → Prop
  /-- the capture has LDAC stopped -/
  | stop : i.captureActive → i.ldacPathActive → V1HfpMove s i w
      (if s.phase ≠ waitingForLdacStop then w ||| stopLdac.bit else w,
        { s with phase := waitingForLdacStop, releaseDeadlineMs := 0 })
  /-- the capture has the output entered -/
  | enter : i.captureActive → ¬ i.ldacPathActive → ¬ s.hfpOutputActive → V1HfpMove s i w
      (w ||| enterHfpOutput.bit,
        { s with phase := hfpActive, releaseDeadlineMs := 0, hfpOutputActive := true })
  /-- the capture goes on -/
  | active : i.captureActive → ¬ i.ldacPathActive → s.hfpOutputActive → V1HfpMove s i w
      (w, { s with phase := hfpActive, releaseDeadlineMs := 0 })
  /-- the capture has ended, and the hold-off starts -/
  | hold : ¬ i.captureActive → s.phase = waitingForLdacStop ∨ s.phase = hfpActive →
      V1HfpMove s i w
        (w, { s with
          phase := releaseDelay, releaseDeadlineMs := i.nowMs + kV1HfpReleaseStabilityMs })
  /-- the hold-off is over -/
  | expire : ¬ i.captureActive → s.phase = releaseDelay → i.nowMs ≥ s.releaseDeadlineMs →
      V1HfpMove s i w
        (if i.renderDemand ∧ ¬ i.ldacPathActive then w ||| s.exitAction ||| resumeLdac.bit
          else w ||| s.exitAction,
          { s with phase := ldacAvailable, releaseDeadlineMs := 0, hfpOutputActive := false })
  /-- nothing happens -/
  | idle : ¬ i.captureActive → (s.phase = waitingForLdacStop → i.ldacPathActive) →
      s.phase ≠ hfpActive → ¬ (s.phase = releaseDelay ∧ i.nowMs ≥ s.releaseDeadlineMs) →
      V1HfpMove s i w (w, s)

/-- The connected switch of the input's generation. -/
def V1HfpSwitchState.arrived (s : V1HfpSwitchState) (i : V1HfpSwitchInput) : V1HfpSwitchState :=
  if i.aclGeneration ≠ s.aclGeneration then
    { phase := ldacAvailable, aclGeneration := i.aclGeneration }
  else s.connect

/-- The output that a new generation leaves. -/
def V1HfpSwitchState.leftWord (s : V1HfpSwitchState) (i : V1HfpSwitchInput) : UInt32 :=
  if i.aclGeneration ≠ s.aclGeneration then s.exitAction else v1HfpActionNone

open V1HfpSwitchState (arrived capture connect enterGeneration isNewerGeneration leftWord release
  snapshot step)

/-- What an input does. -/
inductive V1HfpCourse (s : V1HfpSwitchState) (i : V1HfpSwitchInput) :
    V1HfpSwitchDecision × V1HfpSwitchState → Prop
  | stale : s.Stale i → V1HfpCourse s i (s.snapshot v1HfpActionNone true, s)
  | disconnected {w s'} : ¬ s.Stale i → ¬ i.physicalConnected →
      (∀ a, hfpWordHas w a = (s.hfpOutputActive && decide (exitHfpOutput = a))) →
      s' = { phase := .disconnected, aclGeneration := i.aclGeneration } →
      V1HfpCourse s i (s'.snapshot w false, s')
  | connected {w s'} : ¬ s.Stale i → i.physicalConnected →
      V1HfpMove (s.arrived i) i (s.leftWord i) (w, s') → V1HfpCourse s i (s'.snapshot w false, s')

section
variable {s : V1HfpSwitchState} {i : V1HfpSwitchInput}

theorem capture_move (h : i.captureActive) (w : UInt32) : V1HfpMove s i w (s.capture i w) := by
  unfold capture
  by_cases hpath : i.ldacPathActive
  · rw [if_pos hpath]
    exact .stop h hpath
  rw [if_neg hpath]
  by_cases hout : s.hfpOutputActive
  · rw [if_neg (not_not.mpr hout)]
    exact .active h hpath hout
  · rw [if_pos hout]
    exact .enter h hpath hout

theorem release_move (h : ¬ i.captureActive) (w : UInt32) : V1HfpMove s i w (s.release i w) := by
  unfold release
  by_cases hwait : s.phase = waitingForLdacStop
  · rw [if_pos hwait]
    by_cases hpath : i.ldacPathActive
    · rw [if_pos hpath]
      exact .idle h (fun _ => hpath) (by simp [hwait]) (by simp [hwait])
    · rw [if_neg hpath]
      exact .hold h (.inl hwait)
  rw [if_neg hwait]
  by_cases hactive : s.phase = hfpActive
  · rw [if_pos hactive]
    exact .hold h (.inr hactive)
  rw [if_neg hactive]
  by_cases hexpired : s.phase = releaseDelay ∧ i.nowMs ≥ s.releaseDeadlineMs
  · rw [if_pos hexpired]
    exact .expire h hexpired.1 hexpired.2
  · rw [if_neg hexpired]
    exact .idle h (fun hphase => absurd hphase hwait) hactive hexpired

theorem enterGeneration_word (s : V1HfpSwitchState) (i : V1HfpSwitchInput) :
    (s.enterGeneration i).1 = s.leftWord i := by
  unfold enterGeneration leftWord
  by_cases hnew : i.aclGeneration ≠ s.aclGeneration
  · rw [if_pos hnew, if_pos hnew]
  · rw [if_neg hnew, if_neg hnew]

theorem enterGeneration_connect (h : i.physicalConnected) :
    (s.enterGeneration i).2.connect = s.arrived i := by
  unfold enterGeneration arrived
  by_cases hnew : i.aclGeneration ≠ s.aclGeneration
  · rw [if_pos hnew, if_pos hnew]
    dsimp only
    rw [if_pos h]
    rfl
  · rw [if_neg hnew, if_neg hnew]

theorem enterGeneration_reset (s : V1HfpSwitchState) (i : V1HfpSwitchInput) :
    (s.enterGeneration i).2.resetDisconnected =
      { phase := .disconnected, aclGeneration := i.aclGeneration } := by
  unfold enterGeneration
  by_cases hnew : i.aclGeneration ≠ s.aclGeneration
  · rw [if_pos hnew]
    dsimp only
    split_ifs <;> rfl
  · rw [if_neg hnew, not_not.mp hnew]
    rfl

theorem enterGeneration_exit (s : V1HfpSwitchState) (i : V1HfpSwitchInput)
    (a : V1HfpSwitchAction) :
    hfpWordHas ((s.enterGeneration i).1 ||| (s.enterGeneration i).2.exitAction) a =
      (s.hfpOutputActive && decide (exitHfpOutput = a)) := by
  unfold enterGeneration
  by_cases hnew : i.aclGeneration ≠ s.aclGeneration
  · rw [if_pos hnew]
    dsimp only
    split_ifs <;> simp [V1HfpSwitchState.resetDisconnected]
  · rw [if_neg hnew]
    simp

theorem hfpSwitch_course (s : V1HfpSwitchState) (i : V1HfpSwitchInput) :
    V1HfpCourse s i (v1HfpSwitch.step s i) := by
  show V1HfpCourse s i (s.step i)
  unfold step
  by_cases hzero : i.aclGeneration = 0
  · rw [if_pos hzero]
    exact .stale (.inl hzero)
  rw [if_neg hzero]
  by_cases hstale : s.aclGeneration ≠ 0 ∧ i.aclGeneration ≠ s.aclGeneration ∧
      ¬ isNewerGeneration i.aclGeneration s.aclGeneration
  · rw [if_pos hstale]
    exact .stale (.inr hstale)
  rw [if_neg hstale]
  have hfresh : ¬ s.Stale i := not_or.mpr ⟨hzero, hstale⟩
  dsimp only
  by_cases hconnected : i.physicalConnected
  · rw [if_neg (not_not.mpr hconnected), enterGeneration_word, enterGeneration_connect hconnected]
    refine .connected hfresh hconnected ?_
    by_cases hcapture : i.captureActive
    · rw [if_pos hcapture]
      exact capture_move hcapture _
    · rw [if_neg hcapture]
      exact release_move hcapture _
  · rw [if_pos hconnected]
    exact .disconnected hfresh hconnected (enterGeneration_exit s i) (enterGeneration_reset s i)

end

/-! ## The onlooker -/

/-- What a run has shown of the capture: nothing, that it is active, or the time of the
    first inactive input after the last active one. -/
inductive CaptureSeen where
  | never | active | quietSince (nowMs : UInt64)
  deriving DecidableEq, Repr

def CaptureSeen.see (seen : CaptureSeen) (i : V1HfpSwitchInput) : CaptureSeen :=
  if i.captureActive then active
  else match seen with
    | active => quietSince i.nowMs
    | seen => seen

/-- What a run shows, with the inputs that `counts` picks. -/
def seenAlong (counts : V1HfpSwitchState → V1HfpSwitchInput → Bool) (s : V1HfpSwitchState)
    (seen : CaptureSeen) : List V1HfpSwitchInput → CaptureSeen
  | [] => seen
  | i :: is =>
    seenAlong counts (v1HfpSwitch.next s i) (if counts s i then seen.see i else seen) is

/-- The actions that enter and leave the output, in the order of a run; in a word that has
    both, the output is left first. -/
def outputActions (s : V1HfpSwitchState) : List V1HfpSwitchInput → List V1HfpSwitchAction
  | [] => []
  | i :: is =>
    ((if hasV1HfpSwitchAction (v1HfpSwitch.out s i) exitHfpOutput then [exitHfpOutput] else []) ++
      (if hasV1HfpSwitchAction (v1HfpSwitch.out s i) enterHfpOutput then [enterHfpOutput]
        else [])) ++ outputActions (v1HfpSwitch.next s i) is

/-- The times do not decrease from the clock on, and none is close to the end of the range. -/
def TimelyFrom (clock : UInt64) : List V1HfpSwitchInput → Prop
  | [] => True
  | i :: is => clock ≤ i.nowMs ∧ i.nowMs.toNat + kV1HfpReleaseStabilityMs.toNat < 2 ^ 64 ∧
      TimelyFrom i.nowMs is

def decidableTimelyFrom : ∀ clock is, Decidable (TimelyFrom clock is)
  | _, [] => isTrue trivial
  | _, i :: is =>
    @instDecidableAnd _ _ _ (@instDecidableAnd _ _ _ (decidableTimelyFrom i.nowMs is))

instance (clock : UInt64) (is : List V1HfpSwitchInput) : Decidable (TimelyFrom clock is) :=
  decidableTimelyFrom clock is

/-- The hold-off has passed: two seconds since the first inactive input after the last active
    one. -/
def HeldOff (counts : V1HfpSwitchState → V1HfpSwitchInput → Bool)
    (history : List V1HfpSwitchInput) (i : V1HfpSwitchInput) : Prop :=
  ∃ t, seenAlong counts {} .never (history ++ [i]) = .quietSince t ∧
    t.toNat + kV1HfpReleaseStabilityMs.toNat ≤ i.nowMs.toNat

/-- What holds of the actions of one input. -/
structure Orderly (counts : V1HfpSwitchState → V1HfpSwitchInput → Bool)
    (history : List V1HfpSwitchInput) (i : V1HfpSwitchInput) : Prop where
  enter : hasV1HfpSwitchAction (v1HfpSwitch.out (v1HfpSwitch.after {} history) i) enterHfpOutput →
    ¬ i.ldacPathActive ∧ i.captureActive
  exit : hasV1HfpSwitchAction (v1HfpSwitch.out (v1HfpSwitch.after {} history) i) exitHfpOutput →
    ¬ i.physicalConnected ∨
      V1HfpSwitchState.isNewerGeneration i.aclGeneration
        (v1HfpSwitch.after {} history).aclGeneration ∨
      HeldOff counts history i
  stop : hasV1HfpSwitchAction (v1HfpSwitch.out (v1HfpSwitch.after {} history) i) stopLdac →
    ¬ hasV1HfpSwitchAction (v1HfpSwitch.out (v1HfpSwitch.after {} history) i) resumeLdac
  resume : hasV1HfpSwitchAction (v1HfpSwitch.out (v1HfpSwitch.after {} history) i) resumeLdac →
    HeldOff counts history i ∧ (v1HfpSwitch.after {} history).phase = releaseDelay ∧
      i.renderDemand ∧ ¬ i.ldacPathActive
  stale : (v1HfpSwitch.after {} history).Stale i →
    v1HfpSwitch.next (v1HfpSwitch.after {} history) i = v1HfpSwitch.after {} history

def everyInput (_ : V1HfpSwitchState) (_ : V1HfpSwitchInput) : Bool := true

/-- The inputs of a stale generation do not count. -/
def freshInput (s : V1HfpSwitchState) (i : V1HfpSwitchInput) : Bool := ¬ s.Stale i

/-! ## The output -/

section
variable {s s' : V1HfpSwitchState} {i : V1HfpSwitchInput} {w w' : UInt32}

theorem arrived_output (s : V1HfpSwitchState) (i : V1HfpSwitchInput) :
    (s.arrived i).hfpOutputActive =
      (s.hfpOutputActive && decide (i.aclGeneration = s.aclGeneration)) := by
  unfold arrived connect
  split_ifs with hnew <;> simp_all

theorem hfpWordHas_leftWord (s : V1HfpSwitchState) (i : V1HfpSwitchInput) (a : V1HfpSwitchAction) :
    hfpWordHas (s.leftWord i) a =
      (s.hfpOutputActive && decide (i.aclGeneration ≠ s.aclGeneration) &&
        decide (exitHfpOutput = a)) := by
  unfold leftWord
  split_ifs with hnew <;> simp [hnew]

/-- How a word leaves the output: what was active is left, and what is entered is active. -/
def TurnsOutput (active : Bool) (w : UInt32) (active' : Bool) : Prop :=
  (hfpWordHas w exitHfpOutput → active) ∧
    (hfpWordHas w enterHfpOutput → active → hfpWordHas w exitHfpOutput) ∧
    active' = (hfpWordHas w enterHfpOutput || active && !hfpWordHas w exitHfpOutput)

theorem move_turns (hmove : V1HfpMove (s.arrived i) i (s.leftWord i) (w, s')) :
    TurnsOutput s.hfpOutputActive w s'.hfpOutputActive := by
  have hout := arrived_output s i
  unfold TurnsOutput
  by_cases hgen : i.aclGeneration = s.aclGeneration <;> cases hactive : s.hfpOutputActive <;>
    simp only [hgen, hactive, decide_true, decide_false, Bool.and_true, Bool.and_false] at hout
  all_goals
    cases hmove with
    | stop _ _ => split_ifs <;> simp [hfpWordHas_leftWord, hgen, hactive, hout]
    | enter _ _ h => simp_all [hfpWordHas_leftWord]
    | active _ _ h => simp_all [hfpWordHas_leftWord]
    | hold _ _ => simp [hfpWordHas_leftWord, hgen, hactive, hout]
    | expire _ _ _ => split_ifs <;> simp [hfpWordHas_leftWord, hgen, hactive, hout]
    | idle _ _ _ _ => simp [hfpWordHas_leftWord, hgen, hactive, hout]

theorem course_turns {r : V1HfpSwitchDecision × V1HfpSwitchState} (h : V1HfpCourse s i r) :
    TurnsOutput s.hfpOutputActive r.1.actions r.2.hfpOutputActive := by
  cases h with
  | stale _ => simp [TurnsOutput, snapshot]
  | disconnected _ _ hw hs' =>
    simp only [TurnsOutput, snapshot, hw, hs']
    cases s.hfpOutputActive <;> simp
  | connected _ _ hmove => exact move_turns hmove

theorem TurnsOutput.alternate {active active' : Bool} {w : UInt32} {rest : List V1HfpSwitchAction}
    (h : TurnsOutput active w active') (hchain : rest.IsChain (· ≠ ·))
    (hhead : ∀ a ∈ rest.head?, a = if active' then exitHfpOutput else enterHfpOutput) :
    let actions := (if hfpWordHas w exitHfpOutput then [exitHfpOutput] else []) ++
      (if hfpWordHas w enterHfpOutput then [enterHfpOutput] else []) ++ rest
    actions.IsChain (· ≠ ·) ∧
      ∀ a ∈ actions.head?, a = if active then exitHfpOutput else enterHfpOutput := by
  obtain ⟨hexit, hboth, rfl⟩ := h
  have hbefore : ∀ {a b : V1HfpSwitchAction}, a ≠ b →
      (∀ c ∈ rest.head?, c = b) → (a :: rest).IsChain (· ≠ ·) := by
    intro a b hne hall
    exact List.isChain_cons.mpr ⟨fun c hc => hall c hc ▸ hne, hchain⟩
  cases hleaves : hfpWordHas w exitHfpOutput with
  | false =>
    cases henters : hfpWordHas w enterHfpOutput with
    | false =>
      simp only [hleaves, henters, Bool.not_false, Bool.and_true, Bool.false_or] at hhead
      exact ⟨hchain, hhead⟩
    | true =>
      have hidle : active = false := by simpa [hleaves, henters] using hboth
      simp only [henters, Bool.true_or, if_true] at hhead
      exact ⟨hbefore (by decide) hhead, by simp [hidle]⟩
  | true =>
    have hactive : active = true := hexit hleaves
    cases henters : hfpWordHas w enterHfpOutput with
    | false =>
      have hleft : ∀ a ∈ rest.head?, a = enterHfpOutput := by
        simpa [hleaves, henters] using hhead
      exact ⟨hbefore (by decide) hleft, by simp [hactive]⟩
    | true =>
      simp only [henters, Bool.true_or, if_true] at hhead
      have hagain : (enterHfpOutput :: rest).IsChain (· ≠ ·) := hbefore (by decide) hhead
      exact ⟨List.isChain_cons_cons.mpr ⟨by decide, hagain⟩, by simp [hactive]⟩

theorem outputActions_alternate (s : V1HfpSwitchState) (is : List V1HfpSwitchInput) :
    (outputActions s is).IsChain (· ≠ ·) ∧
      ∀ a ∈ (outputActions s is).head?,
        a = if s.hfpOutputActive then exitHfpOutput else enterHfpOutput := by
  induction is generalizing s with
  | nil => simp [outputActions]
  | cons i is ih =>
    obtain ⟨hchain, hhead⟩ := ih (v1HfpSwitch.next s i)
    exact (course_turns (hfpSwitch_course s i)).alternate hchain hhead

end

/-! ## The hold-off -/

/-- The hold-off that runs is one of two seconds from the end of the capture. -/
structure HoldsFrom (s : V1HfpSwitchState) (seen : CaptureSeen) (clock : UInt64) : Prop where
  begun : s.phase = waitingForLdacStop ∨ s.phase = hfpActive → seen ≠ .never
  holding : s.phase = releaseDelay → ∃ t, seen = .quietSince t ∧
    t.toNat + kV1HfpReleaseStabilityMs.toNat ≤ s.releaseDeadlineMs.toNat
  past : ∀ t, seen = .quietSince t → t ≤ clock

section
variable {s : V1HfpSwitchState} {i : V1HfpSwitchInput} {seen : CaptureSeen} {clock : UInt64}

theorem see_active (h : i.captureActive) : seen.see i = .active := if_pos h

theorem see_never (h : ¬ i.captureActive) : seen.see i = .never ↔ seen = .never := by
  unfold CaptureSeen.see
  rw [if_neg h]
  cases seen <;> simp

theorem see_quietSince (h : ¬ i.captureActive) {t : UInt64} (ht : seen = .quietSince t) :
    seen.see i = .quietSince t := by
  simp [ht, CaptureSeen.see, h]

theorem see_quiet (h : ¬ i.captureActive) (hseen : seen ≠ .never) :
    ∃ t, seen.see i = .quietSince t := by
  unfold CaptureSeen.see
  rw [if_neg h]
  cases seen with
  | never => exact absurd rfl hseen
  | active => exact ⟨_, rfl⟩
  | quietSince t => exact ⟨t, rfl⟩

theorem see_past (hclock : clock ≤ i.nowMs) (h : ∀ t, seen = .quietSince t → t ≤ clock) :
    ∀ t, seen.see i = .quietSince t → t ≤ i.nowMs := by
  intro t ht
  unfold CaptureSeen.see at ht
  split_ifs at ht
  cases seen with
  | never => simp at ht
  | active =>
    rw [CaptureSeen.quietSince.inj ht]
    exact UInt64.le_refl _
  | quietSince u => exact UInt64.le_trans (h t ht) hclock

theorem arrived_holdsFrom (h : HoldsFrom s seen clock) (i : V1HfpSwitchInput) :
    HoldsFrom (s.arrived i) seen clock := by
  unfold arrived connect
  split_ifs
  · exact ⟨by simp, by simp, h.past⟩
  · exact ⟨by simp, by simp, h.past⟩
  · exact h

theorem release_deadline (hfit : i.nowMs.toNat + kV1HfpReleaseStabilityMs.toNat < 2 ^ 64) :
    (i.nowMs + kV1HfpReleaseStabilityMs).toNat =
      i.nowMs.toNat + kV1HfpReleaseStabilityMs.toNat := by
  rw [UInt64.toNat_add]
  exact Nat.mod_eq_of_lt hfit

theorem move_holdsFrom {w : UInt32} {r : UInt32 × V1HfpSwitchState}
    (h : HoldsFrom s seen clock)
    (hclock : clock ≤ i.nowMs)
    (hfit : i.nowMs.toNat + kV1HfpReleaseStabilityMs.toNat < 2 ^ 64)
    (hmove : V1HfpMove s i w r) : HoldsFrom r.2 (seen.see i) i.nowMs := by
  have hpast := see_past hclock h.past
  cases hmove with
  | stop hcapture _ => exact ⟨by simp [see_active hcapture], by simp, hpast⟩
  | enter hcapture _ _ => exact ⟨by simp [see_active hcapture], by simp, hpast⟩
  | active hcapture _ _ => exact ⟨by simp [see_active hcapture], by simp, hpast⟩
  | hold hquiet hphase =>
    refine ⟨by simp, ?_, hpast⟩
    intro _
    obtain ⟨t, ht⟩ := see_quiet hquiet (h.begun hphase)
    have hle := UInt64.le_iff_toNat_le.mp (hpast t ht)
    refine ⟨t, ht, ?_⟩
    simp only [release_deadline hfit]
    omega
  | expire _ _ _ => exact ⟨by simp, by simp, hpast⟩
  | idle hquiet _ _ _ =>
    refine ⟨fun hphase hnever => h.begun hphase ((see_never hquiet).mp hnever), ?_, hpast⟩
    intro hphase
    obtain ⟨t, ht, hle⟩ := h.holding hphase
    exact ⟨t, see_quietSince hquiet ht, hle⟩

theorem course_holdsFrom {r : V1HfpSwitchDecision × V1HfpSwitchState} (h : HoldsFrom s seen clock)
    (hclock : clock ≤ i.nowMs)
    (hfit : i.nowMs.toNat + kV1HfpReleaseStabilityMs.toNat < 2 ^ 64) (hc : V1HfpCourse s i r) :
    HoldsFrom r.2 (if freshInput s i then seen.see i else seen) i.nowMs := by
  cases hc with
  | stale hstale =>
    rw [if_neg (by simp [freshInput, hstale])]
    exact ⟨h.begun, h.holding, fun t ht => UInt64.le_trans (h.past t ht) hclock⟩
  | disconnected hfresh _ _ hs' =>
    rw [if_pos (by simp [freshInput, hfresh]), hs']
    exact ⟨by simp, by simp, see_past hclock h.past⟩
  | connected hfresh _ hmove =>
    rw [if_pos (by simp [freshInput, hfresh])]
    exact move_holdsFrom (arrived_holdsFrom h i) hclock hfit hmove

theorem holdsFrom_after (h : HoldsFrom s seen clock) {is : List V1HfpSwitchInput}
    (htimely : TimelyFrom clock (is ++ [i])) :
    ∃ clock', HoldsFrom (v1HfpSwitch.after s is) (seenAlong freshInput s seen is) clock' ∧
      clock' ≤ i.nowMs ∧ i.nowMs.toNat + kV1HfpReleaseStabilityMs.toNat < 2 ^ 64 := by
  induction is generalizing s seen clock with
  | nil => exact ⟨clock, h, htimely.1, htimely.2.1⟩
  | cons j is ih =>
    exact ih (course_holdsFrom h htimely.1 htimely.2.1 (hfpSwitch_course s j)) htimely.2.2

theorem seenAlong_append (counts : V1HfpSwitchState → V1HfpSwitchInput → Bool)
    (s : V1HfpSwitchState) (seen : CaptureSeen) (is js : List V1HfpSwitchInput) :
    seenAlong counts s seen (is ++ js) =
      seenAlong counts (v1HfpSwitch.after s is) (seenAlong counts s seen is) js := by
  induction is generalizing s seen with
  | nil => rfl
  | cons i is ih => exact ih _ _

theorem heldOff_of_expire {history : List V1HfpSwitchInput}
    (htimely : TimelyFrom 0 (history ++ [i]))
    (hfresh : ¬ (v1HfpSwitch.after {} history).Stale i) (hquiet : ¬ i.captureActive)
    (hphase : ((v1HfpSwitch.after {} history).arrived i).phase = releaseDelay)
    (hexpired : i.nowMs ≥ ((v1HfpSwitch.after {} history).arrived i).releaseDeadlineMs) :
    HeldOff freshInput history i := by
  have hinit : HoldsFrom {} .never 0 := ⟨by simp, by simp, by simp⟩
  obtain ⟨clock, hholds, hclock, hfit⟩ := holdsFrom_after hinit htimely
  obtain ⟨t, ht, hle⟩ := (arrived_holdsFrom hholds i).holding hphase
  refine ⟨t, ?_, ?_⟩
  · rw [seenAlong_append]
    simp only [seenAlong]
    rw [if_pos (by simp [freshInput, hfresh])]
    exact see_quietSince hquiet ht
  · have hexpired' := UInt64.le_iff_toNat_le.mp hexpired
    omega

end

theorem newer_of_fresh {s : V1HfpSwitchState} {i : V1HfpSwitchInput} (h : ¬ s.Stale i)
    (hne : i.aclGeneration ≠ s.aclGeneration) :
    isNewerGeneration i.aclGeneration s.aclGeneration := by
  obtain ⟨hzero, hnewer⟩ := not_or.mp h
  by_cases hnone : s.aclGeneration = 0
  · simp [isNewerGeneration, hzero, hnone]
  · by_contra hold
    exact hnewer ⟨hnone, hne, hold⟩

theorem arrived_holding {s : V1HfpSwitchState} {i : V1HfpSwitchInput}
    (h : (s.arrived i).phase = releaseDelay) : s.phase = releaseDelay := by
  unfold arrived connect at h
  split_ifs at h
  exact h

/-! ## The order of the actions -/

/-- The input ends a hold-off. -/
structure Expires (s : V1HfpSwitchState) (i : V1HfpSwitchInput) : Prop where
  fresh : ¬ s.Stale i
  quiet : ¬ i.captureActive
  holding : (s.arrived i).phase = releaseDelay
  due : i.nowMs ≥ (s.arrived i).releaseDeadlineMs

/-- What the actions of a word tell of its input. -/
structure Told (s : V1HfpSwitchState) (i : V1HfpSwitchInput) (w : UInt32) : Prop where
  enter : hfpWordHas w enterHfpOutput → ¬ i.ldacPathActive ∧ i.captureActive
  exit : hfpWordHas w exitHfpOutput → ¬ i.physicalConnected ∨
    V1HfpSwitchState.isNewerGeneration i.aclGeneration s.aclGeneration ∨ Expires s i
  stop : hfpWordHas w stopLdac → i.captureActive
  resume : hfpWordHas w resumeLdac → Expires s i ∧ i.renderDemand ∧ ¬ i.ldacPathActive

section
variable {s s' : V1HfpSwitchState} {i : V1HfpSwitchInput} {w : UInt32}

theorem move_told (hfresh : ¬ s.Stale i)
    (hmove : V1HfpMove (s.arrived i) i (s.leftWord i) (w, s')) : Told s i w := by
  have hleft : hfpWordHas (s.leftWord i) exitHfpOutput →
      isNewerGeneration i.aclGeneration s.aclGeneration := by
    rw [hfpWordHas_leftWord]
    intro h
    simp only [Bool.and_eq_true, decide_eq_true_eq] at h
    exact newer_of_fresh hfresh h.1.2
  have hother : ∀ a, a ≠ exitHfpOutput → hfpWordHas (s.leftWord i) a = false := by
    intro a ha
    simp [hfpWordHas_leftWord, Ne.symm ha]
  have henter := hother enterHfpOutput (by decide)
  have hstop := hother stopLdac (by decide)
  have hresume := hother resumeLdac (by decide)
  cases hmove with
  | stop hcapture _ =>
    refine ⟨?_, ?_, fun _ => hcapture, ?_⟩
    · split_ifs <;> simp [henter]
    · split_ifs <;> simpa using fun h => .inr (.inl (hleft h))
    · split_ifs <;> simp [hresume]
  | enter hcapture hpath _ =>
    exact ⟨fun _ => ⟨hpath, hcapture⟩, by simpa using fun h => .inr (.inl (hleft h)),
      fun _ => hcapture, by simp [hresume]⟩
  | active hcapture _ _ =>
    exact ⟨by simp [henter], fun h => .inr (.inl (hleft h)), fun _ => hcapture, by simp [hresume]⟩
  | hold _ _ =>
    exact ⟨by simp [henter], fun h => .inr (.inl (hleft h)), by simp [hstop], by simp [hresume]⟩
  | expire hquiet hphase hdue =>
    have hexpires : Expires s i := ⟨hfresh, hquiet, hphase, hdue⟩
    refine ⟨?_, fun _ => .inr (.inr hexpires), ?_, ?_⟩
    · split_ifs <;> simp [henter]
    · split_ifs <;> simp [hstop]
    · split_ifs with hdemand
      · exact fun _ => ⟨hexpires, hdemand⟩
      · simp [hresume]
  | idle _ _ _ _ =>
    exact ⟨by simp [henter], fun h => .inr (.inl (hleft h)), by simp [hstop], by simp [hresume]⟩

theorem course_told {r : V1HfpSwitchDecision × V1HfpSwitchState} (h : V1HfpCourse s i r) :
    Told s i r.1.actions := by
  cases h with
  | stale _ => constructor <;> simp [snapshot]
  | disconnected _ hlost hw _ =>
    constructor <;> simp only [snapshot, hw]
    · simp
    · exact fun _ => .inl hlost
    · simp
    · simp
  | connected hfresh _ hmove => exact move_told hfresh hmove

end

theorem orderly_of_timely {history : List V1HfpSwitchInput} {i : V1HfpSwitchInput}
    (h : TimelyFrom 0 (history ++ [i])) : Orderly freshInput history i := by
  have htold : Told _ i (v1HfpSwitch.out (v1HfpSwitch.after {} history) i).actions :=
    course_told (hfpSwitch_course (v1HfpSwitch.after {} history) i)
  have hheld : Expires (v1HfpSwitch.after {} history) i → HeldOff freshInput history i :=
    fun he => heldOff_of_expire h he.fresh he.quiet he.holding he.due
  constructor
  case enter => exact htold.enter
  case exit => exact fun hexit => (htold.exit hexit).imp_right (Or.imp_right hheld)
  case stop => exact fun hstop hresume => (htold.resume hresume).1.quiet (htold.stop hstop)
  case resume =>
    intro hresume
    obtain ⟨hexpires, hdemand, hpath⟩ := htold.resume hresume
    exact ⟨hheld hexpires, arrived_holding hexpires.holding, hdemand, hpath⟩
  case stale =>
    intro hstale
    have hcourse := hfpSwitch_course (v1HfpSwitch.after {} history) i
    unfold Reducer.next
    generalize v1HfpSwitch.step (v1HfpSwitch.after {} history) i = r at hcourse
    cases hcourse with
    | stale _ => rfl
    | disconnected hfresh _ _ _ => exact absurd hstale hfresh
    | connected hfresh _ _ => exact absurd hstale hfresh

/-- **The order of the switch**: over a timely run the output is entered and left in turn,
    each input's actions are in order, and the inputs of a stale generation count for
    nothing. -/
theorem hfp_switch_orderly {history : List V1HfpSwitchInput} {i : V1HfpSwitchInput}
    (h : TimelyFrom 0 (history ++ [i])) :
    (outputActions {} (history ++ [i])).IsChain (· ≠ ·) ∧
      (∀ a ∈ (outputActions {} (history ++ [i])).head?, a = enterHfpOutput) ∧
      Orderly freshInput history i := by
  obtain ⟨hchain, hhead⟩ := outputActions_alternate {} (history ++ [i])
  exact ⟨hchain, hhead, orderly_of_timely h⟩

/-- A call of generation 2, its end at 10 ms, and a late capture report of generation 1 just
    before the hold-off ends. -/
def lateCapture : List V1HfpSwitchInput :=
  [{ aclGeneration := 2, nowMs := 0, physicalConnected := true, captureActive := true },
    { aclGeneration := 2, nowMs := 10, physicalConnected := true },
    { aclGeneration := 1, nowMs := 2009, physicalConnected := true, captureActive := true }]

def lateRelease : V1HfpSwitchInput :=
  { aclGeneration := 2, nowMs := 2010, physicalConnected := true, renderDemand := true }

theorem hfp_switch_orderly_release :
    (outputActions {} (lateCapture ++ [lateRelease])).IsChain (· ≠ ·) ∧
      (∀ a ∈ (outputActions {} (lateCapture ++ [lateRelease])).head?, a = enterHfpOutput) ∧
      Orderly freshInput lateCapture lateRelease :=
  hfp_switch_orderly (by decide)

/-- A capture report of a stale generation does not hold the output. -/
theorem hfp_switch_stale_capture :
    ¬ ∀ (history : List V1HfpSwitchInput) (i : V1HfpSwitchInput), TimelyFrom 0 (history ++ [i]) →
      (outputActions {} (history ++ [i])).IsChain (· ≠ ·) ∧
        (∀ a ∈ (outputActions {} (history ++ [i])).head?, a = enterHfpOutput) ∧
        Orderly everyInput history i := by
  intro h
  have hexit := (h lateCapture lateRelease (by decide)).2.2.exit (by decide)
  rcases hexit with hlost | hnewer | ⟨t, ht, hle⟩
  · exact hlost (by decide)
  · exact absurd hnewer (by decide)
  · have hseen : seenAlong everyInput {} .never (lateCapture ++ [lateRelease]) =
        .quietSince 2010 := by decide
    rw [hseen] at ht
    obtain rfl := CaptureSeen.quietSince.inj ht
    exact absurd hle (by decide)

end NativeLdac.Agent
