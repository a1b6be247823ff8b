/-
  The arbiter of the direct PDO: whether render or the diagnostic owns the signaling channel
  (`direct-pdo/src/nativeldac_direct_pdo_arbiter_contract.c`).

  * `NldDirectPdoArbiterOwner` and its operations, `arbiter` the machine they make;
  * `ArbiterEffect` says what one operation can do, `Coherent` holds of every state that is
    reached.
-/
import Mathlib.Algebra.Order.Group.Nat
import Mathlib.Tactic.ByContra
import Mathlib.Tactic.SplitIfs
import NativeLdac.Lib.Reducer

namespace NativeLdac.DirectPdo

/-! ## The contract -/

inductive NldDirectPdoArbiterState where
  | arbiterOffline | arbiterIdle | renderOwned | diagnosticOwned | arbiterStopping
deriving DecidableEq, Repr

inductive NldDirectPdoArbiterClient where
  | clientNone | clientRender | clientDiagnostic
deriving DecidableEq, Repr

inductive NldDirectPdoArbiterAcquireResult where
  | acquireRejected | acquireGranted | acquireAlreadyOwned
deriving DecidableEq, Repr

inductive NldDirectPdoArbiterDemandResult where
  | demandRejected | demandAccepted | demandPreemptDiagnostic
deriving DecidableEq, Repr

open NldDirectPdoArbiterState NldDirectPdoArbiterClient NldDirectPdoArbiterAcquireResult
  NldDirectPdoArbiterDemandResult

/-- `NLD_DIRECT_PDO_ARBITER_OWNER`, as `NldDirectPdoArbiterInitialize` leaves it. -/
structure NldDirectPdoArbiterOwner where
  state : NldDirectPdoArbiterState := arbiterOffline
  client : NldDirectPdoArbiterClient := clientNone
  generation : UInt32 := 0
  activeGeneration : UInt32 := 0
  pnpStarted : Bool := false
  stopRequested : Bool := false
  renderDemand : Bool := false
deriving DecidableEq, Repr

/-- `NldDirectPdoArbiterNextGeneration`. -/
def nextArbiterGeneration (generation : UInt32) : UInt32 :=
  if generation + 1 = 0 then 1 else generation + 1

namespace NldDirectPdoArbiterOwner

variable (owner : NldDirectPdoArbiterOwner)

def onPnpStart : Bool × NldDirectPdoArbiterOwner :=
  if owner.pnpStarted ∨ owner.stopRequested ∨ owner.state ≠ arbiterOffline ∨
      owner.client ≠ clientNone ∨ owner.activeGeneration ≠ 0 then (false, owner)
  else
    (true,
      { owner with
        generation := nextArbiterGeneration owner.generation
        state := arbiterIdle
        pnpStarted := true
        renderDemand := false })

def onPnpStop : Bool × NldDirectPdoArbiterOwner :=
  if ¬ owner.pnpStarted ∨ owner.stopRequested then (false, owner)
  else
    let owner := { owner with pnpStarted := false, stopRequested := true, renderDemand := false }
    if owner.client = clientNone then
      (true, { owner with state := arbiterOffline, stopRequested := false })
    else (true, { owner with state := arbiterStopping })

def setRenderDemand (active : Bool) :
    NldDirectPdoArbiterDemandResult × NldDirectPdoArbiterOwner :=
  if ¬ owner.pnpStarted ∨ owner.stopRequested then (demandRejected, owner)
  else
    let owner := { owner with renderDemand := active }
    (if active ∧ owner.client = clientDiagnostic then demandPreemptDiagnostic else demandAccepted,
      owner)

/-- `NldDirectPdoArbiterTryAcquire`: the result, and the generation of the grant. -/
def tryAcquire (client : NldDirectPdoArbiterClient) :
    (NldDirectPdoArbiterAcquireResult × UInt32) × NldDirectPdoArbiterOwner :=
  if ¬ owner.pnpStarted ∨ owner.stopRequested ∨
      client ≠ clientRender ∧ client ≠ clientDiagnostic then ((acquireRejected, 0), owner)
  else if client = clientDiagnostic ∧ owner.renderDemand then ((acquireRejected, 0), owner)
  else if owner.client = client then ((acquireAlreadyOwned, owner.activeGeneration), owner)
  else if owner.client ≠ clientNone ∨ owner.state ≠ arbiterIdle then
    ((acquireRejected, 0), owner)
  else
    let generation := nextArbiterGeneration owner.generation
    ((acquireGranted, generation),
      { owner with
        generation := generation
        activeGeneration := generation
        client := client
        state := if client = clientRender then renderOwned else diagnosticOwned })

def release (client : NldDirectPdoArbiterClient) (generation : UInt32) :
    Bool × NldDirectPdoArbiterOwner :=
  if client = clientNone ∨ owner.client ≠ client ∨ generation = 0 ∨
      owner.activeGeneration ≠ generation then (false, owner)
  else
    let owner := { owner with client := clientNone, activeGeneration := 0 }
    (true,
      if owner.stopRequested then { owner with state := arbiterOffline, stopRequested := false }
      else { owner with state := arbiterIdle })

def forceOffline : NldDirectPdoArbiterOwner :=
  { owner with
    state := arbiterOffline
    client := clientNone
    activeGeneration := 0
    pnpStarted := false
    stopRequested := false
    renderDemand := false }

/-- `NldDirectPdoArbiterIsConsistent`; state and client are in range by their types. -/
def isConsistent : Bool :=
  (owner.client = clientNone ↔ owner.activeGeneration = 0) ∧
    ¬ (owner.state = renderOwned ∧ owner.client ≠ clientRender) ∧
    ¬ (owner.state = diagnosticOwned ∧ owner.client ≠ clientDiagnostic) ∧
    ¬ (owner.state = arbiterIdle ∧
      (¬ owner.pnpStarted ∨ owner.stopRequested ∨ owner.client ≠ clientNone)) ∧
    ¬ (owner.state = arbiterOffline ∧
      (owner.pnpStarted ∨ owner.stopRequested ∨ owner.client ≠ clientNone)) ∧
    ¬ (owner.state = arbiterStopping ∧
      (owner.pnpStarted ∨ ¬ owner.stopRequested ∨ owner.client = clientNone)) ∧
    (owner.stopRequested ↔ owner.state = arbiterStopping)

end NldDirectPdoArbiterOwner

inductive NldDirectPdoArbiterOp where
  | pnpStart
  | pnpStop
  | setRenderDemand (active : Bool)
  | tryAcquire (client : NldDirectPdoArbiterClient)
  | release (client : NldDirectPdoArbiterClient) (generation : UInt32)
  | forceOffline
deriving DecidableEq, Repr

/-- What an operation returns; `NldDirectPdoArbiterForceOffline` returns nothing. -/
inductive NldDirectPdoArbiterAnswer where
  | accepted (accepted : Bool)
  | demanded (result : NldDirectPdoArbiterDemandResult)
  | acquired (result : NldDirectPdoArbiterAcquireResult) (generation : UInt32)
  | forced
deriving DecidableEq, Repr

open NldDirectPdoArbiterAnswer

def arbiter : Reducer NldDirectPdoArbiterOwner NldDirectPdoArbiterOp NldDirectPdoArbiterAnswer where
  step owner
    | .pnpStart => owner.onPnpStart.map accepted id
    | .pnpStop => owner.onPnpStop.map accepted id
    | .setRenderDemand active => (owner.setRenderDemand active).map demanded id
    | .tryAcquire client =>
      (owner.tryAcquire client).map (fun acquiring => acquired acquiring.1 acquiring.2) id
    | .release client generation => (owner.release client generation).map accepted id
    | .forceOffline => (forced, owner.forceOffline)

/-! ## What an operation does -/

def NldDirectPdoArbiterAnswer.grants : NldDirectPdoArbiterAnswer → Bool
  | acquired acquireGranted _ => true
  | _ => false

/-- What an operation can do to the arbiter and to a grant. -/
inductive ArbiterEffect (s : NldDirectPdoArbiterOwner) :
    NldDirectPdoArbiterOp → NldDirectPdoArbiterAnswer × NldDirectPdoArbiterOwner → Prop
  | refused {op answer} : op ≠ .forceOffline → answer.grants = false →
      (op = .pnpStop → s.pnpStarted = false ∨ s.stopRequested) →
      (op = .release s.client s.activeGeneration → s.client = clientNone ∨ s.activeGeneration = 0) →
      ArbiterEffect s op (answer, s)
  | started : s.state = arbiterOffline → s.client = clientNone → s.activeGeneration = 0 →
      s.stopRequested = false →
      ArbiterEffect s .pnpStart (accepted true,
        { s with
          generation := nextArbiterGeneration s.generation
          state := arbiterIdle
          pnpStarted := true
          renderDemand := false })
  | stopped : s.client = clientNone →
      ArbiterEffect s .pnpStop (accepted true,
        { s with
          pnpStarted := false, stopRequested := false, renderDemand := false,
          state := arbiterOffline })
  | stopping : s.client ≠ clientNone → s.pnpStarted →
      ArbiterEffect s .pnpStop (accepted true,
        { s with
          pnpStarted := false, stopRequested := true, renderDemand := false,
          state := arbiterStopping })
  | demanded {active result} : s.pnpStarted →
      ArbiterEffect s (.setRenderDemand active)
        (demanded result, { s with renderDemand := active })
  | granted {client} : s.pnpStarted → s.client = clientNone → s.state = arbiterIdle →
      client ≠ clientNone → (client = clientDiagnostic → s.renderDemand = false) →
      ArbiterEffect s (.tryAcquire client)
        (acquired acquireGranted (nextArbiterGeneration s.generation),
          { s with
            generation := nextArbiterGeneration s.generation
            activeGeneration := nextArbiterGeneration s.generation
            client := client
            state := if client = clientRender then renderOwned else diagnosticOwned })
  | released : s.client ≠ clientNone → s.activeGeneration ≠ 0 →
      ArbiterEffect s (.release s.client s.activeGeneration) (accepted true,
        { s with
          client := clientNone
          activeGeneration := 0
          state := if s.stopRequested then arbiterOffline else arbiterIdle
          stopRequested := false })
  | forced : ArbiterEffect s .forceOffline (forced, s.forceOffline)

theorem NldDirectPdoArbiterOwner.arbiter_effect (s : NldDirectPdoArbiterOwner)
    (op : NldDirectPdoArbiterOp) : ArbiterEffect s op (arbiter.step s op) := by
  cases op with
  | pnpStart =>
    simp only [arbiter, onPnpStart]
    split_ifs with hrefused
    · exact .refused nofun rfl nofun nofun
    · simp only [not_or, not_not, Bool.not_eq_true] at hrefused
      exact .started hrefused.2.2.1 hrefused.2.2.2.1 hrefused.2.2.2.2 hrefused.2.1
  | pnpStop =>
    simp only [arbiter, onPnpStop]
    split_ifs with hrefused hclient
    · exact .refused nofun rfl (fun _ => hrefused.imp_left Bool.eq_false_iff.mpr) nofun
    · exact .stopped hclient
    · rw [not_or, not_not] at hrefused
      exact .stopping hclient hrefused.1
  | setRenderDemand active =>
    simp only [arbiter, setRenderDemand]
    by_cases hrefused : ¬ s.pnpStarted = true ∨ s.stopRequested = true
    · rw [if_pos hrefused]
      exact .refused nofun rfl nofun nofun
    · rw [if_neg hrefused]
      rw [not_or, not_not] at hrefused
      exact .demanded hrefused.1
  | tryAcquire client =>
    simp only [arbiter, tryAcquire]
    by_cases hrefused : ¬ s.pnpStarted = true ∨ s.stopRequested = true ∨
        client ≠ clientRender ∧ client ≠ clientDiagnostic
    · rw [if_pos hrefused]
      exact .refused nofun rfl nofun nofun
    rw [if_neg hrefused]
    by_cases hdemand : client = clientDiagnostic ∧ s.renderDemand = true
    · rw [if_pos hdemand]
      exact .refused nofun rfl nofun nofun
    rw [if_neg hdemand]
    by_cases howned : s.client = client
    · rw [if_pos howned]
      exact .refused nofun rfl nofun nofun
    rw [if_neg howned]
    by_cases hbusy : s.client ≠ clientNone ∨ s.state ≠ arbiterIdle
    · rw [if_pos hbusy]
      exact .refused nofun rfl nofun nofun
    rw [if_neg hbusy]
    rw [not_or, not_not] at hrefused hbusy
    rw [not_not] at hbusy
    refine .granted hrefused.1 hbusy.1 hbusy.2 (fun hnone => howned (hbusy.1.trans hnone.symm)) ?_
    exact fun hclient => Bool.eq_false_iff.mpr fun hdemanded => hdemand ⟨hclient, hdemanded⟩
  | release client generation =>
    simp only [arbiter, release]
    by_cases hrefused : client = clientNone ∨ s.client ≠ client ∨ generation = 0 ∨
        s.activeGeneration ≠ generation
    · rw [if_pos hrefused]
      refine .refused nofun rfl nofun fun hop => ?_
      cases hop
      rcases hrefused with hnone | hother | hzero | hstale
      · exact .inl hnone
      · exact absurd rfl hother
      · exact .inr hzero
      · exact absurd rfl hstale
    · rw [if_neg hrefused]
      simp only [not_or, not_not] at hrefused
      obtain ⟨hnone, rfl, hzero, rfl⟩ := hrefused
      have hreleased := ArbiterEffect.released hnone hzero
      cases hstop : s.stopRequested <;> simpa [hstop] using hreleased
  | forceOffline => exact .forced

/-! ## The invariant -/

/-- What every operation keeps: the state says who owns the arbiter, and what was asked. -/
structure NldDirectPdoArbiterOwner.Coherent (s : NldDirectPdoArbiterOwner) : Prop where
  numbered : s.client = clientNone ↔ s.activeGeneration = 0
  free : s.client = clientNone ↔ s.state = arbiterOffline ∨ s.state = arbiterIdle
  render : s.state = renderOwned → s.client = clientRender
  diagnostic : s.state = diagnosticOwned → s.client = clientDiagnostic
  started : s.pnpStarted = true ↔ s.state ≠ arbiterOffline ∧ s.state ≠ arbiterStopping
  stopping : s.stopRequested = true ↔ s.state = arbiterStopping

namespace NldDirectPdoArbiterOwner

variable {s s' : NldDirectPdoArbiterOwner} {op : NldDirectPdoArbiterOp}
  {answer : NldDirectPdoArbiterAnswer}

theorem coherent_initialized : Coherent {} :=
  ⟨by simp, by simp, nofun, nofun, by simp, by simp⟩

theorem nextArbiterGeneration_ne_zero (generation : UInt32) :
    nextArbiterGeneration generation ≠ 0 := by
  unfold nextArbiterGeneration
  split_ifs with hzero
  · decide
  · exact hzero

theorem coherent_effect (h : s.Coherent) (he : ArbiterEffect s op (answer, s')) : s'.Coherent := by
  cases he with
  | refused _ _ _ _ => exact h
  | started hoffline hclient hzero hstop =>
    exact ⟨by simp [hclient, hzero], by simp [hclient], nofun, nofun, by simp, by simp [hstop]⟩
  | stopped hclient =>
    exact ⟨h.numbered, by simp [hclient], nofun, nofun, by simp, by simp⟩
  | stopping hclient hpnp =>
    exact ⟨h.numbered, by simp [hclient], nofun, nofun, by simp, by simp⟩
  | demanded hpnp => exact ⟨h.numbered, h.free, h.render, h.diagnostic, h.started, h.stopping⟩
  | @granted client hpnp hnone hidle hclient hdemand =>
    have hstop : s.stopRequested = false :=
      Bool.eq_false_iff.mpr fun hstop => by simp [h.stopping.mp hstop] at hidle
    have hzero := nextArbiterGeneration_ne_zero s.generation
    cases client with
    | clientNone => exact absurd rfl hclient
    | clientRender =>
      exact ⟨by simp [hzero], by simp, fun _ => rfl, nofun, by simp [hpnp], by simp [hstop]⟩
    | clientDiagnostic =>
      exact ⟨by simp [hzero], by simp, nofun, fun _ => rfl, by simp [hpnp], by simp [hstop]⟩
  | released hclient hzero =>
    by_cases hstop : s.stopRequested = true
    · have hpnp : s.pnpStarted = false := Bool.eq_false_iff.mpr fun hpnp =>
        (h.started.mp hpnp).2 (h.stopping.mp hstop)
      simp only [hstop, if_true]
      exact ⟨by simp, by simp, nofun, nofun, by simp [hpnp], by simp⟩
    · have hpnp : s.pnpStarted = true := h.started.mpr
        ⟨fun hoffline => hclient (h.free.mpr (.inl hoffline)),
          fun hstopping => hstop (h.stopping.mpr hstopping)⟩
      simp only [hstop]
      exact ⟨by simp, by simp, nofun, nofun, by simp [hpnp], by simp⟩
  | forced => exact ⟨by simp [forceOffline], by simp [forceOffline], nofun, nofun, by simp [forceOffline],
      by simp [forceOffline]⟩

theorem coherent_step (h : s.Coherent) (op : NldDirectPdoArbiterOp) :
    (arbiter.next s op).Coherent :=
  coherent_effect h (s.arbiter_effect op)

theorem coherent_after (ops : List NldDirectPdoArbiterOp) : (arbiter.after {} ops).Coherent :=
  Reducer.after_inv (P := Coherent) (Q := fun _ _ => True) (fun _ op h _ => coherent_step h op)
    coherent_initialized (Reducer.along_of_forall (fun _ _ => trivial) _ ops)

theorem isConsistent_of_coherent (h : s.Coherent) : s.isConsistent = true := by
  simp only [isConsistent, decide_eq_true_eq]
  refine ⟨h.numbered, fun hrender => hrender.2 (h.render hrender.1),
    fun hdiagnostic => hdiagnostic.2 (h.diagnostic hdiagnostic.1), ?_, ?_, ?_, h.stopping⟩
  · rintro ⟨hidle, hpnp | hstop | hclient⟩
    · exact hpnp (h.started.mpr (by simp [hidle]))
    · simp [h.stopping.mp hstop] at hidle
    · exact hclient (h.free.mpr (.inr hidle))
  · rintro ⟨hoffline, hpnp | hstop | hclient⟩
    · exact (h.started.mp hpnp).1 hoffline
    · simp [h.stopping.mp hstop] at hoffline
    · exact hclient (h.free.mpr (.inl hoffline))
  · rintro ⟨hstopping, hpnp | hstop | hclient⟩
    · exact (h.started.mp hpnp).2 hstopping
    · exact hstop (h.stopping.mpr hstopping)
    · rcases h.free.mp hclient with hstate | hstate <;> simp [hstate] at hstopping

/-! ## Runs -/

def grants (s : NldDirectPdoArbiterOwner) (op : NldDirectPdoArbiterOp) : Bool :=
  (arbiter.out s op).grants

def ends (s : NldDirectPdoArbiterOwner) (op : NldDirectPdoArbiterOp) : Bool :=
  s.client ≠ clientNone ∧ (arbiter.next s op).client = clientNone

/-- The client that owns the arbiter releases it, with the generation of its grant. -/
def Releases (s : NldDirectPdoArbiterOwner) (op : NldDirectPdoArbiterOp) : Prop :=
  op = .release s.client s.activeGeneration

/-- Its grant is released, or the arbiter is forced offline. -/
def Withdraws (s : NldDirectPdoArbiterOwner) (op : NldDirectPdoArbiterOp) : Prop :=
  s.Releases op ∨ op = .forceOffline

instance (s : NldDirectPdoArbiterOwner) (op : NldDirectPdoArbiterOp) : Decidable (s.Releases op) :=
  inferInstanceAs (Decidable (_ = _))

def Starts (s : NldDirectPdoArbiterOwner) (op : NldDirectPdoArbiterOp) : Prop :=
  op = .pnpStart ∧ arbiter.out s op = accepted true

/-- Whether the arbiter is owned. -/
def owned (s : NldDirectPdoArbiterOwner) : Bool := s.client ≠ clientNone

/-- A stop of an arbiter that is owned takes it offline exactly at the end of the grant. -/
def OfflineExactlyAt (last : NldDirectPdoArbiterOwner → NldDirectPdoArbiterOp → Prop)
    (ops : List NldDirectPdoArbiterOp) : Prop :=
  ∀ before between, ops = before ++ .pnpStop :: between →
    let s := arbiter.after {} before
    s.owned → arbiter.Along (fun _ op => ¬ last s op) (arbiter.next s .pnpStop) between →
      (arbiter.after {} ops).state ≠ arbiterOffline ∧
        ∀ op, last s op → (arbiter.next (arbiter.after {} ops) op).state = arbiterOffline

/-- What holds of a run of the arbiter. -/
structure Arbitrates (ops : List NldDirectPdoArbiterOp) : Prop where
  consistent : ∀ before, before <+: ops → (arbiter.after {} before).isConsistent
  /-- The grants that were made are those that have ended, and the one that is held. -/
  exclusive : arbiter.count grants {} ops =
    arbiter.count ends {} ops + (arbiter.after {} ops).owned.toNat
  /-- A grant stays with its client until the client releases it, with its generation, or the
      arbiter is forced offline. -/
  kept : ∀ before client generation between, ops = before ++ .tryAcquire client :: between →
    arbiter.out (arbiter.after {} before) (.tryAcquire client) =
      acquired acquireGranted generation →
    let s := arbiter.next (arbiter.after {} before) (.tryAcquire client)
    arbiter.Along (fun _ op => op ≠ .release client generation ∧ op ≠ .forceOffline) s between →
      (arbiter.after {} ops).client = client ∧
        (arbiter.after {} ops).activeGeneration = generation
  /-- No grant is made to the diagnostic while render asks for the channel. -/
  demand : (arbiter.after {} ops).grants (.tryAcquire clientDiagnostic) →
    (arbiter.after {} ops).renderDemand = false
  /-- After a stop nothing is granted until a start is accepted. -/
  stopped : ∀ before between, ops = before ++ .pnpStop :: between →
    arbiter.Along (fun s op => ¬ s.Starts op) (arbiter.next (arbiter.after {} before) .pnpStop)
      between →
    ∀ op, (arbiter.after {} ops).grants op = false
  offline : OfflineExactlyAt Withdraws ops

theorem balance_effect (he : ArbiterEffect s op (answer, s')) :
    answer.grants.toNat + s.owned.toNat =
      (decide (s.client ≠ clientNone ∧ s'.client = clientNone)).toNat + s'.owned.toNat := by
  cases he with
  | refused _ hgrants _ _ => cases hclient : s.client <;> simp [hgrants, owned, hclient]
  | started _ hclient _ _ => simp [owned, hclient, NldDirectPdoArbiterAnswer.grants]
  | stopped hclient => simp [owned, hclient, NldDirectPdoArbiterAnswer.grants]
  | stopping hclient _ => simp [owned, hclient, NldDirectPdoArbiterAnswer.grants]
  | demanded _ =>
    cases hclient : s.client <;> simp [owned, hclient, NldDirectPdoArbiterAnswer.grants]
  | granted _ hnone _ hclient _ =>
    simp [owned, hnone, hclient, NldDirectPdoArbiterAnswer.grants]
  | released hclient _ => simp [owned, hclient, NldDirectPdoArbiterAnswer.grants]
  | forced =>
    cases hclient : s.client <;>
      simp [owned, hclient, NldDirectPdoArbiterAnswer.grants, forceOffline]

theorem held_effect (he : ArbiterEffect s op (answer, s')) (hclient : s.client ≠ clientNone)
    (hop : ¬ s.Withdraws op) :
    s'.client = s.client ∧ s'.activeGeneration = s.activeGeneration := by
  cases he with
  | refused _ _ _ _ => exact ⟨rfl, rfl⟩
  | started _ hnone _ _ => exact absurd hnone hclient
  | stopped _ => exact ⟨rfl, rfl⟩
  | stopping _ _ => exact ⟨rfl, rfl⟩
  | demanded _ => exact ⟨rfl, rfl⟩
  | granted _ hnone _ _ _ => exact absurd hnone hclient
  | released _ _ => exact absurd (.inl rfl) hop
  | forced => exact absurd (.inr rfl) hop

theorem granted_effect {client : NldDirectPdoArbiterClient} {generation : UInt32}
    (he : ArbiterEffect s (.tryAcquire client) (acquired acquireGranted generation, s')) :
    client ≠ clientNone ∧ s'.client = client ∧ s'.activeGeneration = generation := by
  cases he with
  | refused _ hgrants _ _ => simp [NldDirectPdoArbiterAnswer.grants] at hgrants
  | granted _ _ _ hclient _ => exact ⟨hclient, rfl, rfl⟩

theorem grants_effect (he : ArbiterEffect s op (answer, s')) (hgrants : answer.grants = true) :
    s.pnpStarted = true ∧ (op = .tryAcquire clientDiagnostic → s.renderDemand = false) := by
  cases he with
  | refused _ hrefused _ _ => exact absurd (hrefused.symm.trans hgrants) Bool.false_ne_true
  | granted hpnp _ _ _ hdemand =>
    refine ⟨hpnp, fun hop => hdemand ?_⟩
    cases hop
    rfl
  | started _ _ _ _ => simp [NldDirectPdoArbiterAnswer.grants] at hgrants
  | stopped _ => simp [NldDirectPdoArbiterAnswer.grants] at hgrants
  | stopping _ _ => simp [NldDirectPdoArbiterAnswer.grants] at hgrants
  | demanded _ => simp [NldDirectPdoArbiterAnswer.grants] at hgrants
  | released _ _ => simp [NldDirectPdoArbiterAnswer.grants] at hgrants
  | forced => simp [NldDirectPdoArbiterAnswer.grants] at hgrants

theorem stopped_effect (he : ArbiterEffect s op (answer, s')) (hpnp : s.pnpStarted = false)
    (hop : op = .pnpStart → answer ≠ accepted true) : s'.pnpStarted = false := by
  cases he with
  | refused _ _ _ _ => exact hpnp
  | started _ _ _ _ => exact absurd rfl (hop rfl)
  | stopped _ => rfl
  | stopping _ _ => rfl
  | demanded _ => exact hpnp
  | granted _ _ _ _ _ => exact hpnp
  | released _ _ => exact hpnp
  | forced => rfl

theorem pnpStop_effect (h : s.Coherent) (he : ArbiterEffect s .pnpStop (answer, s')) :
    s'.pnpStarted = false ∧ (s.client ≠ clientNone →
      s'.state = arbiterStopping ∧ s'.client = s.client ∧
        s'.activeGeneration = s.activeGeneration) := by
  cases he with
  | refused _ _ hstop _ =>
    have hpnp : s.pnpStarted = false := by
      rcases hstop rfl with hpnp | hstop
      · exact hpnp
      · exact Bool.eq_false_iff.mpr fun hpnp => (h.started.mp hpnp).2 (h.stopping.mp hstop)
    refine ⟨hpnp, fun hclient => ⟨?_, rfl, rfl⟩⟩
    by_contra hstopping
    refine Bool.eq_false_iff.mp hpnp (h.started.mpr ⟨fun hoffline => ?_, hstopping⟩)
    exact hclient (h.free.mpr (.inl hoffline))
  | stopped hnone => exact ⟨rfl, fun hclient => absurd hnone hclient⟩
  | stopping _ _ => exact ⟨rfl, fun _ => ⟨rfl, rfl, rfl⟩⟩

theorem stopping_effect (h : s.Coherent) (he : ArbiterEffect s op (answer, s'))
    (hstopping : s.state = arbiterStopping) (hop : ¬ s.Withdraws op) :
    s'.state = arbiterStopping := by
  have hpnp : ¬ s.pnpStarted = true := fun hpnp => (h.started.mp hpnp).2 hstopping
  cases he with
  | refused _ _ _ _ => exact hstopping
  | started hoffline _ _ _ => cases hoffline.symm.trans hstopping
  | stopped hnone => rcases h.free.mp hnone with hstate | hstate <;> simp [hstate] at hstopping
  | stopping _ _ => rfl
  | demanded _ => exact hstopping
  | granted hstarted _ _ _ _ => exact absurd hstarted hpnp
  | released _ _ => exact absurd (.inl rfl) hop
  | forced => exact absurd (.inr rfl) hop

theorem withdraws_effect (h : s.Coherent) (he : ArbiterEffect s op (answer, s'))
    (hstopping : s.state = arbiterStopping) (hop : s.Withdraws op) :
    s'.state = arbiterOffline := by
  have hclient : s.client ≠ clientNone := fun hnone => by
    rcases h.free.mp hnone with hstate | hstate <;> simp [hstate] at hstopping
  rcases hop with rfl | rfl
  · cases he with
    | refused _ _ _ hrelease =>
      rcases hrelease rfl with hnone | hzero
      · exact absurd hnone hclient
      · exact absurd (h.numbered.mpr hzero) hclient
    | released _ _ => exact if_pos (h.stopping.mpr hstopping)
  · cases he with
    | refused hforce _ _ _ => exact absurd rfl hforce
    | forced => rfl

theorem held_along {ops : List NldDirectPdoArbiterOp} (hclient : s.client ≠ clientNone)
    (hops : arbiter.Along (fun _ op => ¬ s.Withdraws op) s ops) :
    (arbiter.after s ops).client = s.client ∧
      (arbiter.after s ops).activeGeneration = s.activeGeneration := by
  refine Reducer.after_inv
    (P := fun t => t.client = s.client ∧ t.activeGeneration = s.activeGeneration)
    (fun t op ht hop => ?_) ⟨rfl, rfl⟩ hops
  have hwithdraws : ¬ t.Withdraws op := by rwa [Withdraws, Releases, ht.1, ht.2]
  have hheld := held_effect (t.arbiter_effect op) (ht.1 ▸ hclient) hwithdraws
  exact ⟨hheld.1.trans ht.1, hheld.2.trans ht.2⟩

theorem offline_exactly (ops : List NldDirectPdoArbiterOp) : OfflineExactlyAt Withdraws ops := by
  rintro before between rfl s howned hbetween
  have hcoherent : s.Coherent := coherent_after before
  have hclient : s.client ≠ clientNone := of_decide_eq_true howned
  obtain ⟨-, hstop⟩ := pnpStop_effect hcoherent (s.arbiter_effect .pnpStop)
  have hwaits := Reducer.after_inv
    (P := fun t => t.Coherent ∧ t.state = arbiterStopping ∧ t.client = s.client ∧
      t.activeGeneration = s.activeGeneration)
    (fun t op ht hop => ?_) ⟨coherent_step hcoherent .pnpStop, hstop hclient⟩ hbetween
  · obtain ⟨ht, hstopping, hsame, hnumber⟩ := hwaits
    have hafter : arbiter.after {} (before ++ .pnpStop :: between) =
        arbiter.after (arbiter.next s .pnpStop) between := Reducer.after_append _ _ _
    rw [hafter]
    refine ⟨by rw [hstopping]; nofun, fun op hop => ?_⟩
    refine withdraws_effect ht (arbiter_effect _ op) hstopping ?_
    rwa [Withdraws, Releases, hsame, hnumber]
  · obtain ⟨ht, hstopping, hsame, hnumber⟩ := ht
    have hwithdraws : ¬ t.Withdraws op := by rwa [Withdraws, Releases, hsame, hnumber]
    have hheld := held_effect (t.arbiter_effect op) (hsame ▸ hclient) hwithdraws
    exact ⟨coherent_step ht op, stopping_effect ht (t.arbiter_effect op) hstopping hwithdraws,
      hheld.1.trans hsame, hheld.2.trans hnumber⟩

/-- **The arbiter arbitrates** along every run. -/
theorem arbiter_arbitrates (ops : List NldDirectPdoArbiterOp) : Arbitrates ops where
  consistent before _ := isConsistent_of_coherent (coherent_after before)
  exclusive := by
    have hbalance := Reducer.count_balance (M := arbiter) (P := fun _ => True)
      (Q := fun _ _ => True) (p := grants) (q := ends) (f := fun s => s.owned.toNat)
      (fun _ _ _ _ => trivial) (fun s op _ _ => balance_effect (s.arbiter_effect op)) trivial
      (Reducer.along_of_forall (fun _ _ => trivial) {} ops)
    exact hbalance
  kept := by
    rintro before client generation between rfl hgranted s hbetween
    have heffect := (arbiter.after {} before).arbiter_effect (.tryAcquire client)
    have hanswer : arbiter.step (arbiter.after {} before) (.tryAcquire client) =
        (acquired acquireGranted generation, s) := Prod.ext hgranted rfl
    rw [hanswer] at heffect
    obtain ⟨hclient, hsame, hnumber⟩ := granted_effect heffect
    have hkept : arbiter.Along (fun _ op => ¬ s.Withdraws op) s between := by
      simpa only [Withdraws, Releases, hsame, hnumber, not_or] using hbetween
    have hheld := held_along (hsame ▸ hclient) hkept
    have hafter : arbiter.after {} (before ++ .tryAcquire client :: between) =
        arbiter.after s between := Reducer.after_append _ _ _
    rw [hafter]
    exact ⟨hheld.1.trans hsame, hheld.2.trans hnumber⟩
  demand hgrants :=
    (grants_effect ((arbiter.after {} ops).arbiter_effect (.tryAcquire clientDiagnostic))
      hgrants).2 rfl
  stopped := by
    rintro before between rfl hbetween op
    have hstopped := Reducer.after_inv (P := fun t => t.pnpStarted = false)
      (fun t op hpnp hop => stopped_effect (t.arbiter_effect op) hpnp
        fun hstart haccepted => hop ⟨hstart, haccepted⟩)
      (pnpStop_effect (coherent_after before) (arbiter_effect _ .pnpStop)).1 hbetween
    have hafter : arbiter.after {} (before ++ .pnpStop :: between) =
        arbiter.after (arbiter.next (arbiter.after {} before) .pnpStop) between :=
      Reducer.after_append _ _ _
    rw [hafter]
    refine Bool.eq_false_iff.mpr fun hgrants => ?_
    exact Bool.eq_false_iff.mp hstopped (grants_effect (arbiter_effect _ op) hgrants).1
  offline := offline_exactly ops

/-- A stop of an arbiter that render owns, and then the force: it is offline, and its owner has
    not released it. -/
theorem forced_before_release :
    ¬ OfflineExactlyAt Releases [.pnpStart, .tryAcquire clientRender, .pnpStop, .forceOffline] := by
  intro hexact
  have hoffline := hexact [.pnpStart, .tryAcquire clientRender] [.forceOffline] rfl
  exact absurd rfl (hoffline (by decide) (by decide)).1

end NldDirectPdoArbiterOwner

end NativeLdac.DirectPdo
