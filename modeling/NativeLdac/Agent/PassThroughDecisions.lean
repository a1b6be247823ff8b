/-
  The decisions of the pass-through gate: while fewer operations than stamps were made, no
  decision counts again after what it was based on has changed.

  The stamp of a state is its authorization epoch, then its event sequence. A new
  generation starts the sequence again, and moves the epoch on.
-/
import Mathlib.Algebra.Order.Group.Nat
import Mathlib.Data.Prod.Lex
import NativeLdac.Agent.PassThrough
import NativeLdac.Lib.Stamps

namespace NativeLdac.Agent

inductive AvrcpPassThroughGateOp where
  | beginAclGeneration (aclGeneration : UInt64)
  | endAclGeneration (aclGeneration : UInt64)
  | setGateMode (aclGeneration : UInt64) (mode : AvrcpPassThroughGateMode)
  | acquireOwnerLease (aclGeneration ownerLease : UInt64)
  | revokeOwnerLease (aclGeneration ownerLease : UInt64)
  | observeEvent (aclGeneration : UInt64) (event : AvrcpPassThroughEvent)
deriving DecidableEq, Repr

def passThroughGate :
    Reducer AvrcpPassThroughGateState AvrcpPassThroughGateOp AvrcpPassThroughDecision where
  step state
    | .beginAclGeneration g => beginAvrcpPassThroughAclGeneration state g
    | .endAclGeneration g => endAvrcpPassThroughAclGeneration state g
    | .setGateMode g mode => setAvrcpPassThroughGateMode state g mode
    | .acquireOwnerLease g lease => acquireAvrcpPassThroughOwnerLease state g lease
    | .revokeOwnerLease g lease => revokeAvrcpPassThroughOwnerLease state g lease
    | .observeEvent g event => observeAvrcpPassThroughEvent state g event

def isAvrcpPassThroughDecisionCurrent (state : AvrcpPassThroughGateState)
    (decision : AvrcpPassThroughDecision) : Bool :=
  decision.actions ≠ [] ∧ state.aclGenerationCurrent ∧
    state.mode = .routeToCurrentMediaSession ∧ state.ownerLease ≠ 0 ∧
    decision.aclGeneration = state.aclGeneration ∧ decision.ownerLease = state.ownerLease ∧
    decision.authorizationEpoch = state.authorizationEpoch ∧
    decision.acceptedEventSequence = state.acceptedEventSequence

/-- The decision asks for something. -/
def AvrcpPassThroughDecision.acts (decision : AvrcpPassThroughDecision) : Bool :=
  decision.actions ≠ []

namespace AvrcpPassThroughGateState

/-- A press may act. -/
def Routing (s : AvrcpPassThroughGateState) : Prop :=
  s.aclGenerationCurrent ∧ s.mode = .routeToCurrentMediaSession ∧ s.ownerLease ≠ 0

instance (s : AvrcpPassThroughGateState) : Decidable s.Routing :=
  inferInstanceAs (Decidable (_ ∧ _))

/-- The operation changes the mode, takes the lease back, ends the generation, begins a newer
    one or accepts an event. -/
def Supersedes (s : AvrcpPassThroughGateState) (op : AvrcpPassThroughGateOp) : Prop :=
  let s' := passThroughGate.next s op
  s'.mode ≠ s.mode ∨ (s.ownerLease ≠ 0 ∧ s'.ownerLease = 0) ∨
    (s.aclGenerationCurrent ∧ ¬ s'.aclGenerationCurrent) ∨
    s'.aclGeneration ≠ s.aclGeneration ∨ (passThroughGate.out s op).acts

instance (s : AvrcpPassThroughGateState) (op : AvrcpPassThroughGateOp) :
    Decidable (s.Supersedes op) :=
  inferInstanceAs (Decidable (_ ∨ _))

/-- The epoch, then the sequence. -/
def stamp (s : AvrcpPassThroughGateState) : ℕ ×ₗ ℕ :=
  toLex (s.authorizationEpoch.toNat, s.acceptedEventSequence.toNat)

/-- Neither counter is about to wrap. -/
def Fresh (s : AvrcpPassThroughGateState) : Prop :=
  s.authorizationEpoch ≠ 0xffffffffffffffff ∧ s.acceptedEventSequence ≠ 0xffffffffffffffff

/-- After `n` operations the counters have come no further than `n`. -/
structure CountedTo (s : AvrcpPassThroughGateState) (n : Nat) : Prop where
  epoch : s.authorizationEpoch.toNat ≤ n
  sequence : s.acceptedEventSequence.toNat ≤ n

end AvrcpPassThroughGateState

def AvrcpPassThroughDecision.mark (decision : AvrcpPassThroughDecision) : ℕ ×ₗ ℕ :=
  toLex (decision.authorizationEpoch.toNat, decision.acceptedEventSequence.toNat)

/-! ## What an operation does -/

open AvrcpPassThroughGateState

/-- What an operation of the gate can do: nothing to the authorization, a new epoch, or a
    press accepted. -/
inductive PassThroughEffect (s : AvrcpPassThroughGateState) :
    AvrcpPassThroughDecision × AvrcpPassThroughGateState → Prop
  | keeps {d s'} : d.actions = [] → s.SameAuthorization s' →
      s'.authorizationEpoch = s.authorizationEpoch →
      s'.acceptedEventSequence = s.acceptedEventSequence → PassThroughEffect s (d, s')
  | renews {d s'} : d.actions = [] →
      s'.authorizationEpoch = nextNonzero s.authorizationEpoch →
      s'.acceptedEventSequence = s.acceptedEventSequence ∨ s'.acceptedEventSequence = 0 →
      PassThroughEffect s (d, s')
  | accepts {d s'} : d.acts → s.Routing → s.SameAuthorization s' →
      s'.authorizationEpoch = s.authorizationEpoch →
      s'.acceptedEventSequence = nextNonzero s.acceptedEventSequence →
      { d with actions := [], eventObserved := false } = s'.snapshot → PassThroughEffect s (d, s')

theorem sameAuthorization_self (s : AvrcpPassThroughGateState) : s.SameAuthorization s :=
  ⟨rfl, rfl, rfl, rfl⟩

theorem passThroughEffect_refused (s : AvrcpPassThroughGateState) : PassThroughEffect s ({}, s) :=
  .keeps rfl (sameAuthorization_self s) rfl rfl

theorem observe_passThroughEffect (s : AvrcpPassThroughGateState) (g : UInt64)
    (event : AvrcpPassThroughEvent) :
    PassThroughEffect s (observeAvrcpPassThroughEvent s g event) := by
  have hsame := observeAvrcpPassThroughEvent_authorization s g event
  revert hsame
  unfold observeAvrcpPassThroughEvent
  dsimp only
  by_cases hg : s.isCurrent g = true
  · rw [if_neg (not_not.mpr hg)]
    split_ifs with hunknown hreleased hheld hrepeat hroute haction <;> intro hsame
    · exact .keeps rfl hsame rfl rfl
    · exact .keeps rfl hsame rfl rfl
    · exact .keeps rfl hsame rfl rfl
    · exact .keeps rfl hsame rfl rfl
    · exact .keeps rfl hsame rfl rfl
    · exact .keeps rfl hsame rfl rfl
    · simp only [isCurrent, decide_eq_true_eq] at hg
      obtain ⟨hmode, hlease⟩ := not_or.mp hroute
      exact .accepts (decide_eq_true haction) ⟨hg.2.1, not_not.mp hmode, hlease⟩ hsame rfl rfl rfl
  · rw [if_pos hg]
    exact fun _ => passThroughEffect_refused s

theorem passThroughEffect (s : AvrcpPassThroughGateState) (op : AvrcpPassThroughGateOp) :
    PassThroughEffect s (passThroughGate.step s op) := by
  cases op with
  | beginAclGeneration g =>
    simp only [passThroughGate, beginAvrcpPassThroughAclGeneration]
    split_ifs
    · exact .renews rfl rfl (.inr rfl)
    · exact passThroughEffect_refused s
  | endAclGeneration g =>
    simp only [passThroughGate, endAvrcpPassThroughAclGeneration]
    split_ifs
    · exact .renews rfl rfl (.inl rfl)
    · exact passThroughEffect_refused s
  | setGateMode g mode =>
    simp only [passThroughGate, setAvrcpPassThroughGateMode]
    split_ifs
    · exact .renews rfl rfl (.inl rfl)
    · exact .keeps rfl (sameAuthorization_self s) rfl rfl
    · exact passThroughEffect_refused s
  | acquireOwnerLease g lease =>
    simp only [passThroughGate, acquireAvrcpPassThroughOwnerLease]
    split_ifs
    · exact passThroughEffect_refused s
    · exact .renews rfl rfl (.inl rfl)
    · exact .keeps rfl (sameAuthorization_self s) rfl rfl
  | revokeOwnerLease g lease =>
    simp only [passThroughGate, revokeAvrcpPassThroughOwnerLease]
    split_ifs
    · exact passThroughEffect_refused s
    · exact .renews rfl rfl (.inl rfl)
  | observeEvent g event => exact observe_passThroughEffect s g event

/-! ## The stamp -/

section
variable {s : AvrcpPassThroughGateState} {op : AvrcpPassThroughGateOp}
variable {s' : AvrcpPassThroughGateState}

theorem nextNonzero_toNat {v : UInt64} (h : v ≠ 0xffffffffffffffff) :
    (nextNonzero v).toNat = v.toNat + 1 := by
  rw [nextNonzero, if_neg h]
  have hlt := v.toNat_lt
  have hne : v.toNat ≠ 0xffffffffffffffff := fun heq => h (UInt64.toNat_inj.mp heq)
  rw [UInt64.toNat_add, UInt64.toNat_one]
  omega

theorem nextNonzero_le (v : UInt64) : (nextNonzero v).toNat ≤ v.toNat + 1 := by
  by_cases h : v = 0xffffffffffffffff
  · rw [nextNonzero, if_pos h, UInt64.toNat_one]
    omega
  · exact (nextNonzero_toNat h).le

theorem countedTo_next {n : Nat} (h : s.CountedTo n) :
    (passThroughGate.next s op).CountedTo (n + 1) := by
  have heffect := passThroughEffect s op
  unfold Reducer.next
  generalize passThroughGate.step s op = r at heffect
  obtain ⟨hepoch, hsequence⟩ := h
  cases heffect with
  | keeps _ _ he hq => exact ⟨by rw [he]; omega, by rw [hq]; omega⟩
  | renews _ he hq =>
    have hnext := nextNonzero_le s.authorizationEpoch
    refine ⟨by rw [he]; omega, ?_⟩
    rcases hq with hq | hq
    · rw [hq]
      omega
    · rw [hq]
      exact Nat.zero_le _
  | accepts _ _ _ he hq _ =>
    have hnext := nextNonzero_le s.acceptedEventSequence
    exact ⟨by rw [he]; omega, by rw [hq]; omega⟩

theorem CountedTo.fresh {n : Nat} (h : s.CountedTo n) (hn : n < 2 ^ 64 - 1) : s.Fresh := by
  constructor
  · intro heq
    have hepoch := h.epoch
    rw [heq] at hepoch
    exact absurd (hepoch.trans_lt hn) (by decide)
  · intro heq
    have hsequence := h.sequence
    rw [heq] at hsequence
    exact absurd (hsequence.trans_lt hn) (by decide)

theorem along_fresh {n : Nat} {ops : List AvrcpPassThroughGateOp} (h : s.CountedTo n)
    (hlen : n + ops.length < 2 ^ 64 - 1) :
    passThroughGate.Along (fun s _ => s.Fresh) s ops := by
  induction ops generalizing s n with
  | nil => trivial
  | cons op ops ih =>
    rw [List.length_cons] at hlen
    exact ⟨CountedTo.fresh h (by omega), ih (countedTo_next h) (by omega)⟩

theorem stamp_keeps (he : s'.authorizationEpoch = s.authorizationEpoch)
    (hq : s'.acceptedEventSequence = s.acceptedEventSequence) : s'.stamp = s.stamp := by
  rw [stamp, stamp, he, hq]

theorem stamp_renews (h : s.Fresh) (he : s'.authorizationEpoch = nextNonzero s.authorizationEpoch) :
    s.stamp < s'.stamp := by
  refine Prod.Lex.toLex_lt_toLex.mpr (.inl ?_)
  show s.authorizationEpoch.toNat < s'.authorizationEpoch.toNat
  rw [he, nextNonzero_toNat h.1]
  omega

theorem stamp_accepts (h : s.Fresh) (he : s'.authorizationEpoch = s.authorizationEpoch)
    (hq : s'.acceptedEventSequence = nextNonzero s.acceptedEventSequence) :
    s.stamp < s'.stamp := by
  refine Prod.Lex.toLex_lt_toLex.mpr (.inr ⟨congrArg UInt64.toNat he.symm, ?_⟩)
  show s.acceptedEventSequence.toNat < s'.acceptedEventSequence.toNat
  rw [hq, nextNonzero_toNat h.2]
  omega

theorem acts_iff (d : AvrcpPassThroughDecision) : d.acts = true ↔ d.actions ≠ [] :=
  decide_eq_true_iff

theorem routing_of_acts (h : (passThroughGate.out s op).acts = true) :
    s.Routing ∧ s.SameAuthorization (passThroughGate.next s op) ∧
      { passThroughGate.out s op with actions := [], eventObserved := false } =
        (passThroughGate.next s op).snapshot := by
  have heffect := passThroughEffect s op
  revert h
  unfold Reducer.next Reducer.out
  generalize passThroughGate.step s op = r at heffect
  intro h
  cases heffect with
  | keeps hd _ _ _ => exact absurd hd ((acts_iff _).mp h)
  | renews hd _ _ => exact absurd hd ((acts_iff _).mp h)
  | accepts _ hrouting hsame _ _ hsnapshot => exact ⟨hrouting, hsame, hsnapshot⟩

theorem stamped : passThroughGate.Stamped (fun s _ => s.Fresh) AvrcpPassThroughDecision.acts
    AvrcpPassThroughGateState.stamp AvrcpPassThroughDecision.mark where
  mono := by
    intro s op h
    have heffect := passThroughEffect s op
    unfold Reducer.next
    generalize passThroughGate.step s op = r at heffect
    cases heffect with
    | keeps _ _ he hq => exact (stamp_keeps he hq).ge
    | renews _ he _ => exact (stamp_renews h he).le
    | accepts _ _ _ he hq _ => exact (stamp_accepts h he hq).le
  moves := by
    intro s op h hacts
    have heffect := passThroughEffect s op
    revert hacts
    unfold Reducer.next Reducer.out
    generalize passThroughGate.step s op = r at heffect
    intro hacts
    cases heffect with
    | keeps hd _ _ _ => exact absurd hd ((acts_iff _).mp hacts)
    | renews hd _ _ => exact absurd hd ((acts_iff _).mp hacts)
    | accepts _ _ _ he hq _ => exact stamp_accepts h he hq
  marked := by
    intro s op _ hacts
    obtain ⟨-, -, hsnapshot⟩ := routing_of_acts hacts
    exact congrArg AvrcpPassThroughDecision.mark hsnapshot

theorem stamp_supersedes (h : s.Fresh) (hop : s.Supersedes op) :
    s.stamp < (passThroughGate.next s op).stamp := by
  have heffect := passThroughEffect s op
  revert hop
  unfold AvrcpPassThroughGateState.Supersedes Reducer.next Reducer.out
  generalize passThroughGate.step s op = r at heffect
  intro hop
  cases heffect with
  | keeps hd hsame _ _ =>
    rcases hop with hop | ⟨hlease, hop⟩ | ⟨hcurrent, hop⟩ | hop | hop
    · exact absurd hsame.mode hop
    · exact absurd (hsame.ownerLease ▸ hop) hlease
    · exact absurd (hsame.aclGenerationCurrent ▸ hcurrent) hop
    · exact absurd hsame.aclGeneration hop
    · exact absurd hd ((acts_iff _).mp hop)
  | renews _ he _ => exact stamp_renews h he
  | accepts _ _ _ he hq _ => exact stamp_accepts h he hq

theorem mark_of_current {d : AvrcpPassThroughDecision}
    (h : isAvrcpPassThroughDecisionCurrent s d = true) : d.mark = s.stamp := by
  simp only [isAvrcpPassThroughDecisionCurrent, decide_eq_true_eq] at h
  obtain ⟨-, -, -, -, -, -, hepoch, hsequence⟩ := h
  rw [AvrcpPassThroughDecision.mark, stamp, hepoch, hsequence]

theorem current_of_acts (h : (passThroughGate.out s op).acts = true) :
    isAvrcpPassThroughDecisionCurrent (passThroughGate.next s op)
      (passThroughGate.out s op) = true := by
  obtain ⟨⟨hcurrent, hmode, hlease⟩, hsame, hsnapshot⟩ := routing_of_acts h
  simp only [isAvrcpPassThroughDecisionCurrent, decide_eq_true_eq]
  refine ⟨(acts_iff _).mp h, ?_, ?_, ?_, ?_⟩
  · rwa [hsame.aclGenerationCurrent]
  · rwa [hsame.mode]
  · rwa [hsame.ownerLease]
  · exact ⟨congrArg AvrcpPassThroughDecision.aclGeneration hsnapshot,
      congrArg AvrcpPassThroughDecision.ownerLease hsnapshot,
      congrArg AvrcpPassThroughDecision.authorizationEpoch hsnapshot,
      congrArg AvrcpPassThroughDecision.acceptedEventSequence hsnapshot⟩

end

/-- The decisions of a run that ask for something, in their order. -/
def actingDecisions (ops : List AvrcpPassThroughGateOp) : List AvrcpPassThroughDecision :=
  (passThroughGate.outputs {} ops).filter AvrcpPassThroughDecision.acts

/-- **A press acts at most once and in its own session**: of the decisions of a run at most
    the last is current; each is given out while a press may act, and is never current again
    once an operation has superseded it. -/
theorem passThrough_decisions {ops : List AvrcpPassThroughGateOp}
    (hlen : ops.length < 2 ^ 64 - 1) :
    (actingDecisions ops).countP
        (isAvrcpPassThroughDecisionCurrent (passThroughGate.after {} ops)) ≤ 1 ∧
      (∀ d ∈ actingDecisions ops,
        isAvrcpPassThroughDecisionCurrent (passThroughGate.after {} ops) d →
          (actingDecisions ops).getLast? = some d) ∧
      ∀ before op later, ops = before ++ op :: later →
        (passThroughGate.out (passThroughGate.after {} before) op).acts →
          (passThroughGate.after {} before).Routing ∧
          isAvrcpPassThroughDecisionCurrent (passThroughGate.after {} (before ++ [op]))
            (passThroughGate.out (passThroughGate.after {} before) op) ∧
          ∀ between op' rest, later = between ++ op' :: rest →
            (passThroughGate.after {} (before ++ op :: between)).Supersedes op' →
              ¬ isAvrcpPassThroughDecisionCurrent (passThroughGate.after {} ops)
                (passThroughGate.out (passThroughGate.after {} before) op) := by
  have hfresh : passThroughGate.Along (fun s _ => s.Fresh) {} ops :=
    along_fresh (n := 0) ⟨Nat.le_refl 0, Nat.le_refl 0⟩ (by omega)
  refine ⟨stamped.countP_le_one hfresh fun d hd => mark_of_current hd,
    fun d hd hcurrent => stamped.getLast?_eq hfresh hd (mark_of_current hcurrent), ?_⟩
  rintro before op later rfl hacts
  refine ⟨(routing_of_acts hacts).1, ?_, ?_⟩
  · rw [Reducer.after_append]
    exact current_of_acts hacts
  · rintro between op' rest rfl hsupersedes hcurrent
    obtain ⟨-, hlater⟩ := (Reducer.along_append _ _ _).mp hfresh
    have hthen : (passThroughGate.after {} (before ++ op :: between)).Fresh := by
      have hsplit := hlater.2
      rw [Reducer.along_append] at hsplit
      rw [Reducer.after_append, Reducer.after_cons]
      exact hsplit.2.1
    have hmoves := stamp_supersedes hthen hsupersedes
    rw [Reducer.after_append] at hmoves hcurrent
    exact stamped.stale hlater hacts hmoves (mark_of_current hcurrent)

/-- The lease is taken, and the key for playing is about to be pressed. -/
def leaseTaken : List AvrcpPassThroughGateOp :=
  [.beginAclGeneration 1, .setGateMode 1 .routeToCurrentMediaSession, .acquireOwnerLease 1 7]

def playPressed : AvrcpPassThroughGateOp :=
  .observeEvent 1 (makeAvrcpPassThroughEvent 0x44 false)

/-- The lease is revoked after the press and taken again, and the press acts no more. -/
theorem passThrough_decisions_retaken :
    ¬ isAvrcpPassThroughDecisionCurrent
      (passThroughGate.after {} (leaseTaken ++
        playPressed :: [.revokeOwnerLease 1 7, .acquireOwnerLease 1 7]))
      (passThroughGate.out (passThroughGate.after {} leaseTaken) playPressed) :=
  ((passThrough_decisions (by decide)).2.2 _ _ _ rfl (by decide)).2.2 [] _ _ rfl (by decide)

end NativeLdac.Agent
