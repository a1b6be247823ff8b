/-
  The absolute-volume gate: its decisions carry the authorization they were
  issued under, and every revocation outdates them for good, because the
  authorization epoch moves on each one and takes a full turn of the 64-bit
  counter to come back.
-/
import Mathlib.Logic.Function.Iterate
import Mathlib.Tactic.Ring
import NativeLdac.Agent.Volume

namespace NativeLdac.Agent

/-! ## The authorization epoch -/

theorem nextAuthorizationEpoch_toNat (e : UInt64) :
    (nextAuthorizationEpoch e).toNat =
      if e.toNat = 2 ^ 64 - 1 then 1 else e.toNat + 1 := by
  have he := e.toNat_lt
  unfold nextAuthorizationEpoch
  split_ifs with h₁ h₂ h₂
  · rfl
  · exact absurd (congrArg UInt64.toNat h₁) h₂
  · exact absurd (UInt64.toNat_inj.1 (h₂.trans rfl)) h₁
  · rw [UInt64.toNat_add, UInt64.toNat_one]
    omega

theorem iterate_epoch_toNat {e : UInt64} (he : e ≠ 0) (k : Nat) :
    (nextAuthorizationEpoch^[k] e).toNat = (e.toNat - 1 + k) % (2 ^ 64 - 1) + 1 := by
  have h₀ : e.toNat ≠ 0 := fun h => he (UInt64.toNat_inj.1 h)
  have h₁ := e.toNat_lt
  induction k with
  | zero => simp only [Function.iterate_zero, id_eq]; omega
  | succ k ih =>
    rw [Function.iterate_succ_apply', nextAuthorizationEpoch_toNat, ih]
    split_ifs <;> omega

theorem nextAuthorizationEpoch_ne_zero (e : UInt64) : nextAuthorizationEpoch e ≠ 0 := by
  intro h
  have := nextAuthorizationEpoch_toNat e
  rw [h, UInt64.toNat_zero] at this
  split_ifs at this

theorem iterate_epoch_ne {e : UInt64} {k : Nat} (hk : 0 < k) (hk' : k < 2 ^ 64 - 1) :
    nextAuthorizationEpoch^[k] e ≠ e := by
  by_cases he : e = 0
  · obtain ⟨j, rfl⟩ := Nat.exists_eq_succ_of_ne_zero (Nat.pos_iff_ne_zero.1 hk)
    rw [Function.iterate_succ_apply', he]
    exact nextAuthorizationEpoch_ne_zero _
  · intro h
    have h₁ := iterate_epoch_toNat he k
    have h₀ : e.toNat ≠ 0 := fun h => he (UInt64.toNat_inj.1 h)
    have h₂ := e.toNat_lt
    rw [h] at h₁
    omega

/-! ## One operation -/

/-- The operation takes an authorization away: the lease is revoked, Synchronize
    mode is left, the capability is lost, the ACL generation ends or a newer one
    begins. -/
def Revokes (s : AvrcpAbsoluteVolumeGateState) : AvrcpAbsoluteVolumeGateOp → Prop
  | .beginAcl g => isNewerGeneration g s.aclGeneration
  | .setMode g mode => isCurrentAclGeneration s g ∧ mode ≠ .synchronize
  | .revokeLease g lease => lease ≠ 0 ∧ isCurrentAclGeneration s g ∧ s.ownerLease = lease
  | .observeCapability g support => isCurrentAclGeneration s g ∧ support ≠ .supported
  | .endAcl g => isCurrentAclGeneration s g
  | .acquireLease .. | .observeWindows .. | .observeXm5 .. => False

def AvrcpAbsoluteVolumeGateOp.aclGeneration : AvrcpAbsoluteVolumeGateOp → UInt64
  | .beginAcl g | .setMode g _ | .acquireLease g _ | .revokeLease g _ | .observeCapability g _
  | .observeWindows g _ | .observeXm5 g _ _ | .endAcl g => g

/-- The decision was issued by the operation in the state: if it asks for
    anything, the state may synchronize, the operation is made for the current
    generation, and the decision carries that generation, the lease and the
    epoch. -/
def IssuedBy (s : AvrcpAbsoluteVolumeGateState) (op : AvrcpAbsoluteVolumeGateOp)
    (d : AvrcpAbsoluteVolumeGateDecision) : Prop :=
  d.volume.actions ≠ 0 → gateCanSynchronize s ∧ isCurrentAclGeneration s op.aclGeneration ∧
    d.aclGeneration = op.aclGeneration ∧ d.ownerLease = s.ownerLease ∧
    d.authorizationEpoch = s.authorizationEpoch

theorem issuedBy_none (s : AvrcpAbsoluteVolumeGateState) (op : AvrcpAbsoluteVolumeGateOp) :
    IssuedBy s op {} := by
  simp [IssuedBy]

theorem eq_of_isCurrentAclGeneration {s : AvrcpAbsoluteVolumeGateState} {g : UInt64}
    (h : isCurrentAclGeneration s g) : s.aclGeneration = g := by
  unfold isCurrentAclGeneration at h
  rw [decide_eq_true_iff] at h
  exact h.2.2

theorem issuedBy_authorize {s : AvrcpAbsoluteVolumeGateState} {op : AvrcpAbsoluteVolumeGateOp}
    (hc : isCurrentAclGeneration s op.aclGeneration) (v : AvrcpAbsoluteVolumeDecision) :
    IssuedBy s op (authorizeGateDecision s v) := by
  unfold authorizeGateDecision
  split_ifs with h
  · exact issuedBy_none s op
  · rw [not_or, not_not] at h
    intro _
    exact ⟨h.1, hc, eq_of_isCurrentAclGeneration hc, rfl, rfl⟩

/-- What an operation does to the epoch. -/
inductive GateEffect (s : AvrcpAbsoluteVolumeGateState) (op : AvrcpAbsoluteVolumeGateOp) :
    AvrcpAbsoluteVolumeGateDecision × AvrcpAbsoluteVolumeGateState → Prop
  /-- a revocation moves it and issues nothing -/
  | revoked {s'} : s'.authorizationEpoch = nextAuthorizationEpoch s.authorizationEpoch →
      GateEffect s op ({}, s')
  /-- anything else leaves it alone -/
  | kept {d s'} : ¬ Revokes s op → s'.authorizationEpoch = s.authorizationEpoch →
      IssuedBy s' op d → GateEffect s op (d, s')

theorem activate_kept {s s' : AvrcpAbsoluteVolumeGateState} {op : AvrcpAbsoluteVolumeGateOp}
    (hr : ¬ Revokes s op) (he : s'.authorizationEpoch = s.authorizationEpoch)
    (hc : isCurrentAclGeneration s' op.aclGeneration) :
    GateEffect s op (activateGateIfAuthorized s') := by
  simp only [activateGateIfAuthorized]
  split_ifs
  · exact .kept hr he (issuedBy_none _ _)
  · refine .kept hr he (issuedBy_authorize ?_ _)
    exact hc

theorem gate_effect (s : AvrcpAbsoluteVolumeGateState) (op : AvrcpAbsoluteVolumeGateOp) :
    GateEffect s op (absoluteVolumeGate.step s op) := by
  cases op with
  | beginAcl g =>
    simp only [absoluteVolumeGate, beginAvrcpAbsoluteVolumeAclGeneration]
    split_ifs with h
    · exact .revoked rfl
    · exact .kept h rfl (issuedBy_none s _)
  | setMode g mode =>
    simp only [absoluteVolumeGate, setAvrcpAbsoluteVolumeGateMode]
    split_ifs with h₁ h₂
    · exact .revoked rfl
    · refine activate_kept ?_ rfl h₁
      intro h
      exact h₂ h.2
    · refine .kept ?_ rfl (issuedBy_none s _)
      intro h
      exact h₁ h.1
  | acquireLease g lease =>
    simp only [absoluteVolumeGate, acquireAvrcpAbsoluteVolumeOwnerLease]
    split_ifs with h
    · exact .kept id rfl (issuedBy_none s _)
    · rw [not_or, not_or, not_not] at h
      exact activate_kept id rfl h.2.1
  | revokeLease g lease =>
    simp only [absoluteVolumeGate, revokeAvrcpAbsoluteVolumeOwnerLease]
    split_ifs with h
    · refine .kept ?_ rfl (issuedBy_none s _)
      rintro ⟨hlease, hcurrent, howner⟩
      obtain h | h | h := h
      · exact hlease h
      · exact h hcurrent
      · exact h howner
    · exact .revoked rfl
  | observeCapability g support =>
    simp only [absoluteVolumeGate, observeAvrcpAbsoluteVolumeCapability]
    split_ifs with h₁ h₂
    · exact .revoked rfl
    · refine activate_kept ?_ rfl h₁
      intro h
      exact h₂ h.2
    · refine .kept ?_ rfl (issuedBy_none s _)
      intro h
      exact h₁ h.1
  | observeWindows g volume =>
    simp only [absoluteVolumeGate, observeWindowsEndpointVolumeThroughGate]
    split_ifs with h
    · exact .kept id rfl (issuedBy_authorize h _)
    · exact activate_kept id rfl h
    · exact .kept id rfl (issuedBy_none _ _)
    · exact .kept id rfl (issuedBy_none _ _)
  | observeXm5 g value event =>
    simp only [absoluteVolumeGate, observeXm5AbsoluteVolumeThroughGate]
    split_ifs with h
    · exact .kept id rfl (issuedBy_none _ _)
    · exact .kept id rfl (issuedBy_none _ _)
    · rw [not_or, not_not] at h
      exact .kept id rfl (issuedBy_authorize h.2 _)
  | endAcl g =>
    simp only [absoluteVolumeGate, endAvrcpAbsoluteVolumeAclGeneration]
    split_ifs with h
    · exact .revoked rfl
    · exact .kept h rfl (issuedBy_none s _)

/-! ## Runs -/

theorem after_epoch (s : AvrcpAbsoluteVolumeGateState) (ops : List AvrcpAbsoluteVolumeGateOp) :
    ∃ k ≤ ops.length,
      (absoluteVolumeGate.after s ops).authorizationEpoch =
        nextAuthorizationEpoch^[k] s.authorizationEpoch ∧
      (k = 0 → absoluteVolumeGate.Along (fun s op => ¬ Revokes s op) s ops) := by
  induction ops generalizing s with
  | nil => exact ⟨0, Nat.le_refl 0, rfl, fun _ => trivial⟩
  | cons op ops ih =>
    obtain ⟨k, hk, he, hq⟩ := ih (absoluteVolumeGate.next s op)
    have heff := gate_effect s op
    simp only [Reducer.next] at he hq
    generalize hstep : absoluteVolumeGate.step s op = r at heff he hq
    cases heff with
    | revoked hs =>
      refine ⟨k + 1, by simpa using hk, ?_, nofun⟩
      rw [Reducer.after_cons, Reducer.next, hstep, he, hs, Function.iterate_succ_apply]
    | kept hr hs _ =>
      refine ⟨k, by simp; omega, ?_, fun h => ⟨hr, ?_⟩⟩
      · rw [Reducer.after_cons, Reducer.next, hstep, he, hs]
      · rw [Reducer.next, hstep]; exact hq h

/-- **The life of a decision**, in every state and over every run shorter than a
    full turn of the epoch: it is issued under the authorization it carries, and
    no revocation lets it be current again. -/
theorem gate_decision_life (s : AvrcpAbsoluteVolumeGateState) (op : AvrcpAbsoluteVolumeGateOp)
    (later : List AvrcpAbsoluteVolumeGateOp) (hl : later.length < 2 ^ 64 - 1) :
    IssuedBy (absoluteVolumeGate.next s op) op (absoluteVolumeGate.out s op) ∧
      ((∃ earlier r rest, later = earlier ++ r :: rest ∧
          Revokes (absoluteVolumeGate.after (absoluteVolumeGate.next s op) earlier) r) →
        isAvrcpAbsoluteVolumeGateDecisionCurrent
          (absoluteVolumeGate.after (absoluteVolumeGate.next s op) later)
          (absoluteVolumeGate.out s op) = false) := by
  have hi : IssuedBy (absoluteVolumeGate.next s op) op (absoluteVolumeGate.out s op) := by
    have heff := gate_effect s op
    simp only [Reducer.next, Reducer.out]
    generalize absoluteVolumeGate.step s op = r at heff ⊢
    cases heff with
    | revoked _ => exact issuedBy_none _ _
    | kept _ _ hi => exact hi
  refine ⟨hi, ?_⟩
  rintro ⟨earlier, r, rest, hlater, hr⟩
  obtain ⟨k, hk, he, hq⟩ := after_epoch (absoluteVolumeGate.next s op) later
  have hk₀ : 0 < k := by
    rcases Nat.eq_zero_or_pos k with h | h
    · have := hq h
      rw [hlater, Reducer.along_append] at this
      exact absurd hr this.2.1
    · exact h
  rw [Bool.eq_false_iff, isAvrcpAbsoluteVolumeGateDecisionCurrent, ne_eq, decide_eq_true_iff]
  rintro ⟨hact, -, -, -, -, hepoch⟩
  obtain ⟨-, -, -, -, hissued⟩ := hi (by simpa using hact)
  rw [hissued, he] at hepoch
  exact iterate_epoch_ne hk₀ (by omega) hepoch.symm

/-- A gate one mode switch away from its first synchronization. -/
def armedGate : AvrcpAbsoluteVolumeGateState :=
  absoluteVolumeGate.after {} [.beginAcl 1, .observeWindows 1 ⟨40, false⟩,
    .observeCapability 1 .supported, .acquireLease 1 99]

/-- Revoking and restoring the same lease does not revive the decision. -/
theorem gate_decision_outdated_by_lease :
    isAvrcpAbsoluteVolumeGateDecisionCurrent
      (absoluteVolumeGate.after (absoluteVolumeGate.next armedGate (.setMode 1 .synchronize))
        [.revokeLease 1 99, .acquireLease 1 99])
      (absoluteVolumeGate.out armedGate (.setMode 1 .synchronize)) = false :=
  (gate_decision_life armedGate (.setMode 1 .synchronize) [.revokeLease 1 99, .acquireLease 1 99]
    (by decide)).2
    ⟨[], .revokeLease 1 99, [.acquireLease 1 99], rfl, by decide, by decide, by decide⟩

end NativeLdac.Agent
