/-
  The owner of the Bluetooth profile interface
  (`direct-pdo/src/nativeldac_bth_owner_contract.c`): it queries the interface for each start
  of the device, and gives the reference that a query brought back exactly once.
-/
import Mathlib.Algebra.Order.Group.Nat
import Mathlib.Tactic.SplitIfs
import NativeLdac.Lib.Reducer

namespace NativeLdac.DirectPdo

/-! ## The contract -/

inductive NldBthOwnerState where
  | ownerOffline | ownerQuerying | ownerReady | ownerFaulted
deriving DecidableEq, Repr

inductive NldBthOwnerAction where
  | ownerActionNone | ownerActionQuery | ownerActionDereference
deriving DecidableEq, Repr

open NldBthOwnerState NldBthOwnerAction

/-- `NLD_BTH_INTERFACE_OWNER`, as `NldBthOwnerInitialize` leaves it. -/
structure NldBthInterfaceOwner where
  state : NldBthOwnerState := ownerOffline
  generation : UInt32 := 0
  pnpStarted : Bool := false
  queryPending : Bool := false
  referenceHeld : Bool := false
deriving DecidableEq, Repr

/-- A reference that is not kept goes back. -/
def dereferenceIf (referenced : Bool) : NldBthOwnerAction :=
  if referenced then ownerActionDereference else ownerActionNone

namespace NldBthInterfaceOwner

variable (owner : NldBthInterfaceOwner)

def onPnpStart : NldBthOwnerAction × NldBthInterfaceOwner :=
  if owner.pnpStarted then (ownerActionNone, owner)
  else
    (ownerActionQuery,
      { owner with
        pnpStarted := true
        state := ownerQuerying
        queryPending := true
        referenceHeld := false
        generation := owner.generation + 1 })

def onQueryComplete (generation : UInt32) (succeeded interfaceReferenced : Bool) :
    NldBthOwnerAction × NldBthInterfaceOwner :=
  if generation ≠ owner.generation ∨ ¬ owner.queryPending then
    (dereferenceIf interfaceReferenced, owner)
  else
    let owner := { owner with queryPending := false }
    if ¬ owner.pnpStarted then
      (dereferenceIf interfaceReferenced,
        { owner with state := ownerOffline, referenceHeld := false })
    else if succeeded ∧ interfaceReferenced then
      (ownerActionNone, { owner with state := ownerReady, referenceHeld := true })
    else
      (dereferenceIf interfaceReferenced,
        { owner with state := ownerFaulted, referenceHeld := false })

def onPnpStop : NldBthOwnerAction × NldBthInterfaceOwner :=
  (dereferenceIf owner.referenceHeld,
    { owner with pnpStarted := false, state := ownerOffline, referenceHeld := false })

def retry : NldBthOwnerAction × NldBthInterfaceOwner :=
  if ¬ owner.pnpStarted ∨ owner.queryPending ∨ owner.referenceHeld ∨
      owner.state ≠ ownerFaulted then (ownerActionNone, owner)
  else
    (ownerActionQuery,
      { owner with
        state := ownerQuerying, queryPending := true, generation := owner.generation + 1 })

/-- `NldBthOwnerIsConsistent`; the state is one of the four by its type. -/
def isConsistent : Bool :=
  ¬ (owner.queryPending ∧ owner.state ≠ ownerQuerying ∧ owner.pnpStarted) ∧
    owner.referenceHeld = decide (owner.state = ownerReady) ∧
    ¬ (owner.referenceHeld ∧ ¬ owner.pnpStarted) ∧
    ¬ (owner.state = ownerReady ∧ owner.queryPending) ∧
    ¬ (owner.state = ownerFaulted ∧ ¬ owner.pnpStarted)

end NldBthInterfaceOwner

inductive NldBthOwnerOp where
  | pnpStart
  | pnpStop
  | queryComplete (generation : UInt32) (succeeded interfaceReferenced : Bool)
  | retry
deriving DecidableEq, Repr

def interfaceOwner : Reducer NldBthInterfaceOwner NldBthOwnerOp NldBthOwnerAction where
  step owner
    | .pnpStart => owner.onPnpStart
    | .pnpStop => owner.onPnpStop
    | .queryComplete generation succeeded interfaceReferenced =>
      owner.onQueryComplete generation succeeded interfaceReferenced
    | .retry => owner.retry

namespace NldBthInterfaceOwner

/-- A query completes with a reference to the interface. -/
def brings (_ : NldBthInterfaceOwner) : NldBthOwnerOp → Bool
  | .queryComplete _ _ interfaceReferenced => interfaceReferenced
  | _ => false

/-- A reference goes back. -/
def returns (owner : NldBthInterfaceOwner) (op : NldBthOwnerOp) : Bool :=
  interfaceOwner.out owner op = ownerActionDereference

/-! ## What the operations keep -/

/-- What every operation keeps. -/
structure Sane (owner : NldBthInterfaceOwner) : Prop where
  held : owner.referenceHeld = decide (owner.state = ownerReady)
  querying : owner.queryPending → owner.pnpStarted → owner.state = ownerQuerying
  stopped : owner.pnpStarted = false → owner.state = ownerOffline

theorem sane_initialized : Sane {} := ⟨rfl, nofun, fun _ => rfl⟩

variable {owner : NldBthInterfaceOwner}

theorem Sane.not_held (h : owner.Sane) (hpending : owner.queryPending) :
    owner.referenceHeld = false := by
  rw [h.held, decide_eq_false_iff_not]
  intro hready
  by_cases hpnp : owner.pnpStarted = true
  · cases hready.symm.trans (h.querying hpending hpnp)
  · cases hready.symm.trans (h.stopped (Bool.eq_false_iff.mpr hpnp))

theorem dereferenceIf_eq (referenced : Bool) :
    (decide (dereferenceIf referenced = ownerActionDereference)).toNat = referenced.toNat := by
  cases referenced <;> rfl

theorem sane_step (h : owner.Sane) (op : NldBthOwnerOp) :
    (interfaceOwner.next owner op).Sane ∧
      (owner.brings op).toNat + owner.referenceHeld.toNat =
        (owner.returns op).toNat + (interfaceOwner.next owner op).referenceHeld.toNat := by
  cases op with
  | pnpStart =>
    simp only [brings, returns, Reducer.next, Reducer.out, interfaceOwner, onPnpStart]
    split_ifs with hpnp
    · exact ⟨h, by simp⟩
    · have hoffline := h.stopped (Bool.eq_false_iff.mpr hpnp)
      exact ⟨⟨rfl, fun _ _ => rfl, nofun⟩, by simp [h.held, hoffline]⟩
  | pnpStop =>
    have hreturns : (owner.returns .pnpStop).toNat = owner.referenceHeld.toNat :=
      dereferenceIf_eq owner.referenceHeld
    refine ⟨⟨rfl, nofun, fun _ => rfl⟩, ?_⟩
    rw [hreturns]
    exact (zero_add _).trans (add_zero _).symm
  | queryComplete generation succeeded referenced =>
    simp only [brings, returns, Reducer.next, Reducer.out, interfaceOwner, onQueryComplete]
    by_cases hstale : generation ≠ owner.generation ∨ ¬ owner.queryPending = true
    · rw [if_pos hstale]
      exact ⟨h, by rw [dereferenceIf_eq]⟩
    rw [if_neg hstale]
    have hnone := h.not_held (not_not.mp fun hidle => hstale (.inr hidle))
    by_cases hpnp : owner.pnpStarted = true
    · have hstarted : owner.pnpStarted = false → False := fun hstopped =>
        Bool.eq_false_iff.mp hstopped hpnp
      rw [if_neg (not_not.mpr hpnp)]
      split_ifs with hready
      · -- the reference is kept, and none was held before
        exact ⟨⟨rfl, nofun, fun hstopped => (hstarted hstopped).elim⟩, by simp [hnone, hready.2]⟩
      · refine ⟨⟨rfl, nofun, fun hstopped => (hstarted hstopped).elim⟩, ?_⟩
        rw [dereferenceIf_eq, hnone]
    · rw [if_pos hpnp]
      refine ⟨⟨rfl, nofun, fun _ => rfl⟩, ?_⟩
      rw [dereferenceIf_eq, hnone]
  | retry =>
    simp only [brings, returns, Reducer.next, Reducer.out, interfaceOwner, retry]
    split_ifs with hrefused
    · exact ⟨h, by simp⟩
    · simp only [not_or, not_not] at hrefused
      obtain ⟨hpnp, -, hheld, -⟩ := hrefused
      have hnone := Bool.eq_false_iff.mpr hheld
      refine ⟨⟨hnone, fun _ _ => rfl, fun hstopped => ?_⟩, by simp [hnone]⟩
      exact absurd hpnp (Bool.eq_false_iff.mp hstopped)

theorem isConsistent_of_sane (h : owner.Sane) : owner.isConsistent = true := by
  simp only [isConsistent, decide_eq_true_eq]
  have hstarted : owner.state ≠ ownerOffline → owner.pnpStarted = true := fun hstate =>
    not_not.mp fun hpnp => hstate (h.stopped (Bool.eq_false_iff.mpr hpnp))
  refine ⟨?_, h.held, ?_, ?_, ?_⟩
  · rintro ⟨hpending, hother, hpnp⟩
    exact hother (h.querying hpending hpnp)
  · rintro ⟨hheld, hpnp⟩
    have hready : owner.state = ownerReady := of_decide_eq_true (h.held.symm.trans hheld)
    exact hpnp (hstarted (by rw [hready]; nofun))
  · rintro ⟨hready, hpending⟩
    have hheld := h.not_held hpending
    simp [h.held, hready] at hheld
  · rintro ⟨hfaulted, hpnp⟩
    exact hpnp (hstarted (by rw [hfaulted]; nofun))

/-- **References balance**: those that queries brought, less those that went back, are the one
    that is held, in a device that is ready and started; and the owner is consistent. -/
theorem interface_references_balance (ops : List NldBthOwnerOp) :
    let owner := interfaceOwner.after {} ops
    (interfaceOwner.count brings {} ops : Int) - interfaceOwner.count returns {} ops =
        (if owner.referenceHeld then 1 else 0) ∧
      (owner.referenceHeld → owner.state = ownerReady ∧ owner.pnpStarted) ∧
      owner.isConsistent := by
  have hsane : (interfaceOwner.after {} ops).Sane :=
    Reducer.after_inv (P := Sane) (Q := fun _ _ => True) (fun _ op h _ => (sane_step h op).1)
      sane_initialized (Reducer.along_of_forall (fun _ _ => trivial) _ ops)
  have hbalance := Reducer.count_balance (M := interfaceOwner) (P := Sane) (Q := fun _ _ => True)
    (p := brings) (q := returns) (f := fun owner => owner.referenceHeld.toNat)
    (fun _ op h _ => (sane_step h op).1) (fun _ op h _ => (sane_step h op).2) sane_initialized
    (Reducer.along_of_forall (fun _ _ => trivial) _ ops)
  have hconsistent := isConsistent_of_sane hsane
  refine ⟨?_, fun hheld => ?_, hconsistent⟩
  · split_ifs with hheld
    · simp only [hheld, Bool.toNat_false, Bool.toNat_true] at hbalance
      omega
    · simp only [hheld, Bool.toNat_false] at hbalance
      omega
  · have hready := of_decide_eq_true (hsane.held.symm.trans hheld)
    refine ⟨hready, not_not.mp fun hpnp => ?_⟩
    cases hready.symm.trans (hsane.stopped (Bool.eq_false_iff.mpr hpnp))

end NldBthInterfaceOwner

end NativeLdac.DirectPdo
