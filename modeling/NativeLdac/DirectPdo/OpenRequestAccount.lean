/-
  The account of one open request: where its base reference is, what holds its BRBs, and
  what has been released and freed.

  * `Standing` is what the account reads of the channel, `Account` the account;
  * what a section does to a request is one of four moves: it passes on what the request
    holds (`Account.pass`), frees a BRB that is held (`Account.freeOpenBrb`,
    `Account.freeCloseBrb`), adds a reference (`Account.addReference`) or releases one
    (`Account.release`).
-/
import NativeLdac.DirectPdo.OpenChannel

namespace NativeLdac.DirectPdo


/-! ## What holds a request -/

namespace OpenPoint

/-- The open has been sent, and its worker has not signalled yet. -/
@[simp] def isInFlight : OpenPoint → Bool
  | sent | freeOpenBrb | clearOpenBrb | notify | closeChannel | settle | release | signal => true
  | unborn | done => false

/-- The worker has the request, and has not released it yet. -/
@[simp] def holdsRequest : OpenPoint → Bool
  | freeOpenBrb | clearOpenBrb | notify | closeChannel | settle | release => true
  | unborn | sent | signal | done => false

@[simp] def holdsCloseBrb : OpenPoint → Bool
  | freeOpenBrb | clearOpenBrb | notify | closeChannel => true
  | unborn | sent | settle | release | signal | done => false

@[simp] def holdsOpenBrb : OpenPoint → Bool
  | sent | freeOpenBrb | clearOpenBrb => true
  | unborn | notify | closeChannel | settle | release | signal | done => false

end OpenPoint

/-- What the account of a request reads of the channel. -/
structure Standing where
  /-- `PendingOpen`, `ActiveChannel` point to it. -/
  pending : Bool := false
  active : Bool := false
  /-- A close has taken it from `ActiveChannel`. -/
  taken : Bool := false
  /-- A close has the close BRB that it took. -/
  closeBrb : Bool := false
  /-- A close has added a reference, to cancel the open. -/
  canceled : Bool := false
  stops : Nat := 0
deriving DecidableEq

/-- What of a request is counted. -/
structure Ledger where
  referenceCount : UInt32 := 0
  stackReferences : Nat := 0
  baseReleases : Nat := 0
  freed : Bool := false
  profile : Nat := 0
  openBrb : Brb := {}
  closeBrb : Brb := {}

/-- In how many places a request has its base reference and its BRBs. -/
structure Holdings where
  born : Bool := false
  base : Nat := 0
  openBrb : Nat := 0
  closeBrb : Nat := 0
  canceled : Bool := false
  stops : Nat := 0

/-- All references: the base reference, those of the stack, and that of a close -/
def Ledger.references (l : Ledger) (p : Holdings) : Nat :=
  p.base + l.stackReferences + p.canceled.toNat

/-- What is held and what was given back balance. -/
structure Ledger.Balanced (l : Ledger) (p : Holdings) : Prop where
  base : p.base + l.baseReleases = p.born.toNat
  count : if l.freed then l.references p = 0 else l.referenceCount.toNat = l.references p
  openBrb : l.openBrb.frees + p.openBrb = l.openBrb.allocated.toNat
  closeBrb : l.closeBrb.frees + p.closeBrb = l.closeBrb.allocated.toNat
  stale : l.openBrb.staleFrees = 0 ∧ l.closeBrb.staleFrees = 0
  profile : p.openBrb + p.closeBrb ≠ 0 → l.profile = p.stops

namespace NldBthAsyncOpenRequest

variable (request : NldBthAsyncOpenRequest) (v : Standing)

def ledger : Ledger where
  referenceCount := request.referenceCount
  stackReferences := request.stackReferences
  baseReleases := request.baseReleases
  freed := request.freed
  profile := request.profile
  openBrb := request.openBrb.clear
  closeBrb := request.closeBrb.clear

@[simp] def workerHolds : Bool := request.point.holdsRequest && !request.worker.retainRequest

@[simp] def workerHoldsCloseBrb : Bool := request.point.holdsCloseBrb && request.worker.closeBrb

/-- A BRB of the request is there, until the request is freed. -/
@[simp] def holds (brb : Brb) : Bool := brb.pointer && !request.freed

def holdings : Holdings where
  born := request.point ≠ .unborn
  base := v.pending.toNat + v.active.toNat + v.taken.toNat + request.workerHolds.toNat
  -- Between the free of the open BRB and the null of its pointer, it is gone.
  openBrb := (request.holds request.openBrb && request.point ≠ .clearOpenBrb).toNat
  closeBrb :=
    (request.holds request.closeBrb).toNat + request.workerHoldsCloseBrb.toNat + v.closeBrb.toNat
  canceled := v.canceled
  stops := v.stops

theorem references_eq : request.ledger.references (request.holdings v) =
    (request.holdings v).base + request.stackReferences + v.canceled.toNat := rfl

end NldBthAsyncOpenRequest

/-! ## The account -/

section
variable (brb : Brb)

theorem Brb.staleFrees_free {profile stops : Nat} (h : profile = stops) :
    (brb.free (profile ≠ stops)).staleFrees = brb.staleFrees := by
  simp [free, h]

theorem Brb.frees_freeHeld (stale : Bool) :
    (brb.freeHeld stale).frees = brb.frees + brb.pointer.toNat := by
  unfold freeHeld
  split_ifs with hpointer
  · rw [hpointer]
    rfl
  · rw [Bool.eq_false_iff.mpr hpointer]
    rfl

@[simp] theorem Brb.allocated_freeHeld (stale : Bool) :
    (brb.freeHeld stale).allocated = brb.allocated := by
  unfold freeHeld
  split_ifs <;> rfl

@[simp] theorem Brb.pointer_freeHeld (stale : Bool) :
    (brb.freeHeld stale).pointer = brb.pointer := by
  unfold freeHeld
  split_ifs <;> rfl

theorem Brb.staleFrees_freeHeld {profile stops : Nat}
    (h : brb.pointer → profile = stops) :
    (brb.freeHeld (profile ≠ stops)).staleFrees = brb.staleFrees := by
  unfold freeHeld
  split_ifs with hpointer
  · exact brb.staleFrees_free (h hpointer)
  · rfl

end

/-! A release leaves the request where it is, with the pointers that it has. -/

namespace NldBthAsyncOpenRequest

variable (q : NldBthAsyncOpenRequest) (stops : Nat)

@[simp] theorem point_release : (q.release stops).point = q.point := by
  unfold release
  dsimp only
  split_ifs <;> rfl

@[simp] theorem worker_release : (q.release stops).worker = q.worker := by
  unfold release
  dsimp only
  split_ifs <;> rfl

@[simp] theorem generation_release : (q.release stops).generation = q.generation := by
  unfold release
  dsimp only
  split_ifs <;> rfl

@[simp] theorem pointer_openBrb_release :
    (q.release stops).openBrb.pointer = q.openBrb.pointer := by
  unfold release
  dsimp only
  split_ifs
  · rfl
  · exact Brb.pointer_freeHeld _ _

@[simp] theorem pointer_closeBrb_release :
    (q.release stops).closeBrb.pointer = q.closeBrb.pointer := by
  unfold release
  dsimp only
  split_ifs
  · rfl
  · exact Brb.pointer_freeHeld _ _

@[simp] theorem stackReferences_release :
    (q.release stops).stackReferences = q.stackReferences := by
  unfold release
  dsimp only
  split_ifs <;> rfl

@[simp] theorem baseReleases_release : (q.release stops).baseReleases = q.baseReleases := by
  unfold release
  dsimp only
  split_ifs <;> rfl

end NldBthAsyncOpenRequest

open NldBthAsyncOpenRequest (allocate holdings holds ledger release releaseBase
  workerHoldsCloseBrb)

def Account (v : Standing) (q : NldBthAsyncOpenRequest) : Prop := q.ledger.Balanced (q.holdings v)

theorem toNat_add_one {c : UInt32} (h : c ≠ 0xFFFFFFFF) : (c + 1).toNat = c.toNat + 1 := by
  have hne : c.toNat ≠ (0xFFFFFFFF : UInt32).toNat := fun heq => h (UInt32.toNat_inj.mp heq)
  have hlt := c.toNat_lt
  simp only [UInt32.toNat_add, UInt32.reduceToNat] at hne ⊢
  omega

theorem toNat_sub_one {c : UInt32} (h : c.toNat ≠ 0) : (c - 1).toNat = c.toNat - 1 := by
  have hlt := c.toNat_lt
  simp only [UInt32.toNat_sub, UInt32.reduceToNat]
  omega

namespace Account

variable {v v' : Standing} {q q' : NldBthAsyncOpenRequest}

theorem unborn (hpending : v.pending = false) (hactive : v.active = false)
    (htaken : v.taken = false) (hbrb : v.closeBrb = false) (hcanceled : v.canceled = false) :
    Account v {} := by
  have hnone : ({} : NldBthAsyncOpenRequest).holdings v = { stops := v.stops } := by
    unfold holdings
    rw [hpending, hactive, htaken, hbrb, hcanceled]
    rfl
  unfold Account
  rw [hnone]
  exact ⟨rfl, rfl, rfl, rfl, ⟨rfl, rfl⟩, fun h => absurd rfl h⟩

theorem sent (stops : Nat) (g : UInt32) (a : OpenAllocations) :
    Account { pending := true, stops }
      { allocate stops a with generation := g, point := .sent } := by
  obtain ⟨openBrb, closeBrb, irp, workItem⟩ := a
  refine ⟨rfl, ?_, ?_, ?_, ⟨rfl, rfl⟩, fun _ => rfl⟩
  · simp [ledger, holdings, Ledger.references,
      allocate]
  · cases openBrb <;> rfl
  · cases closeBrb <;> rfl

theorem refused (stops : Nat) (a : OpenAllocations) :
    Account { stops } ((allocate stops a).releaseBase stops) := by
  have hreleased : (allocate stops a).releaseBase stops =
      { profile := stops, openBrb := (Brb.allocate a.openBrb).freeHeld false
        closeBrb := (Brb.allocate a.closeBrb).freeHeld false, point := .done, baseReleases := 1
        freed := true } := by
    simp [allocate, releaseBase,
      release]
  rw [hreleased]
  refine ⟨rfl, rfl, ?_, ?_, ?_, fun _ => rfl⟩
  · cases a.openBrb <;> rfl
  · cases a.closeBrb <;> rfl
  · cases a.openBrb <;> cases a.closeBrb <;> exact ⟨rfl, rfl⟩

theorem freed_eq_false (h : Account v q) (hheld : q.ledger.references (q.holdings v) ≠ 0) :
    q.freed = false := by
  have hcount := h.count
  cases hfreed : q.freed with
  | false => rfl
  | true =>
    rw [show q.ledger.freed = true from hfreed, if_pos rfl] at hcount
    exact absurd hcount hheld

theorem referenceCount (h : Account v q) (hheld : q.ledger.references (q.holdings v) ≠ 0) :
    q.referenceCount.toNat = q.ledger.references (q.holdings v) := by
  have hcount := h.count
  rwa [show q.ledger.freed = false from h.freed_eq_false hheld, if_neg Bool.false_ne_true] at hcount

theorem pass (h : Account v q) (hledger : q'.ledger = q.ledger)
    (hholdings : q'.holdings v' = q.holdings v) : Account v' q' := by
  unfold Account
  rw [hledger, hholdings]
  exact h

theorem freeOpenBrb (h : Account v q)
    (hledger : q'.ledger =
      { q.ledger with openBrb := (q.openBrb.free (q.profile ≠ v.stops)).clear })
    (hholdings : q.holdings v =
      { q'.holdings v' with openBrb := (q'.holdings v').openBrb + 1 }) : Account v' q' := by
  have hheld : (q.holdings v).openBrb = (q'.holdings v').openBrb + 1 :=
    congrArg (·.openBrb) hholdings
  have hprofile : q.profile = v.stops := h.profile (by omega)
  have hstops : (q.holdings v).stops = (q'.holdings v').stops := congrArg (·.stops) hholdings
  unfold Account at h ⊢
  rw [hholdings] at h
  rw [hledger]
  refine ⟨h.base, h.count, ?_, h.closeBrb, ?_, fun _ => hprofile.trans hstops⟩
  · have hsum := h.openBrb
    dsimp only at hsum
    exact (Nat.add_assoc _ 1 _).trans ((congrArg _ (Nat.add_comm 1 _)).trans hsum)
  · exact ⟨(q.openBrb.staleFrees_free hprofile).trans h.stale.1, h.stale.2⟩

theorem freeCloseBrb (h : Account v q)
    (hledger : q'.ledger =
      { q.ledger with closeBrb := (q.closeBrb.free (q.profile ≠ v.stops)).clear })
    (hholdings : q.holdings v =
      { q'.holdings v' with closeBrb := (q'.holdings v').closeBrb + 1 }) : Account v' q' := by
  have hheld : (q.holdings v).closeBrb = (q'.holdings v').closeBrb + 1 :=
    congrArg (·.closeBrb) hholdings
  have hprofile : q.profile = v.stops := h.profile (by omega)
  have hstops : (q.holdings v).stops = (q'.holdings v').stops := congrArg (·.stops) hholdings
  unfold Account at h ⊢
  rw [hholdings] at h
  rw [hledger]
  refine ⟨h.base, h.count, h.openBrb, ?_, ?_, fun _ => hprofile.trans hstops⟩
  · have hsum := h.closeBrb
    dsimp only at hsum
    exact (Nat.add_assoc _ 1 _).trans ((congrArg _ (Nat.add_comm 1 _)).trans hsum)
  · exact ⟨h.stale.1, (q.closeBrb.staleFrees_free hprofile).trans h.stale.2⟩

theorem stop (h : Account v q) (hnone : (q.holdings v).openBrb + (q.holdings v).closeBrb = 0)
    (hledger : q'.ledger = q.ledger)
    (hholdings : q'.holdings v' = { q.holdings v with stops := v'.stops }) : Account v' q' := by
  unfold Account
  rw [hledger, hholdings]
  exact ⟨h.base, h.count, h.openBrb, h.closeBrb, h.stale, fun hheld => absurd hnone hheld⟩

theorem addReference (h : Account v q) (hfreed : q.freed = false)
    (hcount : q.referenceCount ≠ 0xFFFFFFFF)
    (hledger : q'.ledger = { q.ledger with
      referenceCount := q.referenceCount + 1, stackReferences := q'.stackReferences })
    (hholdings : q'.holdings v' = { q.holdings v with canceled := v'.canceled })
    (hadded : q'.stackReferences + v'.canceled.toNat =
      q.stackReferences + v.canceled.toNat + 1) : Account v' q' := by
  unfold Account
  rw [hledger, hholdings]
  refine ⟨h.base, ?_, h.openBrb, h.closeBrb, h.stale, h.profile⟩
  have hsum := h.count
  rw [show q.ledger.freed = false from hfreed, if_neg Bool.false_ne_true] at hsum
  rw [show q.ledger.freed = false from hfreed, if_neg Bool.false_ne_true]
  dsimp only [Ledger.references] at hsum ⊢
  rw [toNat_add_one hcount]
  have hcanceled : (q.holdings v).canceled = v.canceled := rfl
  have hcount' : q.ledger.referenceCount = q.referenceCount := rfl
  have hstack : q.ledger.stackReferences = q.stackReferences := rfl
  rw [hcanceled, hcount', hstack] at hsum
  omega

theorem release_cases (h : Account v q) (hheld : q.ledger.references (q.holdings v) ≠ 0) :
    (q.ledger.references (q.holdings v) ≠ 1 ∧
      q.release v.stops = { q with referenceCount := q.referenceCount - 1 }) ∨
    (q.ledger.references (q.holdings v) = 1 ∧
      q.release v.stops =
        { q with
          referenceCount := q.referenceCount - 1
          openBrb := q.openBrb.freeHeld (q.profile ≠ v.stops)
          closeBrb := q.closeBrb.freeHeld (q.profile ≠ v.stops)
          freed := true }) := by
  have hcount := h.referenceCount hheld
  have hpos : q.referenceCount.toNat ≠ 0 := by rwa [hcount]
  have hsub := toNat_sub_one hpos
  unfold release
  by_cases hlast : q.referenceCount - 1 = 0
  · refine .inr ⟨?_, by simp only [hlast, ne_eq, not_true_eq_false, if_false]⟩
    rw [hlast, UInt32.toNat_zero] at hsub
    omega
  · refine .inl ⟨fun hone => hlast (UInt32.toNat_inj.mp ?_), by simp only [ne_eq, hlast,
      not_false_eq_true, if_true]⟩
    rw [hsub, hcount, hone, UInt32.toNat_zero]

theorem release (h : Account v q)
    (hclear : q.point = .clearOpenBrb → q.ledger.references (q.holdings v) ≠ 1)
    (hledger : q'.ledger = { (q.release v.stops).ledger with
      stackReferences := q'.stackReferences, baseReleases := q'.baseReleases })
    (hholdings : q'.holdings v' = { (q.release v.stops).holdings v with
      base := (q'.holdings v').base, canceled := v'.canceled })
    (hbase : (q'.holdings v').base + q'.baseReleases = (q.holdings v).base + q.baseReleases)
    (hreleased : q'.ledger.references (q'.holdings v') + 1 = q.ledger.references (q.holdings v)) :
    Account v' q' := by
  have hheld : q.ledger.references (q.holdings v) ≠ 0 := by omega
  have hcount := h.referenceCount hheld
  have hfreed := h.freed_eq_false hheld
  have hsub := toNat_sub_one (c := q.referenceCount) (by omega)
  generalize hb : (q'.holdings v').base = base at hholdings hbase
  unfold Account
  obtain ⟨hnotLast, hrelease⟩ | ⟨hlast, hrelease⟩ := h.release_cases hheld
  · rw [hrelease] at hledger hholdings
    refine ⟨?_, ?_, ?_, ?_, ?_, ?_⟩
    · rw [hb, hledger, hholdings]
      exact hbase.trans h.base
    · have hrest : q'.freed = false := (congrArg (·.freed) hledger).trans hfreed
      have hone : q'.referenceCount = q.referenceCount - 1 := congrArg (·.referenceCount) hledger
      rw [show q'.ledger.freed = false from hrest, if_neg Bool.false_ne_true,
        show q'.ledger.referenceCount = _ from hone]
      omega
    · rw [hledger, hholdings]
      exact h.openBrb
    · rw [hledger, hholdings]
      exact h.closeBrb
    · rw [hledger]
      exact h.stale
    · rw [hledger, hholdings]
      exact h.profile
  · have hclear : q.point ≠ .clearOpenBrb := fun hpoint => hclear hpoint hlast
    have hopenHeld : (q.holdings v).openBrb = q.openBrb.pointer.toNat := by
      simp [holdings, holds, hfreed, hclear]
    have hcloseHeld : (q.holdings v).closeBrb =
        q.closeBrb.pointer.toNat + q.workerHoldsCloseBrb.toNat + v.closeBrb.toNat := by
      simp [holdings, holds, hfreed]
    have hopenProfile : q.openBrb.pointer → q.profile = v.stops := fun hpointer =>
      h.profile (by rw [hopenHeld, hpointer, Bool.toNat_true]; omega)
    have hcloseProfile : q.closeBrb.pointer → q.profile = v.stops := fun hpointer =>
      h.profile (by rw [hcloseHeld, hpointer, Bool.toNat_true]; omega)
    rw [hrelease] at hledger hholdings
    have hopenLeft : (q'.holdings v').openBrb = 0 := by
      rw [hholdings]
      simp [holdings, holds]
    have hcloseLeft : (q'.holdings v').closeBrb =
        q.workerHoldsCloseBrb.toNat + v.closeBrb.toNat := by
      rw [hholdings]
      simp [holdings, holds,
        workerHoldsCloseBrb]
    refine ⟨?_, ?_, ?_, ?_, ?_, ?_⟩
    · rw [hb, hledger, hholdings]
      exact hbase.trans h.base
    · have hgone : q'.freed = true := congrArg (·.freed) hledger
      rw [show q'.ledger.freed = true from hgone, if_pos rfl]
      omega
    · have hsum : q.openBrb.frees + (q.holdings v).openBrb = q.openBrb.allocated.toNat := h.openBrb
      rw [hopenHeld] at hsum
      rw [hopenLeft, hledger]
      simpa [ledger, Brb.clear, Brb.frees_freeHeld] using hsum
    · have hsum : q.closeBrb.frees + (q.holdings v).closeBrb = q.closeBrb.allocated.toNat :=
        h.closeBrb
      rw [hcloseHeld] at hsum
      rw [hcloseLeft, hledger]
      simpa [ledger, Brb.clear, Brb.frees_freeHeld, Nat.add_assoc]
        using hsum
    · rw [hledger]
      exact ⟨(q.openBrb.staleFrees_freeHeld hopenProfile).trans h.stale.1,
        (q.closeBrb.staleFrees_freeHeld hcloseProfile).trans h.stale.2⟩
    · intro hleft
      rw [hopenLeft, hcloseLeft] at hleft
      rw [hledger, hholdings]
      exact h.profile (by rw [hcloseHeld]; omega)

end Account

end NativeLdac.DirectPdo
