/-
  The owner of the context that Bluetooth indications refer to
  (`direct-pdo/src/nativeldac_bth_indication_contract.c`): the context is freed when its owner
  has let it go and the stack holds no reference to it, by whichever of the two comes last.
-/
import Mathlib.Algebra.Order.Group.Nat
import Mathlib.Tactic.SplitIfs
import NativeLdac.Lib.Reducer

namespace NativeLdac.DirectPdo

/-! ## The contract -/

inductive NldBthIndicationResult where
  | indicationIgnored | indicationAccepted | indicationReleaseOwner | indicationFreeContext
deriving DecidableEq, Repr

open NldBthIndicationResult

/-- `NLD_BTH_INDICATION_OWNER`, as `NldBthIndicationInitialize` leaves it. -/
structure NldBthIndicationOwner where
  generation : UInt32 := 0
  bthReferenceCount : UInt32 := 0
  ownerReferenceHeld : Bool := false
  armed : Bool := false
  teardownRequested : Bool := false
  remoteDisconnected : Bool := false
deriving DecidableEq, Repr

namespace NldBthIndicationOwner

variable (owner : NldBthIndicationOwner)

def maybeFree : NldBthIndicationResult :=
  if ¬ owner.ownerReferenceHeld ∧ owner.bthReferenceCount = 0 then indicationFreeContext
  else indicationAccepted

/-- `NldBthIndicationArm`: the generation, or zero if it is refused. -/
def arm : UInt32 × NldBthIndicationOwner :=
  if owner.ownerReferenceHeld ∨ owner.armed ∨ owner.bthReferenceCount ≠ 0 then (0, owner)
  else
    let next := owner.generation + 1
    let generation := if next = 0 then next + 1 else next
    (generation,
      { owner with
        generation := generation
        ownerReferenceHeld := true
        armed := true
        teardownRequested := false
        remoteDisconnected := false })

def addReference (generation : UInt32) : NldBthIndicationResult × NldBthIndicationOwner :=
  if generation ≠ owner.generation ∨ ¬ owner.armed ∨ owner.teardownRequested ∨
      ¬ owner.ownerReferenceHeld then (indicationIgnored, owner)
  else (indicationAccepted, { owner with bthReferenceCount := owner.bthReferenceCount + 1 })

def remoteDisconnect (generation : UInt32) : NldBthIndicationResult × NldBthIndicationOwner :=
  if generation ≠ owner.generation ∨ ¬ owner.armed ∨ owner.teardownRequested then
    (indicationIgnored, owner)
  else (indicationAccepted, { owner with remoteDisconnected := true, armed := false })

def beginTeardown (generation : UInt32) : NldBthIndicationResult × NldBthIndicationOwner :=
  if generation ≠ owner.generation ∨ ¬ owner.ownerReferenceHeld then (indicationIgnored, owner)
  else
    (if owner.bthReferenceCount = 0 then indicationFreeContext else indicationReleaseOwner,
      { owner with armed := false, teardownRequested := true, ownerReferenceHeld := false })

def releaseReference (generation : UInt32) : NldBthIndicationResult × NldBthIndicationOwner :=
  if generation ≠ owner.generation ∨ owner.bthReferenceCount = 0 then (indicationIgnored, owner)
  else
    let owner := { owner with bthReferenceCount := owner.bthReferenceCount - 1 }
    (owner.maybeFree, owner)

end NldBthIndicationOwner

inductive NldBthIndicationOp where
  | arm
  | addReference (generation : UInt32)
  | remoteDisconnect (generation : UInt32)
  | beginTeardown (generation : UInt32)
  | releaseReference (generation : UInt32)
deriving DecidableEq, Repr

inductive NldBthIndicationAnswer where
  | armedWith (generation : UInt32)
  | result (result : NldBthIndicationResult)
deriving DecidableEq, Repr

open NldBthIndicationAnswer

def indicationOwner :
    Reducer NldBthIndicationOwner NldBthIndicationOp NldBthIndicationAnswer where
  step owner
    | .arm => owner.arm.map armedWith id
    | .addReference generation => (owner.addReference generation).map result id
    | .remoteDisconnect generation => (owner.remoteDisconnect generation).map result id
    | .beginTeardown generation => (owner.beginTeardown generation).map result id
    | .releaseReference generation => (owner.releaseReference generation).map result id

def NldBthIndicationOp.isAdd : NldBthIndicationOp → Bool
  | .addReference _ => true
  | _ => false

def NldBthIndicationOp.isDrop : NldBthIndicationOp → Bool
  | .releaseReference _ => true
  | _ => false

open NldBthIndicationOp (isAdd isDrop)
namespace NldBthIndicationOwner

/-- An arm is accepted: its generation is not zero. -/
def arms (owner : NldBthIndicationOwner) (op : NldBthIndicationOp) : Bool :=
  op = .arm ∧ indicationOwner.out owner op ≠ armedWith 0

def frees (owner : NldBthIndicationOwner) (op : NldBthIndicationOp) : Bool :=
  indicationOwner.out owner op = result indicationFreeContext

/-- The stack takes a reference. -/
def adds (owner : NldBthIndicationOwner) (op : NldBthIndicationOp) : Bool :=
  op.isAdd ∧ indicationOwner.out owner op ≠ result indicationIgnored

/-- The stack gives a reference back. -/
def drops (owner : NldBthIndicationOwner) (op : NldBthIndicationOp) : Bool :=
  op.isDrop ∧ indicationOwner.out owner op ≠ result indicationIgnored

/-- The context is referred to, by its owner or by the stack. -/
def live (owner : NldBthIndicationOwner) : Bool :=
  owner.ownerReferenceHeld ∨ owner.bthReferenceCount ≠ 0

/-- A context is freed once for each arm, by the event after which neither its owner nor the
    stack refers to it; after that nothing is accepted until it is armed again. -/
structure FreedOnce (ops : List NldBthIndicationOp) : Prop where
  /-- The contexts that were armed are those that were freed, and the one that is live. -/
  once : indicationOwner.count arms {} ops =
    indicationOwner.count frees {} ops + (indicationOwner.after {} ops).live.toNat
  /-- The event that frees is the one that leaves no reference. -/
  exactly : ∀ op,
    let owner := indicationOwner.after {} ops
    let owner' := indicationOwner.next owner op
    owner.frees op ↔
      owner.live ∧ owner'.ownerReferenceHeld = false ∧ owner'.bthReferenceCount = 0
  /-- Once freed, the context is left alone until it is armed. -/
  after : ∀ before op between, ops = before ++ op :: between →
    (indicationOwner.after {} before).frees op → .arm ∉ between →
    ∀ op', op' ≠ .arm →
      indicationOwner.out (indicationOwner.after {} ops) op' = result indicationIgnored ∧
        indicationOwner.next (indicationOwner.after {} ops) op' = indicationOwner.after {} ops
  /-- The count is that of the references that the stack has taken and not given back. -/
  counted : ∃ wraps, indicationOwner.count adds {} ops =
    indicationOwner.count drops {} ops + (indicationOwner.after {} ops).bthReferenceCount.toNat +
      2 ^ 32 * wraps

end NldBthIndicationOwner

/-! ## What an operation does -/

/-- What an operation can do to the context. -/
inductive IndicationEffect (s : NldBthIndicationOwner) :
    NldBthIndicationOp → NldBthIndicationAnswer × NldBthIndicationOwner → Prop
  | ignored {op} : op ≠ .arm → IndicationEffect s op (result indicationIgnored, s)
  | refused : s.live = true → IndicationEffect s .arm (armedWith 0, s)
  | armed {g} : s.live = false → g ≠ 0 →
      IndicationEffect s .arm (armedWith g,
        { s with
          generation := g
          ownerReferenceHeld := true
          armed := true
          teardownRequested := false
          remoteDisconnected := false })
  | added {g} : s.ownerReferenceHeld →
      IndicationEffect s (.addReference g) (result indicationAccepted,
        { s with bthReferenceCount := s.bthReferenceCount + 1 })
  | disconnected {g} : s.ownerReferenceHeld →
      IndicationEffect s (.remoteDisconnect g) (result indicationAccepted,
        { s with remoteDisconnected := true, armed := false })
  | tornDown {g} : s.ownerReferenceHeld →
      IndicationEffect s (.beginTeardown g)
        (result (if s.bthReferenceCount = 0 then indicationFreeContext else indicationReleaseOwner),
          { s with armed := false, teardownRequested := true, ownerReferenceHeld := false })
  | dropped {g} : s.bthReferenceCount ≠ 0 →
      IndicationEffect s (.releaseReference g)
        (result (NldBthIndicationOwner.maybeFree
          { s with bthReferenceCount := s.bthReferenceCount - 1 }),
          { s with bthReferenceCount := s.bthReferenceCount - 1 })

namespace NldBthIndicationOwner

theorem indication_effect {s : NldBthIndicationOwner} (h : s.armed → s.ownerReferenceHeld)
    (op : NldBthIndicationOp) : IndicationEffect s op (indicationOwner.step s op) := by
  cases op with
  | arm =>
    simp only [indicationOwner, arm]
    by_cases hrefused : s.ownerReferenceHeld = true ∨ s.armed = true ∨ s.bthReferenceCount ≠ 0
    · rw [if_pos hrefused]
      refine .refused (decide_eq_true ?_)
      rcases hrefused with hheld | harmed | hcount
      · exact .inl hheld
      · exact .inl (h harmed)
      · exact .inr hcount
    · rw [if_neg hrefused]
      rw [not_or, not_or] at hrefused
      have hlive : s.live = false :=
        decide_eq_false fun hlive => hlive.elim hrefused.1 hrefused.2.2
      refine .armed hlive ?_
      split_ifs with hzero
      · rw [hzero]
        decide
      · exact hzero
  | addReference generation =>
    simp only [indicationOwner, addReference]
    split_ifs with hrefused
    · exact .ignored nofun
    · simp only [not_or, not_not] at hrefused
      exact .added hrefused.2.2.2
  | remoteDisconnect generation =>
    simp only [indicationOwner, remoteDisconnect]
    split_ifs with hrefused
    · exact .ignored nofun
    · simp only [not_or, not_not] at hrefused
      exact .disconnected (h hrefused.2.1)
  | beginTeardown generation =>
    simp only [indicationOwner, beginTeardown]
    by_cases hrefused : generation ≠ s.generation ∨ ¬ s.ownerReferenceHeld = true
    · rw [if_pos hrefused]
      exact .ignored nofun
    · rw [if_neg hrefused]
      rw [not_or, not_not, not_not] at hrefused
      exact .tornDown hrefused.2
  | releaseReference generation =>
    simp only [indicationOwner, releaseReference]
    by_cases hrefused : generation ≠ s.generation ∨ s.bthReferenceCount = 0
    · rw [if_pos hrefused]
      exact .ignored nofun
    · rw [if_neg hrefused]
      exact .dropped fun hzero => hrefused (.inr hzero)

variable {s s' : NldBthIndicationOwner} {op : NldBthIndicationOp}
  {answer : NldBthIndicationAnswer}

theorem held_effect (h : s.armed → s.ownerReferenceHeld)
    (he : IndicationEffect s op (answer, s')) : s'.armed → s'.ownerReferenceHeld := by
  cases he with
  | ignored _ => exact h
  | refused _ => exact h
  | armed _ _ => exact fun _ => rfl
  | added _ => exact h
  | disconnected _ => nofun
  | tornDown _ => nofun
  | dropped _ => exact h

theorem held_after (ops : List NldBthIndicationOp) :
    (indicationOwner.after {} ops).armed → (indicationOwner.after {} ops).ownerReferenceHeld :=
  Reducer.after_inv (P := fun s : NldBthIndicationOwner => s.armed → s.ownerReferenceHeld)
    (Q := fun _ _ => True) (fun _ op h _ => held_effect h (indication_effect h op)) nofun
    (Reducer.along_of_forall (fun _ _ => trivial) ({} : NldBthIndicationOwner) ops)

theorem live_eq_false : s.live = false ↔ s.ownerReferenceHeld = false ∧ s.bthReferenceCount = 0 := by
  simp [live]

theorem count_add_one (count : UInt32) : ∃ wraps,
    count.toNat + 1 = (count + 1).toNat + 2 ^ 32 * wraps := by
  refine ⟨(count.toNat + 1) / 2 ^ 32, ?_⟩
  rw [UInt32.toNat_add]
  exact (Nat.mod_add_div _ _).symm

theorem count_sub_one {count : UInt32} (h : count ≠ 0) : count.toNat = (count - 1).toNat + 1 := by
  have hpos : count.toNat ≠ 0 := fun hzero => h (UInt32.toNat_inj.mp hzero)
  have hlt := count.toNat_lt
  rw [UInt32.toNat_sub]
  simp only [UInt32.toNat_one]
  omega

theorem frees_effect (he : IndicationEffect s op (answer, s')) :
    answer = result indicationFreeContext ↔
      s.live = true ∧ s'.ownerReferenceHeld = false ∧ s'.bthReferenceCount = 0 := by
  cases he with
  | ignored _ => exact iff_of_false nofun fun h => by simp [live_eq_false.mpr h.2] at h
  | refused _ => exact iff_of_false nofun fun h => by simp [live_eq_false.mpr h.2] at h
  | armed hlive _ => simp
  | added hheld => simp [hheld]
  | disconnected hheld => simp [hheld]
  | tornDown hheld => simp [live, hheld]
  | dropped hcount => simp [live, hcount, maybeFree]

theorem balance_effect (he : IndicationEffect s op (answer, s')) :
    (decide (op = .arm ∧ answer ≠ armedWith 0)).toNat + s.live.toNat =
      (decide (answer = result indicationFreeContext)).toNat + s'.live.toNat := by
  cases he with
  | ignored hop => simp [hop]
  | refused _ => simp
  | armed hlive hzero => simp [live_eq_false.mp hlive, hzero, live]
  | added hheld => simp [live, hheld]
  | disconnected hheld => simp [live, hheld]
  | tornDown hheld =>
    by_cases hcount : s.bthReferenceCount = 0 <;> simp [live, hheld, hcount]
  | dropped hcount =>
    cases hheld : s.ownerReferenceHeld <;> by_cases hone : s.bthReferenceCount - 1 = 0 <;>
      simp [live, maybeFree, hheld, hone, hcount]

theorem dead_effect (he : IndicationEffect s op (answer, s')) (hlive : s.live = false)
    (hop : op ≠ .arm) : answer = result indicationIgnored ∧ s' = s := by
  obtain ⟨hheld, hcount⟩ := live_eq_false.mp hlive
  have hnot : ¬ s.ownerReferenceHeld = true := Bool.eq_false_iff.mp hheld
  cases he with
  | ignored _ => exact ⟨rfl, rfl⟩
  | refused _ => exact absurd rfl hop
  | armed _ _ => exact absurd rfl hop
  | added hheld => exact absurd hheld hnot
  | disconnected hheld => exact absurd hheld hnot
  | tornDown hheld => exact absurd hheld hnot
  | dropped hsome => exact absurd hcount hsome

theorem counted_effect (he : IndicationEffect s op (answer, s')) : ∃ wraps,
    (decide (op.isAdd ∧ answer ≠ result indicationIgnored)).toNat + s.bthReferenceCount.toNat =
      (decide (op.isDrop ∧ answer ≠ result indicationIgnored)).toNat +
        s'.bthReferenceCount.toNat + 2 ^ 32 * wraps := by
  cases he with
  | ignored _ => exact ⟨0, by simp⟩
  | refused _ => exact ⟨0, rfl⟩
  | armed _ _ => exact ⟨0, rfl⟩
  | added _ =>
    obtain ⟨wraps, hwraps⟩ := count_add_one s.bthReferenceCount
    exact ⟨wraps, by simpa [isAdd, isDrop, add_comm]
      using hwraps⟩
  | disconnected _ => exact ⟨0, rfl⟩
  | tornDown _ => exact ⟨0, by simp [isAdd, isDrop]⟩
  | dropped hcount =>
    have hone := count_sub_one hcount
    have hanswer : maybeFree { s with bthReferenceCount := s.bthReferenceCount - 1 } ≠
        indicationIgnored := by
      unfold maybeFree
      split_ifs <;> nofun
    exact ⟨0, by simp [isAdd, isDrop, hanswer, hone,
      add_comm]⟩

theorem counted_after (h : s.armed → s.ownerReferenceHeld) (ops : List NldBthIndicationOp) :
    ∃ wraps, indicationOwner.count adds s ops + s.bthReferenceCount.toNat =
      indicationOwner.count drops s ops +
        (indicationOwner.after s ops).bthReferenceCount.toNat + 2 ^ 32 * wraps := by
  induction ops generalizing s with
  | nil => exact ⟨0, rfl⟩
  | cons op ops ih =>
    obtain ⟨first, hfirst⟩ := counted_effect (indication_effect h op)
    obtain ⟨rest, hrest⟩ := ih (held_effect h (indication_effect h op))
    refine ⟨first + rest, ?_⟩
    have hfirst : (s.adds op).toNat + s.bthReferenceCount.toNat = (s.drops op).toNat +
        (indicationOwner.next s op).bthReferenceCount.toNat + 2 ^ 32 * first := hfirst
    have hrest : indicationOwner.count adds (indicationOwner.next s op) ops +
        (indicationOwner.next s op).bthReferenceCount.toNat =
      indicationOwner.count drops (indicationOwner.next s op) ops +
        (indicationOwner.after (indicationOwner.next s op) ops).bthReferenceCount.toNat +
          2 ^ 32 * rest := hrest
    simp only [Reducer.count, Reducer.after_cons]
    omega

/-- **A context is freed once**, whatever the order of the events. -/
theorem context_freed_once (ops : List NldBthIndicationOp) : FreedOnce ops where
  once := by
    have hheld : ({} : NldBthIndicationOwner).armed →
        ({} : NldBthIndicationOwner).ownerReferenceHeld := nofun
    have hbalance := Reducer.count_balance (M := indicationOwner)
      (P := fun s : NldBthIndicationOwner => s.armed → s.ownerReferenceHeld)
      (Q := fun _ _ => True) (p := arms) (q := frees) (f := fun s => s.live.toNat)
      (fun _ op h _ => held_effect h (indication_effect h op))
      (fun _ op h _ => balance_effect (indication_effect h op)) hheld
      (Reducer.along_of_forall (fun _ _ => trivial) _ ops)
    exact hbalance
  exactly op := by
    have heffect := frees_effect (indication_effect (held_after ops) op)
    exact decide_eq_true_iff.trans heffect
  after := by
    rintro before op between rfl hfrees hbetween
    have hfreed := (frees_effect (indication_effect (held_after before) op)).mp
      (of_decide_eq_true hfrees)
    have hothers : ∀ op ∈ between, op ≠ .arm := fun op hmem harm => hbetween (harm ▸ hmem)
    have hdead := Reducer.after_inv
      (P := fun s => (s.armed → s.ownerReferenceHeld) ∧ s.live = false)
      (Q := fun _ op => op ≠ .arm) (M := indicationOwner) (fun s op hs hop => ?_)
      ⟨held_effect (held_after before) (indication_effect (held_after before) op),
        live_eq_false.mpr hfreed.2⟩
      (Reducer.along_of_mem hothers _)
    · intro op' hop'
      have hafter : indicationOwner.after {} (before ++ op :: between) =
          indicationOwner.after (indicationOwner.next (indicationOwner.after {} before) op)
            between := Reducer.after_append _ _ _
      rw [hafter]
      exact dead_effect (indication_effect hdead.1 op') hdead.2 hop'
    · have hsame : indicationOwner.next s op = s :=
        (dead_effect (indication_effect hs.1 op) hs.2 hop).2
      rw [hsame]
      exact hs
  counted := by
    obtain ⟨wraps, hcounted⟩ := counted_after (s := {}) nofun ops
    exact ⟨wraps, hcounted⟩

end NldBthIndicationOwner

end NativeLdac.DirectPdo
