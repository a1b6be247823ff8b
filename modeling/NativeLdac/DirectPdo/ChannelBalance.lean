/-
  The balance of the channels of a signaling owner: what was acquired, less what went back and
  what the remote side ended, is the one channel that is open, or none.
-/
import Mathlib.Algebra.Order.Group.Nat
import NativeLdac.DirectPdo.SignalingOwner

namespace NativeLdac.DirectPdo

open NldBthSignalingState NldBthSignalingAction NldBthSignalingOp NldBthSignalingAnswer

def acquiredChannels (ops : List NldBthSignalingOp) : Nat := ops.countP acquires

def submittedCloses (s : NldBthSignalingOwner) (ops : List NldBthSignalingOp) : Nat :=
  (signalingOwner.outputs s ops).countP closes

def remoteDisconnects (s : NldBthSignalingOwner) (ops : List NldBthSignalingOp) : Nat :=
  (signalingOwner.outputs s ops).countP loses

def openChannels (s : NldBthSignalingOwner) : Nat := if s.state = channelOpen then 1 else 0

/-- The channels that are neither closed nor ended. -/
def channelBalance (ops : List NldBthSignalingOp) : Int :=
  acquiredChannels ops - submittedCloses {} ops - remoteDisconnects {} ops

section
variable {s s' : NldBthSignalingOwner} {op : NldBthSignalingOp} {answer : NldBthSignalingAnswer}

theorem openChannels_rest (h : s.state ≠ channelOpen) : openChannels s = 0 := if_neg h

theorem openChannels_ends {state' : NldBthSignalingState} (h : s.Ends state') :
    openChannels { s.resetRequestFlags with state := state' } = 0 := by
  refine openChannels_rest ?_
  rcases h with ⟨rfl, -⟩ | ⟨rfl | rfl, -, -⟩ <;> simp

theorem balance_effect (htrue : op.Truthful) (he : SignalingEffect s op (answer, s')) :
    op.acquires.toNat + openChannels s =
      answer.closes.toNat + answer.loses.toNat + openChannels s' := by
  cases he with
  | refused hacquires hcloses hloses => simp [hacquires, hcloses, hloses]
  | handedBack => rfl
  | started hoffline => simp [openChannels, hoffline, acquires, closes, loses]
  | openSubmitted hclosed _ _ => simp [openChannels, hclosed, acquires, closes, loses]
  | @closeNoted b a _ ha =>
    have hstate : (s.noteClose b).state = s.state := by cases b <;> rfl
    simp [openChannels, hstate, acquires, closes, loses, ha]
  | closeSubmitted hopen _ => simp [openChannels, hopen, acquires, closes, loses]
  | closeSettled hrest =>
    have hbefore : openChannels s = 0 := by
      refine openChannels_rest ?_
      rcases hrest with hstate | hstate | hstate <;> simp [hstate]
    rw [hbefore, openChannels_rest]
    · rfl
    · show ite _ _ _ ≠ _
      split_ifs <;> simp
  | disconnected hopen _ _ => simp [openChannels, hopen, acquires, closes, loses]
  | opened hopening _ _ => simp [openChannels, hopening, acquires, closes, loses]
  | openedLate hopening => simp [openChannels, hopening, acquires, closes, loses]
  | @openFailed g succeeded acquired _ hopening hfailed hends =>
    have hnone : acquired = false :=
      Bool.eq_false_iff.mpr fun hacquired => hfailed ⟨htrue hacquired, hacquired⟩
    rw [openChannels_ends hends, openChannels_rest (by simp [hopening]), hnone]
    rfl
  | closeDone hclosing hends =>
    rw [openChannels_ends hends, openChannels_rest (by simp [hclosing])]
    rfl

theorem balance_after {ops : List NldBthSignalingOp} (h : ∀ op ∈ ops, op.Truthful)
    (s : NldBthSignalingOwner) :
    acquiredChannels ops + openChannels s =
      submittedCloses s ops + remoteDisconnects s ops +
        openChannels (signalingOwner.after s ops) := by
  induction ops generalizing s with
  | nil => simp [acquiredChannels, submittedCloses, remoteDisconnects, Reducer.outputs,
      Reducer.after]
  | cons op ops ih =>
    obtain ⟨hop, hops⟩ := List.forall_mem_cons.mp h
    have hstep : op.acquires.toNat + openChannels s =
        (signalingOwner.out s op).closes.toNat + (signalingOwner.out s op).loses.toNat +
          openChannels (signalingOwner.next s op) :=
      balance_effect hop (s.signaling_effect op)
    have hrest := ih hops (signalingOwner.next s op)
    have hone : ∀ b : Bool, (if b = true then 1 else 0) = b.toNat := by decide
    simp only [acquiredChannels, submittedCloses, remoteDisconnects, Reducer.outputs,
      Reducer.after_cons, List.countP_cons, hone] at hrest ⊢
    omega

end

/-- **Channels balance**: whatever the order of the operations, at most one channel is neither
    closed nor ended, and it is the one that is open. -/
theorem channel_balance {ops : List NldBthSignalingOp} (h : ∀ op ∈ ops, op.Truthful) :
    (channelBalance ops = 0 ∨ channelBalance ops = 1) ∧
      (channelBalance ops = 1 ↔ (signalingOwner.after {} ops).state = channelOpen) := by
  have hbalance := balance_after h {}
  have hnone : openChannels {} = 0 := rfl
  have heq : channelBalance ops = openChannels (signalingOwner.after {} ops) := by
    unfold channelBalance
    omega
  rw [heq]
  unfold openChannels
  split_ifs with hopen
  · exact ⟨.inr rfl, fun _ => hopen, fun _ => rfl⟩
  · exact ⟨.inl rfl, fun hone => absurd hone (by decide), fun hstate => absurd hstate hopen⟩

/-- A channel that arrives after its open was given up and another was asked for goes back,
    and the other one stays. -/
theorem channel_balance_late :
    channelBalance [pnpStart, requestOpen, requestClose true, openComplete 1 false false, pnpStart,
      requestOpen, openComplete 1 true true, openComplete 2 true true] = 1 :=
  (channel_balance (by decide)).2.mpr (by decide)

end NativeLdac.DirectPdo
