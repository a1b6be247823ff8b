/-
  The owner of the transfers of a Bluetooth channel
  (`direct-pdo/src/nativeldac_bth_transfer_contract.c`): one read and one write at most are
  outstanding; a close drains them before the channel can be opened again.

  * `NldBthTransferOwner` and its operations, `transferOwner` the machine they make;
  * `TransferEffect` says what one operation can do.
-/
import Mathlib.Algebra.Order.Group.Nat
import Mathlib.Tactic.SplitIfs
import NativeLdac.Lib.Reducer

namespace NativeLdac.DirectPdo

/-! ## The contract -/

inductive NldBthTransferDirection where
  | transferRead | transferWrite
deriving DecidableEq, Repr

inductive NldBthTransferResult where
  | transferOk | transferDisconnected | transferBusy | transferStale | transferDrained
deriving DecidableEq, Repr

open NldBthTransferDirection NldBthTransferResult

/-- `NLD_BTH_TRANSFER_OWNER`, as `NldBthTransferInitialize` leaves it. -/
structure NldBthTransferOwner where
  channelGeneration : UInt32 := 0
  nextRequestGeneration : UInt32 := 0
  readGeneration : UInt32 := 0
  writeGeneration : UInt32 := 0
  channelOpen : Bool := false
  closing : Bool := false
  readPending : Bool := false
  writePending : Bool := false
  remoteDisconnected : Bool := false
deriving DecidableEq, Repr

def transferNextNonzero (value : UInt32) : UInt32 :=
  if value + 1 = 0 then 1 else value + 1

namespace NldBthTransferOwner

variable (owner : NldBthTransferOwner)

/-- `NldBthTransferOpenChannel`: the generation of the channel, or zero if it is refused. -/
def openChannel : UInt32 × NldBthTransferOwner :=
  if owner.channelOpen ∨ owner.closing ∨ owner.readPending ∨ owner.writePending then (0, owner)
  else
    let generation := transferNextNonzero owner.channelGeneration
    (generation,
      { owner with
        channelGeneration := generation, channelOpen := true, remoteDisconnected := false })

/-- Whether a transfer of a direction is outstanding. -/
def pending : NldBthTransferDirection → Bool
  | transferRead => owner.readPending
  | transferWrite => owner.writePending

/-- The generation of the transfer of a direction that is outstanding. -/
def requestGeneration : NldBthTransferDirection → UInt32
  | transferRead => owner.readGeneration
  | transferWrite => owner.writeGeneration

def setPending (pending : Bool) (generation : UInt32) :
    NldBthTransferDirection → NldBthTransferOwner
  | transferRead => { owner with readPending := pending, readGeneration := generation }
  | transferWrite => { owner with writePending := pending, writeGeneration := generation }

/-- `NldBthTransferBegin`: the result, and the generations of the channel and of the request. -/
def beginTransfer (direction : NldBthTransferDirection) :
    (NldBthTransferResult × UInt32 × UInt32) × NldBthTransferOwner :=
  if ¬ owner.channelOpen ∨ owner.closing then ((transferDisconnected, 0, 0), owner)
  else if owner.pending direction then ((transferBusy, 0, 0), owner)
  else
    let generation := transferNextNonzero owner.nextRequestGeneration
    let owner := { owner with nextRequestGeneration := generation }
    ((transferOk, owner.channelGeneration, generation),
      owner.setPending true generation direction)

/-- `NldBthTransferRequestClose`: the directions to cancel. -/
def requestClose (remoteDisconnect : Bool) : UInt32 × NldBthTransferOwner :=
  let owner := { owner with channelOpen := false, closing := true }
  let owner := if remoteDisconnect then { owner with remoteDisconnected := true } else owner
  ((if owner.readPending then 1 else 0) ||| (if owner.writePending then 2 else 0), owner)

def complete (direction : NldBthTransferDirection) (channelGeneration requestGeneration : UInt32) :
    NldBthTransferResult × NldBthTransferOwner :=
  if channelGeneration ≠ owner.channelGeneration then (transferStale, owner)
  else if ¬ owner.pending direction ∨ requestGeneration ≠ owner.requestGeneration direction then
    (transferStale, owner)
  else
    let owner := owner.setPending false 0 direction
    (if owner.closing ∧ ¬ owner.readPending ∧ ¬ owner.writePending then transferDrained
      else transferOk, owner)

def finishClose : NldBthTransferResult × NldBthTransferOwner :=
  if ¬ owner.closing ∨ owner.readPending ∨ owner.writePending then (transferBusy, owner)
  else (transferOk, { owner with closing := false })

def outstanding : Bool := owner.readPending ∨ owner.writePending

end NldBthTransferOwner

inductive NldBthTransferOp where
  | openChannel
  | beginTransfer (direction : NldBthTransferDirection)
  | requestClose (remoteDisconnect : Bool)
  | complete (direction : NldBthTransferDirection) (channelGeneration requestGeneration : UInt32)
  | finishClose
deriving DecidableEq, Repr

inductive NldBthTransferAnswer where
  | opened (generation : UInt32)
  | begun (result : NldBthTransferResult) (channelGeneration requestGeneration : UInt32)
  | cancels (mask : UInt32)
  | completed (result : NldBthTransferResult)
  | finished (result : NldBthTransferResult)
deriving DecidableEq, Repr

open NldBthTransferAnswer

def transferOwner : Reducer NldBthTransferOwner NldBthTransferOp NldBthTransferAnswer where
  step owner
    | .openChannel => owner.openChannel.map opened id
    | .beginTransfer direction =>
      (owner.beginTransfer direction).map (fun taken => begun taken.1 taken.2.1 taken.2.2) id
    | .requestClose remoteDisconnect => (owner.requestClose remoteDisconnect).map cancels id
    | .complete direction channelGeneration requestGeneration =>
      (owner.complete direction channelGeneration requestGeneration).map completed id
    | .finishClose => owner.finishClose.map finished id

/-! ## What an operation does -/

/-- An operation that was refused: no channel is opened, no transfer begun or completed, and no
    close finished. -/
def NldBthTransferAnswer.refuses : NldBthTransferAnswer → Bool
  | opened generation => generation = 0
  | begun result _ _ => result ≠ transferOk
  | cancels _ => false
  | completed result => result = transferStale
  | finished result => result ≠ transferOk

inductive TransferEffect (s : NldBthTransferOwner) :
    NldBthTransferOp → NldBthTransferAnswer × NldBthTransferOwner → Prop
  | refused {op answer} : answer.refuses = true → (∀ remote, op ≠ .requestClose remote) →
      TransferEffect s op (answer, s)
  | opened {g} : s.channelOpen = false → s.closing = false → s.outstanding = false → g ≠ 0 →
      TransferEffect s .openChannel (opened g,
        { s with channelGeneration := g, channelOpen := true, remoteDisconnected := false })
  | begun {d g} : s.channelOpen → s.closing = false → s.pending d = false →
      TransferEffect s (.beginTransfer d) (begun transferOk s.channelGeneration g,
        NldBthTransferOwner.setPending { s with nextRequestGeneration := g } true g d)
  | closeRequested {remote mask b} :
      TransferEffect s (.requestClose remote) (cancels mask,
        { s with channelOpen := false, closing := true, remoteDisconnected := b })
  | completed {d} : s.pending d →
      TransferEffect s (.complete d s.channelGeneration (s.requestGeneration d))
        (completed (if s.closing ∧ (s.setPending false 0 d).outstanding = false then
          transferDrained else transferOk), s.setPending false 0 d)
  | finished : s.closing → s.outstanding = false →
      TransferEffect s .finishClose (finished transferOk, { s with closing := false })

namespace NldBthTransferOwner

theorem transferNextNonzero_ne_zero (value : UInt32) : transferNextNonzero value ≠ 0 := by
  unfold transferNextNonzero
  split_ifs with hzero
  · decide
  · exact hzero

theorem outstanding_eq_false {s : NldBthTransferOwner} :
    s.outstanding = false ↔ ¬ s.readPending = true ∧ ¬ s.writePending = true := by
  simp [outstanding]

theorem transfer_effect (s : NldBthTransferOwner) (op : NldBthTransferOp) :
    TransferEffect s op (transferOwner.step s op) := by
  cases op with
  | openChannel =>
    simp only [transferOwner, openChannel]
    by_cases hrefused : s.channelOpen = true ∨ s.closing = true ∨ s.readPending = true ∨
        s.writePending = true
    · rw [if_pos hrefused]
      exact .refused rfl nofun
    · rw [if_neg hrefused]
      simp only [not_or] at hrefused
      exact .opened (Bool.eq_false_iff.mpr hrefused.1) (Bool.eq_false_iff.mpr hrefused.2.1)
        (outstanding_eq_false.mpr hrefused.2.2) (transferNextNonzero_ne_zero _)
  | beginTransfer direction =>
    simp only [transferOwner, beginTransfer]
    by_cases hclosed : ¬ s.channelOpen = true ∨ s.closing = true
    · rw [if_pos hclosed]
      exact .refused rfl nofun
    rw [if_neg hclosed]
    by_cases hbusy : s.pending direction = true
    · rw [if_pos hbusy]
      exact .refused rfl nofun
    rw [if_neg hbusy]
    rw [not_or, not_not] at hclosed
    exact .begun hclosed.1 (Bool.eq_false_iff.mpr hclosed.2) (Bool.eq_false_iff.mpr hbusy)
  | requestClose remote =>
    simp only [transferOwner, requestClose]
    cases remote with
    | false => exact .closeRequested
    | true => exact .closeRequested
  | complete direction channel request =>
    simp only [transferOwner, complete]
    by_cases hchannel : channel ≠ s.channelGeneration
    · rw [if_pos hchannel]
      exact .refused rfl nofun
    rw [if_neg hchannel]
    by_cases hstale : ¬ s.pending direction = true ∨ request ≠ s.requestGeneration direction
    · rw [if_pos hstale]
      exact .refused rfl nofun
    rw [if_neg hstale]
    rw [not_or, not_not, not_not] at hstale
    rw [not_not] at hchannel
    obtain ⟨hpending, rfl⟩ := hstale
    subst hchannel
    have hcompleted := TransferEffect.completed hpending
    have hclosing : (s.setPending false 0 direction).closing = s.closing := by
      cases direction <;> rfl
    simp only [outstanding_eq_false, ← hclosing] at hcompleted
    exact hcompleted
  | finishClose =>
    simp only [transferOwner, finishClose]
    split_ifs with hrefused
    · exact .refused rfl nofun
    · rw [not_or, not_or, not_not] at hrefused
      exact .finished hrefused.1 (outstanding_eq_false.mpr hrefused.2)

/-! ## Runs -/

def begins (d : NldBthTransferDirection) (s : NldBthTransferOwner) (op : NldBthTransferOp) : Bool :=
  op = .beginTransfer d ∧ (transferOwner.out s op).refuses = false

def completes (d : NldBthTransferDirection) (s : NldBthTransferOwner) : NldBthTransferOp → Bool
  | .complete d' c g => d' = d ∧ (transferOwner.out s (.complete d' c g)).refuses = false
  | _ => false

/-- A close is asked for while a transfer is outstanding, and none was asked for before. -/
def asksToDrain (s : NldBthTransferOwner) : NldBthTransferOp → Bool
  | .requestClose _ => ¬ s.closing ∧ s.outstanding
  | _ => false

def drains (s : NldBthTransferOwner) (op : NldBthTransferOp) : Bool :=
  transferOwner.out s op = completed transferDrained

def finishes (s : NldBthTransferOwner) (op : NldBthTransferOp) : Bool :=
  op = .finishClose ∧ (transferOwner.out s op).refuses = false

/-- A close waits for its transfers. -/
def draining (s : NldBthTransferOwner) : Bool := s.closing ∧ s.outstanding

/-- From a close on, the channel is opened again only after the `last` step of the close. -/
def ReopensAfter (last : NldBthTransferOwner → NldBthTransferOp → Bool)
    (waits : NldBthTransferOwner → Bool) (ops : List NldBthTransferOp) : Prop :=
  ∀ before remote between, ops = before ++ .requestClose remote :: between →
    waits (transferOwner.after {} before) →
    transferOwner.Along (fun s op => last s op = false)
      (transferOwner.next (transferOwner.after {} before) (.requestClose remote)) between →
    transferOwner.step (transferOwner.after {} ops) .openChannel =
      (opened 0, transferOwner.after {} ops)

/-- The token of the transfer of the direction that is outstanding. -/
def HoldsToken (s : NldBthTransferOwner) (d : NldBthTransferDirection)
    (channel request : UInt32) : Prop :=
  s.pending d ∧ s.channelGeneration = channel ∧ s.requestGeneration d = request

/-- What holds of a run of the transfers. -/
structure TransfersDrain (ops : List NldBthTransferOp) : Prop where
  /-- The transfers that have begun are those that have completed, and the outstanding one. -/
  once : ∀ d, transferOwner.count (begins d) {} ops =
    transferOwner.count (completes d) {} ops + ((transferOwner.after {} ops).pending d).toNat
  /-- The token that a transfer begins with is that of the outstanding one until it completes. -/
  token : ∀ before d between channel request, ops = before ++ .beginTransfer d :: between →
    transferOwner.out (transferOwner.after {} before) (.beginTransfer d) =
      begun transferOk channel request →
    transferOwner.Along (fun s op => completes d s op = false)
      (transferOwner.next (transferOwner.after {} before) (.beginTransfer d)) between →
    (transferOwner.after {} ops).HoldsToken d channel request
  /-- A completion with any other token changes nothing. -/
  stale : ∀ d channel request, ¬ (transferOwner.after {} ops).HoldsToken d channel request →
    transferOwner.step (transferOwner.after {} ops) (.complete d channel request) =
      (completed transferStale, transferOwner.after {} ops)
  /-- The closes that found a transfer outstanding are those that were reported drained, and
      the one that waits. -/
  drained : transferOwner.count asksToDrain {} ops =
    transferOwner.count drains {} ops + (transferOwner.after {} ops).draining.toNat
  /-- The transfers are reported drained when none is outstanding. -/
  empty : ∀ op, (transferOwner.after {} ops).drains op →
    (transferOwner.next (transferOwner.after {} ops) op).closing ∧
      (transferOwner.next (transferOwner.after {} ops) op).outstanding = false
  /-- A close is finished when none is outstanding. -/
  finished : ∀ op, (transferOwner.after {} ops).finishes op →
    (transferOwner.after {} ops).outstanding = false
  /-- The channel is opened again only after the close is finished, and after its transfers
      are drained where any was outstanding. -/
  reopened : ReopensAfter finishes (fun _ => true) ops ∧ ReopensAfter drains outstanding ops

variable {s s' : NldBthTransferOwner} {op : NldBthTransferOp} {answer : NldBthTransferAnswer}

@[simp] theorem setPending_pending (s : NldBthTransferOwner) (pending : Bool) (g : UInt32)
    (d d' : NldBthTransferDirection) :
    (s.setPending pending g d).pending d' = if d' = d then pending else s.pending d' := by
  cases d <;> cases d' <;> rfl

@[simp] theorem setPending_requestGeneration (s : NldBthTransferOwner) (pending : Bool)
    (g : UInt32) (d d' : NldBthTransferDirection) :
    (s.setPending pending g d).requestGeneration d' =
      if d' = d then g else s.requestGeneration d' := by
  cases d <;> cases d' <;> rfl

@[simp] theorem setPending_channelGeneration (s : NldBthTransferOwner) (pending : Bool)
    (g : UInt32) (d : NldBthTransferDirection) :
    (s.setPending pending g d).channelGeneration = s.channelGeneration := by
  cases d <;> rfl

@[simp] theorem setPending_closing (s : NldBthTransferOwner) (pending : Bool) (g : UInt32)
    (d : NldBthTransferDirection) : (s.setPending pending g d).closing = s.closing := by
  cases d <;> rfl

theorem outstanding_of_pending {d : NldBthTransferDirection} (h : s.pending d) :
    s.outstanding = true := by
  cases d with
  | transferRead => exact decide_eq_true (.inl h)
  | transferWrite => exact decide_eq_true (.inr h)

theorem pending_of_outstanding (h : s.outstanding = false) (d : NldBthTransferDirection) :
    s.pending d = false :=
  Bool.eq_false_iff.mpr fun hpending => by simp [outstanding_of_pending hpending] at h

/-- The answer of an operation that completes a transfer of the direction. -/
def completesWith (d : NldBthTransferDirection) (answer : NldBthTransferAnswer) :
    NldBthTransferOp → Bool
  | .complete d' _ _ => d' = d ∧ answer.refuses = false
  | _ => false

theorem pending_effect (d : NldBthTransferDirection) (he : TransferEffect s op (answer, s')) :
    (decide (op = .beginTransfer d ∧ answer.refuses = false)).toNat + (s.pending d).toNat =
      (completesWith d answer op).toNat + (s'.pending d).toNat := by
  cases he with
  | refused hrefuses _ => cases op <;> simp [hrefuses, completesWith]
  | opened _ _ _ _ => cases d <;> simp [completesWith, pending]
  | @begun d' g _ _ hpending =>
    by_cases hd : d' = d
    · subst hd
      simp [completesWith, NldBthTransferAnswer.refuses, hpending]
    · have hd' : ¬ d = d' := fun h => hd h.symm
      have hsame : pending { s with nextRequestGeneration := g } d = s.pending d := by
        cases d <;> rfl
      simp [completesWith, hd, hd', hsame]
  | closeRequested => cases d <;> simp [completesWith, pending]
  | @completed d' hpending =>
    have hdone : (completed (if s.closing = true ∧ (s.setPending false 0 d').outstanding = false
        then transferDrained else transferOk)).refuses = false := by
      split_ifs <;> rfl
    by_cases hd : d' = d
    · subst hd
      simp [completesWith, hdone, hpending]
    · have hd' : ¬ d = d' := fun h => hd h.symm
      simp [completesWith, hd, hd']
  | finished _ _ => cases d <;> simp [completesWith, pending]

theorem token_effect {d : NldBthTransferDirection} {channel request : UInt32}
    (he : TransferEffect s op (answer, s')) (h : s.HoldsToken d channel request)
    (hop : completesWith d answer op = false) : s'.HoldsToken d channel request := by
  obtain ⟨hpending, rfl, rfl⟩ := h
  cases he with
  | refused _ _ => exact ⟨hpending, rfl, rfl⟩
  | opened _ _ hnone _ =>
    rw [pending_of_outstanding hnone] at hpending
    cases hpending
  | @begun d' g _ _ hidle =>
    have hd : ¬ d = d' := fun hd => by simp [hd, hidle] at hpending
    cases d <;> cases d' <;> simp_all [HoldsToken, pending, requestGeneration, setPending]
  | closeRequested => cases d <;> exact ⟨hpending, rfl, rfl⟩
  | @completed d' _ =>
    have hdone : (completed (if s.closing = true ∧ (s.setPending false 0 d').outstanding = false
        then transferDrained else transferOk)).refuses = false := by
      split_ifs <;> rfl
    have hd : ¬ d = d' := fun hd => by simp [completesWith, hd, hdone] at hop
    simp [HoldsToken, hd, hpending]
  | finished _ _ => cases d <;> exact ⟨hpending, rfl, rfl⟩

theorem draining_effect (he : TransferEffect s op (answer, s')) :
    (s.asksToDrain op).toNat + s.draining.toNat =
      (decide (answer = completed transferDrained)).toNat + s'.draining.toNat := by
  cases he with
  | refused hrefuses hop =>
    have hnot : answer ≠ completed transferDrained := fun h => by
      simp [h, NldBthTransferAnswer.refuses] at hrefuses
    have hasks : s.asksToDrain op = false := by
      cases op with
      | requestClose remote => exact absurd rfl (hop remote)
      | openChannel | beginTransfer _ | complete _ _ _ | finishClose => rfl
    simp [hasks, hnot]
  | opened _ hclosing _ _ => simp [asksToDrain, draining, hclosing]
  | begun _ hclosing _ => simp [asksToDrain, draining, hclosing]
  | @closeRequested remote mask b =>
    have hsame : outstanding { s with channelOpen := false, closing := true, remoteDisconnected := b }
        = s.outstanding := rfl
    cases hclosing : s.closing <;> simp [asksToDrain, draining, hclosing, hsame]
  | @completed d hpending =>
    have hsome := outstanding_of_pending hpending
    cases hclosing : s.closing <;> cases hrest : (s.setPending false 0 d).outstanding <;>
      simp [asksToDrain, draining, hclosing, hrest, hsome]
  | finished _ hnone => simp [asksToDrain, draining, hnone]

theorem draining_step (s : NldBthTransferOwner) (op : NldBthTransferOp) :
    (s.asksToDrain op).toNat + s.draining.toNat =
      (s.drains op).toNat + (transferOwner.next s op).draining.toNat :=
  draining_effect (s.transfer_effect op)

theorem drained_effect (he : TransferEffect s op (completed transferDrained, s')) :
    s'.closing = true ∧ s'.outstanding = false := by
  generalize hanswer : completed transferDrained = answer at he
  cases he with
  | refused hrefuses _ => simp [← hanswer, NldBthTransferAnswer.refuses] at hrefuses
  | opened _ _ _ _ => cases hanswer
  | begun _ _ _ => cases hanswer
  | closeRequested => cases hanswer
  | @completed d _ =>
    split_ifs at hanswer with hdrained
    · exact ⟨(setPending_closing s false 0 d).trans hdrained.1, hdrained.2⟩
    · cases hanswer
  | finished _ _ => cases hanswer

theorem finished_effect (he : TransferEffect s .finishClose (answer, s'))
    (haccepted : answer.refuses = false) : s.outstanding = false := by
  cases he with
  | refused hrefuses _ => simp [hrefuses] at haccepted
  | finished _ hnone => exact hnone

theorem closing_effect (he : TransferEffect s op (answer, s')) (hclosing : s.closing = true)
    (hop : ¬ (op = .finishClose ∧ answer.refuses = false)) : s'.closing = true := by
  cases he with
  | refused _ _ => exact hclosing
  | opened _ hopen _ _ => cases hopen.symm.trans hclosing
  | begun _ hopen _ => cases hopen.symm.trans hclosing
  | closeRequested => rfl
  | completed _ => exact (setPending_closing _ _ _ _).trans hclosing
  | finished _ _ => exact absurd ⟨rfl, rfl⟩ hop

theorem openChannel_of_closing (h : s.closing = true) :
    transferOwner.step s .openChannel = (opened 0, s) := by
  simp [transferOwner, openChannel, h]

theorem completes_eq (d : NldBthTransferDirection) (s : NldBthTransferOwner)
    (op : NldBthTransferOp) : completes d s op = completesWith d (transferOwner.out s op) op := by
  cases op <;> rfl

theorem reopensAfter_finishes (ops : List NldBthTransferOp) :
    ReopensAfter finishes (fun _ => true) ops := by
  rintro before remote between rfl - hbetween
  have hclosing := Reducer.after_inv (P := fun s => s.closing = true)
    (fun s op hs hop => closing_effect (s.transfer_effect op) hs (of_decide_eq_false hop))
    (by cases remote <;> rfl) hbetween
  rw [show transferOwner.after {} (before ++ .requestClose remote :: between) = transferOwner.after
    (transferOwner.next (transferOwner.after {} before) (.requestClose remote)) between from
      Reducer.after_append _ _ _]
  exact openChannel_of_closing hclosing

theorem reopensAfter_drains (ops : List NldBthTransferOp) :
    ReopensAfter drains outstanding ops := by
  rintro before remote between rfl hwaits hbetween
  have hdraining := Reducer.after_inv (P := fun s => s.draining = true)
    (fun s op hs hop => ?_) (?_) hbetween
  · rw [show transferOwner.after {} (before ++ .requestClose remote :: between) =
      transferOwner.after (transferOwner.next (transferOwner.after {} before)
        (.requestClose remote)) between from Reducer.after_append _ _ _]
    exact openChannel_of_closing (of_decide_eq_true hdraining).1
  · have hbalance := s.draining_step op
    rw [hs, hop] at hbalance
    cases hnext : (transferOwner.next s op).draining with
    | true => rfl
    | false => simp [hnext] at hbalance
  · generalize transferOwner.after {} before = s at hwaits ⊢
    refine decide_eq_true ⟨by cases remote <;> rfl, ?_⟩
    have hsame : (transferOwner.next s (.requestClose remote)).outstanding = s.outstanding := by
      cases remote <;> rfl
    rw [hsame]
    exact hwaits

/-- **The transfers drain**, along every run. -/
theorem transfers_drain (ops : List NldBthTransferOp) : TransfersDrain ops where
  once d := by
    have hbalance := Reducer.count_balance (M := transferOwner) (P := fun _ => True)
      (Q := fun _ _ => True) (p := begins d) (q := completes d)
      (f := fun s => (s.pending d).toNat) (fun _ _ _ _ => trivial)
      (fun s op _ _ => by
        rw [completes_eq]
        exact pending_effect d (s.transfer_effect op))
      trivial (Reducer.along_of_forall (fun _ _ => trivial) {} ops)
    cases d <;> exact hbalance
  token := by
    rintro before d between channel request rfl hbegun hbetween
    rw [show transferOwner.after {} (before ++ .beginTransfer d :: between) = transferOwner.after
      (transferOwner.next (transferOwner.after {} before) (.beginTransfer d)) between from
        Reducer.after_append _ _ _]
    generalize transferOwner.after {} before = s at hbegun hbetween ⊢
    refine Reducer.after_inv (P := fun t => t.HoldsToken d channel request)
      (fun t op ht hop => ?_) ?_ hbetween
    · rw [completes_eq] at hop
      exact token_effect (t.transfer_effect op) ht hop
    · have heffect := s.transfer_effect (.beginTransfer d)
      rw [show transferOwner.step s (.beginTransfer d) = (begun transferOk channel request,
        transferOwner.next s (.beginTransfer d)) from Prod.ext hbegun rfl] at heffect
      generalize transferOwner.next s (.beginTransfer d) = t at heffect ⊢
      cases heffect with
      | refused hrefuses _ => simp [NldBthTransferAnswer.refuses] at hrefuses
      | begun _ _ _ => simp [HoldsToken]
  stale d channel request hstale := by
    generalize transferOwner.after {} ops = s at hstale ⊢
    show (s.complete d channel request).map completed id = _
    unfold complete
    by_cases hchannel : channel ≠ s.channelGeneration
    · rw [if_pos hchannel]
      rfl
    · rw [if_neg hchannel, if_pos]
      · rfl
      · rw [not_not] at hchannel
        by_cases hpending : s.pending d = true
        · exact .inr fun hrequest => hstale ⟨hpending, hchannel.symm, hrequest.symm⟩
        · exact .inl hpending
  drained := by
    have hbalance := Reducer.count_balance (M := transferOwner) (P := fun _ => True)
      (Q := fun _ _ => True) (p := asksToDrain) (q := drains) (f := fun s => s.draining.toNat)
      (fun _ _ _ _ => trivial) (fun s op _ _ => s.draining_step op) trivial
      (Reducer.along_of_forall (fun _ _ => trivial) {} ops)
    exact hbalance
  empty op hdrains := by
    generalize transferOwner.after {} ops = s at hdrains ⊢
    have heffect := s.transfer_effect op
    rw [show transferOwner.step s op = (completed transferDrained, transferOwner.next s op) from
      Prod.ext (of_decide_eq_true hdrains) rfl] at heffect
    exact drained_effect heffect
  finished op hfinishes := by
    obtain ⟨rfl, haccepted⟩ := of_decide_eq_true hfinishes
    exact finished_effect (transfer_effect _ _) haccepted
  reopened := ⟨reopensAfter_finishes ops, reopensAfter_drains ops⟩

/-- A close with nothing outstanding: it is never reported drained, and the channel is opened
    again once it is finished. -/
theorem idle_close_reopens :
    ¬ ReopensAfter drains (fun _ => true) [.openChannel, .requestClose false, .finishClose] := by
  intro hreopens
  have hrefused := hreopens [.openChannel] false [.finishClose] rfl rfl (by decide)
  exact absurd (congrArg Prod.fst hrefused) (by decide)

end NldBthTransferOwner

end NativeLdac.DirectPdo
