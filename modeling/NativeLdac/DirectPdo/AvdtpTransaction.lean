/-
  The commands that the direct PDO sends to the peer one at a time
  (`direct-pdo/src/nativeldac_avdtp_transaction.c`).

  * `NldAvdtpTransaction` and its operations, `avdtpTransaction` the machine they make;
  * `Awaits` reads off a run which command is still to be answered.
-/
import Mathlib.Data.List.Induction
import NativeLdac.Protocol.AvdtpCourse

namespace NativeLdac.DirectPdo

open NativeLdac.Protocol

/-! ## The contract -/

inductive NldAvdtpTransactionStatus where
  | ok | invalidArgument | busy | truncated | unsupportedFragment | unexpectedResponse | rejected
  | stale | faulted
deriving DecidableEq, Repr

/-- `NLD_AVDTP_TRANSACTION`, as `NldAvdtpTransactionInitialize` leaves it. -/
structure NldAvdtpTransaction where
  generation : UInt32 := 0
  nextLabel : UInt8 := 0
  pendingLabel : UInt8 := 0
  pendingSignalId : UInt8 := 0
  pending : Bool := false
  faulted : Bool := false
deriving DecidableEq, Repr

open NldAvdtpTransactionStatus

namespace NldAvdtpTransaction

variable (t : NldAvdtpTransaction)

def reset : NldAvdtpTransaction :=
  { t with
    generation := t.generation + 1
    pendingLabel := 0
    pendingSignalId := 0
    pending := false
    faulted := false }

/-- `NldAvdtpTransactionBegin`: the status, the packet and the generation; without a packet to
    write to there is no capacity. -/
def begin_ (signalId : UInt8) (packetCapacity : Nat) :
    (NldAvdtpTransactionStatus × List UInt8 × UInt32) × NldAvdtpTransaction :=
  if signalId = 0 ∨ signalId > 0x3F ∨ packetCapacity < 2 then ((invalidArgument, [], 0), t)
  else if t.faulted then ((.faulted, [], 0), t)
  else if t.pending then ((busy, [], 0), t)
  else
    let label := t.nextLabel &&& 0x0F
    ((ok, [label <<< 4, signalId], t.generation),
      { t with
        nextLabel := (label + 1) &&& 0x0F
        pendingLabel := label
        pendingSignalId := signalId
        pending := true })

/-- `NldAvdtpTransactionAcceptResponse`: the status, and where the payload begins. -/
def acceptResponse (generation : UInt32) (packet : List UInt8) :
    (NldAvdtpTransactionStatus × Nat) × NldAvdtpTransaction :=
  if generation ≠ t.generation then ((stale, 0), t)
  else if t.faulted then ((.faulted, 0), t)
  else if ¬ t.pending then ((unexpectedResponse, 0), t)
  else if packet.length < 2 then ((truncated, 0), { t with pending := false, faulted := true })
  else if byteAt packet 0 >>> 4 ≠ t.pendingLabel ∨ byteAt packet 1 &&& 0x3F ≠ t.pendingSignalId then
    ((unexpectedResponse, 0), t)
  else if AvdtpPacketType.ofBits ((byteAt packet 0 >>> 2) &&& 0x03) ≠ .single then
    ((unsupportedFragment, 0), { t with pending := false, faulted := true })
  else match AvdtpMessageType.ofBits (byteAt packet 0 &&& 0x03) with
    | .reject | .generalReject => ((rejected, 0), { t with pending := false })
    | .command => ((unexpectedResponse, 0), { t with pending := false, faulted := true })
    | .accept => ((ok, 2), { t with pending := false })

def isConsistent : Bool :=
  t.nextLabel ≤ 0x0F ∧ t.pendingLabel ≤ 0x0F ∧ t.pendingSignalId ≤ 0x3F ∧
    ¬ (t.pending ∧ t.pendingSignalId = 0) ∧ ¬ (t.pending ∧ t.faulted)

end NldAvdtpTransaction

inductive NldAvdtpTransactionOp where
  | reset
  | begin_ (signalId : UInt8) (packetCapacity : Nat)
  | acceptResponse (generation : UInt32) (packet : List UInt8)
deriving DecidableEq, Repr

inductive NldAvdtpTransactionAnswer where
  | reset
  | begun (status : NldAvdtpTransactionStatus) (packet : List UInt8) (generation : UInt32)
  | response (status : NldAvdtpTransactionStatus) (payloadOffset : Nat)
deriving DecidableEq, Repr

def avdtpTransaction :
    Reducer NldAvdtpTransaction NldAvdtpTransactionOp NldAvdtpTransactionAnswer where
  step t
    | .reset => (.reset, t.reset)
    | .begin_ signalId packetCapacity =>
      (t.begin_ signalId packetCapacity).map (fun r => .begun r.1 r.2.1 r.2.2) id
    | .acceptResponse generation packet =>
      (t.acceptResponse generation packet).map (fun r => .response r.1 r.2) id

/-! ## What a run awaits -/

/-- The packet has to do with the command: it carries its label and signal, or is too short to
    carry another one. -/
def Concerns (command : AvdtpCommand) (packet : List UInt8) : Prop :=
  packet.length < 2 ∨ byteAt packet 0 >>> 4 = command.transactionLabel ∧
    byteAt packet 1 &&& 0x3F = command.signalId

def RejectedBy (command : AvdtpCommand) (packet : List UInt8) : Prop :=
  IsSingle packet command.transactionLabel .reject command.signalId ∨
    IsSingle packet command.transactionLabel .generalReject command.signalId

/-- The packets of a run, one for each command that it sends. -/
def NldAvdtpTransactionAnswer.sent? : NldAvdtpTransactionAnswer → Option (List UInt8)
  | .begun ok packet _ => some packet
  | _ => none

/-- The operation does not settle a command of the generation. -/
def LeavesOpen (command : AvdtpCommand) (generation : UInt32) : NldAvdtpTransactionOp → Prop
  | .reset => False
  | .begin_ _ _ => True
  | .acceptResponse g packet => g = generation → ¬ Concerns command packet

/-- The run has sent the command in the generation, and nothing has settled it since. -/
def Awaits (history : List NldAvdtpTransactionOp) (command : AvdtpCommand) (generation : UInt32) :
    Prop :=
  avdtpTransaction.Since
    (fun before op => ∃ packet, commandOf packet = some command ∧
      avdtpTransaction.out (avdtpTransaction.after {} before) op = .begun ok packet generation)
    (fun _ op => LeavesOpen command generation op) {} history

/-! ## What an operation does -/

theorem isSingle_iff {packet : List UInt8} {label signal : UInt8} {m : AvdtpMessageType} :
    IsSingle packet label m signal ↔ 2 ≤ packet.length ∧ byteAt packet 0 >>> 4 = label ∧
      byteAt packet 1 &&& 0x3F = signal ∧
      AvdtpPacketType.ofBits ((byteAt packet 0 >>> 2) &&& 0x03) = .single ∧
      AvdtpMessageType.ofBits (byteAt packet 0 &&& 0x03) = m := by
  unfold IsSingle avdtpParseHeader
  by_cases hempty : packet.length < 1
  · simp [hempty]
    omega
  rw [if_neg hempty]
  dsimp only
  constructor
  · rintro ⟨header, hparse, hsingle, rfl, rfl, rfl⟩
    split at hparse
    · rename_i htype
      split at hparse <;> cases hparse
      exact ⟨by omega, rfl, rfl, htype, rfl⟩
    · split at hparse <;> cases hparse
      simp_all
    · cases hparse
      simp_all
    · cases hparse
      simp_all
  · rintro ⟨hlength, rfl, rfl, htype, rfl⟩
    simp [htype, Nat.not_lt.mpr hlength]

/-- What is written for a command is parsed as the command. -/
theorem commandOf_header {label signal : UInt8} (hlabel : label ≤ 0x0F) (hzero : signal ≠ 0)
    (hsignal : signal ≤ 0x3F) : commandOf [label <<< 4, signal] = some ⟨label, signal⟩ := by
  have hwrite : avdtpWriteSingle 2 label .command signal [] = [label <<< 4, signal] := by
    unfold avdtpWriteSingle
    rw [if_neg (by simp [hzero, hlabel, hsignal]), if_neg (by simp)]
    simp [AvdtpPacketType.toBits, AvdtpMessageType.toBits]
  rw [← hwrite, commandOf, avdtpParseHeader_writeSingle (by simp [hwrite]), Option.map_some]

namespace NldAvdtpTransaction

variable {t : NldAvdtpTransaction}

/-- `NldAvdtpTransactionIsConsistent`, field by field. -/
structure Coherent (t : NldAvdtpTransaction) : Prop where
  nextLabel : t.nextLabel ≤ 0x0F
  pendingLabel : t.pendingLabel ≤ 0x0F
  pendingSignalId : t.pendingSignalId ≤ 0x3F
  named : t.pending → t.pendingSignalId ≠ 0
  sound : t.pending → t.faulted = false

theorem isConsistent_iff : t.isConsistent ↔ t.Coherent := by
  simp only [isConsistent, decide_eq_true_eq, not_and, Bool.not_eq_true]
  exact ⟨fun ⟨a, b, c, d, e⟩ => ⟨a, b, c, d, e⟩, fun ⟨a, b, c, d, e⟩ => ⟨a, b, c, d, e⟩⟩

/-- The command is sent in the generation, and not settled. -/
structure Pends (t : NldAvdtpTransaction) (command : AvdtpCommand) (generation : UInt32) : Prop where
  pending : t.pending
  label : t.pendingLabel = command.transactionLabel
  signal : t.pendingSignalId = command.signalId
  generation : t.generation = generation

theorem and_0F_le (label : UInt8) : label &&& 0x0F ≤ 0x0F := by
  rw [UInt8.le_iff_toNat_le, UInt8.toNat_and]
  exact Nat.and_le_right

/-- A Begin is refused, or sends a command with the next label. -/
theorem begin_cases (h : t.Coherent) (signalId : UInt8) (packetCapacity : Nat) :
    (∃ status, t.begin_ signalId packetCapacity = ((status, [], 0), t) ∧ status ≠ ok) ∨
    (t.pending = false ∧ t.faulted = false ∧ signalId ≠ 0 ∧ signalId ≤ 0x3F ∧
      t.begin_ signalId packetCapacity = ((ok, [t.nextLabel <<< 4, signalId], t.generation),
        { t with
          nextLabel := (t.nextLabel + 1) &&& 0x0F
          pendingLabel := t.nextLabel
          pendingSignalId := signalId
          pending := true })) := by
  have hlabel : t.nextLabel &&& 0x0F = t.nextLabel := by
    have key : ∀ n < 16, UInt8.ofNat n &&& 0x0F = UInt8.ofNat n := by decide
    have hn : t.nextLabel.toNat < 16 := Nat.lt_succ_of_le (UInt8.le_iff_toNat_le.mp h.nextLabel)
    simpa using key t.nextLabel.toNat hn
  unfold begin_
  split_ifs with hargs hfault hpending
  · exact .inl ⟨_, rfl, nofun⟩
  · exact .inl ⟨_, rfl, nofun⟩
  · exact .inl ⟨_, rfl, nofun⟩
  · simp only [not_or, gt_iff_lt, UInt8.not_lt] at hargs
    rw [hlabel]
    exact .inr ⟨eq_false_of_ne_true hpending, eq_false_of_ne_true hfault, hargs.1, hargs.2.1, rfl⟩

/-- A response that concerns the pending command settles it; any other one changes nothing. -/
theorem acceptResponse_cases (t : NldAvdtpTransaction) (generation : UInt32) (packet : List UInt8) :
    (∃ status, t.acceptResponse generation packet = ((status, 0), t) ∧
      status ≠ ok ∧ status ≠ rejected ∧
      ∀ command, t.faulted = false → t.Pends command generation → ¬ Concerns command packet) ∨
    (∃ status fault, t.acceptResponse generation packet =
        ((status, if status = ok then 2 else 0), { t with pending := false, faulted := fault }) ∧
      ∃ command, t.Pends command generation ∧ Concerns command packet ∧
        (status = ok ↔ command.AcceptedBy packet) ∧
        (status = rejected ↔ RejectedBy command packet)) := by
  unfold acceptResponse
  by_cases hstale : generation ≠ t.generation
  · rw [if_pos hstale]
    exact .inl ⟨_, rfl, nofun, nofun, fun _ _ h => absurd h.generation.symm hstale⟩
  rw [if_neg hstale]
  by_cases hfault : t.faulted
  · rw [if_pos hfault]
    exact .inl ⟨_, rfl, nofun, nofun, fun _ hnone => by rw [hfault] at hnone; cases hnone⟩
  rw [if_neg hfault]
  by_cases hpending : t.pending
  swap
  · rw [if_pos hpending]
    exact .inl ⟨_, rfl, nofun, nofun, fun _ _ h => absurd h.pending hpending⟩
  rw [if_neg (not_not.mpr hpending)]
  have hpends : t.Pends ⟨t.pendingLabel, t.pendingSignalId⟩ generation :=
    ⟨hpending, rfl, rfl, (not_not.mp hstale).symm⟩
  by_cases hshort : packet.length < 2
  · rw [if_pos hshort]
    refine .inr ⟨_, true, rfl, _, hpends, .inl hshort, ?_, ?_⟩ <;>
      simp [AvdtpCommand.AcceptedBy, RejectedBy, isSingle_iff, Nat.not_le.mpr hshort]
  rw [if_neg hshort]
  by_cases hother : byteAt packet 0 >>> 4 ≠ t.pendingLabel ∨
      byteAt packet 1 &&& 0x3F ≠ t.pendingSignalId
  · rw [if_pos hother]
    refine .inl ⟨_, rfl, nofun, nofun, fun command _ h hconcerns => ?_⟩
    obtain ⟨hlabel, hsignal⟩ := hconcerns.resolve_left hshort
    exact hother.elim (fun hne => hne (hlabel.trans h.label.symm))
      fun hne => hne (hsignal.trans h.signal.symm)
  rw [if_neg hother]
  simp only [not_or, ne_eq, not_not] at hother
  by_cases hpart : AvdtpPacketType.ofBits ((byteAt packet 0 >>> 2) &&& 0x03) ≠ .single
  · rw [if_pos hpart]
    refine .inr ⟨_, true, rfl, _, hpends, .inr hother, ?_, ?_⟩ <;>
      simp [AvdtpCommand.AcceptedBy, RejectedBy, isSingle_iff, hpart]
  · rw [if_neg hpart]
    rw [ne_eq, not_not] at hpart
    refine .inr ?_
    cases hmessage : AvdtpMessageType.ofBits (byteAt packet 0 &&& 0x03) <;>
      refine ⟨_, _, rfl, _, hpends, .inr hother, ?_, ?_⟩ <;>
      simp [AvdtpCommand.AcceptedBy, RejectedBy, isSingle_iff, hpart, hother, hmessage,
        Nat.not_lt.mp hshort]

theorem Pends.unique {command command' : AvdtpCommand} {generation generation' : UInt32}
    (h : t.Pends command generation) (h' : t.Pends command' generation') :
    command = command' ∧ generation = generation' := by
  refine ⟨?_, h.generation.symm.trans h'.generation⟩
  cases command
  cases command'
  exact AvdtpCommand.mk.injEq .. ▸ ⟨h.label.symm.trans h'.label, h.signal.symm.trans h'.signal⟩

theorem coherent_next (h : t.Coherent) (op : NldAvdtpTransactionOp) :
    (avdtpTransaction.next t op).Coherent := by
  cases op with
  | reset => exact ⟨h.nextLabel, by simp [avdtpTransaction, Reducer.next, reset],
      by simp [avdtpTransaction, Reducer.next, reset], nofun, nofun⟩
  | begin_ signalId packetCapacity =>
    show (t.begin_ signalId packetCapacity).2.Coherent
    rcases begin_cases h signalId packetCapacity with
      ⟨_, hbegin, -⟩ | ⟨-, hfault, hzero, hsignal, hbegin⟩
    · rwa [hbegin]
    · rw [hbegin]
      exact ⟨and_0F_le _, h.nextLabel, hsignal, fun _ => hzero, fun _ => hfault⟩
  | acceptResponse generation packet =>
    show (t.acceptResponse generation packet).2.Coherent
    rcases acceptResponse_cases t generation packet with
      ⟨_, haccept, -⟩ | ⟨_, fault, haccept, -⟩
    · rwa [haccept]
    · rw [haccept]
      exact ⟨h.nextLabel, h.pendingLabel, h.pendingSignalId, nofun, nofun⟩

/-- **What makes a command pend**: it is sent, or it pends and is left open. -/
theorem pends_next (h : t.Coherent) (op : NldAvdtpTransactionOp) (command : AvdtpCommand)
    (generation : UInt32) :
    (avdtpTransaction.next t op).Pends command generation ↔
      (∃ packet, commandOf packet = some command ∧
        avdtpTransaction.out t op = .begun ok packet generation) ∨
      t.Pends command generation ∧ LeavesOpen command generation op := by
  cases op with
  | reset =>
    constructor
    · exact fun hpends => nomatch hpends.pending
    · rintro (⟨_, -, hout⟩ | ⟨-, hleaves⟩)
      · cases hout
      · exact hleaves.elim
  | begin_ signalId packetCapacity =>
    simp only [Reducer.next, Reducer.out, avdtpTransaction, LeavesOpen, and_true]
    rcases begin_cases h signalId packetCapacity with
      ⟨_, hbegin, hrefused⟩ | ⟨hnone, -, hzero, hsignal, hbegin⟩
    · simp [hbegin, hrefused]
    · have hparsed := commandOf_header h.nextLabel hzero hsignal
      rw [hbegin]
      constructor
      · intro hpends
        obtain ⟨rfl, rfl⟩ := hpends.unique (⟨rfl, rfl, rfl, rfl⟩ : Pends _ ⟨t.nextLabel, signalId⟩ _)
        exact .inl ⟨_, hparsed, rfl⟩
      · rintro (⟨packet, hcommand, hout⟩ | hpends)
        · simp only [Prod.map, NldAvdtpTransactionAnswer.begun.injEq, true_and] at hout
          obtain ⟨rfl, rfl⟩ := hout
          rw [hparsed] at hcommand
          cases hcommand
          exact ⟨rfl, rfl, rfl, rfl⟩
        · rw [hpends.pending] at hnone
          cases hnone
  | acceptResponse g packet =>
    have hout : ∀ p, avdtpTransaction.out t (.acceptResponse g packet) ≠ .begun ok p generation :=
      nofun
    simp only [hout, and_false, exists_false, false_or]
    show (t.acceptResponse g packet).2.Pends command generation ↔ _
    rcases acceptResponse_cases t g packet with
      ⟨_, haccept, -, -, hleaves⟩ | ⟨_, _, haccept, _, hpends, hconcerns, -⟩
    · rw [haccept]
      refine ⟨fun hpends => ⟨hpends, ?_⟩, And.left⟩
      rintro rfl
      exact hleaves command (h.sound hpends.pending) hpends
    · rw [haccept]
      refine ⟨fun hpending => (nomatch hpending.pending), fun ⟨hpending, hleaves⟩ => ?_⟩
      obtain ⟨rfl, rfl⟩ := hpends.unique hpending
      exact absurd hconcerns (hleaves rfl)

theorem coherent_after (history : List NldAvdtpTransactionOp) :
    (avdtpTransaction.after {} history).Coherent :=
  Reducer.after_inv (P := Coherent) (Q := fun _ _ => True) (fun _ op h _ => coherent_next h op)
    ⟨by decide, by decide, by decide, nofun, nofun⟩ (Reducer.along_of_forall (fun _ _ => trivial) _ _)

theorem awaits_iff (history : List NldAvdtpTransactionOp) (command : AvdtpCommand)
    (generation : UInt32) :
    Awaits history command generation ↔
      (avdtpTransaction.after {} history).Pends command generation := by
  induction history using List.reverseRecOn with
  | nil => exact ⟨fun ⟨_, _, _, hnil, _⟩ => by simp at hnil, fun h => nomatch h.pending⟩
  | append_singleton history op ih =>
    rw [Awaits, Reducer.since_snoc, Reducer.after_snoc, pends_next (coherent_after history), ← ih]
    rfl

theorem next_label {n : Nat} (h : t.nextLabel = UInt8.ofNat (n % 16)) :
    (t.nextLabel + 1) &&& 0x0F = UInt8.ofNat ((n + 1) % 16) := by
  have key : ∀ k < 16, (UInt8.ofNat k + 1) &&& 0x0F = UInt8.ofNat ((k + 1) % 16) := by decide
  rw [h, key _ (Nat.mod_lt _ (by decide)), Nat.mod_add_mod]

/-- An operation sends a command with the next label, or keeps the label for the next one. -/
theorem sent_cases (h : t.Coherent) (op : NldAvdtpTransactionOp) :
    ((avdtpTransaction.out t op).sent? = none ∧
      (avdtpTransaction.next t op).nextLabel = t.nextLabel) ∨
    ∃ signal, (avdtpTransaction.out t op).sent? = some [t.nextLabel <<< 4, signal] ∧
      commandOf [t.nextLabel <<< 4, signal] = some ⟨t.nextLabel, signal⟩ ∧
      (avdtpTransaction.next t op).nextLabel = (t.nextLabel + 1) &&& 0x0F := by
  cases op with
  | reset => exact .inl ⟨rfl, rfl⟩
  | begin_ signalId packetCapacity =>
    simp only [Reducer.next, Reducer.out, avdtpTransaction]
    rcases begin_cases h signalId packetCapacity with
      ⟨status, hbegin, hrefused⟩ | ⟨-, -, hzero, hsignal, hbegin⟩
    · rw [hbegin]
      refine .inl ⟨?_, rfl⟩
      cases status <;> first | rfl | exact absurd rfl hrefused
    · rw [hbegin]
      exact .inr ⟨signalId, rfl, commandOf_header h.nextLabel hzero hsignal, rfl⟩
  | acceptResponse generation packet =>
    refine .inl ⟨rfl, ?_⟩
    show (t.acceptResponse generation packet).2.nextLabel = _
    rcases acceptResponse_cases t generation packet with ⟨_, haccept, -⟩ | ⟨_, _, haccept, -⟩ <;>
      rw [haccept]

theorem labels_in_turn (h : t.Coherent) (ops : List NldAvdtpTransactionOp) {n : Nat}
    (hlabel : t.nextLabel = UInt8.ofNat (n % 16)) {k : Nat} {packet : List UInt8}
    (hsent : ((avdtpTransaction.outputs t ops).filterMap (·.sent?))[k]? = some packet) :
    ∃ signal, commandOf packet = some ⟨UInt8.ofNat ((n + k) % 16), signal⟩ := by
  induction ops generalizing t n k with
  | nil => simp [Reducer.outputs] at hsent
  | cons op ops ih =>
    rw [Reducer.outputs] at hsent
    rcases sent_cases h op with ⟨hnone, hkept⟩ | ⟨signal, hsome, hparsed, hnext⟩
    · rw [List.filterMap_cons_none hnone] at hsent
      exact ih (coherent_next h op) (hkept.trans hlabel) hsent
    · rw [List.filterMap_cons_some hsome] at hsent
      cases k with
      | zero =>
        cases hsent
        exact ⟨signal, hlabel ▸ hparsed⟩
      | succ k =>
        rw [← Nat.add_assoc, Nat.add_right_comm]
        exact ih (coherent_next h op) (hnext.trans (next_label hlabel)) hsent

end NldAvdtpTransaction

/-! ## Runs -/

open NldAvdtpTransaction

/-- **One command at a time**: in a run at most one command is to be answered.  A response is
    accepted, or rejected, exactly if it does so to that command, in the generation that it was
    sent in. -/
theorem avdtpTransaction_answers (history : List NldAvdtpTransactionOp) :
    (∀ command command' generation generation', Awaits history command generation →
      Awaits history command' generation' → command = command' ∧ generation = generation') ∧
    ∀ generation packet,
      let out := avdtpTransaction.out (avdtpTransaction.after {} history)
        (.acceptResponse generation packet)
      (out = .response ok 2 ↔
        ∃ command, Awaits history command generation ∧ command.AcceptedBy packet) ∧
      (out = .response rejected 0 ↔
        ∃ command, Awaits history command generation ∧ RejectedBy command packet) := by
  simp only [awaits_iff]
  have hcoherent := coherent_after history
  generalize avdtpTransaction.after {} history = t at *
  refine ⟨fun _ _ _ _ h h' => h.unique h', fun generation packet => ?_⟩
  have hout : avdtpTransaction.out t (.acceptResponse generation packet) = .response
    (t.acceptResponse generation packet).1.1 (t.acceptResponse generation packet).1.2 := rfl
  have hconcerns : ∀ {command : AvdtpCommand} {m},
      IsSingle packet command.transactionLabel m command.signalId → Concerns command packet :=
    fun h => .inr ⟨(isSingle_iff.mp h).2.1, (isSingle_iff.mp h).2.2.1⟩
  rw [hout]
  rcases acceptResponse_cases t generation packet with
    ⟨status, haccept, hok, hrejected, hleaves⟩ | ⟨status, _, haccept, c, hpends, -, hok, hrejected⟩
  · rw [haccept]
    refine ⟨⟨fun h => ?_, fun ⟨command, hpends, h⟩ => ?_⟩,
      ⟨fun h => ?_, fun ⟨command, hpends, h⟩ => ?_⟩⟩
    · cases h
    · exact absurd (hconcerns h) (hleaves command (hcoherent.sound hpends.pending) hpends)
    · cases h
      exact absurd rfl hrejected
    · exact absurd (h.elim hconcerns hconcerns)
        (hleaves command (hcoherent.sound hpends.pending) hpends)
  · rw [haccept]
    have htaken : status = ok ∧ (if status = ok then 2 else 0) = 2 ↔ status = ok :=
      ⟨And.left, fun h => ⟨h, if_pos h⟩⟩
    have hrefused : status = rejected ∧ (if status = ok then 2 else 0) = 0 ↔ status = rejected :=
      ⟨And.left, fun h => ⟨h, by rw [h]; rfl⟩⟩
    rw [NldAvdtpTransactionAnswer.response.injEq, NldAvdtpTransactionAnswer.response.injEq,
      htaken, hrefused, hok, hrejected]
    refine ⟨⟨fun h => ⟨c, hpends, h⟩, fun ⟨_, hpending, h⟩ => ?_⟩,
      ⟨fun h => ⟨c, hpends, h⟩, fun ⟨_, hpending, h⟩ => ?_⟩⟩
    · rwa [(hpends.unique hpending).1]
    · rwa [(hpends.unique hpending).1]

/-- **The labels go round**: in a run from the start the transaction is consistent, and the packet
    of the `k`-th command is parsed as a command with the label `k` modulo 16, across the resets
    between them. -/
theorem avdtpTransaction_labels (history : List NldAvdtpTransactionOp) :
    (avdtpTransaction.after {} history).isConsistent ∧
    ∀ k packet, ((avdtpTransaction.outputs {} history).filterMap (·.sent?))[k]? = some packet →
      ∃ signal, commandOf packet = some ⟨UInt8.ofNat (k % 16), signal⟩ := by
  refine ⟨NldAvdtpTransaction.isConsistent_iff.mpr (coherent_after history), fun k packet hsent => ?_⟩
  have hturn := labels_in_turn (coherent_after []) history (n := 0) rfl hsent
  rwa [Nat.zero_add] at hturn

end NativeLdac.DirectPdo
