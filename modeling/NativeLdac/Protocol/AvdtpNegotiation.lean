/-
  The length of a negotiation: every command that answers a reply leaves fewer
  commands to send, so that a negotiation ends whatever the peer replies.
-/
import Mathlib.Data.Nat.Find
import NativeLdac.Protocol.AvdtpCourse

namespace NativeLdac.Protocol

namespace AvdtpSource

/-- A bound on the commands that a negotiation still sends. -/
def commandsLeft (source : AvdtpSource) : Nat :=
  match source.state with
  | .discoverSent => 515
  | .capabilitiesSent =>
    2 * (source.remoteSeidCount.toNat - source.remoteSeidIndex.toNat) +
      (if source.usedLegacyCapabilities = true then 0 else 1) + 3
  | .configurationSent => 2
  | .openSent => 1
  | _ => 0

variable {source : AvdtpSource}

theorem commandsLeft_sendCommand {signalId : UInt8} {payload : List UInt8}
    (h : (source.sendCommand signalId payload).1.kind = .sendSignaling) :
    commandsLeft (source.sendCommand signalId payload).2 = commandsLeft source := by
  unfold sendCommand at h ⊢
  dsimp only at h ⊢
  split_ifs at h ⊢
  · cases h
  · rfl

theorem commandsLeft_queryCurrentSink
    (h : source.queryCurrentSink.1.kind = .sendSignaling) :
    commandsLeft source.queryCurrentSink.2 =
      2 * (source.remoteSeidCount.toNat - source.remoteSeidIndex.toNat) + 4 :=
  commandsLeft_sendCommand h

theorem commandsLeft_queryNextSink (hs : source.state = .capabilitiesSent)
    (h : source.queryNextSink.1.kind = .sendSignaling) :
    commandsLeft source.queryNextSink.2 < commandsLeft source := by
  unfold queryNextSink at h ⊢
  split_ifs at h ⊢ with hlast
  · cases h
  · dsimp only at h ⊢
    have hindex : (source.remoteSeidIndex + 1).toNat = source.remoteSeidIndex.toNat + 1 := by
      have := source.remoteSeidCount.toNat_lt
      rw [UInt8.toNat_add, show (1 : UInt8).toNat = 1 from rfl]
      omega
    rw [commandsLeft_queryCurrentSink h]
    simp only [commandsLeft, hs, hindex]
    split_ifs <;> omega

theorem commandsLeft_handleReject {m : AvdtpMessageType} {payload : List UInt8}
    (h : (source.handleReject m payload).1.kind = .sendSignaling) :
    commandsLeft (source.handleReject m payload).2 < commandsLeft source := by
  unfold handleReject at h ⊢
  split_ifs at h ⊢ with hall hs
  · rw [commandsLeft_sendCommand h]
    simp [commandsLeft, hall.1, hall.2.2]
  · exact commandsLeft_queryNextSink hs h
  · cases h
  · cases h

theorem commandsLeft_handleAccept {payload : List UInt8}
    (h : (source.handleAccept payload).1.kind = .sendSignaling) :
    commandsLeft (source.handleAccept payload).2 < commandsLeft source := by
  unfold handleAccept at h ⊢
  cases hs : source.state <;> rw [hs] at h <;> dsimp only at h ⊢
  case discoverSent =>
    split_ifs at h ⊢
    · cases h
    · have hcount := (collectAudioSinks payload).length.toUInt8.toNat_lt
      rw [commandsLeft_queryCurrentSink h]
      simp only [commandsLeft, hs]
      omega
  case capabilitiesSent =>
    unfold handleCapabilities at h ⊢
    dsimp only at h ⊢
    split_ifs at h ⊢
    · exact commandsLeft_queryNextSink hs h
    · cases h
    · cases h
    · cases h
    · rw [commandsLeft_sendCommand h]
      simp only [commandsLeft, hs]
      omega
  case configurationSent =>
    rw [commandsLeft_sendCommand h]
    simp [commandsLeft, hs]
  all_goals cases h

theorem commandsLeft_handleSignaling {reply : List UInt8}
    (h : (source.handleSignaling reply).1.kind = .sendSignaling) :
    commandsLeft (source.handleSignaling reply).2 < commandsLeft source := by
  by_cases hlive : source.state = .failed ∨ source.state = .idle ∨ source.state = .streaming
  · unfold handleSignaling at h
    rw [if_pos hlive] at h
    cases h
  · rcases handleSignaling_cases hlive reply with ⟨-, e, he⟩ | ⟨-, -, m, hm⟩ | ⟨-, ha⟩
    · rw [he] at h
      cases h
    · rw [hm] at h ⊢
      exact commandsLeft_handleReject h
    · rw [ha] at h ⊢
      exact commandsLeft_handleAccept h

theorem commandsLeft_begin (h : source.begin_.1.kind = .sendSignaling) :
    commandsLeft source.begin_.2 = 515 := by
  unfold begin_ at h ⊢
  split_ifs at h ⊢
  · cases h
  · exact commandsLeft_sendCommand h

/-! ## The commands sent -/

/-- A negotiation that has collected `n` sinks sends no more commands than this: one DISCOVER,
    two queries for each sink, SET_CONFIGURATION and OPEN. -/
def maximumCommands (n : Nat) : Nat := 1 + 2 * n + 2

/-- The source has sent `k` commands of a negotiation, and awaits the answer to the last. -/
structure CommandsSent (k : Nat) (source : AvdtpSource) : Prop where
  table : source.remoteSeids.length ≤ avdtpMaxRemoteSeids
  sent : match source.state with
    | .discoverSent => k ≤ 1
    | .capabilitiesSent =>
      source.remoteSeidCount.toNat = source.remoteSeids.length ∧
        source.remoteSeidIndex.toNat < source.remoteSeids.length ∧
        k ≤ 2 + 2 * source.remoteSeidIndex.toNat +
          if source.usedLegacyCapabilities = true then 1 else 0
    | .configurationSent => k ≤ 2 + 2 * source.remoteSeids.length
    | .openSent => k ≤ 3 + 2 * source.remoteSeids.length
    | _ => False

/-- No more commands were sent than the sinks allow. -/
structure CommandsBounded (k : Nat) (source : AvdtpSource) : Prop where
  table : source.remoteSeids.length ≤ avdtpMaxRemoteSeids
  sent : k ≤ maximumCommands source.remoteSeids.length

/-- An operation of the source after `k` commands sends the next one, or ends the
    negotiation. -/
def Continues (k : Nat) (result : AvdtpAction × AvdtpSource) : Prop :=
  if result.1.kind = .sendSignaling then CommandsSent (k + 1) result.2 else CommandsBounded k result.2

variable {k : Nat}

theorem CommandsSent.bounded (h : CommandsSent k source) : CommandsBounded k source := by
  obtain ⟨htable, hsent⟩ := h
  refine ⟨htable, ?_⟩
  unfold maximumCommands
  cases hs : source.state <;> simp only [hs] at hsent
  case discoverSent => omega
  case capabilitiesSent =>
    obtain ⟨-, hindex, hk⟩ := hsent
    split_ifs at hk <;> omega
  case configurationSent => omega
  case openSent => omega

theorem CommandsBounded.of_succ (h : CommandsBounded (k + 1) source) : CommandsBounded k source :=
  ⟨h.table, Nat.le_trans (Nat.le_succ k) h.sent⟩

theorem CommandsBounded.fail (h : CommandsBounded k source) (errorCode : Int) :
    Continues k (source.fail errorCode) :=
  ⟨h.table, h.sent⟩

theorem CommandsSent.sendCommand (h : CommandsSent (k + 1) source) (signalId : UInt8) (payload : List UInt8) :
    Continues k (source.sendCommand signalId payload) := by
  unfold AvdtpSource.sendCommand
  dsimp only
  split_ifs
  · refine CommandsBounded.fail ?_ _
    exact ⟨h.table, h.bounded.of_succ.sent⟩
  · exact ⟨h.table, h.sent⟩

theorem continues_queryCurrentSink (htable : source.remoteSeids.length ≤ avdtpMaxRemoteSeids)
    (hcount : source.remoteSeidCount.toNat = source.remoteSeids.length)
    (hindex : source.remoteSeidIndex.toNat < source.remoteSeids.length)
    (hk : k ≤ 1 + 2 * source.remoteSeidIndex.toNat) : Continues k source.queryCurrentSink := by
  refine CommandsSent.sendCommand ?_ _ _
  refine ⟨htable, hcount, hindex, ?_⟩
  show k + 1 ≤ 2 + 2 * source.remoteSeidIndex.toNat + 0
  omega

theorem CommandsSent.queryNextSink (h : CommandsSent k source) (hs : source.state = .capabilitiesSent) :
    Continues k source.queryNextSink := by
  have hbounded := h.bounded
  obtain ⟨htable, hsent⟩ := h
  simp only [hs] at hsent
  obtain ⟨hcount, hindex, hk⟩ := hsent
  unfold AvdtpSource.queryNextSink
  split_ifs with hlast
  · exact hbounded.fail _
  · have hnext : (source.remoteSeidIndex + 1).toNat = source.remoteSeidIndex.toNat + 1 := by
      have := source.remoteSeidCount.toNat_lt
      rw [UInt8.toNat_add, show (1 : UInt8).toNat = 1 from rfl]
      omega
    refine continues_queryCurrentSink htable hcount ?_ ?_
    · show (source.remoteSeidIndex + 1).toNat < source.remoteSeids.length
      omega
    · show k ≤ 1 + 2 * (source.remoteSeidIndex + 1).toNat
      split_ifs at hk <;> omega

theorem CommandsSent.handleReject (h : CommandsSent k source) (m : AvdtpMessageType) (payload : List UInt8) :
    Continues k (source.handleReject m payload) := by
  unfold AvdtpSource.handleReject
  split_ifs with hall hs
  · obtain ⟨htable, hsent⟩ := h
    simp only [hall.1, hall.2.2] at hsent
    obtain ⟨hcount, hindex, hk⟩ := hsent
    refine CommandsSent.sendCommand ?_ _ _
    refine ⟨htable, ?_⟩
    simp only [hall.1]
    refine ⟨hcount, hindex, ?_⟩
    show k + 1 ≤ 2 + 2 * source.remoteSeidIndex.toNat + 1
    exact Nat.succ_le_succ hk
  · exact h.queryNextSink hs
  · exact h.bounded.fail _
  · exact h.bounded.fail _

theorem CommandsSent.handleCapabilities (h : CommandsSent k source)
    (hs : source.state = .capabilitiesSent) (payload : List UInt8) :
    Continues k (source.handleCapabilities payload) := by
  have hbounded := h.bounded
  unfold AvdtpSource.handleCapabilities
  dsimp only
  split_ifs
  · refine CommandsSent.queryNextSink ?_ hs
    exact ⟨h.table, h.sent⟩
  · refine CommandsBounded.fail ?_ _
    exact ⟨hbounded.table, hbounded.sent⟩
  · refine CommandsBounded.fail ?_ _
    exact ⟨hbounded.table, hbounded.sent⟩
  · refine CommandsBounded.fail ?_ _
    exact ⟨hbounded.table, hbounded.sent⟩
  · obtain ⟨htable, hsent⟩ := h
    simp only [hs] at hsent
    obtain ⟨-, hindex, hk⟩ := hsent
    refine CommandsSent.sendCommand ?_ _ _
    refine ⟨htable, ?_⟩
    show k + 1 ≤ 2 + 2 * source.remoteSeids.length
    split_ifs at hk <;> omega

theorem CommandsSent.handleAccept (h : CommandsSent k source) (payload : List UInt8) :
    Continues k (source.handleAccept payload) := by
  have hbounded := h.bounded
  have hsent := h.sent
  unfold AvdtpSource.handleAccept
  cases hs : source.state <;> simp only [hs] at hsent ⊢
  case discoverSent =>
    split_ifs with hnone
    · exact hbounded.fail _
    · have hsinks : (collectAudioSinks payload).length ≤ avdtpMaxRemoteSeids := by
        unfold collectAudioSinks
        split_ifs
        · exact Nat.zero_le _
        · exact List.length_take_le _ _
      have hcount : (collectAudioSinks payload).length.toUInt8.toNat =
          (collectAudioSinks payload).length :=
        UInt8.toNat_ofNat_of_lt' (Nat.lt_of_le_of_lt hsinks (by decide))
      exact continues_queryCurrentSink hsinks hcount (List.length_pos_iff.mpr hnone) hsent
  case capabilitiesSent => exact h.handleCapabilities hs payload
  case configurationSent =>
    refine CommandsSent.sendCommand ?_ _ _
    refine ⟨h.table, ?_⟩
    show k + 1 ≤ 3 + 2 * source.remoteSeids.length
    omega
  case openSent => exact ⟨hbounded.table, hbounded.sent⟩

theorem CommandsSent.handleSignaling (h : CommandsSent k source) (reply : List UInt8) :
    Continues k (source.handleSignaling reply) := by
  have hlive : ¬ (source.state = .failed ∨ source.state = .idle ∨ source.state = .streaming) := by
    have hsent := h.sent
    rintro (hs | hs | hs) <;> simp only [hs] at hsent
  rcases handleSignaling_cases hlive reply with ⟨-, e, he⟩ | ⟨-, -, m, hm⟩ | ⟨-, ha⟩
  · rw [he]
    exact h.bounded.fail e
  · rw [hm]
    exact h.handleReject m _
  · rw [ha]
    exact h.handleAccept _

theorem continues_begin (localCapabilities : LdacCapabilities) (localSeid : UInt8)
    (preferredSampleRateHz : UInt32) :
    Continues 0 (AvdtpSource.init localCapabilities localSeid preferredSampleRateHz).begin_ := by
  unfold AvdtpSource.begin_
  split_ifs
  · refine CommandsBounded.fail ?_ _
    exact ⟨Nat.zero_le _, Nat.zero_le _⟩
  · refine CommandsSent.sendCommand ?_ _ _
    exact ⟨Nat.zero_le _, Nat.le_refl 1⟩

/-- The negotiation with a peer that gives the replies, one to each command. -/
def negotiation (source : AvdtpSource) (replies : Nat → List UInt8) :
    Nat → AvdtpAction × AvdtpSource
  | 0 => source.begin_
  | k + 1 => (negotiation source replies k).2.handleSignaling (replies k)

theorem negotiation_continues {replies : Nat → List UInt8}
    (hbegin : Continues 0 source.begin_)
    (hsends : ∀ j < k, (negotiation source replies j).1.kind = .sendSignaling) :
    Continues k (negotiation source replies k) := by
  induction k with
  | zero => exact hbegin
  | succ k ih =>
    have hlast := ih fun j hj => hsends j (Nat.lt_succ_of_lt hj)
    unfold Continues at hlast
    rw [if_pos (hsends k (Nat.lt_succ_self k))] at hlast
    exact hlast.handleSignaling (replies k)

theorem maximumCommands_mono {m n : Nat} (h : m ≤ n) : maximumCommands m ≤ maximumCommands n := by
  unfold maximumCommands
  omega

theorem negotiation_bounded (localCapabilities : LdacCapabilities) (localSeid : UInt8)
    (preferredSampleRateHz : UInt32) (replies : Nat → List UInt8) :
    ∃ k,
      let last := negotiation (.init localCapabilities localSeid preferredSampleRateHz) replies k
      last.1.kind ≠ .sendSignaling ∧ CommandsBounded k last.2 ∧
        ∀ j < k,
          (negotiation (.init localCapabilities localSeid preferredSampleRateHz) replies j).1.kind =
            .sendSignaling := by
  have hcontinues := fun (k : Nat) => @negotiation_continues
    (.init localCapabilities localSeid preferredSampleRateHz) k replies (continues_begin _ _ _)
  generalize AvdtpSource.init localCapabilities localSeid preferredSampleRateHz = source at *
  have hends : ∃ k, (negotiation source replies k).1.kind ≠ .sendSignaling := by
    by_contra hnone
    rw [not_exists] at hnone
    obtain ⟨most, hmost⟩ : ∃ most, most = maximumCommands avdtpMaxRemoteSeids := ⟨_, rfl⟩
    have hlast := hcontinues most fun j _ => not_not.mp (hnone j)
    unfold Continues at hlast
    rw [if_pos (not_not.mp (hnone _))] at hlast
    have hsent := Nat.le_trans hlast.bounded.sent (maximumCommands_mono hlast.bounded.table)
    rw [← hmost] at hsent
    exact Nat.not_succ_le_self most hsent
  have hlast := hcontinues (Nat.find hends) fun j hj => not_not.mp (Nat.find_min hends hj)
  unfold Continues at hlast
  rw [if_neg (Nat.find_spec hends)] at hlast
  exact ⟨Nat.find hends, Nat.find_spec hends, hlast, fun j hj =>
    not_not.mp (Nat.find_min hends hj)⟩

end AvdtpSource

end NativeLdac.Protocol
