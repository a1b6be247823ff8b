/-
  When the owner of a signaling channel stays consistent, and can be started again after it
  was stopped: exactly as long as no close is requested of an owner that is offline, but for
  the one that takes it offline.  Such a close leaves it closed, with no device started, and
  a start is refused from then on.
-/
import NativeLdac.DirectPdo.SignalingOwner

namespace NativeLdac.DirectPdo

open NldBthSignalingState NldBthSignalingAction NldBthSignalingOp NldBthSignalingAnswer

/-- The close of a channel, asked of an owner that is offline. -/
def StrayClose (s : NldBthSignalingOwner) (op : NldBthSignalingOp) : Prop :=
  op = requestClose false ∧ s.state = offline

instance (s : NldBthSignalingOwner) (op : NldBthSignalingOp) : Decidable (StrayClose s op) :=
  inferInstanceAs (Decidable (_ ∧ _))

def StaysConsistent (s : NldBthSignalingOwner) (op : NldBthSignalingOp) : Prop :=
  (signalingOwner.next s op).isConsistent

instance (s : NldBthSignalingOwner) (op : NldBthSignalingOp) : Decidable (StaysConsistent s op) :=
  inferInstanceAs (Decidable (_ = true))

/-- The operation is not a start of the device that succeeds. -/
def StaysStopped (s : NldBthSignalingOwner) (op : NldBthSignalingOp) : Prop :=
  op = pnpStart → (signalingOwner.next s op).pnpStarted = false

instance (s : NldBthSignalingOwner) (op : NldBthSignalingOp) : Decidable (StaysStopped s op) :=
  inferInstanceAs (Decidable (_ → _))

/-- Every operation leaves the owner consistent; and after a close that took the device
    offline, and with no start since, a start is accepted as soon as no channel is held and
    no open is pending. -/
def Orderly (ops : List NldBthSignalingOp) : Prop :=
  signalingOwner.Along StaysConsistent {} ops ∧
    ∀ before between later, ops = before ++ requestClose true :: between ++ later →
      signalingOwner.Along StaysStopped
        (signalingOwner.after {} (before ++ [requestClose true])) between →
      let s := signalingOwner.after {} (before ++ requestClose true :: between)
      s.channelHeld = false → s.openPending = false →
        (signalingOwner.next s pnpStart).state = closed ∧
          (signalingOwner.next s pnpStart).pnpStarted

section
variable {s s' : NldBthSignalingOwner} {op : NldBthSignalingOp} {answer : NldBthSignalingAnswer}

/-! ## Consistency -/

theorem noteClose_state (b : Bool) : (s.noteClose b).state = s.state := by
  cases b <;> rfl

theorem attended_ends {state' : NldBthSignalingState} (hends : s.Ends state') :
    Attended { s.resetRequestFlags with state := state' } := by
  rcases hends with ⟨rfl, -⟩ | ⟨-, hpnp, -⟩
  · intro hstate
    simp at hstate
  · exact fun _ => hpnp

theorem attended_effect (hattended : Attended s) (hop : ¬ StrayClose s op)
    (he : SignalingEffect s op (answer, s')) : Attended s' := by
  cases he with
  | refused _ _ _ => exact hattended
  | handedBack => exact hattended
  | started _ => exact fun _ => rfl
  | openSubmitted _ hpnp _ => exact fun _ => hpnp
  | @closeNoted b _ hstate _ =>
    intro hrest
    rw [noteClose_state] at hrest
    rcases hstate with hstate | ⟨hstate, -⟩ | hstate <;> simp [hstate] at hrest
  | closeSubmitted _ _ =>
    intro hrest
    simp at hrest
  | @closeSettled b hrest =>
    cases b with
    | true =>
      intro hclosed
      simp [NldBthSignalingOwner.noteClose] at hclosed
    | false =>
      intro _
      have hoffline : s.state ≠ offline := fun hoffline => hop ⟨rfl, hoffline⟩
      rcases hrest with hstate | hstate | hstate
      · exact hattended (.inl hstate)
      · exact hattended (.inr hstate)
      · exact absurd hstate hoffline
  | disconnected _ hpnp _ => exact fun _ => hpnp
  | opened _ hpnp _ => exact fun _ => hpnp
  | openedLate _ =>
    intro hrest
    simp at hrest
  | openFailed _ _ hends => exact attended_ends hends
  | closeDone _ hends => exact attended_ends hends

theorem stray_unattended (h : Kept s) (hoffline : s.state = offline) :
    ¬ Attended (signalingOwner.next s (requestClose false)) := by
  have htarget := h.cleared (.inl hoffline)
  have hpnp := h.offline hoffline
  have hclosed : signalingOwner.next s (requestClose false) =
      { s.resetRequestFlags with state := closed } := by
    simp [Reducer.next, signalingOwner, NldBthSignalingOwner.requestClose,
      NldBthSignalingOwner.noteClose, NldBthSignalingOwner.resetRequestFlags, hoffline, htarget]
  intro hattended
  rw [hclosed] at hattended
  exact Bool.eq_false_iff.mp hpnp (hattended (.inl rfl))

theorem staysConsistent_iff (h : Kept s) (hattended : Attended s) (op : NldBthSignalingOp) :
    StaysConsistent s op ↔ ¬ StrayClose s op := by
  rw [StaysConsistent, isConsistent_iff (kept_step h op)]
  constructor
  · rintro hnext ⟨rfl, hoffline⟩
    exact stray_unattended h hoffline hnext
  · intro hop
    exact attended_effect hattended hop (s.signaling_effect op)

/-! ## A start after a stop -/

theorem stopped_effect (hpnp : s.pnpStarted = false) (he : SignalingEffect s op (answer, s'))
    (hop : op = pnpStart → s'.pnpStarted = false) : s'.pnpStarted = false := by
  cases he with
  | refused _ _ _ => exact hpnp
  | handedBack => exact hpnp
  | started _ => exact hop rfl
  | openSubmitted _ _ _ => exact hpnp
  | @closeNoted b _ _ _ => cases b <;> first | exact hpnp | rfl
  | @closeSubmitted b _ _ => cases b <;> first | exact hpnp | rfl
  | @closeSettled b _ => cases b <;> first | exact hpnp | rfl
  | disconnected _ _ _ => exact hpnp
  | opened _ _ _ => exact hpnp
  | openedLate _ => exact hpnp
  | openFailed _ _ _ => exact hpnp
  | closeDone _ _ => exact hpnp

theorem stopped_after {ops : List NldBthSignalingOp} (hpnp : s.pnpStarted = false)
    (hops : signalingOwner.Along StaysStopped s ops) :
    (signalingOwner.after s ops).pnpStarted = false :=
  Reducer.after_inv (P := fun s => s.pnpStarted = false)
    (fun s op hpnp hop => stopped_effect hpnp (s.signaling_effect op) hop) hpnp hops

theorem stopped_of_close (s : NldBthSignalingOwner) :
    (signalingOwner.next s (requestClose true)).pnpStarted = false := by
  show (s.requestClose true).2.pnpStarted = false
  unfold NldBthSignalingOwner.requestClose
  dsimp only
  split_ifs <;> rfl

theorem start_accepted (h : Kept s) (hattended : Attended s) (hpnp : s.pnpStarted = false)
    (hheld : s.channelHeld = false) (hpending : s.openPending = false) :
    (signalingOwner.next s pnpStart).state = closed ∧
      (signalingOwner.next s pnpStart).pnpStarted = true := by
  have hoffline : s.state = offline := by
    have hnot : ¬ s.pnpStarted = true := Bool.eq_false_iff.mp hpnp
    have hchannel := h.held
    have hopening := h.pending
    cases hstate : s.state with
    | offline => rfl
    | closed => exact absurd (hattended (.inl hstate)) hnot
    | faulted => exact absurd (hattended (.inr hstate)) hnot
    | opening => simp [hpending, hstate] at hopening
    | channelOpen => simp [hheld, hstate] at hchannel
    | closing => simp [hheld, hstate] at hchannel
  simp [Reducer.next, signalingOwner, NldBthSignalingOwner.onPnpStart,
    NldBthSignalingOwner.resetRequestFlags, hoffline, hpnp]

end

theorem along_consistent_iff (ops : List NldBthSignalingOp) :
    signalingOwner.Along StaysConsistent {} ops ↔
      signalingOwner.Along (fun s op => ¬ StrayClose s op) {} ops := by
  refine Reducer.along_congr (P := fun s => Kept s ∧ Attended s) (Q := fun _ _ => True)
    (fun s op h _ hop => ⟨kept_step h.1 op, (isConsistent_iff (kept_step h.1 op)).mp hop⟩)
    (fun s op h _ => staysConsistent_iff h.1 h.2 op) ⟨kept_initialized, ?_⟩
    (Reducer.along_of_forall (fun _ _ => trivial) _ ops)
  intro hstate
  simp at hstate

theorem attended_after {ops : List NldBthSignalingOp}
    (h : signalingOwner.Along (fun s op => ¬ StrayClose s op) {} ops) :
    Attended (signalingOwner.after {} ops) := by
  have hkept : Kept (signalingOwner.after {} ops) ∧ Attended (signalingOwner.after {} ops) := by
    refine Reducer.after_inv (P := fun s => Kept s ∧ Attended s)
      (fun s op h hop =>
        ⟨kept_step h.1 op, attended_effect h.2 hop (s.signaling_effect op)⟩)
      ⟨kept_initialized, ?_⟩ h
    intro hstate
    simp at hstate
  exact hkept.2

/-- **The owner is orderly** exactly along the runs without a stray close. -/
theorem signaling_orderly_iff (ops : List NldBthSignalingOp) :
    Orderly ops ↔ signalingOwner.Along (fun s op => ¬ StrayClose s op) {} ops := by
  constructor
  · rintro ⟨hconsistent, -⟩
    exact (along_consistent_iff ops).mp hconsistent
  · intro haimed
    refine ⟨(along_consistent_iff ops).mpr haimed, ?_⟩
    rintro before between later rfl hstopped s hheld hpending
    have hsplit : before ++ requestClose true :: between =
        before ++ [requestClose true] ++ between := by simp
    have hs : s = signalingOwner.after (signalingOwner.after {} (before ++ [requestClose true]))
        between := by rw [← Reducer.after_append, ← hsplit]
    have hclosed : (signalingOwner.after {} (before ++ [requestClose true])).pnpStarted = false := by
      rw [Reducer.after_append]
      exact stopped_of_close _
    have hpnp : s.pnpStarted = false := hs ▸ stopped_after hclosed hstopped
    have hattended := attended_after ((Reducer.along_append _ _ _).mp haimed).1
    exact start_accepted (kept_after _) hattended hpnp hheld hpending

/-- A close of an owner that was never started, or was stopped: it is closed without its
    device, and a start is refused. -/
theorem stray_close_disorderly :
    ¬ Orderly [requestClose false] ∧
      (signalingOwner.next (signalingOwner.after {} [requestClose true, requestClose false])
        pnpStart).pnpStarted = false := by
  refine ⟨?_, by decide⟩
  rintro ⟨hconsistent, -⟩
  exact absurd hconsistent (by decide)

end NativeLdac.DirectPdo
