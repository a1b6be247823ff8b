/-
  The loops that run a negotiation until an action of the source is not a command
  (`agent/v1_transport_configuration_session.cpp`,
  `direct-pdo/src/nativeldac_direct_pdo_dispatcher.c`): neither has a counter, and both end,
  because the source sends no more commands than the sinks that it has collected allow.
-/
import NativeLdac.Agent.TransportConfiguration
import NativeLdac.DirectPdo.Worker

namespace NativeLdac.DirectPdo

open NativeLdac.Protocol NativeLdac.Protocol.AvdtpSource NativeLdac.Agent

/-! ## What the other threads leave alone -/

namespace NldDirectPdoDispatcherContext

variable (context : NldDirectPdoDispatcherContext)

theorem avdtpSource_failed (reason : NldDirectPdoFailureReason) :
    (context.failed reason).avdtpSource = context.avdtpSource := by
  unfold failed
  split_ifs <;> rfl

theorem avdtpSource_transportDisconnected :
    context.transportDisconnected.2.avdtpSource = context.avdtpSource := by
  unfold transportDisconnected
  split_ifs
  · rfl
  · exact avdtpSource_failed _ _

theorem avdtpSource_start (now100ns : UInt64) :
    (context.start now100ns).2.avdtpSource = context.avdtpSource := by
  unfold start
  split_ifs <;> rfl

theorem avdtpSource_setFormat (sampleRateHz : UInt32) :
    (context.setFormat sampleRateHz).2.avdtpSource = context.avdtpSource := by
  unfold setFormat
  split_ifs <;> rfl

theorem avdtpSource_requestRecovery (request : NldDirectPdoRecoveryRequestV1)
    (requestSize : UInt32) :
    (context.requestRecovery request requestSize).2.2.avdtpSource = context.avdtpSource := by
  unfold requestRecovery
  dsimp only
  split_ifs <;> rfl

theorem avdtpSource_checkMediaWatchdog (timeoutMs : UInt32) (now100ns : UInt64) :
    (context.checkMediaWatchdog timeoutMs now100ns).2.avdtpSource = context.avdtpSource := by
  unfold checkMediaWatchdog
  dsimp only
  split_ifs
  · rfl
  · exact avdtpSource_failed _ _
  · rfl

end NldDirectPdoDispatcherContext

namespace DirectPdoRuntime

open NldDirectPdoDispatcherContext

/-- The source is the same, and the worker is where it was, or begins again. -/
structure SameSource (s t : DirectPdoRuntime) : Prop where
  avdtpSource : t.dispatcher.avdtpSource = s.dispatcher.avdtpSource
  point : t.worker.point = s.worker.point ∨ t.worker.point = .take

variable {s : DirectPdoRuntime}

theorem sameSource_queued {t : DirectPdoRuntime} (hworker : t.worker = s.worker)
    {result : Bool × NldDirectPdoDispatcherContext}
    (hsource : result.2.avdtpSource = s.dispatcher.avdtpSource) :
    s.SameSource (t.queued result) := by
  refine ⟨hsource, ?_⟩
  unfold queued
  dsimp only
  split_ifs
  · exact .inr rfl
  · exact .inl (congrArg DispatcherWorker.point hworker)

theorem sameSource_channelStep (side : ChannelSide) (op : SignalingChannelOp) :
    s.SameSource (s.channelStep side op) := by
  unfold channelStep
  dsimp only
  split
  · cases side <;> exact ⟨rfl, .inl rfl⟩
  · refine sameSource_queued ?_ ?_
    · cases side <;> rfl
    · rw [avdtpSource_transportDisconnected]
      cases side <;> rfl
  · cases side <;> exact ⟨rfl, .inl rfl⟩

theorem sameSource_self : s.SameSource s := ⟨rfl, .inl rfl⟩

theorem SameSource.lifecycle {t : DirectPdoRuntime} (h : s.SameSource t)
    (point : LifecyclePoint) : s.SameSource { t with lifecycle := point } :=
  ⟨h.avdtpSource, h.point⟩

theorem sameSource_stopCloses (side : ChannelSide) (targetOffline : Bool)
    (point : LifecyclePoint) : s.SameSource (s.stopCloses side targetOffline point) := by
  unfold stopCloses
  split_ifs
  · exact (sameSource_channelStep side _).lifecycle _
  · exact sameSource_self

theorem sameSource_stopClosesOn (side : ChannelSide) (succeeded : Bool)
    (point : LifecyclePoint) : s.SameSource (s.stopClosesOn side succeeded point) := by
  unfold stopClosesOn
  dsimp only
  split_ifs
  · exact (sameSource_channelStep side _).lifecycle _
  · exact sameSource_channelStep side _

theorem sameSource_lifecycleStep (succeeded : Bool) :
    s.SameSource (s.lifecycleStep succeeded) := by
  unfold lifecycleStep
  split
  · exact sameSource_self
  · exact (sameSource_channelStep .signaling _).lifecycle _
  · exact (sameSource_channelStep .media _).lifecycle _
  · exact (sameSource_channelStep .signaling _).lifecycle _
  · exact (sameSource_channelStep .media _).lifecycle _
  · exact sameSource_stopCloses _ _ _
  · exact sameSource_stopClosesOn _ _ _
  · exact sameSource_stopClosesOn _ _ _
  · split_ifs
    · exact sameSource_self.lifecycle _
    · exact sameSource_self
  · exact sameSource_stopCloses _ _ _
  · exact sameSource_stopClosesOn _ _ _
  · exact sameSource_stopClosesOn _ _ _
  · exact ⟨rfl, .inl rfl⟩

theorem sameSource_next {op : DirectPdoOp} (hop : ∀ input, op ≠ .worker input) :
    s.SameSource (directPdoRuntime.next s op) := by
  cases op with
  | worker input => exact absurd rfl (hop input)
  | start workItem now100ns =>
    simp only [Reducer.next, directPdoRuntime, step, DirectPdoRuntime.start]
    split_ifs
    · exact sameSource_self
    · exact sameSource_self
    · exact ⟨avdtpSource_start _ _, .inl rfl⟩
    · exact ⟨avdtpSource_start _ _, .inl rfl⟩
    · exact sameSource_self
    · exact sameSource_self
  | stop =>
    simp only [Reducer.next, directPdoRuntime, step, DirectPdoRuntime.stop]
    split_ifs
    · refine sameSource_queued ?_ ?_
      · rfl
      · rfl
    · exact sameSource_self
    · exact sameSource_self
  | lifecycle succeeded => exact sameSource_lifecycleStep succeeded
  | setFormat sampleRateHz => exact ⟨avdtpSource_setFormat _ _, .inl rfl⟩
  | setIntent intent =>
    simp only [Reducer.next, directPdoRuntime, step, DirectPdoRuntime.setIntent]
    split_ifs
    · exact sameSource_self
    · exact ⟨rfl, .inl rfl⟩
    · refine sameSource_queued ?_ ?_
      · rfl
      · rfl
  | requestRecovery request requestSize =>
    exact sameSource_queued rfl (avdtpSource_requestRecovery _ _ _)
  | checkMediaWatchdog timeoutMs now100ns =>
    exact sameSource_queued rfl (avdtpSource_checkMediaWatchdog _ _ _)
  | arbiterStop =>
    simp only [Reducer.next, directPdoRuntime, step]
    split_ifs
    · exact sameSource_self
    · exact ⟨rfl, .inl rfl⟩
  | channel side op =>
    simp only [Reducer.next, directPdoRuntime, step]
    split_ifs
    · exact sameSource_channelStep side op
    · exact sameSource_self
  | disconnectCallback i =>
    simp only [Reducer.next, directPdoRuntime, step, DirectPdoRuntime.disconnectCallback]
    split_ifs
    · refine sameSource_queued ?_ ?_
      · rfl
      · exact avdtpSource_transportDisconnected _
    · exact sameSource_self
  | arbiterStart | mediaWritten now100ns | diagnosticAcquire | diagnosticRelease generation =>
    exact ⟨rfl, .inl rfl⟩

end DirectPdoRuntime

/-! ## The loop of the dispatcher -/

/-- A point of `NldDirectPdoDispatcherRunAvdtp`, up to a session that is open. -/
def ExecutePoint.negotiates : ExecutePoint → Bool
  | .allocate expected _ | .run expected _ | .writing expected | .read expected
  | .reading expected | .openMedia expected | .mediaDrain expected | .mediaSnapshot expected =>
    expected = .sessionOpen
  | .settle | .attempt _ | .openDrain _ | .openSnapshot _ | .retryWait _ | .close _ | .closing _ =>
    false

/-- The top of the loop. -/
def ExecutePoint.isRound : ExecutePoint → Bool
  | .run _ _ => true
  | _ => false

namespace DirectPdoRuntime

def Negotiates (s : DirectPdoRuntime) : Prop :=
  ∃ point, s.worker.point = .execute point ∧ point.negotiates = true

/-- The worker is at the top of the loop. -/
def atRound (s : DirectPdoRuntime) : Bool :=
  match s.worker.point with
  | .execute point => point.isRound
  | _ => false

def beginsRound (s : DirectPdoRuntime) (op : DirectPdoOp) : Bool :=
  (directPdoRuntime.next s op).atRound && !s.atRound

end DirectPdoRuntime

def ExecutePoint.Rounds (k : Nat) (source : AvdtpSource) : ExecutePoint → Prop
  | .allocate expected action => expected = .sessionOpen ∧ AvdtpSource.Continues k (action, source)
  | .run expected action =>
    expected = .sessionOpen ∧
      if action.kind = .sendSignaling then CommandsSent k source
      else source.remoteSeids.length ≤ avdtpMaxRemoteSeids ∧
        (k ≤ maximumCommands source.remoteSeids.length + 1 ∨
          k ≤ maximumCommands source.remoteSeids.length + 2 ∧ action.kind ≠ .openMediaChannel)
  | .writing expected | .read expected | .reading expected =>
    expected = .sessionOpen ∧ CommandsSent k source
  | .openMedia expected | .mediaDrain expected | .mediaSnapshot expected =>
    expected = .sessionOpen ∧ source.remoteSeids.length ≤ avdtpMaxRemoteSeids ∧
      k ≤ maximumCommands source.remoteSeids.length + 1
  | .settle | .attempt _ | .openDrain _ | .openSnapshot _ | .retryWait _ | .close _ | .closing _ =>
    False

/-- A step of the worker counts the round that it begins, unless it leaves the loop. -/
def Execution.Counts (k : Nat) (atRound : Bool) (e : Execution) : Prop :=
  ∀ point, e.point = some point → point.negotiates = true →
    point.Rounds (k + (point.isRound && !atRound).toNat) e.avdtpSource

theorem ExecutePoint.Rounds.bounded {k : Nat} {source : AvdtpSource} {point : ExecutePoint}
    (h : point.Rounds k source) :
    source.remoteSeids.length ≤ avdtpMaxRemoteSeids ∧
      k ≤ maximumCommands source.remoteSeids.length + 2 := by
  cases point with
  | allocate expected action =>
    obtain ⟨-, h⟩ := h
    unfold AvdtpSource.Continues at h
    split_ifs at h
    · exact ⟨h.table, Nat.le_trans h.bounded.of_succ.sent (Nat.le_add_right _ 2)⟩
    · exact ⟨h.table, Nat.le_trans h.sent (Nat.le_add_right _ 2)⟩
  | run expected action =>
    obtain ⟨-, h⟩ := h
    split_ifs at h
    · exact ⟨h.table, Nat.le_trans h.bounded.sent (Nat.le_add_right _ 2)⟩
    · obtain ⟨htable, h | h⟩ := h
      · exact ⟨htable, Nat.le_succ_of_le h⟩
      · exact ⟨htable, h.1⟩
  | writing expected | read expected | reading expected =>
    exact ⟨h.2.table, Nat.le_trans h.2.bounded.sent (Nat.le_add_right _ 2)⟩
  | openMedia expected | mediaDrain expected | mediaSnapshot expected =>
    exact ⟨h.2.1, Nat.le_succ_of_le h.2.2⟩
  | settle | attempt _ | openDrain _ | openSnapshot _ | retryWait _ | close _ | closing _ =>
    exact h.elim

theorem rounds_of_continues {k : Nat} {result : AvdtpAction × AvdtpSource}
    (h : AvdtpSource.Continues k result) :
    (ExecutePoint.run .sessionOpen result.1).Rounds (k + 1) result.2 := by
  refine ⟨rfl, ?_⟩
  unfold AvdtpSource.Continues at h
  split_ifs at h ⊢
  · exact h
  · exact ⟨h.table, .inl (Nat.succ_le_succ h.sent)⟩

namespace DirectPdoRuntime

variable {s : DirectPdoRuntime} {k : Nat} {atRound : Bool}

theorem counts_goesTo {point : ExecutePoint}
    (h : point.Rounds (k + (point.isRound && !atRound).toNat) s.dispatcher.avdtpSource) :
    (s.goesTo point).Counts k atRound := by
  intro point' hpoint _
  cases hpoint
  exact h

theorem counts_ranAvdtp (status : NtStatus) :
    (s.ranAvdtp .sessionOpen status).Counts k atRound := by
  intro point hpoint hnegotiates
  unfold ranAvdtp at hpoint
  split at hpoint
  · split_ifs at hpoint
    · cases hpoint
    · cases hpoint
      cases hnegotiates
  · rw [if_neg (fun h => nomatch h.1)] at hpoint
    cases hpoint
    cases hnegotiates
  · cases hpoint

theorem counts_transfers {point begun : ExecutePoint} {direction : NldBthTransferDirection}
    {fits : Bool} (hstays : (s.goesTo point).Counts k atRound)
    (hbegun : (s.goesTo begun).Counts k atRound) :
    (s.transfers point direction fits begun (s.ranAvdtp .sessionOpen)).Counts k atRound := by
  unfold transfers
  split_ifs
  · exact hstays
  · cases htransfer : transferStatus s.signaling direction fits with
    | some status => exact counts_ranAvdtp status
    | none => exact hbegun

theorem counts_transferred {input : ThreadInput} {next : Execution}
    (hnext : next.Counts k atRound) :
    (s.transferred .sessionOpen input next).Counts k atRound := by
  unfold transferred
  split_ifs
  · exact hnext
  · exact counts_ranAvdtp _

theorem counts_opens {point sent : ExecutePoint} {side : ChannelSide} {input : ThreadInput}
    (hstays : (s.goesTo point).Counts k atRound) (hsent : (s.goesTo sent).Counts k atRound) :
    (s.opens point side input sent (s.ranAvdtp .sessionOpen)).Counts k atRound := by
  unfold opens
  dsimp only
  split_ifs
  · exact hstays
  · exact hsent
  · exact counts_ranAvdtp _

theorem counts_drains {point drained : ExecutePoint} {side : ChannelSide} {input : ThreadInput}
    (hstays : (s.goesTo point).Counts k atRound)
    (hdrained : (s.goesTo drained).Counts k atRound) :
    (s.drains point side input drained (s.ranAvdtp .sessionOpen)).Counts k atRound := by
  unfold drains
  split_ifs
  · exact hdrained
  · exact counts_ranAvdtp _
  · exact hstays

theorem counts_handlesAction {action : AvdtpAction}
    (h : (ExecutePoint.run .sessionOpen action).Rounds k s.dispatcher.avdtpSource) :
    (s.handlesAction .sessionOpen action).Counts k true := by
  have hround := h
  obtain ⟨-, h⟩ := h
  unfold handlesAction
  split_ifs with hexpected herror hmedia hrefused
  · exact counts_ranAvdtp _
  · exact counts_ranAvdtp _
  · refine counts_goesTo ⟨rfl, ?_⟩
    rw [if_neg (by rw [hmedia]; exact nofun)] at h
    obtain ⟨htable, h | h⟩ := h
    · exact ⟨htable, h⟩
    · exact absurd hmedia h.2
  · exact counts_ranAvdtp _
  · have hsends : action.kind = .sendSignaling := not_not.mp fun hne => hrefused (.inl hne)
    rw [if_pos hsends] at h
    exact counts_transfers (counts_goesTo hround) (counts_goesTo ⟨rfl, h⟩)

theorem mediaChannelOpened_cases (source : AvdtpSource) :
    source.mediaChannelOpened.1.kind ≠ .sendSignaling ∧
      source.mediaChannelOpened.1.kind ≠ .openMediaChannel ∧
      source.mediaChannelOpened.2.remoteSeids = source.remoteSeids := by
  unfold AvdtpSource.mediaChannelOpened
  split_ifs <;> exact ⟨nofun, nofun, rfl⟩

theorem counts_execution {point : ExecutePoint} (input : ThreadInput)
    (h : point.Rounds k s.dispatcher.avdtpSource) :
    (s.execution input point).Counts k point.isRound := by
  cases point with
  | allocate expected action =>
    obtain ⟨rfl, h⟩ := h
    simp only [execution]
    split_ifs
    · exact counts_goesTo (rounds_of_continues h)
    · exact counts_ranAvdtp _
  | run expected action =>
    obtain ⟨rfl, -⟩ := id h
    exact counts_handlesAction h
  | writing expected =>
    obtain ⟨rfl, h⟩ := h
    exact counts_transferred (counts_goesTo ⟨rfl, h⟩)
  | read expected =>
    obtain ⟨rfl, h⟩ := h
    exact counts_transfers (counts_goesTo ⟨rfl, h⟩) (counts_goesTo ⟨rfl, h⟩)
  | reading expected =>
    obtain ⟨rfl, h⟩ := h
    refine counts_transferred ?_
    intro point' hpoint _
    cases hpoint
    exact rounds_of_continues (h.handleSignaling input.response)
  | openMedia expected =>
    obtain ⟨rfl, h⟩ := h
    exact counts_opens (counts_goesTo ⟨rfl, h⟩) (counts_goesTo ⟨rfl, h⟩)
  | mediaDrain expected =>
    obtain ⟨rfl, h⟩ := h
    exact counts_drains (counts_goesTo ⟨rfl, h⟩) (counts_goesTo ⟨rfl, h⟩)
  | mediaSnapshot expected =>
    obtain ⟨rfl, htable, hk⟩ := h
    simp only [execution]
    split_ifs
    · intro point' hpoint _
      cases hpoint
      obtain ⟨hsends, hmedia, hseids⟩ := mediaChannelOpened_cases s.dispatcher.avdtpSource
      refine ⟨rfl, ?_⟩
      rw [if_neg hsends]
      simp only [runsOn, hseids]
      exact ⟨htable, .inr ⟨Nat.succ_le_succ hk, hmedia⟩⟩
    · exact counts_ranAvdtp _
  | settle | attempt _ | openDrain _ | openSnapshot _ | retryWait _ | close _ | closing _ =>
    exact h.elim

def RoundsBegun (s : DirectPdoRuntime) (k : Nat) : Prop :=
  ∃ point, s.worker.point = .execute point ∧ point.Rounds k s.dispatcher.avdtpSource

theorem avdtpSource_executing (e : Execution) :
    (s.executing e).dispatcher.avdtpSource = e.avdtpSource ∧
      (s.executing e).worker.point = e.point.elim .release .execute :=
  ⟨rfl, rfl⟩

theorem atRound_eq {point : ExecutePoint} (h : s.worker.point = .execute point) :
    s.atRound = point.isRound := by
  unfold DirectPdoRuntime.atRound
  rw [h]

theorem roundsBegun_next (h : s.RoundsBegun k) (op : DirectPdoOp)
    (hin : (directPdoRuntime.next s op).Negotiates) :
    (directPdoRuntime.next s op).RoundsBegun (k + (s.beginsRound op).toNat) := by
  obtain ⟨point, hpoint, hrounds⟩ := h
  obtain ⟨next, hnext, hnegotiates⟩ := hin
  unfold beginsRound
  rw [atRound_eq hpoint, atRound_eq hnext]
  by_cases hop : ∃ input, op = .worker input
  · obtain ⟨input, rfl⟩ := hop
    have hstep : directPdoRuntime.next s (.worker input) =
        s.executing (s.execution input point) := by
      simp only [Reducer.next, directPdoRuntime, step, workerStep, hpoint]
    rw [hstep] at hnext ⊢
    obtain ⟨hsource, hat⟩ := @avdtpSource_executing s (s.execution input point)
    refine ⟨next, hnext, ?_⟩
    rw [hat] at hnext
    rw [hsource]
    cases he : (s.execution input point).point with
    | none =>
      rw [he] at hnext
      cases hnext
    | some point' =>
      rw [he] at hnext
      cases hnext
      exact counts_execution input hrounds _ he hnegotiates
  · obtain ⟨hsource, hsame | htake⟩ := sameSource_next fun input heq => hop ⟨input, heq⟩
    · rw [hpoint, hnext] at hsame
      cases hsame
      refine ⟨point, hnext, ?_⟩
      rw [hsource, Bool.and_not_self]
      exact hrounds
    · rw [htake] at hnext
      cases hnext

theorem roundsBegun_after {ops : List DirectPdoOp} (h : s.RoundsBegun k)
    (hin : directPdoRuntime.Along (fun s op => (directPdoRuntime.next s op).Negotiates) s ops) :
    (directPdoRuntime.after s ops).RoundsBegun
      (k + directPdoRuntime.count beginsRound s ops) := by
  induction ops generalizing s k with
  | nil => exact h
  | cons op ops ih =>
    have hrest := ih (roundsBegun_next h op hin.1) hin.2
    rw [Nat.add_assoc] at hrest
    exact hrest

end DirectPdoRuntime

/-! ## The loop of the configuration session -/

section
variable {R Ω : Type}

/-- A round of the loop of a negotiation. -/
def sendingRound (exchange : AvdtpAction → Prog (HandshakeSession R Ω) (Option AvdtpAction))
    (action : AvdtpAction) : Prog (HandshakeSession R Ω) (AvdtpAction ⊕ Option AvdtpAction) := do
  if action.kind ≠ .sendSignaling then
    return .inr (some action)
  match ← exchange action with
  | none => return .inr none
  | some next => return .inl next

/-- What an exchange leaves of the source: it handled a reply, or ended the session before. -/
def Exchanges (source : AvdtpSource) (r : Option AvdtpAction) (source' : AvdtpSource) : Prop :=
  r = none ∧ source' = source ∨
    ∃ reply, source' = (source.handleSignaling reply).2 ∧
      ∀ next, r = some next → next = (source.handleSignaling reply).1

theorem Exchanges.bounded {k : Nat} {source source' : AvdtpSource} {r : Option AvdtpAction}
    (hx : Exchanges source r source') (h : CommandsSent k source) :
    CommandsBounded k source' ∧ ∀ next, r = some next → AvdtpSource.Continues k (next, source') := by
  rcases hx with ⟨rfl, rfl⟩ | ⟨reply, rfl, hnext⟩
  · exact ⟨h.bounded, nofun⟩
  · have hcontinues := h.handleSignaling reply
    refine ⟨?_, fun next hr => hnext next hr ▸ hcontinues⟩
    unfold AvdtpSource.Continues at hcontinues
    split_ifs at hcontinues
    · exact hcontinues.bounded.of_succ
    · exact hcontinues

theorem iterate_succ_run {σ ι β : Type} {body : ι → Prog σ (ι ⊕ β)} {i : ι} {s s' : σ}
    {r : ι ⊕ β} (h : body i s = (some r, s')) (n : Nat) :
    Prog.iterate body (n + 1) i s =
      r.elim (fun j => Prog.iterate body n j s') fun b => (some b, s') := by
  rw [Prog.iterate, Prog.bind_run h]
  cases r <;> rfl

section
variable {exchange : AvdtpAction → Prog (HandshakeSession R Ω) (Option AvdtpAction)}
  {action : AvdtpAction} {s s' : HandshakeSession R Ω}

theorem sendingRound_ends (hk : action.kind ≠ .sendSignaling) :
    sendingRound exchange action s = (some (.inr (some action)), s) := by
  unfold sendingRound
  rw [if_pos hk]
  rfl

theorem sendingRound_exchanges (hk : action.kind = .sendSignaling) {r : Option AvdtpAction}
    (hrun : exchange action s = (some r, s')) :
    sendingRound exchange action s =
      (some (r.elim (.inr none) .inl), s') := by
  unfold sendingRound
  rw [if_neg (not_not.mpr hk)]
  refine (Prog.bind_run hrun).trans ?_
  cases r <;> rfl

theorem sendingRounds_end (hx : ∀ action s, Prog.wp (exchange action)
      (fun r s' => Exchanges s.avdtp r s'.avdtp) (fun _ => False) s)
    (left : Nat) {k : Nat} (h : AvdtpSource.Continues k (action, s.avdtp))
    (hleft : maximumCommands avdtpMaxRemoteSeids < k + left) :
    ∃ rounds r s', CommandsBounded (k + rounds) s'.avdtp ∧
      ∀ fuel > rounds, Prog.iterate (sendingRound exchange) fuel action s = (some r, s') := by
  induction left generalizing k action s with
  | zero =>
    unfold AvdtpSource.Continues at h
    have hbounded : CommandsBounded k s.avdtp := by
      split_ifs at h
      · exact h.bounded.of_succ
      · exact h
    have hmost := Nat.le_trans hbounded.sent (maximumCommands_mono hbounded.table)
    exact absurd hleft (Nat.not_lt.mpr hmost)
  | succ left ih =>
    unfold AvdtpSource.Continues at h
    split_ifs at h with hk
    · obtain ⟨r, s', hrun, hexchanges⟩ := Prog.wp_run (hx action s)
      obtain ⟨hbounded, hnext⟩ := hexchanges.bounded h
      have hround := sendingRound_exchanges hk hrun
      cases r with
      | none =>
        refine ⟨0, none, s', hbounded.of_succ, fun fuel hfuel => ?_⟩
        obtain ⟨n, rfl⟩ := Nat.exists_eq_succ_of_ne_zero (Nat.ne_of_gt hfuel)
        exact iterate_succ_run hround n
      | some next =>
        obtain ⟨rounds, r, s'', hends, hrest⟩ := ih (hnext next rfl) (by omega)
        refine ⟨rounds + 1, r, s'', ?_, fun fuel hfuel => ?_⟩
        · rwa [Nat.add_right_comm, Nat.add_assoc] at hends
        · obtain ⟨n, rfl⟩ := Nat.exists_eq_succ_of_ne_zero (Nat.ne_of_gt (Nat.zero_lt_of_lt hfuel))
          exact (iterate_succ_run hround n).trans (hrest n (Nat.lt_of_succ_lt_succ hfuel))
    · refine ⟨0, some action, s, h, fun fuel hfuel => ?_⟩
      obtain ⟨n, rfl⟩ := Nat.exists_eq_succ_of_ne_zero (Nat.ne_of_gt hfuel)
      exact iterate_succ_run (sendingRound_ends hk) n

end

open Handshake Handshake.Configuration in
theorem wp_exchangeAction {backend : V1TransportConfigurationBackend Ω}
    {options : V1TransportConfigurationOptions} {probe : V1TransportCancelProbe Ω}
    (action : AvdtpAction) (s : ConfigurationSession Ω) :
    Prog.wp (exchangeAction backend options probe action)
      (fun r s' => Exchanges s.avdtp r s'.avdtp) (fun _ => False) s := by
  unfold exchangeAction
  cases commandHeader? action with
  | none => exact .inl ⟨rfl, rfl⟩
  | some header =>
    simp only [Prog.wp_bind, Prog.wp_ite, Prog.wp_pure, wp_report, isCancelled, wp_ask,
      wp_askLogged, wp_operate, setPrimaryHere]
    split_ifs
    · exact .inl ⟨rfl, rfl⟩
    · exact .inl ⟨rfl, rfl⟩
    · exact .inr ⟨_, rfl, by rintro _ ⟨⟩⟩
    · exact .inr ⟨_, rfl, fun next hnext => (Option.some.inj hnext).symm⟩

end

/-! ## Both loops -/

/-- **The loops end**, whatever the peer does: the source goes on to an action that is not a
    command after no more commands than the collected sinks allow, the loop of the configuration
    session returns after no more exchanges, and the loop of the dispatcher begins no more
    rounds, but for two of the media channel. -/
theorem negotiations_end (localCapabilities : LdacCapabilities) (localSeid : UInt8)
    (preferredSampleRateHz : UInt32) :
    let source := AvdtpSource.init localCapabilities localSeid preferredSampleRateHz
    (∀ replies, ∃ k, (AvdtpSource.negotiation source replies k).1.kind ≠ .sendSignaling ∧
        CommandsBounded k (AvdtpSource.negotiation source replies k).2 ∧
        ∀ j < k, (AvdtpSource.negotiation source replies j).1.kind = .sendSignaling) ∧
      (∀ {Ω : Type} (backend : V1TransportConfigurationBackend Ω)
        (options : V1TransportConfigurationOptions) (probe : V1TransportCancelProbe Ω)
        (s : ConfigurationSession Ω), s.avdtp = source.begin_.2 →
        ∃ rounds r s', CommandsBounded rounds s'.avdtp ∧
          ∀ fuel > rounds,
            Prog.iterate
              (sendingRound (Handshake.Configuration.exchangeAction backend options probe)) fuel
              source.begin_.1 s = (some r, s')) ∧
      ∀ s : DirectPdoRuntime,
        s.worker.point = .execute (.allocate .sessionOpen source.begin_.1) →
        s.dispatcher.avdtpSource = source.begin_.2 →
        ∀ ops, directPdoRuntime.Along
            (fun s op => (directPdoRuntime.next s op).Negotiates) s ops →
          let last := (directPdoRuntime.after s ops).dispatcher.avdtpSource
          directPdoRuntime.count DirectPdoRuntime.beginsRound s ops ≤
              maximumCommands last.remoteSeids.length + 2 ∧
            last.remoteSeids.length ≤ avdtpMaxRemoteSeids := by
  intro source
  have hbegin : AvdtpSource.Continues 0 source.begin_ :=
    continues_begin localCapabilities localSeid preferredSampleRateHz
  refine ⟨negotiation_bounded _ _ _, ?_, ?_⟩
  · intro Ω backend options probe s hs
    have hstart : AvdtpSource.Continues 0 (source.begin_.1, s.avdtp) := by
      rw [hs]
      exact hbegin
    obtain ⟨rounds, r, s', hbounded, hrun⟩ := sendingRounds_end
      (fun action s => wp_exchangeAction action s)
      (maximumCommands avdtpMaxRemoteSeids + 1) hstart (by omega)
    rw [Nat.zero_add] at hbounded
    exact ⟨rounds, r, s', hbounded, hrun⟩
  · intro s hpoint hsource ops hin
    have hstart : AvdtpSource.Continues 0 (source.begin_.1, s.dispatcher.avdtpSource) := by
      rw [hsource]
      exact hbegin
    have hrounds : s.RoundsBegun 0 := ⟨_, hpoint, rfl, hstart⟩
    obtain ⟨point, -, hafter⟩ := DirectPdoRuntime.roundsBegun_after hrounds hin
    rw [Nat.zero_add] at hafter
    exact ⟨hafter.bounded.2, hafter.bounded.1⟩

/-- The source that the dispatcher begins a session with. -/
def openingSource : AvdtpSource := .init ⟨ldacSfAll, ldacCmAll⟩ 1 48000

/-- The dispatcher begins a session. -/
def openingSession : DirectPdoRuntime :=
  { dispatcher := { avdtpSource := openingSource.begin_.2 }
    worker := { point := .execute (.allocate .sessionOpen openingSource.begin_.1) } }

/-- The first command goes out. -/
theorem negotiations_end_opening :
    directPdoRuntime.count DirectPdoRuntime.beginsRound openingSession [.worker {}] ≤
      maximumCommands 0 + 2 :=
  ((negotiations_end ⟨ldacSfAll, ldacCmAll⟩ 1 48000).2.2 openingSession rfl rfl [.worker {}]
    ⟨⟨_, rfl, rfl⟩, trivial⟩).1

end NativeLdac.DirectPdo
