/-
  The conversation of a handoff (`agent/v1_avrcp_handoff_ipc.cpp`, and the request loop of
  `agent/v1_avrcp_handoff_host.cpp`): the daily host and the elevated host, a state file
  that both replace, and four manual-reset events.

  * a step is one operation on the file or on an event, by either side, so that a list of
    steps is an interleaving of the two;
  * what a session of the elevated host does is left open, but for its completions;
  * a wait that returns `ok` follows a completion; a request is read with its identity if
    no other record is written over it before.
-/
import Mathlib.Logic.Function.Basic
import Mathlib.Tactic.SplitIfs
import Mathlib.Tactic.Tauto
import NativeLdac.Lib.Reducer

namespace NativeLdac.Agent

inductive HandoffKind where
  | handoff | restore
  deriving DecidableEq, Repr

structure RequestIdentity where
  aclGeneration : UInt64
  restartCount : UInt32
  deriving DecidableEq, Repr

/-- The `state` of the file -/
inductive HandoffFileState where
  | handoffPending | observerActive | restorePending | microsoftHeld
  deriving DecidableEq, Repr

namespace HandoffKind

/-- The state that a request writes -/
def pending : HandoffKind → HandoffFileState
  | handoff => .handoffPending
  | restore => .restorePending

/-- The state that a completion writes, and a wait expects -/
def completed : HandoffKind → HandoffFileState
  | handoff => .observerActive
  | restore => .microsoftHeld

theorem pending_ne_completed (kind kind' : HandoffKind) : kind.pending ≠ kind'.completed := by
  cases kind <;> cases kind' <;> decide

theorem completed_inj {kind kind' : HandoffKind} (h : kind.completed = kind'.completed) :
    kind = kind' := by
  cases kind <;> cases kind' <;> first | rfl | exact absurd h (by decide)

end HandoffKind

structure HandoffFile where
  state : HandoffFileState
  identity : RequestIdentity
  errorText : String
  deriving DecidableEq, Repr

inductive V1AvrcpHandoffWaitResult where
  | ok | timedOut | failed
  deriving DecidableEq, Repr

/-! ## The two hosts -/

inductive DailyPoint where
  | idle
  /-- the done event of a request is reset -/
  | requested (kind : HandoffKind)
  /-- the state file of a request is written -/
  | recorded (kind : HandoffKind)
  /-- the done event has fired -/
  | doneFired (kind : HandoffKind)
  deriving DecidableEq, Repr

inductive HostPoint where
  | waiting
  | fired (kind : HandoffKind)
  /-- the event of the request is reset -/
  | taken (kind : HandoffKind)
  | session (kind : HandoffKind) (identity : RequestIdentity)
  /-- a completion is written -/
  | completed (done kind : HandoffKind) (identity : RequestIdentity)
  deriving DecidableEq, Repr

structure HandoffIpc where
  file : Option HandoffFile := none
  request : HandoffKind → Bool := fun _ => false
  done : HandoffKind → Bool := fun _ => false
  daily : DailyPoint := .idle
  expected : HandoffKind → RequestIdentity := fun _ => ⟨0, 0⟩
  host : HostPoint := .waiting
  /-- (ghost) the request of a kind that was last written -/
  issued : HandoffKind → Option RequestIdentity := fun _ => none
  /-- (ghost) since then, a completion of the kind without an error was written for the request -/
  answered : HandoffKind → Bool := fun _ => false

inductive HandoffIpcStep where
  /-- `RequestHandoff`, `RequestRestore`: the done event is reset, the file written, the request
      event set. -/
  | requestReset (kind : HandoffKind) (identity : RequestIdentity)
  | requestWrite
  | requestSet
  /-- `WaitDone`: the wait ends, and the file is read if the event has fired. -/
  | waitDone (kind : HandoffKind)
  | waitRead
  /-- `WaitForAnyRequest`, the reset of the event, and `ReadRequestInfo` -/
  | hostWait
  | hostReset
  | hostRead
  /-- `SignalHandoffCompleted`, `SignalRestoreCompleted`: the file is written, the event set. -/
  | completeWrite (kind : HandoffKind) (errorText : String)
  | completeSet
  | sessionEnds
  deriving DecidableEq, Repr

inductive HandoffIpcOutput where
  | nothing
  | waited (kind : HandoffKind) (result : V1AvrcpHandoffWaitResult)
  | read (kind : HandoffKind) (identity : RequestIdentity)
  deriving DecidableEq, Repr

namespace HandoffIpc

/-- `WaitDone`: what is made of the file -/
def waitResult (s : HandoffIpc) (kind : HandoffKind) : V1AvrcpHandoffWaitResult :=
  match s.file with
  | none => .failed
  | some file =>
    if file.state ≠ kind.completed ∨ file.identity ≠ s.expected kind ∨ file.errorText ≠ "" then
      .failed
    else .ok

/-- `ReadRequestInfo`; without a file its results keep their zeros. -/
def readRequestInfo (s : HandoffIpc) : RequestIdentity :=
  (s.file.map HandoffFile.identity).getD ⟨0, 0⟩

def dailyStep (s : HandoffIpc) : HandoffIpcStep → HandoffIpcOutput × HandoffIpc
  | .requestReset kind identity =>
    match s.daily with
    | .idle =>
      (.nothing,
        { s with
          done := Function.update s.done kind false
          expected := Function.update s.expected kind identity
          daily := .requested kind })
    | _ => (.nothing, s)
  | .requestWrite =>
    match s.daily with
    | .requested kind =>
      (.nothing,
        { s with
          file := some ⟨kind.pending, s.expected kind, ""⟩
          daily := .recorded kind
          issued := Function.update s.issued kind (some (s.expected kind))
          answered := Function.update s.answered kind false })
    | _ => (.nothing, s)
  | .requestSet =>
    match s.daily with
    | .recorded kind =>
      (.nothing, { s with request := Function.update s.request kind true, daily := .idle })
    | _ => (.nothing, s)
  | .waitDone kind =>
    match s.daily with
    | .idle =>
      if s.done kind then (.nothing, { s with daily := .doneFired kind })
      else (.waited kind .timedOut, s)
    | _ => (.nothing, s)
  | .waitRead =>
    match s.daily with
    | .doneFired kind => (.waited kind (s.waitResult kind), { s with daily := .idle })
    | _ => (.nothing, s)
  | _ => (.nothing, s)

/-- A step of the elevated host; of two requests the handoff is taken. -/
def hostStep (s : HandoffIpc) : HandoffIpcStep → HandoffIpcOutput × HandoffIpc
  | .hostWait =>
    match s.host with
    | .waiting =>
      if s.request .handoff then (.nothing, { s with host := .fired .handoff })
      else if s.request .restore then (.nothing, { s with host := .fired .restore })
      else (.nothing, s)
    | _ => (.nothing, s)
  | .hostReset =>
    match s.host with
    | .fired kind =>
      (.nothing, { s with request := Function.update s.request kind false, host := .taken kind })
    | _ => (.nothing, s)
  | .hostRead =>
    match s.host with
    | .taken kind =>
      (.read kind s.readRequestInfo, { s with host := .session kind s.readRequestInfo })
    | _ => (.nothing, s)
  | .completeWrite done errorText =>
    match s.host with
    | .session kind identity =>
      (.nothing,
        { s with
          file := some ⟨done.completed, identity, errorText⟩
          host := .completed done kind identity
          answered := Function.update s.answered done
            (s.answered done || (errorText == "" && identity == s.expected done)) })
    | _ => (.nothing, s)
  | .completeSet =>
    match s.host with
    | .completed done kind identity =>
      (.nothing,
        { s with done := Function.update s.done done true, host := .session kind identity })
    | _ => (.nothing, s)
  | .sessionEnds =>
    match s.host with
    | .session _ _ => (.nothing, { s with host := .waiting })
    | _ => (.nothing, s)
  | _ => (.nothing, s)

end HandoffIpc

def HandoffIpcStep.isHost : HandoffIpcStep → Bool
  | .hostWait | .hostReset | .hostRead | .completeWrite _ _ | .completeSet | .sessionEnds => true
  | _ => false

def handoffIpc : Reducer HandoffIpc HandoffIpcStep HandoffIpcOutput where
  step s step := if step.isHost then s.hostStep step else s.dailyStep step

namespace HandoffIpc

/-! ## What a run shows -/

/-- What the elevated host reads is the request of the kind that was last written. -/
def ReadsIssued (s : HandoffIpc) (step : HandoffIpcStep) : Prop :=
  ∀ kind identity, handoffIpc.out s step = .read kind identity → s.issued kind = some identity

/-- A wait that returns `ok` follows a completion of its request. -/
def WaitAnswered (s : HandoffIpc) (step : HandoffIpcStep) : Prop :=
  ∀ kind, handoffIpc.out s step = .waited kind .ok → s.answered kind

/-- A request of the kind waits to be read. -/
def Outstanding (s : HandoffIpc) (kind : HandoffKind) : Prop :=
  s.daily = .recorded kind ∨ s.request kind ∨ s.host = .fired kind ∨ s.host = .taken kind

instance (s : HandoffIpc) (kind : HandoffKind) : Decidable (s.Outstanding kind) :=
  inferInstanceAs (Decidable (_ ∨ _))

/-- A record of the identity would not disagree with a request that waits to be read. -/
def Agrees (s : HandoffIpc) (identity : RequestIdentity) (kind : HandoffKind) : Prop :=
  s.Outstanding kind → s.issued kind = some identity

instance (s : HandoffIpc) (identity : RequestIdentity) (kind : HandoffKind) :
    Decidable (s.Agrees identity kind) :=
  inferInstanceAs (Decidable (_ → _))

/-- The identity of the record that a step writes, and the kind of the request if it is one -/
def written (s : HandoffIpc) : HandoffIpcStep → Option (RequestIdentity × Option HandoffKind)
  | .requestWrite =>
    match s.daily with
    | .requested kind => some (s.expected kind, some kind)
    | _ => none
  | .completeWrite _ _ =>
    match s.host with
    | .session _ identity => some (identity, none)
    | _ => none
  | _ => none

/-- A record that is written has the identity of the requests that wait to be read; a request
    replaces those of its kind. -/
def Undisturbed (s : HandoffIpc) (step : HandoffIpcStep) : Prop :=
  ∀ record ∈ s.written step,
    (record.2 = some .handoff ∨ s.Agrees record.1 .handoff) ∧
    (record.2 = some .restore ∨ s.Agrees record.1 .restore)

instance (s : HandoffIpc) (step : HandoffIpcStep) : Decidable (s.Undisturbed step) :=
  inferInstanceAs (Decidable (∀ record ∈ s.written step, _))

variable {s : HandoffIpc} {output : HandoffIpcOutput} {s' : HandoffIpc}

theorem Undisturbed.agrees {step : HandoffIpcStep} (h : s.Undisturbed step)
    {identity : RequestIdentity} {request : Option HandoffKind}
    (hwritten : s.written step = some (identity, request)) {kind : HandoffKind}
    (hkind : request ≠ some kind) : s.Agrees identity kind := by
  obtain ⟨hhandoff, hrestore⟩ := h _ hwritten
  cases kind with
  | handoff => exact hhandoff.resolve_left hkind
  | restore => exact hrestore.resolve_left hkind

/-! ## What a step does -/

/-- The effects of a step of the daily host -/
inductive DailyMoves (s : HandoffIpc) : HandoffIpcStep → HandoffIpcOutput × HandoffIpc → Prop
  | stays {step} : DailyMoves s step (.nothing, s)
  | timedOut (kind) : DailyMoves s (.waitDone kind) (.waited kind .timedOut, s)
  | requestReset (kind identity) : s.daily = .idle →
    DailyMoves s (.requestReset kind identity) (.nothing,
      { s with
        done := Function.update s.done kind false
        expected := Function.update s.expected kind identity
        daily := .requested kind })
  | requestWrite (kind) : s.daily = .requested kind →
    DailyMoves s .requestWrite (.nothing,
      { s with
        file := some ⟨kind.pending, s.expected kind, ""⟩
        daily := .recorded kind
        issued := Function.update s.issued kind (some (s.expected kind))
        answered := Function.update s.answered kind false })
  | requestSet (kind) : s.daily = .recorded kind →
    DailyMoves s .requestSet
      (.nothing, { s with request := Function.update s.request kind true, daily := .idle })
  | waitDone (kind) : s.daily = .idle →
    DailyMoves s (.waitDone kind) (.nothing, { s with daily := .doneFired kind })
  | waitRead (kind) : s.daily = .doneFired kind →
    DailyMoves s .waitRead (.waited kind (s.waitResult kind), { s with daily := .idle })

theorem dailyStep_moves (s : HandoffIpc) (step : HandoffIpcStep) :
    DailyMoves s step (s.dailyStep step) := by
  cases step with
  | requestReset kind identity =>
    cases hdaily : s.daily <;> simp only [dailyStep, hdaily]
    case idle => exact .requestReset kind identity hdaily
    all_goals exact .stays
  | requestWrite =>
    cases hdaily : s.daily <;> simp only [dailyStep, hdaily]
    case requested kind => exact .requestWrite kind hdaily
    all_goals exact .stays
  | requestSet =>
    cases hdaily : s.daily <;> simp only [dailyStep, hdaily]
    case recorded kind => exact .requestSet kind hdaily
    all_goals exact .stays
  | waitDone kind =>
    cases hdaily : s.daily <;> simp only [dailyStep, hdaily]
    case idle =>
      split_ifs
      · exact .waitDone kind hdaily
      · exact .timedOut kind
    all_goals exact .stays
  | waitRead =>
    cases hdaily : s.daily <;> simp only [dailyStep, hdaily]
    case doneFired kind => exact .waitRead kind hdaily
    all_goals exact .stays
  | _ => exact .stays

/-- The effects of a step of the elevated host -/
inductive HostMoves (s : HandoffIpc) : HandoffIpcStep → HandoffIpcOutput × HandoffIpc → Prop
  | stays {step} : HostMoves s step (.nothing, s)
  | hostWait (kind) : s.host = .waiting → s.request kind →
    HostMoves s .hostWait (.nothing, { s with host := .fired kind })
  | hostReset (kind) : s.host = .fired kind →
    HostMoves s .hostReset (.nothing,
      { s with request := Function.update s.request kind false, host := .taken kind })
  | hostRead (kind) : s.host = .taken kind →
    HostMoves s .hostRead
      (.read kind s.readRequestInfo, { s with host := .session kind s.readRequestInfo })
  | completeWrite (done errorText kind identity) : s.host = .session kind identity →
    HostMoves s (.completeWrite done errorText) (.nothing,
      { s with
        file := some ⟨done.completed, identity, errorText⟩
        host := .completed done kind identity
        answered := Function.update s.answered done
          (s.answered done || (errorText == "" && identity == s.expected done)) })
  | completeSet (done kind identity) : s.host = .completed done kind identity →
    HostMoves s .completeSet (.nothing,
      { s with done := Function.update s.done done true, host := .session kind identity })
  | sessionEnds (kind identity) : s.host = .session kind identity →
    HostMoves s .sessionEnds (.nothing, { s with host := .waiting })

theorem hostStep_moves (s : HandoffIpc) (step : HandoffIpcStep) :
    HostMoves s step (s.hostStep step) := by
  cases step with
  | hostWait =>
    cases hhost : s.host <;> simp only [hostStep, hhost]
    case waiting =>
      split_ifs with hhandoff hrestore
      · exact .hostWait .handoff hhost hhandoff
      · exact .hostWait .restore hhost hrestore
      · exact .stays
    all_goals exact .stays
  | hostReset =>
    cases hhost : s.host <;> simp only [hostStep, hhost]
    case fired kind => exact .hostReset kind hhost
    all_goals exact .stays
  | hostRead =>
    cases hhost : s.host <;> simp only [hostStep, hhost]
    case taken kind => exact .hostRead kind hhost
    all_goals exact .stays
  | completeWrite done errorText =>
    cases hhost : s.host <;> simp only [hostStep, hhost]
    case session kind identity => exact .completeWrite done errorText kind identity hhost
    all_goals exact .stays
  | completeSet =>
    cases hhost : s.host <;> simp only [hostStep, hhost]
    case completed done kind identity => exact .completeSet done kind identity hhost
    all_goals exact .stays
  | sessionEnds =>
    cases hhost : s.host <;> simp only [hostStep, hhost]
    case session kind identity => exact .sessionEnds kind identity hhost
    all_goals exact .stays
  | _ => exact .stays

theorem moves (s : HandoffIpc) (step : HandoffIpcStep) :
    DailyMoves s step (handoffIpc.out s step, handoffIpc.next s step) ∨
      HostMoves s step (handoffIpc.out s step, handoffIpc.next s step) := by
  by_cases hhost : step.isHost
  · have hstep : handoffIpc.step s step = s.hostStep step := if_pos hhost
    right
    rw [Reducer.out, Reducer.next, hstep]
    exact hostStep_moves s step
  · have hstep : handoffIpc.step s step = s.dailyStep step := if_neg hhost
    left
    rw [Reducer.out, Reducer.next, hstep]
    exact dailyStep_moves s step

/-! ## Waits -/

theorem waitResult_ok {kind : HandoffKind} :
    s.waitResult kind = .ok ↔ s.file = some ⟨kind.completed, s.expected kind, ""⟩ := by
  unfold waitResult
  cases s.file with
  | none => simp
  | some file =>
    obtain ⟨state, identity, errorText⟩ := file
    simp only [Option.some.injEq, HandoffFile.mk.injEq]
    split_ifs with h
    · simp only [false_iff]
      tauto
    · simp only [true_iff]
      tauto

/-- A completion in the file of the request expected was written after the request. -/
def FileAnswers (s : HandoffIpc) : Prop :=
  ∀ kind, s.daily ≠ .requested kind → s.waitResult kind = .ok → s.answered kind

theorem fileAnswers_daily (h : s.FileAnswers) {step : HandoffIpcStep}
    (hmoves : DailyMoves s step (output, s')) :
    s'.FileAnswers := by
  intro kind hdaily hok
  cases hmoves with
  | stays => exact h kind hdaily hok
  | timedOut => exact h kind hdaily hok
  | requestReset kind' identity hidle =>
    have hne : kind ≠ kind' := fun heq => hdaily (heq ▸ rfl)
    rw [waitResult_ok] at hok
    dsimp only at hok
    rw [Function.update_of_ne hne] at hok
    exact h kind (by simp [hidle]) (waitResult_ok.mpr hok)
  | requestWrite kind' =>
    -- a request is no completion
    have hstate := congrArg HandoffFile.state (Option.some.inj (waitResult_ok.mp hok))
    exact absurd hstate (HandoffKind.pending_ne_completed _ _)
  | requestSet kind' hrecorded => exact h kind (by simp [hrecorded]) hok
  | waitDone kind' hidle => exact h kind (by simp [hidle]) hok
  | waitRead kind' hfired => exact h kind (by simp [hfired]) hok

theorem fileAnswers_host (h : s.FileAnswers) {step : HandoffIpcStep}
    (hmoves : HostMoves s step (output, s')) :
    s'.FileAnswers := by
  intro kind hdaily hok
  cases hmoves with
  | completeWrite done errorText kind' identity =>
    have hfile := Option.some.inj (waitResult_ok.mp hok)
    by_cases hkind : kind = done
    · subst hkind
      have hidentity : identity = s.expected kind := congrArg HandoffFile.identity hfile
      have herror : errorText = "" := congrArg HandoffFile.errorText hfile
      simp [hidentity, herror]
    · exact absurd (HandoffKind.completed_inj (congrArg HandoffFile.state hfile)).symm hkind
  | _ => exact h kind hdaily hok

theorem fileAnswers_step (h : s.FileAnswers) (step : HandoffIpcStep) :
    (handoffIpc.next s step).FileAnswers := by
  rcases s.moves step with hdaily | hhost
  · exact fileAnswers_daily h hdaily
  · exact fileAnswers_host h hhost

theorem waitAnswered_of_fileAnswers (h : s.FileAnswers) (step : HandoffIpcStep) :
    s.WaitAnswered step := by
  intro kind hout
  have hmoves := s.moves step
  rw [hout] at hmoves
  rcases hmoves with hdaily | hhost
  · generalize hresult : V1AvrcpHandoffWaitResult.ok = result at hdaily
    generalize handoffIpc.next s step = s' at hdaily
    cases hdaily with
    | timedOut => cases hresult
    | waitRead _ hfired => exact h kind (by simp [hfired]) hresult.symm
  · nomatch hhost

theorem fileAnswers_init : FileAnswers {} := by
  intro kind _ hok
  cases waitResult_ok.mp hok

/-! ## Requests -/

/-- The file has the identity of every request that waits to be read. -/
def FileIssued (s : HandoffIpc) : Prop :=
  ∀ kind, s.Outstanding kind → ∃ file, s.file = some file ∧ s.issued kind = some file.identity

theorem FileIssued.of_eq {s s' : HandoffIpc} (h : s.FileIssued) (hfile : s'.file = s.file)
    (hissued : s'.issued = s.issued) (hout : ∀ kind, s'.Outstanding kind → s.Outstanding kind) :
    s'.FileIssued := by
  intro kind hkind
  rw [hfile, hissued]
  exact h kind (hout kind hkind)

theorem Outstanding.of_host {s s' : HandoffIpc} {kind : HandoffKind} (h : s'.Outstanding kind)
    (hdaily : s'.daily = s.daily) (hrequest : s'.request = s.request)
    (hhost : ∀ kind, s'.host ≠ .fired kind ∧ s'.host ≠ .taken kind) : s.Outstanding kind := by
  rcases h with hrecorded | hset | hfired | htaken
  · exact .inl (hdaily ▸ hrecorded)
  · exact .inr (.inl (by rwa [hrequest] at hset))
  · exact absurd hfired (hhost kind).1
  · exact absurd htaken (hhost kind).2

theorem fileIssued_daily (h : s.FileIssued) {step : HandoffIpcStep} (hu : s.Undisturbed step)
    (hmoves : DailyMoves s step (output, s')) :
    s'.FileIssued := by
  cases hmoves with
  | stays => exact h
  | timedOut => exact h
  | requestReset kind identity hidle =>
    refine h.of_eq rfl rfl fun kind' hkind' => ?_
    rcases hkind' with hdaily | hwaits
    · cases hdaily
    · exact .inr hwaits
  | requestWrite kind hrequested =>
    intro kind' hkind'
    by_cases hkind : kind' = kind
    · subst hkind
      exact ⟨_, rfl, Function.update_self _ _ _⟩
    · have hwaits : s.Outstanding kind' := by
        rcases hkind' with hdaily | hwaits
        · exact absurd (DailyPoint.recorded.inj hdaily).symm hkind
        · exact .inr hwaits
      have hwritten : s.written .requestWrite = some (s.expected kind, some kind) := by
        simp only [written, hrequested]
      refine ⟨_, rfl, ?_⟩
      dsimp only
      rw [Function.update_of_ne hkind]
      exact hu.agrees hwritten (fun heq => hkind (Option.some.inj heq).symm) hwaits
  | requestSet kind hrecorded =>
    refine h.of_eq rfl rfl fun kind' hkind' => ?_
    by_cases hkind : kind' = kind
    · exact .inl (hkind ▸ hrecorded)
    · rcases hkind' with hdaily | hwaits
      · cases hdaily
      · dsimp only at hwaits
        rw [Function.update_of_ne hkind] at hwaits
        exact .inr hwaits
  | waitDone kind hidle =>
    refine h.of_eq rfl rfl fun kind' hkind' => ?_
    rcases hkind' with hdaily | hwaits
    · cases hdaily
    · exact .inr hwaits
  | waitRead kind hfired =>
    refine h.of_eq rfl rfl fun kind' hkind' => ?_
    rcases hkind' with hdaily | hwaits
    · cases hdaily
    · exact .inr hwaits

theorem fileIssued_host (h : s.FileIssued) {step : HandoffIpcStep} (hu : s.Undisturbed step)
    (hmoves : HostMoves s step (output, s')) :
    s'.FileIssued := by
  cases hmoves with
  | stays => exact h
  | hostWait kind hwaiting hrequest =>
    refine h.of_eq rfl rfl fun kind' hkind' => ?_
    rcases hkind' with hdaily | hset | hfired | htaken
    · exact .inl hdaily
    · exact .inr (.inl hset)
    · cases hfired
      exact .inr (.inl hrequest)
    · cases htaken
  | hostReset kind hfired =>
    refine h.of_eq rfl rfl fun kind' hkind' => ?_
    by_cases hkind : kind' = kind
    · exact .inr (.inr (.inl (hkind ▸ hfired)))
    · rcases hkind' with hdaily | hset | hfired' | htaken
      · exact .inl hdaily
      · dsimp only at hset
        rw [Function.update_of_ne hkind] at hset
        exact .inr (.inl hset)
      · cases hfired'
      · exact absurd (HostPoint.taken.inj htaken).symm hkind
  | hostRead kind htaken =>
    exact h.of_eq rfl rfl fun kind' hkind' =>
      hkind'.of_host rfl rfl fun _ => ⟨nofun, nofun⟩
  | completeWrite done errorText kind identity hsession =>
    intro kind' hkind'
    have hwaits : s.Outstanding kind' := hkind'.of_host rfl rfl fun _ => ⟨nofun, nofun⟩
    have hwritten : s.written (.completeWrite done errorText) = some (identity, none) := by
      simp only [written, hsession]
    exact ⟨_, rfl, hu.agrees hwritten nofun hwaits⟩
  | completeSet done kind identity =>
    exact h.of_eq rfl rfl fun kind' hkind' =>
      hkind'.of_host rfl rfl fun _ => ⟨nofun, nofun⟩
  | sessionEnds kind identity =>
    exact h.of_eq rfl rfl fun kind' hkind' =>
      hkind'.of_host rfl rfl fun _ => ⟨nofun, nofun⟩

theorem fileIssued_step (h : s.FileIssued) {step : HandoffIpcStep} (hu : s.Undisturbed step) :
    (handoffIpc.next s step).FileIssued := by
  rcases s.moves step with hdaily | hhost
  · exact fileIssued_daily h hu hdaily
  · exact fileIssued_host h hu hhost

theorem readsIssued_of_fileIssued (h : s.FileIssued) (step : HandoffIpcStep) :
    s.ReadsIssued step := by
  intro kind identity hout
  have hmoves := s.moves step
  rw [hout] at hmoves
  rcases hmoves with hdaily | hhost
  · nomatch hdaily
  · generalize handoffIpc.next s step = s' at hhost
    cases hhost with
    | hostRead _ htaken =>
      obtain ⟨file, hfile, hissued⟩ := h kind (.inr (.inr (.inr htaken)))
      rw [readRequestInfo, hfile]
      exact hissued

theorem fileIssued_init : FileIssued {} := by
  rintro kind (hdaily | hset | hfired | htaken)
  · cases hdaily
  · cases hset
  · cases hfired
  · cases htaken

/-- **The two hosts keep their requests apart**: in the runs that write no other identity over a
    request that waits to be read, every request is read as it was last issued; and no wait
    returns `ok` before its request is answered. -/
theorem requests_kept_apart (steps : List HandoffIpcStep)
    (hu : handoffIpc.Along Undisturbed {} steps) :
    handoffIpc.Along (fun s step => s.ReadsIssued step ∧ s.WaitAnswered step) {} steps := by
  refine Reducer.along_of_inv (P := fun s => s.FileIssued ∧ s.FileAnswers)
    (fun _ step h hstep => ?_) (fun _ step h _ => ?_) ⟨fileIssued_init, fileAnswers_init⟩ hu
  · exact ⟨fileIssued_step h.1 hstep, fileAnswers_step h.2 step⟩
  · exact ⟨readsIssued_of_fileIssued h.1 step, waitAnswered_of_fileAnswers h.2 step⟩

/-- A handoff is requested and completed, the wait for it times out once, and a restore follows. -/
theorem requests_kept_apart_session :
    handoffIpc.Along (fun s step => s.ReadsIssued step ∧ s.WaitAnswered step) {}
      [.requestReset .handoff ⟨7, 0⟩, .requestWrite, .requestSet, .hostWait, .waitDone .handoff,
        .hostReset, .hostRead, .completeWrite .handoff "", .completeSet, .waitDone .handoff,
        .waitRead, .sessionEnds, .requestReset .restore ⟨7, 1⟩, .requestWrite, .requestSet,
        .hostWait, .hostReset, .hostRead, .completeWrite .restore "", .completeSet,
        .waitDone .restore, .waitRead] :=
  requests_kept_apart _ (by decide)

/-- A handoff whose wait times out is followed by a restore of the next generation before the
    elevated host takes it up: it reads the generation of the restore. -/
theorem handoff_read_as_restore :
    ¬ handoffIpc.Along (fun s step => s.ReadsIssued step ∧ s.WaitAnswered step) {}
      [.requestReset .handoff ⟨7, 0⟩, .requestWrite, .requestSet, .waitDone .handoff,
        .requestReset .restore ⟨8, 0⟩, .requestWrite, .requestSet, .hostWait, .hostReset,
        .hostRead] := by
  rintro ⟨-, -, -, -, -, -, -, -, -, ⟨hread, -⟩, -⟩
  have hissued := hread .handoff ⟨8, 0⟩ rfl
  exact absurd hissued (by decide)

end HandoffIpc

end NativeLdac.Agent
