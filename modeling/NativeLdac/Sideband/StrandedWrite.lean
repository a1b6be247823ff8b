/-
  Writes of the sink that the driver's gate refused, and the retries that are due
  to them.

  * `GatedEnvironment.environment` is the host's environment over the driver of
    `WriteGate`: the driver may take any steps during every call of the host;
  * `Kept` is what every program of the host keeps: as long as nothing went wrong
    since, a write that is pending in one of the slots is awaited;
  * a poll that finds a response retries the writes, and so covers them again.
-/
import NativeLdac.Sideband.WriteGate
import NativeLdac.Agent.AvrcpObserverRecovery

namespace NativeLdac.Sideband.Stranded

open Agent AvrcpStage V1AvrcpControlMapperState V1AvrcpObserverHost Prog

variable {Ω α β : Type}

/-! ## The host's environment -/

/-- The environment but for the driver: what the sink and the system answer, and the steps
    that the driver takes during a call. -/
structure GatedEnvironment (Ω : Type) where
  outer : AvrcpObserverEnvironment Ω
  schedule : Ω → List DriverStep × Ω
  /-- the headset has disconnected when the handle is closed -/
  remoteDisconnected : Ω → Bool

structure GatedWorld (Ω : Type) where
  outer : Ω
  device : ObserverDevice := {}
  handleOpen : Bool := false

namespace GatedEnvironment

def errorInvalidHandle : UInt32 := 6
def statusQueueOverflow : UInt32 := 0x00000040

variable (env : GatedEnvironment Ω)

/-- The driver goes on. -/
def goOn (world : GatedWorld Ω) : GatedWorld Ω :=
  { world with
    outer := (env.schedule world.outer).2
    device := (env.schedule world.outer).1.foldl (·.next) world.device }

/-- A call that does not ask the driver. -/
def during (call : Ω → α × Ω) (world : GatedWorld Ω) : α × GatedWorld Ω :=
  ((call world.outer).1, env.goOn { world with outer := (call world.outer).2 })

def deviceIoControl (request : ObserverDevice → Except UInt32 α × ObserverDevice)
    (world : GatedWorld Ω) : Except UInt32 α × GatedWorld Ω :=
  if world.handleOpen then
    ((request world.device).1, env.goOn { world with device := (request world.device).2 })
  else (.error errorInvalidHandle, env.goOn world)

/-- `CloseHandle` of the driver's handle -/
def closeHandle (world : GatedWorld Ω) : GatedWorld Ω :=
  { world with
    device := if world.handleOpen then
        world.device.fileCleanup (env.remoteDisconnected world.outer)
      else world.device
    handleOpen := false }

/-- `OpenImpl`, which closes first -/
def openHandle (call : Ω → Except UInt32 Unit × Ω) (world : GatedWorld Ω) :
    Except UInt32 Unit × GatedWorld Ω :=
  let r := env.during call (env.closeHandle world)
  match r.1 with
  | .ok () => (.ok (), { r.2 with handleOpen := true })
  | .error e => (.error e, r.2)

def statusFlags (device : ObserverDevice) : UInt32 :=
  let flag (set : Bool) (bit : UInt32) : UInt32 := if set then bit else 0
  flag (device.eventQueue.droppedEvents ≠ 0) statusQueueOverflow |||
    flag device.worker.channelOpen statusChannelOpen |||
    flag device.runtimeFlags.volumeSupported statusVolumeSupported |||
    flag device.runtimeFlags.observing statusObserving |||
    flag device.runtimeFlags.outboundOpen statusOutboundOpen |||
    flag device.runtimeFlags.activationRequired statusActivationRequired |||
    flag device.runtimeFlags.activationRequested statusActivationRequested

/-- `IOCTL_NLD_AVRCP_OBSERVER_GET_STATUS`; the outer environment answers for the channel -/
def getStatus (world : GatedWorld Ω) :
    Except UInt32 NldAvrcpObserverStatus × GatedWorld Ω :=
  let r := env.outer.getStatus world.outer
  env.deviceIoControl (fun device =>
    (match r.1 with
      | .error e => .error e
      | .ok channel => .ok
        { channel with
          size := sizeofStatus
          flags := statusFlags device ||| channel.flags
          aclGeneration := device.eventQueue.aclGeneration },
      device)) { world with outer := r.2 }

/-- `SendCommand`, without its error -/
def writeAvrcp (pduId response : UInt32) (parameters : List UInt8) (world : GatedWorld Ω) :
    Bool × GatedWorld Ω :=
  if world.handleOpen then
    let r := world.device.sendCommand ⟨pduId, response, parameters⟩
    (r.1, env.goOn { world with device := r.2 })
  else (false, env.goOn { world with device := world.device.refused })

def environment : AvrcpObserverEnvironment (GatedWorld Ω) where
  ensureVolume := env.during env.outer.ensureVolume
  setWindowsVolume volume := env.during (env.outer.setWindowsVolume volume)
  queryWindowsVolume := env.during env.outer.queryWindowsVolume
  windowsVolumeNotificationsActive := env.during env.outer.windowsVolumeNotificationsActive
  consumeWindowsVolumeChange := env.during env.outer.consumeWindowsVolumeChange
  injectVirtualKey vk := env.during (env.outer.injectVirtualKey vk)
  writeAvrcp := env.writeAvrcp
  getTickCount := env.during env.outer.getTickCount
  openReadOnly := env.openHandle env.outer.openReadOnly
  openReadWrite := env.openHandle env.outer.openReadWrite
  closeDriver world := ((), env.closeHandle world)
  getVersion := env.during env.outer.getVersion
  getStatus := env.getStatus
  beginObservation := env.deviceIoControl (·.beginObservation)
  dequeueEvent := env.deviceIoControl (·.dequeueEvent)

end GatedEnvironment

/-! ## Runs -/

/-- The host over the driver. -/
abbrev GatedStage (Ω : Type) := TracedStage (GatedWorld Ω)

/-- The driver of a stage. -/
def device (s : GatedStage Ω) : ObserverDevice := s.world.1.device

inductive GatedStep where
  /-- a call of the host -/
  | call (call : V1AvrcpObserverHost.Call)
  /-- the driver goes on between two calls -/
  | driver (step : DriverStep)
  deriving DecidableEq

variable (env : GatedEnvironment Ω)

def gatedHost : Reducer (GatedStage Ω) GatedStep Unit where
  step s
    | .call call => ((), (call.program env.environment.traced s).2)
    | .driver step => ((), { s with world :=
        ({ s.world.1 with device := s.world.1.device.next step }, s.world.2) })

def headsetSlot : PendingSlot → Bool
  | .windowsVolume => false
  | _ => true

/-- The sink holds a write to the headset that was refused. -/
def WritePending (sink : V1AvrcpWindowsSink) : Prop :=
  ∃ slot ∈ [PendingSlot.xm5Volume, .playbackStatus], (sink.pending slot).isSome

instance (sink : V1AvrcpWindowsSink) : Decidable (WritePending sink) :=
  inferInstanceAs (Decidable (∃ slot ∈ [PendingSlot.xm5Volume, .playbackStatus], _))

/-- After a poll in a session whose control channel stays ready, a refused write is awaited. -/
def Unstranded (s : GatedStage Ω) (step : GatedStep) : Prop :=
  step = .call .poll →
    let s' := (gatedHost env).next s step
    s'.host.mediaSessionActive → s.host.controlChannelReady → s'.host.controlChannelReady →
      WritePending s'.sink → (device s').Awaited

/-- While the control channel is ready nothing goes wrong, and only a poll makes it ready when a
    write is pending. -/
def Undisturbed (s : GatedStage Ω) (step : GatedStep) : Prop :=
  let s' := (gatedHost env).next s step
  s'.host.controlChannelReady → (device s').mishaps = (device s).mishaps ∧
    (step ≠ .call .poll → s.host.controlChannelReady ∨ ¬ WritePending s.sink)

/-! ## What the programs of the host keep -/

/-- As long as the mishaps are `n`, a write that is pending in one of the slots is awaited;
    `opened` tells whether the host has opened the driver. -/
structure Kept (opened : Bool) (slots : PendingSlot → Prop) (n : Nat) (s : GatedStage Ω) :
    Prop where
  gated : Gated (device s)
  handle : s.host.observerOpen = opened ∧ (opened → s.world.1.handleOpen)
  writer : s.sink.apply ∧ s.sink.hasWriter
  counted : n ≤ (device s).mishaps
  covered : ∀ slot, slots slot → headsetSlot slot → (s.sink.pending slot).isSome →
    (device s).mishaps = n → (device s).Awaited

/-- A call that only lets the driver go on. -/
def Steady (call : GatedWorld Ω → α × GatedWorld Ω) : Prop :=
  ∀ world, Gated world.device → Proceeds world.device (call world).2.device ∧
    ((call world).2.handleOpen = world.handleOpen)

section
variable {env : GatedEnvironment Ω} {opened : Bool} {slots : PendingSlot → Prop} {n : Nat}
  {s : GatedStage Ω}

theorem proceeds_goOn (env : GatedEnvironment Ω) (world : GatedWorld Ω) (h : Gated world.device) :
    Proceeds world.device (env.goOn world).device :=
  proceeds_foldl h _

theorem steady_during (call : Ω → α × Ω) : Steady (env.during call) :=
  fun world h => ⟨proceeds_goOn env { world with outer := (call world.outer).2 } h, rfl⟩

theorem steady_deviceIoControl (env : GatedEnvironment Ω)
    {request : ObserverDevice → Except UInt32 α × ObserverDevice}
    (hr : ∀ d, Gated d → Proceeds d (request d).2) : Steady (env.deviceIoControl request) := by
  intro world h
  unfold GatedEnvironment.deviceIoControl
  split_ifs
  · exact ⟨(hr _ h).trans fun h => proceeds_goOn env
      { world with device := (request world.device).2 } h, rfl⟩
  · exact ⟨proceeds_goOn env world h, rfl⟩

theorem steady_getStatus : Steady env.getStatus := by
  intro world h
  exact steady_deviceIoControl env (fun d hd => .refl hd)
    { world with outer := (env.outer.getStatus world.outer).2 } h

theorem Kept.moved (h : Kept opened slots n s)
    (world : GatedWorld Ω × List ObserverDriverMoment) (host : V1AvrcpObserverHost)
    {opened' : Bool} (hp : Proceeds (device s) world.1.device)
    (hh : host.observerOpen = opened' ∧ (opened' → world.1.handleOpen)) :
    Kept opened' slots n { s with world := world, host := host } := by
  have hle := h.counted
  have hle' := hp.mishaps
  refine ⟨hp.gated, hh, h.writer, Nat.le_trans hle hle', ?_⟩
  intro slot hslot hheadset hpending hm
  have hm' : world.1.device.mishaps = n := hm
  exact hp.awaited (by omega) (h.covered slot hslot hheadset hpending (by omega))

theorem Kept.proceeds (h : Kept opened slots n s)
    (world : GatedWorld Ω × List ObserverDriverMoment)
    (hp : Proceeds (device s) world.1.device)
    (hh : opened → world.1.handleOpen) : Kept opened slots n { s with world := world } :=
  h.moved world s.host hp ⟨h.handle.1, hh⟩

theorem Kept.behind (h : Kept opened slots n s) {s' : GatedStage Ω} (hw : s'.world = s.world)
    (hs : s'.sink = s.sink) (ho : s'.host.observerOpen = s.host.observerOpen) :
    Kept opened slots n s' := by
  obtain ⟨hgated, hhandle, hwriter, hcounted, hcovered⟩ := h
  constructor
  · rwa [device, hw]
  · rwa [ho, hw]
  · rwa [hs]
  · rwa [device, hw]
  · rwa [hs, device, hw]

theorem keeps_steady {call : GatedWorld Ω → α × GatedWorld Ω} (h : Steady call)
    {traced : GatedWorld Ω × List ObserverDriverMoment → α × GatedWorld Ω × List ObserverDriverMoment}
    (ht : ∀ w, (traced w).2.1 = (call w.1).2) : Keeps (Kept opened slots n) (ask traced) := by
  refine .step fun s hs => ?_
  obtain ⟨hp, hh⟩ := h s.world.1 hs.gated
  exact hs.proceeds _ (by rw [ht]; exact hp) (fun ho => by rw [ht, hh]; exact hs.handle.2 ho)

theorem keeps_during (call : Ω → α × Ω) :
    Keeps (Kept opened slots n) (ask (unrecorded (env.during call))) :=
  keeps_steady (steady_during call) fun _ => rfl

theorem keeps_mapped (op : V1AvrcpMapperOp) (dispatched : Bool) :
    Keeps (Kept (Ω := Ω) opened slots n) (mapped op dispatched) :=
  .step fun _ h => h.behind rfl rfl rfl

theorem keeps_discarded (op : V1AvrcpMapperOp) :
    Keeps (Kept (Ω := Ω) opened slots n) (discarded op) :=
  .bind (keeps_mapped op false) fun _ => .pure ()

theorem keeps_modify {f : V1AvrcpObserverHost → V1AvrcpObserverHost}
    (hf : ∀ host, (f host).observerOpen = host.observerOpen) :
    Keeps (Kept (Ω := Ω) opened slots n) (modify f) :=
  .update fun s h => h.behind rfl rfl (hf s.host)

/-! ### The sink -/

theorem keeps_drop (slot : PendingSlot) : Keeps (Kept (Ω := Ω) opened slots n) (drop slot) := by
  refine .update fun s h => ⟨h.gated, h.handle, ?_, h.counted, fun slot' hs hh hp => ?_⟩
  · cases slot <;> exact h.writer
  · simp only [V1AvrcpWindowsSink.pending_drop] at hp
    by_cases hslot : slot' = slot
    · rw [if_pos hslot] at hp
      cases hp
    · rw [if_neg hslot] at hp
      exact h.covered slot' hs hh hp

theorem Kept.keep (h : Kept opened slots n s) {write : PendingWrite} {log : List AvrcpMoment}
    (hw : headsetSlot write.slot → (device s).mishaps = n → (device s).Awaited) :
    Kept opened slots n { s with sink := s.sink.keep write, log := log } := by
  refine ⟨h.gated, h.handle, ?_, h.counted, fun slot hs hh hp hm => ?_⟩
  · cases write <;> exact h.writer
  · simp only [V1AvrcpWindowsSink.pending_keep] at hp
    by_cases hslot : slot = write.slot
    · exact hw (hslot ▸ hh) hm
    · rw [if_neg hslot] at hp
      exact h.covered slot hs hh hp hm

theorem writeAvrcp_kept (h : Kept opened slots n s) {request : WriteRequest}
    (hr : HostWrite request) :
    wp (ask (env.environment.traced.writeAvrcp request.pduId request.response
        request.parameters))
      (fun sent s' => Kept opened slots n s' ∧
        (sent = false → (device s').mishaps = n → (device s').Awaited)) (fun _ => False) s := by
  have hle := h.counted
  have hgo : ∀ d, Proceeds (device s) d → ∀ sent : Bool,
      (sent = false → d.mishaps = (device s).mishaps → d.Awaited) →
      Proceeds (device s) (env.goOn { s.world.1 with device := d }).device ∧
        (sent = false → (env.goOn { s.world.1 with device := d }).device.mishaps = n →
          (env.goOn { s.world.1 with device := d }).device.Awaited) := by
    intro d hd sent hawaited
    have hon := proceeds_goOn env { s.world.1 with device := d } hd.gated
    refine ⟨hd.trans fun _ => hon, fun hs hm => ?_⟩
    have hle₁ := hd.mishaps
    have hle₂ : d.mishaps ≤ (env.goOn { s.world.1 with device := d }).device.mishaps := hon.mishaps
    exact hon.awaited (show _ = d.mishaps by omega) (hawaited hs (by omega))
  show wp (Prog.step _) _ _ s
  rw [wp_step]
  dsimp only [AvrcpObserverEnvironment.traced, unrecorded, GatedEnvironment.environment,
    GatedEnvironment.writeAvrcp]
  split_ifs with hopen
  · obtain ⟨hproceeds, hrefused⟩ := proceeds_sendCommand h.gated hr
    obtain ⟨hp, ha⟩ := hgo _ hproceeds _ hrefused
    exact ⟨h.proceeds (_, s.world.2) hp fun _ => hopen, ha⟩
  · obtain ⟨hproceeds, hrefused⟩ := proceeds_refused h.gated
    obtain ⟨hp, ha⟩ := hgo _ hproceeds false fun _ => hrefused
    exact ⟨h.proceeds (_, s.world.2) hp fun ho => absurd (h.handle.2 ho) hopen, ha⟩

theorem attempt_kept (h : Kept opened slots n s) {write : PendingWrite}
    (hw : headsetSlot write.slot) :
    wp (write.attempt env.environment.traced.toAvrcpEnvironment)
      (fun sent s' => Kept opened slots n s' ∧
        (sent = false → (device s').mishaps = n → (device s').Awaited)) (fun _ => False) s := by
  cases write with
  | windowsVolume volume => cases hw
  | xm5Volume volume => exact writeAvrcp_kept h (.volume (UInt8.ofNat volume))
  | playbackStatus status => exact writeAvrcp_kept h (.report status)

variable (env) in
theorem keeps_handleWindowsVolume (actions : V1AvrcpActionSet) :
    Keeps (Kept opened slots n)
      (handleWindowsVolume env.environment.traced.toAvrcpEnvironment actions) := by
  unfold handleWindowsVolume
  refine .ite (.bind (.read _) fun apply => ?_) (.pure _)
  have hrest : ∀ applied : Bool, Keeps (Kept (Ω := Ω) opened slots n) (if applied then do
      drop .windowsVolume
      return true
    else do
      keep (.windowsVolume actions.windowsVolume) actions.aclGeneration
      return false) := by
    refine fun applied => .ite (.bind (keeps_drop _) fun _ => .pure _) (.bind ?_ fun _ => .pure _)
    exact .update fun s h => h.keep fun hh => by cases hh
  exact .ite (.bind (keeps_during _) hrest) (.bind (.pure _) hrest)

variable (env) in
theorem keeps_handleKeys (actions : V1AvrcpActionSet) (keys : List V1AvrcpAction) :
    Keeps (Kept opened slots n)
      (handleKeys env.environment.traced.toAvrcpEnvironment actions keys) := by
  induction keys with
  | nil => exact .pure _
  | cons action keys ih =>
    refine .bind (.read _) fun apply => ?_
    have hrest : ∀ injected : Bool, Keeps (Kept (Ω := Ω) opened slots n) (do
        let ok ← handleKeys env.environment.traced.toAvrcpEnvironment actions keys
        return injected && ok) :=
      fun injected => .bind ih fun _ => .pure _
    exact .ite (.ite (.bind (keeps_during _) hrest) (.bind (.pure _) hrest))
      (.bind (.pure _) hrest)

variable (env) in
theorem keeps_handleWrite (actions : V1AvrcpActionSet) (action : V1AvrcpAction)
    {write : PendingWrite} (hw : headsetSlot write.slot) :
    Keeps (Kept opened slots n)
      (handleWrite env.environment.traced.toAvrcpEnvironment actions action write) := by
  refine .ite ?_ (.pure _)
  intro s h
  show wp (Prog.read _ >>= _) _ _ s
  rw [wp_bind, wp_read, wp_ite]
  split_ifs with happlies
  · rw [wp_bind]
    refine wp_mono (attempt_kept h hw) (fun sent s' hs' => ?_) fun _ => id
    obtain ⟨hkept, hawaited⟩ := hs'
    cases sent with
    | true => exact keeps_drop write.slot s' hkept
    | false => exact hkept.keep fun _ => hawaited rfl
  · exact h

variable (env) in
theorem keeps_handle (actions : V1AvrcpActionSet) :
    Keeps (Kept opened slots n)
      (handle env.environment.traced.toAvrcpEnvironment actions) :=
  .bind (keeps_handleWindowsVolume env actions) fun _ =>
    .bind (keeps_handleKeys env actions keyActions) fun _ =>
      .bind (keeps_handleWrite env actions _ rfl) fun _ =>
        .bind (keeps_handleWrite env actions _ rfl) fun _ => .pure _

theorem retrySlot_kept {slot : PendingSlot} (hh : headsetSlot slot) :
    Triple (Kept opened slots n) (retrySlot env.environment.traced.toAvrcpEnvironment slot)
      (fun _ => Kept opened (fun slot' => slots slot' ∨ slot' = slot) n) fun _ => False := by
  intro s h
  show wp (Prog.read _ >>= _) _ _ s
  rw [wp_bind, wp_read]
  have hcover : ∀ s' : GatedStage Ω, Kept opened slots n s' →
      ((s'.sink.pending slot).isSome → (device s').mishaps = n → (device s').Awaited) →
      Kept opened (fun slot' => slots slot' ∨ slot' = slot) n s' := by
    refine fun s' h hslot => ⟨h.gated, h.handle, h.writer, h.counted, ?_⟩
    rintro slot' (hs | rfl) hh hp
    · exact h.covered slot' hs hh hp
    · exact hslot hp
  rcases hpending : s.sink.pending slot with _ | write
  · exact hcover s h fun hp => by rw [hpending] at hp; cases hp
  · have hslot := V1AvrcpWindowsSink.slot_of_pending hpending
    have hretried : Kept opened slots n { s with log := .retried write s.mapper :: s.log } :=
      h.behind rfl rfl rfl
    dsimp only
    rw [wp_bind]
    show wp _ _ _ { s with log := .retried write s.mapper :: s.log }
    rw [wp_bind]
    refine wp_mono (attempt_kept hretried (by rwa [hslot])) (fun sent s' hs' => ?_) fun _ => id
    obtain ⟨hkept, hawaited⟩ := hs'
    cases sent with
    | true =>
      refine hcover _ (keeps_drop slot s' hkept) fun hp => ?_
      rw [V1AvrcpWindowsSink.pending_drop, if_pos rfl] at hp
      cases hp
    | false => exact hcover s' hkept fun _ => hawaited rfl

variable (env) in
theorem keeps_retryWindowsVolume :
    Keeps (Kept opened slots n)
      (retrySlot env.environment.traced.toAvrcpEnvironment .windowsVolume) := by
  refine Triple.bind (Q := fun write s => Kept opened slots n s ∧
    ∀ w, write = some w → w.slot = .windowsVolume)
    (.read fun s h => ⟨h, fun w hw => V1AvrcpWindowsSink.slot_of_pending hw⟩) fun write => ?_
  rcases write with _ | write
  · exact .pure fun s h => h.1
  · intro s h
    cases write with
    | windowsVolume volume =>
      have hkeeps : Keeps (Kept opened slots n) (do
          retried (.windowsVolume volume)
          if ← (PendingWrite.windowsVolume volume).attempt
              env.environment.traced.toAvrcpEnvironment then
            drop .windowsVolume : Program (GatedWorld Ω × List ObserverDriverMoment) Unit) :=
        .bind (.update fun s h => h.behind rfl rfl rfl) fun _ =>
          .bind (keeps_during _) fun _ => .ite (keeps_drop _) (.pure _)
      exact hkeeps s h.1
    | xm5Volume volume => exact absurd (h.2 _ rfl) (by simp [PendingWrite.slot])
    | playbackStatus status => exact absurd (h.2 _ rfl) (by simp [PendingWrite.slot])

variable (env) in
theorem retryPendingWrites_kept :
    Triple (Kept opened slots n) (retryPendingWrites env.environment.traced.toAvrcpEnvironment)
      (fun _ => Kept opened (fun _ => True) n) fun _ => False := by
  have hheadset : Triple (Kept (Ω := Ω) opened slots n) (do
      retrySlot env.environment.traced.toAvrcpEnvironment .xm5Volume
      retrySlot env.environment.traced.toAvrcpEnvironment .playbackStatus)
      (fun _ => Kept opened (fun _ => True) n) fun _ => False := by
    refine .bind (retrySlot_kept rfl) fun _ => (retrySlot_kept rfl).post fun _ s h => ?_
    refine ⟨h.gated, h.handle, h.writer, h.counted, fun slot _ hh => ?_⟩
    cases slot with
    | windowsVolume => cases hh
    | xm5Volume => exact h.covered _ (.inl (.inr rfl)) hh
    | playbackStatus => exact h.covered _ (.inr rfl) hh
  refine .bind (Q := fun sink s => (sink.apply ∧ sink.hasWriter) ∧ Kept opened slots n s)
    (.read fun s h => ⟨h.writer, h⟩) fun sink => .ite (fun happly => ?_) fun hnot => ?_
  · have hrest : Triple (fun s => (sink.apply ∧ sink.hasWriter) ∧ Kept (Ω := Ω) opened slots n s)
        (do
          if sink.hasWriter then
            retrySlot env.environment.traced.toAvrcpEnvironment .xm5Volume
            retrySlot env.environment.traced.toAvrcpEnvironment .playbackStatus)
        (fun _ => Kept opened (fun _ => True) n) fun _ => False := by
      refine .ite (fun _ => hheadset.pre fun _ => And.right) fun hnot => ?_
      exact fun s h => absurd h.1.2 hnot
    have hkeeps : ∀ {β : Type} {x : Program (GatedWorld Ω × List ObserverDriverMoment) β},
        Keeps (Kept opened slots n) x →
        Triple (fun s => (sink.apply ∧ sink.hasWriter) ∧ Kept opened slots n s) x
          (fun _ s => (sink.apply ∧ sink.hasWriter) ∧ Kept opened slots n s) fun _ => False := by
      intro β x hx s h
      have hs := hx s h.2
      generalize x s = r at hs ⊢
      rcases r with ⟨_ | _, s'⟩
      · exact hs
      · exact ⟨h.1, hs⟩
    refine .ite (fun _ => .bind (hkeeps (keeps_during _)) fun _ => .ite (fun _ => ?_)
      fun _ => ?_) fun _ => ?_
    · exact .bind (hkeeps (keeps_retryWindowsVolume env)) fun _ => hrest
    · exact hrest
    · exact hrest
  · exact fun s h => absurd h.1.1 hnot

/-! ### The executor -/

variable (env) in
theorem dispatchRound_kept (actions : V1AvrcpActionSet) :
    Triple (Kept opened slots n)
      (dispatchRound env.environment.traced.toAvrcpEnvironment actions)
      (fun r s => Kept opened slots n s ∧ ∀ feedback, r = .inl feedback →
        v1AvrcpHasAction actions .setWindowsVolume ∧
          ¬ v1AvrcpHasAction feedback .setWindowsVolume) fun _ => False := by
  have hlast : Triple (Kept (Ω := Ω) opened slots n)
      (Pure.pure (.inr () : V1AvrcpActionSet ⊕ Unit))
      (fun r s => Kept opened slots n s ∧ ∀ feedback, r = .inl feedback →
        v1AvrcpHasAction actions .setWindowsVolume ∧
          ¬ v1AvrcpHasAction feedback .setWindowsVolume) fun _ => False :=
    .pure fun s h => ⟨h, fun _ hf => by cases hf⟩
  refine .ite (fun _ => hlast) fun _ => .bind (keeps_handle env actions) fun _ =>
    .ite (fun _ => .ite (fun hset => ?_) fun _ => hlast) fun _ => hlast
  refine .bind (keeps_during _) fun readback => ?_
  rcases readback with _ | readback
  · exact hlast
  · refine .bind (Keeps.read _) fun generation => .bind (Q := fun feedback s =>
      ¬ v1AvrcpHasAction feedback .setWindowsVolume ∧ Kept opened slots n s)
      (.step fun s h => ⟨observeWindowsVolume_sets_nothing _ _ _, h.behind rfl rfl rfl⟩)
      fun feedback => .pure fun s h => ⟨h.2, fun _ hf => ?_⟩
    cases hf
    exact ⟨hset, h.1⟩

variable (env) in
theorem keeps_dispatch (actions : V1AvrcpActionSet) :
    Keeps (Kept opened slots n)
      (v1AvrcpDispatchAuthorizedActions env.environment.traced.toAvrcpEnvironment actions) := by
  refine Triple.bind (dispatchRound_kept env actions) fun r => ?_
  rcases r with feedback | _
  · refine .bind (Q := fun r s => Kept opened slots n s ∧ r = .inr ()) ?_ fun r => ?_
    · intro s h
      refine ((dispatchRound_kept env feedback).post fun r s' hr => ⟨hr.1, ?_⟩) s h.1
      rcases r with again | _
      · exact absurd (hr.2 again rfl).1 (h.2 feedback rfl).2
      · rfl
    · rcases r with again | _
      · exact fun s h => absurd h.2 (by simp)
      · exact .pure fun s h => h.1
  · exact .pure fun s h => h.1

variable (env) in
theorem keeps_mapAndDispatch (op : V1AvrcpMapperOp) :
    Keeps (Kept opened slots n)
      (mapAndDispatch env.environment.traced.toAvrcpEnvironment op) :=
  .bind (keeps_mapped op true) fun _ => keeps_dispatch env _

theorem keeps_ensureMapperLease :
    Keeps (Kept (Ω := Ω) opened slots n) ensureMapperLease :=
  .bind (.read _) fun _ => .ite (.pure _) (.ite (.pure _)
    (.bind (keeps_discarded _) fun _ => .read _))

variable (env) in
theorem keeps_feedEvent {event : V1AvrcpObservedEvent} (hs : event.kind ≠ .generationStarted)
    (he : event.kind ≠ .generationEnded) (options : V1AvrcpReplayOptions) :
    Keeps (Kept opened slots n)
      (v1AvrcpFeedEvent env.environment.traced.toAvrcpEnvironment event options) := by
  refine .bind (.read _) fun mapper => .ite (.pure _) ?_
  rw [if_neg hs, if_neg he]
  refine .ite (.pure _) ?_
  rcases event.op with _ | op
  · exact .pure _
  · exact .bind (keeps_mapAndDispatch env op) fun _ => .pure _

/-! ## A poll -/

theorem dequeueEvent_kept {observed : Bool} {ready : Prop} :
    Triple (Kept (Ω := Ω) true (fun _ => ready ∧ observed = false) n)
      (ask env.environment.traced.dequeueEvent)
      (fun answer s => match answer with
        | .error e => e = errorNoMoreItems ∧ Kept true (fun _ => ready ∧ observed = false) n s
        | .ok event => Kept true
          (fun _ => ready ∧ (observed || event.type = .writeResponse) = false) n s)
      fun _ => False := by
  refine .step fun s h => ?_
  dsimp only [AvrcpObserverEnvironment.traced, unrecorded, GatedEnvironment.environment,
    GatedEnvironment.deviceIoControl]
  rw [if_pos (h.handle.2 rfl)]
  have hother : (∀ event, (device s).dequeueEvent.1 = .ok event → event.type ≠ .writeResponse) →
      Kept true (fun _ => ready ∧ observed = false) n { s with world :=
        (env.goOn { s.world.1 with device := (device s).dequeueEvent.2 }, s.world.2) } :=
    fun hnot => h.proceeds (_, s.world.2)
      ((proceeds_dequeueEvent h.gated hnot).trans fun hg => proceeds_goOn env
        { s.world.1 with device := (device s).dequeueEvent.2 } hg)
      fun _ => h.handle.2 rfl
  rcases hanswer : (device s).dequeueEvent.1 with e | event
  · rw [show s.world.1.device.dequeueEvent.1 = .error e from hanswer]
    refine ⟨?_, hother fun event hok => by rw [hanswer] at hok; cases hok⟩
    unfold ObserverDevice.dequeueEvent at hanswer
    dsimp only at hanswer
    split at hanswer
    · cases hanswer
      rfl
    · cases hanswer
  · rw [show s.world.1.device.dequeueEvent.1 = .ok event from hanswer]
    by_cases ht : event.type = .writeResponse
    · have hgo := proceeds_goOn env
        { s.world.1 with device := (device s).dequeueEvent.2 }
        (gated_dequeueEvent h.gated)
      refine ⟨hgo.gated, ⟨h.handle.1, fun _ => h.handle.2 rfl⟩, h.writer,
        Nat.le_trans h.counted hgo.mishaps, fun _ hslot => ?_⟩
      simp [ht] at hslot
    · have hkept := hother fun event' hok => by
        rw [hanswer] at hok
        cases hok
        exact ht
      refine ⟨hkept.gated, hkept.handle, hkept.writer, hkept.counted, fun slot hslot => ?_⟩
      refine hkept.covered slot ⟨hslot.1, ?_⟩
      simpa [ht] using hslot.2

variable (env) in
theorem keeps_feedDriverEvent (event : NldAvrcpObserverEvent) :
    Keeps (Kept opened slots n) (feedDriverEvent env.environment.traced event) := by
  refine .bind (.read _) fun generation => ?_
  rcases hevent : mapDriverEvent event generation with _ | observed
  · exact .pure _
  · obtain ⟨hs, he⟩ := mapDriverEvent_kind hevent
    exact .bind (.read _) fun options => .bind (keeps_feedEvent env hs he options) fun _ =>
      .ite keeps_ensureMapperLease (.pure _)

end

/-! ### The lease -/

section
variable {env : AvrcpObserverEnvironment Ω} {k : UInt64 × UInt64}

theorem mapDriverEvent_generation_eq {event : NldAvrcpObserverEvent} {g : UInt64}
    {observed : V1AvrcpObservedEvent} (h : mapDriverEvent event g = some observed) :
    observed.generation ≠ 0 := by
  by_cases hg : g = 0
  · rw [mapDriverEvent, if_pos hg] at h
    cases h
  · rw [mapDriverEvent, if_neg hg] at h
    split at h
    · cases h
      exact hg
    · cases h
      exact hg
    · cases h
      exact hg
    · split_ifs at h
      cases h
      exact hg
    · split_ifs at h
      cases h
      exact hg
    · cases h

theorem ensureMapperLease_succeeds :
    Triple (InSession (Ω := Ω) k) ensureMapperLease (fun held s => held = true ∧ InSession k s)
      (Leased k) := by
  suffices htrue : Triple (InSession (Ω := Ω) k) ensureMapperLease (fun held _ => held = true)
      fun _ => True from
    (htrue.and ensureMapperLease_inSession).conseq (fun _ h => ⟨h, h⟩) (fun _ _ => id)
      fun _ => And.right
  intro s h
  show wp ensureMapperLease _ _ s
  simp only [ensureMapperLease, wp_bind, wp_read, id, wp_ite, wp_pure, wp_discarded]
  split_ifs with hidle hheld
  rw [not_or, not_not, not_not] at hidle
  obtain ⟨hlease, hactive⟩ := h
  have hcurrent : s.mapper.isCurrentGeneration s.mapper.aclGeneration :=
    isCurrentGeneration_iff.mpr ⟨hlease.lease.synced.nonzero hidle.2, hidle.2, rfl⟩
  refine decide_eq_true (acquire_ownerLease hlease.lease.synced hcurrent
    (hlease.lease.nonzero hactive) ?_)
  by_cases hfree : s.mapper.ownerLease = 0
  · exact .inl hfree
  · exact .inr (hlease.lease.held hfree).2

theorem feedDriverEvent_succeeds (event : NldAvrcpObserverEvent) :
    Triple (InSession k) (feedDriverEvent env.traced event)
      (fun fed s => fed = true ∧ InSession k s) (Leased k) := by
  have hdone : Triple (InSession (Ω := Ω) k) (Pure.pure true)
      (fun fed s => fed = true ∧ InSession k s) (Leased k) := .pure fun s h => ⟨rfl, h⟩
  refine .bind (inSession_read _) fun generation => ?_
  rcases hevent : mapDriverEvent event generation with _ | observed
  · exact hdone
  obtain ⟨hs, he⟩ := mapDriverEvent_kind hevent
  refine .bind (inSession_read _) fun options => .bind (Q := fun fed s => fed = true ∧
    InSession k s) (.bind (inSession_read _) fun mapper => ?_) fun fed => .ite
      (fun _ => ensureMapperLease_succeeds.pre fun _ => And.right) fun hfed =>
        fun s h => absurd h.1 hfed
  rw [if_neg (mapDriverEvent_generation_eq hevent), if_neg hs, if_neg he]
  refine .ite (fun _ => hdone) fun _ => ?_
  rcases hop : observed.op with _ | op
  · exact hdone
  · exact .bind (session_executes (executes_mapAndDispatch _ op (observes_event hop))) fun _ =>
      hdone

end

section
variable {env : GatedEnvironment Ω} {opened : Bool} {slots : PendingSlot → Prop} {n : Nat}
  {k : UInt64 × UInt64} {ready : Prop}

variable (env) in
theorem pollEvents_kept (m : Nat) (observed : Bool) :
    Triple (fun s => InSession k s ∧ Kept true (fun _ => ready ∧ observed = false) n s)
      (pollEvents env.environment.traced m observed)
      (fun r s => ∃ observed', r = .ok observed' ∧
        InSession k s ∧ Kept true (fun _ => ready ∧ observed' = false) n s) fun _ => False := by
  induction m generalizing observed with
  | zero => exact .pure fun s h => ⟨observed, rfl, h⟩
  | succ m ih =>
    have hsession : Triple (InSession k) (ask env.environment.traced.dequeueEvent)
        (fun _ => InSession k) fun _ => False :=
      .step fun _ h => ⟨⟨h.1.lease, h.1.activation, h.1.counted⟩, h.2⟩
    refine .bind ((hsession.and dequeueEvent_kept).conseq (fun _ => id) (fun _ _ => id)
      fun _ => And.left) fun answer => ?_
    rcases answer with e | event
    · refine .ite (fun _ => .pure fun s h => ⟨observed, rfl, h.1, h.2.2⟩) fun hother => ?_
      exact fun s h => absurd h.2.1 hother
    · refine .bind (((feedDriverEvent_succeeds event).and (keeps_feedDriverEvent env event)).conseq
        (fun _ => id) (fun _ _ => id) fun _ => And.right) fun fed => .ite (fun _ => ?_) fun hfed => ?_
      · exact (ih _).pre fun s h => ⟨h.1.2, h.2⟩
      · exact fun s h => absurd h.1.1 hfed

variable (env) in
theorem keeps_pollWindowsVolume :
    Keeps (Kept opened slots n) (pollWindowsVolume env.environment.traced) := by
  have hunnotified : Keeps (Kept opened slots n)
      (queryWindowsVolumeUnnotified env.environment.traced) := by
    refine .bind (keeps_during _) fun now => .bind (keeps_during _) fun active =>
      .bind (.read _) fun last => .ite (.bind (keeps_modify fun _ => rfl) fun _ =>
        .bind (keeps_during _) fun current => ?_) (.pure _)
    rcases current with _ | current
    · exact .pure _
    · exact .bind (.read _) fun generation => keeps_mapAndDispatch env _
  refine .bind (keeps_during _) fun notified => ?_
  rcases notified with _ | notified
  · exact hunnotified
  · exact .bind (.read _) fun generation => .bind (keeps_mapAndDispatch env _) fun _ => hunnotified

theorem observeStatus_observerOpen (status : NldAvrcpObserverStatus) (host : V1AvrcpObserverHost) :
    (observeStatus status host).observerOpen = host.observerOpen := by
  unfold observeStatus
  split_ifs <;> rfl

variable (env) in
theorem keeps_readStatus :
    Keeps (Kept opened slots n) (readStatus env.environment.traced) := by
  refine .bind (keeps_steady steady_getStatus fun _ => rfl) fun answer => ?_
  rcases answer with e | status
  · exact .pure _
  · exact .ite (.pure _) (.bind (keeps_modify (observeStatus_observerOpen status)) fun _ => .pure _)

theorem readStatus_ready {environment : AvrcpObserverEnvironment Ω} {b : Bool} :
    Triple (fun s => s.host.controlChannelReady = b) (readStatus environment)
      (fun r s => ∀ e, r = .error e → s.host.controlChannelReady = b) fun _ => True := by
  refine .bind (Q := fun _ s => s.host.controlChannelReady = b) (.step fun _ h => h) fun answer => ?_
  rcases answer with e | status
  · exact .pure fun s h _ _ => h
  · refine .ite (fun _ => .pure fun s h _ _ => h) fun _ => .bind (Q := fun _ _ => True)
      (.update fun _ _ => trivial) fun _ => .pure fun _ _ _ he => by cases he

theorem Kept.mono {s : GatedStage Ω} (h : Kept opened slots n s) {slots' : PendingSlot → Prop}
    (hs : ∀ slot, slots' slot → slots slot) : Kept opened slots' n s :=
  ⟨h.gated, h.handle, h.writer, h.counted, fun slot hslot => h.covered slot (hs slot hslot)⟩

def CoveredWhenReady (opened : Bool) (n : Nat) (s : GatedStage Ω) : Prop :=
  Kept opened (fun _ => s.host.controlChannelReady) n s

variable (env) in
theorem poll_kept :
    Triple (fun s => Leased k s ∧ CoveredWhenReady opened n s) (poll env.environment.traced)
      (fun _ => CoveredWhenReady opened n) fun _ => False := by
  refine .bind (Q := fun host s => s.host = host ∧ Leased k s ∧ CoveredWhenReady opened n s)
    (.read fun s h => ⟨rfl, h⟩) fun host => .ite (fun _ => .pure fun s h => h.2.2) fun hlive => ?_
  rw [not_or, not_not, not_not] at hlive
  cases opened with
  | false =>
    rintro s ⟨rfl, -, hkept⟩
    exact absurd (hkept.handle.1.symm.trans hlive.2) Bool.false_ne_true
  | true =>
    have hstart : ∀ s : GatedStage Ω, (s.host = host ∧ Leased k s ∧ CoveredWhenReady true n s) →
        (InSession k s ∧ Kept true (fun _ => host.controlChannelReady) n s) ∧
          s.host.controlChannelReady = host.controlChannelReady := by
      rintro s ⟨rfl, hleased, hkept⟩
      exact ⟨⟨⟨hleased, hlive.1⟩, hkept⟩, rfl⟩
    refine .bind (((readStatus_inSession.and (keeps_readStatus env)).and readStatus_ready).conseq
      hstart (fun _ _ => id) fun _ h => h.1.2) fun status => ?_
    rcases status with e | status
    · exact .pure fun s h => h.1.2.mono fun _ hready => (h.2 e rfl).symm.trans hready
    refine .bind ((pollEvents_kept env V1AvrcpObserverHost.kMaximumEventsPerPoll false).pre fun s h =>
      ⟨h.1.1, h.1.2.mono fun _ => And.left⟩) fun polled => ?_
    rcases polled with e | observed
    · rintro s ⟨observed, hr, -⟩
      cases hr
    refine .bind (Q := fun _ s => Kept true
        (fun _ => host.controlChannelReady ∧ observed = false) n s) ?_ fun stage =>
      .bind (Keeps.onlyIf (keeps_pollWindowsVolume env)) fun _ => ?_
    · rintro s ⟨observed', hr, -, hkept⟩
      cases hr
      exact hkept
    refine .bind (Q := fun ready s => s.host.controlChannelReady = ready ∧ Kept true
        (fun _ => host.controlChannelReady ∧ observed = false) n s) (.read fun s h => ⟨rfl, h⟩)
      fun ready => .bind (Q := fun _ => CoveredWhenReady true n) ?_ fun _ => .pure fun _ h => h
    refine .ite (fun _ => ?_) fun hnot => .pure fun s h => h.2.mono fun _ hready => ?_
    · exact ((retryPendingWrites_kept env).pre fun _ => And.right).post
        fun _ s h => h.mono fun _ _ => trivial
    · by_contra hlost
      refine hnot ⟨h.1.symm.trans hready, ?_⟩
      by_cases hwas : host.controlChannelReady
      · exact .inr (by simpa [hwas] using hlost)
      · exact .inl hwas

/-! ## The other calls -/

/-- The driver, whether the host has opened it or not. -/
def Held (slots : PendingSlot → Prop) (n : Nat) (s : GatedStage Ω) : Prop :=
  ∃ opened, Kept opened slots n s

theorem keeps_held {x : Program (GatedWorld Ω × List ObserverDriverMoment) α}
    (h : ∀ opened, Keeps (Kept opened slots n) x) : Keeps (Held slots n) x := by
  rintro s ⟨opened, hs⟩
  have hx := h opened s hs
  generalize x s = r at hx ⊢
  rcases r with ⟨_ | _, s'⟩
  · exact hx
  · exact ⟨opened, hx⟩

theorem proceeds_closeHandle (env : GatedEnvironment Ω) {world : GatedWorld Ω} (h : Gated world.device) :
    Proceeds world.device (env.closeHandle world).device := by
  unfold GatedEnvironment.closeHandle
  dsimp only
  split_ifs
  · exact proceeds_fileCleanup h _
  · exact .refl h

theorem keeps_endMediaSession : Keeps (Kept (Ω := Ω) opened slots n) endMediaSession :=
  .bind (.read _) fun _ => .ite (.ite (.bind (keeps_discarded _) fun _ =>
    keeps_modify fun _ => rfl) (keeps_modify fun _ => rfl)) (.pure _)

variable (env) in
theorem releaseTransport_held :
    Keeps (Held slots n) (releaseTransport env.environment.traced) := by
  refine .bind (keeps_held fun _ => keeps_endMediaSession) fun _ => ?_
  rintro s ⟨opened, h⟩
  have hclosed := proceeds_closeHandle env h.gated
  exact ⟨false, h.moved (env.closeHandle s.world.1, _) _ hclosed
    ⟨rfl, fun ho => by cases ho⟩⟩

variable (env) in
theorem close_held : Keeps (Held slots n) (close env.environment.traced) := by
  refine .bind (releaseTransport_held env) fun _ => keeps_held fun _ => .bind (.read _) fun _ => ?_
  exact .ite (keeps_discarded _) (.pure _)

variable (env) in
theorem openHandle_held (call : Ω → Except UInt32 Unit × Ω) :
    Triple (Kept false slots n) (do
      match ← ask (recorded .opened (env.openHandle call)) with
      | .error e => return .error e
      | .ok () =>
        modify fun h => { h with observerOpen := true }
        return .ok () : Program (GatedWorld Ω × List ObserverDriverMoment) (Except UInt32 Unit))
      (fun _ => Held slots n) fun _ => False := by
  intro s h
  have hclosed := proceeds_closeHandle env h.gated
  have hgo := hclosed.trans fun hg => proceeds_goOn env
    { env.closeHandle s.world.1 with
      outer := (call (env.closeHandle s.world.1).outer).2 } hg
  show wp (Prog.step _ >>= _) _ _ s
  rw [wp_bind, wp_step]
  dsimp only [recorded, GatedEnvironment.openHandle, GatedEnvironment.during]
  rcases (call (env.closeHandle s.world.1).outer).1 with e | _
  · exact ⟨false, h.moved (_, _) s.host hgo
      ⟨h.handle.1, fun ho => by cases ho⟩⟩
  · exact ⟨true, h.moved ({ env.goOn _ with handleOpen := true }, _) _ hgo
      ⟨rfl, fun _ => rfl⟩⟩

variable (env) in
theorem openDriver_held : Keeps (Held slots n) (openDriver env.environment.traced) := by
  refine Triple.bind (Q := fun host s => s.host = host ∧ Held slots n s)
    (.read fun s h => ⟨rfl, h⟩) fun host => .ite (fun _ => .pure fun _ => And.right) fun hclosed => ?_
  have hpre : ∀ s : GatedStage Ω, (s.host = host ∧ Held slots n s) → Kept false slots n s := by
    rintro s ⟨rfl, opened, h⟩
    cases opened with
    | false => exact h
    | true => exact absurd h.handle.1 hclosed
  by_cases hwrite : host.writeEnabled
  · rw [if_pos hwrite]
    exact (openHandle_held env _).pre hpre
  · rw [if_neg hwrite]
    exact (openHandle_held env _).pre hpre

variable (env) in
theorem ensureOpened_held : Keeps (Held slots n) (ensureOpened env.environment.traced) := by
  refine .bind (openDriver_held env) fun opened => ?_
  rcases opened with e | _
  · exact .ite (.pure _) (.pure _)
  refine .bind (keeps_held fun _ => keeps_steady (steady_during _) fun _ => rfl) fun answer => ?_
  rcases answer with e | version
  · exact .bind (close_held env) fun _ => .pure _
  · exact .ite (.bind (close_held env) fun _ => .pure _)
      (.ite (.bind (close_held env) fun _ => .pure _) (.pure _))

theorem keeps_endMapperGeneration : Keeps (Kept (Ω := Ω) opened slots n) endMapperGeneration :=
  .bind (.read _) fun _ => .ite (keeps_discarded _) (.pure _)

theorem keeps_beginGeneration (generation : UInt64) :
    Keeps (Kept (Ω := Ω) opened slots n) (beginGeneration generation) := by
  have hbegin : Keeps (Kept (Ω := Ω) opened slots n) (beginUnlessCurrent generation) :=
    .bind (.read _) fun _ => .ite (.pure _) (.bind (keeps_mapped _ _) fun _ =>
      .ite (.pure _) (.pure _))
  exact .bind (.read _) fun _ => .ite (.bind keeps_endMapperGeneration fun _ => hbegin) hbegin

variable (env) in
theorem keeps_configureMapper (generation : UInt64) :
    Keeps (Kept opened slots n) (configureMapper env.environment.traced generation) := by
  have hrest : Keeps (Kept opened slots n) (tellOptions env.environment.traced generation) :=
    .bind (.read _) fun host => .bind (keeps_discarded _) fun _ => .bind (keeps_discarded _)
      fun _ => .bind (keeps_discarded _) fun _ => keeps_mapAndDispatch env _
  refine .bind (.update fun s h => h.behind rfl rfl rfl) fun _ => .bind (keeps_modify fun _ => rfl)
    fun _ => .bind (keeps_during _) fun current => ?_
  rcases current with _ | current
  · exact hrest
  · exact .bind (keeps_modify fun _ => rfl) fun _ => hrest

variable (env) in
theorem keeps_preparePhysicalMapper :
    Keeps (Kept opened slots n) (preparePhysicalMapper env.environment.traced) := by
  refine .bind (.read _) fun generation => .ite (.pure _)
    (.bind (keeps_beginGeneration generation) fun begun => ?_)
  rcases begun with e | _
  · exact .pure _
  · exact .bind (keeps_configureMapper env generation) fun _ =>
      .bind keeps_ensureMapperLease fun _ => .ite (.pure _) (.pure _)

variable (env) in
theorem keeps_activate (status : NldAvrcpObserverStatus) :
    Keeps (Kept opened slots n) (activate env.environment.traced status) := by
  refine .bind (.read _) fun host => .ite (.pure _) (.ite (.bind (keeps_steady
    (steady_deviceIoControl env fun d hd => proceeds_beginObservation hd) fun _ => rfl)
    fun answer => ?_) (.ite (.bind (keeps_modify fun _ => rfl) fun _ => .pure _) (.pure _)))
  rcases answer with e | _
  · exact .bind (keeps_modify fun _ => rfl) fun _ => .pure _
  · exact .bind (keeps_modify fun _ => rfl) fun _ => .pure _

theorem keeps_abandon (starting : Bool) (result : V1AvrcpObserverActivationResult)
    (error : UInt32) :
    Keeps (Kept (Ω := Ω) opened slots n) (abandon starting result error) :=
  .bind (.onlyIf keeps_endMediaSession) fun _ => .pure _

variable (env) in
theorem beginMediaSession_held (options : V1AvrcpReplayOptions) :
    Keeps (Held slots n) (beginMediaSession env.environment.traced options) := by
  have habandon : ∀ starting result error,
      Keeps (Held (Ω := Ω) slots n) (abandon starting result error) :=
    fun starting result error => keeps_held fun _ => keeps_abandon starting result error
  refine .bind (keeps_held fun _ => keeps_modify fun _ => rfl) fun _ => .bind (.read _)
    fun starting => .bind (.onlyIf (keeps_held fun _ => keeps_modify fun _ => rfl)) fun _ =>
      .bind (ensureOpened_held env) fun opened => ?_
  rcases opened with ⟨result, e⟩ | _
  · exact habandon _ _ _
  refine .bind (keeps_held fun _ => keeps_readStatus env) fun status => ?_
  rcases status with e | status
  · exact habandon _ _ _
  refine .bind (keeps_held fun _ => keeps_preparePhysicalMapper env) fun prepared => ?_
  rcases prepared with e | _
  · exact habandon _ _ _
  refine .bind (keeps_held fun _ => keeps_activate env status) fun activated => ?_
  rcases activated with ⟨result, e⟩ | _
  · exact habandon _ _ _
  exact .bind (keeps_held fun _ => keeps_ensureMapperLease) fun _ => .ite (.pure _) (habandon _ _ _)

variable (env) in
theorem setMediaSessionSnapshot_held (snapshot : V1MediaSessionSnapshot) :
    Keeps (Held slots n) (setMediaSessionSnapshot env.environment.traced snapshot) :=
  keeps_held fun _ => .bind (keeps_modify fun _ => rfl) fun _ => .bind (.read _) fun _ =>
    .ite (keeps_mapAndDispatch env _) (.pure _)

variable (env) in
theorem call_held (call : V1AvrcpObserverHost.Call) (h : call ≠ .poll) :
    Keeps (Held slots n) (call.program env.environment.traced) := by
  cases call with
  | beginMediaSession options => exact .bind (beginMediaSession_held env options) fun _ => .pure _
  | poll => exact absurd rfl h
  | setMediaSessionSnapshot snapshot => exact setMediaSessionSnapshot_held env snapshot
  | endMediaSession => exact keeps_held fun _ => keeps_endMediaSession
  | releaseTransport => exact releaseTransport_held env
  | close => exact close_held env

/-! ## Runs -/

/-- The invariant: while the control channel is ready, a pending write is awaited. -/
structure Covered (s : GatedStage Ω) : Prop where
  leased : ∃ k, Leased k s
  covered : ∃ opened, CoveredWhenReady opened (device s).mishaps s

theorem WritePending.of_slot {sink : V1AvrcpWindowsSink} {slot : PendingSlot}
    (hh : headsetSlot slot) (hp : (sink.pending slot).isSome) : WritePending sink := by
  cases slot with
  | windowsVolume => cases hh
  | xm5Volume => exact ⟨_, List.mem_cons_self, hp⟩
  | playbackStatus => exact ⟨_, List.mem_cons_of_mem _ List.mem_cons_self, hp⟩

theorem Kept.recount {s : GatedStage Ω} (h : Kept opened slots n s)
    (hm : s.host.controlChannelReady → (device s).mishaps = n ∧ ∀ slot, slots slot) :
    CoveredWhenReady opened (device s).mishaps s :=
  ⟨h.gated, h.handle, h.writer, Nat.le_refl _, fun slot hready hh hp _ =>
    h.covered slot ((hm hready).2 slot) hh hp (hm hready).1⟩

theorem covered_step {s : GatedStage Ω} (h : Covered s) {step : GatedStep}
    (hu : Undisturbed env s step) : Covered ((gatedHost env).next s step) := by
  obtain ⟨⟨k, hleased⟩, opened, hcovered⟩ := h
  cases step with
  | driver step =>
    have hp := proceeds_next hcovered.gated step
    have hmoved : Kept opened (fun _ => s.host.controlChannelReady) (device s).mishaps
        ((gatedHost env).next s (.driver step)) :=
      hcovered.proceeds ({ s.world.1 with device := s.world.1.device.next step }, _) hp
        hcovered.handle.2
    exact ⟨⟨k, ⟨hleased.lease, hleased.activation, hleased.counted⟩⟩, opened,
      hmoved.recount fun hready => ⟨(hu hready).1, fun _ => hready⟩⟩
  | call call =>
    refine ⟨⟨_, leased_next hleased call⟩, ?_⟩
    by_cases hpoll : call = .poll
    · subst hpoll
      have hrun : Triple (fun s' => Leased k s' ∧ CoveredWhenReady opened (device s).mishaps s')
          (Call.program env.environment.traced .poll)
          (fun _ => CoveredWhenReady opened (device s).mishaps) fun _ => False :=
        .bind (poll_kept env) fun _ => .pure fun _ h => h
      have hkept := (hrun.conseq (fun _ => id) (fun _ _ => id) fun _ => False.elim).final
        ⟨hleased, hcovered⟩
      exact ⟨opened, Kept.recount hkept fun hready => ⟨(hu hready).1, fun _ => hready⟩⟩
    · have hheld : Held (fun _ => s.host.controlChannelReady ∨ ¬ WritePending s.sink)
          (device s).mishaps s := by
        refine ⟨opened, hcovered.gated, hcovered.handle, hcovered.writer, hcovered.counted, ?_⟩
        rintro slot (hready | hnone) hh hp
        · exact hcovered.covered slot hready hh hp
        · exact absurd (.of_slot hh hp) hnone
      obtain ⟨-, opened', hkept⟩ := (call_held env call hpoll).run hheld
      exact ⟨opened', hkept.recount fun hready =>
        ⟨(hu hready).1, fun _ => (hu hready).2 (by simpa using hpoll)⟩⟩

theorem unstranded_step {s : GatedStage Ω} (h : Covered s) {step : GatedStep}
    (hu : Undisturbed env s step) : Unstranded env s step := by
  obtain ⟨opened, hcovered⟩ := (covered_step h hu).covered
  intro _ s' _ _ hready hwrite
  obtain ⟨slot, hmem, hpending⟩ := hwrite
  refine hcovered.covered slot hready ?_ hpending rfl
  rcases List.mem_cons.mp hmem with rfl | hmem
  · rfl
  · rw [List.mem_singleton.mp hmem]
    rfl

theorem covered_fresh (writeEnabled : Bool) (outer : Ω) :
    Covered (fresh writeEnabled (({ outer := outer } : GatedWorld Ω), [])) where
  leased := ⟨_, leased_fresh writeEnabled _⟩
  covered := ⟨false, ⟨rfl, fun hr => absurd hr Bool.false_ne_true, (fun ho => by cases ho),
    fun hs => absurd hs Bool.false_ne_true⟩, ⟨rfl, fun ho => absurd ho Bool.false_ne_true⟩,
    ⟨rfl, rfl⟩, Nat.le_refl _, fun _ hready => absurd hready Bool.false_ne_true⟩

end

/-- **No stranded write**: in a run in which, while the control channel is ready, no write is
    refused for something else than a command, no last response is dropped and the channel does
    not close, and in which only a poll makes the channel ready when a write is pending, a write
    that is pending after a poll is awaited. -/
theorem no_stranded_write (env : GatedEnvironment Ω) (writeEnabled : Bool) (outer : Ω)
    (steps : List GatedStep)
    (hundisturbed : (gatedHost env).Along (Undisturbed env)
      (fresh writeEnabled ({ outer := outer }, [])) steps) :
    (gatedHost env).Along (Unstranded env) (fresh writeEnabled ({ outer := outer }, [])) steps :=
  Reducer.along_of_inv (fun _ _ h hu => covered_step h hu) (fun _ _ h hu => unstranded_step h hu)
    (covered_fresh writeEnabled outer) hundisturbed

instance (env : GatedEnvironment Ω) (s : GatedStage Ω) (step : GatedStep) :
    Decidable (Unstranded env s step) :=
  inferInstanceAs (Decidable (step = .call .poll →
    ((gatedHost env).next s step).host.mediaSessionActive → s.host.controlChannelReady →
      ((gatedHost env).next s step).host.controlChannelReady →
        WritePending ((gatedHost env).next s step).sink →
          (device ((gatedHost env).next s step)).Awaited))

instance (env : GatedEnvironment Ω) (s : GatedStage Ω) (step : GatedStep) :
    Decidable (Undisturbed env s step) :=
  inferInstanceAs (Decidable (((gatedHost env).next s step).host.controlChannelReady →
    (device ((gatedHost env).next s step)).mishaps = (device s).mishaps ∧
      (step ≠ .call .poll → s.host.controlChannelReady ∨ ¬ WritePending s.sink)))

/-- A system that does what it is told, and reports the changes of the Windows volume that its
    world lists. -/
def volumeChanges : AvrcpObserverEnvironment (List (Option AvrcpWindowsVolume)) where
  ensureVolume world := (true, world)
  setWindowsVolume _ world := (true, world)
  queryWindowsVolume world := (some ⟨30, false⟩, world)
  windowsVolumeNotificationsActive world := (true, world)
  consumeWindowsVolumeChange world := (world.head?.join, world.tail)
  injectVirtualKey _ world := (true, world)
  writeAvrcp _ _ _ world := (true, world)
  getTickCount world := (0, world)
  openReadOnly world := (.ok (), world)
  openReadWrite world := (.ok (), world)
  closeDriver world := ((), world)
  getVersion world := (.ok ⟨sizeofAbiVersion, abiMajor, abiMinor⟩, world)
  getStatus world := (.ok {}, world)
  beginObservation world := (.ok (), world)
  dequeueEvent world := (.ok {}, world)

def steppedDriver : GatedEnvironment (List (Option AvrcpWindowsVolume)) where
  outer := volumeChanges
  schedule world := ([], world)
  remoteDisconnected _ := false

def headsetAnswers (label response pduId : UInt8) (parameters : List UInt8) : List GatedStep :=
  [.driver (.readPacket (Protocol.avrcpWriteVendorResponse Protocol.avrcpMaxControlPacket label
    response pduId parameters)), .driver .settle]

/-- A session is begun and becomes ready; the player begins to play, which is reported to the
    headset. -/
def untilReport : List GatedStep :=
  [.driver .start, .call (.beginMediaSession { aclGeneration := 1 }), .driver .openChannel] ++
    headsetAnswers 0 0x0C 0x10 [3, 1, 0x0D] ++ headsetAnswers 1 0x0F 0x31 [0x0D, 0x26] ++
      [.call .poll, .call (.setMediaSessionSnapshot { aclGeneration := 1, playback := .playing })]

def changedVolumes : List (Option AvrcpWindowsVolume) := [none, some ⟨60, false⟩, some ⟨70, false⟩]

/-- The report has left the gate when the volume changes, and the next volume waits for the
    response to this one. -/
def volumesInTurn : List GatedStep :=
  untilReport ++ [.driver .takeWrite, .driver .settle, .call .poll, .driver .takeWrite, .call .poll]

theorem volumes_awaited :
    (gatedHost steppedDriver).Along (Unstranded steppedDriver)
      (fresh true ({ outer := changedVolumes }, [])) volumesInTurn :=
  no_stranded_write steppedDriver true changedVolumes volumesInTurn (by decide +kernel)

/-- The volume changes while the report holds the gate: it is refused, and nothing is awaited
    that would make the host try it again. -/
theorem volume_stranded :
    ¬ (gatedHost steppedDriver).Along (Unstranded steppedDriver)
      (fresh true ({ outer := changedVolumes }, [])) (untilReport ++ [.call .poll]) := by
  decide +kernel

end NativeLdac.Sideband.Stranded
