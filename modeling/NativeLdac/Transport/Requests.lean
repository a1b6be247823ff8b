/-
  Requests that are outstanding, and the pointers of the context.

  * a request is outstanding from the section that accepts it to the first section of its
    completion, or of its failure (`Point.isOutstanding`);
  * `Driver.Tracked` says that the context points to the requests that are outstanding: there
    is one place for each kind, and an outstanding request is in that of its kind;
  * the section that opens a channel does not look at the pointer that it sets: what keeps
    the pointers right is that it finds the place free (`Driver.Spares`).
-/
import NativeLdac.Transport.Driver
import NativeLdac.Lib.Slots

namespace NativeLdac.Transport

/-! ## Where the requests are -/

def Point.isOutstanding : Point → Bool
  | .accepted | .memory | .brb | .sent | .failing => true
  | .unborn | .entered | .waiting | .failed _ | .settled _ _ | .reset _ | .signalling _
  | .done => false

def Request.place (q : Request) : Option RequestKind :=
  if q.point.isOutstanding then some q.kind else none

theorem Request.place_eq_some {q : Request} {kind : RequestKind} :
    q.place = some kind ↔ q.point.isOutstanding ∧ q.kind = kind := by
  unfold place
  split_ifs with h <;> simp [h]

theorem Request.place_eq_none {q : Request} : q.place = none ↔ ¬ q.point.isOutstanding := by
  unfold place
  split_ifs with h <;> simp [h]

namespace Driver

def place (s : Driver) (r : RequestId) : Option RequestKind := (s.requests r).place

/-- The context points to the requests that are outstanding. -/
structure Tracked (s : Driver) : Prop where
  agree : Slots.Agree s.context.request s.place
  pending : ∀ kind : RequestKind, kind.isTransfer →
    s.context.pending kind = (s.context.request kind).isSome

theorem tracked_init : ({} : Driver).Tracked where
  agree := Slots.agree_empty
  pending := fun _ _ => rfl

theorem Tracked.request (h : Tracked s) {r : RequestId} (hr : (s.requests r).point.isOutstanding) :
    s.context.request (s.requests r).kind = some r :=
  (h.agree _ r).mpr (Request.place_eq_some.mpr ⟨hr, rfl⟩)

end Driver

/-! ## What a step of a request does -/

/-- Nothing changes that tracks a request. -/
structure Context.Steady (c c' : Context) : Prop where
  lifecycle : c'.shuttingDown = c.shuttingDown ∧ c'.pnpStarted = c.pnpStarted
  request : c'.request = c.request
  pending : c'.pending = c.pending

theorem Context.Steady.refl (c : Context) : c.Steady c := ⟨⟨rfl, rfl⟩, rfl, rfl⟩

theorem Context.steady_signalCompleted (c : Context) (kind : RequestKind) :
    c.Steady (c.signalCompleted kind) := by
  unfold signalCompleted
  split_ifs <;> exact ⟨⟨rfl, rfl⟩, rfl, rfl⟩

/-- A request takes a step: it is accepted, it is let go of, or it stays what it was. -/
inductive Advanced (c c' : Context) (r : RequestId) (q q' : Request) : Prop
  | accepts (entered : q.point = .entered) (h : Context.Accepting c c' q.kind r)
      (outstanding : q'.point.isOutstanding)
  | letsGo (outstanding : q.point.isOutstanding) (release : Bool)
      (h : Context.LettingGo c c' q.kind r release) (gone : ¬ q'.point.isOutstanding)
  | steady (h : c.Steady c') (outstanding : q'.point.isOutstanding = q.point.isOutstanding)

theorem Request.accepted_of_ne {q : Request} {a : Acceptance} (h : a ≠ .accepted) :
    ¬ (q.accepted a).point.isOutstanding := by
  cases a with
  | rejected => exact nofun
  | connected => exact nofun
  | waits => exact nofun
  | accepted => exact absurd rfl h

theorem Request.outstanding_accepted (q : Request) :
    (q.accepted .accepted).point.isOutstanding := by
  unfold accepted
  dsimp only
  split_ifs <;> rfl

theorem Request.outstanding_allocate {q : Request} (ok : Bool) (h : q.point.isOutstanding) :
    (q.allocate ok).point.isOutstanding := by
  unfold allocate
  split
  · split_ifs <;> rfl
  · split_ifs <;> rfl
  · exact h

theorem Request.outstanding_send (q : Request) (ok : Bool) :
    (q.send ok).point.isOutstanding := by
  unfold send
  split_ifs <;> rfl

@[simp] theorem Request.point_dereferenceIf (q : Request) (release : Bool) :
    (q.dereferenceIf release).point = q.point := by
  cases release <;> rfl

@[simp] theorem Request.point_complete (q : Request) : q.complete.point = q.point := rfl

theorem advance_cases (c : Context) (r : RequestId) (q : Request) (ok : Bool) :
    Advanced c (c.advance r q ok).2 r q (c.advance r q ok).1 := by
  unfold Context.advance
  cases hpoint : q.point with
  | unborn => exact .steady (.refl c) rfl
  | entered =>
    dsimp only
    obtain ⟨hrejected, hsame⟩ | ⟨haccepted, haccepting⟩ := Context.acceptSection_cases c q.kind r ok
    · refine .steady (by rw [hsame]; exact .refl c) ?_
      rw [hpoint]
      exact Bool.eq_false_iff.mpr (Request.accepted_of_ne hrejected)
    · refine .accepts hpoint haccepting ?_
      rw [haccepted]
      exact q.outstanding_accepted
  | waiting => exact .steady (.refl c) (by simp [Request.handBack, hpoint, Point.isOutstanding])
  | accepted | memory =>
    have hout : q.point.isOutstanding := by rw [hpoint]; rfl
    exact .steady (.refl c) ((Request.outstanding_allocate ok hout).trans hout.symm)
  | brb =>
    have hout : q.point.isOutstanding := by rw [hpoint]; rfl
    exact .steady (.refl c) ((q.outstanding_send ok).trans hout.symm)
  | sent =>
    exact .letsGo (by rw [hpoint]; rfl) _ (Context.completionSection_cases c q.kind r ok).1 nofun
  | failing =>
    exact .letsGo (by rw [hpoint]; rfl) _ (Context.failSection_cases c q.kind r).1 nofun
  | failed release =>
    exact .steady (Context.steady_signalCompleted c q.kind)
      (by simp [hpoint, Point.isOutstanding])
  | settled ok release =>
    dsimp only
    split_ifs with hreset
    · exact .steady ⟨⟨rfl, rfl⟩, rfl, rfl⟩ (by simp [hpoint, Point.isOutstanding])
    · exact .steady (.refl c) (by simp [hpoint, Point.isOutstanding])
  | reset release => exact .steady (.refl c) (by simp [hpoint, Point.isOutstanding])
  | signalling release =>
    dsimp only
    split_ifs with hquiet
    · exact .steady (.refl c) (by simp [hpoint, Point.isOutstanding])
    · exact .steady (Context.steady_signalCompleted c q.kind)
        (by simp [hpoint, Point.isOutstanding])
  | done => exact .steady (.refl c) rfl

/-! ## What a step of the driver does -/

namespace Driver

/-- No request moves, and the context points where it did; a request may have been cancelled. -/
structure Quiet (s s' : Driver) : Prop where
  request : s'.context.request = s.context.request
  pending : s'.context.pending = s.context.pending
  requests : ∀ r, ∃ cancelled, s'.requests r = { s.requests r with cancelled }

theorem Quiet.of_eq {s s' : Driver} (hrequest : s'.context.request = s.context.request)
    (hpending : s'.context.pending = s.context.pending) (hrequests : s'.requests = s.requests) :
    Quiet s s' :=
  ⟨hrequest, hpending, fun r => ⟨(s.requests r).cancelled, by rw [hrequests]⟩⟩

theorem Quiet.place {s s' : Driver} (h : Quiet s s') : s'.place = s.place := by
  funext r
  obtain ⟨cancelled, hr⟩ := h.requests r
  unfold Driver.place
  rw [hr]
  rfl

theorem quiet_cancel (s : Driver) (target : Option RequestId) : Quiet s (s.cancel target) := by
  cases target with
  | none => exact .of_eq rfl rfl rfl
  | some r =>
    unfold cancel
    dsimp only
    split_ifs with hsent
    · refine ⟨rfl, rfl, fun r' => ?_⟩
      by_cases hr : r' = r
      · subst hr
        exact ⟨true, Function.update_self _ _ _⟩
      · exact ⟨(s.requests r').cancelled, Function.update_of_ne hr _ _⟩
    · exact .of_eq rfl rfl rfl

theorem quiet_shutdownAct (s : Driver) (captured : RequestKind → Option RequestId)
    (acts : List ShutdownAct) (act : ShutdownAct) : Quiet s (s.shutdownAct captured acts act) := by
  cases act with
  | cancel kind =>
    obtain ⟨hrequest, hpending, hrequests⟩ := quiet_cancel s (captured kind)
    exact ⟨hrequest, hpending, hrequests⟩
  | wait kind =>
    unfold shutdownAct
    dsimp only
    split_ifs <;> exact .of_eq rfl rfl rfl

theorem quiet_closeStep (s : Driver) (shutdown : Bool) (channel : Channel) (ok : Bool)
    (point : ClosePoint) : Quiet s (s.closeStep shutdown channel ok point) := by
  unfold closeStep Context.closeSection
  cases point with
  | start => dsimp only; split_ifs <;> exact .of_eq rfl rfl rfl
  | send handle => dsimp only; split_ifs <;> exact .of_eq rfl rfl rfl
  | sent => exact .of_eq rfl rfl rfl
  | reset => exact .of_eq rfl rfl rfl

theorem quiet_operate (s : Driver) (ok : Bool) : Quiet s (s.operate ok) := by
  unfold operate
  cases hop : s.operation with
  | free => exact .of_eq rfl rfl rfl
  | register => dsimp only; split_ifs <;> exact .of_eq rfl rfl rfl
  | registerSend => dsimp only; split_ifs <;> exact .of_eq rfl rfl rfl
  | registerSent =>
    dsimp only [Context.serverRegisterCompleted]
    split_ifs <;> exact .of_eq rfl rfl rfl
  | unregister worker => dsimp only; split_ifs <;> exact .of_eq rfl rfl rfl
  | unregisterSend worker => dsimp only; split_ifs <;> exact .of_eq rfl rfl rfl
  | unregisterSent worker =>
    dsimp only [Context.serverUnregisterCompleted, unregistered]
    split_ifs <;> exact .of_eq rfl rfl rfl
  | capture => exact .of_eq rfl rfl rfl
  | rundown captured acts =>
    cases acts with
    | nil => exact .of_eq rfl rfl rfl
    | cons act acts => exact quiet_shutdownAct s captured acts act
  | close shutdown channel point => exact quiet_closeStep s shutdown channel ok point
  | endShutdown =>
    dsimp only [Context.endShutdown]
    split_ifs <;> exact .of_eq rfl rfl rfl

theorem shutdownAct_cases (s : Driver) (captured : RequestKind → Option RequestId)
    (acts : List ShutdownAct) (act : ShutdownAct) :
    (s.shutdownAct captured acts act).operation = .rundown captured acts ∨
      s.shutdownAct captured acts act = s := by
  cases act with
  | cancel kind => exact .inl rfl
  | wait kind =>
    unfold shutdownAct
    dsimp only
    split_ifs
    · exact .inl rfl
    · exact .inr rfl

theorem operation_closeStep (s : Driver) (shutdown : Bool) (channel : Channel) (ok : Bool)
    (point : ClosePoint) (captured : RequestKind → Option RequestId) (acts : List ShutdownAct) :
    (s.closeStep shutdown channel ok point).operation ≠ .rundown captured acts := by
  have hafter : afterClose shutdown channel ≠ .rundown captured acts := by
    cases channel <;> cases shutdown <;> nofun
  unfold closeStep Context.closeSection
  cases point with
  | start => dsimp only; split_ifs <;> first | exact hafter | nofun
  | send handle => dsimp only; split_ifs <;> nofun
  | sent => nofun
  | reset => exact hafter

theorem operate_rundown {s : Driver} {ok : Bool} {captured : RequestKind → Option RequestId}
    {acts : List ShutdownAct} (h : (s.operate ok).operation = .rundown captured acts) :
    (s.operation = .capture ∧ captured = s.context.request ∧ acts = shutdownActs) ∨
      (∃ act, s.operation = .rundown captured (act :: acts) ∧
        s.operate ok = s.shutdownAct captured acts act) ∨
      (s.operation = .rundown captured acts ∧ s.operate ok = s) := by
  unfold operate at h ⊢
  cases hop : s.operation with
  | rundown captured' acts' =>
    cases acts' with
    | nil => rw [hop] at h; cases h
    | cons act acts' =>
      rw [hop] at h
      dsimp only at h ⊢
      rcases shutdownAct_cases s captured' acts' act with hover | hsame
      · rw [hover] at h
        cases h
        exact .inr (.inl ⟨act, rfl, rfl⟩)
      · rw [hsame, hop] at h
        cases h
        exact .inr (.inr ⟨rfl, hsame⟩)
  | capture => rw [hop] at h; cases h; exact .inl ⟨rfl, rfl, rfl⟩
  | close shutdown channel point =>
    rw [hop] at h
    exact absurd h (operation_closeStep s shutdown channel ok point captured acts)
  | free => rw [hop] at h; exact absurd (hop.symm.trans h) nofun
  | register | registerSend | unregister | unregisterSend =>
    rw [hop] at h
    dsimp only at h
    split_ifs at h <;> cases h
  | registerSent | unregisterSent | endShutdown => rw [hop] at h; cases h

theorem quiet_start (s : Driver) (function : OperationStart) : Quiet s (s.start function) := by
  unfold start
  split <;> first | exact .of_eq rfl rfl rfl | (split_ifs <;> exact .of_eq rfl rfl rfl)

theorem quiet_disconnect (s : Driver) (r : RequestId) : Quiet s (s.disconnect r) := by
  unfold disconnect
  split_ifs <;> exact .of_eq rfl rfl rfl

theorem quiet_workerReports (s : Driver) : Quiet s s.workerReports := by
  unfold workerReports
  split <;> exact .of_eq rfl rfl rfl

/-- **A step of the driver**: no request moves, a request comes, or it takes its next step. -/
inductive Moves (s : Driver) (step : DriverStep) : Prop
  | quiet (h : Quiet s (transport.next s step))
  | enters (r : RequestId) (kind : RequestKind) (eq : step = .enter r kind)
      (unborn : (s.requests r).point = .unborn)
      (h : transport.next s step =
        s.setRequest r { kind, point := .entered, reference := { taken := 1 } })
  | advances (r : RequestId) (ok : Bool) (h : step = .advance r ok)

theorem moves (s : Driver) (step : DriverStep) : Moves s step := by
  cases step with
  | enter r kind =>
    by_cases hadmits : (s.requests r).point = .unborn ∧ s.admits kind
    · exact .enters r kind rfl hadmits.1 (if_pos hadmits)
    · have hsame : transport.next s (.enter r kind) = s := if_neg hadmits
      exact .quiet (.of_eq (by rw [hsame]) (by rw [hsame]) (by rw [hsame]))
  | advance r ok => exact .advances r ok rfl
  | disconnect r => exact .quiet (quiet_disconnect s r)
  | lifecycle started => exact .quiet (.of_eq rfl rfl rfl)
  | start function => exact .quiet (quiet_start s function)
  | operate ok => exact .quiet (quiet_operate s ok)
  | workerReports => exact .quiet (quiet_workerReports s)

theorem place_setRequest (s : Driver) (r : RequestId) (q : Request) :
    (s.setRequest r q).place = Function.update s.place r q.place := by
  funext r'
  by_cases hr : r' = r
  · subst hr
    simp [place, setRequest]
  · simp [place, setRequest, hr]

theorem requests_advance (s : Driver) (r : RequestId) (ok : Bool) :
    (s.advance r ok).requests r = (s.context.advance r (s.requests r) ok).1 :=
  requests_setRequest s r _

theorem requests_advance_of_ne (s : Driver) {r r' : RequestId} (h : r' ≠ r) (ok : Bool) :
    (s.advance r ok).requests r' = s.requests r' :=
  requests_setRequest_of_ne s h _

theorem place_advance (s : Driver) (r : RequestId) (ok : Bool) :
    (s.advance r ok).place =
      Function.update s.place r (s.context.advance r (s.requests r) ok).1.place :=
  place_setRequest s r _

theorem unborn_after {s : Driver} {r : RequestId} (h : (s.requests r).point = .unborn)
    {steps : List DriverStep} (hnot : ∀ kind, .enter r kind ∉ steps) :
    ((transport.after s steps).requests r).point = .unborn := by
  induction steps generalizing s with
  | nil => exact h
  | cons step steps ih =>
    refine ih ?_ fun kind hmem => hnot kind (List.mem_cons_of_mem _ hmem)
    cases moves s step with
    | quiet hquiet =>
      obtain ⟨cancelled, hr⟩ := hquiet.requests r
      rw [hr]
      exact h
    | enters r' kind hstep _ hnext =>
      have hne : r ≠ r' := by
        rintro rfl
        exact hnot kind (hstep ▸ List.mem_cons_self)
      rw [hnext, requests_setRequest_of_ne s hne]
      exact h
    | advances r' ok hstep =>
      subst hstep
      by_cases hr : r = r'
      · subst hr
        have hsame : (s.context.advance r (s.requests r) ok).1 = s.requests r := by
          unfold Context.advance
          rw [h]
        exact (congrArg Request.point ((requests_advance s r ok).trans hsame)).trans h
      · exact (congrArg Request.point (requests_advance_of_ne s hr ok)).trans h

/-! ## The pointers stay right -/

end Driver

theorem Request.kind_dereferenceIf (q : Request) (release : Bool) :
    (q.dereferenceIf release).kind = q.kind := by
  cases release <;> rfl

theorem kind_advance (c : Context) (r : RequestId) (q : Request) (ok : Bool) :
    (c.advance r q ok).1.kind = q.kind := by
  unfold Context.advance
  cases hpoint : q.point with
  | entered =>
    dsimp only
    cases (c.acceptSection q.kind r ok).1 with
    | rejected => exact Request.kind_dereferenceIf _ _
    | connected | waits | accepted => rfl
  | waiting => exact Request.kind_dereferenceIf _ _
  | accepted | memory =>
    dsimp only [Request.allocate]
    split <;> first | rfl | (split_ifs <;> rfl)
  | brb => dsimp only [Request.send]; split_ifs <;> rfl
  | failed release => exact Request.kind_dereferenceIf _ _
  | settled ok release =>
    dsimp only
    split_ifs
    · rfl
    · exact Request.kind_dereferenceIf _ _
  | reset release => exact Request.kind_dereferenceIf _ _
  | unborn | sent | failing | signalling | done => rfl

namespace Driver

/-- A request that opens a channel and is going to be accepted finds no other in its place. -/
def Spares (s : Driver) : DriverStep → Prop
  | .advance r _ =>
    (s.requests r).point = .entered → s.context.admitsOpen (s.requests r).kind →
      s.context.request (s.requests r).kind = none
  | _ => True

instance (s : Driver) (step : DriverStep) : Decidable (s.Spares step) :=
  match step with
  | .advance _ _ => inferInstanceAs (Decidable (_ → _ → _))
  | .enter _ _ | .disconnect _ | .lifecycle _ | .start _ | .operate _ | .workerReports =>
    isTrue trivial

theorem Tracked.free {s : Driver} (h : s.Tracked) {r : RequestId} {ok : Bool}
    (hspares : s.Spares (.advance r ok)) (hentered : (s.requests r).point = .entered)
    {c' : Context} (haccepting : s.context.Accepting c' (s.requests r).kind r) :
    s.context.request (s.requests r).kind = none := by
  by_cases htransfer : (s.requests r).kind.isTransfer
  · have hpending := h.pending _ htransfer
    rw [haccepting.idle htransfer] at hpending
    exact Option.isNone_iff_eq_none.mp (by simpa using hpending.symm)
  · by_cases hopen : (s.requests r).kind.isOpen
    · exact hspares hentered (haccepting.admits hopen)
    · have hincoming := RequestKind.eq_incomingSignaling htransfer hopen
      exact haccepting.alone hincoming

theorem pending_accepting {c c' : Context} {kind : RequestKind} {r : RequestId}
    (h : c.Accepting c' kind r) {kind' : RequestKind} (htransfer : kind'.isTransfer)
    (hpending : c.pending kind' = (c.request kind').isSome) :
    c'.pending kind' = (c'.request kind').isSome := by
  rw [h.pending, h.request]
  by_cases hkind : kind' = kind
  · subst hkind
    rw [if_pos htransfer, Function.update_self, Function.update_self]
    rfl
  · rw [Function.update_of_ne hkind]
    split_ifs
    · rw [Function.update_of_ne hkind, hpending]
    · exact hpending

theorem pending_lettingGo {c c' : Context} {kind : RequestKind} {r : RequestId} {release : Bool}
    (h : c.LettingGo c' kind r release) (hptr : c.request kind = some r) {kind' : RequestKind}
    (htransfer : kind'.isTransfer) (hpending : c.pending kind' = (c.request kind').isSome) :
    c'.pending kind' = (c'.request kind').isSome := by
  rw [h.pending, h.request, if_pos hptr]
  by_cases hkind : kind' = kind
  · subst hkind
    rw [if_pos htransfer, Function.update_self, Function.update_self]
    rfl
  · rw [Function.update_of_ne hkind]
    split_ifs
    · rw [Function.update_of_ne hkind, hpending]
    · exact hpending

theorem tracked_advance {s : Driver} (h : s.Tracked) {r : RequestId} {ok : Bool}
    (hspares : s.Spares (.advance r ok)) : (s.advance r ok).Tracked := by
  have hkind := kind_advance s.context r (s.requests r) ok
  have hplace := place_advance s r ok
  constructor
  · rw [hplace]
    rcases advance_cases s.context r (s.requests r) ok with
      ⟨hentered, haccepting, hout⟩ | ⟨hout, release, hgo, hgone⟩ | ⟨hsteady, hout⟩
    · have hfree := h.free hspares hentered haccepting
      have hnone : s.place r = none :=
        Request.place_eq_none.mpr (by rw [hentered]; exact nofun)
      rw [Request.place_eq_some.mpr ⟨hout, hkind⟩]
      exact haccepting.request ▸ h.agree.take hfree hnone
    · have hptr := h.request hout
      rw [Request.place_eq_none.mpr hgone]
      have hrequest := hgo.request
      rw [if_pos hptr] at hrequest
      exact hrequest ▸ h.agree.drop hptr
    · have hsame : (s.context.advance r (s.requests r) ok).1.place = s.place r := by
        unfold Driver.place Request.place
        rw [hout, hkind]
      rw [hsame, Function.update_eq_self]
      exact hsteady.request ▸ h.agree
  · intro kind htransfer
    have hpending := h.pending kind htransfer
    rcases advance_cases s.context r (s.requests r) ok with
      ⟨hentered, haccepting, hout⟩ | ⟨hout, release, hgo, hgone⟩ | ⟨hsteady, hout⟩
    · exact pending_accepting haccepting htransfer hpending
    · exact pending_lettingGo hgo (h.request hout) htransfer hpending
    · exact (congrFun hsteady.pending kind).trans
        (hpending.trans (congrArg Option.isSome (congrFun hsteady.request kind).symm))

theorem tracked_next {s : Driver} {step : DriverStep} (h : s.Tracked) (hspares : s.Spares step) :
    (transport.next s step).Tracked := by
  cases moves s step with
  | quiet hquiet =>
    refine ⟨?_, fun kind htransfer => ?_⟩
    · rw [hquiet.request, hquiet.place]
      exact h.agree
    · rw [hquiet.request, hquiet.pending]
      exact h.pending kind htransfer
  | enters r kind _ hunborn hnext =>
    have hnone : s.place r = none := Request.place_eq_none.mpr (by rw [hunborn]; exact nofun)
    rw [hnext]
    refine ⟨?_, h.pending⟩
    rw [place_setRequest]
    have hsame : Function.update s.place r none = s.place := by
      rw [← hnone, Function.update_eq_self]
    exact hsame.symm ▸ h.agree
  | advances r ok hstep =>
    subst hstep
    exact tracked_advance h hspares

end Driver

end NativeLdac.Transport
