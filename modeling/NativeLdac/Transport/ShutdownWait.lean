/-
  What the shutdown waits for (`driver/sys/connection.c`, `LdacNativeConnectionShutdown`).

  * the shutdown cancels each request that it captured once, and waits for its event later
    (`shutdownActs`); a request that is not with the stack when it is cancelled is not
    cancelled at all;
  * `Request.Bounded` is what ends a wait: the request is not with the stack, it is there with a
    timeout, or it was cancelled there;
  * a read, or the response to the headset, is sent without a timeout. `Driver.SendsInTime`
    says that none is sent between the cancel and the wait of a shutdown that captured it.
-/
import NativeLdac.Transport.Requests

namespace NativeLdac.Transport

/-- A request is not with the stack, or does not stay there: it has a timeout, or was cancelled
    after it was sent. -/
def Request.Bounded (q : Request) : Prop :=
  q.point ≠ .sent ∨ q.kind.isTimed ∨ q.cancelled

instance (q : Request) : Decidable q.Bounded := inferInstanceAs (Decidable (_ ∨ _ ∨ _))

/-! ## The acts of a shutdown -/

/-- An act may follow another: a request is not cancelled after the wait for it. -/
def ShutdownAct.mayFollow : ShutdownAct → ShutdownAct → Bool
  | .wait kind, .cancel kind' => kind != kind'
  | _, _ => true

theorem shutdownActs_ordered :
    shutdownActs.Pairwise fun act act' => act.mayFollow act' := by
  decide

theorem cancel_notMem {kind : RequestKind} {acts : List ShutdownAct}
    (h : (ShutdownAct.wait kind :: acts).Pairwise fun act act' => act.mayFollow act') :
    .cancel kind ∉ ShutdownAct.wait kind :: acts := by
  intro hmem
  obtain hhead | htail := List.mem_cons.mp hmem
  · cases hhead
  · have hfollows := List.rel_of_pairwise_cons h htail
    simp [ShutdownAct.mayFollow] at hfollows

/-- The shutdown has tried to cancel the request, and its wait is not over. -/
def GivenUp (captured : RequestKind → Option RequestId) (acts : List ShutdownAct)
    (r : RequestId) : Prop :=
  ∃ kind, captured kind = some r ∧ .cancel kind ∉ acts ∧ .wait kind ∈ acts

instance (captured : RequestKind → Option RequestId) (acts : List ShutdownAct) (r : RequestId) :
    Decidable (GivenUp captured acts r) :=
  decidable_of_iff
    (∃ kind ∈ RequestKind.all, captured kind = some r ∧ .cancel kind ∉ acts ∧ .wait kind ∈ acts)
    (by simp [GivenUp, RequestKind.mem_all])

theorem givenUp_of_waits {captured : RequestKind → Option RequestId} {acts : List ShutdownAct}
    {act : ShutdownAct} {r : RequestId} (h : GivenUp captured acts r)
    (hact : ∀ kind, captured kind = some r → act ≠ .cancel kind) :
    GivenUp captured (act :: acts) r := by
  obtain ⟨kind, hcaptured, hcancel, hwait⟩ := h
  refine ⟨kind, hcaptured, fun hmem => ?_, List.mem_cons_of_mem _ hwait⟩
  obtain hhead | htail := List.mem_cons.mp hmem
  · exact hact kind hcaptured hhead.symm
  · exact hcancel htail

namespace Operation

/-- The shutdown waits for a request that it captured. -/
def WaitsFor : Operation → RequestId → Prop
  | .rundown captured (.wait kind :: _), r => captured kind = some r
  | _, _ => False

/-- The shutdown has made its only attempt to cancel the request, and its wait is not over. -/
def HasGivenUp : Operation → RequestId → Prop
  | .rundown captured acts, r => GivenUp captured acts r
  | _, _ => False

theorem WaitsFor.rundown {operation : Operation} {r : RequestId} (h : operation.WaitsFor r) :
    ∃ captured kind acts, operation = .rundown captured (.wait kind :: acts) ∧
      captured kind = some r :=
  match operation, h with
  | .rundown captured (.wait kind :: acts), h => ⟨captured, kind, acts, rfl, h⟩

instance (operation : Operation) (r : RequestId) : Decidable (operation.WaitsFor r) :=
  match operation with
  | .rundown captured (.wait kind :: _) => inferInstanceAs (Decidable (captured kind = some r))
  | .rundown _ (.cancel _ :: _) | .rundown _ [] => isFalse id
  | .free | .register | .registerSend | .registerSent | .unregister _ | .unregisterSend _
  | .unregisterSent _ | .capture | .close _ _ _ | .endShutdown => isFalse id

instance (operation : Operation) (r : RequestId) : Decidable (operation.HasGivenUp r) :=
  match operation with
  | .rundown captured acts => inferInstanceAs (Decidable (GivenUp captured acts r))
  | .free | .register | .registerSend | .registerSent | .unregister _ | .unregisterSend _
  | .unregisterSent _ | .capture | .close _ _ _ | .endShutdown => isFalse id

end Operation

namespace Driver

/-- A request that has no timeout is not sent after the shutdown tried to cancel it, and before
    its wait is over. -/
def SendsInTime (s : Driver) : DriverStep → Prop
  | .advance r true =>
    (s.requests r).point = .brb → (s.requests r).kind.isTimed ∨ ¬ s.operation.HasGivenUp r
  | _ => True

instance (s : Driver) (step : DriverStep) : Decidable (s.SendsInTime step) :=
  match step with
  | .advance _ true => inferInstanceAs (Decidable (_ → _))
  | .advance _ false | .enter _ _ | .disconnect _ | .lifecycle _ | .start _ | .operate _
  | .workerReports => isTrue trivial

/-- What the shutdown is going to wait for, and no longer cancels, ends. -/
structure Winding (s : Driver) (captured : RequestKind → Option RequestId)
    (acts : List ShutdownAct) : Prop where
  ordered : acts.Pairwise fun act act' => act.mayFollow act'
  bounded : ∀ r, GivenUp captured acts r → (s.requests r).Bounded

def Winds (s : Driver) : Prop :=
  ∀ captured acts, s.operation = .rundown captured acts → s.Winding captured acts

/-! ## Each step keeps what ends the waits -/

end Driver

theorem sent_advance {c : Context} {r : RequestId} {q : Request} {ok : Bool}
    (h : (c.advance r q ok).1.point = .sent) : q.point = .brb ∧ ok = true := by
  unfold Context.advance at h
  cases hpoint : q.point with
  | brb =>
    rw [hpoint] at h
    dsimp only [Request.send] at h
    split_ifs at h with hok
    exact ⟨rfl, hok⟩
  | entered =>
    rw [hpoint] at h
    dsimp only at h
    cases hacceptance : (c.acceptSection q.kind r ok).1 <;> rw [hacceptance] at h
    · cases h
    · cases h
    · cases h
    · dsimp only [Request.accepted] at h
      split_ifs at h
  | accepted | memory =>
    rw [hpoint] at h
    simp only [Request.allocate, hpoint] at h
    split_ifs at h
  | settled ok release =>
    rw [hpoint] at h
    dsimp only at h
    split_ifs at h
    simp at h
  | failed release | reset release => rw [hpoint] at h; simp at h
  | unborn | done =>
    rw [hpoint] at h
    cases hpoint.symm.trans h
  | waiting | sent | failing | signalling =>
    rw [hpoint] at h
    cases h

namespace Driver

variable {s : Driver}

theorem bounded_cancel {r : RequestId} (h : (s.requests r).Bounded) (target : Option RequestId) :
    ((s.cancel target).requests r).Bounded := by
  cases target with
  | none => exact h
  | some r' =>
    unfold cancel
    dsimp only
    split_ifs
    · by_cases hr : r = r'
      · subst hr
        exact .inr (.inr (by rw [requests_setRequest]))
      · rw [requests_setRequest_of_ne s hr]
        exact h
    · exact h

theorem bounded_cancelled (s : Driver) (r : RequestId) :
    ((s.cancel (some r)).requests r).Bounded := by
  unfold cancel
  dsimp only
  split_ifs with hsent
  · exact .inr (.inr (by rw [requests_setRequest]))
  · exact .inl hsent

theorem winds_shutdownAct {captured : RequestKind → Option RequestId} {acts : List ShutdownAct}
    {act : ShutdownAct} (h : s.Winding captured (act :: acts)) :
    ({ s.shutdownAct captured acts act with
      operation := .rundown captured acts } : Driver).Winding captured acts := by
  refine ⟨h.ordered.of_cons, fun r hgiven => ?_⟩
  cases act with
  | cancel kind =>
    by_cases htarget : captured kind = some r
    · have hcancelled := bounded_cancelled s r
      rwa [← htarget] at hcancelled
    · have hbounded := h.bounded r (givenUp_of_waits hgiven fun kind' hkind' hact => by
        cases hact
        exact htarget hkind')
      exact bounded_cancel hbounded (captured kind)
  | wait kind =>
    have hbounded := h.bounded r (givenUp_of_waits hgiven nofun)
    unfold shutdownAct
    dsimp only
    split_ifs <;> exact hbounded

theorem winds_operate (h : s.Winds) (ok : Bool) : (s.operate ok).Winds := by
  intro captured acts hop
  rcases operate_rundown hop with ⟨hs, hcaptured, hacts⟩ | ⟨act, hs, hnext⟩ | ⟨hs, hsame⟩
  · subst hacts
    refine ⟨shutdownActs_ordered, fun r hgiven => ?_⟩
    obtain ⟨kind, -, hcancel, -⟩ := hgiven
    exact absurd (by cases kind <;> decide) hcancel
  · have hwinding := winds_shutdownAct (h captured (act :: acts) hs)
    rw [hnext]
    exact ⟨hwinding.ordered, fun r hgiven => hwinding.bounded r hgiven⟩
  · rw [hsame]
    exact h captured acts hs

theorem winds_advance (h : s.Winds) {r : RequestId} {ok : Bool}
    (hsends : s.SendsInTime (.advance r ok)) : (s.advance r ok).Winds := by
  intro captured acts hop
  have hwinding := h captured acts hop
  refine ⟨hwinding.ordered, fun r' hgiven => ?_⟩
  have hbounded := hwinding.bounded r' hgiven
  by_cases hr : r' = r
  · subst hr
    have hkind := kind_advance s.context r' (s.requests r') ok
    rw [requests_advance]
    by_cases hsent : (s.context.advance r' (s.requests r') ok).1.point = .sent
    · obtain ⟨hbrb, rfl⟩ := sent_advance hsent
      have hop' : s.operation = .rundown captured acts := hop
      rcases hsends hbrb with htimed | hnot
      · exact .inr (.inl (hkind.symm ▸ htimed))
      · rw [hop'] at hnot
        exact absurd hgiven hnot
    · exact .inl hsent
  · rw [requests_advance_of_ne s hr ok]
    exact hbounded

theorem winds_of_eq {s s' : Driver} (h : s.Winds) (hop : s'.operation = s.operation)
    (hrequests : s'.requests = s.requests) : s'.Winds := by
  intro captured acts hs'
  obtain ⟨hordered, hbounded⟩ := h captured acts (hop.symm.trans hs')
  exact ⟨hordered, by rwa [hrequests]⟩

theorem winds_start (h : s.Winds) (function : OperationStart) :
    (s.start function).Winds := by
  cases hop : s.operation with
  | free =>
    intro captured acts hs'
    cases function with
    | rundownWorker =>
      simp only [start, hop] at hs'
      split_ifs at hs' with hqueued
      exact absurd (hop.symm.trans hs') nofun
    | register | unregister | closeChannels | shutdown =>
      simp only [start, hop] at hs'
      cases hs'
  | _ =>
    have hsame : s.start function = s := by simp only [start, hop]
    rw [hsame]
    exact h

theorem winds_next {step : DriverStep} (h : s.Winds) (hsends : s.SendsInTime step) :
    (transport.next s step).Winds := by
  cases step with
  | enter r kind =>
    by_cases hadmits : (s.requests r).point = .unborn ∧ s.admits kind
    · intro captured acts hop
      have hnext : transport.next s (.enter r kind) =
        s.setRequest r { kind, point := .entered, reference := { taken := 1 } } := if_pos hadmits
      rw [hnext] at hop ⊢
      obtain ⟨hordered, hbounded⟩ := h captured acts hop
      refine ⟨hordered, fun r' hgiven => ?_⟩
      by_cases hr : r' = r
      · subst hr
        exact .inl (by rw [requests_setRequest]; nofun)
      · rw [requests_setRequest_of_ne s hr]
        exact hbounded r' hgiven
    · have hsame : transport.next s (.enter r kind) = s := if_neg hadmits
      rwa [hsame]
  | advance r ok => exact winds_advance h hsends
  | disconnect r =>
    have hsame : (s.disconnect r).operation = s.operation ∧
        (s.disconnect r).requests = s.requests := by
      unfold disconnect
      split_ifs <;> exact ⟨rfl, rfl⟩
    exact winds_of_eq h hsame.1 hsame.2
  | lifecycle started => exact winds_of_eq h rfl rfl
  | start function => exact winds_start h function
  | operate ok => exact winds_operate h ok
  | workerReports =>
    have hsame : s.workerReports.operation = s.operation ∧
        s.workerReports.requests = s.requests := by
      unfold workerReports
      split <;> exact ⟨rfl, rfl⟩
    exact winds_of_eq h hsame.1 hsame.2

theorem winds_init : ({} : Driver).Winds := nofun

/-- **The shutdown waits for what ends**: a request that it waits for is not with the stack, is
    there with a timeout, or was cancelled there. -/
theorem waits_bounded {steps : List DriverStep} (h : transport.Along SendsInTime {} steps)
    {r : RequestId} (hwaits : (transport.after {} steps).operation.WaitsFor r) :
    ((transport.after {} steps).requests r).Bounded := by
  have hwinds := Reducer.after_inv (fun _ _ => winds_next) winds_init h
  obtain ⟨captured, kind, acts, hop, hcaptured⟩ := hwaits.rundown
  obtain ⟨hordered, hbounded⟩ := hwinds captured (.wait kind :: acts) hop
  exact hbounded r ⟨kind, hcaptured, cancel_notMem hordered, List.mem_cons_self⟩

def readAccepted : List DriverStep := headsetConnects ++ [.enter 1 .readSignaling, .advance 1 true]

def readSent : List DriverStep := [.advance 1 true, .advance 1 true, .advance 1 true]

def shutdownWaits : List DriverStep := List.replicate 10 (.operate true)

theorem waits_bounded_read :
    ((transport.after {} (readAccepted ++ readSent ++ .start .shutdown :: shutdownWaits)).requests
      1).Bounded :=
  waits_bounded (by decide) (by decide)

/-- The read is sent after the shutdown tried to cancel it. -/
theorem read_not_bounded :
    (transport.after {} (readAccepted ++ .start .shutdown :: .operate true :: .operate true ::
        (readSent ++ shutdownWaits))).operation.WaitsFor 1 ∧
      ¬ ((transport.after {} (readAccepted ++ .start .shutdown :: .operate true ::
        .operate true :: (readSent ++ shutdownWaits))).requests 1).Bounded := by
  decide

end Driver

end NativeLdac.Transport
