/-
  Specifications of the programs of the PCM session, over the view of its
  state: what a program returns with, when it starts from `P`.  Whatever runs
  out of fuel does so in a `Stuck` state.

  The rules are those of `Prog.Triple`; a program that only touches the rest of
  the state is `Calm`.
-/
import NativeLdac.Agent.PcmInvariant
import NativeLdac.Agent.PcmRun

namespace NativeLdac.Agent

open Engine Protocol

section
variable {F H Ω α β ι : Type} [FloatArith F]

def Spec (P : PcmView → Prop) (x : Prog (PcmSession F H Ω) α) (Q : α → PcmView → Prop) : Prop :=
  Prog.Triple (fun s => P s.view) x (fun a s => Q a s.view) fun s => Stuck s.view

/-- The program returns and leaves the view unchanged. -/
def Calm (x : Prog (PcmSession F H Ω) α) : Prop := Prog.Quiet PcmSession.view x

variable {P P' : PcmView → Prop} {x : Prog (PcmSession F H Ω) α} {Q Q' : α → PcmView → Prop}
  {R : β → PcmView → Prop}

namespace Spec

theorem pure {a : α} (h : ∀ v, P v → Q a v) :
    Spec P (Pure.pure a : Prog (PcmSession F H Ω) α) Q :=
  Prog.Triple.pure fun s => h s.view

theorem bind {f : α → Prog (PcmSession F H Ω) β} (hx : Spec P x Q) (hf : ∀ a, Spec (Q a) (f a) R) :
    Spec P (x >>= f) R :=
  Prog.Triple.bind hx hf

theorem calm (h : Calm x) : Spec P x fun _ => P := Prog.Triple.quiet h

theorem calm_bind {f : α → Prog (PcmSession F H Ω) β} (h : Calm x) (hf : ∀ a, Spec P (f a) R) :
    Spec P (x >>= f) R :=
  bind (calm h) hf

theorem pre (h : Spec P' x Q) (hp : ∀ v, P v → P' v) : Spec P x Q :=
  Prog.Triple.pre h fun s => hp s.view

theorem post (h : Spec P x Q') (hq : ∀ a v, Q' a v → Q a v) : Spec P x Q :=
  Prog.Triple.post h fun a s => hq a s.view

theorem ite {c : Prop} [Decidable c] {y : Prog (PcmSession F H Ω) α} (hx : c → Spec P x Q)
    (hy : ¬ c → Spec P y Q) : Spec P (if c then x else y) Q :=
  Prog.Triple.ite hx hy

theorem absurd (h : ∀ v, ¬ P v) : Spec P x Q := fun _ hs => (h _ hs).elim

theorem update {f : PcmSession F H Ω → PcmSession F H Ω} {Q : Unit → PcmView → Prop}
    (h : ∀ s, P s.view → Q () (f s).view) : Spec P (Prog.update f) Q :=
  Prog.Triple.update h

theorem step {f : PcmSession F H Ω → α × PcmSession F H Ω}
    (h : ∀ s, P s.view → Q (f s).1 (f s).2.view) : Spec P (Prog.step f) Q :=
  Prog.Triple.step h

theorem read {f : PcmSession F H Ω → α} (h : ∀ s, P s.view → Q (f s) s.view) :
    Spec P (Prog.read f) Q :=
  Prog.Triple.read h

theorem read_bind {f : PcmSession F H Ω → α} (g : PcmView → α) (hg : ∀ s, f s = g s.view)
    {k : α → Prog (PcmSession F H Ω) β} (hk : ∀ a, Spec (fun v => P v ∧ a = g v) (k a) R) :
    Spec P (Prog.read f >>= k) R :=
  bind (Q := fun a v => P v ∧ a = g v) (Prog.Triple.read fun s hs => ⟨hs, hg s⟩) hk

theorem iterate {I : ι → PcmView → Prop} {body : ι → Prog (PcmSession F H Ω) (ι ⊕ β)}
    (hb : ∀ i, Spec (I i) (body i) fun r v => r.elim (fun j => I j v) fun b => R b v)
    (hd : ∀ i v, I i v → Stuck v) (n : Nat) (i : ι) : Spec (I i) (Prog.iterate body n i) R := by
  refine Prog.Triple.iterate (I := fun i (s : PcmSession F H Ω) => I i s.view) (fun i => ?_)
    (fun i s => hd i s.view) n i
  refine Prog.Triple.post (hb i) fun r s h => ?_
  cases r <;> exact h

theorem loop {body : Prog (PcmSession F H Ω) (Option β)}
    (hb : Spec P body fun r v => r.elim (P v) fun b => R b v) (hd : ∀ v, P v → Stuck v) (n : Nat) :
    Spec P (Prog.loop n body) R := by
  refine Prog.Triple.loop (P := fun s : PcmSession F H Ω => P s.view) ?_ (fun s => hd s.view) n
  refine Prog.Triple.post hb fun r s h => ?_
  cases r <;> exact h

theorem fixing {γ : Type} (g : PcmView → γ) {p : γ → Prop} (hp : ∀ v, P v → p (g v))
    (h : ∀ a, p a → Spec (fun v => P v ∧ g v = a) x Q) : Spec P x Q :=
  fun s hs => h (g s.view) (hp _ hs) s ⟨hs, rfl⟩

end Spec

/-! ## Calm programs -/

theorem calm_ask (f : Ω → α × Ω) : Calm (F := F) (H := H) (ask f) := .step fun _ => rfl

theorem calm_askError (f : UInt32 → Ω → Answer × Ω) : Calm (F := F) (H := H) (askError f) :=
  .step fun _ => rfl

variable (env : PcmEnvironment F H Ω)

theorem calm_probeStop : Calm (probeStop env) := by
  unfold probeStop
  split
  · exact .pure _
  · exact calm_ask _

theorem calm_stopIsCancel : Calm (stopIsCancel env) :=
  (calm_probeStop env).bind fun _ => .pure _

theorem calm_report {f : V1TransportPcmResult F → V1TransportPcmResult F}
    (h : ∀ s : PcmSession F H Ω, PcmSession.view { s with result := f s.result } = s.view) :
    Calm (report f : Prog (PcmSession F H Ω) Unit) :=
  .update h

/-! ## Calls and failures -/

theorem spec_askLogged {f : Ω → α × Ω} {call : AvdtpSource → α → PcmCall}
    (h : ∀ a v, P v → Q a { v with calls := call v.avdtp a :: v.calls }) :
    Spec (F := F) (H := H) P (askLogged f call) Q :=
  Spec.step fun s => h _ s.view

theorem spec_setFailure {e : PcmView → Prop} (disposition : V1TransportConfigurationDisposition)
    (stage : V1TransportSilenceStage)
    (h : ∀ v, P v → e { v with primary := disposition }) :
    Spec P (setFailure disposition stage : Prog (PcmSession F H Ω) Unit) fun _ => e :=
  Spec.update fun s => h s.view

variable {e : PcmCore → Prop}

theorem Spec.fails {x : Prog (PcmSession F H Ω) Unit} {a : α} (hx : Spec P x fun _ => Done)
    (hq : ∀ v, Done v → Q a v) : Spec P (do x; return a) Q :=
  .bind hx fun _ => .pure hq

theorem fails_setFailure (disposition : V1TransportConfigurationDisposition)
    (stage : V1TransportSilenceStage) :
    Spec (Going e) (setFailure disposition stage : Prog (PcmSession F H Ω) Unit) fun _ => Done :=
  spec_setFailure _ _ fun _ h => h.failed _

theorem fails_setFailureHere (disposition : V1TransportConfigurationDisposition) :
    Spec (Going e) (setFailureHere disposition : Prog (PcmSession F H Ω) Unit) fun _ => Done :=
  Spec.update fun _ h => h.failed _

theorem fails_backendFailure (error : UInt32) (stage : V1TransportSilenceStage) :
    Spec (Going e) (backendFailure error stage : Prog (PcmSession F H Ω) Unit) fun _ => Done :=
  .calm_bind (calm_report fun _ => rfl) fun _ => fails_setFailure _ _

theorem fails_protocolFailure (protocolError : Int) (stage : V1TransportSilenceStage) :
    Spec (Going e) (protocolFailure protocolError stage : Prog (PcmSession F H Ω) Unit)
      fun _ => Done :=
  .calm_bind (calm_report fun _ => rfl) fun _ => fails_setFailure _ _

/-! ## Pieces of the run -/

/-- A piece that returns `true` leaves `p`; after `false` the session is over. -/
def Yields (p : PcmView → Prop) (ok : Bool) (v : PcmView) : Prop := if ok then p v else Done v

/-- How a piece of the main loop goes on: the loop with `p`, the orderly stop
    with `q`. -/
def FlowIs (p q : PcmView → Prop) : Flow → PcmView → Prop
  | .proceed, v | .next, v => p v
  | .leave, v => q v
  | .finish, v => Done v

theorem Spec.andAlso {p q : PcmView → Prop} {x y : Prog (PcmSession F H Ω) Bool}
    (hx : Spec P x (Yields p)) (hy : Spec p y (Yields q)) :
    Spec P (Agent.andAlso x y) (Yields q) := by
  refine .bind hx fun ok => ?_
  cases ok with
  | true => exact hy
  | false => exact .pure fun v h => h

theorem Spec.andThen {p p' q : PcmView → Prop} {x y : Prog (PcmSession F H Ω) Flow}
    (hx : Spec P x (FlowIs p q)) (hp : ∀ v, p v → p' v) (hy : Spec p y (FlowIs p' q)) :
    Spec P (Flow.andThen x y) (FlowIs p' q) := by
  refine .bind hx fun flow => ?_
  cases flow with
  | proceed => exact hy
  | next => exact .pure hp
  | leave => exact .pure fun v h => h
  | finish => exact .pure fun v h => h

end

end NativeLdac.Agent
