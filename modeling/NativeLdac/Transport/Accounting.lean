/-
  Requests are accounted for: each is completed once, its reference and its memory are
  released once, and one of a kind is outstanding at a time.

  * `Request.Accounted` is the account of one request, by the point where it is;
  * the reference is released by the section that finds the request in its place, so the
    account is right as long as the pointers are (`sound_advance`).
-/
import NativeLdac.Transport.Requests

namespace NativeLdac.Transport

/-! ## The account of a request -/

namespace Point

/-- The request has been completed. -/
def isHandedBack : Point → Bool
  | .signalling _ | .done => true
  | .unborn | .entered | .waiting | .accepted | .memory | .brb | .sent | .failing | .failed _
  | .settled _ _ | .reset _ => false

/-- What was found at the pointer, between its section and the release -/
def releases : Point → Bool
  | .failed release | .settled _ release | .reset release => release
  | .unborn | .entered | .waiting | .accepted | .memory | .brb | .sent | .failing
  | .signalling _ | .done => true

/-- No BRB has been allocated yet. -/
def precedesBrb : Point → Bool
  | .unborn | .entered | .waiting | .accepted | .memory => true
  | .brb | .sent | .failing | .failed _ | .settled _ _ | .reset _ | .signalling _ | .done => false

/-- No transfer memory has been allocated yet. -/
def precedesMemory : Point → Bool
  | .unborn | .entered | .waiting | .accepted => true
  | .memory | .brb | .sent | .failing | .failed _ | .settled _ _ | .reset _ | .signalling _
  | .done => false

/-- How many steps a request has before it at most -/
def rank : Point → Nat
  | .unborn => 10
  | .entered => 9
  | .accepted => 8
  | .memory => 7
  | .brb => 6
  | .sent | .failing => 5
  | .failed _ | .settled _ _ => 4
  | .reset _ => 3
  | .signalling _ => 2
  | .waiting => 1
  | .done => 0

end Point

namespace Resource

/-- Taken at most once, and released at most as often -/
def Once (x : Resource) : Prop := x.released ≤ x.taken ∧ x.taken ≤ 1

theorem once_empty : Once {} := ⟨Nat.le_refl 0, Nat.zero_le 1⟩

theorem once_take : Once (take {}) := ⟨Nat.zero_le 1, Nat.le_refl 1⟩

theorem Once.releaseHeld {x : Resource} (h : x.Once) :
    x.releaseHeld.Once ∧ x.releaseHeld.released = x.releaseHeld.taken := by
  obtain ⟨hle, htaken⟩ := h
  unfold Resource.releaseHeld Once release
  split_ifs with hheld
  · dsimp only
    omega
  · omega

end Resource

/-- The account of a request: what it holds is released when it is handed back, and it is
    handed back once. -/
structure Request.Accounted (q : Request) : Prop where
  completed : q.completions = if q.point.isHandedBack then 1 else 0
  reference : q.reference =
    { taken := if q.point = .unborn then 0 else 1
      released := if q.point.isHandedBack then 1 else 0 }
  brb : q.brb.Once
  memory : q.memory.Once
  freed : q.point.isHandedBack →
    q.brb.released = q.brb.taken ∧ q.memory.released = q.memory.taken

/-- The account, and what keeps it: nothing is allocated twice, and the pointer was found. -/
structure Request.Sound (q : Request) : Prop extends q.Accounted where
  releases : q.point.releases
  noBrb : q.point.precedesBrb → q.brb = {}
  noMemory : q.point.precedesMemory → q.memory = {}

namespace Request

theorem sound_unborn : ({} : Request).Sound where
  completed := rfl
  reference := rfl
  brb := Resource.once_empty
  memory := Resource.once_empty
  freed := nofun
  releases := rfl
  noBrb := fun _ => rfl
  noMemory := fun _ => rfl

theorem sound_entered (kind : RequestKind) :
    Sound { kind, point := .entered, reference := { taken := 1 } } where
  completed := rfl
  reference := rfl
  brb := Resource.once_empty
  memory := Resource.once_empty
  freed := nofun
  releases := rfl
  noBrb := fun _ => rfl
  noMemory := fun _ => rfl

theorem Sound.goOn {q : Request} (h : q.Sound) (hnot : ¬ q.point.isHandedBack)
    (hborn : q.point ≠ .unborn) {q' : Request} (hcompletions : q'.completions = q.completions)
    (hreference : q'.reference = q.reference) (hbrb : q'.brb.Once) (hmemory : q'.memory.Once)
    (hnot' : ¬ q'.point.isHandedBack) (hborn' : q'.point ≠ .unborn) (hreleases : q'.point.releases)
    (hnoBrb : q'.point.precedesBrb → q'.brb = {})
    (hnoMemory : q'.point.precedesMemory → q'.memory = {}) : q'.Sound where
  completed := by
    rw [hcompletions, h.completed, if_neg hnot, if_neg hnot']
  reference := by
    rw [hreference, h.reference, if_neg hnot, if_neg hborn, if_neg hnot', if_neg hborn']
  brb := hbrb
  memory := hmemory
  freed := fun hback => absurd hback hnot'
  releases := hreleases
  noBrb := hnoBrb
  noMemory := hnoMemory

theorem Sound.handedBack {q : Request} (h : q.Sound) (hnot : ¬ q.point.isHandedBack)
    (hborn : q.point ≠ .unborn) {q' : Request}
    (hcompletions : q'.completions = q.completions + 1)
    (hreference : q'.reference = q.reference.release)
    (hbrb : q'.brb.Once ∧ q'.brb.released = q'.brb.taken)
    (hmemory : q'.memory.Once ∧ q'.memory.released = q'.memory.taken)
    (hback : q'.point.isHandedBack) : q'.Sound := by
  have hborn' : q'.point ≠ .unborn := by
    intro hpoint
    rw [hpoint] at hback
    cases hback
  constructor
  · constructor
    · rw [hcompletions, h.completed, if_neg hnot, if_pos hback]
    · rw [hreference, h.reference, if_neg hnot, if_neg hborn, if_pos hback, if_neg hborn']
      rfl
    · exact hbrb.1
    · exact hmemory.1
    · exact fun _ => ⟨hbrb.2, hmemory.2⟩
  -- A point that hands back releases nothing later, and comes after the allocations.
  all_goals
    cases hpoint : q'.point <;> rw [hpoint] at hback <;> first
      | exact absurd hback Bool.false_ne_true
      | rfl
      | exact fun h => absurd h Bool.false_ne_true

theorem Sound.handBack {q : Request} (h : q.Sound)
    (hpoint : q.point = .entered ∨ q.point = .waiting) : q.handBack.Sound := by
  have hfacts : ¬ q.point.isHandedBack ∧ q.point ≠ .unborn ∧ q.point.precedesBrb ∧
      q.point.precedesMemory := by
    rcases hpoint with hpoint | hpoint <;> rw [hpoint] <;> decide
  obtain ⟨hnot, hborn, hbrb, hmemory⟩ := hfacts
  have hempty : ∀ x : Resource, x = {} → x.Once ∧ x.released = x.taken := by
    rintro _ rfl
    exact ⟨Resource.once_empty, rfl⟩
  exact h.handedBack hnot hborn rfl rfl (hempty _ (h.noBrb hbrb)) (hempty _ (h.noMemory hmemory)) rfl

theorem Sound.finish {q : Request} (h : q.Sound) (hnot : ¬ q.point.isHandedBack)
    (hborn : q.point ≠ .unborn) {point : Point} (hback : point.isHandedBack) :
    (({ q.releaseBrb with point }.dereferenceIf true).complete).Sound :=
  h.handedBack hnot hborn rfl rfl h.brb.releaseHeld h.memory.releaseHeld hback

end Request

theorem Request.sound_accepted {q : Request} (h : q.Sound) (hpoint : q.point = .entered)
    (a : Acceptance) : (q.accepted a).Sound := by
  have hnot : ¬ q.point.isHandedBack := by rw [hpoint]; nofun
  have hborn : q.point ≠ .unborn := by rw [hpoint]; nofun
  have hbrb := h.noBrb (by rw [hpoint]; rfl)
  have hmemory := h.noMemory (by rw [hpoint]; rfl)
  cases a with
  | rejected => exact h.handBack (.inl hpoint)
  | connected | waits =>
    exact h.goOn hnot hborn rfl rfl h.brb h.memory nofun nofun rfl (fun _ => hbrb) fun _ => hmemory
  | accepted =>
    unfold accepted
    dsimp only
    split_ifs
    · exact h.goOn hnot hborn rfl rfl h.brb h.memory nofun nofun rfl (fun _ => hbrb)
        fun _ => hmemory
    · exact h.goOn hnot hborn rfl rfl h.brb h.memory nofun nofun rfl (fun _ => hbrb)
        fun _ => hmemory

theorem Request.sound_allocate {q : Request} (h : q.Sound)
    (hpoint : q.point = .accepted ∨ q.point = .memory) (ok : Bool) : (q.allocate ok).Sound := by
  have hfacts : ¬ q.point.isHandedBack ∧ q.point ≠ .unborn ∧ q.point.precedesBrb := by
    rcases hpoint with hpoint | hpoint <;> rw [hpoint] <;> decide
  obtain ⟨hnot, hborn, hbefore⟩ := hfacts
  have hbrb := h.noBrb hbefore
  have htake : q.brb.take.Once := by rw [hbrb]; exact Resource.once_take
  unfold allocate
  rcases hpoint with hpoint | hpoint <;> rw [hpoint] <;> dsimp only
  · have hmemory := h.noMemory (by rw [hpoint]; rfl)
    have htakeMemory : q.memory.take.Once := by rw [hmemory]; exact Resource.once_take
    split_ifs
    · exact h.goOn hnot hborn rfl rfl h.brb htakeMemory nofun nofun rfl (fun _ => hbrb) nofun
    · exact h.goOn hnot hborn rfl rfl htake h.memory nofun nofun rfl nofun nofun
    · exact h.goOn hnot hborn rfl rfl h.brb h.memory nofun nofun rfl nofun nofun
  · split_ifs
    · exact h.goOn hnot hborn rfl rfl htake h.memory nofun nofun rfl nofun nofun
    · exact h.goOn hnot hborn rfl rfl h.brb h.memory nofun nofun rfl nofun nofun

theorem Request.sound_send {q : Request} (h : q.Sound) (hpoint : q.point = .brb) (ok : Bool) :
    (q.send ok).Sound := by
  have hnot : ¬ q.point.isHandedBack := by rw [hpoint]; nofun
  have hborn : q.point ≠ .unborn := by rw [hpoint]; nofun
  unfold send
  split_ifs
  · exact h.goOn hnot hborn rfl rfl h.brb h.memory nofun nofun rfl nofun nofun
  · exact h.goOn hnot hborn rfl rfl h.brb.releaseHeld.1 h.memory.releaseHeld.1 nofun nofun rfl
      nofun nofun

theorem sound_advance {c : Context} {r : RequestId} {q : Request} (h : q.Sound)
    (hptr : q.point.isOutstanding → c.request q.kind = some r) (ok : Bool) :
    (c.advance r q ok).1.Sound := by
  unfold Context.advance
  cases hpoint : q.point with
  | unborn => exact h
  | entered => exact Request.sound_accepted h hpoint _
  | waiting => exact h.handBack (.inr hpoint)
  | accepted => exact Request.sound_allocate h (.inl hpoint) ok
  | memory => exact Request.sound_allocate h (.inr hpoint) ok
  | brb => exact Request.sound_send h hpoint ok
  | failing =>
    have hrelease := (Context.failSection_cases c q.kind r).1.release
    rw [hptr (by rw [hpoint]; rfl)] at hrelease
    exact h.goOn (by rw [hpoint]; nofun) (by rw [hpoint]; nofun) rfl rfl h.brb h.memory nofun nofun
      (hrelease.trans (decide_eq_true rfl)) nofun nofun
  | sent =>
    have hrelease := (Context.completionSection_cases c q.kind r ok).1.release
    rw [hptr (by rw [hpoint]; rfl)] at hrelease
    exact h.goOn (by rw [hpoint]; nofun) (by rw [hpoint]; nofun) rfl rfl h.brb h.memory nofun nofun
      (hrelease.trans (decide_eq_true rfl)) nofun nofun
  | failed release =>
    have hrelease : release = true := by simpa [hpoint, Point.releases] using h.releases
    subst hrelease
    exact h.finish (by rw [hpoint]; nofun) (by rw [hpoint]; nofun) rfl
  | settled ok release =>
    have hrelease : release = true := by simpa [hpoint, Point.releases] using h.releases
    subst hrelease
    dsimp only
    split_ifs
    · exact h.goOn (by rw [hpoint]; nofun) (by rw [hpoint]; nofun) rfl rfl h.brb h.memory nofun
        nofun rfl nofun nofun
    · exact h.finish (by rw [hpoint]; nofun) (by rw [hpoint]; nofun) rfl
  | reset release =>
    have hrelease : release = true := by simpa [hpoint, Point.releases] using h.releases
    subst hrelease
    exact h.finish (by rw [hpoint]; nofun) (by rw [hpoint]; nofun) rfl
  | signalling release =>
    have hcompleted := h.completed
    have hreference := h.reference
    rw [hpoint] at hcompleted hreference
    exact ⟨⟨hcompleted, hreference, h.brb, h.memory, fun _ => h.freed (by rw [hpoint]; rfl)⟩, rfl,
      nofun, nofun⟩
  | done => exact h

theorem rank_advance (c : Context) (r : RequestId) {q : Request} (ok : Bool)
    (hborn : q.point ≠ .unborn) (hdone : q.point ≠ .done) :
    (c.advance r q ok).1.point.rank < q.point.rank := by
  unfold Context.advance
  cases hpoint : q.point with
  | unborn => exact absurd hpoint hborn
  | entered =>
    dsimp only
    cases (c.acceptSection q.kind r ok).1 with
    | rejected => simp [Request.accepted, Request.handBack, Point.rank]
    | connected | waits => simp [Request.accepted, Point.rank]
    | accepted =>
      dsimp only [Request.accepted]
      split_ifs <;> decide
  | waiting => simp [Request.handBack, Point.rank]
  | accepted | memory =>
    simp only [Request.allocate, hpoint]
    split_ifs <;> simp [Point.rank]
  | brb =>
    dsimp only [Request.send]
    split_ifs <;> simp [Point.rank]
  | sent | failing => exact Nat.lt_succ_self 4
  | failed release => simp [Point.rank]
  | settled ok release =>
    dsimp only
    split_ifs <;> simp [Point.rank]
  | reset release => simp [Point.rank]
  | signalling release => simp [Point.rank]
  | done => exact absurd hpoint hdone

/-! ## The account of the driver -/

namespace Driver

/-- One request of a kind is outstanding at a time, every account is right, and a request that
    has not been completed gets closer to it with each of its steps. -/
structure Accounted (s : Driver) : Prop where
  alone : Slots.Apart s.place
  accounts : ∀ r, (s.requests r).Accounted
  moves : ∀ r ok, (s.requests r).point ≠ .unborn → (s.requests r).point ≠ .done →
    ((s.advance r ok).requests r).point.rank < (s.requests r).point.rank

/-- The pointers and the accounts are right. -/
structure Audited (s : Driver) : Prop where
  tracked : s.Tracked
  sound : ∀ r, (s.requests r).Sound

theorem audited_init : ({} : Driver).Audited := ⟨tracked_init, fun _ => Request.sound_unborn⟩

theorem Audited.accounted {s : Driver} (h : s.Audited) : s.Accounted where
  alone := h.tracked.agree.apart
  accounts := fun r => (h.sound r).toAccounted
  moves := fun r ok hborn hdone => by
    rw [requests_advance]
    exact rank_advance s.context r ok hborn hdone

theorem Request.sound_cancelled {q : Request} (h : q.Sound) (cancelled : Bool) :
    Request.Sound { q with cancelled } :=
  ⟨⟨h.completed, h.reference, h.brb, h.memory, h.freed⟩, h.releases, h.noBrb, h.noMemory⟩

theorem audited_next {s : Driver} {step : DriverStep} (h : s.Audited) (hspares : s.Spares step) :
    (transport.next s step).Audited := by
  refine ⟨tracked_next h.tracked hspares, fun r' => ?_⟩
  cases moves s step with
  | quiet hquiet =>
    obtain ⟨cancelled, hr⟩ := hquiet.requests r'
    rw [hr]
    exact Request.sound_cancelled (h.sound r') cancelled
  | enters r kind _ hunborn hnext =>
    rw [hnext]
    by_cases hr : r' = r
    · subst hr
      simpa [setRequest] using Request.sound_entered kind
    · simpa [setRequest, hr] using h.sound r'
  | advances r ok hstep =>
    subst hstep
    by_cases hr : r' = r
    · subst hr
      have hsound := sound_advance (h.sound r') h.tracked.request ok
      rwa [← requests_advance] at hsound
    · exact (requests_advance_of_ne s hr ok).symm ▸ h.sound r'

theorem not_accounted_of_not_spares {s : Driver} {step : DriverStep} (h : s.Audited)
    (hspares : ¬ s.Spares step) : ¬ (transport.next s step).Accounted := by
  cases step with
  | advance r ok =>
    obtain ⟨hentered, hadmits, htaken⟩ :
        (s.requests r).point = .entered ∧ s.context.admitsOpen (s.requests r).kind ∧
          s.context.request (s.requests r).kind ≠ none := by
      simpa [Spares] using hspares
    obtain ⟨other, hother⟩ := Option.ne_none_iff_exists'.mp htaken
    have hplace : (s.context.advance r (s.requests r) ok).1.place = some (s.requests r).kind := by
      refine Request.place_eq_some.mpr ⟨?_, kind_advance _ _ _ _⟩
      unfold Context.advance
      rw [hentered]
      dsimp only
      rw [Context.accepted_of_admitsOpen hadmits]
      exact (s.requests r).outstanding_accepted
    have hnone : s.place r = none :=
      Request.place_eq_none.mpr (by rw [hentered]; nofun)
    intro haccounted
    refine h.tracked.agree.crowded hother hnone ?_
    rw [← hplace, ← place_advance]
    exact haccounted.alone
  | enter | disconnect | lifecycle | start | operate | workerReports => exact absurd trivial hspares

/-- **Every request is accounted for, exactly as long as opens find their place free.** -/
theorem accounted_iff_spares (steps : List DriverStep) :
    transport.Along (fun s step => (transport.next s step).Accounted) {} steps ↔
      transport.Along Spares {} steps := by
  have hspares : ∀ s step, Audited s → (transport.next s step).Accounted → s.Spares step :=
    fun _ _ h haccounted => by_contra fun hnot => not_accounted_of_not_spares h hnot haccounted
  refine Reducer.along_congr (P := Audited) (Q := fun _ _ => True) ?_ ?_ audited_init
    (Reducer.along_of_forall (fun _ _ => trivial) _ _)
  · intro s step h _ haccounted
    exact audited_next h (hspares s step h haccounted)
  · intro s step h _
    exact ⟨hspares s step h, fun hstep => (audited_next h hstep).accounted⟩

/-- The media channel is opened, disconnected by the headset before it is open, and opened
    again. -/
def mediaReopened : List DriverStep :=
  headsetConnects ++
    [.enter 1 .openMedia, .advance 1 true, .advance 1 true, .advance 1 true, .disconnect 1,
      .enter 2 .openMedia, .advance 2 true, .advance 1 true, .advance 1 true, .advance 1 true]

/-- Two opens were outstanding, and the reference of the first one, which is handed back, is not
    released. -/
theorem media_reopened_lost :
    ¬ transport.Along (fun s step => (transport.next s step).Accounted) {} mediaReopened ∧
      ((transport.after {} mediaReopened).requests 1).point = .done ∧
      ((transport.after {} mediaReopened).requests 1).reference =
        { taken := 1, released := 0 } := by
  have hend : ((transport.after {} mediaReopened).requests 1).point = .done ∧
      ((transport.after {} mediaReopened).requests 1).reference =
        { taken := 1, released := 0 } := by
    decide
  refine ⟨fun halong => ?_, hend⟩
  have haccounted : (transport.after {} mediaReopened).Accounted :=
    Reducer.after_inv (fun _ _ _ hnext => hnext) audited_init.accounted halong
  have hreference := (haccounted.accounts 1).reference
  rw [hend.1, hend.2] at hreference
  cases hreference

end Driver

end NativeLdac.Transport
