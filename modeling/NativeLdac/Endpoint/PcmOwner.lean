/-
  The owner of the PCM stream
  (`audio-endpoint/Source/Main/nativeldac_pcm_owner_contract.c`).

  * `PcmOwner` and its five operations, `pcmOwner` the machine they make;
  * `PcmOwnerEffect` says what one operation can do;
  * `Owned` is the invariant, and `pcmOwner_exclusive` what the contract is for: one owner
    at a time, kept while it reads, and let go only by itself, by its lease or by its link.
-/
import Mathlib.Tactic.SplitIfs
import NativeLdac.Lib.Reducer

namespace NativeLdac.Endpoint

/-! ## The contract -/

def pcmOwnerLeaseTimeout100ns : UInt64 := 300000000

def pcmOwnerSourceLink : UInt32 := 0x00000001
def pcmOwnerSourceConsumer : UInt32 := 0x00000002

def linkDisconnected : UInt32 := 0
def linkConnecting : UInt32 := 1
def linkConnected : UInt32 := 2
def linkStopping : UInt32 := 3

inductive PcmOwnerResult
  | accepted | released | busy | notReady | invalid
deriving DecidableEq, Repr

/-- `NATIVE_LDAC_PCM_OWNER`; the one of no owner is what `NativeLdacPcmOwnerClear` leaves. -/
structure PcmOwner where
  ownerId : UInt64 := 0
  sessionId : UInt64 := 0
  lastUpdateTime100ns : UInt64 := 0
  sources : UInt32 := 0
  readActive : Bool := false
deriving DecidableEq, Repr

namespace PcmOwner

def clear : PcmOwner := {}

def isExpired (owner : PcmOwner) (now100ns : UInt64) : Bool :=
  if owner.ownerId = 0 ∨ owner.readActive then false
  else
    let age :=
      if now100ns ≥ owner.lastUpdateTime100ns then now100ns - owner.lastUpdateTime100ns else 0
    age ≥ pcmOwnerLeaseTimeout100ns

/-- The expiry check that starts each operation that has a time. -/
def dropExpired (owner : PcmOwner) (now100ns : UInt64) : PcmOwner :=
  if owner.isExpired now100ns then clear else owner

/-- A source is taken out, and the owner with the last one. -/
def dropSource (owner : PcmOwner) (source : UInt32) : PcmOwner :=
  if owner.sources &&& ~~~source = 0 then clear
  else { owner with sources := owner.sources &&& ~~~source }

/-- `NativeLdacPcmOwnerSetLinkState`: a link that is seen disconnected is no source. -/
def observeLink (owner : PcmOwner) (observedState : UInt32) : PcmOwner :=
  if observedState = linkDisconnected ∧ owner.sources &&& pcmOwnerSourceLink ≠ 0 ∧
      ¬ owner.readActive then
    owner.dropSource pcmOwnerSourceLink
  else owner

/-- The owner is the client, or is no one and becomes the client; the source is added. -/
def take (owner : PcmOwner) (clientId sessionId : UInt64) (source : UInt32) (now100ns : UInt64) :
    PcmOwnerResult × PcmOwner :=
  if owner.ownerId = 0 then
    (.accepted,
      { owner with
        ownerId := clientId
        sessionId := sessionId
        sources := owner.sources ||| source
        lastUpdateTime100ns := now100ns })
  else if owner.ownerId ≠ clientId ∨ owner.sessionId ≠ sessionId then (.busy, owner)
  else
    (.accepted,
      { owner with
        sources := owner.sources ||| source
        lastUpdateTime100ns := now100ns })

def setLinkState (owner : PcmOwner) (clientId sessionId : UInt64)
    (requestedState observedState : UInt32) (now100ns : UInt64) : PcmOwnerResult × PcmOwner :=
  if clientId = 0 ∨ sessionId = 0 ∨ requestedState > linkStopping ∨
      observedState > linkStopping ∨ now100ns = 0 then (.invalid, owner)
  else
    let owner := (owner.dropExpired now100ns).observeLink observedState
    if requestedState = linkConnecting then
      owner.take clientId sessionId pcmOwnerSourceLink now100ns
    else if owner.ownerId ≠ clientId ∨ owner.sessionId ≠ sessionId ∨
        owner.sources &&& pcmOwnerSourceLink = 0 then (.busy, owner)
    else if requestedState = linkDisconnected then
      if owner.readActive ∧ owner.sources = pcmOwnerSourceLink then (.busy, owner)
      else (.released, owner.dropSource pcmOwnerSourceLink)
    else (.accepted, { owner with lastUpdateTime100ns := now100ns })

def acquireConsumer (owner : PcmOwner) (clientId generation now100ns : UInt64) :
    PcmOwnerResult × PcmOwner :=
  if clientId = 0 ∨ generation = 0 ∨ now100ns = 0 then (.invalid, owner)
  else (owner.dropExpired now100ns).take clientId generation pcmOwnerSourceConsumer now100ns

def releaseConsumer (owner : PcmOwner) (clientId generation : UInt64) :
    PcmOwnerResult × PcmOwner :=
  if clientId = 0 ∨ generation = 0 then (.invalid, owner)
  else if owner.ownerId = 0 then (.released, owner)
  else if owner.ownerId ≠ clientId ∨ owner.sessionId ≠ generation ∨
      owner.sources &&& pcmOwnerSourceConsumer = 0 then (.busy, owner)
  else if owner.readActive ∧ owner.sources = pcmOwnerSourceConsumer then (.busy, owner)
  else (.released, owner.dropSource pcmOwnerSourceConsumer)

def beginRead (owner : PcmOwner) (clientId : UInt64) (observedState : UInt32)
    (now100ns : UInt64) : PcmOwnerResult × PcmOwner :=
  if clientId = 0 ∨ observedState > linkStopping ∨ now100ns = 0 then (.invalid, owner)
  else
    let owner := owner.dropExpired now100ns
    if owner.ownerId = 0 ∨ owner.sources = 0 then (.notReady, owner)
    else if owner.sources &&& pcmOwnerSourceConsumer = 0 ∧ observedState ≠ linkConnected then
      (.notReady, owner)
    else if owner.ownerId ≠ clientId ∨ owner.readActive then (.busy, owner)
    else (.accepted, { owner with readActive := true, lastUpdateTime100ns := now100ns })

def endRead (owner : PcmOwner) (clientId : UInt64) : PcmOwnerResult × PcmOwner :=
  if clientId = 0 then (.invalid, owner)
  else if owner.ownerId ≠ clientId ∨ ¬ owner.readActive then (.busy, owner)
  else (.accepted, { owner with readActive := false })

end PcmOwner

inductive PcmOwnerOp
  | setLinkState (clientId sessionId : UInt64) (requestedState observedState : UInt32)
      (now100ns : UInt64)
  | acquireConsumer (clientId generation now100ns : UInt64)
  | releaseConsumer (clientId generation : UInt64)
  | beginRead (clientId : UInt64) (observedState : UInt32) (now100ns : UInt64)
  | endRead (clientId : UInt64)
deriving DecidableEq, Repr

namespace PcmOwnerOp

def clientId : PcmOwnerOp → UInt64
  | setLinkState clientId _ _ _ _ | acquireConsumer clientId _ _ | releaseConsumer clientId _
  | beginRead clientId _ _ | endRead clientId => clientId

/-- The time that an operation is given; a release and the end of a read have none. -/
def time? : PcmOwnerOp → Option UInt64
  | setLinkState _ _ _ _ now100ns | acquireConsumer _ _ now100ns | beginRead _ _ now100ns =>
    some now100ns
  | releaseConsumer _ _ | endRead _ => none

end PcmOwnerOp

def pcmOwner : Reducer PcmOwner PcmOwnerOp PcmOwnerResult where
  step owner
    | .setLinkState clientId sessionId requestedState observedState now100ns =>
      owner.setLinkState clientId sessionId requestedState observedState now100ns
    | .acquireConsumer clientId generation now100ns =>
      owner.acquireConsumer clientId generation now100ns
    | .releaseConsumer clientId generation => owner.releaseConsumer clientId generation
    | .beginRead clientId observedState now100ns =>
      owner.beginRead clientId observedState now100ns
    | .endRead clientId => owner.endRead clientId

/-! ## What one operation does -/

namespace PcmOwner

theorem isExpired_iff (owner : PcmOwner) (now100ns : UInt64) :
    owner.isExpired now100ns ↔ owner.ownerId ≠ 0 ∧ ¬ owner.readActive ∧
      owner.lastUpdateTime100ns.toNat + pcmOwnerLeaseTimeout100ns.toNat ≤ now100ns.toNat := by
  have hzero : ¬ pcmOwnerLeaseTimeout100ns ≤ 0 := by decide
  simp only [isExpired, ge_iff_le]
  split_ifs with hnone hle
  · simp only [false_iff]
    rintro ⟨h, hread, -⟩
    exact hnone.elim h hread
  · rw [not_or] at hnone
    simp only [decide_eq_true_eq, UInt64.le_iff_toNat_le, UInt64.toNat_sub_of_le _ _ hle]
    rw [UInt64.le_iff_toNat_le] at hle
    constructor
    · intro h
      exact ⟨hnone.1, hnone.2, by omega⟩
    · rintro ⟨-, -, h⟩
      omega
  · simp only [decide_eq_true_eq, hzero, false_iff]
    rw [UInt64.le_iff_toNat_le] at hle
    rintro ⟨-, -, h⟩
    omega

end PcmOwner

/-- The expiry and the observed link, before the request is looked at. -/
inductive PcmOwnerShed (owner : PcmOwner) (op : PcmOwnerOp) : PcmOwner → Prop
  | kept : PcmOwnerShed owner op owner
  | lapsed {now100ns} : op.time? = some now100ns → owner.isExpired now100ns →
      PcmOwnerShed owner op .clear
  | unlinked : ¬ owner.readActive → owner.sources &&& ~~~pcmOwnerSourceLink ≠ 0 →
      PcmOwnerShed owner op { owner with sources := owner.sources &&& ~~~pcmOwnerSourceLink }
  | disconnected {clientId sessionId requestedState now100ns} :
      op = .setLinkState clientId sessionId requestedState linkDisconnected now100ns →
      owner.sources &&& pcmOwnerSourceLink ≠ 0 →
      owner.sources &&& ~~~pcmOwnerSourceLink = 0 → ¬ owner.readActive →
      PcmOwnerShed owner op .clear

/-- The operation asks to take a source out, as this client in this session. -/
inductive PcmOwnerOp.Releases (clientId sessionId : UInt64) : UInt32 → PcmOwnerOp → Prop
  | link {observedState now100ns} : Releases clientId sessionId pcmOwnerSourceLink
      (.setLinkState clientId sessionId linkDisconnected observedState now100ns)
  | consumer : Releases clientId sessionId pcmOwnerSourceConsumer
      (.releaseConsumer clientId sessionId)

/-- What an operation does. -/
inductive PcmOwnerEffect (owner : PcmOwner) (op : PcmOwnerOp) : PcmOwnerResult × PcmOwner → Prop
  | refused {result owner'} : PcmOwnerShed owner op owner' → result ≠ .accepted →
      PcmOwnerEffect owner op (result, owner')
  | taken {owner' sessionId source now100ns} : PcmOwnerShed owner op owner' →
      owner'.ownerId = 0 → op.clientId ≠ 0 → op.time? = some now100ns →
      source = pcmOwnerSourceLink ∨ source = pcmOwnerSourceConsumer →
      PcmOwnerEffect owner op (.accepted,
        { owner' with
          ownerId := op.clientId
          sessionId := sessionId
          sources := owner'.sources ||| source
          lastUpdateTime100ns := now100ns })
  | renewed {owner' source now100ns} : PcmOwnerShed owner op owner' →
      owner'.ownerId = op.clientId → op.clientId ≠ 0 → op.time? = some now100ns →
      source = 0 ∨ source = pcmOwnerSourceLink ∨ source = pcmOwnerSourceConsumer →
      PcmOwnerEffect owner op (.accepted,
        { owner' with
          sources := owner'.sources ||| source
          lastUpdateTime100ns := now100ns })
  | readBegun {owner' now100ns} : PcmOwnerShed owner op owner' →
      owner'.ownerId = op.clientId → op.clientId ≠ 0 → owner'.sources ≠ 0 →
      op.time? = some now100ns →
      PcmOwnerEffect owner op (.accepted,
        { owner' with readActive := true, lastUpdateTime100ns := now100ns })
  | readEnded : owner.ownerId = op.clientId → op.time? = none →
      PcmOwnerEffect owner op (.accepted, { owner with readActive := false })
  | released {source} : op.Releases owner.ownerId owner.sessionId source →
      owner.sources &&& source ≠ 0 → ¬ (owner.readActive ∧ owner.sources = source) →
      PcmOwnerEffect owner op (.released, owner.dropSource source)

section
variable {owner : PcmOwner} {op : PcmOwnerOp}

theorem dropExpired_shed {now100ns : UInt64} (h : op.time? = some now100ns) :
    PcmOwnerShed owner op (owner.dropExpired now100ns) := by
  unfold PcmOwner.dropExpired
  split_ifs with hexpired
  · exact .lapsed h hexpired
  · exact .kept

theorem observeLink_clear (observedState : UInt32) :
    PcmOwner.clear.observeLink observedState = .clear := by
  simp [PcmOwner.observeLink, PcmOwner.clear]

theorem setLinkState_shed {clientId sessionId : UInt64} {requestedState observedState : UInt32}
    {now100ns : UInt64}
    (h : op = .setLinkState clientId sessionId requestedState observedState now100ns) :
    PcmOwnerShed owner op ((owner.dropExpired now100ns).observeLink observedState) := by
  unfold PcmOwner.dropExpired
  split_ifs with hexpired
  · rw [observeLink_clear]
    exact .lapsed (by rw [h]; rfl) hexpired
  unfold PcmOwner.observeLink PcmOwner.dropSource
  split_ifs with hlink hlast
  · obtain ⟨rfl, hsource, hread⟩ := hlink
    exact .disconnected h hsource hlast hread
  · exact .unlinked hlink.2.2 hlast
  · exact .kept

theorem shed_eq {owner' : PcmOwner} (h : PcmOwnerShed owner op owner')
    (hid : owner'.ownerId ≠ 0) (hsource : owner'.sources &&& pcmOwnerSourceLink ≠ 0) :
    owner' = owner := by
  cases h with
  | kept => rfl
  | lapsed _ _ => exact absurd rfl hid
  | unlinked _ _ =>
    refine absurd ?_ hsource
    show (owner.sources &&& ~~~pcmOwnerSourceLink) &&& pcmOwnerSourceLink = 0
    rw [UInt32.and_assoc]
    exact UInt32.and_zero
  | disconnected _ _ _ _ => exact absurd rfl hid

theorem take_effect {owner' : PcmOwner} {sessionId now100ns : UInt64} {source : UInt32}
    (h : PcmOwnerShed owner op owner') (hclient : op.clientId ≠ 0)
    (htime : op.time? = some now100ns)
    (hsource : source = pcmOwnerSourceLink ∨ source = pcmOwnerSourceConsumer) :
    PcmOwnerEffect owner op (owner'.take op.clientId sessionId source now100ns) := by
  unfold PcmOwner.take
  split_ifs with hnone hother
  · exact .taken h hnone hclient htime hsource
  · exact .refused h (by simp)
  · simp only [not_or, not_not] at hother
    exact .renewed h hother.1 hclient htime (.inr hsource)

theorem pcmOwner_effect (owner : PcmOwner) (op : PcmOwnerOp) :
    PcmOwnerEffect owner op (pcmOwner.step owner op) := by
  cases op with
  | setLinkState clientId sessionId requestedState observedState now100ns =>
    show PcmOwnerEffect owner _ (owner.setLinkState _ _ _ _ _)
    have hshed : PcmOwnerShed owner
        (.setLinkState clientId sessionId requestedState observedState now100ns)
        ((owner.dropExpired now100ns).observeLink observedState) := setLinkState_shed rfl
    simp only [PcmOwner.setLinkState]
    split_ifs with hinvalid hconnecting hother hdisconnected hreading
    · exact .refused .kept (by simp)
    · rw [not_or] at hinvalid
      exact take_effect hshed hinvalid.1 rfl (.inl rfl)
    · exact .refused hshed (by simp)
    · exact .refused hshed (by simp)
    · simp only [not_or, not_not] at hinvalid hother
      obtain ⟨hid, hsession, hlink⟩ := hother
      have hsame := shed_eq hshed (by rw [hid]; exact hinvalid.1) hlink
      rw [hsame] at hid hsession hlink hreading ⊢
      subst hid hsession hdisconnected
      exact .released .link hlink hreading
    · simp only [not_or, not_not] at hinvalid hother
      have hsources : ∀ s : PcmOwner, s = { s with sources := s.sources ||| 0 } := fun s => by
        rw [UInt32.or_zero]
      rw [hsources (PcmOwner.observeLink _ _)]
      exact .renewed hshed hother.1 hinvalid.1 rfl (.inl rfl)
  | acquireConsumer clientId generation now100ns =>
    show PcmOwnerEffect owner _ (owner.acquireConsumer _ _ _)
    unfold PcmOwner.acquireConsumer
    split_ifs with hinvalid
    · exact .refused .kept (by simp)
    · rw [not_or] at hinvalid
      exact take_effect (dropExpired_shed rfl) hinvalid.1 rfl (.inr rfl)
  | releaseConsumer clientId generation =>
    show PcmOwnerEffect owner _ (owner.releaseConsumer _ _)
    unfold PcmOwner.releaseConsumer
    split_ifs with hinvalid hnone hother hreading
    · exact .refused .kept (by simp)
    · exact .refused .kept (by simp)
    · exact .refused .kept (by simp)
    · exact .refused .kept (by simp)
    · simp only [not_or, not_not] at hother
      obtain ⟨rfl, rfl, hconsumer⟩ := hother
      exact .released .consumer hconsumer hreading
  | beginRead clientId observedState now100ns =>
    show PcmOwnerEffect owner _ (owner.beginRead _ _ _)
    have hshed : PcmOwnerShed owner (.beginRead clientId observedState now100ns)
        (owner.dropExpired now100ns) := dropExpired_shed rfl
    simp only [PcmOwner.beginRead]
    split_ifs with hinvalid hnone hlink hother
    · exact .refused .kept (by simp)
    · exact .refused hshed (by simp)
    · exact .refused hshed (by simp)
    · exact .refused hshed (by simp)
    · simp only [not_or, not_not] at hinvalid hnone hother
      exact .readBegun hshed hother.1 hinvalid.1 hnone.2 rfl
  | endRead clientId =>
    show PcmOwnerEffect owner _ (owner.endRead _)
    unfold PcmOwner.endRead
    split_ifs with hinvalid hother
    · exact .refused .kept (by simp)
    · exact .refused .kept (by simp)
    · simp only [not_or, not_not] at hother
      exact .readEnded hother.1 rfl

end

/-! ## One owner at a time -/

structure Owned (owner : PcmOwner) : Prop where
  held : owner.ownerId = 0 ↔ owner.sources = 0
  known : owner.sources ≤ pcmOwnerSourceLink ||| pcmOwnerSourceConsumer
  reading : owner.readActive → owner.sources ≠ 0

theorem sources_cases {sources : UInt32}
    (h : sources ≤ pcmOwnerSourceLink ||| pcmOwnerSourceConsumer) :
    sources = 0 ∨ sources = pcmOwnerSourceLink ∨ sources = pcmOwnerSourceConsumer ∨
      sources = pcmOwnerSourceLink ||| pcmOwnerSourceConsumer := by
  have hle : sources.toNat ≤ 3 := UInt32.le_iff_toNat_le.mp h
  simp only [← UInt32.toNat_inj]
  show sources.toNat = 0 ∨ sources.toNat = 1 ∨ sources.toNat = 2 ∨ sources.toNat = 3
  omega

theorem sources_last {sources source : UInt32}
    (h : sources ≤ pcmOwnerSourceLink ||| pcmOwnerSourceConsumer)
    (hsource : source = pcmOwnerSourceLink ∨ source = pcmOwnerSourceConsumer)
    (hin : sources &&& source ≠ 0) (hlast : sources &&& ~~~source = 0) : sources = source := by
  revert hin hlast
  rcases hsource with rfl | rfl
  all_goals rcases sources_cases h with rfl | rfl | rfl | rfl <;> decide

theorem sources_drop {sources source : UInt32}
    (h : sources ≤ pcmOwnerSourceLink ||| pcmOwnerSourceConsumer)
    (hsource : source = pcmOwnerSourceLink ∨ source = pcmOwnerSourceConsumer) :
    sources &&& ~~~source ≤ pcmOwnerSourceLink ||| pcmOwnerSourceConsumer := by
  rcases hsource with rfl | rfl
  all_goals rcases sources_cases h with rfl | rfl | rfl | rfl <;> decide

theorem sources_add {sources source : UInt32}
    (h : sources ≤ pcmOwnerSourceLink ||| pcmOwnerSourceConsumer)
    (hsource : source = 0 ∨ source = pcmOwnerSourceLink ∨ source = pcmOwnerSourceConsumer) :
    sources ||| source ≤ pcmOwnerSourceLink ||| pcmOwnerSourceConsumer := by
  rcases hsource with rfl | rfl | rfl
  all_goals rcases sources_cases h with rfl | rfl | rfl | rfl <;> decide

theorem sources_or_eq_zero {sources source : UInt32} (h : sources ||| source = 0) :
    sources = 0 ∧ source = 0 := by
  rw [← UInt32.toBitVec_inj, UInt32.toBitVec_or] at h
  simp only [← UInt32.toBitVec_inj]
  exact BitVec.or_eq_zero_iff.mp h

namespace PcmOwnerOp

theorem Releases.source {clientId sessionId : UInt64} {source : UInt32} {op : PcmOwnerOp}
    (h : op.Releases clientId sessionId source) :
    source = pcmOwnerSourceLink ∨ source = pcmOwnerSourceConsumer := by
  cases h with
  | link => exact .inl rfl
  | consumer => exact .inr rfl

end PcmOwnerOp

section
variable {owner owner' : PcmOwner} {op : PcmOwnerOp}

theorem owned_clear : Owned .clear where
  held := by decide
  known := by decide
  reading := by decide

theorem owned_dropSource {source : UInt32} (h : Owned owner)
    (hsource : source = pcmOwnerSourceLink ∨ source = pcmOwnerSourceConsumer) :
    Owned (owner.dropSource source) := by
  unfold PcmOwner.dropSource
  split_ifs with hlast
  · exact owned_clear
  · refine ⟨?_, sources_drop h.known hsource, fun _ => hlast⟩
    have hsources : owner.sources ≠ 0 := by
      intro hnone
      simp [hnone] at hlast
    simp [h.held, hsources, hlast]

theorem owned_shed (h : Owned owner) (hshed : PcmOwnerShed owner op owner') : Owned owner' := by
  cases hshed with
  | kept => exact h
  | lapsed _ _ => exact owned_clear
  | unlinked _ hleft =>
    have hdrop := owned_dropSource h (.inl rfl : pcmOwnerSourceLink = _ ∨ _)
    rwa [PcmOwner.dropSource, if_neg hleft] at hdrop
  | disconnected _ _ _ _ => exact owned_clear

theorem owned_effect {r : PcmOwnerResult × PcmOwner} (h : Owned owner)
    (heffect : PcmOwnerEffect owner op r) : Owned r.2 := by
  cases heffect with
  | refused hshed _ => exact owned_shed h hshed
  | @taken s _ source _ hshed _ hclient _ hsource =>
    have h' := owned_shed h hshed
    have hadd : s.sources ||| source ≠ 0 := by
      intro hnone
      rcases hsource with rfl | rfl
      · exact absurd (sources_or_eq_zero hnone).2 (by decide)
      · exact absurd (sources_or_eq_zero hnone).2 (by decide)
    exact ⟨by simp [hclient, hadd], sources_add h'.known (.inr hsource), fun _ => hadd⟩
  | @renewed s source _ hshed hid hclient _ hsource =>
    have h' := owned_shed h hshed
    have hadd : s.sources ||| source ≠ 0 := by
      intro hnone
      exact hclient (hid ▸ h'.held.mpr (sources_or_eq_zero hnone).1)
    exact ⟨by simp [hid, hclient, hadd], sources_add h'.known hsource, fun _ => hadd⟩
  | readBegun hshed _ _ hsources _ =>
    have h' := owned_shed h hshed
    exact ⟨h'.held, h'.known, fun _ => hsources⟩
  | readEnded _ _ => exact ⟨h.held, h.known, by simp⟩
  | released hop _ _ => exact owned_dropSource h hop.source

theorem owned_next (h : Owned owner) (op : PcmOwnerOp) : Owned (pcmOwner.next owner op) :=
  owned_effect h (pcmOwner_effect owner op)

theorem owned_after (h : Owned owner) (ops : List PcmOwnerOp) :
    Owned (pcmOwner.after owner ops) := by
  induction ops generalizing owner with
  | nil => exact h
  | cons op ops ih => exact ih (owned_next h op)

theorem shed_reading (hread : owner.readActive) (hshed : PcmOwnerShed owner op owner') :
    owner' = owner := by
  cases hshed with
  | kept => rfl
  | lapsed _ hexpired => exact absurd hread ((PcmOwner.isExpired_iff _ _).mp hexpired).2.1
  | unlinked hidle _ => exact absurd hread hidle
  | disconnected _ _ _ hidle => exact absurd hread hidle

theorem reading_effect {r : PcmOwnerResult × PcmOwner} (h : Owned owner)
    (hread : owner.readActive) (heffect : PcmOwnerEffect owner op r) :
    r.2.ownerId = owner.ownerId ∧ r.2.sessionId = owner.sessionId ∧ r.2.sources ≠ 0 := by
  have hsources := h.reading hread
  cases heffect with
  | refused hshed _ =>
    obtain rfl := shed_reading hread hshed
    exact ⟨rfl, rfl, hsources⟩
  | taken hshed hnone _ _ _ =>
    obtain rfl := shed_reading hread hshed
    exact absurd (h.held.mp hnone) hsources
  | renewed hshed _ _ _ _ =>
    obtain rfl := shed_reading hread hshed
    exact ⟨rfl, rfl, fun hnone => hsources (sources_or_eq_zero hnone).1⟩
  | readBegun hshed _ _ _ _ =>
    obtain rfl := shed_reading hread hshed
    exact ⟨rfl, rfl, hsources⟩
  | readEnded _ _ => exact ⟨rfl, rfl, hsources⟩
  | released hop hin hbusy =>
    have hleft : owner.sources &&& ~~~_ ≠ 0 :=
      fun hlast => hbusy ⟨hread, sources_last h.known hop.source hin hlast⟩
    simp only [PcmOwner.dropSource, if_neg hleft]
    exact ⟨trivial, trivial, hleft⟩

theorem endRead_owner (h : Owned owner) (hread : owner.readActive) :
    pcmOwner.out owner (.endRead owner.ownerId) = .accepted := by
  have hid : owner.ownerId ≠ 0 := fun hnone => h.reading hread (h.held.mp hnone)
  simp [Reducer.out, pcmOwner, PcmOwner.endRead, hid, hread]

end

/-! ## How an owner is let go -/

def opTimes (ops : List PcmOwnerOp) : List UInt64 := ops.filterMap PcmOwnerOp.time?

/-- The times are not zero and do not decrease. -/
def Timely (ops : List PcmOwnerOp) : Prop :=
  (∀ t ∈ opTimes ops, t ≠ 0) ∧ (opTimes ops).Pairwise (· ≤ ·)

instance (ops : List PcmOwnerOp) : Decidable (Timely ops) :=
  @instDecidableAnd _ _ (List.decidableBAll _ _) (List.instDecidablePairwise _)

def acceptedUpdates (owner : PcmOwner) : List PcmOwnerOp → List UInt64
  | [] => []
  | op :: ops =>
    (if pcmOwner.out owner op = .accepted then op.time?.toList else []) ++
      acceptedUpdates (pcmOwner.next owner op) ops

/-- The state that a history leads to. -/
abbrev ownerAfter (history : List PcmOwnerOp) : PcmOwner := pcmOwner.after {} history

/-- An operation drops the owner: its lease is over, or its link is seen gone. -/
inductive Dropped (history : List PcmOwnerOp) (op : PcmOwnerOp) : Prop
  | lapsed {now100ns} : op.time? = some now100ns → ¬ (ownerAfter history).readActive →
      (∀ t ∈ acceptedUpdates {} history,
        t.toNat + pcmOwnerLeaseTimeout100ns.toNat ≤ now100ns.toNat) → Dropped history op
  | disconnected {clientId sessionId requestedState now100ns} :
      op = .setLinkState clientId sessionId requestedState linkDisconnected now100ns →
      (ownerAfter history).sources = pcmOwnerSourceLink → ¬ (ownerAfter history).readActive →
      Dropped history op

def ReleasedLast (history : List PcmOwnerOp) (op : PcmOwnerOp) : Prop :=
  let owner := ownerAfter history
  op.Releases owner.ownerId owner.sessionId owner.sources ∧ pcmOwner.out owner op = .released

/-- What holds at an operation of a run. -/
structure Exclusive (history : List PcmOwnerOp) (op : PcmOwnerOp) : Prop where
  held : (ownerAfter history).ownerId = 0 ↔ (ownerAfter history).sources = 0
  reading : (ownerAfter history).readActive →
    (ownerAfter (history ++ [op])).ownerId = (ownerAfter history).ownerId ∧
      (ownerAfter (history ++ [op])).sessionId = (ownerAfter history).sessionId ∧
      (ownerAfter history).sources ≠ 0 ∧ (ownerAfter (history ++ [op])).sources ≠ 0
  ends : (ownerAfter history).readActive →
    pcmOwner.out (ownerAfter history) (.endRead (ownerAfter history).ownerId) = .accepted
  others : (ownerAfter history).ownerId ≠ 0 → op.clientId ≠ (ownerAfter history).ownerId →
    pcmOwner.out (ownerAfter history) op = .accepted → Dropped history op

section
variable {owner owner' : PcmOwner} {op : PcmOwnerOp} {updates : List UInt64}

/-- Each accepted update is as old as the last one of the owner, or older. -/
def Dated (owner : PcmOwner) (updates : List UInt64) : Prop :=
  owner.ownerId ≠ 0 → ∀ t ∈ updates, t ≤ owner.lastUpdateTime100ns

theorem dated_shed (h : Dated owner updates) (hshed : PcmOwnerShed owner op owner') :
    Dated owner' updates := by
  cases hshed with
  | kept => exact h
  | lapsed _ _ => exact fun hid => absurd rfl hid
  | unlinked _ _ => exact h
  | disconnected _ _ _ _ => exact fun hid => absurd rfl hid

theorem dated_append {now100ns : UInt64} (htime : op.time? = some now100ns)
    (hlater : ∀ t ∈ updates, ∀ u ∈ op.time?, t ≤ u)
    (hlast : owner'.lastUpdateTime100ns = now100ns) :
    Dated owner' (updates ++ op.time?.toList) := by
  intro _ t ht
  rw [hlast]
  rcases List.mem_append.mp ht with ht | ht
  · exact hlater t ht now100ns htime
  · rw [htime] at ht
    rw [List.mem_singleton.mp ht]
    exact UInt64.le_refl _

theorem dated_effect {r : PcmOwnerResult × PcmOwner} (h : Dated owner updates)
    (heffect : PcmOwnerEffect owner op r) (hlater : ∀ t ∈ updates, ∀ u ∈ op.time?, t ≤ u) :
    Dated r.2 (updates ++ if r.1 = .accepted then op.time?.toList else []) := by
  cases heffect with
  | refused hshed hresult =>
    rw [if_neg hresult, List.append_nil]
    exact dated_shed h hshed
  | taken _ _ _ htime _ => exact dated_append htime hlater rfl
  | renewed _ _ _ htime _ => exact dated_append htime hlater rfl
  | readBegun _ _ _ _ htime => exact dated_append htime hlater rfl
  | readEnded _ htime =>
    simp only [htime, Option.toList_none, ite_self, List.append_nil]
    exact h
  | released _ _ _ =>
    simp only [reduceCtorEq, if_false, List.append_nil, PcmOwner.dropSource]
    split_ifs
    · exact fun hid => absurd rfl hid
    · exact h

theorem opTimes_cons (op : PcmOwnerOp) (ops : List PcmOwnerOp) :
    opTimes (op :: ops) = op.time?.toList ++ opTimes ops := by
  unfold opTimes
  cases htime : op.time? with
  | none => simp [List.filterMap_cons_none htime]
  | some t => simp [List.filterMap_cons_some htime]

theorem dated_after {ops : List PcmOwnerOp} (h : Dated owner updates)
    (htimes : (updates ++ opTimes ops).Pairwise (· ≤ ·)) :
    Dated (pcmOwner.after owner ops) (updates ++ acceptedUpdates owner ops) := by
  induction ops generalizing owner updates with
  | nil =>
    rw [acceptedUpdates, List.append_nil]
    exact h
  | cons op ops ih =>
    rw [opTimes_cons, ← List.append_assoc] at htimes
    have hlater : ∀ t ∈ updates, ∀ u ∈ op.time?, t ≤ u := by
      intro t ht u hu
      exact (List.pairwise_append.mp (List.pairwise_append.mp htimes).1).2.2 t ht u
        (Option.mem_toList.mpr hu)
    have hnext := dated_effect h (pcmOwner_effect owner op) hlater
    rw [acceptedUpdates, ← List.append_assoc]
    refine ih hnext (htimes.sublist ?_)
    refine List.Sublist.append (List.Sublist.append (List.Sublist.refl _) ?_) (List.Sublist.refl _)
    split_ifs
    · exact List.Sublist.refl _
    · exact List.nil_sublist _

theorem dropped_of_shed {history : List PcmOwnerOp}
    (hdated : Dated (ownerAfter history) (acceptedUpdates {} history))
    (howned : Owned (ownerAfter history))
    (hshed : PcmOwnerShed (ownerAfter history) op owner') :
    Dropped history op ∨ owner'.ownerId = (ownerAfter history).ownerId ∧
      owner'.sessionId = (ownerAfter history).sessionId := by
  cases hshed with
  | kept => exact .inr ⟨rfl, rfl⟩
  | lapsed htime hexpired =>
    obtain ⟨hid, hread, hage⟩ := (PcmOwner.isExpired_iff _ _).mp hexpired
    refine .inl (.lapsed htime hread ?_)
    intro t ht
    have hle := UInt64.le_iff_toNat_le.mp (hdated hid t ht)
    omega
  | unlinked _ _ => exact .inr ⟨rfl, rfl⟩
  | disconnected hop hin hlast hidle =>
    exact .inl (.disconnected hop (sources_last howned.known (.inl rfl) hin hlast) hidle)

end

theorem ownerAfter_owned (history : List PcmOwnerOp) : Owned (ownerAfter history) :=
  owned_after owned_clear history

theorem ownerAfter_dated {history : List PcmOwnerOp} (h : Timely history) :
    Dated (ownerAfter history) (acceptedUpdates {} history) := by
  have hnone : Dated {} [] := fun hid => absurd rfl hid
  exact dated_after hnone h.2

theorem ownerAfter_append (history : List PcmOwnerOp) (op : PcmOwnerOp) :
    ownerAfter (history ++ [op]) = pcmOwner.next (ownerAfter history) op :=
  Reducer.after_append _ history [op]

theorem Timely.initial {ops history : List PcmOwnerOp} (h : Timely ops) (hpre : history <+: ops) :
    Timely history := by
  obtain ⟨rest, rfl⟩ := hpre
  simp only [Timely, opTimes, List.filterMap_append] at h ⊢
  exact ⟨fun t ht => h.1 t (List.mem_append_left _ ht), (List.pairwise_append.mp h.2).1⟩

section
variable {history : List PcmOwnerOp} {op : PcmOwnerOp}

theorem dropped_of_shed_ne {owner' : PcmOwner} (h : Timely history)
    (hshed : PcmOwnerShed (ownerAfter history) op owner')
    (hne : ¬ (owner'.ownerId = (ownerAfter history).ownerId ∧
      owner'.sessionId = (ownerAfter history).sessionId)) : Dropped history op :=
  (dropped_of_shed (ownerAfter_dated h) (ownerAfter_owned history) hshed).resolve_right hne

theorem dropped_of_accepted (h : Timely history) (hid : (ownerAfter history).ownerId ≠ 0)
    (hother : op.clientId ≠ (ownerAfter history).ownerId)
    (hout : pcmOwner.out (ownerAfter history) op = .accepted) : Dropped history op := by
  have heffect := pcmOwner_effect (ownerAfter history) op
  unfold Reducer.out at hout
  generalize pcmOwner.step (ownerAfter history) op = r at heffect hout
  cases heffect with
  | refused _ hresult => exact absurd hout hresult
  | taken hshed hnone _ _ _ =>
    exact dropped_of_shed_ne h hshed fun hsame => hid (hsame.1.symm.trans hnone)
  | renewed hshed hclient _ _ _ =>
    exact dropped_of_shed_ne h hshed fun hsame => hother (hclient.symm.trans hsame.1)
  | readBegun hshed hclient _ _ _ =>
    exact dropped_of_shed_ne h hshed fun hsame => hother (hclient.symm.trans hsame.1)
  | readEnded hclient _ => exact absurd hclient.symm hother
  | released _ _ _ => simp at hout

theorem letGo_of_ne (h : Timely history) (hid : (ownerAfter history).ownerId ≠ 0)
    (hne : ((ownerAfter (history ++ [op])).ownerId, (ownerAfter (history ++ [op])).sessionId) ≠
      ((ownerAfter history).ownerId, (ownerAfter history).sessionId)) :
    Dropped history op ∨ ReleasedLast history op := by
  have heffect := pcmOwner_effect (ownerAfter history) op
  have howned := ownerAfter_owned history
  rw [ownerAfter_append, Ne, Prod.mk.injEq] at hne
  simp only [ReleasedLast, Reducer.out]
  unfold Reducer.next at hne
  generalize pcmOwner.step (ownerAfter history) op = r at heffect hne
  cases heffect with
  | refused hshed _ => exact .inl (dropped_of_shed_ne h hshed hne)
  | taken hshed hnone _ _ _ =>
    exact .inl (dropped_of_shed_ne h hshed fun hsame => hid (hsame.1.symm.trans hnone))
  | renewed hshed _ _ _ _ => exact .inl (dropped_of_shed_ne h hshed hne)
  | readBegun hshed _ _ _ _ => exact .inl (dropped_of_shed_ne h hshed hne)
  | readEnded _ _ => exact absurd ⟨rfl, rfl⟩ hne
  | @released source hop hin _ =>
    by_cases hlast : (ownerAfter history).sources &&& ~~~source = 0
    · refine .inr ⟨?_, rfl⟩
      rwa [sources_last howned.known hop.source hin hlast]
    · refine absurd ?_ hne
      simp [PcmOwner.dropSource, hlast]

theorem exclusive_of_timely (h : Timely (history ++ [op])) : Exclusive history op where
  held := (ownerAfter_owned history).held
  reading hread := by
    obtain ⟨hid, hsession, hsources⟩ :=
      reading_effect (ownerAfter_owned history) hread (pcmOwner_effect _ op)
    rw [ownerAfter_append]
    exact ⟨hid, hsession, (ownerAfter_owned history).reading hread, hsources⟩
  ends hread := endRead_owner (ownerAfter_owned history) hread
  others hid hother hout :=
    dropped_of_accepted (h.initial (List.prefix_append _ _)) hid hother hout

end

/-- **One owner at a time.**  At each operation of a run, an owner has a source, keeps what
    it has while it reads, and excludes the other clients; and the run passes from an owner
    to another one only by an operation that drops it, or by its own last release. -/
theorem pcmOwner_exclusive {history between : List PcmOwnerOp} {op : PcmOwnerOp}
    (h : Timely (history ++ between ++ [op])) :
    Exclusive (history ++ between) op ∧
    ((ownerAfter history).ownerId ≠ 0 →
      ((ownerAfter (history ++ between)).ownerId, (ownerAfter (history ++ between)).sessionId) ≠
        ((ownerAfter history).ownerId, (ownerAfter history).sessionId) →
      ∃ held last rest, between = held ++ last :: rest ∧
        ((ownerAfter (history ++ held)).ownerId, (ownerAfter (history ++ held)).sessionId) =
          ((ownerAfter history).ownerId, (ownerAfter history).sessionId) ∧
        (Dropped (history ++ held) last ∨ ReleasedLast (history ++ held) last)) := by
  refine ⟨exclusive_of_timely h, ?_⟩
  intro hid hne
  simp only [ownerAfter, Reducer.after_append] at hne
  obtain ⟨held, last, rest, rfl, hsame, hchange⟩ :=
    Reducer.exists_step_ne (fun owner : PcmOwner => (owner.ownerId, owner.sessionId)) hne
  have hheld : pcmOwner.after (ownerAfter history) held = ownerAfter (history ++ held) :=
    (Reducer.after_append _ history held).symm
  rw [hheld] at hsame hchange
  refine ⟨held, last, rest, rfl, hsame, letGo_of_ne (h.initial ?_) ?_ ?_⟩
  · simp
  · rw [(Prod.mk.inj hsame).1]
    exact hid
  · rw [ownerAfter_append]
    intro hnext
    exact hchange (hnext.trans hsame)

/-- The lease of one consumer is over, and another takes its place. -/
theorem pcmOwner_exclusive_lapse :
    let history : List PcmOwnerOp := [.acquireConsumer 60 600 100]
    let between : List PcmOwnerOp := [.acquireConsumer 61 601 300000100]
    Exclusive (history ++ between) (.releaseConsumer 60 600) ∧
      ∃ held last rest, between = held ++ last :: rest ∧
        (Dropped (history ++ held) last ∨ ReleasedLast (history ++ held) last) := by
  intro history between
  have htimely : Timely (history ++ between ++ [.releaseConsumer 60 600]) := by decide
  obtain ⟨hexclusive, hpass⟩ := pcmOwner_exclusive htimely
  obtain ⟨held, last, rest, hbetween, -, hlast⟩ := hpass (by decide) (by decide)
  exact ⟨hexclusive, held, last, rest, hbetween, hlast⟩

end NativeLdac.Endpoint
