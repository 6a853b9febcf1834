import FeedWatch.Proofs.Config
import FeedWatch.Proofs.Standing

namespace FeedWatch

namespace Standing

-- Nothing has happened yet.
def fresh : Standing where
  isDown := true
  state := .default
  current := none
  firstRecoveryCompleted := false
  downReason := .default
  toldReason := none
  lastSystemAlive := none

end Standing

-- An entry lies under the id of its descriptor, as the descriptor made it.
theorem Directory.entries_ofDescriptors {descriptors : List Descriptor} {fallback : String}
    {id : ProducerId} {e : Entry}
    (h : (Directory.ofDescriptors descriptors fallback).entries[id]? = some e) :
    e.descriptor.id = id ∧ e = .ofDescriptor e.descriptor := by
  have hfold (l : List Descriptor) (entries : Std.ExtTreeMap ProducerId Entry)
      (hentries : ∀ (i : ProducerId) (e : Entry), entries[i]? = some e →
        e.descriptor.id = i ∧ e = .ofDescriptor e.descriptor)
      (he : (l.foldl (fun entries d => entries.insert d.id (.ofDescriptor d)) entries)[id]? =
        some e) :
      e.descriptor.id = id ∧ e = .ofDescriptor e.descriptor := by
    induction l generalizing entries with
    | nil => exact hentries id e he
    | cons d l ih =>
      refine ih _ ?_ he
      intro i e' hi
      rw [Std.ExtTreeMap.getElem?_insert] at hi
      split at hi <;> rename_i hd
      · obtain rfl := Option.some.inj hi
        exact ⟨Std.LawfulEqOrd.eq_of_compare hd, rfl⟩
      · exact hentries i e' hi
  exact hfold descriptors ∅ (by simp) h

namespace World

variable {w w' : World}

def IsValid (w : World) : Prop := w.manager.config.validate = .ok ()

theorem IsValid.limit_nonneg (h : w.IsValid) : 0 ≤ w.manager.config.maxRecoveryMillis.toInt := by
  rw [Config.toInt_maxRecoveryMillis h]
  omega

theorem IsFresh.eq (h : w.IsFresh) :
    ∃ (config : Config) (descriptors : List Descriptor) (fallback : String) (ids : RequestIds)
      (now : Instant), config.validate = .ok () ∧
        w = ofManager { config, directory := .ofDescriptors descriptors fallback, ids } now := by
  obtain ⟨config, descriptors, fallback, ids, manager, now, hm, rfl⟩ := h
  cases hv : config.validate with
  | error e => simp [Manager.ofConfig, hv, bind, Except.bind] at hm
  | ok =>
    simp only [Manager.ofConfig, hv, bind, Except.bind, pure, Except.pure, Except.ok.injEq] at hm
    exact ⟨config, descriptors, fallback, ids, now, hv, hm ▸ rfl⟩

theorem IsFresh.isValid (h : w.IsFresh) : w.IsValid := by
  obtain ⟨config, descriptors, fallback, ids, now, hvalid, rfl⟩ := h.eq
  exact hvalid

theorem IsFresh.listing (h : w.IsFresh) (id : ProducerId) :
    (w.tracked id).tracker = {} ∧ (w.tracked id).listing.id = id ∧
      ∀ e, (w.tracked id).listing.entry = some e →
        e.descriptor.id = id ∧ e = .ofDescriptor e.descriptor := by
  obtain ⟨config, descriptors, fallback, ids, now, -, rfl⟩ := h.eq
  refine ⟨by simp [tracked, manager, ofManager, Manager.desk], rfl, ?_⟩
  intro e he
  exact Directory.entries_ofDescriptors he

theorem IsFresh.standing (h : w.IsFresh) (id : ProducerId) : (w.tracked id).standing = .fresh := by
  obtain ⟨ht, -, hentry⟩ := h.listing id
  have hdown : (w.tracked id).isDown = true := by
    cases he : (w.tracked id).listing.entry with
    | none => exact Tracked.isDown_of_no_entry he
    | some e =>
      rw [Tracked.isDown_of_entry he, (hentry e he).2]
      rfl
  simp [Tracked.standing, hdown, ht, Standing.fresh]

theorem IsFresh.held (h : w.IsFresh) : w.held = ∅ := by
  obtain ⟨config, descriptors, fallback, ids, now, -, rfl⟩ := h.eq
  rfl

theorem IsFresh.eventCalls (h : w.IsFresh) : w.eventCalls = [] := by
  obtain ⟨config, descriptors, fallback, ids, now, -, rfl⟩ := h.eq
  rfl

theorem IsFresh.phase (h : w.IsFresh) : w.manager.phase = .created := by
  obtain ⟨config, descriptors, fallback, ids, now, -, rfl⟩ := h.eq
  rfl

-- What opening a fresh manager leaves: the same producers, as they were.
theorem IsJustOpened.eq (h : w.IsJustOpened) :
    w.isOpen = true ∧ w.IsValid ∧ w.held = ∅ ∧ ∃ w₀ : World, w₀.IsFresh ∧
      ∀ id, w.tracked id = w₀.tracked id := by
  obtain ⟨w₀, service, hfresh, hstart, rfl⟩ := h
  obtain ⟨-, hopened, hconfig, -, htracked⟩ :=
    Manager.start_manager (Service.start_manager hstart)
  refine ⟨?_, ?_, hfresh.held, w₀, hfresh, htracked⟩
  · exact decide_eq_true hopened
  · exact (congrArg Config.validate hconfig).trans hfresh.isValid

-- A fresh manager is opened by one act.
theorem IsFresh.isJustOpened (h : w.IsFresh) (hstep : w.step .start = some w')
    (hopen : w'.isOpen = true) : w'.IsJustOpened := by
  cases stepped hstep with
  | @started service hstart => exact ⟨w, service, h, hstart, rfl⟩
  | notStarted =>
    have hphase : w.manager.phase = .opened := of_decide_eq_true hopen
    exact absurd (h.phase.symm.trans hphase) nofun

theorem IsJustOpened.standing (h : w.IsJustOpened) (id : ProducerId) :
    (w.tracked id).standing = .fresh := by
  obtain ⟨-, -, -, w₀, hfresh, htracked⟩ := h.eq
  rw [htracked, hfresh.standing]

theorem isOpen_iff : w.isOpen = true ↔ w.manager.phase = .opened := decide_eq_true_iff

theorem not_isOpen_iff : w.isOpen = false ↔ w.manager.phase ≠ .opened := decide_eq_false_iff_not

theorem isOpen_of_closed (hclosed : w.manager.phase = .closed) : w.isOpen = false :=
  not_isOpen_iff.mpr (hclosed ▸ nofun)

-- A notification is late only after the close.
theorem ne_sendLate {a : Act} (hopen : w.isOpen = true) (h : w.step a = some w')
    (id : ProducerId) : a ≠ .sendLate id := by
  rintro rfl
  exact absurd ((phase_of_sendLate h).symm.trans (isOpen_iff.mp hopen)) nofun

theorem IsJustOpened.not_created (h : w.IsJustOpened) : w.manager.phase ≠ .created := by
  rw [isOpen_iff.mp h.eq.1]
  exact nofun

end World

namespace Run

variable {w₀ w w' : World} {past : List Step} {a : Act}

theorem config (h : Run w₀ past w) : w.manager.config = w₀.manager.config := by
  induction h with
  | start => rfl
  | step hrun hstep ih => rw [(World.step_setting hstep).1, ih]

theorem isValid (h : Run w₀ past w) (hvalid : w₀.IsValid) : w.IsValid :=
  (congrArg Config.validate h.config).trans hvalid

theorem moved (h : Run w₀ past w) (hvalid : w₀.IsValid) (hstep : w.step a = some w')
    (id : ProducerId) : Moved id w w' a :=
  World.step_moved (h.isValid hvalid).limit_nonneg hstep id

-- What the feed said of a producer stays.
theorem sameDescription (h : Run w₀ past w) (hvalid : w₀.IsValid) (id : ProducerId) :
    (w₀.tracked id).SameDescription (w.tracked id) := by
  induction h with
  | start => exact .refl _
  | step hrun hstep ih =>
    refine ih.trans ?_
    cases hrun.moved hvalid hstep id with
    | visited _ _ hvisit => exact hvisit.sameDescription
    | settled _ _ _ hfinish => exact hfinish.sameDescription
    | touched _ _ _ htouched => exact htouched.sameDescription

theorem isReadable (h : Run w₀ past w) (hvalid : w₀.IsValid) {id : ProducerId}
    (hread : (w₀.tracked id).IsReadable) : (w.tracked id).IsReadable :=
  (h.sameDescription hvalid id).isReadable.mpr hread

-- A manager that was opened is not to be opened again.
theorem not_created (h : Run w₀ past w) (hstart : w₀.manager.phase ≠ .created) :
    w.manager.phase ≠ .created := by
  induction h with
  | start => exact hstart
  | step hrun hstep ih =>
    obtain ⟨-, hsame | ⟨-, hcreated, -⟩ | ⟨-, hclosed⟩⟩ := World.step_setting hstep
    · rw [hsame]
      exact ih
    · exact absurd hcreated ih
    · rw [hclosed]
      exact nofun

-- While it is open it has been open all along.
theorem isOpen_of_step (h : Run w₀ past w) (hstart : w₀.manager.phase ≠ .created)
    (hstep : w.step a = some w') (hopen : w'.isOpen = true) : w.isOpen = true := by
  rw [World.isOpen_iff] at hopen ⊢
  obtain ⟨-, hsame | ⟨-, hcreated, -⟩ | ⟨-, hclosed⟩⟩ := World.step_setting hstep
  · rw [← hsame, hopen]
  · exact absurd hcreated (h.not_created hstart)
  · rw [hclosed] at hopen
    exact absurd hopen nofun

end Run

-- What the rest of a visit does in an open manager to the standing of a producer that
-- can be read.
inductive Settled (sc : Scene) (x : Tracked) (ids : RequestIds) :
    Rest → Option Claim → Standing → Prop where
  | quiet {rest : Rest} (hrest : rest = .done ∨ ∃ request, rest = .eventDone request) :
      Settled sc x ids rest none x.standing
  | kept {stamp : Stamp} :
      Settled sc x ids (.keepAlive stamp) none (x.standing.kept stamp.received)
  | attended {anchor : Instant} {stamp : Stamp} (hmissing : x.isUnattended = false)
      (hstuck : sc.isStuck x = false) :
      Settled sc x ids (.ensureRecovery anchor stamp) none (x.standing.kept stamp.received)
  | claimed {anchor : Instant} {alive : Option Stamp} {rest : Rest} {c : Claim}
      (hrest : rest = .claim anchor alive ∨
        ∃ stamp, alive = some stamp ∧ rest = .ensureRecovery anchor stamp ∧
          (x.isUnattended = true ∨ sc.isStuck x = true))
      (hproducer : c.producer = x.id) (hrequest : c.request = ids.next.1)
      (hat : c.requestedAt = sc.now) :
      Settled sc x ids rest (some c) ((x.standing.claimed c.request sc.now).keptIf alive)

theorem Settled.isDown {sc : Scene} {x : Tracked} {ids : RequestIds} {rest : Rest}
    {c : Option Claim} {s : Standing} (h : Settled sc x ids rest c s) : s.isDown = x.isDown := by
  cases h with
  | quiet => rfl
  | kept => rfl
  | attended => rfl
  | @claimed _ alive => cases alive <;> rfl

theorem Claimed.of_isOpen {sc : Scene} {x y : Tracked} {ids ids' : RequestIds} {anchor : Instant}
    {alive : Option Stamp} {c : Option Claim} (h : Claimed sc x ids anchor alive c y ids')
    (hopen : sc.isOpen = true) (hread : x.IsReadable) :
    ∃ c', c = some c' ∧ c'.producer = x.id ∧ c'.request = ids.next.1 ∧ c'.requestedAt = sc.now ∧
      y.standing = (x.standing.claimed c'.request sc.now).keptIf alive := by
  cases h with
  | shut hshut => exact absurd (hshut.symm.trans hopen) nofun
  | lost _ hlost => exact absurd hread hlost
  | made => exact ⟨_, rfl, rfl, rfl, rfl, by rw [Tracked.standing_keptIf, Tracked.standing_claimed]⟩

theorem Finished.settled {sc : Scene} {x y : Tracked} {ids ids' : RequestIds} {rest : Rest}
    {c : Option Claim} (h : Finished sc x ids rest c y ids') (hopen : sc.isOpen = true)
    (hread : x.IsReadable) : Settled sc x ids rest c y.standing := by
  cases h with
  | done => exact .quiet (.inl rfl)
  | keepAlive => rw [Tracked.standing_kept]; exact .kept
  | eventDone request => exact .quiet (.inr ⟨request, rfl⟩)
  | attended hmissing hstuck => rw [Tracked.standing_kept]; exact .attended hmissing hstuck
  | claim hclaim =>
    obtain ⟨c', rfl, hproducer, hrequest, hat, hy⟩ := hclaim.of_isOpen hopen hread
    rw [hy]
    exact .claimed (.inl rfl) hproducer hrequest hat
  | missing hmissing hclaim =>
    obtain ⟨c', rfl, hproducer, hrequest, hat, hy⟩ := hclaim.of_isOpen hopen hread
    rw [hy]
    exact .claimed (.inr ⟨_, rfl, rfl, .inl hmissing⟩) hproducer hrequest hat
  | stuck hstuck hclaim =>
    obtain ⟨c', rfl, hproducer, hrequest, hat, hy⟩ := hclaim.of_isOpen hopen hread
    rw [hy]
    exact .claimed (.inr ⟨_, rfl, rfl, .inr hstuck⟩) hproducer hrequest hat

-- An act in an open manager, as the standing of one producer sees it.
inductive Shifted (id : ProducerId) (w w' : World) : Act → Prop where
  | visited {v : Visit} {pause : Pause} (hfree : w.held[id]? = none)
      (hheld : w'.held[id]? = some pause)
      (hturned : Turned w.scene (w.tracked id) v pause (w'.tracked id).standing) :
      Shifted id w w' (.visit id v)
  | settled {pause : Pause} {c : Option Claim} (hheld : w.held[id]? = some pause)
      (hfree : w'.held[id]? = none) (hclaims : w'.claims = w.claims ++ c.toList)
      (hsettled : Settled w.scene (w.tracked id) w.manager.ids pause.rest c
        (w'.tracked id).standing) :
      Shifted id w w' (.settle id)
  | aside {a : Act} (hvisit : ∀ v, a ≠ .visit id v) (hsettle : a ≠ .settle id)
      (hheld : w'.held[id]? = w.held[id]?)
      (hstanding : (w'.tracked id).standing = (w.tracked id).standing) : Shifted id w w' a

theorem Run.shifted {w₀ w w' : World} {past : List Step} {a : Act} {id : ProducerId}
    (h : Run w₀ past w) (hvalid : w₀.IsValid) (hread : (w₀.tracked id).IsReadable)
    (hopen : w.isOpen = true) (hstep : w.step a = some w') : Shifted id w w' a := by
  cases h.moved hvalid hstep id with
  | visited hfree hheld hvisit => exact .visited hfree hheld hvisit.turned
  | settled hheld hfree hclaims hfinish =>
    exact .settled hheld hfree hclaims (hfinish.settled hopen (h.isReadable hvalid hread))
  | touched hvisit hsettle _ htouched hkept =>
    exact .aside hvisit hsettle (hkept (World.ne_sendLate hopen hstep id)) htouched.standing

-- What holds at the opening, and is kept by every allowed act in an open manager, holds
-- while the manager is open.
theorem Run.of_isOpen {w₀ w : World} {past : List Step} {id : ProducerId}
    {P : List Step → World → Prop} {allowed : Step → Prop} (h : Run w₀ past w)
    (hstart : w₀.IsJustOpened) (hread : (w₀.tracked id).IsReadable)
    (hallowed : ∀ s ∈ past, allowed s) (hopen : w.isOpen = true) (hopened : P [] w₀)
    (hkept : ∀ past w a w', Run w₀ past w → (∀ s ∈ past, allowed s) → w.isOpen = true →
      allowed ⟨w, a, w'⟩ → w.step a = some w' → Shifted id w w' a → P past w →
        P (⟨w, a, w'⟩ :: past) w') : P past w := by
  induction h with
  | start => exact hopened
  | step hrun hstep ih =>
    obtain ⟨hlast, hallowed⟩ := List.forall_mem_cons.mp hallowed
    have hbefore := hrun.isOpen_of_step hstart.not_created hstep hopen
    have hshifted := hrun.shifted hstart.eq.2.1 hread hbefore hstep
    exact hkept _ _ _ _ hrun hallowed hbefore hlast hstep hshifted (ih hallowed hbefore)

-- A producer to try things on, ten minutes past the epoch.
def liveOdds : Descriptor where
  id := ⟨1⟩
  name := "LO"
  description := "Live Odds"
  apiEndpoint := ""
  active := true
  scope := "live"
  windowMinutes := 4320

namespace World

def ofLiveOdds : World :=
  .ofManager { config := {}, directory := .ofDescriptors [liveOdds] "", ids := ⟨0, 1⟩ } 600000

def openedLiveOdds : World := (ofLiveOdds.play [] [.start]).2

theorem isFresh_ofLiveOdds : ofLiveOdds.IsFresh :=
  ⟨{}, [liveOdds], "", ⟨0, 1⟩, _, 600000, rfl, rfl⟩

theorem isReadable_ofLiveOdds (id : ProducerId) : (ofLiveOdds.tracked id).IsReadable := by
  cases he : (ofLiveOdds.tracked id).listing.entry with
  | none => exact Tracked.isReadable_of_no_entry he
  | some e =>
    have hentry : ((∅ : Std.ExtTreeMap ProducerId Entry).insert ⟨1⟩ (.ofDescriptor liveOdds))[id]? =
        some e := he
    rw [Std.ExtTreeMap.getElem?_insert] at hentry
    split at hentry
    · obtain rfl := Option.some.inj hentry
      exact (Tracked.isReadable_of_entry he).mpr ⟨_, rfl⟩
    · exact absurd hentry nofun

theorem isJustOpened_openedLiveOdds : openedLiveOdds.IsJustOpened :=
  isFresh_ofLiveOdds.isJustOpened rfl rfl

theorem isReadable_openedLiveOdds : (openedLiveOdds.tracked ⟨1⟩).IsReadable := ⟨_, rfl⟩

-- A first recovery completes. A delay takes the producer down, and ends.
def delayActs : List Act :=
  [.visit ⟨1⟩ (.alive (.uniform 600000) false .systemAliveOnly), .settle ⟨1⟩,
    .visit ⟨1⟩ (.replayEnded ⟨1⟩ .all), .settle ⟨1⟩,
    .visit ⟨1⟩ .healthCheck, .settle ⟨1⟩,
    .visit ⟨1⟩ (.messageEnded 600000), .settle ⟨1⟩,
    .visit ⟨1⟩ (.alive (.uniform 600000) true .all), .settle ⟨1⟩]

end World

end FeedWatch
