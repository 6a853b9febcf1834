import FeedWatch.Proofs.Timely

namespace FeedWatch

namespace Step

-- The producer goes down for a reason other than a delay, or this becomes the reason.
def IsFall (s : Step) (id : ProducerId) : Prop :=
  (s.after.tracked id).isDown = true ∧ (s.after.tracked id).tracker.downReason ≠ .queueDelay ∧
    ((s.before.tracked id).isDown = false ∨
      (s.before.tracked id).tracker.downReason ≠ (s.after.tracked id).tracker.downReason)

-- A recovery of the producer is claimed: its request goes out.
def IsClaim (s : Step) (id : ProducerId) (c : Claim) : Prop :=
  s.act = .settle id ∧ c.producer = id ∧ s.after.claims = s.before.claims ++ [c]

end Step

def World.IsDelayed (w : World) (id : ProducerId) : Prop :=
  (w.tracked id).isDown = true ∧ (w.tracked id).tracker.downReason = .queueDelay

-- The recovery is the last one that was claimed, and since then the producer did not go
-- down for a reason other than a delay.
def IsRequested (id : ProducerId) (request : RequestId) (startedAt : Instant) :
    List Step → Prop :=
  Since (fun s => ¬s.IsFall id ∧ ∀ c, ¬s.IsClaim id c)
    (fun s => ∃ c, s.IsClaim id c ∧ c.request = request ∧ c.requestedAt = startedAt)

-- The producer went down for a delay, and was down for this reason ever since.
def HasOnlyDelayed (id : ProducerId) : List Step → Prop :=
  Since (fun s => s.before.IsDelayed id ∧ s.after.IsDelayed id)
    (fun s => (s.before.tracked id).isDown = false ∧ s.after.IsDelayed id)

-- A recovery that is started, or that ended and was not followed by another outage, was
-- claimed after the last one.
structure Standing.IsAnswered (s : Standing) (id : ProducerId) (past : List Step) : Prop where
  requested : s.state = .started ∨
      s.state = .completed ∧ (s.isDown = false ∨ s.downReason = .queueDelay) →
    ∃ request startedAt, s.current = some (request, startedAt) ∧
      IsRequested id request startedAt past
  delayed : s.state = .completed → s.isDown = true → s.downReason = .queueDelay →
    HasOnlyDelayed id past

namespace Step

variable {s : Step} {id : ProducerId}

theorem not_isFall_of_eq
    (hdown : (s.after.tracked id).isDown = (s.before.tracked id).isDown)
    (hreason : (s.after.tracked id).tracker.downReason =
      (s.before.tracked id).tracker.downReason) : ¬s.IsFall id := by
  rintro ⟨hd, -, hup | hne⟩
  · exact absurd (hup.symm.trans (hdown.symm.trans hd)) nofun
  · exact hne hreason.symm

theorem not_isFall_of_up (h : (s.after.tracked id).isDown = false) : ¬s.IsFall id :=
  fun hfall => absurd (h.symm.trans hfall.1) nofun

theorem not_isFall_of_isDelayed (h : s.after.IsDelayed id) : ¬s.IsFall id :=
  fun hfall => hfall.2.1 h.2

theorem not_isClaim_of_act (h : s.act ≠ .settle id) (c : Claim) : ¬s.IsClaim id c :=
  fun hc => h hc.1

theorem not_isClaim_of_claims (h : s.after.claims = s.before.claims) (c : Claim) :
    ¬s.IsClaim id c := by
  rintro ⟨-, -, hc⟩
  have hlength := congrArg List.length (h.symm.trans hc)
  simp at hlength

end Step

namespace Standing

variable {id : ProducerId} {w w' : World} {a : Act} {past : List Step}

-- Nothing changes but when the last alive came, and no recovery is claimed.
theorem isAnswered_stays (h : (w.tracked id).standing.IsAnswered id past)
    (hstanding : ∃ heard, (w'.tracked id).standing =
      { (w.tracked id).standing with lastSystemAlive := heard })
    (hclaim : ∀ c, ¬Step.IsClaim ⟨w, a, w'⟩ id c) :
    (w'.tracked id).standing.IsAnswered id (⟨w, a, w'⟩ :: past) := by
  obtain ⟨heard, hstanding⟩ := hstanding
  have hdown : (w'.tracked id).isDown = (w.tracked id).isDown :=
    congrArg Standing.isDown hstanding
  have hreason : (w'.tracked id).tracker.downReason = (w.tracked id).tracker.downReason :=
    congrArg Standing.downReason hstanding
  have hfall : ¬Step.IsFall ⟨w, a, w'⟩ id := Step.not_isFall_of_eq hdown hreason
  rw [hstanding]
  constructor
  · intro hante
    obtain ⟨request, startedAt, hc, hrequested⟩ := h.requested hante
    exact ⟨request, startedAt, hc, .inr ⟨⟨hfall, hclaim⟩, hrequested⟩⟩
  · intro hcompleted hd hdelay
    exact .inr ⟨⟨⟨hd, hdelay⟩, hdown.trans hd, hreason.trans hdelay⟩,
      h.delayed hcompleted hd hdelay⟩

-- To fall leaves nothing to be answered for.
theorem isAnswered_lowered {s : Standing} {reason : DownReason} (hreason : reason ≠ .queueDelay) :
    (s.lowered reason).IsAnswered id past := by
  constructor
  · rintro (hstarted | ⟨-, hup | hdelay⟩)
    · dsimp only [lowered] at hstarted
      split at hstarted <;> rename_i hstate
      · exact absurd hstarted nofun
      · exact absurd ⟨hstarted, hreason⟩ hstate
    · exact absurd hup nofun
    · exact absurd hdelay hreason
  · exact fun _ _ hdelay => absurd hdelay hreason

-- A producer whose recovery has ended is not found late by a health check unless it is
-- up, or down for a delay already.
theorem isDelayed_of_not_isSilent {sc : Scene} {x : Tracked}
    (hcovered : x.standing.IsCovered sc none) (hsees : sc.seesSilence x)
    (hsilent : ¬sc.isSilent x) (hcompleted : x.tracker.state = .completed)
    (hdown : x.isDown = true) : x.tracker.downReason = .queueDelay := by
  obtain hdelay | ⟨-, hoverdue⟩ | ⟨anchor, alive, hrest⟩ := hcovered hcompleted hdown
  · exact hdelay
  · exact absurd (hsees.isSilent_iff.mpr hoverdue) hsilent
  · exact absurd hrest nofun

theorem isAnswered_turned {v : Visit} {pause : Pause}
    (h : (w.tracked id).standing.IsAnswered id past)
    (hsound : (w.tracked id).standing.IsSound none)
    (htimely : (w.tracked id).standing.IsTimely none)
    (hcovered : (w.tracked id).standing.IsCovered w.scene none)
    (hsees : v = .healthCheck → w.scene.seesSilence (w.tracked id))
    (ht : Turned w.scene (w.tracked id) v pause (w'.tracked id).standing) :
    (w'.tracked id).standing.IsAnswered id (⟨w, .visit id v, w'⟩ :: past) := by
  have hclaim : ∀ c, ¬Step.IsClaim ⟨w, .visit id v, w'⟩ id c := Step.not_isClaim_of_act nofun
  generalize hs : (w'.tracked id).standing = s' at ht
  cases ht with
  | quiet => exact hs ▸ isAnswered_stays h ⟨_, hs⟩ hclaim
  | asking => exact hs ▸ isAnswered_stays h ⟨_, hs⟩ hclaim
  | checking => exact hs ▸ isAnswered_stays h ⟨_, hs⟩ hclaim
  | cutOff => exact isAnswered_lowered nofun
  | returned _ _ _ hback =>
    have hcompleted := state_of_isBack htimely hsound hback
    obtain ⟨-, -, hdelay, -⟩ := isBack_iff.mp hback
    have hup : (w'.tracked id).isDown = false := congrArg Standing.isDown hs
    obtain ⟨request, startedAt, hc, hrequested⟩ := h.requested (.inr ⟨hcompleted, .inr hdelay⟩)
    refine ⟨fun _ => ⟨request, startedAt, hc, ?_⟩, fun _ hdown => absurd hdown nofun⟩
    exact .inr ⟨⟨Step.not_isFall_of_up hup, hclaim⟩, hrequested⟩
  | completed _ hstate =>
    have hup : (w'.tracked id).isDown = false := congrArg Standing.isDown hs
    obtain ⟨request, startedAt, hc, hrequested⟩ := h.requested (.inl hstate)
    refine ⟨fun _ => ⟨request, startedAt, hc, ?_⟩, fun _ hdown => absurd hdown nofun⟩
    exact .inr ⟨⟨Step.not_isFall_of_up hup, hclaim⟩, hrequested⟩
  | silent => exact isAnswered_lowered nofun
  | delayed hsilent =>
    have hafter : w'.IsDelayed id := ⟨congrArg Standing.isDown hs, congrArg Standing.downReason hs⟩
    have hdelayed := isDelayed_of_not_isSilent hcovered (hsees rfl) hsilent
    constructor
    · intro hante
      have hbefore : (w.tracked id).standing.state = .started ∨
          (w.tracked id).standing.state = .completed ∧ ((w.tracked id).standing.isDown = false ∨
            (w.tracked id).standing.downReason = .queueDelay) := by
        obtain hstarted | ⟨hcompleted, -⟩ := hante
        · exact .inl (state_of_lowered hstarted nofun)
        · have hstate := state_of_lowered hcompleted nofun
          cases hdown : (w.tracked id).isDown with
          | false => exact .inr ⟨hstate, .inl hdown⟩
          | true => exact .inr ⟨hstate, .inr (hdelayed hstate hdown)⟩
      obtain ⟨request, startedAt, hc, hrequested⟩ := h.requested hbefore
      exact ⟨request, startedAt, hc,
        .inr ⟨⟨Step.not_isFall_of_isDelayed hafter, hclaim⟩, hrequested⟩⟩
    · intro hcompleted _ _
      have hstate := state_of_lowered hcompleted nofun
      cases hdown : (w.tracked id).isDown with
      | false => exact .inl ⟨hdown, hafter⟩
      | true =>
        have hdelay := hdelayed hstate hdown
        exact .inr ⟨⟨⟨hdown, hdelay⟩, hafter⟩, h.delayed hstate hdown hdelay⟩

theorem isAnswered_settled {rest : Rest} {c : Option Claim}
    (h : (w.tracked id).standing.IsAnswered id past)
    (hclaims : w'.claims = w.claims ++ c.toList)
    (hs : Settled w.scene (w.tracked id) w.manager.ids rest c (w'.tracked id).standing) :
    (w'.tracked id).standing.IsAnswered id (⟨w, .settle id, w'⟩ :: past) := by
  generalize hs' : (w'.tracked id).standing = s' at hs
  have hstays (hclaims : w'.claims = w.claims ++ [])
      (hstanding : ∃ heard, s' = { (w.tracked id).standing with lastSystemAlive := heard }) :
      s'.IsAnswered id (⟨w, .settle id, w'⟩ :: past) := by
    have hclaim : ∀ c, ¬Step.IsClaim ⟨w, .settle id, w'⟩ id c :=
      Step.not_isClaim_of_claims (hclaims.trans (List.append_nil _))
    obtain ⟨heard, hheard⟩ := hstanding
    exact hs' ▸ isAnswered_stays h ⟨heard, hs'.trans hheard⟩ hclaim
  cases hs with
  | quiet => exact hstays hclaims ⟨_, rfl⟩
  | kept => exact hstays hclaims ⟨_, rfl⟩
  | attended => exact hstays hclaims ⟨_, rfl⟩
  | @claimed anchor alive _ c _ hproducer _ hat =>
    have hstate : (((w.tracked id).standing.claimed c.request w.now).keptIf alive).state =
        .started := by cases alive <;> rfl
    have hcurrent : (((w.tracked id).standing.claimed c.request w.now).keptIf alive).current =
        some (c.request, w.now) := by cases alive <;> rfl
    constructor
    · intro _
      exact ⟨c.request, w.now, hcurrent, .inl ⟨c, ⟨rfl, hproducer, hclaims⟩, rfl, hat⟩⟩
    · intro hcompleted
      exact absurd (hstate.symm.trans hcompleted) nofun

end Standing

namespace Run

variable {w₀ w w' : World} {past : List Step} {a : Act} {id : ProducerId}

theorem isAnswered (h : Run w₀ past w) (hstart : w₀.IsJustOpened)
    (hread : (w₀.tracked id).IsReadable) (hlate : ∀ s ∈ past, s.before.IsLate)
    (hforward : ∀ s ∈ past, s.IsForward) (hsees : ∀ s ∈ past, s.SeesSilence id)
    (hopen : w.isOpen = true) : (w.tracked id).standing.IsAnswered id past := by
  have hall : ∀ s ∈ past, s.before.IsLate ∧ s.IsForward ∧ s.SeesSilence id :=
    fun s hs => ⟨hlate s hs, hforward s hs, hsees s hs⟩
  apply h.of_isOpen hstart hread hall hopen
  · rw [hstart.standing]
    exact ⟨fun hante => by simp [Standing.fresh] at hante, nofun⟩
  · intro past w a w' hrun hall hbefore hlast _ hshifted hanswered
    have hlate (s : Step) (hs : s ∈ past) : s.before.IsLate := (hall s hs).1
    have hforward (s : Step) (hs : s ∈ past) : s.IsForward := (hall s hs).2.1
    have hsees (s : Step) (hs : s ∈ past) : s.SeesSilence id := (hall s hs).2.2
    cases hshifted with
    | visited hfree _ hturned =>
      have hsound := hrun.isSound hstart hread hbefore
      have htimely := hrun.isTimely hstart hread hlate hbefore
      have hcovered := hrun.isCovered hstart hread hlate hforward hsees hbefore
      rw [hfree] at hsound htimely hcovered
      exact Standing.isAnswered_turned hanswered hsound htimely hcovered
        (fun hv => hlast.2.2 (hv ▸ rfl)) hturned
    | settled _ _ hclaims hsettled => exact Standing.isAnswered_settled hanswered hclaims hsettled
    | aside _ hsettle _ hstanding =>
      exact Standing.isAnswered_stays hanswered ⟨_, hstanding⟩ (Step.not_isClaim_of_act hsettle)

-- A first recovery completes. Then an alive comes that was received almost 2^63 milliseconds
-- ago.
def ancientActs : List Act :=
  [.visit ⟨1⟩ (.alive (.uniform 600000) false .systemAliveOnly), .settle ⟨1⟩,
    .visit ⟨1⟩ (.replayEnded ⟨1⟩ .all), .settle ⟨1⟩,
    .visit ⟨1⟩ (.alive { Stamp.uniform 600000 with received := Int64.minValue + 610000 } true
      .systemAliveOnly),
    .settle ⟨1⟩]

-- The silence does not fit 64 bits any more as the second check comes, and so it is a delay
-- that this one finds.
def wrappingActs : List Act :=
  [.settle ⟨1⟩, .moveClock (.seconds 20), .visit ⟨1⟩ .healthCheck, .settle ⟨1⟩,
    .visit ⟨1⟩ (.messageEnded 620000), .settle ⟨1⟩,
    .visit ⟨1⟩ (.alive (.uniform 620000) true .all), .settle ⟨1⟩]

end Run

end FeedWatch
