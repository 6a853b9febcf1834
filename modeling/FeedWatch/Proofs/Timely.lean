import FeedWatch.Proofs.Sound

namespace FeedWatch

-- The clock reads more than the inactivity limit.
def World.IsLate (w : World) : Prop :=
  w.manager.config.maxInactivityMillis.toInt < w.now.toInt

instance (w : World) : Decidable w.IsLate := inferInstanceAs (Decidable (_ < _))

-- The clock was not set back.
def Step.IsForward (s : Step) : Prop := s.before.now.toInt ≤ s.after.now.toInt

instance (s : Step) : Decidable s.IsForward := inferInstanceAs (Decidable (_ ≤ _))

-- A health check of the producer sees how long it has been silent.
def Step.SeesSilence (s : Step) (id : ProducerId) : Prop :=
  s.act = .visit id .healthCheck → s.before.scene.seesSilence (s.before.tracked id)

-- A producer whose first recovery is still to be claimed was never heard of, and so it is
-- not down for a delay.
structure Standing.IsTimely (s : Standing) (rest : Option Rest) : Prop where
  unclaimed : s.state = .default →
    s.isDown = true ∧ s.lastSystemAlive = none ∧ s.downReason ≠ .queueDelay
  returned : ∀ stamp, rest = some (.keepAlive stamp) → s.state = .completed ∧ s.isDown = false

-- A producer that went down after its last recovery is down for a delay, or no alive
-- came since, or another recovery is about to be claimed.
def Standing.IsOverdue (sc : Scene) (s : Standing) (rest : Option Rest) : Prop :=
  s.downReason = .queueDelay ∨
    s.downReason = .aliveInterval ∧
      sc.config.maxInactivityMillis.toInt < sc.now.toInt - (s.lastSystemAlive.getD 0).toInt ∨
    ∃ anchor alive, rest = some (.claim anchor alive)

def Standing.IsCovered (sc : Scene) (s : Standing) (rest : Option Rest) : Prop :=
  s.state = .completed → s.isDown = true → s.IsOverdue sc rest

namespace Standing

variable {s : Standing}

theorem isTimely_fresh : fresh.IsTimely none := ⟨fun _ => ⟨rfl, rfl, nofun⟩, nofun⟩

theorem isSilent_of_unheard {sc : Scene} {x : Tracked}
    (hlate : sc.config.maxInactivityMillis.toInt < sc.now.toInt)
    (hunheard : x.tracker.lastSystemAlive = none) : sc.isSilent x := by
  rw [Scene.isSilent, hunheard, Option.getD_none, Instant.since_zero]
  exact hlate

-- Only a producer whose recovery has ended comes back without another.
theorem state_of_isBack {sc : Scene} {x : Tracked} {rest : Option Rest}
    (h : x.standing.IsTimely rest) (hsound : x.standing.IsSound rest)
    (hback : sc.isBack x = true) : x.tracker.state = .completed := by
  obtain ⟨-, hidle, hreason, -⟩ := isBack_iff.mp hback
  obtain hs | hs | hs | hs := hsound.state
  · exact absurd hreason (h.unclaimed hs).2.2
  · rw [Tracked.standing_state] at hs
    simp [hs, RecoveryState.isInProgress] at hidle
  · rw [Tracked.standing_state] at hs
    simp [hs, RecoveryState.isInProgress] at hidle
  · exact hs

theorem IsTimely.turned {sc : Scene} {x : Tracked} {v : Visit} {pause : Pause} {s' : Standing}
    (h : x.standing.IsTimely none) (hsound : x.standing.IsSound none)
    (ht : Turned sc x v pause s') (hlate : sc.config.maxInactivityMillis.toInt < sc.now.toInt) :
    s'.IsTimely (some pause.rest) := by
  have hkeep {rest : Rest} (hrest : ∀ stamp, rest ≠ .keepAlive stamp) :
      x.standing.IsTimely (some rest) :=
    ⟨h.unclaimed, fun stamp hs => absurd (Option.some.inj hs) (hrest stamp)⟩
  cases ht with
  | quiet hrest =>
    apply hkeep
    obtain hdone | ⟨request, hevent⟩ := hrest
    · simp [hdone]
    · simp [hevent]
  | asking => exact hkeep nofun
  | checking => exact hkeep nofun
  | cutOff hup =>
    refine ⟨fun hstate => ?_, nofun⟩
    -- a producer that is up has a recovery behind it
    have hdefault := state_of_lowered hstate nofun
    exact absurd (hup.symm.trans (h.unclaimed hdefault).1) nofun
  | returned _ _ _ hback =>
    have hcompleted := state_of_isBack h hsound hback
    refine ⟨fun hstate => ?_, fun _ _ => ⟨hcompleted, rfl⟩⟩
    exact absurd (hcompleted.symm.trans hstate) nofun
  | completed => exact ⟨nofun, nofun⟩
  | silent =>
    refine ⟨fun hstate => ?_, nofun⟩
    have hdefault := state_of_lowered hstate nofun
    exact ⟨rfl, (h.unclaimed hdefault).2.1, nofun⟩
  | delayed hsilent =>
    refine ⟨fun hstate => ?_, nofun⟩
    have hdefault := state_of_lowered hstate nofun
    exact absurd (isSilent_of_unheard hlate (h.unclaimed hdefault).2.1) hsilent

theorem IsTimely.settled {sc : Scene} {x : Tracked} {ids : RequestIds} {rest : Rest}
    {c : Option Claim} {s' : Standing} (h : x.standing.IsTimely (some rest))
    (hs : Settled sc x ids rest c s') : s'.IsTimely none := by
  cases hs with
  | quiet => exact ⟨h.unclaimed, nofun⟩
  | @kept stamp =>
    refine ⟨fun hstate => ?_, nofun⟩
    have hdefault : x.standing.state = .default := hstate
    exact absurd ((h.returned stamp rfl).1.symm.trans hdefault) nofun
  | attended hmissing =>
    -- with no recovery behind it a producer that is heard of is claimed for
    refine ⟨fun hstate => ?_, nofun⟩
    have hdefault : x.tracker.state = .default := hstate
    obtain ⟨hdown, -, hreason⟩ := h.unclaimed hdefault
    have hunattended : x.isUnattended = true :=
      isUnattended_iff.mpr ⟨hdown, by rw [hdefault]; rfl, hreason⟩
    exact absurd (hmissing.symm.trans hunattended) nofun
  | @claimed _ alive =>
    refine ⟨fun hstate => ?_, nofun⟩
    cases alive with
    | none => exact absurd hstate nofun
    | some stamp => exact absurd hstate nofun

-- The end of a recovery and every way down keep it covered.
theorem isCovered_turned {sc : Scene} {x : Tracked} {v : Visit} {pause : Pause} {s' : Standing}
    (h : x.standing.IsCovered sc none) (hsees : v = .healthCheck → sc.seesSilence x)
    (ht : Turned sc x v pause s') : s'.IsCovered sc (some pause.rest) := by
  have hkeep {rest : Rest} : x.standing.IsCovered sc (some rest) := by
    intro hstate hdown
    obtain hdelay | hsilent | ⟨anchor, alive, hrest⟩ := h hstate hdown
    · exact .inl hdelay
    · exact .inr (.inl hsilent)
    · exact absurd hrest nofun
  cases ht with
  | quiet => exact hkeep
  | asking => exact hkeep
  | checking => exact hkeep
  | cutOff => exact fun _ _ => .inr (.inr ⟨_, _, rfl⟩)
  | returned => exact fun _ hdown => absurd hdown nofun
  | completed => exact fun _ hdown => absurd hdown nofun
  | silent hsilent => exact fun _ _ => .inr (.inl ⟨rfl, (hsees rfl).isSilent_iff.mp hsilent⟩)
  | delayed => exact fun _ _ => .inl rfl

theorem isCovered_settled {sc : Scene} {x : Tracked} {ids : RequestIds} {rest : Rest}
    {c : Option Claim} {s' : Standing} (h : x.standing.IsCovered sc (some rest))
    (htimely : x.standing.IsTimely (some rest)) (hs : Settled sc x ids rest c s') :
    s'.IsCovered sc none := by
  intro hstate hdown
  cases hs with
  | quiet hrest =>
    obtain hdelay | hsilent | ⟨anchor, alive, hclaim⟩ := h hstate hdown
    · exact .inl hdelay
    · exact .inr (.inl hsilent)
    · obtain rfl := Option.some.inj hclaim
      rcases hrest with hdone | ⟨request, hevent⟩
      · exact absurd hdone nofun
      · exact absurd hevent nofun
  | @kept stamp => exact absurd ((htimely.returned stamp rfl).2.symm.trans hdown) nofun
  | attended hmissing =>
    -- an alive that claims nothing came while the producer was up or delayed
    have hcompleted : x.tracker.state = .completed := hstate
    by_cases hdelay : x.tracker.downReason = .queueDelay
    · exact .inl hdelay
    · have hunattended : x.isUnattended = true :=
        isUnattended_iff.mpr ⟨hdown, by rw [hcompleted]; rfl, hdelay⟩
      exact absurd (hmissing.symm.trans hunattended) nofun
  | @claimed _ alive =>
    cases alive with
    | none => exact absurd hstate nofun
    | some stamp => exact absurd hstate nofun

-- Time passes.
theorem IsCovered.later {sc sc' : Scene} {rest : Option Rest} (h : s.IsCovered sc rest)
    (hconfig : sc'.config = sc.config) (hnow : sc.now.toInt ≤ sc'.now.toInt) :
    s.IsCovered sc' rest := by
  intro hstate hdown
  obtain hdelay | ⟨hreason, hsilent⟩ | hclaim := h hstate hdown
  · exact .inl hdelay
  · refine .inr (.inl ⟨hreason, ?_⟩)
    rw [hconfig]
    omega
  · exact .inr (.inr hclaim)

end Standing

namespace Run

variable {w₀ w : World} {past : List Step} {id : ProducerId}

theorem isTimely (h : Run w₀ past w) (hstart : w₀.IsJustOpened)
    (hread : (w₀.tracked id).IsReadable) (hlate : ∀ s ∈ past, s.before.IsLate)
    (hopen : w.isOpen = true) : (w.tracked id).standing.IsTimely (w.held[id]?.map Pause.rest) := by
  obtain ⟨-, -, hheld, -⟩ := hstart.eq
  apply h.of_isOpen hstart hread hlate hopen
  · rw [hstart.standing, hheld]
    simpa using Standing.isTimely_fresh
  · intro past w a w' hrun _ hbefore hlater _ hshifted htimely
    have hsound := hrun.isSound hstart hread hbefore
    cases hshifted with
    | visited hfree hheld hturned =>
      rw [hfree] at htimely hsound
      rw [hheld]
      exact htimely.turned hsound hturned hlater
    | settled hheld hfree _ hsettled =>
      rw [hheld] at htimely
      rw [hfree]
      exact htimely.settled hsettled
    | aside _ _ hheld hstanding =>
      rw [hheld, hstanding]
      exact htimely

theorem isCovered (h : Run w₀ past w) (hstart : w₀.IsJustOpened)
    (hread : (w₀.tracked id).IsReadable) (hlate : ∀ s ∈ past, s.before.IsLate)
    (hforward : ∀ s ∈ past, s.IsForward) (hsees : ∀ s ∈ past, s.SeesSilence id)
    (hopen : w.isOpen = true) :
    (w.tracked id).standing.IsCovered w.scene (w.held[id]?.map Pause.rest) := by
  have hall : ∀ s ∈ past, s.before.IsLate ∧ s.IsForward ∧ s.SeesSilence id :=
    fun s hs => ⟨hlate s hs, hforward s hs, hsees s hs⟩
  apply h.of_isOpen hstart hread hall hopen
  · rw [hstart.standing]
    exact nofun
  · intro past w a w' hrun hall hbefore hlast hstep hshifted hcovered
    have htimely := hrun.isTimely hstart hread (fun s hs => (hall s hs).1) hbefore
    obtain ⟨-, hforward, hsees⟩ := hlast
    have hlater {s : Standing} {rest : Option Rest} (hs : s.IsCovered w.scene rest) :
        s.IsCovered w'.scene rest := hs.later (World.step_setting hstep).1 hforward
    cases hshifted with
    | visited hfree hheld hturned =>
      rw [hfree] at hcovered
      rw [hheld]
      exact hlater (Standing.isCovered_turned hcovered (fun hv => hsees (hv ▸ rfl)) hturned)
    | settled hheld hfree _ hsettled =>
      rw [hheld] at hcovered htimely
      rw [hfree]
      exact hlater (Standing.isCovered_settled hcovered htimely hsettled)
    | aside _ _ hheld hstanding =>
      rw [hheld, hstanding]
      exact hlater hcovered

end Run

end FeedWatch
