import FeedWatch.Proofs.Opened

namespace FeedWatch

-- The reason for which the user was told last goes with the flag and its reason.
structure Standing.IsTold (s : Standing) : Prop where
  down : s.isDown = true → s.downReason = .default ∧ s.toldReason = none ∨
    s.downReason ≠ .default ∧ s.toldReason = some s.downReason.status
  up : s.isDown = false → s.downReason = .default ∧
    (s.toldReason = some .firstRecoveryCompleted ∨ s.toldReason = some .returnedFromInactivity)

-- The rest is that of the visit which holds the producer, if one does.
structure Standing.IsSound (s : Standing) (rest : Option Rest) : Prop where
  inProgress : s.state.isInProgress = true → s.isDown = true
  -- no recovery is ever called off
  state : s.state = .default ∨ s.state = .started ∨ s.state = .interrupted ∨ s.state = .completed
  completed : s.state = .completed → s.firstRecoveryCompleted = true
  asked : ∀ anchor alive, rest = some (.claim anchor alive) → s.isDown = true
  told : s.IsTold

namespace Standing

variable {s : Standing}

theorem isUnattended_iff {x : Tracked} : x.isUnattended = true ↔
    x.isDown = true ∧ x.tracker.state.isInProgress = false ∧
      x.tracker.downReason ≠ .queueDelay := by
  simp [Tracked.isUnattended, Tracker.isPerformingRecovery, and_assoc]

theorem isBack_iff {sc : Scene} {x : Tracked} : sc.isBack x = true ↔
    x.isDown = true ∧ x.tracker.state.isInProgress = false ∧
      x.tracker.downReason = .queueDelay ∧ sc.onTime x = true := by
  simp [Scene.isBack, Tracker.isPerformingRecovery, and_assoc]

theorem isSound_fresh : fresh.IsSound none where
  inProgress := nofun
  state := .inl rfl
  completed := nofun
  asked := nofun
  told := ⟨fun _ => .inl ⟨rfl, rfl⟩, nofun⟩

theorem isTold_lowered {reason : DownReason} (hreason : reason ≠ .default) :
    (s.lowered reason).IsTold :=
  ⟨fun _ => .inr ⟨hreason, rfl⟩, nofun⟩

theorem isTold_raised {reason : UpReason} (hdown : s.isDown = true)
    (hreason : reason = .firstRecoveryCompleted ∨ reason = .returnedFromInactivity) :
    (s.raised reason).IsTold := by
  refine ⟨nofun, fun _ => ⟨by simp [raised, hdown], ?_⟩⟩
  rcases hreason with rfl | rfl
  · exact .inl rfl
  · exact .inr rfl

theorem state_of_lowered {reason : DownReason} {state : RecoveryState}
    (h : (s.lowered reason).state = state) (hstate : state ≠ .interrupted) : s.state = state := by
  dsimp only [lowered] at h
  split at h
  · exact absurd h.symm hstate
  · exact h

-- To go down interrupts a started recovery, or leaves the state as it was.
theorem IsSound.lowered {rest : Option Rest} (h : s.IsSound none) {reason : DownReason}
    (hreason : reason ≠ .default) : (s.lowered reason).IsSound rest where
  inProgress _ := rfl
  state := by
    dsimp only [Standing.lowered]
    split
    · exact .inr (.inr (.inl rfl))
    · exact h.state
  completed hstate := h.completed (state_of_lowered hstate nofun)
  asked _ _ _ := rfl
  told := isTold_lowered hreason

-- Of the states in which the last recovery is no longer awaited only an interrupted one
-- is reached.
theorem IsSound.state_of_not_isRecovering {rest : Option Rest} (h : s.IsSound rest)
    (hstate : Visit.isRecovering s.state = false) : s.state = .interrupted := by
  obtain hs | hs | hs | hs := h.state
  · rw [hs] at hstate
    exact absurd hstate nofun
  · rw [hs] at hstate
    exact absurd hstate nofun
  · exact hs
  · rw [hs] at hstate
    exact absurd hstate nofun

theorem IsSound.turned {sc : Scene} {x : Tracked} {v : Visit} {pause : Pause} {s' : Standing}
    (h : x.standing.IsSound none) (ht : Turned sc x v pause s') :
    s'.IsSound (some pause.rest) := by
  cases ht with
  | quiet hrest =>
    refine ⟨h.inProgress, h.state, h.completed, ?_, h.told⟩
    intro anchor alive hclaim
    obtain hdone | ⟨request, hevent⟩ := hrest
    · exact absurd (hdone.symm.trans (Option.some.inj hclaim)) nofun
    · exact absurd (hevent.symm.trans (Option.some.inj hclaim)) nofun
  | asking hask =>
    refine ⟨h.inProgress, h.state, h.completed, fun _ _ _ => ?_, h.told⟩
    obtain hdown | hstate := hask
    · exact hdown
    · have hinterrupted := h.state_of_not_isRecovering hstate
      exact h.inProgress (by rw [hinterrupted]; rfl)
  | checking => exact ⟨h.inProgress, h.state, h.completed, nofun, h.told⟩
  | cutOff => exact h.lowered nofun
  | returned _ _ _ hback =>
    obtain ⟨hdown, hidle, -, -⟩ := isBack_iff.mp hback
    refine ⟨fun hprogress => ?_, h.state, h.completed, nofun, isTold_raised hdown (.inr rfl)⟩
    exact absurd (hidle.symm.trans hprogress) nofun
  | completed _ hstate hreason =>
    have hdown : x.isDown = true := h.inProgress (by rw [Tracked.standing_state, hstate]; rfl)
    refine ⟨nofun, .inr (.inr (.inr rfl)), fun _ => rfl, nofun, isTold_raised hdown ?_⟩
    split at hreason
    · exact .inr hreason
    · exact .inl hreason
  | silent => exact h.lowered nofun
  | delayed => exact h.lowered nofun

theorem IsSound.keptIf {rest : Option Rest} (h : s.IsSound rest) (alive : Option Stamp) :
    (s.keptIf alive).IsSound rest := by
  cases alive with
  | none => exact h
  | some stamp => exact ⟨h.inProgress, h.state, h.completed, h.asked, h.told.down, h.told.up⟩

theorem IsSound.released {rest : Option Rest} (h : s.IsSound rest) : s.IsSound none :=
  ⟨h.inProgress, h.state, h.completed, nofun, h.told⟩

theorem IsSound.claimed (h : s.IsSound none) (hdown : s.isDown = true) (request : RequestId)
    (now : Instant) : (s.claimed request now).IsSound none :=
  ⟨fun _ => hdown, .inr (.inl rfl), nofun, nofun, h.told.down, h.told.up⟩

-- Recoveries are only claimed for producers that are down.
theorem IsSound.isDown_of_claimed {sc : Scene} {x : Tracked} {rest : Rest} {anchor : Instant}
    {alive : Option Stamp} (h : x.standing.IsSound (some rest))
    (hrest : rest = .claim anchor alive ∨
      ∃ stamp, alive = some stamp ∧ rest = .ensureRecovery anchor stamp ∧
        (x.isUnattended = true ∨ sc.isStuck x = true)) : x.isDown = true := by
  obtain rfl | ⟨stamp, -, -, hmissing | hstuck⟩ := hrest
  · exact h.asked _ _ rfl
  · simp only [Tracked.isUnattended, Bool.and_eq_true] at hmissing
    exact hmissing.1.1
  · simp only [Scene.isStuck, Bool.and_eq_true] at hstuck
    exact h.inProgress hstuck.1

theorem IsSound.settled {sc : Scene} {x : Tracked} {ids : RequestIds} {rest : Rest}
    {c : Option Claim} {s' : Standing} (h : x.standing.IsSound (some rest))
    (hs : Settled sc x ids rest c s') : s'.IsSound none := by
  cases hs with
  | quiet => exact h.released
  | kept => exact h.released.keptIf (some _)
  | attended => exact h.released.keptIf (some _)
  | claimed hrest =>
    have hdown : x.standing.isDown = true := h.isDown_of_claimed hrest
    exact (h.released.claimed hdown _ _).keptIf _

end Standing

theorem Run.isSound {w₀ w : World} {past : List Step} {id : ProducerId} (h : Run w₀ past w)
    (hstart : w₀.IsJustOpened) (hread : (w₀.tracked id).IsReadable) (hopen : w.isOpen = true) :
    (w.tracked id).standing.IsSound (w.held[id]?.map Pause.rest) := by
  obtain ⟨-, -, hheld, -⟩ := hstart.eq
  apply h.of_isOpen hstart hread (fun _ _ => trivial) hopen
  · rw [hstart.standing, hheld]
    simpa using Standing.isSound_fresh
  · intro past w a w' _ _ _ _ _ hshifted hsound
    cases hshifted with
    | visited hfree hheld hturned =>
      rw [hfree] at hsound
      rw [hheld]
      exact hsound.turned hturned
    | settled hheld hfree _ hsettled =>
      rw [hheld] at hsound
      rw [hfree]
      exact hsound.settled hsettled
    | aside _ _ hheld hstanding =>
      rw [hheld, hstanding]
      exact hsound

end FeedWatch
