import FeedWatch.Proofs.Timely

namespace FeedWatch

namespace Step

-- A subscribed alive finds a producer that is down for a delay which is over. No recovery
-- is under way, and none has ever completed.
def IsEarlyReturn (s : Step) (id : ProducerId) : Prop :=
  ∃ stamp, s.act = .visit id (.alive stamp true .systemAliveOnly) ∧ stamp.received ≠ 0 ∧
    (s.before.tracked id).isEnabled = true ∧ (s.before.tracked id).IsReadable ∧
    s.before.scene.isBack (s.before.tracked id) = true ∧
    (s.before.tracked id).tracker.firstRecoveryCompleted = false

end Step

-- The producer is down, or its first recovery has completed.
def World.AwaitsFirst (w : World) (id : ProducerId) : Prop :=
  (w.tracked id).isDown = false → (w.tracked id).tracker.firstRecoveryCompleted = true

theorem Claimed.flag {sc : Scene} {x y : Tracked} {ids ids' : RequestIds} {anchor : Instant}
    {alive : Option Stamp} {c : Option Claim} (h : Claimed sc x ids anchor alive c y ids') :
    y.isDown = x.isDown ∧
      y.tracker.firstRecoveryCompleted = x.tracker.firstRecoveryCompleted := by
  have hkept (z : Tracked) (alive : Option Stamp) : (z.keptIf alive).isDown = z.isDown ∧
      (z.keptIf alive).tracker.firstRecoveryCompleted = z.tracker.firstRecoveryCompleted := by
    cases alive with
    | none => exact ⟨rfl, rfl⟩
    | some stamp => exact ⟨Tracked.isDown_kept stamp, rfl⟩
  cases h with
  | shut => exact hkept x alive
  | lost => exact ⟨rfl, rfl⟩
  | made => exact hkept _ alive

-- The rest of a visit leaves the flag alone.
theorem Finished.flag {sc : Scene} {x y : Tracked} {ids ids' : RequestIds} {rest : Rest}
    {c : Option Claim} (h : Finished sc x ids rest c y ids') :
    y.isDown = x.isDown ∧
      y.tracker.firstRecoveryCompleted = x.tracker.firstRecoveryCompleted := by
  cases h with
  | done => exact ⟨rfl, rfl⟩
  | keepAlive stamp => exact ⟨Tracked.isDown_kept stamp, rfl⟩
  | eventDone => exact ⟨rfl, rfl⟩
  | claim hclaim => exact hclaim.flag
  | attended => exact ⟨Tracked.isDown_kept _, rfl⟩
  | missing _ hclaim => exact hclaim.flag
  | stuck _ hclaim => exact hclaim.flag

namespace Run

variable {w₀ w w' : World} {past : List Step} {a : Act} {id : ProducerId}

theorem of_mem (h : Run w₀ past w) {s : Step} (hs : s ∈ past) :
    ∃ earlier, Run w₀ earlier s.before ∧ s.before.step s.act = some s.after := by
  induction h with
  | start => exact absurd hs List.not_mem_nil
  | step hrun hstep ih =>
    obtain rfl | hs := List.mem_cons.mp hs
    · exact ⟨_, hrun, hstep⟩
    · exact ih hs

-- An early return brings the producer up, and starts no recovery.
theorem up_of_isEarlyReturn (h : Run w₀ past w) (hvalid : w₀.IsValid)
    (hstep : w.step a = some w') (hearly : Step.IsEarlyReturn ⟨w, a, w'⟩ id) :
    ¬w'.AwaitsFirst id := by
  obtain ⟨stamp, hact, hreceived, henabled, hread, hback, hlatch⟩ := hearly
  dsimp only at hact henabled hread hback hlatch
  subst hact
  obtain ⟨pause, hheld, hrest⟩ := World.held_of_step_alive hstep henabled hread hreceived
  cases h.moved hvalid hstep id with
  | touched hvisit => exact absurd rfl (hvisit _)
  | visited _ hpause hvisit =>
    rw [Option.some.inj (hheld.symm.trans hpause)] at hrest
    generalize hy : w'.tracked id = y at hvisit
    cases hvisit with
    | idle => exact absurd rfl hrest
    | userAlive _ hinterest => exact absurd rfl hinterest
    | unreadable => exact absurd rfl hrest
    | subscribed _ _ _ hno => exact absurd (hno.symm.trans hback) nofun
    | calledOff _ _ _ hno => exact absurd (hno.symm.trans hback) nofun
    | returned =>
      have hx := (Tracked.isEnabled_messaged stamp.received).trans henabled
      intro hawaits
      have hcompleted : (w'.tracked id).tracker.firstRecoveryCompleted = true := by
        refine hawaits ?_
        rw [hy]
        exact Tracked.isDown_raised hx
      rw [hy] at hcompleted
      exact absurd (hlatch.symm.trans hcompleted) nofun

-- Any other step keeps a producer down until its first recovery has completed.
theorem awaitsFirst_step (h : Run w₀ past w) (hvalid : w₀.IsValid) (hstep : w.step a = some w')
    (hawaits : w.AwaitsFirst id) (hearly : ¬Step.IsEarlyReturn ⟨w, a, w'⟩ id) :
    w'.AwaitsFirst id := by
  have hsame (hdown : (w'.tracked id).isDown = (w.tracked id).isDown)
      (hlatch : (w'.tracked id).tracker.firstRecoveryCompleted =
        (w.tracked id).tracker.firstRecoveryCompleted) : w'.AwaitsFirst id :=
    fun hup => hlatch.trans (hawaits (hdown.symm.trans hup))
  have hstanding (hs : (w'.tracked id).standing = (w.tracked id).standing) : w'.AwaitsFirst id :=
    hsame (congrArg Standing.isDown hs) (congrArg Standing.firstRecoveryCompleted hs)
  cases h.moved hvalid hstep id with
  | touched _ _ _ htouched => exact hstanding htouched.standing
  | settled _ _ _ hfinish => exact hsame hfinish.flag.1 hfinish.flag.2
  | visited _ _ hvisit =>
    have hturned := hvisit.turned
    generalize hs : (w'.tracked id).standing = s at hturned
    have hdown : (w'.tracked id).isDown = s.isDown := congrArg Standing.isDown hs
    have hlatch : (w'.tracked id).tracker.firstRecoveryCompleted = s.firstRecoveryCompleted :=
      congrArg Standing.firstRecoveryCompleted hs
    cases hturned with
    | quiet => exact hstanding hs
    | asking => exact hstanding hs
    | checking => exact hstanding hs
    | cutOff => exact fun hup => absurd (hup.symm.trans hdown) nofun
    | silent => exact fun hup => absurd (hup.symm.trans hdown) nofun
    | delayed => exact fun hup => absurd (hup.symm.trans hdown) nofun
    | completed => exact fun _ => hlatch
    | @returned stamp _ henabled hreceived hread hback =>
      intro _
      cases hfirst : (w.tracked id).tracker.firstRecoveryCompleted with
      | true => exact hlatch.trans hfirst
      | false =>
        exact absurd ⟨stamp, rfl, hreceived, henabled, hread, hback, hfirst⟩ hearly

-- There are no early returns while a manager is open that was opened before anything else,
-- if the clock reads more than the inactivity limit.
theorem awaitsFirst_of_isOpen (h : Run w₀ past w) (hstart : w₀.IsJustOpened)
    (hread : (w₀.tracked id).IsReadable) (hlate : ∀ s ∈ past, s.before.IsLate)
    (hopen : w.isOpen = true) : w.AwaitsFirst id := by
  intro hup
  have hsound := h.isSound hstart hread hopen
  have hnot (hdown : (w.tracked id).standing.isDown = true) :
      (w.tracked id).tracker.firstRecoveryCompleted = true := absurd (hup.symm.trans hdown) nofun
  obtain hs | hs | hs | hs := hsound.state
  · exact hnot ((h.isTimely hstart hread hlate hopen).unclaimed hs).1
  · exact hnot (hsound.inProgress (by rw [hs]; rfl))
  · exact hnot (hsound.inProgress (by rw [hs]; rfl))
  · exact hsound.completed hs

-- Every producer is down until its first recovery completes, but for early returns.
theorem awaitsFirst_iff (h : Run w₀ past w) (hstart : w₀.IsFresh) (id : ProducerId) :
    (w₀.AwaitsFirst id ∧ ∀ s ∈ past, s.after.AwaitsFirst id) ↔
      ∀ s ∈ past, ¬s.IsEarlyReturn id := by
  have hvalid := hstart.isValid
  constructor
  · rintro ⟨-, hall⟩ s hs hearly
    obtain ⟨earlier, hrun, hstep⟩ := h.of_mem hs
    exact hrun.up_of_isEarlyReturn hvalid hstep hearly (hall s hs)
  · intro hnone
    have hfresh : w₀.AwaitsFirst id := by
      have hdown : (w₀.tracked id).isDown = true := congrArg Standing.isDown (hstart.standing id)
      exact fun hup => absurd (hup.symm.trans hdown) nofun
    suffices hend : w.AwaitsFirst id ∧ ∀ s ∈ past, s.after.AwaitsFirst id from ⟨hfresh, hend.2⟩
    induction h with
    | start => exact ⟨hfresh, fun _ hs => absurd hs List.not_mem_nil⟩
    | step hrun hstep ih =>
      obtain ⟨hearly, hnone⟩ := List.forall_mem_cons.mp hnone
      obtain ⟨hbefore, hall⟩ := ih hnone
      have hafter := hrun.awaitsFirst_step hvalid hstep hbefore hearly
      exact ⟨hafter, List.forall_mem_cons.mpr ⟨hafter, hall⟩⟩

-- An alive and a health check come before the manager is opened.
def earlyActs : List Act :=
  [.visit ⟨1⟩ (.alive (.uniform 600000) true .systemAliveOnly), .settle ⟨1⟩,
    .visit ⟨1⟩ .healthCheck, .settle ⟨1⟩, .start,
    .visit ⟨1⟩ (.messageEnded 600000), .settle ⟨1⟩,
    .visit ⟨1⟩ (.alive (.uniform 600000) true .all), .settle ⟨1⟩,
    .visit ⟨1⟩ (.alive (.uniform 600000) true .systemAliveOnly)]

theorem up_before_first_recovery : ∃ past w, Run World.ofLiveOdds past w ∧ w.isOpen = true ∧
    ¬(World.ofLiveOdds.AwaitsFirst ⟨1⟩ ∧ ∀ s ∈ past, s.after.AwaitsFirst ⟨1⟩) := by
  have hrun : Run World.ofLiveOdds _ _ := Run.start.play earlyActs
  have hpast : (World.ofLiveOdds.play [] earlyActs).1 = _ :: _ := rfl
  refine ⟨_, _, hrun, rfl, fun hall => ?_⟩
  have hnone := (hrun.awaitsFirst_iff World.isFresh_ofLiveOdds ⟨1⟩).mp hall
  refine hnone _ (hpast ▸ List.mem_cons_self) ⟨.uniform 600000, rfl, ?_, rfl, ⟨_, rfl⟩, rfl, rfl⟩
  decide

end Run

end FeedWatch
