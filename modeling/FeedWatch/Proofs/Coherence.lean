import FeedWatch.Proofs.Replays

namespace FeedWatch

structure Tracked.IsCoherent (x : Tracked) : Prop where
  -- a recovery that is under way has a record, and its producer is down
  underWay : x.tracker.state = .started ∨ x.tracker.state = .interrupted →
    x.isDown = true ∧ ∃ replay, x.tracker.current = some replay
  reason : x.tracker.downReason ≠ .default → x.isDown = true
  completed : x.tracker.state = .completed → x.tracker.firstRecoveryCompleted = true
  entered : ∀ (request : RequestId) (replay : EventReplay),
    x.tracker.events[request]? = some replay → replay.request = request

-- The part of it that the standing of a producer shows.
structure Standing.IsCoherent (s : Standing) : Prop where
  reason : s.downReason ≠ .default → s.isDown = true
  completed : s.state = .completed → s.firstRecoveryCompleted = true

namespace Standing.IsCoherent

variable {s : Standing}

theorem fresh : Standing.fresh.IsCoherent := ⟨fun h => absurd rfl h, nofun⟩

theorem lowered (h : s.IsCoherent) (reason : DownReason) : (s.lowered reason).IsCoherent where
  reason _ := rfl
  completed hstate := h.completed (state_of_lowered hstate nofun)

-- To come up takes the reason away, which only a producer that is down has.
theorem raised (h : s.IsCoherent) (reason : UpReason) : (s.raised reason).IsCoherent where
  reason hreason := by
    simp only [Standing.raised] at hreason
    split at hreason <;> rename_i hdown
    · exact absurd rfl hreason
    · exact absurd (h.reason hreason) hdown
  completed := h.completed

theorem recovered (h : s.IsCoherent) : s.recovered.IsCoherent := ⟨h.reason, fun _ => rfl⟩

theorem keptIf (h : s.IsCoherent) (alive : Option Stamp) : (s.keptIf alive).IsCoherent := by
  cases alive with
  | none => exact h
  | some stamp => exact ⟨h.reason, h.completed⟩

theorem claimed (h : s.IsCoherent) (request : RequestId) (now : Instant) :
    (s.claimed request now).IsCoherent := ⟨h.reason, nofun⟩

theorem givenUp (h : s.IsCoherent) : s.givenUp.IsCoherent := ⟨h.reason, nofun⟩

theorem turned {sc : Scene} {x : Tracked} {v : Visit} {pause : Pause} {s' : Standing}
    (h : x.standing.IsCoherent) (ht : Turned sc x v pause s') : s'.IsCoherent := by
  cases ht with
  | quiet => exact h
  | asking => exact h
  | checking => exact h
  | cutOff => exact h.lowered _
  | returned => exact h.raised _
  | completed => exact h.recovered.raised _
  | silent => exact h.lowered _
  | delayed => exact h.lowered _

theorem ended {sc : Scene} {x : Tracked} {ids ids' : RequestIds} {rest : Rest} {c : Option Claim}
    {s' : Standing} (h : x.standing.IsCoherent) (he : Ended sc x ids rest c s' ids') :
    s'.IsCoherent := by
  cases he with
  | kept => exact h.keptIf _
  | claimed => exact (h.claimed _ _).keptIf _
  | givenUp => exact h.givenUp.keptIf _

end Standing.IsCoherent

-- A first recovery stays completed.
theorem Turned.firstRecoveryCompleted {sc : Scene} {x : Tracked} {v : Visit} {pause : Pause}
    {s : Standing} (h : Turned sc x v pause s) (hx : x.tracker.firstRecoveryCompleted = true) :
    s.firstRecoveryCompleted = true := by
  cases h with
  | completed => rfl
  | _ => exact hx

theorem Ended.firstRecoveryCompleted {sc : Scene} {x : Tracked} {ids ids' : RequestIds}
    {rest : Rest} {c : Option Claim} {s : Standing} (h : Ended sc x ids rest c s ids') :
    s.firstRecoveryCompleted = x.tracker.firstRecoveryCompleted := by
  cases h with
  | @kept _ alive => cases alive <;> rfl
  | @claimed _ alive => cases alive <;> rfl
  | @givenUp _ _ alive => cases alive <;> rfl

namespace Run

variable {w₀ w w' : World} {past : List Step} {a : Act} {id : ProducerId}

theorem isCoherent_standing (h : Run w₀ past w) (hstart : w₀.IsFresh) (id : ProducerId) :
    (w.tracked id).standing.IsCoherent := by
  induction h with
  | start => exact hstart.standing id ▸ .fresh
  | step hrun hstep ih =>
    cases hrun.moved hstart.isValid hstep id with
    | visited _ _ hvisit => exact ih.turned hvisit.turned
    | settled _ _ _ hfinish => exact ih.ended hfinish.ended
    | touched _ _ _ htouched => exact htouched.standing ▸ ih

theorem firstRecoveryCompleted_step (h : Run w₀ past w) (hvalid : w₀.IsValid)
    (hstep : w.step a = some w')
    (hfirst : (w.tracked id).tracker.firstRecoveryCompleted = true) :
    (w'.tracked id).tracker.firstRecoveryCompleted = true := by
  cases h.moved hvalid hstep id with
  | visited _ _ hvisit => exact hvisit.turned.firstRecoveryCompleted hfirst
  | settled _ _ _ hfinish => exact hfinish.ended.firstRecoveryCompleted.trans hfirst
  | touched _ _ _ htouched =>
    exact (congrArg Standing.firstRecoveryCompleted htouched.standing).trans hfirst

theorem request_of_entered (h : Run w₀ past w) (hstart : w₀.IsFresh) {request : RequestId}
    {replay : EventReplay} (hreplay : (w.tracked id).tracker.eventReplay? request = some replay) :
    replay.request = request := by
  induction h generalizing replay with
  | start =>
    rw [(hstart.listing id).1] at hreplay
    exact absurd (Std.ExtTreeMap.getElem?_empty.symm.trans hreplay) nofun
  | step hrun hstep ih =>
    cases hrun.moved hstart.isValid hstep id with
    | visited _ _ hvisit =>
      obtain hbefore | ⟨replay', interest, hbefore, -, -, -, rfl⟩ := hvisit.eventReplay? hreplay
      · exact ih hbefore
      · have hrequest : replay'.request = request := ih hbefore
        exact hrequest
    | settled _ _ _ hfinish => exact ih (hfinish.eventReplay? hreplay)
    | touched hvisit hsettle =>
      obtain hbefore | ⟨kind, event, -, -, rfl⟩ :=
        World.eventReplay?_of_aside hstep hvisit hsettle hreplay
      · exact ih hbefore
      · rfl

-- After every act, whatever the phase, the clock and the answers of the API: a recovery that
-- is under way keeps its producer down and has a record, a reason is kept only of a producer
-- that is down, a completed recovery is a first one at the least, which stays so, and every
-- replay of an event is entered under its own request.
theorem isCoherent (h : Run w₀ past w) (hstart : w₀.IsFresh) (id : ProducerId) :
    (w.tracked id).IsCoherent ∧
      ∀ s ∈ past, (s.before.tracked id).tracker.firstRecoveryCompleted = true →
        (w.tracked id).tracker.firstRecoveryCompleted = true := by
  constructor
  · have horderly := h.isOrderly hstart id
    have hcoherent := h.isCoherent_standing hstart id
    refine ⟨fun hstate => ?_, hcoherent.reason, hcoherent.completed, ?_⟩
    · have hprogress : (w.tracked id).standing.state.isInProgress = true :=
        RecoveryState.isInProgress_iff.mpr hstate
      have hdefault : (w.tracked id).standing.state ≠ .default := by
        intro hdefault
        rw [hdefault] at hprogress
        exact absurd hprogress nofun
      obtain ⟨request, startedAt, hcurrent⟩ := horderly.current hdefault
      obtain ⟨replay, hreplay, -⟩ := Option.map_eq_some_iff.mp hcurrent
      exact ⟨horderly.inProgress hprogress, replay, hreplay⟩
    · intro request replay hreplay
      exact h.request_of_entered hstart hreplay
  · induction h with
    | start => exact fun _ hs => absurd hs List.not_mem_nil
    | step hrun hstep ih =>
      intro s hs hfirst
      obtain rfl | hs := List.mem_cons.mp hs
      · exact hrun.firstRecoveryCompleted_step hstart.isValid hstep hfirst
      · exact hrun.firstRecoveryCompleted_step hstart.isValid hstep (ih s hs hfirst)

-- A recovery is interrupted, and then the replay of a match is asked for.
def interruptedEventActs : List Act :=
  interruptedActs.take 6 ++
    [.requestEvent .odds ⟨1⟩ (.ofMatch 7), .enterEvent ⟨.odds, ⟨1⟩, .ofMatch 7, ⟨2⟩⟩]

theorem interrupted_is_coherent : ∃ past w, Run World.ofLiveOdds past w ∧
    (w.tracked ⟨1⟩).tracker.state = .interrupted ∧ ⟨2⟩ ∈ (w.tracked ⟨1⟩).tracker.events ∧
    (w.tracked ⟨1⟩).IsCoherent := by
  have hrun : Run World.ofLiveOdds _ _ := Run.start.play interruptedEventActs
  obtain ⟨hcoherent, -⟩ := hrun.isCoherent World.isFresh_ofLiveOdds ⟨1⟩
  exact ⟨_, _, hrun, rfl, by decide +kernel, hcoherent⟩

end Run

end FeedWatch
