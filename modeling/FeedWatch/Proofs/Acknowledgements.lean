import FeedWatch.Proofs.Anchors
import FeedWatch.Proofs.EventReplays
import FeedWatch.Proofs.Replays

namespace FeedWatch

-- An end of a replay reaches an enabled producer at which the replay is in flight.
structure Step.Answers (s : Step) (id : ProducerId) (purpose : Purpose) (request : RequestId)
    (interest : Interest) : Prop where
  act : s.act = .visit id (.replayEnded request interest)
  enabled : (s.before.tracked id).isEnabled = true
  inFlight : s.before.InFlight id purpose request

namespace Tracked

-- The interests under which ends of a replay were noted with it.
def noted (x : Tracked) (request : RequestId) : Purpose → List Interest
  | .recovery => (x.tracker.current.map Replay.acknowledged).getD []
  | .event => ((x.tracker.eventReplay? request).map fun replay => replay.acknowledged).getD []

-- Whether an end of a replay completes it, and the producer with that end noted.
def answered (x : Tracked) (request : RequestId) (interest : Interest) : Purpose → Bool × Tracked
  | .recovery => x.recoveryAnswered Outage.none request interest
  | .event => x.eventAnswered Outage.none request interest

end Tracked

-- What comes of an end of a replay that is in flight.
inductive Answered (sc : Scene) (x : Tracked) (request : RequestId) (interest : Interest) :
    Purpose → Pause → Tracked → Prop where
  | waits {purpose : Purpose} (hpart : (x.answered request interest purpose).1 = false) :
      Answered sc x request interest purpose {} (x.answered request interest purpose).2
  | resumed (hall : (x.answered request interest .recovery).1 = true)
      (hstate : x.tracker.state = .interrupted) :
      Answered sc x request interest .recovery { rest := .claim x.tracker.resumeFrom none }
        (x.answered request interest .recovery).2
  | completed {reason : UpReason} {n : Option Notification}
      (hall : (x.answered request interest .recovery).1 = true)
      (hstate : x.tracker.state = .started) :
      Answered sc x request interest .recovery { notification := n }
        (((x.answered request interest .recovery).2.recovered request).raised.told reason.status)
  | reported {p : Producer} {event : Urn} (hall : (x.answered request interest .event).1 = true)
      (hp : x.producer Outage.none = .ok p) (hevent : x.eventOf? request = some event) :
      Answered sc x request interest .event
        { notification := if sc.isOpen then some (.eventReplayed {
            producer := p, stamp := .uniform sc.now, event, request }) else none
          rest := .eventDone request }
        (x.answered request interest .event).2

section Handling

variable {sc : Scene} {x : Tracked} {ids : RequestIds} {request : RequestId} {interest : Interest}

theorem mem_everyInterest (interest : Interest) : interest ∈ Interest.everyInterest := by
  cases interest <;> decide

theorem Replay.mem_acknowledge {r : Replay} {i : Interest} :
    i ∈ (r.acknowledge interest).acknowledged ↔ i = interest ∨ i ∈ r.acknowledged := by
  simp [acknowledge, mem_everyInterest]

theorem Scope.allAcknowledged_iff {scopes : List Scope} {acknowledged : List Interest} :
    allAcknowledged scopes acknowledged = true ↔
      ∀ scope ∈ scopes, ∃ i ∈ acknowledged, i.scope? = some scope := by
  simp [allAcknowledged]

theorem Visit.recoveryOver_run (hmem : sc.outage = Outage.none) (hx : x.isEnabled = true)
    (hread : x.IsReadable) (hstarted : x.tracker.startedAt ≠ 0) (request : RequestId)
    (ids : RequestIds) : ∃ reason : UpReason, recoveryOver request sc ⟨x, ids⟩ =
      if x.tracker.state = .interrupted then .ok { rest := .claim x.tracker.resumeFrom none } ⟨x, ids⟩
      else .ok { notification := sc.notice (x.recovered request).raised reason.status }
        ⟨(x.recovered request).raised.told reason.status, ids⟩ := by
  have hrecovered : (x.recovered request).isEnabled = true := hx
  obtain ⟨p, hp⟩ : ((x.recovered request).raised).IsReadable :=
    Tracked.isReadable_raised.mpr hread
  refine ⟨if x.tracker.firstRecoveryCompleted then .returnedFromInactivity
    else .firstRecoveryCompleted, ?_⟩
  simp only [recoveryOver, Handler.bind_run, Handler.producerId_run, Handler.tracker_run,
    if_neg hstarted, Handler.ite_run, Handler.pure_run, Handler.track_run]
  split
  · rfl
  · have hrun (reason : UpReason) : Handler.bringUp reason sc ⟨x.recovered request, ids⟩ =
        .ok (sc.notice (x.recovered request).raised reason.status)
          ⟨(x.recovered request).raised.told reason.status, ids⟩ := by
      rw [Handler.bringUp_run hmem hrecovered, Handler.tell_run (hmem ▸ hp)]
    simp only [Tracked.recovered] at hrun ⊢
    rw [hrun]

-- What a recovery waits for, once this end of it is seen.
theorem Tracked.recoveryAnswered_run (outage : Outage) {replay : Replay}
    (hcurrent : x.tracker.current = some replay)
    (hprogress : x.tracker.state.isInProgress = true) :
    x.recoveryAnswered outage replay.request interest =
      if interest.isScopeLimited = false then (true, x)
      else (x.scopesAcknowledged outage (replay.acknowledge interest).acknowledged,
        x.mapTracker ({ · with current := some (replay.acknowledge interest) })) := by
  simp only [recoveryAnswered, hcurrent, Tracker.isPerformingRecovery, hprogress, Bool.not_true,
    bne_self_eq_false, Bool.or_self, Bool.false_eq_true, if_false, Bool.not_eq_true']
  rfl

theorem Tracked.eventAnswered_run (outage : Outage) {replay : EventReplay}
    (hreplay : x.tracker.eventReplay? request = some replay) :
    x.eventAnswered outage request interest =
      if interest.isScopeLimited = false then (true, x)
      else (x.scopesAcknowledged outage (replay.acknowledge interest).acknowledged,
        x.mapTracker fun t =>
          { t with events := t.events.insert request (replay.acknowledge interest) }) := by
  simp only [eventAnswered, hreplay, Bool.not_eq_true']
  rfl

theorem Tracked.scopesAcknowledged_run {outage : Outage} {p : Producer}
    (hp : x.producer outage = .ok p) (acknowledged : List Interest) :
    x.scopesAcknowledged outage acknowledged = Scope.allAcknowledged p.scopes acknowledged := by
  simp only [scopesAcknowledged, hp]

-- The end of a recovery that is under way, under a request that no event's replay has.
theorem Visit.replayEnd_of_recovery (hmem : sc.outage = Outage.none) (hx : x.isEnabled = true)
    (hread : x.IsReadable) (hevent : request ∉ x.tracker.events)
    (hprogress : x.tracker.state.isInProgress = true)
    (hcurrent : x.tracker.currentRequest = some request) (hstarted : x.tracker.startedAt ≠ 0)
    (ids : RequestIds) :
    ∃ pause y, replayEnd request interest sc ⟨x, ids⟩ = .ok pause ⟨y, ids⟩ ∧
      Answered sc x request interest .recovery pause y := by
  have hknown : x.tracker.knows request = true := by simp [Tracker.knows, hcurrent]
  rw [replayEnd_run ids hmem hx hknown interest, Tracked.eventAnswered_of_not_mem hevent]
  dsimp only
  rw [if_neg Bool.false_ne_true]
  cases hall : (x.recoveryAnswered Outage.none request interest).1 with
  | false => exact ⟨_, _, if_neg Bool.false_ne_true, .waits hall⟩
  | true =>
    obtain ⟨current, hy, hsame⟩ := x.recoveryAnswered_eq Outage.none request interest
    have hstate : (x.recoveryAnswered Outage.none request interest).2.tracker.state =
        x.tracker.state := hy ▸ rfl
    have hresume : (x.recoveryAnswered Outage.none request interest).2.tracker.resumeFrom =
        x.tracker.resumeFrom := hy ▸ rfl
    have henabled : (x.recoveryAnswered Outage.none request interest).2.isEnabled = true := by
      rw [hy]
      exact hx
    have hreadable : (x.recoveryAnswered Outage.none request interest).2.IsReadable := by
      rw [hy]
      exact hread
    have hstarted' :
        (x.recoveryAnswered Outage.none request interest).2.tracker.startedAt ≠ 0 := by
      have hstanding : (x.recoveryAnswered Outage.none request interest).2.standing =
          x.standing := by
        rw [hy]
        simp only [Tracked.standing, Tracked.mapTracker_tracker, Tracked.isDown_mapTracker, hsame]
      rw [← Standing.startedAt_standing, hstanding, Standing.startedAt_standing]
      exact hstarted
    obtain ⟨reason, hover⟩ := recoveryOver_run hmem henabled hreadable hstarted'
      request ids
    rw [if_pos rfl, hover, hstate, hresume]
    split <;> rename_i hinterrupted
    · exact ⟨_, _, rfl, .resumed hall hinterrupted⟩
    · refine ⟨_, _, rfl, .completed hall ?_⟩
      exact (RecoveryState.isInProgress_iff.mp hprogress).resolve_right hinterrupted

theorem Visit.replayEnd_of_event (hmem : sc.outage = Outage.none) (hx : x.isEnabled = true)
    (hread : x.IsReadable) {event : Urn} (hevent : x.eventOf? request = some event)
    (hrecovery : ¬(x.tracker.state.isInProgress = true ∧
      x.tracker.currentRequest = some request)) (ids : RequestIds) :
    ∃ pause y, replayEnd request interest sc ⟨x, ids⟩ = .ok pause ⟨y, ids⟩ ∧
      Answered sc x request interest .event pause y := by
  obtain ⟨p, hp⟩ := hread
  cases hall : (x.eventAnswered Outage.none request interest).1 with
  | true => exact ⟨_, _, replayEnd_of_answered ids hmem hx hp hevent hall, .reported hall hp hevent⟩
  | false =>
    have hknown : x.tracker.knows request = true := by
      simp [Tracker.knows, Tracked.mem_events_iff.mpr ⟨event, hevent⟩]
    obtain ⟨events, hy⟩ := x.eventAnswered_eq Outage.none request interest
    have hrecovery' : ¬((x.eventAnswered Outage.none request interest).2.tracker.state.isInProgress =
        true ∧ (x.eventAnswered Outage.none request interest).2.tracker.currentRequest =
          some request) := by
      rw [hy]
      exact hrecovery
    refine ⟨{}, _, ?_, .waits hall⟩
    rw [replayEnd_run ids hmem hx hknown interest]
    dsimp only
    rw [hall, Tracked.recoveryAnswered_of_not_current hrecovery']
    rfl

end Handling

namespace World

variable {w w' : World} {id : ProducerId} {purpose : Purpose} {request : RequestId}
  {interest : Interest}

-- The end of a replay completes it if it is not limited to a scope, or if with it there is
-- one noted for each scope.
theorem answered_iff (hflight : w.InFlight id purpose request) {p : Producer}
    (hp : (w.tracked id).producer Outage.none = .ok p) :
    ((w.tracked id).answered request interest purpose).1 = true ↔
      interest.isScopeLimited = false ∨ ∀ scope ∈ p.scopes,
        ∃ i, (i = interest ∨ i ∈ (w.tracked id).noted request purpose) ∧ i.scope? = some scope := by
  have hcovers {r : Replay} (hnoted : (w.tracked id).noted request purpose = r.acknowledged) :
      Scope.allAcknowledged p.scopes (r.acknowledge interest).acknowledged = true ↔
        ∀ scope ∈ p.scopes,
          ∃ i, (i = interest ∨ i ∈ (w.tracked id).noted request purpose) ∧
            i.scope? = some scope := by
    simp only [Scope.allAcknowledged_iff, Replay.mem_acknowledge, hnoted]
  cases purpose with
  | recovery =>
    obtain ⟨hprogress, hrequest⟩ := hflight
    obtain ⟨replay, hcurrent, rfl⟩ := Option.map_eq_some_iff.mp hrequest
    have hnoted : (w.tracked id).noted replay.request .recovery = replay.acknowledged := by
      simp only [Tracked.noted, hcurrent, Option.map_some, Option.getD_some]
    rw [Tracked.answered, Tracked.recoveryAnswered_run _ hcurrent hprogress]
    split <;> rename_i hlimited
    · exact iff_of_true rfl (.inl hlimited)
    · rw [Tracked.scopesAcknowledged_run hp, hcovers hnoted, or_iff_right hlimited]
  | event =>
    obtain ⟨replay, hreplay⟩ := Option.isSome_iff_exists.mp (Std.ExtTreeMap.mem_iff_isSome_getElem?.mp hflight)
    have hnoted : (w.tracked id).noted request .event = replay.acknowledged := by
      simp only [Tracked.noted, Tracker.eventReplay?, hreplay, Option.map_some, Option.getD_some]
    rw [Tracked.answered, Tracked.eventAnswered_run _ hreplay]
    split <;> rename_i hlimited
    · exact iff_of_true rfl (.inl hlimited)
    · rw [Tracked.scopesAcknowledged_run hp, or_iff_right hlimited]
      exact hcovers hnoted

-- With it noted, if it is limited to a scope.
theorem mem_noted_answered (hflight : w.InFlight id purpose request) {i : Interest} :
    i ∈ (((w.tracked id).answered request interest purpose).2).noted request purpose ↔
      i = interest ∧ interest.isScopeLimited = true ∨ i ∈ (w.tracked id).noted request purpose := by
  cases purpose with
  | recovery =>
    obtain ⟨hprogress, hrequest⟩ := hflight
    obtain ⟨replay, hcurrent, -⟩ := Option.map_eq_some_iff.mp hrequest
    rw [Tracked.answered, Tracked.noted, Tracked.current_recoveryAnswered]
    by_cases hlimited : interest.isScopeLimited = true
    · simp [Tracked.noted, hprogress, hrequest, hlimited, hcurrent, Replay.mem_acknowledge]
    · simp [Tracked.noted, hlimited]
  | event =>
    obtain ⟨replay, hreplay⟩ := Option.isSome_iff_exists.mp
      (Std.ExtTreeMap.mem_iff_isSome_getElem?.mp hflight)
    rw [Tracked.answered, Tracked.noted, Tracked.eventReplay?_eventAnswered]
    by_cases hlimited : interest.isScopeLimited = true
    · simp [Tracked.noted, Tracker.eventReplay?, hreplay, hlimited, EventReplay.acknowledge,
        Replay.mem_acknowledge]
    · simp [Tracked.noted, hlimited]

end World

theorem Answered.sameDescription {sc : Scene} {x y : Tracked} {request : RequestId}
    {interest : Interest} {purpose : Purpose} {pause : Pause}
    (h : Answered sc x request interest purpose pause y) : x.SameDescription y := by
  have hanswered (purpose : Purpose) :
      x.SameDescription (x.answered request interest purpose).2 := by
    cases purpose with
    | recovery =>
      obtain ⟨current, hy, -⟩ := x.recoveryAnswered_eq Outage.none request interest
      rw [Tracked.answered, hy]
      exact .mapTracker _ x
    | event => exact .eventAnswered _ _ _ x
  cases h with
  | waits => exact hanswered _
  | resumed => exact hanswered _
  | completed =>
    exact (((hanswered _).trans (.mapTracker _ _)).trans (.raised _)).trans (.mapTracker _ _)
  | reported => exact hanswered _

-- While the replay goes on that end is noted, and nothing else is forgotten.
theorem Answered.noted {sc : Scene} {x : Tracked} {w' : World} {id : ProducerId}
    {request : RequestId} {interest : Interest} {purpose : Purpose} {pause : Pause}
    (h : Answered sc x request interest purpose pause (w'.tracked id))
    (hflight : w'.InFlight id purpose request) :
    (w'.tracked id).noted request purpose =
      (x.answered request interest purpose).2.noted request purpose := by
  simp only [World.InFlight] at hflight
  generalize w'.tracked id = y at h hflight ⊢
  cases h with
  | completed => exact absurd hflight.1 nofun
  | _ => rfl

-- A producer that knows the request is tracked, so the visit takes place.
theorem Manager.visit_of_replayEnd {m : Manager} {t : Moment} {id : ProducerId}
    {request : RequestId} {interest : Interest} {pause : Pause} {y : Tracked}
    (hknown : (m.tracked id).tracker.knows request = true)
    (hrun : Visit.replayEnd request interest (m.scene t) ⟨m.tracked id, m.ids⟩ =
      .ok pause ⟨y, m.ids⟩) (hsame : (m.tracked id).SameDescription y) :
    (m.visit t id (.replayEnded request interest)).1 = pause ∧
      (m.visit t id (.replayEnded request interest)).2.tracked id = y := by
  have hhold : m.hold t id (Visit.replayEnded request interest).start =
      (.ok pause, m.putDesk id ⟨y, m.ids⟩) := by
    have hstart : (Visit.replayEnded request interest).start (m.scene t) (m.desk id) =
        .ok pause ⟨y, m.ids⟩ := hrun
    simp only [hold, hstart]
  unfold visit
  cases htracker : m.trackers[id]? with
  | none => simp [tracked, desk, htracker, Tracker.knows, Tracker.currentRequest] at hknown
  | some tracker =>
    simp only [hhold]
    exact ⟨rfl, tracked_putDesk_self hsame⟩

theorem Turned.current {sc : Scene} {x : Tracked} {v : Visit} {pause : Pause} {s : Standing}
    (h : Turned sc x v pause s) : s.current = x.standing.current := by
  cases h <;> rfl

theorem Ended.startedAt {sc : Scene} {x : Tracked} {ids ids' : RequestIds} {rest : Rest}
    {c : Option Claim} {s : Standing} (h : Ended sc x ids rest c s ids')
    (hprogress : s.state.isInProgress = true) :
    x.standing.state.isInProgress = true ∧ s.startedAt = x.standing.startedAt ∨
      s.startedAt = sc.now := by
  cases h with
  | @kept _ alive => cases alive <;> exact .inl ⟨hprogress, rfl⟩
  | @claimed _ alive => cases alive <;> exact .inr rfl
  | @givenUp _ _ alive => cases alive <;> exact absurd hprogress nofun

namespace Run

variable {w₀ w w' : World} {past : List Step} {a : Act} {id : ProducerId} {purpose : Purpose}
  {request : RequestId} {interest : Interest}

-- A recovery is started at a reading of the clock.
theorem startedAt_ne_zero (h : Run w₀ past w) (hstart : w₀.IsFresh)
    (hnow : ∀ s ∈ past, s.before.now ≠ 0)
    (hprogress : (w.tracked id).tracker.state.isInProgress = true) :
    (w.tracked id).tracker.startedAt ≠ 0 := by
  rw [← Standing.startedAt_standing]
  rw [← Tracked.standing_state] at hprogress
  induction h with
  | start =>
    rw [hstart.standing] at hprogress
    exact absurd hprogress nofun
  | step hrun hstep ih =>
    obtain ⟨hlast, hearlier⟩ := List.forall_mem_cons.mp hnow
    cases hrun.moved hstart.isValid hstep id with
    | visited _ _ hvisit =>
      rw [Standing.startedAt, hvisit.turned.current]
      exact ih hearlier (hvisit.turned.isInProgress hprogress)
    | settled _ _ _ hfinish =>
      obtain ⟨hbefore, hsame⟩ | hnew := hfinish.ended.startedAt hprogress
      · rw [hsame]
        exact ih hearlier hbefore
      · rw [hnew]
        exact hlast
    | touched _ _ _ htouched =>
      rw [htouched.standing] at hprogress ⊢
      exact ih hearlier hprogress

-- Requests in flight have ids of their own.
theorem inFlight_unique (h : Run w₀ past w) (hstart : w₀.IsFresh) (hodd : w₀.DrawsOdd)
    (hfew : (draws past).length < 2 ^ 32) {id' : ProducerId} {purpose' : Purpose}
    (hflight : w.InFlight id purpose request) (hflight' : w.InFlight id' purpose' request) :
    id = id' ∧ purpose = purpose' := by
  have hnodup := h.nodup_draws hstart.isValid hodd hfew
  have hdrawn := h.mem_draws_of_inFlight hstart hodd hflight
  have hdrawn' := h.mem_draws_of_inFlight hstart hodd hflight'
  have hsame := List.inj_on_of_nodup_map hnodup hdrawn hdrawn' rfl
  exact ⟨congrArg Draw.producer hsame, congrArg Draw.purpose hsame⟩

theorem answered (h : Run w₀ past w) (hstart : w₀.IsFresh) (hodd : w₀.DrawsOdd)
    (hfew : (draws past).length < 2 ^ 32) (hnow : ∀ s ∈ past, s.before.now ≠ 0)
    (hread : (w₀.tracked id).IsReadable)
    (hstep : w.step (.visit id (.replayEnded request interest)) = some w')
    (henabled : (w.tracked id).isEnabled = true) (hflight : w.InFlight id purpose request) :
    ∃ pause, w'.held[id]? = some pause ∧
      Answered w.scene (w.tracked id) request interest purpose pause (w'.tracked id) := by
  have hreadable := h.isReadable hstart.isValid hread
  have hother (purpose' : Purpose) (hne : purpose ≠ purpose') :
      ¬w.InFlight id purpose' request :=
    fun hboth => hne (h.inFlight_unique hstart hodd hfew hflight hboth).2
  obtain ⟨hknown, pause, y, hrun, hanswered⟩ : (w.tracked id).tracker.knows request = true ∧
      ∃ pause y, Visit.replayEnd request interest w.scene ⟨w.tracked id, w.manager.ids⟩ =
        .ok pause ⟨y, w.manager.ids⟩ ∧
        Answered w.scene (w.tracked id) request interest purpose pause y := by
    cases purpose with
    | recovery =>
      obtain ⟨hprogress, hcurrent⟩ := hflight
      exact ⟨by simp [Tracker.knows, hcurrent], Visit.replayEnd_of_recovery rfl henabled hreadable
        (hother .event (by decide)) hprogress hcurrent (h.startedAt_ne_zero hstart hnow hprogress) _⟩
    | event =>
      obtain ⟨event, hevent⟩ := Tracked.mem_events_iff.mp hflight
      exact ⟨by simp [Tracker.knows, show request ∈ _ from hflight],
        Visit.replayEnd_of_event rfl henabled hreadable hevent (hother .recovery (by decide)) _⟩
  obtain ⟨hpause, hafter⟩ := Manager.visit_of_replayEnd (t := w.moment) hknown hrun
    hanswered.sameDescription
  cases World.stepped hstep with
  | visited =>
    refine ⟨pause, ?_, ?_⟩
    · rw [World.held_of_step_visit hstep, hpause]
    · change Answered _ _ _ _ _ _
        ((w.manager.visit w.moment id (.replayEnded request interest)).2.tracked id)
      rwa [hafter]

-- A replay is in flight after a step because an end of it was seen in the step, or because
-- it was so before, or because its request is drawn just now, or its call is entered just now.
theorem noted_step (h : Run w₀ past w) (hstart : w₀.IsFresh) (hodd : w₀.DrawsOdd)
    (hstep : w.step a = some w') (hflight : w'.InFlight id purpose request) :
    (∃ interest, (Step.mk w a w').Answers id purpose request interest) ∨
      w.InFlight id purpose request ∧
        (w'.tracked id).noted request purpose = (w.tracked id).noted request purpose ∨
      ((Step.mk w a w').draw? = some ⟨request, id, purpose⟩ ∨
          ∃ call ∈ w.eventCalls, call.request = request) ∧
        (w'.tracked id).noted request purpose = [] := by
  have hmoved := h.moved hstart.isValid hstep id
  cases purpose with
  | recovery =>
    obtain ⟨hprogress, hrequest⟩ := hflight
    obtain ⟨replay, hcurrent, rfl⟩ := Option.map_eq_some_iff.mp hrequest
    have hbefore (hstate : (w.tracked id).tracker.state.isInProgress = true)
        (hsame : (w'.tracked id).tracker.current = (w.tracked id).tracker.current) :
        w.InFlight id .recovery replay.request ∧ (w'.tracked id).noted replay.request .recovery =
          (w.tracked id).noted replay.request .recovery := by
      refine ⟨⟨hstate, ?_⟩, by rw [Tracked.noted, Tracked.noted, hsame]⟩
      rw [Tracker.currentRequest, ← hsame, hcurrent]
      rfl
    cases hmoved with
    | @visited v _ _ _ hvisit =>
      have hstate : (w.tracked id).tracker.state.isInProgress = true :=
        hvisit.turned.isInProgress hprogress
      obtain hsame | ⟨replay', interest, hsame, henabled, rfl, -, rfl⟩ :=
        hvisit.current hprogress hcurrent
      · exact .inr (.inl (hbefore hstate (hcurrent.trans hsame.symm)))
      · refine .inl ⟨interest, rfl, henabled, hstate, ?_⟩
        exact congrArg (Option.map Replay.request) hsame
    | settled _ _ _ hfinish =>
      obtain ⟨hstate, hsame⟩ | ⟨hnew, hnext⟩ := hfinish.current hprogress
      · exact .inr (.inl (hbefore (hstate ▸ hprogress) hsame))
      · obtain rfl := Option.some.inj (hcurrent.symm.trans hnew)
        refine .inr (.inr ⟨.inl (h.draw?_of_settle hstart.isValid hodd hnext), ?_⟩)
        rw [Tracked.noted, hcurrent]
        rfl
    | touched _ _ _ htouched =>
      have hsame : (w'.tracked id).tracker.state = (w.tracked id).tracker.state ∧
          (w'.tracked id).tracker.current = (w.tracked id).tracker.current := by
        generalize w'.tracked id = y at htouched
        cases htouched <;> exact ⟨rfl, rfl⟩
      exact .inr (.inl (hbefore (hsame.1 ▸ hprogress) hsame.2))
  | event =>
    obtain ⟨replay, hreplay⟩ : ∃ replay, (w'.tracked id).tracker.eventReplay? request = some replay :=
      Option.isSome_iff_exists.mp (Std.ExtTreeMap.mem_iff_isSome_getElem?.mp hflight)
    have hbefore (hsame : (w.tracked id).tracker.eventReplay? request = some replay) :
        w.InFlight id .event request ∧ (w'.tracked id).noted request .event =
          (w.tracked id).noted request .event := by
      refine ⟨?_, by rw [Tracked.noted, Tracked.noted, hsame, hreplay]⟩
      exact Std.ExtTreeMap.mem_iff_isSome_getElem?.mpr (Option.isSome_of_mem hsame)
    cases hmoved with
    | @visited v _ _ _ hvisit =>
      obtain hsame | ⟨replay', interest, hsame, henabled, rfl, -, -⟩ := hvisit.eventReplay? hreplay
      · exact .inr (.inl (hbefore hsame))
      · refine .inl ⟨interest, rfl, henabled, ?_⟩
        exact Std.ExtTreeMap.mem_iff_isSome_getElem?.mpr (Option.isSome_of_mem hsame)
    | settled _ _ _ hfinish => exact .inr (.inl (hbefore (hfinish.eventReplay? hreplay)))
    | touched hvisit hsettle =>
      obtain hsame | ⟨call, rfl, -, hrequest, rfl⟩ :=
        World.eventReplay?_of_aside hstep hvisit hsettle hreplay
      · exact .inr (.inl (hbefore hsame))
      · cases World.stepped hstep with
        | eventEntered hcall =>
          refine .inr (.inr ⟨.inr ⟨call, hcall, hrequest⟩, ?_⟩)
          rw [Tracked.noted, hreplay]
          rfl

-- The scope-limited interests of the ends that were seen are what is noted of a replay.
theorem mem_noted_iff (h : Run w₀ past w) (hstart : w₀.IsFresh) (hodd : w₀.DrawsOdd)
    (hfew : (draws past).length < 2 ^ 32) (hnow : ∀ s ∈ past, s.before.now ≠ 0)
    (hread : (w₀.tracked id).IsReadable) (hflight : w.InFlight id purpose request) :
    interest ∈ (w.tracked id).noted request purpose ↔
      interest.isScopeLimited = true ∧ ∃ s ∈ past, s.Answers id purpose request interest := by
  induction h with
  | start => exact absurd (Run.start.mem_draws_of_inFlight hstart hodd hflight) List.not_mem_nil
  | @step past w w' a hrun hstep ih =>
    have hlength := length_draws_le_cons ⟨w, a, w'⟩ past
    have hearlier := (List.forall_mem_cons.mp hnow).2
    have ih (hbefore : w.InFlight id purpose request) := ih (by omega) hearlier hbefore
    simp only [List.mem_cons, exists_eq_or_imp]
    by_cases hlast : ∃ i, (Step.mk w a w').Answers id purpose request i
    · obtain ⟨i, rfl, henabled, hbefore⟩ := hlast
      have hseen : (Step.mk w (.visit id (.replayEnded request i)) w').Answers id purpose request
          interest ↔ interest = i := by
        constructor
        · rintro ⟨hact, -, -⟩
          exact (Visit.replayEnded.inj (Act.visit.inj hact).2).2.symm
        · rintro rfl
          exact ⟨rfl, henabled, hbefore⟩
      obtain ⟨pause, -, hanswered⟩ :=
        hrun.answered hstart hodd (by omega) hearlier hread hstep henabled hbefore
      rw [hanswered.noted hflight, World.mem_noted_answered hbefore, ih hbefore, hseen]
      constructor
      · rintro (⟨rfl, hlimited⟩ | ⟨hlimited, hpast⟩)
        · exact ⟨hlimited, .inl rfl⟩
        · exact ⟨hlimited, .inr hpast⟩
      · rintro ⟨hlimited, rfl | hpast⟩
        · exact .inl ⟨rfl, hlimited⟩
        · exact .inr ⟨hlimited, hpast⟩
    · have hnot : ¬(Step.mk w a w').Answers id purpose request interest :=
        fun hanswers => hlast ⟨interest, hanswers⟩
      rw [or_iff_right hnot]
      obtain hanswers | ⟨hbefore, hsame⟩ | ⟨hnew, hnone⟩ :=
        hrun.noted_step hstart hodd hstep hflight
      · exact absurd hanswers hlast
      · rw [hsame, ih hbefore]
      · -- it was not in flight before, so no end of it was seen
        rw [hnone]
        refine iff_of_false List.not_mem_nil ?_
        rintro ⟨-, s, hs, hanswers⟩
        obtain hdraw | ⟨call, hcall, rfl⟩ := hnew
        · exact hrun.request_ne hstart.isValid hodd hstep hfew hdraw
            (hrun.mem_draws_of_before hstart hodd hs hanswers.inFlight) rfl
        · exact (hrun.not_inFlight_of_call hstart hodd (by omega) hcall id purpose).2 s hs
            hanswers.inFlight

end Run

end FeedWatch
