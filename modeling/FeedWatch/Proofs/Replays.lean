import FeedWatch.Proofs.InFlight

namespace FeedWatch

section Visits

variable {sc : Scene} {x y : Tracked} {v : Visit} {pause : Pause} {request r : RequestId}

-- An end of replay is noted if it is limited to a scope, with the replay of its request.
theorem Tracked.eventReplay?_eventAnswered (outage : Outage) (interest : Interest) :
    (x.eventAnswered outage request interest).2.tracker.eventReplay? r =
      if r = request ∧ interest.isScopeLimited = true then
        (x.tracker.eventReplay? r).map (·.acknowledge interest)
      else x.tracker.eventReplay? r := by
  unfold eventAnswered
  cases hreplay : x.tracker.eventReplay? request with
  | none =>
    by_cases hr : r = request
    · subst hr
      simp [hreplay]
    · simp [hr]
  | some replay =>
    by_cases hlimited : interest.isScopeLimited = true
    · by_cases hr : r = request
      · subst hr
        rw [hreplay]
        simp [hlimited, Tracker.eventReplay?]
      · simp [hlimited, hr, Tracker.eventReplay?, Std.ExtTreeMap.getElem?_insert, Ne.symm hr]
    · simp [hlimited]

theorem Tracked.mem_events_eventAnswered (outage : Outage) (interest : Interest) :
    r ∈ (x.eventAnswered outage request interest).2.tracker.events ↔ r ∈ x.tracker.events := by
  rw [Std.ExtTreeMap.mem_iff_isSome_getElem?, Std.ExtTreeMap.mem_iff_isSome_getElem?]
  change (Tracker.eventReplay? _ r).isSome = true ↔ (x.tracker.eventReplay? r).isSome = true
  rw [eventReplay?_eventAnswered]
  split
  · rw [Option.isSome_map]
  · rfl

theorem Tracked.eventReplay?_acknowledged (interest : Interest) :
    (x.acknowledged request interest).tracker.eventReplay? r =
      (x.eventAnswered Outage.none request interest).2.tracker.eventReplay? r := by
  obtain ⟨current, hcurrent, -⟩ :=
    (x.eventAnswered Outage.none request interest).2.recoveryAnswered_eq Outage.none request interest
  rw [acknowledged, hcurrent]
  rfl

theorem Tracked.current_recoveryAnswered (outage : Outage) (interest : Interest) :
    (x.recoveryAnswered outage request interest).2.tracker.current =
      if (x.tracker.state.isInProgress = true ∧ x.tracker.currentRequest = some request) ∧
        interest.isScopeLimited = true then x.tracker.current.map (·.acknowledge interest)
      else x.tracker.current := by
  by_cases hcurrent : x.tracker.state.isInProgress = true ∧ x.tracker.currentRequest = some request
  · obtain ⟨replay, hreplay, rfl⟩ := Option.map_eq_some_iff.mp hcurrent.2
    by_cases hlimited : interest.isScopeLimited = true <;>
      simp [recoveryAnswered, Tracker.isPerformingRecovery, hcurrent.1, hcurrent.2, hreplay, hlimited]
  · rw [recoveryAnswered_of_not_current hcurrent, if_neg fun h => hcurrent h.1]

theorem Tracked.current_acknowledged (interest : Interest) :
    (x.acknowledged request interest).tracker.current =
      if (x.tracker.state.isInProgress = true ∧ x.tracker.currentRequest = some request) ∧
        interest.isScopeLimited = true then x.tracker.current.map (·.acknowledge interest)
      else x.tracker.current := by
  obtain ⟨events, hevents⟩ := x.eventAnswered_eq Outage.none request interest
  rw [acknowledged, hevents, current_recoveryAnswered]
  rfl

theorem Tracked.eventReplay?_lowered {reason : DownReason} {replay : EventReplay}
    (h : (x.lowered reason).tracker.eventReplay? r = some replay) :
    x.tracker.eventReplay? r = some replay := by
  simp only [Tracker.eventReplay?, lowered] at h
  split at h
  · exact h
  · exact absurd h (by simp)

-- A replay that is entered after a visit was so before, with one end of it less at most.
theorem Visited.eventReplay? (h : Visited sc x v pause y) {replay : EventReplay}
    (hreplay : y.tracker.eventReplay? r = some replay) :
    x.tracker.eventReplay? r = some replay ∨
      ∃ replay' interest, x.tracker.eventReplay? r = some replay' ∧ x.isEnabled = true ∧
        v = .replayEnded r interest ∧ interest.isScopeLimited = true ∧
        replay = replay'.acknowledge interest := by
  have hanswered {request : RequestId} {interest : Interest} (henabled : x.isEnabled = true)
      (hafter : (x.eventAnswered Outage.none request interest).2.tracker.eventReplay? r =
        some replay) :
      x.tracker.eventReplay? r = some replay ∨
        ∃ replay' interest', x.tracker.eventReplay? r = some replay' ∧ x.isEnabled = true ∧
          Visit.replayEnded request interest = .replayEnded r interest' ∧
          interest'.isScopeLimited = true ∧ replay = replay'.acknowledge interest' := by
    rw [Tracked.eventReplay?_eventAnswered] at hafter
    split at hafter <;> rename_i hnoted
    · obtain ⟨rfl, hlimited⟩ := hnoted
      obtain ⟨replay', hbefore, rfl⟩ := Option.map_eq_some_iff.mp hafter
      exact .inr ⟨replay', interest, hbefore, henabled, rfl, hlimited, rfl⟩
    · exact .inl hafter
  cases h with
  | @unsubscribedUp stamp =>
    exact .inl (Tracked.eventReplay?_lowered (x := x.messaged stamp.received) hreplay)
  | silent => exact .inl (Tracked.eventReplay?_lowered hreplay)
  | delayed => exact .inl (Tracked.eventReplay?_lowered hreplay)
  | acknowledged henabled hy =>
    rcases hy with rfl | rfl
    · exact hanswered henabled hreplay
    · exact hanswered henabled ((Tracked.eventReplay?_acknowledged _).symm.trans hreplay)
  | eventOver henabled => exact hanswered henabled hreplay
  | resumed henabled =>
    exact hanswered henabled ((Tracked.eventReplay?_acknowledged _).symm.trans hreplay)
  | completed henabled =>
    exact hanswered henabled ((Tracked.eventReplay?_acknowledged _).symm.trans hreplay)
  | _ => exact .inl hreplay

-- The same for the current recovery while it is under way.
theorem Visited.current (h : Visited sc x v pause y)
    (hprogress : y.tracker.state.isInProgress = true) {replay : Replay}
    (hreplay : y.tracker.current = some replay) :
    x.tracker.current = some replay ∨
      ∃ replay' interest, x.tracker.current = some replay' ∧ x.isEnabled = true ∧
        v = .replayEnded replay'.request interest ∧ interest.isScopeLimited = true ∧
        replay = replay'.acknowledge interest := by
  have hanswered {request : RequestId} {interest : Interest} (henabled : x.isEnabled = true)
      (hafter : (x.acknowledged request interest).tracker.current = some replay) :
      x.tracker.current = some replay ∨
        ∃ replay' interest', x.tracker.current = some replay' ∧ x.isEnabled = true ∧
          Visit.replayEnded request interest = .replayEnded replay'.request interest' ∧
          interest'.isScopeLimited = true ∧ replay = replay'.acknowledge interest' := by
    rw [Tracked.current_acknowledged] at hafter
    split at hafter <;> rename_i hnoted
    · obtain ⟨⟨-, hcurrent⟩, hlimited⟩ := hnoted
      obtain ⟨replay', hbefore, rfl⟩ := Option.map_eq_some_iff.mp hafter
      rw [Tracker.currentRequest, hbefore] at hcurrent
      obtain rfl := Option.some.inj hcurrent
      exact .inr ⟨replay', interest, hbefore, henabled, rfl, hlimited, rfl⟩
    · exact .inl hafter
  cases h with
  | @acknowledged request interest _ henabled hy =>
    rcases hy with rfl | rfl
    · obtain ⟨events, hevents⟩ := x.eventAnswered_eq Outage.none request interest
      rw [hevents] at hreplay
      exact .inl hreplay
    · exact hanswered henabled hreplay
  | @eventOver request interest =>
    obtain ⟨events, hevents⟩ := x.eventAnswered_eq Outage.none request interest
    rw [hevents] at hreplay
    exact .inl hreplay
  | resumed henabled => exact hanswered henabled hreplay
  | completed => cases hprogress
  | _ => exact .inl hreplay

end Visits

section Rests

variable {sc : Scene} {x y : Tracked} {ids ids' : RequestIds} {rest : Rest} {c : Option Claim}

theorem Tracked.tracker_keptIf (alive : Option Stamp) :
    (x.keptIf alive).tracker.events = x.tracker.events ∧
      (x.keptIf alive).tracker.current = x.tracker.current := by
  cases alive <;> exact ⟨rfl, rfl⟩

-- The rest of a visit enters no replay of an event.
theorem Finished.eventReplay? (h : Finished sc x ids rest c y ids') {request : RequestId}
    {replay : EventReplay} (hreplay : y.tracker.eventReplay? request = some replay) :
    x.tracker.eventReplay? request = some replay := by
  have hclaimed {z : Tracked} {anchor : Instant} {alive : Option Stamp}
      (hz : z.tracker.events = x.tracker.events) (h : Claimed sc z ids anchor alive c y ids') :
      y.tracker.events = x.tracker.events := by
    cases h with
    | shut => exact (z.tracker_keptIf alive).1.trans hz
    | lost => exact hz
    | made => exact (Tracked.tracker_keptIf alive).1.trans hz
  cases h with
  | eventDone done =>
    simp only [Tracker.eventReplay?, Tracked.mapTracker_tracker, Tracker.eventDone,
      Std.ExtTreeMap.getElem?_erase] at hreplay
    split at hreplay
    · cases hreplay
    · exact hreplay
  | claim hclaim => rwa [Tracker.eventReplay?, hclaimed rfl hclaim] at hreplay
  | missing _ hclaim => rwa [Tracker.eventReplay?, hclaimed rfl hclaim] at hreplay
  | stuck _ hclaim =>
    rwa [Tracker.eventReplay?, hclaimed (z := x.givenUp) rfl hclaim] at hreplay
  | _ => exact hreplay

theorem Claimed.current {anchor : Instant} {alive : Option Stamp}
    (h : Claimed sc x ids anchor alive c y ids') :
    y.tracker.state = x.tracker.state ∧ y.tracker.current = x.tracker.current ∨
      y.tracker.current = some { request := ids.next.1, startedAt := sc.now } ∧
        ids' = ids.next.2 := by
  cases h with
  | shut => cases alive <;> exact .inl ⟨rfl, rfl⟩
  | lost => exact .inl ⟨rfl, rfl⟩
  | made => exact .inr ⟨(Tracked.tracker_keptIf alive).2, rfl⟩

-- A recovery that is under way after the rest of a visit was so before, or begins with it.
theorem Finished.current (h : Finished sc x ids rest c y ids')
    (hprogress : y.tracker.state.isInProgress = true) :
    y.tracker.state = x.tracker.state ∧ y.tracker.current = x.tracker.current ∨
      y.tracker.current = some { request := ids.next.1, startedAt := sc.now } ∧
        ids' = ids.next.2 := by
  cases h with
  | claim hclaim => exact hclaim.current
  | missing _ hclaim => exact hclaim.current
  | stuck _ hclaim =>
    obtain ⟨hstate, -⟩ | hnew := hclaim.current
    · rw [hstate] at hprogress
      exact absurd hprogress nofun
    · exact .inr hnew
  | _ => exact .inl ⟨rfl, rfl⟩

end Rests

namespace Manager

variable {m : Manager} {t : Moment} {j : ProducerId} {request : RequestId} {replay : EventReplay}

theorem enterEvent_eventReplay? {call : EventCall}
    (h : ((m.enterEvent t call).2.tracked j).tracker.eventReplay? request = some replay) :
    (m.tracked j).tracker.eventReplay? request = some replay ∨
      call.producer = j ∧ call.request = request ∧
        replay = { request, startedAt := t.now, event := call.event } := by
  have hset {tracker : Tracker}
      (hentered : (tracker.setEvent call.event call.request t.now).eventReplay? request =
        some replay) :
      tracker.eventReplay? request = some replay ∨
        call.request = request ∧ replay = { request, startedAt := t.now, event := call.event } := by
    simp only [Tracker.setEvent] at hentered
    split at hentered
    · simp only [Tracker.eventReplay?, Std.ExtTreeMap.getElem?_erase] at hentered
      split at hentered
      · cases hentered
      · exact .inl hentered
    · simp only [Tracker.eventReplay?, Std.ExtTreeMap.getElem?_insert] at hentered
      split at hentered <;> rename_i hsame
      · obtain rfl := Std.LawfulEqOrd.eq_of_compare hsame
        exact .inr ⟨rfl, (Option.some.inj hentered).symm⟩
      · exact .inl hentered
  rw [enterEvent_eq] at h
  by_cases hj : j = call.producer
  · subst hj
    cases hname : (m.tracked call.producer).name t.outage with
    | ok name =>
      rw [hname, tracked_putDesk_mapTracker] at h
      exact (hset h).imp id fun hnew => ⟨rfl, hnew⟩
    | error e =>
      -- what was entered is taken back
      rw [hname, tracked_putDesk_mapTracker] at h
      simp only [Tracked.mapTracker_tracker, Tracker.eventReplay?, Tracker.eventDone,
        Std.ExtTreeMap.getElem?_erase] at h
      split at h
      · cases h
      · exact (hset h).imp id fun hnew => ⟨rfl, hnew⟩
  · cases hname : (m.tracked call.producer).name t.outage with
    | ok name =>
      rw [hname, tracked_putDesk_ne hj] at h
      exact .inl h
    | error e =>
      rw [hname, tracked_putDesk_ne hj] at h
      exact .inl h

theorem eventPosted_eventReplay? {r : EventRequest} {answer : Except TransportError Unit}
    (h : ((m.eventPosted t r answer).2.tracked j).tracker.eventReplay? request = some replay) :
    (m.tracked j).tracker.eventReplay? request = some replay := by
  cases answer with
  | ok => exact h
  | error e =>
    have hmanager : (m.eventPosted t r (.error e)).2 = m.putDesk r.producer
        ⟨(m.tracked r.producer).mapTracker (·.eventDone r.request), m.ids⟩ := by
      rw [eventPosted, hold_manager]
      rfl
    rw [hmanager] at h
    by_cases hj : j = r.producer
    · subst hj
      rw [tracked_putDesk_mapTracker] at h
      simp only [Tracked.mapTracker_tracker, Tracker.eventReplay?, Tracker.eventDone,
        Std.ExtTreeMap.getElem?_erase] at h
      split at h
      · cases h
      · exact h
    · rwa [tracked_putDesk_ne hj] at h

end Manager

-- Beside its visits only a call of its own enters a replay for a producer.
theorem World.eventReplay?_of_aside {w w' : World} {a : Act} {id : ProducerId}
    {request : RequestId} {replay : EventReplay} (h : w.step a = some w')
    (hvisit : ∀ v, a ≠ .visit id v) (hsettle : a ≠ .settle id)
    (hreplay : (w'.tracked id).tracker.eventReplay? request = some replay) :
    (w.tracked id).tracker.eventReplay? request = some replay ∨
      ∃ call : EventCall, a = .enterEvent call ∧ call.producer = id ∧ call.request = request ∧
        replay = { request, startedAt := w.now, event := call.event } := by
  have hsame (htracked : w'.tracked id = w.tracked id) :
      (w.tracked id).tracker.eventReplay? request = some replay := by rwa [htracked] at hreplay
  cases stepped h with
  | started hstart =>
    obtain ⟨-, -, -, -, htracked⟩ := Manager.start_manager (Service.start_manager hstart)
    exact .inl (hsame (htracked id))
  | @visited i v =>
    have hi : id ≠ i := fun hi => hvisit v (by rw [hi])
    exact .inl (hsame (w.manager.visit_tracked_ne v hi))
  | @settled i pause =>
    have hi : id ≠ i := fun hi => hsettle (by rw [hi])
    exact .inl (hsame (w.manager.finish_tracked_ne pause.rest hi))
  | @eventCalled kind i event =>
    exact .inl (hsame (Manager.callEvent_tracked kind event id))
  | @eventEntered call =>
    obtain hbefore | hentered := Manager.enterEvent_eventReplay? hreplay
    · exact .inl hbefore
    · exact .inr ⟨call, rfl, hentered⟩
  | @eventPosted r answer => exact .inl (Manager.eventPosted_eventReplay? hreplay)
  | @recoveryPosted c answer =>
    have htrackers := Manager.trackers_recoveryPosted (m := w.manager) (t := w.moment) c answer
    have hevents := congrArg (fun trackers => (trackers[id]?.getD {}).events[request]?) htrackers
    exact .inl (hevents.symm.trans hreplay)
  | _ => exact .inl hreplay

end FeedWatch
