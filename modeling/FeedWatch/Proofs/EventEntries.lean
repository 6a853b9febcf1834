import FeedWatch.Proofs.Progress

namespace FeedWatch

namespace Tracked

-- The event whose replay is entered under the request.
def eventOf? (x : Tracked) (request : RequestId) : Option Urn :=
  (x.tracker.eventReplay? request).map EventReplay.event

-- A producer is flagged down, or stays down for another reason. To come up takes the
-- reason away, and is none of this.
def GoesDown (x y : Tracked) : Prop :=
  y.isDown = true ∧ (x.isDown = false ∨ x.tracker.downReason ≠ y.tracker.downReason)

variable {x y : Tracked} {request r : RequestId}

theorem mem_events_iff : request ∈ x.tracker.events ↔ ∃ event, x.eventOf? request = some event := by
  rw [Std.ExtTreeMap.mem_iff_isSome_getElem?, Option.isSome_iff_exists]
  simp only [eventOf?, Tracker.eventReplay?, Option.map_eq_some_iff]
  constructor
  · rintro ⟨replay, hreplay⟩
    exact ⟨replay.event, replay, hreplay, rfl⟩
  · rintro ⟨event, replay, hreplay, -⟩
    exact ⟨replay, hreplay⟩

theorem eventOf?_congr (h : y.tracker.events = x.tracker.events) (request : RequestId) :
    y.eventOf? request = x.eventOf? request := by
  simp only [eventOf?, Tracker.eventReplay?, h]

theorem eventOf?_eventDone : (x.mapTracker (·.eventDone request)).eventOf? r =
    if r = request then none else x.eventOf? r := by
  simp only [eventOf?, Tracker.eventReplay?, mapTracker_tracker, Tracker.eventDone,
    Std.ExtTreeMap.getElem?_erase, Std.compare_eq_iff_eq]
  by_cases hr : r = request
  · simp [hr]
  · simp [hr, Ne.symm hr]

theorem eventOf?_setEvent_ne {event : Urn} {startedAt : Instant} (hr : r ≠ request) :
    (x.mapTracker (·.setEvent event request startedAt)).eventOf? r = x.eventOf? r := by
  simp only [eventOf?, Tracker.eventReplay?, mapTracker_tracker, Tracker.setEvent]
  split
  · simp [Std.ExtTreeMap.getElem?_erase, Ne.symm hr]
  · simp [Std.ExtTreeMap.getElem?_insert, Ne.symm hr]

theorem eventOf?_setEvent_self {event : Urn} {startedAt : Instant} (hstarted : startedAt ≠ 0) :
    (x.mapTracker (·.setEvent event request startedAt)).eventOf? request = some event := by
  simp [eventOf?, Tracker.eventReplay?, Tracker.setEvent, hstarted]

-- An end of replay that is noted leaves the replay entered.
theorem eventOf?_eventAnswered (outage : Outage) (interest : Interest) :
    (x.eventAnswered outage request interest).2.eventOf? r = x.eventOf? r := by
  unfold eventAnswered
  cases hreplay : x.tracker.eventReplay? request with
  | none => rfl
  | some replay =>
    by_cases hlimited : interest.isScopeLimited
    · by_cases hr : r = request
      · subst hr
        have hget : x.tracker.events[r]? = some replay := hreplay
        simp [hlimited, eventOf?, Tracker.eventReplay?, EventReplay.acknowledge, hget]
      · simp [hlimited, eventOf?, Tracker.eventReplay?, Std.ExtTreeMap.getElem?_insert, Ne.symm hr]
    · simp [hlimited]

theorem eventOf?_acknowledged (interest : Interest) :
    (x.acknowledged request interest).eventOf? r = x.eventOf? r := by
  obtain ⟨current, hcurrent, -⟩ :=
    (x.eventAnswered Outage.none request interest).2.recoveryAnswered_eq Outage.none request interest
  rw [acknowledged, hcurrent, ← eventOf?_eventAnswered (x := x) Outage.none interest]
  exact eventOf?_congr rfl r

theorem eventOf?_keptIf (alive : Option Stamp) : (x.keptIf alive).eventOf? r = x.eventOf? r := by
  cases alive with
  | none => rfl
  | some stamp => exact eventOf?_congr rfl r

theorem eventOf?_givenUp (x : Tracked) (request : RequestId) :
    x.givenUp.eventOf? request = x.eventOf? request := rfl

theorem not_goesDown_of_standing (hdown : y.isDown = x.isDown)
    (hreason : y.tracker.downReason = x.tracker.downReason) : ¬x.GoesDown y := by
  rintro ⟨hd, hup | hne⟩
  · exact absurd (hup.symm.trans (hdown.symm.trans hd)) nofun
  · exact hne hreason.symm

theorem not_goesDown_of_up (hup : y.isDown = false) : ¬x.GoesDown y :=
  fun h => absurd (hup.symm.trans h.1) nofun

end Tracked

-- Where the rest of a visit leaves the flag and its reason.
theorem Ended.isDown {sc : Scene} {x : Tracked} {ids ids' : RequestIds} {rest : Rest}
    {c : Option Claim} {s : Standing} (h : Ended sc x ids rest c s ids') :
    s.isDown = x.isDown ∧ s.downReason = x.tracker.downReason := by
  have hkept (s : Standing) (alive : Option Stamp) :
      (s.keptIf alive).isDown = s.isDown ∧ (s.keptIf alive).downReason = s.downReason := by
    cases alive <;> exact ⟨rfl, rfl⟩
  cases h with
  | kept => exact hkept _ _
  | claimed => exact hkept _ _
  | givenUp => exact hkept _ _

theorem Visited.eventOf? {sc : Scene} {x y : Tracked} {v : Visit} {pause : Pause}
    (h : Visited sc x v pause y) (request : RequestId) :
    (x.GoesDown y → y.eventOf? request = none) ∧
      (¬x.GoesDown y → y.eventOf? request = x.eventOf? request) := by
  have hkept (hdown : y.isDown = x.isDown) (hreason : y.tracker.downReason = x.tracker.downReason)
      (hsame : y.eventOf? request = x.eventOf? request) :
      (x.GoesDown y → y.eventOf? request = none) ∧
        (¬x.GoesDown y → y.eventOf? request = x.eventOf? request) :=
    ⟨fun hfall => absurd hfall (Tracked.not_goesDown_of_standing hdown hreason), fun _ => hsame⟩
  have hraised (hup : y.isDown = false) (hsame : y.eventOf? request = x.eventOf? request) :
      (x.GoesDown y → y.eventOf? request = none) ∧
        (¬x.GoesDown y → y.eventOf? request = x.eventOf? request) :=
    ⟨fun hfall => absurd hfall (Tracked.not_goesDown_of_up hup), fun _ => hsame⟩
  have hstanding (hs : y.standing = x.standing) :
      y.isDown = x.isDown ∧ y.tracker.downReason = x.tracker.downReason :=
    ⟨congrArg Standing.isDown hs, congrArg Standing.downReason hs⟩
  -- to go down takes the replays away exactly where it is news
  have hlowered {z : Tracked} {reason : DownReason} (hz : z.isEnabled = true)
      (hdown : z.isDown = x.isDown) (htracker : z.tracker = x.tracker)
      (hy : y = (z.lowered reason).told reason.status) :
      (x.GoesDown y → y.eventOf? request = none) ∧
        (¬x.GoesDown y → y.eventOf? request = x.eventOf? request) := by
    have hafter : y.isDown = true := hy ▸ Tracked.isDown_lowered hz reason
    have hreason : y.tracker.downReason = reason := hy ▸ rfl
    have hevents : y.tracker.events =
        if x.isDown ∧ x.tracker.downReason = reason then x.tracker.events else ∅ := by
      rw [hy, ← hdown, ← htracker]
      rfl
    by_cases hnews : x.isDown ∧ x.tracker.downReason = reason
    · rw [if_pos hnews] at hevents
      exact hkept (hafter.trans hnews.1.symm) (hreason.trans hnews.2.symm)
        (Tracked.eventOf?_congr hevents request)
    · rw [if_neg hnews] at hevents
      have hfall : x.GoesDown y := by
        refine ⟨hafter, ?_⟩
        rw [hreason]
        cases hd : x.isDown with
        | false => exact .inl rfl
        | true => exact .inr fun heq => hnews ⟨hd, heq⟩
      refine ⟨fun _ => ?_, fun hno => absurd hfall hno⟩
      simp [Tracked.eventOf?, Tracker.eventReplay?, hevents]
  cases h with
  | idle => exact hkept rfl rfl rfl
  | messageStarted =>
    obtain ⟨hd, hr⟩ := hstanding (Tracked.standing_messaged _)
    exact hkept hd hr rfl
  | messageEnded =>
    obtain ⟨hd, hr⟩ := hstanding (Tracked.standing_processed _)
    exact hkept hd hr rfl
  | userAlive => exact hkept rfl rfl rfl
  | unreadable =>
    obtain ⟨hd, hr⟩ := hstanding (Tracked.standing_messaged _)
    exact hkept hd hr rfl
  | unsubscribed =>
    obtain ⟨hd, hr⟩ := hstanding (Tracked.standing_messaged _)
    exact hkept hd hr rfl
  | subscribed =>
    obtain ⟨hd, hr⟩ := hstanding (Tracked.standing_messaged _)
    exact hkept hd hr rfl
  | calledOff =>
    obtain ⟨hd, hr⟩ := hstanding (Tracked.standing_messaged _)
    exact hkept hd hr rfl
  | @unsubscribedUp stamp _ henabled =>
    exact hlowered ((Tracked.isEnabled_messaged stamp.received).trans henabled)
      (Tracked.isDown_messaged _) rfl rfl
  | silent henabled => exact hlowered henabled rfl rfl rfl
  | delayed henabled => exact hlowered henabled rfl rfl rfl
  | @returned stamp henabled =>
    exact hraised (Tracked.isDown_raised ((Tracked.isEnabled_messaged stamp.received).trans henabled))
      rfl
  | @acknowledged r interest _ _ hy =>
    rcases hy with rfl | rfl
    · obtain ⟨hd, hr⟩ := hstanding (Tracked.standing_eventAnswered r interest)
      exact hkept hd hr (Tracked.eventOf?_eventAnswered _ _)
    · obtain ⟨hd, hr⟩ := hstanding (Tracked.standing_acknowledged r interest)
      exact hkept hd hr (Tracked.eventOf?_acknowledged _)
  | @eventOver r interest =>
    obtain ⟨hd, hr⟩ := hstanding (Tracked.standing_eventAnswered r interest)
    exact hkept hd hr (Tracked.eventOf?_eventAnswered _ _)
  | @resumed r interest =>
    obtain ⟨hd, hr⟩ := hstanding (Tracked.standing_acknowledged r interest)
    exact hkept hd hr (Tracked.eventOf?_acknowledged _)
  | @completed r interest _ henabled =>
    have hx : ((x.acknowledged r interest).recovered r).isEnabled = true := by
      obtain ⟨events, current, hack, -⟩ := x.acknowledged_eq r interest
      refine (Tracked.isEnabled_congr ?_).trans henabled
      rw [hack]
      rfl
    refine hraised (Tracked.isDown_raised hx) ?_
    rw [← Tracked.eventOf?_acknowledged (x := x) interest]
    exact Tracked.eventOf?_congr rfl request

theorem Finished.eventOf? {sc : Scene} {x y : Tracked} {ids ids' : RequestIds} {rest : Rest}
    {c : Option Claim} (h : Finished sc x ids rest c y ids') (request : RequestId) :
    (rest = .eventDone request → y.eventOf? request = none) ∧
      (rest ≠ .eventDone request → y.eventOf? request = x.eventOf? request) := by
  have hkept {rest : Rest} (hrest : rest ≠ .eventDone request)
      (hsame : y.eventOf? request = x.eventOf? request) :
      (rest = .eventDone request → y.eventOf? request = none) ∧
        (rest ≠ .eventDone request → y.eventOf? request = x.eventOf? request) :=
    ⟨fun hdone => absurd hdone hrest, fun _ => hsame⟩
  have hclaimed {z : Tracked} {anchor : Instant} {alive : Option Stamp}
      (hz : z.eventOf? request = x.eventOf? request) (h : Claimed sc z ids anchor alive c y ids') :
      y.eventOf? request = x.eventOf? request := by
    cases h with
    | shut => exact (Tracked.eventOf?_keptIf alive).trans hz
    | lost => exact hz
    | made => exact (Tracked.eventOf?_keptIf alive).trans hz
  cases h with
  | done => exact hkept nofun rfl
  | keepAlive stamp => exact hkept nofun (Tracked.eventOf?_keptIf (some stamp))
  | attended => exact hkept nofun (Tracked.eventOf?_keptIf (some _))
  | claim hclaim => exact hkept nofun (hclaimed rfl hclaim)
  | missing _ hclaim => exact hkept nofun (hclaimed rfl hclaim)
  | stuck _ hclaim => exact hkept nofun (hclaimed (x.eventOf?_givenUp request) hclaim)
  | eventDone r =>
    rw [Tracked.eventOf?_eventDone]
    constructor
    · intro hdone
      exact if_pos (Rest.eventDone.inj hdone).symm
    · intro hother
      exact if_neg fun hr => hother (congrArg Rest.eventDone hr.symm)

namespace Manager

variable {m : Manager} {t : Moment} {id : ProducerId}

-- A call enters a replay under the id that was drawn for it, and under no other.
theorem enterEvent_eventOf? (call : EventCall) (j : ProducerId) {request : RequestId}
    (hother : j = call.producer → request ≠ call.request) :
    ((m.enterEvent t call).2.tracked j).eventOf? request = (m.tracked j).eventOf? request := by
  rw [enterEvent_eq]
  by_cases hj : j = call.producer
  · subst hj
    have hne := hother rfl
    cases (m.tracked call.producer).name t.outage with
    | ok name =>
      dsimp only
      rw [tracked_putDesk_mapTracker, Tracked.eventOf?_setEvent_ne hne]
    | error e =>
      -- what was entered is taken back
      have hback : (m.tracked call.producer).mapTracker (fun tracker =>
          (tracker.setEvent call.event call.request t.now).eventDone call.request) =
          ((m.tracked call.producer).mapTracker
            (·.setEvent call.event call.request t.now)).mapTracker (·.eventDone call.request) := rfl
      dsimp only
      rw [tracked_putDesk_mapTracker, hback, Tracked.eventOf?_eventDone, if_neg hne,
        Tracked.eventOf?_setEvent_ne hne]
  · cases (m.tracked call.producer).name t.outage with
    | ok name => exact congrArg (Tracked.eventOf? · request) (tracked_putDesk_ne hj)
    | error e => exact congrArg (Tracked.eventOf? · request) (tracked_putDesk_ne hj)

theorem enterEvent_of_isReadable (call : EventCall) (hmem : t.outage = Outage.none)
    (hnow : t.now ≠ 0) (hread : (m.tracked call.producer).IsReadable) :
    (∃ name, (m.enterEvent t call).1 = .ok { call with name }) ∧
      ((m.enterEvent t call).2.tracked call.producer).eventOf? call.request = some call.event := by
  obtain ⟨p, hp⟩ := hread
  have hname : (m.tracked call.producer).name t.outage = .ok p.name := by
    rw [hmem, Tracked.name, hp]
    rfl
  rw [enterEvent_eq, hname]
  refine ⟨⟨p.name, rfl⟩, ?_⟩
  dsimp only
  rw [tracked_putDesk_mapTracker, Tracked.eventOf?_setEvent_self hnow]

-- A request that fails ends its replay.
theorem eventPosted_eventOf? (r : EventRequest) (answer : Except TransportError Unit)
    (j : ProducerId) (request : RequestId) :
    ((m.eventPosted t r answer).2.tracked j).eventOf? request =
      if answer.isOk = false ∧ j = r.producer ∧ request = r.request then none
      else (m.tracked j).eventOf? request := by
  cases answer with
  | ok => rw [if_neg (fun h => absurd h.1 nofun)]; rfl
  | error e =>
    have hmanager : (m.eventPosted t r (.error e)).2 = m.putDesk r.producer
        ⟨(m.tracked r.producer).mapTracker (·.eventDone r.request), m.ids⟩ := by
      rw [eventPosted, hold_manager]
      rfl
    rw [hmanager]
    by_cases hj : j = r.producer
    · subst hj
      rw [tracked_putDesk_mapTracker, Tracked.eventOf?_eventDone]
      simp [Except.isOk, Except.toBool]
    · rw [tracked_putDesk_ne hj, if_neg fun h => hj h.2.1]

end Manager

namespace World

variable {w w' : World} {a : Act} {id : ProducerId} {request : RequestId}

-- Beside its visits a producer has replays entered and ended by the calls of their events.
theorem eventOf?_of_aside (h : w.step a = some w') (hvisit : ∀ v, a ≠ .visit id v)
    (hsettle : a ≠ .settle id)
    (hentered : ∀ call, a = .enterEvent call → call.producer = id → request ≠ call.request)
    (hposted : ∀ r source, a = .eventPosted r (.error source) → r.producer = id →
      r.request ≠ request) :
    (w'.tracked id).eventOf? request = (w.tracked id).eventOf? request := by
  have hsame (htracked : w'.tracked id = w.tracked id) :
      (w'.tracked id).eventOf? request = (w.tracked id).eventOf? request := by rw [htracked]
  cases stepped h with
  | started hstart =>
    obtain ⟨-, -, -, -, htracked⟩ := Manager.start_manager (Service.start_manager hstart)
    exact hsame (htracked id)
  | @visited i v =>
    have hi : id ≠ i := fun hi => hvisit v (by rw [hi])
    exact hsame (w.manager.visit_tracked_ne v hi)
  | @settled i pause =>
    have hi : id ≠ i := fun hi => hsettle (by rw [hi])
    exact hsame (w.manager.finish_tracked_ne pause.rest hi)
  | @eventCalled kind i event => exact hsame (Manager.callEvent_tracked kind event id)
  | @eventEntered call =>
    exact Manager.enterEvent_eventOf? call id fun hi => hentered call rfl hi.symm
  | @eventPosted r answer =>
    refine (Manager.eventPosted_eventOf? r answer id request).trans (if_neg ?_)
    rintro ⟨hfail, hi, hr⟩
    cases answer with
    | ok => exact absurd hfail nofun
    | error source => exact hposted r source rfl hi.symm hr.symm
  | @recoveryPosted c answer =>
    have htrackers := Manager.trackers_recoveryPosted (m := w.manager) (t := w.moment) c answer
    have hevents := congrArg (fun trackers => (trackers[id]?.getD {}).events) htrackers
    exact Tracked.eventOf?_congr hevents request
  | enabled => exact Tracked.eventOf?_congr rfl request
  | anchored => exact Tracked.eventOf?_congr rfl request
  | notStarted => rfl
  | sentLate => rfl
  | closed => rfl
  | clockMoved => rfl
  | read => rfl
  | abandoned => rfl
  | unread => rfl
  | notAbandoned => rfl

theorem eventOf?_of_posted {r : EventRequest} {source : TransportError}
    (h : w.step (.eventPosted r (.error source)) = some w') :
    (w'.tracked r.producer).eventOf? r.request = none := by
  cases stepped h with
  | eventPosted =>
    have hposted := Manager.eventPosted_eventOf? (m := w.manager) (t := w.moment) r
      (.error source) r.producer r.request
    exact hposted.trans (if_pos ⟨rfl, rfl, rfl⟩)

end World

end FeedWatch
