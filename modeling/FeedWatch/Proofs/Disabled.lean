import FeedWatch.Proofs.Anchors
import FeedWatch.Proofs.EventEntries
import FeedWatch.Proofs.HealthPass

namespace FeedWatch

namespace Tracked

-- What the recovery of a producer keeps is the same, but for its replays of events.
structure SameRecovery (x y : Tracked) : Prop where
  tracker : y.tracker = { x.tracker with events := y.tracker.events }
  isDown : y.isDown = x.isDown
  lastAlive : y.lastAlive = x.lastAlive

variable {x y z : Tracked}

theorem SameRecovery.refl (x : Tracked) : x.SameRecovery x := ⟨rfl, rfl, rfl⟩

theorem SameRecovery.of_eq (h : y = x) : x.SameRecovery y := h ▸ refl x

theorem SameRecovery.trans (h : x.SameRecovery y) (h' : y.SameRecovery z) : x.SameRecovery z where
  tracker := by rw [h'.tracker, h.tracker]
  isDown := h'.isDown.trans h.isDown
  lastAlive := h'.lastAlive.trans h.lastAlive

theorem Touched.sameRecovery (h : x.Touched y) : x.SameRecovery y where
  tracker := by cases h <;> rfl
  isDown := congrArg Standing.isDown h.standing
  lastAlive := congrArg Prod.fst h.anchors

end Tracked

-- Of a disabled producer a visit keeps no more than when its messages came and were processed.
theorem Visited.of_disabled {sc : Scene} {x y : Tracked} {v : Visit} {pause : Pause}
    (h : Visited sc x v pause y) (hdisabled : x.isEnabled = false) :
    pause = {} ∧ y.tracker = x.tracker ∧ x.SameRecovery y := by
  have hno (henabled : x.isEnabled = true) : False := nomatch hdisabled.symm.trans henabled
  cases h with
  | idle => exact ⟨rfl, rfl, .refl x⟩
  | @messageStarted received =>
    have hanchors := (Tracked.anchors_of_record (x.record_messaged received)).1
    exact ⟨rfl, rfl, rfl, x.isDown_messaged received, congrArg Prod.fst hanchors⟩
  | @messageEnded generated =>
    have hanchors := (Tracked.anchors_of_record (x.record_processed generated)).1
    exact ⟨rfl, rfl, rfl, congrArg Standing.isDown (x.standing_processed generated),
      congrArg Prod.fst hanchors⟩
  | _ => exact (hno ‹_›).elim

-- How a step may change the replays of events that are entered for a producer.
inductive Step.MovesEvents (id : ProducerId) (s : Step) : Prop where
  | stays (hsame : (s.after.tracked id).tracker.events = (s.before.tracked id).tracker.events)
  -- one is entered under the id that was drawn for it
  | enters {call : EventCall} (hact : s.act = .enterEvent call)
      (hdrawn : call ∈ s.before.eventCalls) (hproducer : call.producer = id)
      (hread : (s.before.tracked id).IsReadable)
      (hkept : call.request.isZero = true → s.before.now ≠ 0)
      (hafter : (s.after.tracked id).tracker.events =
        (s.before.tracked id).tracker.events.insert call.request
          { request := call.request, startedAt := s.before.now, event := call.event })
  -- at the instant 0 the id 0 takes away instead
  | clears {call : EventCall} (hact : s.act = .enterEvent call)
      (hdrawn : call ∈ s.before.eventCalls) (hproducer : call.producer = id)
      (hzero : call.request.isZero = true) (hnow : s.before.now = 0)
      (hafter : (s.after.tracked id).tracker.events =
        (s.before.tracked id).tracker.events.erase call.request)
  -- its request failed
  | fails {r : EventRequest} {source : TransportError}
      (hact : s.act = .eventPosted r (.error source)) (hproducer : r.producer = id)
      (hafter : (s.after.tracked id).tracker.events =
        (s.before.tracked id).tracker.events.erase r.request)

theorem Tracked.events_eq_empty_iff {x : Tracked} :
    x.tracker.events = ∅ ↔ ∀ request, x.eventOf? request = none := by
  constructor
  · intro h request
    simp [eventOf?, Tracker.eventReplay?, h]
  · intro h
    ext request replay : 2
    have hnone : x.tracker.events[request]? = none := by
      simpa [eventOf?, Tracker.eventReplay?] using h request
    simp [hnone]

namespace Manager

variable {m : Manager} {t : Moment} {call : EventCall}

theorem tracked_enterEvent (hmem : t.outage = Outage.none)
    (hread : (m.tracked call.producer).IsReadable) :
    (m.enterEvent t call).2.tracked call.producer =
      (m.tracked call.producer).mapTracker (·.setEvent call.event call.request t.now) := by
  obtain ⟨p, hp⟩ := hread
  have hname : (m.tracked call.producer).name t.outage = .ok p.name := by
    rw [hmem, Tracked.name, hp]
    rfl
  rw [enterEvent_eq, hname]
  exact tracked_putDesk_mapTracker _ _

-- What was entered for a producer that cannot be read is taken back.
theorem tracked_enterEvent_of_lost (hmem : t.outage = Outage.none)
    (hlost : ¬(m.tracked call.producer).IsReadable) :
    (m.enterEvent t call).2.tracked call.producer =
      ((m.tracked call.producer).mapTracker
        (·.setEvent call.event call.request t.now)).mapTracker (·.eventDone call.request) := by
  have hname : ∃ e, (m.tracked call.producer).name t.outage = .error e := by
    rw [hmem, Tracked.name]
    cases hp : (m.tracked call.producer).producer Outage.none with
    | error e => exact ⟨e, rfl⟩
    | ok p => exact absurd ⟨p, hp⟩ hlost
  obtain ⟨e, he⟩ := hname
  rw [enterEvent_eq, he]
  exact tracked_putDesk_mapTracker _ _

theorem events_enterEvent_of_lost (hmem : t.outage = Outage.none)
    (hlost : ¬(m.tracked call.producer).IsReadable)
    (hnone : (m.tracked call.producer).tracker.events = ∅) :
    ((m.enterEvent t call).2.tracked call.producer).tracker.events = ∅ := by
  rw [tracked_enterEvent_of_lost hmem hlost]
  refine Tracked.events_eq_empty_iff.mpr fun request => ?_
  rw [Tracked.eventOf?_eventDone]
  split <;> rename_i hdrawn
  · rfl
  · rw [Tracked.eventOf?_setEvent_ne hdrawn]
    exact Tracked.events_eq_empty_iff.mp hnone request

-- A call enters the replay of its event, or takes away what the id 0 stands for.
theorem events_enterEvent (hmem : t.outage = Outage.none)
    (hlost : ¬(m.tracked call.producer).IsReadable →
      (m.tracked call.producer).tracker.events = ∅) :
    ((m.enterEvent t call).2.tracked call.producer).tracker.events =
        (m.tracked call.producer).tracker.events ∨
      (m.tracked call.producer).IsReadable ∧ (call.request.isZero = true → t.now ≠ 0) ∧
        ((m.enterEvent t call).2.tracked call.producer).tracker.events =
          (m.tracked call.producer).tracker.events.insert call.request
            { request := call.request, startedAt := t.now, event := call.event } ∨
      call.request.isZero = true ∧ t.now = 0 ∧
        ((m.enterEvent t call).2.tracked call.producer).tracker.events =
          (m.tracked call.producer).tracker.events.erase call.request := by
  by_cases hread : (m.tracked call.producer).IsReadable
  · rw [tracked_enterEvent hmem hread, Tracked.mapTracker_tracker, Tracker.setEvent]
    split <;> rename_i hzero
    · exact .inr (.inr ⟨hzero.1, hzero.2, rfl⟩)
    · exact .inr (.inl ⟨hread, fun hz hnow => hzero ⟨hz, hnow⟩, rfl⟩)
  · have hnone := hlost hread
    exact .inl ((events_enterEvent_of_lost hmem hread hnone).trans hnone.symm)

theorem tracked_eventPosted (r : EventRequest) (source : TransportError) (j : ProducerId) :
    (m.eventPosted t r (.error source)).2.tracked j =
      if j = r.producer then (m.tracked j).mapTracker (·.eventDone r.request) else m.tracked j := by
  rw [eventPosted, hold_manager]
  split <;> rename_i hj
  · rw [hj]
    exact tracked_putDesk_mapTracker _ _
  · exact tracked_putDesk_ne hj

end Manager

namespace World

variable {w w' : World} {a : Act} {id : ProducerId}

-- Beside its visits only the calls for its events change which of them are entered.
theorem movesEvents_of_aside (h : w.step a = some w') (hvisit : ∀ v, a ≠ .visit id v)
    (hsettle : a ≠ .settle id)
    (hlost : ¬(w.tracked id).IsReadable → (w.tracked id).tracker.events = ∅) :
    (Step.mk w a w').MovesEvents id := by
  have hsame (htracked : w'.tracked id = w.tracked id) : (Step.mk w a w').MovesEvents id :=
    .stays (by rw [htracked])
  cases stepped h with
  | started hstart =>
    obtain ⟨-, -, -, -, htracked⟩ := Manager.start_manager (Service.start_manager hstart)
    exact hsame (htracked id)
  | @visited i v =>
    have hi : id ≠ i := fun hi => hvisit v (by rw [hi])
    exact hsame (w.manager.visit_tracked_ne v hi)
  | @settled i pause =>
    have hi : id ≠ i := fun hi => hsettle (by rw [hi])
    exact hsame (w.manager.finish_tracked_ne pause.rest hi)
  | @eventCalled kind i event => exact hsame (Manager.callEvent_tracked kind event id)
  | @eventEntered call hcall =>
    by_cases hi : id = call.producer
    · subst hi
      obtain hafter | ⟨hread, hkept, hafter⟩ | ⟨hzero, hnow, hafter⟩ :=
        Manager.events_enterEvent (t := w.moment) rfl hlost
      · exact .stays hafter
      · exact .enters rfl hcall rfl hread hkept hafter
      · exact .clears rfl hcall rfl hzero hnow hafter
    · have hne : (w.manager.enterEvent w.moment call).2.tracked id = w.manager.tracked id :=
        Manager.hold_tracked_ne _ hi
      exact hsame hne
  | @eventPosted r answer =>
    cases answer with
    | ok => exact hsame rfl
    | error source =>
      have hafter := Manager.tracked_eventPosted (m := w.manager) (t := w.moment) r source id
      split at hafter <;> rename_i hi
      · exact .fails rfl hi.symm (congrArg (·.tracker.events) hafter)
      · exact hsame hafter
  | @recoveryPosted c answer =>
    have htrackers := Manager.trackers_recoveryPosted (m := w.manager) (t := w.moment) c answer
    exact .stays (congrArg (fun trackers => (trackers[id]?.getD {}).events) htrackers)
  | _ => exact .stays rfl

end World

-- No replay of an event is ever entered for a producer that cannot be read.
theorem Run.events_of_lost {w₀ w : World} {past : List Step} {id : ProducerId} (h : Run w₀ past w)
    (hstart : w₀.IsFresh) (hlost : ¬(w.tracked id).IsReadable) :
    (w.tracked id).tracker.events = ∅ := by
  induction h with
  | start => simp [(hstart.listing id).1]
  | @step past w w' a hrun hstep ih =>
    have hsame := (Run.start.step hstep).sameDescription (hrun.isValid hstart.isValid) id
    have hbefore := ih fun hread => hlost (hsame.isReadable.mpr hread)
    have hnone := Tracked.events_eq_empty_iff.mp hbefore
    cases hrun.moved hstart.isValid hstep id with
    | visited _ _ hvisit =>
      refine Tracked.events_eq_empty_iff.mpr fun request => ?_
      by_cases hfall : (w.tracked id).GoesDown (w'.tracked id)
      · exact (hvisit.eventOf? request).1 hfall
      · exact ((hvisit.eventOf? request).2 hfall).trans (hnone request)
    | @settled pause _ _ _ _ hfinish =>
      refine Tracked.events_eq_empty_iff.mpr fun request => ?_
      by_cases hdone : pause.rest = .eventDone request
      · exact (hfinish.eventOf? request).1 hdone
      · exact ((hfinish.eventOf? request).2 hdone).trans (hnone request)
    | touched hvisit hsettle =>
      have hlost' : ¬(w.tracked id).IsReadable := fun hread => hlost (hsame.isReadable.mpr hread)
      cases World.movesEvents_of_aside hstep hvisit hsettle fun _ => hbefore with
      | stays hafter => exact hafter.trans hbefore
      | enters _ _ _ hread => exact absurd hread hlost'
      | clears _ _ _ _ _ hafter => exact hafter.trans (by rw [hbefore]; rfl)
      | fails _ _ hafter => exact hafter.trans (by rw [hbefore]; rfl)

-- Nothing but the end of a visit to a producer tells of it and claims a recovery for it, and
-- what is sent late.
theorem Run.effect_of_ne {w₀ w w' : World} {past : List Step} {a : Act} {id : ProducerId}
    (h : Run w₀ past w) (hstart : w₀.IsFresh) (hstep : w.step a = some w') (ha : a ≠ .settle id)
    (hlate : a ≠ .sendLate id) :
    ((Step.mk w a w').effect.messages.filter fun n => n.producer.id = id) = [] ∧
      ∀ c ∈ (Step.mk w a w').effect.recoveries, c.producer ≠ id := by
  cases a with
  | settle j =>
    have hj : j ≠ id := fun hj => ha (congrArg Act.settle hj)
    have habout : (Step.mk w (.settle j) w').effect.IsAbout j (w.tracked j) :=
      h.effect_isAbout hstart hstep (.inl rfl)
    refine ⟨List.filter_eq_nil_iff.mpr fun n hn => ?_, fun c hc => ?_⟩
    · simpa [habout.messages n hn] using hj
    · rw [(habout.recoveries c hc).1]
      exact hj
  | sendLate j =>
    have hj : j ≠ id := fun hj => hlate (congrArg Act.sendLate hj)
    have habout : (Step.mk w (.sendLate j) w').effect.IsAbout j (w.tracked j) :=
      h.effect_isAbout hstart hstep (.inl rfl)
    refine ⟨List.filter_eq_nil_iff.mpr fun n hn => ?_, fun c hc => absurd hc List.not_mem_nil⟩
    simpa [habout.messages n hn] using hj
  | _ => exact ⟨rfl, fun c hc => absurd hc List.not_mem_nil⟩

-- What is done to a producer while it is left alone: nothing but the calls for its events.
structure IsLeftAlone (id : ProducerId) (w : World) (window : List Step) (w' : World) : Prop where
  recovery : (w.tracked id).SameRecovery (w'.tracked id)
  untold : messagesAbout id window = []
  unclaimed : ∀ s ∈ window, ∀ c ∈ s.effect.recoveries, c.producer ≠ id
  events : ∀ s ∈ window, s.MovesEvents id

namespace IsLeftAlone

variable {id : ProducerId} {w w₁ w₂ : World} {window : List Step} {a : Act}

theorem nil : IsLeftAlone id w [] w :=
  ⟨.refl _, rfl, fun _ hs => absurd hs List.not_mem_nil, fun _ hs => absurd hs List.not_mem_nil⟩

theorem cons (h : IsLeftAlone id w window w₁)
    (hrecovery : (w₁.tracked id).SameRecovery (w₂.tracked id))
    (heffect : ((Step.mk w₁ a w₂).effect.messages.filter fun n => n.producer.id = id) = [] ∧
      ∀ c ∈ (Step.mk w₁ a w₂).effect.recoveries, c.producer ≠ id)
    (hevents : (Step.mk w₁ a w₂).MovesEvents id) :
    IsLeftAlone id w (⟨w₁, a, w₂⟩ :: window) w₂ where
  recovery := h.recovery.trans hrecovery
  untold := by rw [messagesAbout_cons, h.untold, heffect.1]; rfl
  unclaimed := List.forall_mem_cons.mpr ⟨heffect.2, h.unclaimed⟩
  events := List.forall_mem_cons.mpr ⟨hevents, h.events⟩

end IsLeftAlone

-- While a producer is disabled it is left alone. A visit to it that is under way at first
-- is not taken up.
theorem Run.disabled_is_left_alone {w₀ w w' : World} {past window : List Step} {id : ProducerId}
    (hpast : Run w₀ past w) (hstart : w₀.IsFresh) (h : Run w window w')
    (hdisabled : ∀ s ∈ window, (s.before.tracked id).isEnabled = false)
    (hbegun : id ∈ w.held → ∀ s ∈ window, s.act ≠ .settle id ∧ s.act ≠ .sendLate id) :
    IsLeftAlone id w window w' := by
  -- a visit that began since then has nothing to say and nothing left to do
  suffices hboth : IsLeftAlone id w window w' ∧
      ∀ pause, w'.held[id]? = some pause → id ∈ w.held ∨ pause = {} from hboth.1
  induction h with
  | start =>
    refine ⟨.nil, fun pause hheld => .inl ?_⟩
    exact Std.ExtTreeMap.mem_iff_isSome_getElem?.mpr (by rw [hheld]; rfl)
  | @step window w₁ w₂ a hrun hstep ih =>
    obtain ⟨hlast, hdisabled⟩ := List.forall_mem_cons.mp hdisabled
    obtain ⟨halone, hheld⟩ := ih hdisabled fun hid s hs =>
      hbegun hid s (List.mem_cons_of_mem _ hs)
    have hfull := hpast.append hrun
    cases hfull.moved hstart.isValid hstep id with
    | visited _ hpause hvisit =>
      obtain ⟨hnothing, htracker, hsame⟩ := hvisit.of_disabled hlast
      refine ⟨halone.cons hsame (hfull.effect_of_ne hstart hstep nofun nofun)
        (.stays (congrArg _ htracker)), fun pause hp => .inr ?_⟩
      rw [← Option.some.inj (hpause.symm.trans hp)]
      exact hnothing
    | settled hpause hfree =>
      have hnew : id ∉ w.held := fun hid => (hbegun hid _ List.mem_cons_self).1 rfl
      obtain rfl := (hheld _ hpause).resolve_left hnew
      obtain ⟨hmanager, -, heffect⟩ := World.settle_of_check hstep hpause rfl
      have hsame : w₂.tracked id = w₁.tracked id := congrArg (·.tracked id) hmanager
      refine ⟨halone.cons (.of_eq hsame) ?_ (.stays (congrArg (·.tracker.events) hsame)), fun pause hp => ?_⟩
      · rw [heffect]
        simp
      · exact absurd (hfree.symm.trans hp) nofun
    | touched hvisit hsettle _ htouched hkept =>
      have hlost (hunreadable : ¬(w₁.tracked id).IsReadable) :=
        hfull.events_of_lost hstart hunreadable
      have hlate : a ≠ .sendLate id := by
        rintro rfl
        cases World.stepped hstep with
        | sentLate hpause hn =>
          have hnew : id ∉ w.held := fun hid => (hbegun hid _ List.mem_cons_self).2 rfl
          obtain rfl := (hheld _ hpause).resolve_left hnew
          exact absurd hn nofun
      refine ⟨halone.cons htouched.sameRecovery (hfull.effect_of_ne hstart hstep hsettle hlate)
        (World.movesEvents_of_aside hstep hvisit hsettle hlost), fun pause hp => ?_⟩
      exact hheld pause (hkept hlate ▸ hp)

namespace World

-- There are no more than two ids to draw.
def ofFewIds : World :=
  .ofManager
    { config := {}, directory := .ofDescriptors [liveOdds] "", ids := ⟨2147483648, 2147483648⟩ }
    600000

theorem isFresh_ofFewIds : ofFewIds.IsFresh :=
  ⟨{}, [liveOdds], "", ⟨2147483648, 2147483648⟩, _, 600000, rfl, rfl⟩

-- An alive comes and a check is made, and then the recovery of events is asked for. When the
-- id 0 comes round the clock reads 0.
def disabledActs : List Act :=
  [.visit ⟨1⟩ (.alive (.uniform 600000) false .systemAliveOnly), .settle ⟨1⟩,
    .visit ⟨1⟩ .healthCheck, .settle ⟨1⟩, .requestEvent .odds ⟨1⟩ (.ofMatch 7),
    .enterEvent ⟨.odds, ⟨1⟩, .ofMatch 7, ⟨0⟩⟩, .requestEvent .odds ⟨1⟩ (.ofMatch 8),
    .enterEvent ⟨.odds, ⟨1⟩, .ofMatch 8, ⟨2147483648⟩⟩, .moveClock (.set 0),
    .requestEvent .odds ⟨1⟩ (.ofMatch 9)]

-- A first recovery completes, and the producer is disabled before it is told.
def begunActs : List Act :=
  [.start, .visit ⟨1⟩ (.alive (.uniform 600000) false .systemAliveOnly), .settle ⟨1⟩,
    .visit ⟨1⟩ (.replayEnded ⟨1⟩ .all), .setEnabled ⟨1⟩ false]

end World

-- Asking for an event may take another one away, and a visit that has begun goes on.
theorem Run.disabled_is_not_inert :
    (∃ past w w', Run World.ofFewIds past w ∧ (w.tracked ⟨1⟩).isEnabled = false ∧
      w.step (.enterEvent ⟨.odds, ⟨1⟩, .ofMatch 9, ⟨0⟩⟩) = some w' ∧
      RequestId.zero ∈ (w.tracked ⟨1⟩).tracker.events ∧
      RequestId.zero ∉ (w'.tracked ⟨1⟩).tracker.events) ∧
    ∃ past w w', Run World.ofLiveOdds past w ∧ (w.tracked ⟨1⟩).isEnabled = false ∧
      w.step (.settle ⟨1⟩) = some w' ∧
      (Notification.statuses ⟨1⟩ (messagesAbout ⟨1⟩ [⟨w, .settle ⟨1⟩, w'⟩])).map
        StatusChange.reason = [.firstRecoveryCompleted] := by
  constructor
  · exact ⟨_, _, _, Run.start.play (.setEnabled ⟨1⟩ false :: World.disabledActs), rfl, rfl,
      by decide +kernel, by decide +kernel⟩
  · exact ⟨_, _, _, Run.start.play World.begunActs, rfl, rfl, by decide +kernel⟩

theorem Run.disabled_is_only_asked : ∃ past w window w', Run World.ofFewIds past w ∧
    Run w window w' ∧ IsLeftAlone ⟨1⟩ w window w' ∧
    (w'.tracked ⟨1⟩).tracker.events.keys = [⟨2147483648⟩] := by
  have hrun : Run World.ofFewIds _ _ := Run.start.play [.setEnabled ⟨1⟩ false]
  have hwindow : Run (World.ofFewIds.play [] [.setEnabled ⟨1⟩ false]).2 _ _ :=
    Run.start.play (World.disabledActs ++ [.enterEvent ⟨.odds, ⟨1⟩, .ofMatch 9, ⟨0⟩⟩])
  have halone : IsLeftAlone ⟨1⟩ _ _ _ := hrun.disabled_is_left_alone World.isFresh_ofFewIds hwindow
    (by decide +kernel) (fun hheld => absurd hheld (by decide +kernel))
  exact ⟨_, _, _, _, hrun, hwindow, halone, by decide +kernel⟩

end FeedWatch
