import FeedWatch.Proofs.EventEntries

namespace FeedWatch

-- The request is that of the producer's recovery, and that one is under way, or a replay
-- of an event is entered under it.
def World.InFlight (w : World) (id : ProducerId) (purpose : Purpose) (request : RequestId) : Prop :=
  match purpose with
  | .recovery => (w.tracked id).tracker.state.isInProgress = true ∧
      (w.tracked id).tracker.currentRequest = some request
  | .event => request ∈ (w.tracked id).tracker.events

-- The request is in flight, or drawn for the replay of an event that is still to be entered.
def World.Uses (w : World) (d : Draw) : Prop :=
  w.InFlight d.producer d.purpose d.request ∨
    d.purpose = .event ∧
      ∃ call ∈ w.eventCalls, call.producer = d.producer ∧ call.request = d.request

-- The calls for event replays that are still to be entered.
theorem World.eventCalls_step {w w' : World} {a : Act} (h : w.step a = some w') :
    (∃ kind id event, a = .requestEvent kind id event ∧
        w'.eventCalls = w.eventCalls ++ [⟨kind, id, event, w.manager.ids.next.1⟩]) ∨
      (∃ call ∈ w.eventCalls, a = .enterEvent call ∧
        w'.eventCalls = w.eventCalls.erase call) ∨
      w'.eventCalls = w.eventCalls := by
  cases stepped h with
  | eventCalled => exact .inl ⟨_, _, _, rfl, rfl⟩
  | eventEntered hcall => exact .inr (.inl ⟨_, hcall, rfl, rfl⟩)
  | _ => exact .inr (.inr rfl)

section Unknown

variable {x : Tracked} {request : RequestId} {interest : Interest} {outage : Outage}

theorem Tracked.eventAnswered_of_not_mem (h : request ∉ x.tracker.events) :
    x.eventAnswered outage request interest = (false, x) := by
  have hnone : x.tracker.eventReplay? request = none := Std.ExtTreeMap.getElem?_eq_none h
  rw [eventAnswered, hnone]

theorem Tracked.recoveryAnswered_of_not_current (h : ¬(x.tracker.state.isInProgress = true ∧
    x.tracker.currentRequest = some request)) :
    x.recoveryAnswered outage request interest = (false, x) := by
  unfold recoveryAnswered
  cases hcurrent : x.tracker.current with
  | none => rfl
  | some replay =>
    dsimp only
    rw [if_pos]
    by_cases hprogress : x.tracker.state.isInProgress = true
    · have hrequest : replay.request ≠ request := by
        intro hr
        exact h ⟨hprogress, by rw [Tracker.currentRequest, hcurrent, Option.map_some, hr]⟩
      simp [Tracker.isPerformingRecovery, hprogress, hrequest]
    · simp [Tracker.isPerformingRecovery, hprogress]

theorem Visit.replayEnd_of_unknown {sc : Scene} {ids : RequestIds}
    (hevent : request ∉ x.tracker.events)
    (hrecovery : ¬(x.tracker.state.isInProgress = true ∧
      x.tracker.currentRequest = some request)) :
    replayEnd request interest sc ⟨x, ids⟩ = .ok {} ⟨x, ids⟩ := by
  simp only [replayEnd, Handler.bind_run, Handler.ask_run, Handler.tracker_run,
    Handler.examine_run, Handler.ite_run, Handler.pure_run,
    Tracked.eventAnswered_of_not_mem hevent, Tracked.recoveryAnswered_of_not_current hrecovery,
    Bool.false_eq_true, if_false, ite_self]

end Unknown

namespace Manager

variable {m : Manager} {id : ProducerId}

-- The desk of a tracked producer is put back as it was.
theorem putDesk_desk {tracker : Tracker} (h : m.trackers[id]? = some tracker) :
    m.putDesk id (m.desk id) = m := by
  have htrackers : m.trackers.insert id tracker = m.trackers := by
    ext j : 1
    rw [Std.ExtTreeMap.getElem?_insert]
    split <;> rename_i hj
    · rw [← Std.LawfulEqOrd.eq_of_compare hj, h]
    · rfl
  simp only [putDesk, desk, h, Option.getD_some, htrackers, put_listing]

end Manager

-- The end of a replay that its producer does not wait for changes nothing and is told to
-- nobody, whatever the directory answers.
theorem Service.run_of_unknown {s : Service} {id : ProducerId} {request : RequestId}
    (hevent : request ∉ (s.manager.tracked id).tracker.events)
    (hrecovery : ¬((s.manager.tracked id).tracker.state.isInProgress = true ∧
      (s.manager.tracked id).tracker.currentRequest = some request))
    (t : Moment) (interest : Interest) :
    s.run t (Errand.replayEnded id request interest) = (s, .finished) := by
  have hvisit : s.manager.visit t id (.replayEnded request interest) = ({}, s.manager) := by
    unfold Manager.visit
    cases htracker : s.manager.trackers[id]? with
    | none => rfl
    | some tracker =>
      have hrun : (Visit.replayEnded request interest).start (s.manager.scene t)
          (s.manager.desk id) = .ok {} (s.manager.desk id) :=
        Visit.replayEnd_of_unknown hevent hrecovery
      simp only [Manager.hold, hrun, Manager.putDesk_desk htracker]
      rfl
  simp only [run, Errand.replayEnded, hvisit, settle?, announce?, Manager.finish, if_true]
  rfl

namespace Run

variable {w₀ w w' : World} {past : List Step} {a : Act} {id : ProducerId} {request : RequestId}

-- A replay of an event that is entered was so before, or is entered by this step.
theorem eventOf?_of_step (h : Run w₀ past w) (hvalid : w₀.IsValid) (hstep : w.step a = some w')
    {event : Urn} (hentered : (w'.tracked id).eventOf? request = some event) :
    (w.tracked id).eventOf? request = some event ∨
      ∃ call, a = .enterEvent call ∧ call.producer = id ∧ call.request = request := by
  cases h.moved hvalid hstep id with
  | visited _ _ hvisit =>
    obtain ⟨hgone, hkept⟩ := hvisit.eventOf? request
    by_cases hfall : (w.tracked id).GoesDown (w'.tracked id)
    · exact absurd ((hgone hfall).symm.trans hentered) nofun
    · exact .inl ((hkept hfall).symm.trans hentered)
  | @settled pause _ _ _ _ hfinish =>
    obtain ⟨hgone, hkept⟩ := hfinish.eventOf? request
    by_cases hdone : pause.rest = .eventDone request
    · exact absurd ((hgone hdone).symm.trans hentered) nofun
    · exact .inl ((hkept hdone).symm.trans hentered)
  | touched hvisit hsettle =>
    by_cases hcall : ∃ call, a = .enterEvent call ∧ call.producer = id ∧ call.request = request
    · exact .inr hcall
    · by_cases hposted : ∃ r source, a = .eventPosted r (.error source) ∧ r.producer = id ∧
          r.request = request
      · obtain ⟨r, source, rfl, rfl, rfl⟩ := hposted
        have hgone : (w'.tracked r.producer).eventOf? r.request = none :=
          World.eventOf?_of_posted hstep
        exact absurd (hgone.symm.trans hentered) nofun
      · have hsame := World.eventOf?_of_aside hstep hvisit hsettle
          (fun call ha hr heq => hcall ⟨call, ha, hr, heq.symm⟩)
          (fun r source ha hr heq => hposted ⟨r, source, ha, hr, heq⟩)
        exact .inl (hsame.symm.trans hentered)

-- A request that is in flight was so before, or is drawn for a recovery by this step, or was
-- drawn for the replay of an event that this step enters.
theorem inFlight_of_step (h : Run w₀ past w) (hstart : w₀.IsFresh) (hodd : w₀.DrawsOdd)
    (hstep : w.step a = some w') {purpose : Purpose} (hflight : w'.InFlight id purpose request) :
    w.InFlight id purpose request ∨
      purpose = .recovery ∧ (Step.mk w a w').draw? = some ⟨request, id, .recovery⟩ ∨
      purpose = .event ∧
        ∃ call ∈ w.eventCalls, a = .enterEvent call ∧ call.producer = id ∧ call.request = request := by
  cases purpose with
  | recovery =>
    obtain ⟨hprogress, hcurrent⟩ := hflight
    obtain hbefore | hdraw := h.isInProgress_of_step hstart hodd hstep hprogress hcurrent
    · exact .inl hbefore
    · exact .inr (.inl ⟨rfl, hdraw⟩)
  | event =>
    obtain ⟨event, hevent⟩ := Tracked.mem_events_iff.mp hflight
    obtain hbefore | ⟨call, rfl, hcall⟩ := h.eventOf?_of_step hstart.isValid hstep hevent
    · exact .inl (Tracked.mem_events_iff.mpr ⟨_, hbefore⟩)
    · cases World.stepped hstep with
      | eventEntered hmem => exact .inr (.inr ⟨rfl, call, hmem, rfl, hcall⟩)

-- An id that is used was so before, or is drawn by this step.
theorem uses_of_step (h : Run w₀ past w) (hstart : w₀.IsFresh) (hodd : w₀.DrawsOdd)
    (hstep : w.step a = some w') {d : Draw} (huses : w'.Uses d) :
    w.Uses d ∨ (Step.mk w a w').draw? = some d := by
  obtain ⟨drawn, producer, purpose⟩ := d
  obtain hflight | ⟨hpurpose, call, hcall, hproducer, hrequest⟩ := huses
  · obtain hbefore | ⟨hpurpose, hdraw⟩ | ⟨hpurpose, call, hcall, -, hsame⟩ :=
      h.inFlight_of_step hstart hodd hstep hflight
    · exact .inl (.inl hbefore)
    · obtain rfl := hpurpose
      exact .inr hdraw
    · exact .inl (.inr ⟨hpurpose, call, hcall, hsame⟩)
  · obtain ⟨kind, id, event, rfl, hcalls⟩ | ⟨entered, -, -, hcalls⟩ | hcalls :=
      World.eventCalls_step hstep
    · rw [hcalls, List.mem_append, List.mem_singleton] at hcall
      obtain hbefore | rfl := hcall
      · exact .inl (.inr ⟨hpurpose, call, hbefore, hproducer, hrequest⟩)
      · obtain rfl := hpurpose
        obtain rfl := hproducer
        obtain rfl := hrequest
        exact .inr (h.draw?_of_requestEvent hstart.isValid hodd (World.ids_of_requestEvent hstep))
    · exact .inl (.inr ⟨hpurpose, call, List.mem_of_mem_erase (hcalls ▸ hcall), hproducer, hrequest⟩)
    · exact .inl (.inr ⟨hpurpose, call, hcalls ▸ hcall, hproducer, hrequest⟩)

theorem mem_draws_of_uses (h : Run w₀ past w) (hstart : w₀.IsFresh) (hodd : w₀.DrawsOdd) {d : Draw}
    (huses : w.Uses d) : d ∈ draws past := by
  refine h.mem_draws_of (P := (World.Uses · d)) (fun hfirst => ?_)
    (fun _ _ _ _ hrun hstep => hrun.uses_of_step hstart hodd hstep) huses
  obtain ⟨request, id, purpose⟩ := d
  obtain hflight | ⟨-, call, hcall, -⟩ := hfirst
  · have htracker := (hstart.listing id).1
    cases purpose with
    | recovery =>
      have hprogress := hflight.1
      rw [htracker] at hprogress
      exact absurd hprogress nofun
    | event =>
      have hentered : request ∈ (w₀.tracked id).tracker.events := hflight
      rw [htracker] at hentered
      exact absurd hentered Std.ExtTreeMap.not_mem_empty
  · exact absurd (hstart.eventCalls ▸ hcall) List.not_mem_nil

theorem mem_draws_of_inFlight (h : Run w₀ past w) (hstart : w₀.IsFresh) (hodd : w₀.DrawsOdd)
    {purpose : Purpose} (hflight : w.InFlight id purpose request) :
    ⟨request, id, purpose⟩ ∈ draws past :=
  h.mem_draws_of_uses hstart hodd (.inl hflight)

theorem mem_draws_of_call (h : Run w₀ past w) (hstart : w₀.IsFresh) (hodd : w₀.DrawsOdd)
    {call : EventCall} (hcall : call ∈ w.eventCalls) :
    ⟨call.request, call.producer, .event⟩ ∈ draws past :=
  h.mem_draws_of_uses hstart hodd (.inr ⟨rfl, call, hcall, rfl, rfl⟩)

theorem mem_draws_of_before (h : Run w₀ past w) (hstart : w₀.IsFresh) (hodd : w₀.DrawsOdd)
    {s : Step} (hs : s ∈ past) {purpose : Purpose} (hbefore : s.before.InFlight id purpose request) :
    ⟨request, id, purpose⟩ ∈ draws past := by
  obtain ⟨later, earlier, rfl⟩ := List.append_of_mem hs
  have hdrawn := h.split.1.mem_draws_of_inFlight hstart hodd hbefore
  exact mem_draws_append.mpr (.inr (mem_draws_cons.mpr (.inr hdrawn)))

-- Calls that are still to be entered have ids of their own.
theorem nodup_eventCalls (h : Run w₀ past w) (hstart : w₀.IsFresh) (hodd : w₀.DrawsOdd)
    (hfew : (draws past).length < 2 ^ 32) : (w.eventCalls.map EventCall.request).Nodup := by
  induction h with
  | start => simp [hstart.eventCalls]
  | @step past w w' a hrun hstep ih =>
    have hlength := length_draws_le_cons ⟨w, a, w'⟩ past
    have hbefore := ih (by omega)
    obtain ⟨kind, id, event, rfl, hcalls⟩ | ⟨call, -, -, hcalls⟩ | hcalls :=
      World.eventCalls_step hstep
    · have hdraw : (Step.mk w (.requestEvent kind id event) w').draw? = _ :=
        hrun.draw?_of_requestEvent hstart.isValid hodd (World.ids_of_requestEvent hstep)
      rw [hcalls, List.map_append, List.nodup_append]
      refine ⟨hbefore, List.nodup_singleton _, fun request hold request' hrequest' => ?_⟩
      obtain ⟨call, hcall, rfl⟩ := List.mem_map.mp hold
      obtain rfl := List.mem_singleton.mp hrequest'
      exact hrun.request_ne hstart.isValid hodd hstep hfew hdraw
        (hrun.mem_draws_of_call hstart hodd hcall)
    · rw [hcalls]
      exact (List.erase_sublist.map _).nodup hbefore
    · rwa [hcalls]

-- Nothing was ever in flight under the id of a call that is still to be entered.
theorem not_inFlight_of_call (h : Run w₀ past w) (hstart : w₀.IsFresh) (hodd : w₀.DrawsOdd)
    (hfew : (draws past).length < 2 ^ 32) {call : EventCall} (hcall : call ∈ w.eventCalls)
    (id : ProducerId) (purpose : Purpose) :
    ¬w.InFlight id purpose call.request ∧ ∀ s ∈ past, ¬s.before.InFlight id purpose call.request := by
  induction h with
  | start => exact absurd (hstart.eventCalls ▸ hcall) List.not_mem_nil
  | @step past w w' a hrun hstep ih =>
    have hlength := length_draws_le_cons ⟨w, a, w'⟩ past
    have hnew {d d' : Draw} (hdraw : (Step.mk w a w').draw? = some d) (hd' : d' ∈ draws past) :
        d'.request ≠ d.request := hrun.request_ne hstart.isValid hodd hstep hfew hdraw hd'
    rw [List.forall_mem_cons]
    by_cases hold : call ∈ w.eventCalls
    · obtain ⟨hnow, hpast⟩ := ih (by omega) hold
      refine ⟨fun hflight => ?_, hnow, hpast⟩
      obtain hbefore | ⟨-, hdraw⟩ | ⟨-, entered, hentered, rfl, -, hsame⟩ :=
        hrun.inFlight_of_step hstart hodd hstep hflight
      · exact hnow hbefore
      · exact hnew hdraw (hrun.mem_draws_of_call hstart hodd hold) rfl
      · have hnodup := hrun.nodup_eventCalls hstart hodd (by omega)
        obtain rfl := List.inj_on_of_nodup_map hnodup hentered hold hsame
        cases World.stepped hstep with
        | eventEntered => exact hnodup.of_map.not_mem_erase hcall
    · obtain ⟨kind, i, event, rfl, hcalls⟩ | ⟨entered, -, -, hcalls⟩ | hcalls :=
        World.eventCalls_step hstep
      · have hdraw : (Step.mk w (.requestEvent kind i event) w').draw? = _ :=
          hrun.draw?_of_requestEvent hstart.isValid hodd (World.ids_of_requestEvent hstep)
        have hrequest : call.request = w.manager.ids.next.1 := by
          rw [hcalls, List.mem_append, List.mem_singleton] at hcall
          rw [hcall.resolve_left hold]
        have hbefore : ¬w.InFlight id purpose call.request := fun hflight =>
          hnew hdraw (hrun.mem_draws_of_inFlight hstart hodd hflight) hrequest
        refine ⟨fun hflight => ?_, hbefore, fun s hs hflight => ?_⟩
        · obtain hflight' | ⟨-, hdraw'⟩ | ⟨-, entered, -, hact, -⟩ :=
            hrun.inFlight_of_step hstart hodd hstep hflight
          · exact hbefore hflight'
          · exact absurd (hdraw.symm.trans hdraw') (by simp)
          · exact absurd hact nofun
        · exact hnew hdraw (hrun.mem_draws_of_before hstart hodd hs hflight) hrequest
      · exact absurd (List.mem_of_mem_erase (hcalls ▸ hcall)) hold
      · exact absurd (hcalls ▸ hcall) hold

-- A request that is no longer in flight is in flight never again.
theorem not_inFlight_again (h : Run w₀ past w) (hstart : w₀.IsFresh) (hodd : w₀.DrawsOdd)
    (hfew : (draws past).length < 2 ^ 32) {s : Step} (hs : s ∈ past) {purpose : Purpose}
    (hbefore : s.before.InFlight id purpose request) (hafter : ¬s.after.InFlight id purpose request) :
    ¬w.InFlight id purpose request := by
  induction h with
  | start => exact absurd hs List.not_mem_nil
  | @step past w w' a hrun hstep ih =>
    obtain rfl | hs := List.mem_cons.mp hs
    · exact hafter
    · have hlength := length_draws_le_cons ⟨w, a, w'⟩ past
      intro hagain
      obtain hflight | ⟨-, hdraw⟩ | ⟨-, call, hcall, -, -, rfl⟩ :=
        hrun.inFlight_of_step hstart hodd hstep hagain
      · exact ih (by omega) hs hflight
      · exact hrun.request_ne hstart.isValid hodd hstep hfew hdraw
          (hrun.mem_draws_of_before hstart hodd hs hbefore) rfl
      · exact (hrun.not_inFlight_of_call hstart hodd (by omega) hcall id purpose).2 s hs hbefore

-- Requests that are in flight have ids of their own, each drawn once and for what it is
-- used for, and stay over once they are over. An end of replay under an id that is not in
-- flight at its producer changes nothing, and neither tells nor asks anyone anything.
theorem requests_apart (h : Run w₀ past w) (hstart : w₀.IsFresh) (hodd : w₀.DrawsOdd)
    (hfew : (draws past).length < 2 ^ 32) :
    (∀ id purpose request, w.InFlight id purpose request →
      ⟨request, id, purpose⟩ ∈ draws past ∧ ((draws past).map Draw.request).count request = 1) ∧
    (∀ id id' purpose purpose' request, w.InFlight id purpose request →
      w.InFlight id' purpose' request → id = id' ∧ purpose = purpose') ∧
    (∀ s ∈ past, ∀ id purpose request, s.before.InFlight id purpose request →
      ¬s.after.InFlight id purpose request → ¬w.InFlight id purpose request) ∧
    ∀ id request, (∀ purpose, ¬w.InFlight id purpose request) → ∀ t interest,
      w.service.run t (Errand.replayEnded id request interest) = (w.service, .finished) := by
  have hnodup := h.nodup_draws hstart.isValid hodd hfew
  refine ⟨?_, ?_, ?_, ?_⟩
  · intro id purpose request hflight
    have hdrawn := h.mem_draws_of_inFlight hstart hodd hflight
    exact ⟨hdrawn, List.count_eq_one_of_mem hnodup (List.mem_map_of_mem hdrawn)⟩
  · intro id id' purpose purpose' request hflight hflight'
    have hdrawn := h.mem_draws_of_inFlight hstart hodd hflight
    have hdrawn' := h.mem_draws_of_inFlight hstart hodd hflight'
    have hsame := List.inj_on_of_nodup_map hnodup hdrawn hdrawn' rfl
    exact ⟨congrArg Draw.producer hsame, congrArg Draw.purpose hsame⟩
  · intro s hs id purpose request hbefore hafter
    exact h.not_inFlight_again hstart hodd hfew hs hbefore hafter
  · intro id request hnot t interest
    exact Service.run_of_unknown (hnot .event) (hnot .recovery) t interest

-- A full recovery is under way when the replay of a match is asked for.
def bothActs : List Act :=
  [.start, .visit ⟨1⟩ (.alive (.uniform 600000) false .systemAliveOnly), .settle ⟨1⟩,
    .requestEvent .odds ⟨1⟩ (.ofMatch 7), .enterEvent ⟨.odds, ⟨1⟩, .ofMatch 7, ⟨2⟩⟩]

theorem both_in_flight : ∃ past w, Run World.ofLiveOdds past w ∧
    w.InFlight ⟨1⟩ .recovery ⟨1⟩ ∧ w.InFlight ⟨1⟩ .event ⟨2⟩ ∧
    ((draws past).map Draw.request).count ⟨2⟩ = 1 ∧
    w.service.run w.moment (Errand.replayEnded ⟨1⟩ ⟨3⟩ .all) = (w.service, .finished) := by
  have hrun : Run World.ofLiveOdds _ _ := Run.start.play bothActs
  have hevent : (World.ofLiveOdds.play [] bothActs).2.InFlight ⟨1⟩ .event ⟨2⟩ := by
    unfold World.InFlight
    decide +kernel
  have hnot : ∀ purpose, ¬(World.ofLiveOdds.play [] bothActs).2.InFlight ⟨1⟩ purpose ⟨3⟩ := by
    intro purpose
    unfold World.InFlight
    cases purpose <;> decide +kernel
  obtain ⟨honce, -, -, hunknown⟩ :=
    hrun.requests_apart World.isFresh_ofLiveOdds rfl (by decide +kernel)
  exact ⟨_, _, hrun, ⟨rfl, rfl⟩, hevent, (honce _ _ _ hevent).2, hunknown _ _ hnot _ _⟩

end Run

end FeedWatch
