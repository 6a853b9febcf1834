import FeedWatch.Proofs.InFlight
import FeedWatch.Proofs.Lifecycle
import FeedWatch.Proofs.StatusStream
import FeedWatch.Proofs.SystemAlive

namespace FeedWatch

namespace Step

variable (s : Step) (id : ProducerId) (request : RequestId)

-- A replay of the event is entered under the id.
def Enters (event : Urn) : Prop := ∃ kind, s.act = .enterEvent ⟨kind, id, event, request⟩

-- The visit in progress began with the end of the replay, and completed it.
def IsCompleting (past : List Step) : Prop :=
  ∃ v interest, visiting? id past = some v ∧
    v.act = .visit id (.replayEnded request interest) ∧ (v.before.tracked id).isEnabled = true ∧
    ((v.before.tracked id).eventAnswered Outage.none request interest).1 = true

-- Such a visit is settled.
def Completes (past : List Step) : Prop := s.act = .settle id ∧ IsCompleting id request past

-- What ends a replay.
inductive EndsReplay (past : List Step) : Prop where
  | completed (hcompletes : s.Completes id request past)
  | failed {r : EventRequest} {source : TransportError}
      (hact : s.act = .eventPosted r (.error source)) (hproducer : r.producer = id)
      (hrequest : r.request = request)
  | cleared (hdown : (s.before.tracked id).GoesDown (s.after.tracked id))

end Step

-- A replay of the event was entered under the id, and nothing has ended it since.
def IsAwaited (id : ProducerId) (request : RequestId) (event : Urn) : List Step → Prop
  | [] => False
  | s :: past => s.Enters id request event ∨
      ¬s.EndsReplay id request past ∧ IsAwaited id request event past

def Notification.replayed? : Notification → Option EventReplayed
  | statusChange _ => none
  | eventReplayed replay => some replay

-- The ends of replays that the user was told of, in order.
def toldReplays : List Step → List EventReplayed
  | [] => []
  | s :: past => toldReplays past ++ (s.before.delivered s.act).filterMap Notification.replayed?

theorem mem_toldReplays {n : EventReplayed} {past : List Step} (h : n ∈ toldReplays past) :
    ∃ later s earlier, past = later ++ s :: earlier ∧
      .eventReplayed n ∈ s.before.delivered s.act := by
  induction past with
  | nil => exact absurd h List.not_mem_nil
  | cons s past ih =>
    obtain hpast | hlast := List.mem_append.mp h
    · obtain ⟨later, t, earlier, rfl, ht⟩ := ih hpast
      exact ⟨s :: later, t, earlier, rfl, ht⟩
    · obtain ⟨m, hm, hreplay⟩ := List.mem_filterMap.mp hlast
      cases m with
      | statusChange => exact absurd hreplay nofun
      | eventReplayed => exact ⟨[], s, past, rfl, Option.some.inj hreplay ▸ hm⟩

-- A step tells of the end of one replay at most.
theorem World.replays_delivered (w : World) (a : Act) :
    (w.delivered a).filterMap Notification.replayed? = [] ∨ ∃ n, .eventReplayed n ∈ w.delivered a ∧
      (w.delivered a).filterMap Notification.replayed? = [n] := by
  have hawaited (id : ProducerId) :
      (w.awaited id).filterMap Notification.replayed? = [] ∨ ∃ n, .eventReplayed n ∈ w.awaited id ∧
        (w.awaited id).filterMap Notification.replayed? = [n] := by
    rw [awaited]
    cases w.held[id]?.bind Pause.notification with
    | none => exact .inl rfl
    | some m =>
      cases m with
      | statusChange => exact .inl rfl
      | eventReplayed n => exact .inr ⟨n, List.mem_singleton_self _, rfl⟩
  cases a with
  | settle id =>
    rw [delivered]
    split
    · exact hawaited id
    · exact .inl rfl
  | sendLate id => exact hawaited id
  | _ => exact .inl rfl

section Completing

variable {sc : Scene} {x : Tracked} {request : RequestId} {interest : Interest}

theorem Tracked.mem_events_of_eventAnswered {outage : Outage}
    (h : (x.eventAnswered outage request interest).1 = true) : request ∈ x.tracker.events := by
  by_cases hmem : request ∈ x.tracker.events
  · exact hmem
  · rw [eventAnswered_of_not_mem hmem] at h
    exact absurd h nofun

-- The end of a replay that is complete is told, and the replay is over once that is done.
theorem Visit.replayEnd_of_answered (ids : RequestIds) (hmem : sc.outage = Outage.none)
    (hx : x.isEnabled = true) {p : Producer} (hp : x.producer Outage.none = .ok p) {event : Urn}
    (hevent : x.eventOf? request = some event)
    (h : (x.eventAnswered Outage.none request interest).1 = true) :
    replayEnd request interest sc ⟨x, ids⟩ =
      .ok {
        notification := if sc.isOpen then some (.eventReplayed {
          producer := p, stamp := .uniform sc.now, event, request }) else none
        rest := .eventDone request } ⟨(x.eventAnswered Outage.none request interest).2, ids⟩ := by
  have hknown : x.tracker.knows request = true := by
    simp [Tracker.knows, Tracked.mem_events_iff.mpr ⟨event, hevent⟩]
  have hkept : (x.eventAnswered Outage.none request interest).2.eventOf? request = some event :=
    (Tracked.eventOf?_eventAnswered _ _).trans hevent
  obtain ⟨replay, hreplay, rfl⟩ := Option.map_eq_some_iff.mp hkept
  have hproducer :
      (x.eventAnswered Outage.none request interest).2.producer Outage.none = .ok p := by
    obtain ⟨events, he⟩ := x.eventAnswered_eq Outage.none request interest
    rw [he]
    exact hp
  rw [replayEnd_run ids hmem hx hknown interest]
  dsimp only
  rw [if_pos h]
  simp only [eventOver, Handler.bind_run, Handler.producerId_run, Handler.tracker_run, hreplay,
    Handler.lookUp_run, hmem, hproducer, Handler.read_run, Handler.announce_run, Handler.pure_run]

end Completing

theorem Manager.visit_of_answered {m : Manager} {t : Moment} {id : ProducerId}
    (hmem : t.outage = Outage.none) (hx : (m.tracked id).isEnabled = true) {p : Producer}
    (hp : (m.tracked id).producer Outage.none = .ok p) {request : RequestId} {interest : Interest}
    {event : Urn} (hevent : (m.tracked id).eventOf? request = some event)
    (h : ((m.tracked id).eventAnswered Outage.none request interest).1 = true) :
    (m.visit t id (.replayEnded request interest)).1 = {
      notification := if m.isOpen then some (.eventReplayed {
        producer := p, stamp := .uniform t.now, event, request }) else none
      rest := .eventDone request } := by
  have hstart : (Visit.replayEnded request interest).start (m.scene t) (m.desk id) = .ok _ _ :=
    Visit.replayEnd_of_answered m.ids hmem hx hp hevent h
  unfold visit
  cases htracker : m.trackers[id]? with
  | none =>
    have hentered := Tracked.mem_events_of_eventAnswered h
    simp [tracked, desk, htracker] at hentered
  | some tracker =>
    simp only [hold, hstart]
    rfl

-- Only a visit that saw the end of a complete replay ends it.
theorem Visited.of_eventDone {sc : Scene} {x y : Tracked} {v : Visit} {pause : Pause}
    {request : RequestId} (h : Visited sc x v pause y) (hrest : pause.rest = .eventDone request) :
    (∃ interest, v = .replayEnded request interest ∧ x.isEnabled = true ∧
      (x.eventAnswered Outage.none request interest).1 = true) ∧
      ∀ r, y.eventOf? r = x.eventOf? r := by
  cases h with
  | @eventOver _ interest _ _ henabled hanswered =>
    obtain rfl := Rest.eventDone.inj hrest
    exact ⟨⟨interest, rfl, henabled, hanswered⟩, fun r => Tracked.eventOf?_eventAnswered _ _⟩
  | _ => exact absurd hrest nofun

-- What the user is told of the end of a replay.
theorem Visited.of_eventReplayed {sc : Scene} {x y : Tracked} {v : Visit} {pause : Pause}
    (h : Visited sc x v pause y) {n : EventReplayed}
    (hn : pause.notification = some (.eventReplayed n)) :
    pause.rest = .eventDone n.request ∧ y.eventOf? n.request = some n.event ∧
      x.producer Outage.none = .ok n.producer := by
  have hnotice {z : Tracked} {reason : StatusReason}
      (hz : sc.notice z reason = some (.eventReplayed n)) : False := by
    unfold Scene.notice at hz
    split at hz
    · cases hz
    · split at hz
      · cases hz
      · split at hz
        · cases hz
        · cases hz
  cases h with
  | @eventOver request _ replay p _ _ hreplay hp =>
    split at hn
    · obtain rfl := Notification.eventReplayed.inj (Option.some.inj hn)
      exact ⟨rfl, by rw [Tracked.eventOf?, hreplay]; rfl, hp⟩
    · cases hn
  | unsubscribedUp => exact (hnotice hn).elim
  | returned => exact (hnotice hn).elim
  | completed => exact (hnotice hn).elim
  | silent => exact (hnotice hn).elim
  | delayed => exact (hnotice hn).elim
  | _ => cases hn

namespace Run

variable {w₀ w w' : World} {past : List Step} {a : Act} {id : ProducerId} {request : RequestId}

-- While a producer is held its replays stay as they are: to enter one, or to forget one
-- whose request failed, takes hold of the producer.
theorem eventOf?_of_held {w₁ w₂ : World} {between : List Step} {pause : Pause}
    (h : Run w₁ between w₂) (hvalid : w₁.IsValid) (hheld : w₁.held[id]? = some pause)
    (hsettle : ∀ s ∈ between, s.act ≠ .settle id) :
    (w₂.tracked id).eventOf? request = (w₁.tracked id).eventOf? request := by
  induction h with
  | start => rfl
  | @step past w w' a hrun hstep ih =>
    obtain ⟨hact, hsettle⟩ := List.forall_mem_cons.mp hsettle
    obtain ⟨⟨_, hsame, -⟩, -, -⟩ := hrun.of_held hvalid hheld hsettle
    have hmem : id ∈ w.held := by
      rw [Std.ExtTreeMap.mem_iff_isSome_getElem?, hsame]
      rfl
    refine Eq.trans ?_ (ih hsettle)
    refine World.eventOf?_of_aside hstep ?_ hact ?_ ?_
    · rintro v rfl
      cases World.stepped hstep with
      | visited hfree => exact hfree hmem
    · rintro call rfl rfl
      cases World.stepped hstep with
      | eventEntered _ hfree => exact absurd hmem hfree
    · rintro r source rfl rfl
      cases World.stepped hstep with
      | eventPosted _ hfree => exact absurd hmem (hfree rfl)

end Run

-- The rest of a visit ends a replay exactly if the visit saw its end, and that completed it.
theorem IsHeldBy.eventDone_iff {w₀ w : World} {past : List Step} {id : ProducerId} {pause : Pause}
    {s : Step} {v : Visit} {earlier : List Step} (h : IsHeldBy w₀ w past id pause s v earlier)
    (hread : (s.before.tracked id).IsReadable) (request : RequestId) :
    pause.rest = .eventDone request ↔
      ∃ interest, v = .replayEnded request interest ∧ (s.before.tracked id).isEnabled = true ∧
        ((s.before.tracked id).eventAnswered Outage.none request interest).1 = true := by
  constructor
  · intro hrest
    exact (h.visited.of_eventDone hrest).1
  · rintro ⟨interest, rfl, henabled, hanswered⟩
    obtain ⟨p, hp⟩ := hread
    obtain ⟨event, hevent⟩ :=
      Tracked.mem_events_iff.mp (Tracked.mem_events_of_eventAnswered hanswered)
    rw [← h.pause_eq, Manager.visit_of_answered (t := s.before.moment) rfl henabled hp hevent
      hanswered]

theorem Run.isCompleting_iff {w₀ w : World} {past : List Step} {id : ProducerId} {pause : Pause}
    (h : Run w₀ past w) (hstart : w₀.IsFresh) (hread : (w₀.tracked id).IsReadable)
    (hheld : w.held[id]? = some pause) (request : RequestId) :
    Step.IsCompleting id request past ↔ pause.rest = .eventDone request := by
  obtain ⟨begun, t, v, earlier, hvisit, hsame, -⟩ := h.isHeldBy hstart.isValid hstart.held hheld
  rw [← hsame, hvisit.eventDone_iff (hvisit.run.isReadable hstart.isValid hread)]
  constructor
  · rintro ⟨v', interest, hvisiting, hv, henabled, hanswered⟩
    obtain rfl := Option.some.inj (hvisiting.symm.trans hvisit.visiting)
    exact ⟨interest, (Act.visit.inj (hvisit.act.symm.trans hv)).2, henabled, hanswered⟩
  · rintro ⟨interest, rfl, henabled, hanswered⟩
    exact ⟨t, interest, hvisit.visiting, hvisit.act, henabled, hanswered⟩

namespace Run

variable {w₀ w w' : World} {past : List Step} {a : Act} {id : ProducerId} {request : RequestId}
  {event : Urn}

-- A call enters its replay, under an id that nothing was entered under.
theorem eventOf?_of_enterEvent (h : Run w₀ past w) (hstart : w₀.IsFresh) {call : EventCall}
    (hread : (w₀.tracked call.producer).IsReadable) (hnow : w.now ≠ 0)
    (hstep : w.step (.enterEvent call) = some w') :
    (w'.tracked call.producer).eventOf? call.request = some call.event := by
  cases World.stepped hstep with
  | eventEntered =>
    exact (Manager.enterEvent_of_isReadable (t := w.moment) call rfl hnow
      (h.isReadable hstart.isValid hread)).2

theorem not_entered_before (h : Run w₀ past w) (hstart : w₀.IsFresh) (hodd : w₀.DrawsOdd)
    (hfew : (draws past).length < 2 ^ 32) {call : EventCall}
    (hstep : w.step (.enterEvent call) = some w') :
    (w.tracked id).eventOf? call.request ≠ some event := by
  intro hentered
  cases World.stepped hstep with
  | eventEntered hcall =>
    exact (h.not_inFlight_of_call hstart hodd hfew hcall id .event).1
      (Tracked.mem_events_iff.mpr ⟨event, hentered⟩)

-- A replay is entered from then on, until something ends it.
theorem eventOf?_iff (h : Run w₀ past w) (hstart : w₀.IsFresh) (hodd : w₀.DrawsOdd)
    (hfew : (draws past).length < 2 ^ 32) (hnow : ∀ s ∈ past, s.before.now ≠ 0)
    (hread : (w₀.tracked id).IsReadable) :
    (w.tracked id).eventOf? request = some event ↔ IsAwaited id request event past := by
  induction h with
  | start =>
    have hnone : (w₀.tracked id).eventOf? request = none := by
      rw [Tracked.eventOf?, (hstart.listing id).1]
      exact congrArg _ Std.ExtTreeMap.getElem?_empty
    simp [IsAwaited, hnone]
  | @step past w w' a hrun hstep ih =>
    have hlength := length_draws_le_cons ⟨w, a, w'⟩ past
    have ih := ih (by omega) fun s hs => hnow s (List.mem_cons_of_mem _ hs)
    -- a step that enters nothing under the id can only end what is entered
    have hother (hnot : ¬(Step.mk w a w').Enters id request event)
        (hends : (Step.mk w a w').EndsReplay id request past →
          (w'.tracked id).eventOf? request = none)
        (hkeeps : ¬(Step.mk w a w').EndsReplay id request past →
          (w'.tracked id).eventOf? request = (w.tracked id).eventOf? request) :
        (w'.tracked id).eventOf? request = some event ↔
          IsAwaited id request event (⟨w, a, w'⟩ :: past) := by
      rw [IsAwaited, ← ih]
      by_cases hend : (Step.mk w a w').EndsReplay id request past
      · simp [hnot, hend, hends hend]
      · simp [hnot, hend, hkeeps hend]
    cases hrun.moved hstart.isValid hstep id with
    | visited _ _ hvisit =>
      obtain ⟨hgone, hkept⟩ := hvisit.eventOf? request
      refine hother (by simp [Step.Enters]) (fun hend => ?_) fun hend => ?_
      · cases hend with
        | completed hcompletes => cases hcompletes.1
        | failed hact => cases hact
        | cleared hdown => exact hgone hdown
      · exact hkept fun hdown => hend (.cleared hdown)
    | settled hheld _ _ hfinish =>
      obtain ⟨hgone, hkept⟩ := hfinish.eventOf? request
      have hcompleting : Step.IsCompleting id request past ↔ _ :=
        hrun.isCompleting_iff hstart hread hheld request
      refine hother (by simp [Step.Enters]) (fun hend => ?_) fun hend => ?_
      · cases hend with
        | completed hdone => exact hgone (hcompleting.mp hdone.2)
        | failed hact => cases hact
        | cleared hdown =>
          obtain ⟨hsame, hreason⟩ := hfinish.ended.isDown
          exact absurd hdown (Tracked.not_goesDown_of_standing hsame hreason)
      · exact hkept fun hrest => hend (.completed ⟨rfl, hcompleting.mpr hrest⟩)
    | touched hvisit hsettle _ htouched =>
      have hstays : ¬(w.tracked id).GoesDown (w'.tracked id) :=
        Tracked.not_goesDown_of_standing (congrArg Standing.isDown htouched.standing)
          (congrArg Standing.downReason htouched.standing)
      by_cases hcall : ∃ call, a = .enterEvent call ∧ call.producer = id ∧ call.request = request
      · obtain ⟨call, rfl, rfl, rfl⟩ := hcall
        have hentered : (w'.tracked call.producer).eventOf? call.request = some call.event :=
          hrun.eventOf?_of_enterEvent hstart hread (hnow _ List.mem_cons_self) hstep
        have hnew : ¬IsAwaited call.producer call.request event past := fun hold =>
          hrun.not_entered_before hstart hodd (by omega) hstep (ih.mpr hold)
        rw [IsAwaited, hentered]
        constructor
        · intro heq
          exact .inl ⟨call.kind, by rw [← Option.some.inj heq]⟩
        · rintro (⟨kind, hact⟩ | ⟨-, hold⟩)
          · exact congrArg (fun call => some call.event) (Act.enterEvent.inj hact)
          · exact absurd hold hnew
      · have henters : ¬(Step.mk w a w').Enters id request event := by
          rintro ⟨kind, hact⟩
          exact hcall ⟨_, hact, rfl, rfl⟩
        refine hother henters (fun hend => ?_) fun hend => ?_
        · cases hend with
          | completed hcompletes => exact absurd hcompletes.1 hsettle
          | failed hact hproducer hrequest =>
            obtain rfl := hact
            exact hproducer ▸ hrequest ▸ World.eventOf?_of_posted hstep
          | cleared hdown => exact absurd hdown hstays
        · refine World.eventOf?_of_aside hstep hvisit hsettle ?_ ?_
          · exact fun call ha hproducer hrequest => hcall ⟨call, ha, hproducer, hrequest.symm⟩
          · exact fun r source ha hproducer hrequest => hend (.failed ha hproducer hrequest)

-- What is told of the end of a replay is told by the visit that completes it, while the
-- replay is entered.
theorem of_told {s : Step} (h : Run w₀ past s.before) (hstart : w₀.IsFresh)
    (hread : ∀ id, (w₀.tracked id).IsReadable) {n : EventReplayed}
    (hn : .eventReplayed n ∈ s.before.delivered s.act) :
    (s.act = .settle n.producer.id ∨ s.act = .sendLate n.producer.id) ∧
      .eventReplayed n ∈ s.before.awaited n.producer.id ∧
      Step.IsCompleting n.producer.id n.request past ∧
      (s.before.tracked n.producer.id).eventOf? n.request = some n.event := by
  obtain ⟨i, hact, hawaited⟩ : ∃ i, (s.act = .settle i ∨ s.act = .sendLate i) ∧
      .eventReplayed n ∈ s.before.awaited i := by
    cases hact : s.act with
    | settle i =>
      rw [hact] at hn
      exact ⟨i, .inl rfl, (s.before.delivered_settle_sublist i).subset hn⟩
    | sendLate i =>
      rw [hact] at hn
      exact ⟨i, .inr rfl, hn⟩
    | _ => simp [hact, World.delivered] at hn
  obtain rfl : n.producer.id = i := h.awaits_own hstart hawaited
  obtain ⟨pause, hheld, hnotification⟩ :=
    Option.bind_eq_some_iff.mp (Option.mem_toList.mp hawaited)
  obtain ⟨begun, t, v, earlier, hvisit, -, rfl | ⟨-, hnone⟩⟩ :=
    h.isHeldBy hstart.isValid hstart.held hheld
  · obtain ⟨hrest, hevent, -⟩ := hvisit.visited.of_eventReplayed hnotification
    obtain ⟨between, -, hbetween, hnot⟩ := hvisit.since
    have hvalid : t.after.IsValid := (hvisit.run.step hvisit.step).isValid hstart.isValid
    refine ⟨hact, hawaited, (h.isCompleting_iff hstart (hread _) hheld n.request).mpr hrest, ?_⟩
    rw [hbetween.eventOf?_of_held hvalid hvisit.held hnot, hevent]
  · cases hnone.symm.trans hnotification

-- A replay is over once its completion is settled.
theorem eventOf?_of_completes {s : Step} (h : Run w₀ past s.before) (hstart : w₀.IsFresh)
    (hread : (w₀.tracked id).IsReadable) (hstep : s.before.step s.act = some s.after)
    (hcompletes : s.Completes id request past) :
    (s.after.tracked id).eventOf? request = none := by
  obtain ⟨hact, hcompleting⟩ := hcompletes
  rw [hact] at hstep
  cases h.moved hstart.isValid hstep id with
  | settled hheld _ _ hfinish =>
    refine (hfinish.eventOf? request).1 ?_
    exact (h.isCompleting_iff hstart hread hheld request).mp hcompleting
  | touched _ hsettle => exact absurd rfl hsettle

theorem of_mem_told (h : Run w₀ past w) (hstart : w₀.IsFresh)
    (hread : ∀ id, (w₀.tracked id).IsReadable) {n : EventReplayed} (hn : n ∈ toldReplays past) :
    ∃ later s earlier, past = later ++ s :: earlier ∧ Run w₀ earlier s.before ∧
      s.before.step s.act = some s.after ∧ Run s.after later w ∧
      (s.act = .settle n.producer.id ∨ s.act = .sendLate n.producer.id) ∧
      Step.IsCompleting n.producer.id n.request earlier ∧
      (s.before.tracked n.producer.id).eventOf? n.request = some n.event := by
  obtain ⟨later, s, earlier, rfl, htold⟩ := mem_toldReplays hn
  obtain ⟨hearlier, hcut, hlater⟩ := h.split
  obtain ⟨hact, -, hcompleting, hentered⟩ := hearlier.of_told hstart hread htold
  exact ⟨later, s, earlier, rfl, hearlier, hcut, hlater, hact, hcompleting, hentered⟩

-- A closed manager has nothing more to say of a producer than what waits already.
theorem awaited_of_closed {w₁ w₂ : World} {later : List Step} (h : Run w₁ later w₂)
    (hclosed : w₁.manager.phase = .closed) (hnone : w₁.awaited id = []) :
    w₂.manager.phase = .closed ∧ w₂.awaited id = [] := by
  induction h with
  | start => exact ⟨hclosed, hnone⟩
  | @step later w w' a hrun hstep ih =>
    obtain ⟨hclosed, hnone⟩ := ih
    have hshut := World.isOpen_of_closed hclosed
    exact ⟨World.closed_of_step hstep hclosed, World.awaited_of_shut hshut hstep hnone⟩

-- What was told is over, or its visit has nothing more to say.
theorem told_is_over (h : Run w₀ past w) (hstart : w₀.IsFresh) (hodd : w₀.DrawsOdd)
    (hfew : (draws past).length < 2 ^ 32) (hread : ∀ id, (w₀.tracked id).IsReadable)
    {n : EventReplayed} (hn : n ∈ toldReplays past) :
    ⟨n.request, n.producer.id, .event⟩ ∈ draws past ∧
      (¬w.InFlight n.producer.id .event n.request ∨ w.awaited n.producer.id = []) := by
  obtain ⟨later, s, earlier, hpast, hearlier, hstep, hlater, hact, hcompleting, hentered⟩ :=
    h.of_mem_told hstart hread hn
  have hs : s ∈ past := hpast ▸ List.mem_append_right _ List.mem_cons_self
  have hflight : s.before.InFlight n.producer.id .event n.request :=
    Tracked.mem_events_iff.mpr ⟨_, hentered⟩
  refine ⟨h.mem_draws_of_before hstart hodd hs hflight, ?_⟩
  obtain hact | hact := hact
  · refine .inl (h.not_inFlight_again hstart hodd hfew hs hflight fun hagain => ?_)
    have hover := hearlier.eventOf?_of_completes hstart (hread _) hstep ⟨hact, hcompleting⟩
    exact (Tracked.mem_events_iff.mp hagain).elim fun _ hagain => nomatch hover.symm.trans hagain
  · rw [hact] at hstep
    obtain ⟨hclosed, hnone⟩ := World.of_sendLate hstep
    exact .inr (hlater.awaited_of_closed hclosed hnone).2

-- The end of a replay is told once: no other replay has its id, and this one is over, or is
-- brought to its end by a visit that has told of it.
theorem nodup_told (h : Run w₀ past w) (hstart : w₀.IsFresh) (hodd : w₀.DrawsOdd)
    (hfew : (draws past).length < 2 ^ 32) (hread : ∀ id, (w₀.tracked id).IsReadable) :
    ((toldReplays past).map EventReplayed.request).Nodup := by
  induction h with
  | start => exact List.nodup_nil
  | @step past w w' a hrun hstep ih =>
    have hlength := length_draws_le_cons ⟨w, a, w'⟩ past
    have hfew' : (draws past).length < 2 ^ 32 := by omega
    rw [toldReplays]
    obtain hnothing | ⟨n, hn, hone⟩ := w.replays_delivered a
    · rw [hnothing, List.append_nil]
      exact ih hfew'
    · obtain ⟨-, hawaited, -, hnow⟩ := of_told (s := ⟨w, a, w'⟩) hrun hstart hread hn
      have hflight : w.InFlight n.producer.id .event n.request :=
        Tracked.mem_events_iff.mpr ⟨_, hnow⟩
      rw [hone, List.map_append]
      refine List.nodup_append.mpr ⟨ih hfew', List.nodup_singleton _, ?_⟩
      rintro _ hold _ hnew rfl
      obtain ⟨n', hn', hrequest⟩ := List.mem_map.mp hold
      rw [List.mem_singleton.mp hnew] at hrequest
      obtain ⟨hdrawn, hover⟩ := hrun.told_is_over hstart hodd hfew' hread hn'
      rw [hrequest] at hdrawn hover
      have hsame := List.inj_on_of_nodup_map (hrun.nodup_draws hstart.isValid hodd hfew') hdrawn
        (hrun.mem_draws_of_inFlight hstart hodd hflight) rfl
      have hid : n'.producer.id = n.producer.id := congrArg Draw.producer hsame
      rw [hid] at hover
      obtain hover | hnone := hover
      · exact hover hflight
      · exact absurd (hnone ▸ hawaited) List.not_mem_nil

end Run

namespace World

variable {w w' : World} {a : Act}

theorem eventCalls_of_requestEvent {kind : Api.EventReplayKind} {id : ProducerId} {event : Urn}
    (h : w.step (.requestEvent kind id event) = some w') :
    w'.eventCalls = w.eventCalls ++ [⟨kind, id, event, w.manager.ids.next.1⟩] := by
  cases stepped h with
  | eventCalled => rfl

theorem mem_eventCalls_of_enterEvent {call : EventCall} (h : w.step (.enterEvent call) = some w') :
    call ∈ w.eventCalls := by
  cases stepped h with
  | eventEntered hcall => exact hcall

theorem eventRequests_of_enterEvent {call : EventCall} (h : w.step (.enterEvent call) = some w') :
    w'.eventRequests =
      w.eventRequests ++ (w.manager.enterEvent w.moment call).1.toOption.toList := by
  cases stepped h with
  | eventEntered => rfl

-- A request that is out was put out as its replay was entered.
theorem mem_eventRequests_step (h : w.step a = some w') {r : EventRequest}
    (hr : r ∈ w'.eventRequests) :
    r ∈ w.eventRequests ∨
      (Step.mk w a w').Enters r.producer r.request r.event := by
  cases stepped h with
  | @eventEntered call =>
    refine (List.mem_append.mp hr).imp_right fun hlast => ?_
    rw [Manager.enterEvent_eq] at hlast
    cases hname : (w.manager.tracked call.producer).name w.moment.outage with
    | ok name =>
      rw [hname] at hlast
      obtain rfl := List.mem_singleton.mp hlast
      exact ⟨call.kind, rfl⟩
    | error e =>
      rw [hname] at hlast
      exact absurd hlast List.not_mem_nil
  | eventPosted => exact .inl (List.mem_of_mem_erase hr)
  | _ => exact .inl hr

end World

namespace Run

variable {w₀ w : World} {past : List Step} {id : ProducerId} {request : RequestId} {event : Urn}

theorem sent_sublist (h : Run w₀ past w) (hstart : w₀.IsFresh) :
    (w.sent.filterMap Notification.replayed?).Sublist (toldReplays past) := by
  induction h with
  | start =>
    obtain ⟨config, descriptors, fallback, ids, now, -, rfl⟩ := hstart.eq
    exact List.nil_sublist _
  | step hrun hstep ih =>
    have hjoined := (World.step_sent_sublist hstep).filterMap Notification.replayed?
    rw [List.filterMap_append] at hjoined
    exact hjoined.trans (ih.append_right _)

-- What is to be entered was called for, with the id that was drawn then.
theorem exists_call (h : Run w₀ past w) (hstart : w₀.IsFresh) {call : EventCall}
    (hcall : call ∈ w.eventCalls) :
    ∃ s ∈ past, s.act = .requestEvent call.kind call.producer call.event ∧
      s.before.manager.ids.next.1 = call.request := by
  induction h with
  | start => exact absurd (hstart.eventCalls ▸ hcall) List.not_mem_nil
  | @step past w w' a hrun hstep ih =>
    have hbefore (hcall : call ∈ w.eventCalls) :
        ∃ s ∈ (⟨w, a, w'⟩ :: past : List Step),
          s.act = .requestEvent call.kind call.producer call.event ∧
            s.before.manager.ids.next.1 = call.request := by
      obtain ⟨s, hs, hcalled⟩ := ih hcall
      exact ⟨s, List.mem_cons_of_mem _ hs, hcalled⟩
    obtain ⟨kind, id, event, rfl, hcalls⟩ | ⟨_, -, -, hcalls⟩ | hcalls :=
      World.eventCalls_step hstep
    · rw [hcalls, List.mem_append, List.mem_singleton] at hcall
      obtain hold | rfl := hcall
      · exact hbefore hold
      · exact ⟨_, List.mem_cons_self, rfl, rfl⟩
    · exact hbefore (List.mem_of_mem_erase (hcalls ▸ hcall))
    · exact hbefore (hcalls ▸ hcall)

theorem entered_of_eventRequests (h : Run w₀ past w) (hstart : w₀.IsFresh) {r : EventRequest}
    (hr : r ∈ w.eventRequests) : ∃ s ∈ past, s.Enters r.producer r.request r.event := by
  induction h with
  | start =>
    obtain ⟨config, descriptors, fallback, ids, now, -, rfl⟩ := hstart.eq
    exact absurd hr List.not_mem_nil
  | step hrun hstep ih =>
    obtain hbefore | henters := World.mem_eventRequests_step hstep hr
    · obtain ⟨s, hs, henters⟩ := ih hbefore
      exact ⟨s, List.mem_cons_of_mem _ hs, henters⟩
    · exact ⟨_, List.mem_cons_self, henters⟩

-- A completion that is seen and settled in an open manager is told.
theorem delivered_of_completes {s : Step} (h : Run w₀ past s.before) (hstart : w₀.IsFresh)
    (hread : ∀ id, (w₀.tracked id).IsReadable) (hstep : s.before.step s.act = some s.after)
    (hcompletes : s.Completes id request past)
    (hentered : (s.before.tracked id).eventOf? request = some event)
    (hopen : s.before.isOpen = true)
    (hvisited : ∀ t, visiting? id past = some t → t.before.isOpen = true) :
    ∃ n, s.before.delivered s.act = [.eventReplayed n] ∧ n.producer.id = id ∧ n.event = event ∧
      n.request = request := by
  obtain ⟨hact, t, interest, hvisiting, ht, henabled, hanswered⟩ := hcompletes
  have hsettle : s.before.step (.settle id) = some s.after := hact ▸ hstep
  cases h.moved hstart.isValid hsettle id with
  | @settled pause _ hheld =>
    obtain ⟨begun, t', v, earlier, hvisit, -, rfl | ⟨hclosed, -⟩⟩ :=
      h.isHeldBy hstart.isValid hstart.held hheld
    rotate_left
    · exact absurd (hclosed.symm.trans (World.isOpen_iff.mp hopen)) nofun
    obtain rfl := Option.some.inj (hvisiting.symm.trans hvisit.visiting)
    obtain ⟨-, rfl⟩ := Act.visit.inj (hvisit.act.symm.trans ht)
    obtain ⟨p, hp⟩ := hvisit.run.isReadable hstart.isValid (hread id)
    obtain ⟨event', hevent'⟩ :=
      Tracked.mem_events_iff.mp (Tracked.mem_events_of_eventAnswered hanswered)
    have hsays := hvisit.pause_eq.symm.trans
      (Manager.visit_of_answered (t := t.before.moment) rfl henabled hp hevent' hanswered)
    have hdelivered : s.before.delivered s.act = [.eventReplayed {
        producer := p, stamp := .uniform t.before.now, event := event', request }] := by
      rw [hact, World.delivered, if_pos hopen, World.awaited_of_held hheld, hsays]
      exact congrArg Option.toList (if_pos (hvisited t hvisiting))
    obtain ⟨hact', -, -, hentered'⟩ :=
      h.of_told hstart hread (hdelivered ▸ List.mem_singleton_self _)
    obtain rfl := Act.settle.inj (hact.symm.trans (hact'.resolve_right fun hlate => Act.noConfusion (hact.symm.trans hlate)))
    exact ⟨_, hdelivered, rfl, Option.some.inj (hentered'.symm.trans hentered), rfl⟩
  | touched _ hother => exact absurd rfl hother

end Run

-- Replays of events are accounted for by the past.
structure AccountsForReplays (past : List Step) (w : World) : Prop where
  -- one is entered from its call's entry on, until something ends it
  entered : ∀ id request event,
    (w.tracked id).eventOf? request = some event ↔ IsAwaited id request event past
  -- its end is told by the visit that completes it, and only while it is entered
  told : ∀ n ∈ toldReplays past, ∃ later s earlier, past = later ++ s :: earlier ∧
    (s.act = .settle n.producer.id ∨ s.act = .sendLate n.producer.id) ∧
    Step.IsCompleting n.producer.id n.request earlier ∧
    IsAwaited n.producer.id n.request n.event earlier
  once : ((toldReplays past).map EventReplayed.request).Nodup
  -- and by nothing else
  sent : (w.sent.filterMap Notification.replayed?).Sublist (toldReplays past)
  -- where the manager was open all the while, the completion is told
  completed : ∀ later s earlier id request event, past = later ++ s :: earlier →
    s.Completes id request earlier → IsAwaited id request event earlier →
    s.before.isOpen = true → (∀ t, visiting? id earlier = some t → t.before.isOpen = true) →
    ∃ n, s.before.delivered s.act = [.eventReplayed n] ∧ n.producer.id = id ∧ n.event = event ∧
      n.request = request
  -- a call draws the id under which its replay is to be entered
  called : ∀ s ∈ past, ∀ kind id event, s.act = .requestEvent kind id event →
    s.after.eventCalls = s.before.eventCalls ++ [⟨kind, id, event, s.before.manager.ids.next.1⟩]
  -- and puts its request out as it enters it
  requested : ∀ s ∈ past, ∀ call, s.act = .enterEvent call →
    (∃ t ∈ past, t.act = .requestEvent call.kind call.producer call.event ∧
      t.before.manager.ids.next.1 = call.request) ∧
    ∃ name, s.after.eventRequests = s.before.eventRequests ++ [{ call with name }]
  -- and answers with its id as the request is answered, whatever became of the replay
  answered : ∀ r ∈ w.eventRequests,
    (∃ s ∈ past, s.Enters r.producer r.request r.event) ∧
    (w.manager.eventPosted w.moment r (.ok ())).1 = .ok r.request ∧
    ∀ source, (w.manager.eventPosted w.moment r (.error source)).1 =
      .error (.eventRecoveryFailed r.request source)

theorem Run.accountsForReplays {w₀ w : World} {past : List Step} (h : Run w₀ past w)
    (hstart : w₀.IsFresh) (hodd : w₀.DrawsOdd) (hfew : (draws past).length < 2 ^ 32)
    (hnow : ∀ s ∈ past, s.before.now ≠ 0) (hread : ∀ id, (w₀.tracked id).IsReadable) :
    AccountsForReplays past w := by
  have hbefore {later earlier : List Step} {s : Step} (hpast : past = later ++ s :: earlier)
      (hrun : Run w₀ earlier s.before) (id : ProducerId) (request : RequestId) (event : Urn) :
      (s.before.tracked id).eventOf? request = some event ↔ IsAwaited id request event earlier := by
    have hsub : earlier.Sublist past :=
      hpast ▸ ((List.sublist_cons_self s earlier).trans (List.sublist_append_right later _))
    exact hrun.eventOf?_iff hstart hodd
      (Nat.lt_of_le_of_lt (hsub.filterMap Step.draw?).length_le hfew)
      (fun t ht => hnow t (hsub.subset ht)) (hread id)
  refine {
    entered := fun id request event => h.eventOf?_iff hstart hodd hfew hnow (hread id)
    told := fun n hn => ?_
    once := h.nodup_told hstart hodd hfew hread
    sent := h.sent_sublist hstart
    completed := fun later s earlier id request event hpast => ?_
    called := fun s hs kind id event hact => ?_
    requested := fun s hs call hact => ?_
    answered := fun r hr => ⟨h.entered_of_eventRequests hstart hr, rfl, fun _ => rfl⟩ }
  · obtain ⟨later, s, earlier, hpast, hrun, -, -, hact, hcompleting, hentered⟩ :=
      h.of_mem_told hstart hread hn
    exact ⟨later, s, earlier, hpast, hact, hcompleting, (hbefore hpast hrun _ _ _).mp hentered⟩
  · intro hcompletes hawaited hopen hvisited
    obtain ⟨hrun, hstep, -⟩ := (hpast ▸ h).split
    exact hrun.delivered_of_completes hstart hread hstep hcompletes
      ((hbefore hpast hrun _ _ _).mpr hawaited) hopen hvisited
  · obtain ⟨later, earlier, rfl⟩ := List.append_of_mem hs
    obtain ⟨-, hstep, -⟩ := h.split
    rw [hact] at hstep
    exact World.eventCalls_of_requestEvent hstep
  · obtain ⟨later, earlier, rfl⟩ := List.append_of_mem hs
    obtain ⟨hrun, hstep, -⟩ := h.split
    rw [hact] at hstep
    obtain ⟨t, ht, hcalled⟩ := hrun.exists_call hstart (World.mem_eventCalls_of_enterEvent hstep)
    have ht : t ∈ later ++ s :: earlier := List.mem_append_right _ (List.mem_cons_of_mem _ ht)
    refine ⟨⟨t, ht, hcalled⟩, ?_⟩
    obtain ⟨name, hname⟩ := (Manager.enterEvent_of_isReadable (t := s.before.moment) call rfl
      (hnow s hs) (hrun.isReadable hstart.isValid (hread call.producer))).1
    refine ⟨name, ?_⟩
    rw [World.eventRequests_of_enterEvent hstep, hname]
    rfl

-- The replay of a match ends before its request is answered.
def earlyEndActs : List Act :=
  [.start, .requestEvent .odds ⟨1⟩ (.ofMatch 7), .enterEvent ⟨.odds, ⟨1⟩, .ofMatch 7, ⟨1⟩⟩, .visit ⟨1⟩ (.replayEnded ⟨1⟩ .all), .settle ⟨1⟩]

theorem Run.early_end_accounted : ∃ past w, Run World.ofLiveOdds past w ∧ AccountsForReplays past w ∧
    (toldReplays past).map EventReplayed.request = [⟨1⟩] ∧
    w.eventRequests.map EventRequest.request = [⟨1⟩] := by
  have hrun : Run World.ofLiveOdds _ _ := Run.start.play earlyEndActs
  have haccounts := hrun.accountsForReplays World.isFresh_ofLiveOdds rfl (by decide +kernel)
    (by decide +kernel) World.isReadable_ofLiveOdds
  exact ⟨_, _, hrun, haccounts, by decide +kernel, by decide +kernel⟩

end FeedWatch
