import FeedWatch.Proofs.CarefulVisits
import FeedWatch.Proofs.Lifecycle

namespace FeedWatch

namespace Act

-- The acts whose outcome depends on the clock's reading.
def ReadsClock : Act → Bool
  | .visit .. | .settle _ | .enterEvent _ => true
  | .start | .close | .sendLate _ | .recoveryPosted .. | .requestEvent .. | .eventPosted ..
  | .setEnabled .. | .setRecoveryFrom .. | .moveClock _ | .read _ | .abandon => false

-- No instant that the act brings in is before the epoch.
def IsSinceEpoch : Act → Prop
  | .visit _ v => v.IsSinceEpoch
  | .setRecoveryFrom _ recoveryFrom now => 0 ≤ recoveryFrom.toInt ∧ 0 ≤ now.toInt
  | .start | .close | .sendLate _ | .settle _ | .recoveryPosted .. | .requestEvent ..
  | .enterEvent _ | .eventPosted .. | .setEnabled .. | .moveClock _ | .read _ | .abandon => True

instance : (a : Act) → Decidable a.IsSinceEpoch
  | .visit _ v => inferInstanceAs (Decidable v.IsSinceEpoch)
  | .setRecoveryFrom _ recoveryFrom now =>
    inferInstanceAs (Decidable (0 ≤ recoveryFrom.toInt ∧ 0 ≤ now.toInt))
  | .start | .close | .sendLate _ | .settle _ | .recoveryPosted .. | .requestEvent ..
  | .enterEvent _ | .eventPosted .. | .setEnabled .. | .moveClock _ | .read _ | .abandon =>
    isTrue trivial

end Act

structure Step.IsSinceEpoch (s : Step) : Prop where
  act : s.act.IsSinceEpoch
  clock : s.act.ReadsClock = true → 0 ≤ s.before.now.toInt

instance (s : Step) : Decidable s.IsSinceEpoch :=
  decidable_of_iff (s.act.IsSinceEpoch ∧ (s.act.ReadsClock = true → 0 ≤ s.before.now.toInt))
    ⟨fun h => ⟨h.1, h.2⟩, fun h => ⟨h.act, h.clock⟩⟩

namespace Manager

variable {m : Manager} {t : Moment} {id : ProducerId}

def IsSinceEpoch (m : Manager) : Prop := ∀ id, (m.tracked id).IsSinceEpoch

theorem putDesk_isSinceEpoch {d : Desk} (hm : m.IsSinceEpoch) (hd : d.tracked.IsSinceEpoch) :
    (m.putDesk id d).IsSinceEpoch := by
  intro j
  by_cases hj : j = id
  · subst hj
    have htracker : ((m.putDesk j d).tracked j).tracker = d.tracked.tracker := by
      simp [tracked, desk, putDesk]
    refine ⟨htracker ▸ hd.tracker, ?_⟩
    intro e he
    cases hentry : d.tracked.listing.entry with
    | none =>
      have hsame : (m.putDesk j d).directory = m.directory := by
        simp only [putDesk, Directory.put, hentry]
      refine (hm j).listing e ?_
      rw [← he]
      simp only [tracked, desk, hsame]
    | some e' =>
      have hput : ((m.putDesk j d).tracked j).listing.entry = some e' := by
        simp [tracked, desk, putDesk, Directory.put, Directory.listing, hentry]
      obtain rfl := Option.some.inj (hput.symm.trans he)
      exact hd.listing e' hentry
  · rw [tracked_putDesk_ne hj]
    exact hm j

theorem visit_isSinceEpoch {v : Visit} (hvalid : m.config.validate = .ok ())
    (hnow : 0 ≤ t.now.toInt) (hm : m.IsSinceEpoch) (hv : v.IsSinceEpoch) :
    (m.visit t id v).1.rest.IsSinceEpoch ∧ (m.visit t id v).2.IsSinceEpoch := by
  obtain ⟨h, -⟩ | h := m.visit_eq_hold t id v
  · rw [h]
    exact ⟨.of_none rfl rfl, hm⟩
  · have hfollows : Careful.Follows (m.scene t) _ v.start _ :=
      Careful.start_follows hvalid hnow hv
    obtain ⟨hleft, hanswer⟩ := hfollows.leaves (hm id)
    rw [h, hold_toOption, hold_manager]
    refine ⟨?_, putDesk_isSinceEpoch hm hleft⟩
    cases ha : (v.start.leaves (m.scene t) (m.desk id)).1 with
    | none => exact .of_none rfl rfl
    | some pause => exact hanswer pause ha

theorem finish_isSinceEpoch {rest : Rest} (hvalid : m.config.validate = .ok ())
    (hnow : 0 ≤ t.now.toInt) (hm : m.IsSinceEpoch) (hrest : rest.IsSinceEpoch) :
    (m.finish t id rest).2.IsSinceEpoch := by
  unfold finish
  split
  · exact hm
  · have hfollows : Careful.Follows (m.scene t) _ rest.finish _ :=
      Careful.finish_follows hvalid hnow hrest
    obtain ⟨hleft, -⟩ := hfollows.leaves (hm id)
    dsimp only
    rw [hold_manager]
    exact putDesk_isSinceEpoch hm hleft

-- A desk on which nothing but the event replays of its producer changed.
theorem putDesk_isSinceEpoch_of_events {d : Desk} (hm : m.IsSinceEpoch)
    (hd : ∃ events, d.tracked = (m.tracked id).mapTracker ({ · with events })) :
    (m.putDesk id d).IsSinceEpoch := by
  obtain ⟨events, hd⟩ := hd
  refine putDesk_isSinceEpoch hm ?_
  rw [hd]
  exact (hm id).mapTracker fun ht => by exact ⟨ht.1, ht.2, ht.3, ht.4⟩

theorem callEvent_isSinceEpoch (hm : m.IsSinceEpoch) (kind : Api.EventReplayKind) (event : Urn) :
    (m.callEvent kind id event).2.IsSinceEpoch := by
  intro j
  rw [callEvent_tracked]
  exact hm j

theorem enterEvent_isSinceEpoch (hm : m.IsSinceEpoch) (call : EventCall) :
    (m.enterEvent t call).2.IsSinceEpoch := by
  obtain ⟨events, hset⟩ :=
    (m.tracked call.producer).tracker.setEvent_eq call.event call.request t.now
  rw [enterEvent_eq]
  cases (m.tracked call.producer).name t.outage with
  | ok name =>
    exact putDesk_isSinceEpoch_of_events hm ⟨events, by simp only [Tracked.mapTracker, hset]⟩
  | error e =>
    refine putDesk_isSinceEpoch_of_events hm ⟨events.erase call.request, ?_⟩
    simp only [Tracked.mapTracker, hset, Tracker.eventDone]

theorem eventPosted_isSinceEpoch (hm : m.IsSinceEpoch) (r : EventRequest)
    (answer : Except TransportError Unit) : (m.eventPosted t r answer).2.IsSinceEpoch := by
  cases answer with
  | ok => exact hm
  | error e => exact putDesk_isSinceEpoch_of_events (d := ⟨_, _⟩) hm ⟨_, rfl⟩

-- An entry of the directory is written, if there is one.
theorem put_isSinceEpoch {f : Entry → Entry} {l : Listing} (hm : m.IsSinceEpoch)
    (hl : (m.directory.listing id).update f = .ok l)
    (hf : ∀ e, e.IsSinceEpoch → (f e).IsSinceEpoch) :
    ({ m with directory := m.directory.put id l } : Manager).IsSinceEpoch := by
  intro j
  rw [tracked_put hl]
  split
  · exact (hm j).mapEntry hf
  · exact hm j

theorem recoveryPosted_isSinceEpoch (hm : m.IsSinceEpoch) (c : Claim)
    (answer : Except TransportError Unit) : (m.recoveryPosted t c answer).IsSinceEpoch := by
  unfold recoveryPosted
  dsimp only
  split
  · rename_i hl
    exact put_isSinceEpoch hm (Outage.of_guard hl) fun e he => ⟨he.1, he.2, he.3⟩
  · exact hm

end Manager

namespace World

variable {w w' : World} {outage : Outage} {a : Act}

-- Neither what is kept of a producer nor what is still to be done for one is before the
-- epoch.
structure IsSinceEpoch (w : World) : Prop where
  manager : w.manager.IsSinceEpoch
  held : ∀ (id : ProducerId) (pause : Pause), w.held[id]? = some pause → pause.rest.IsSinceEpoch

theorem IsFresh.isSinceEpoch (h : w.IsFresh) : w.IsSinceEpoch := by
  refine ⟨fun id => ?_, fun id pause hheld => ?_⟩
  · obtain ⟨htracker, -, hentry⟩ := h.listing id
    have hzero : 0 ≤ (0 : Instant).toInt := by decide
    refine ⟨?_, fun e he => ?_⟩
    · change (w.tracked id).tracker.IsSinceEpoch
      rw [htracker]
      exact ⟨hzero, hzero, hzero, hzero⟩
    · rw [(hentry e he).2]
      exact ⟨hzero, hzero, hzero⟩
  · rw [h.held] at hheld
    simp at hheld

-- A field of an entry is set by hand.
theorem IsSinceEpoch.written {f : Entry → Entry} {id : ProducerId}
    {answer : Except DirectoryError Listing} (hw : w.IsSinceEpoch)
    (hanswer : ∀ l, answer = .ok l → (w.manager.directory.listing id).update f = .ok l)
    (hf : ∀ e, e.IsSinceEpoch → (f e).IsSinceEpoch) :
    (w.withDirectory (w.manager.directory.written id answer)).IsSinceEpoch := by
  refine ⟨fun j => ?_, hw.held⟩
  have hj := hw.manager j
  obtain h | h := w.tracked_written f answer hanswer j
  · exact (congrArg Tracked.IsSinceEpoch h).mpr hj
  · exact (congrArg Tracked.IsSinceEpoch h).mpr (hj.mapEntry hf)

-- The configuration stays as it is.
theorem stepUnder_config (h : w.stepUnder outage a = some w') :
    w'.manager.config = w.manager.config := by
  cases steppedUnder h with
  | started hstart =>
    obtain ⟨-, -, hconfig, -⟩ := Manager.start_manager (Service.start_manager hstart)
    exact hconfig
  | notStarted => rfl
  | @visited id v => exact (Manager.visit_setting v).1
  | @settled id pause service claimed hheld hsettle =>
    simp only [Service.settle?, Option.bind_eq_bind, Option.bind_eq_some_iff] at hsettle
    obtain ⟨announced, hannounce, hfinish⟩ := hsettle
    obtain ⟨rfl, -⟩ := Prod.mk.inj (Option.some.inj hfinish)
    exact (Manager.finish_setting pause.rest).1.trans
      (congrArg Manager.config (Service.announce?_manager hannounce))
  | @recoveryPosted c answer => exact (Manager.recoveryPosted_setting c answer).1
  | @eventEntered call => exact (Manager.enterEvent_setting call).1
  | @eventPosted r answer => exact (Manager.eventPosted_setting r answer).1
  | aside ha hstep =>
    cases hstep with
    | closed => rfl
    | sentLate => rfl
    | eventCalled => rfl
    | enabled => rfl
    | anchored => rfl
    | clockMoved => rfl
    | read => rfl
    | abandoned => rfl
    | unread => rfl
    | notAbandoned => rfl
    | _ => cases ha

theorem IsSinceEpoch.step (hw : w.IsSinceEpoch) (hvalid : w.IsValid)
    (h : w.stepUnder outage a = some w') (hs : (Step.mk w a w').IsSinceEpoch) :
    w'.IsSinceEpoch := by
  obtain ⟨hact, hclock⟩ := hs
  have hm := hw.manager
  have hheld := hw.held
  cases steppedUnder h with
  | started hstart =>
    obtain ⟨-, -, -, -, htracked⟩ := Manager.start_manager (Service.start_manager hstart)
    exact ⟨fun id => (congrArg Tracked.IsSinceEpoch (htracked id)).mpr (hm id), hheld⟩
  | notStarted => exact ⟨hm, hheld⟩
  | @visited id v =>
    have hnow : 0 ≤ (w.momentUnder outage).now.toInt := hclock rfl
    obtain ⟨hrest, hleft⟩ : (w.manager.visit (w.momentUnder outage) id v).1.rest.IsSinceEpoch ∧
        (w.manager.visit (w.momentUnder outage) id v).2.IsSinceEpoch :=
      Manager.visit_isSinceEpoch hvalid hnow hm hact
    refine ⟨hleft, fun j pause hpause => ?_⟩
    rw [Std.ExtTreeMap.getElem?_insert] at hpause
    split at hpause
    · exact Option.some.inj hpause ▸ hrest
    · exact hheld j pause hpause
  | @settled id pause service claimed hpause hsettle =>
    simp only [Service.settle?, Option.bind_eq_bind, Option.bind_eq_some_iff] at hsettle
    obtain ⟨announced, hannounce, hfinish⟩ := hsettle
    obtain ⟨rfl, -⟩ := Prod.mk.inj (Option.some.inj hfinish)
    have hnow : 0 ≤ (w.momentUnder outage).now.toInt := hclock rfl
    have hmanager : announced.manager = w.manager := Service.announce?_manager hannounce
    refine ⟨?_, fun j pause' hpause' => ?_⟩
    · have hrest := hheld id pause hpause
      exact Manager.finish_isSinceEpoch (hmanager ▸ hvalid) hnow (hmanager ▸ hm) hrest
    · rw [Std.ExtTreeMap.getElem?_erase] at hpause'
      split at hpause'
      · exact absurd hpause'.symm (Option.some_ne_none pause')
      · exact hheld j pause' hpause'
  | @recoveryPosted c answer => exact ⟨Manager.recoveryPosted_isSinceEpoch hm c answer, hheld⟩
  | @eventEntered call => exact ⟨Manager.enterEvent_isSinceEpoch hm call, hheld⟩
  | @eventPosted r answer => exact ⟨Manager.eventPosted_isSinceEpoch hm r answer, hheld⟩
  | aside ha hstep =>
    cases hstep with
    | closed => exact ⟨hm, hheld⟩
    | @sentLate id pause _ _ _ hpause =>
      refine ⟨hm, fun j pause' hpause' => ?_⟩
      rw [Std.ExtTreeMap.getElem?_insert] at hpause'
      split at hpause'
      · exact Option.some.inj hpause' ▸ hheld id pause hpause
      · exact hheld j pause' hpause'
    | @eventCalled kind id event =>
      exact ⟨Manager.callEvent_isSinceEpoch hm kind event, hheld⟩
    | @enabled id enabled =>
      exact hw.written (f := ({ · with enabled })) (fun _ hl => hl)
        fun e he => ⟨he.1, he.2, he.3⟩
    | @anchored id recoveryFrom now =>
      exact hw.written (f := ({ · with recoveryFrom })) (fun _ hl => of_setRecoveryFrom hl)
        fun e he => ⟨he.1, he.2, hact.1⟩
    | clockMoved => exact ⟨hm, hheld⟩
    | read => exact ⟨hm, hheld⟩
    | abandoned => exact ⟨hm, hheld⟩
    | unread => exact ⟨hm, hheld⟩
    | notAbandoned => exact ⟨hm, hheld⟩
    | _ => cases ha

end World

namespace RunUnder

variable {w₀ w : World} {past : List Step}

theorem isValid (h : RunUnder w₀ past w) (hvalid : w₀.IsValid) : w.IsValid := by
  induction h with
  | start => exact hvalid
  | step _ _ hstep ih => exact (congrArg Config.validate (World.stepUnder_config hstep)).trans ih

-- Whatever instant is kept came from the clock, from a message or from the user.
theorem isSinceEpoch (h : RunUnder w₀ past w) (hstart : w₀.IsFresh)
    (hpast : ∀ s ∈ past, s.IsSinceEpoch) : w.IsSinceEpoch := by
  induction h with
  | start => exact hstart.isSinceEpoch
  | step hrun outage hstep ih =>
    obtain ⟨hs, hpast⟩ := List.forall_mem_cons.mp hpast
    exact (ih hpast).step (hrun.isValid hstart.isValid) hstep hs

end RunUnder

def World.sceneUnder (w : World) (outage : Outage) : Scene := w.manager.scene (w.momentUnder outage)

-- All that the manager computes fits 64 bits: done with checks it comes to the same.
structure World.IsExact (w : World) : Prop where
  inactivity : Careful.maxInactivityMillis? w.manager.config =
    some w.manager.config.maxInactivityMillis
  recovery : Careful.maxRecoveryMillis? w.manager.config =
    some w.manager.config.maxRecoveryMillis
  -- in a visit before its notification, whichever calls of the directory fail
  visit : ∀ (outage : Outage) (id : ProducerId) (v : Visit), v.IsSinceEpoch →
    Careful.start v (w.sceneUnder outage) (w.manager.desk id) =
      v.start.careful (w.sceneUnder outage) (w.manager.desk id)
  -- and in what is still to be done after it
  rest : ∀ (outage : Outage) (id : ProducerId) (pause : Pause), w.held[id]? = some pause →
    Careful.finish pause.rest (w.sceneUnder outage) (w.manager.desk id) =
      pause.rest.finish.careful (w.sceneUnder outage) (w.manager.desk id)
  anchored : ∀ (id : ProducerId) (recoveryFrom now : Instant), 0 ≤ recoveryFrom.toInt →
    0 ≤ now.toInt →
      Careful.setRecoveryFrom? (w.manager.directory.listing id) recoveryFrom now =
        some ((w.manager.directory.listing id).setRecoveryFrom recoveryFrom now)
  -- no recovery that takes up somewhere is moved to the beginning, or before it
  after : ∀ (outage : Outage) (id : ProducerId) (pause : Pause) (anchor : Instant) (c : Claim)
    (d : Desk), w.held[id]? = some pause → pause.rest.anchor? = some anchor → anchor ≠ 0 →
      pause.rest.finish (w.sceneUnder outage) (w.manager.desk id) =
        .ok (some c) d → 0 < c.after.toInt

theorem RunUnder.isExact {w₀ w : World} {past : List Step} (h : RunUnder w₀ past w)
    (hstart : w₀.IsFresh) (hpast : ∀ s ∈ past, s.IsSinceEpoch) (hnow : 0 ≤ w.now.toInt) :
    w.IsExact := by
  have hvalid : w.manager.config.validate = .ok () := h.isValid hstart.isValid
  obtain ⟨hm, hheld⟩ := h.isSinceEpoch hstart hpast
  have hfinish (outage : Outage) (id : ProducerId) {pause : Pause}
      (hpause : w.held[id]? = some pause) :
      Careful.Follows (w.sceneUnder outage) (Careful.finish pause.rest) pause.rest.finish _ :=
    Careful.finish_follows hvalid hnow (hheld id pause hpause)
  refine ⟨Careful.maxInactivityMillis?_eq hvalid, Careful.maxRecoveryMillis?_eq hvalid,
    fun outage id v hv => ?_, fun outage id pause hpause => ?_,
    fun id recoveryFrom now hfrom hnow => Careful.setRecoveryFrom?_eq _ hfrom hnow,
    fun outage id pause anchor c d hpause hanchor hzero hrun => ?_⟩
  · exact (Careful.start_follows hvalid hnow hv (w.manager.desk id) (hm id)).1
  · exact (hfinish outage id hpause (w.manager.desk id) (hm id)).1
  · obtain ⟨-, hends⟩ := hfinish outage id hpause (w.manager.desk id) (hm id)
    rw [hrun] at hends
    exact hends.1 anchor hanchor c rfl hzero

-- A recovery is asked for, and another one of its alives comes in as the clock shows the last
-- instant that there is.
def lastInstantActs : List Act :=
  [.setRecoveryFrom ⟨1⟩ 590000 600000,
    .visit ⟨1⟩ (.alive (.uniform 600000) false .systemAliveOnly), .settle ⟨1⟩,
    .moveClock (.set Int64.maxValue), .visit ⟨1⟩ (.alive (.uniform 1) true .systemAliveOnly)]

theorem RunUnder.exact_at_last_instant : ∃ past w, RunUnder World.ofLiveOdds past w ∧
    (∀ s ∈ past, s.IsSinceEpoch) ∧ past.reverse.map Step.act = .start :: .start :: lastInstantActs ∧
    w.now.toInt = 0x7fffffffffffffff ∧ w.IsExact ∧
    w.held[(⟨1⟩ : ProducerId)]?.map Pause.rest = some (.ensureRecovery 590000 (.uniform 1)) := by
  have hfailed : RunUnder World.ofLiveOdds _ World.ofLiveOdds :=
    RunUnder.start.step (a := .start) (fun _ => true) rfl
  have hopened : RunUnder World.ofLiveOdds _ World.openedLiveOdds :=
    hfailed.step (a := .start) Outage.none rfl
  have hrun := hopened.append (Run.start.play lastInstantActs)
  refine ⟨_, _, hrun, by decide +kernel, rfl, rfl, ?_, by decide +kernel⟩
  exact hrun.isExact World.isFresh_ofLiveOdds (by decide +kernel) (by decide +kernel)

end FeedWatch
