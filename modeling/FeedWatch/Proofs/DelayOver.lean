import FeedWatch.Proofs.Coherence
import FeedWatch.Proofs.FirstRecovery
import FeedWatch.Proofs.HealthPass
import FeedWatch.Proofs.Opening
import FeedWatch.Proofs.Return
import FeedWatch.Proofs.SystemAlive

namespace FeedWatch

-- Neither lag of the producer, in 64 bits, reaches the inactivity limit.
def World.HasCaughtUp (w : World) (id : ProducerId) : Prop :=
  ∃ lastProcessed, (w.tracked id).lastProcessed Outage.none = .ok lastProcessed ∧
    w.now.since lastProcessed < w.manager.config.maxInactivityMillis.toInt ∧
    w.now.since (w.tracked id).tracker.lastUserAlive < w.manager.config.maxInactivityMillis.toInt

-- The same in numbers of any size.
def World.LagsBriefly (w : World) (id : ProducerId) : Prop :=
  ∃ lastProcessed, (w.tracked id).lastProcessed Outage.none = .ok lastProcessed ∧
    w.now.toInt - lastProcessed.toInt < w.manager.config.maxInactivityMillis.toInt ∧
    w.now.toInt - (w.tracked id).tracker.lastUserAlive.toInt <
      w.manager.config.maxInactivityMillis.toInt

-- Both lags fit 64 bits, and so are seen as they are.
def World.SeesLags (w : World) (id : ProducerId) : Prop :=
  w.now.IsExact (w.tracked id).tracker.lastUserAlive ∧
    ∀ lastProcessed, (w.tracked id).lastProcessed Outage.none = .ok lastProcessed →
      w.now.IsExact lastProcessed

theorem World.SeesLags.hasCaughtUp_iff {w : World} {id : ProducerId} (h : w.SeesLags id) :
    w.HasCaughtUp id ↔ w.LagsBriefly id := by
  refine exists_congr fun lastProcessed => and_congr_right fun hread => ?_
  rw [h.1, h.2 lastProcessed hread]

-- All that the producer is visited for is health checks at this time.
def IsOnlyChecked (id : ProducerId) (now : Instant) (past : List Step) : Prop :=
  ∀ s ∈ past, ∀ v, s.act = .visit id v → v = .healthCheck ∧ s.before.now = now

-- The visits to the producer change nothing of it and tell nothing.
def StaysQuiet (id : ProducerId) (past : List Step) : Prop :=
  ∀ s ∈ past, (∃ v, s.act = .visit id v) ∨ s.act = .sendLate id ∨ s.act = .settle id →
    s.after.tracked id = s.before.tracked id ∧ s.before.delivered s.act = []

section Telling

variable {sc : Scene} {x : Tracked} {s' : Standing}

-- The user was told last why a producer is down.
def Standing.IsExplained (s : Standing) : Prop :=
  s.downReason ≠ .default → s.toldReason = some s.downReason.status

theorem Standing.IsExplained.raised {s : Standing} (hcoherent : s.IsCoherent)
    (reason : UpReason) : (s.raised reason).IsExplained := by
  intro hreason
  simp only [Standing.raised] at hreason
  split at hreason <;> rename_i hup
  · exact absurd rfl hreason
  · exact absurd (hcoherent.reason hreason) hup

theorem Turned.isExplained {v : Visit} {pause : Pause} (h : Turned sc x v pause s')
    (hcoherent : x.standing.IsCoherent) (hx : x.standing.IsExplained) : s'.IsExplained := by
  cases h with
  | quiet => exact hx
  | asking => exact hx
  | checking => exact hx
  | cutOff => exact fun _ => rfl
  | returned => exact .raised hcoherent _
  | completed => exact .raised hcoherent.recovered _
  | silent => exact fun _ => rfl
  | delayed => exact fun _ => rfl

theorem Ended.isExplained {ids ids' : RequestIds} {rest : Rest} {c : Option Claim}
    (h : Ended sc x ids rest c s' ids') (hx : x.standing.IsExplained) : s'.IsExplained := by
  cases h with
  | @kept _ alive => cases alive <;> exact hx
  | @claimed _ alive => cases alive <;> exact hx
  | @givenUp _ _ alive => cases alive <;> exact hx

end Telling

theorem Run.isExplained {w₀ w : World} {past : List Step} (h : Run w₀ past w)
    (hstart : w₀.IsFresh) (id : ProducerId) : (w.tracked id).standing.IsExplained := by
  induction h with
  | start => exact hstart.standing id ▸ fun hreason => absurd rfl hreason
  | step hrun hstep ih =>
    cases hrun.moved hstart.isValid hstep id with
    | visited _ _ hvisit =>
      exact hvisit.turned.isExplained (hrun.isCoherent_standing hstart id) ih
    | settled _ _ _ hfinish => exact hfinish.ended.isExplained ih
    | touched _ _ _ htouched => exact htouched.standing ▸ ih

-- What an accepted subscribed alive comes to at a producer that is down for a delay.
theorem Visited.of_delayed {sc : Scene} {x y : Tracked} {stamp : Stamp} {pause : Pause}
    (h : Visited sc x (.alive stamp true .systemAliveOnly) pause y) (hrest : pause.rest ≠ .done)
    (hdown : x.isDown = true) (hreason : x.tracker.downReason = .queueDelay)
    (hidle : x.tracker.state.isInProgress = false) :
    sc.onTime x = true ∧ pause = {
        notification := sc.notice (x.messaged stamp.received).raised .returnedFromInactivity
        rest := .keepAlive stamp } ∧
        y = (x.messaged stamp.received).raised.told .returnedFromInactivity ∨
      sc.onTime x = false ∧ y.isDown = true := by
  have hback : sc.isBack x = sc.onTime x := by
    rw [Bool.eq_iff_iff, Standing.isBack_iff]
    simp [hdown, hidle, hreason]
  have hstays : (x.messaged stamp.received).isDown = true :=
    (Tracked.isDown_messaged _).trans hdown
  cases h with
  | idle => exact absurd rfl hrest
  | userAlive _ hinterest => exact absurd rfl hinterest
  | unreadable => exact absurd rfl hrest
  | returned _ _ _ hover => exact .inl ⟨hback.symm.trans hover, rfl, rfl⟩
  | subscribed _ _ _ hover => exact .inr ⟨hback.symm.trans hover, hstays⟩
  | calledOff _ _ _ hover => exact .inr ⟨hback.symm.trans hover, hstays⟩

theorem Finished.of_keepAlive {sc : Scene} {x y : Tracked} {ids ids' : RequestIds} {stamp : Stamp}
    {c : Option Claim} (h : Finished sc x ids (.keepAlive stamp) c y ids') :
    c = none ∧ y = x.kept stamp := by
  cases h with
  | keepAlive => exact ⟨rfl, rfl⟩

-- The user hears of a return, with the delay over, unless it was the last that was told.
theorem Scene.notice_raised {sc : Scene} {x : Tracked} {id : ProducerId}
    (hmem : sc.outage = Outage.none) (hopen : sc.isOpen = true) (hx : x.isEnabled = true)
    (hread : x.IsReadable) (haddressed : x.IsAddressed id) (htime : sc.onTime x = true)
    {reason : StatusReason} (hnews : x.tracker.toldReason ≠ some reason) :
    ∃ c, sc.notice x.raised reason = some (.statusChange c) ∧ c.producer.id = id ∧
      c.isDown = false ∧ c.isDelayed = false ∧ c.reason = reason := by
  have hraised : x.SameDescription x.raised := .raised x
  obtain ⟨p, hp⟩ := hraised.isReadable.mpr hread
  obtain ⟨hid, -⟩ := (hraised.isAddressed haddressed).producer hp
  have hup : x.raised.isFlaggedDown sc.outage = false := hmem ▸ Tracked.isDown_raised hx
  have htime' : sc.onTime x.raised = true := by
    rw [Scene.onTime_congr hmem x.timing_raised, htime]
  refine ⟨{
    producer := p
    stamp := Stamp.uniform sc.now
    isDown := x.raised.isFlaggedDown sc.outage
    isDelayed := !sc.onTime x.raised
    reason }, ?_, hid, hup, by rw [htime']; rfl, rfl⟩
  have hnews' : ¬x.raised.tracker.toldReason = some reason := hnews
  rw [notice, if_neg hnews', hmem, hp]
  dsimp only
  rw [if_pos hopen]

section Tracking

variable {w₀ w w' : World} {past : List Step} {a : Act} {id j : ProducerId}

theorem Manager.mem_trackers_start {m m' : Manager} {t : Moment} (h : m.start t = .ok m')
    (hj : j ∈ m.trackers) : j ∈ m'.trackers := by
  unfold start at h
  split at h
  · exact absurd h nofun
  · exact absurd h nofun
  · split at h
    · exact absurd h nofun
    · obtain rfl := Except.ok.inj h
      exact mem_insertIfNew_foldl.mpr (.inl hj)

-- A producer that is tracked stays so.
theorem World.mem_trackers_step (h : w.step a = some w') (hj : j ∈ w.manager.trackers) :
    j ∈ w'.manager.trackers := by
  cases stepped h with
  | started hstart => exact Manager.mem_trackers_start (Service.start_manager hstart) hj
  | visited => exact Manager.mem_trackers_visit _ hj
  | settled => exact Manager.mem_trackers_finish _ hj
  | recoveryPosted => exact (Manager.trackers_recoveryPosted _ _).symm ▸ hj
  | eventCalled => exact Std.ExtTreeMap.mem_insertIfNew.mpr (.inr hj)
  | eventEntered => exact Manager.mem_trackers_hold _ hj
  | @eventPosted r answer =>
    cases answer with
    | ok => exact hj
    | error source =>
      have hheld : j ∈ (w.manager.hold w.moment r.producer
          (Handler.track (·.eventDone r.request))).2.trackers := Manager.mem_trackers_hold _ hj
      exact hheld
  | _ => exact hj

theorem Run.mem_trackers (h : Run w₀ past w) (hj : j ∈ w₀.manager.trackers) :
    j ∈ w.manager.trackers := by
  induction h with
  | start => exact hj
  | step _ hstep ih => exact World.mem_trackers_step hstep ih

-- Only a tracked producer was ever taken down.
theorem World.IsDelayed.mem_trackers (h : w.IsDelayed id) : id ∈ w.manager.trackers := by
  by_contra huntracked
  have hnone : w.manager.trackers[id]? = none := Std.ExtTreeMap.getElem?_eq_none huntracked
  have hreason := h.2
  simp [tracked, Manager.desk, hnone] at hreason

-- A tracked producer that is not held can be checked.
theorem World.exists_step_check (hfree : w.held[id]? = none) (htracked : id ∈ w.manager.trackers) :
    ∃ w', w.step (.visit id .healthCheck) = some w' := by
  have hfree' : id ∉ w.held := by
    intro hheld
    rw [Std.ExtTreeMap.mem_iff_isSome_getElem?, hfree] at hheld
    exact absurd hheld nofun
  exact ⟨_, step_visit hfree' fun _ => htracked⟩

end Tracking

-- A check of the producer at this time finds nothing, and no visit to it has anything left.
structure World.IsFine (w : World) (id : ProducerId) (now : Instant) : Prop where
  heard : ¬(w.manager.scene { now }).isSilent (w.tracked id)
  onTime : (w.manager.scene { now }).onTime (w.tracked id) = true
  held : ∀ pause, w.held[id]? = some pause → pause = {}

theorem Manager.onTime_scene {m m' : Manager} (hconfig : m'.config = m.config) (now : Instant)
    (x : Tracked) : (m'.scene { now }).onTime x = (m.scene { now }).onTime x := by
  rw [Bool.eq_iff_iff, Scene.onTime_iff, Scene.onTime_iff]
  simp only [scene, hconfig]

theorem World.IsFine.of_same {w w' : World} {id : ProducerId} {now : Instant}
    (h : w.IsFine id now) (hconfig : w'.manager.config = w.manager.config)
    (hlast : (w'.tracked id).tracker.lastSystemAlive = (w.tracked id).tracker.lastSystemAlive)
    (htiming : (w'.tracked id).timing = (w.tracked id).timing)
    (hheld : ∀ pause, w'.held[id]? = some pause → pause = {}) : w'.IsFine id now := by
  refine ⟨?_, ?_, hheld⟩
  · have heard := h.heard
    simp only [Scene.isSilent, Manager.scene, hconfig, hlast] at heard ⊢
    exact heard
  · rw [Manager.onTime_scene hconfig, Scene.onTime_congr rfl htiming]
    exact h.onTime

-- The producer is down, and no visit to it has anything left to do.
structure World.IsAtRest (w : World) (id : ProducerId) : Prop where
  down : (w.tracked id).isDown = true
  held : ∀ pause, w.held[id]? = some pause → pause.rest = .done

namespace Run

variable {w₀ w w' : World} {past : List Step} {id : ProducerId} {now : Instant}

theorem leaves_alone (h : Run w₀ past w) (hvalid : w₀.IsValid) (hfine : w₀.IsFine id now)
    (hchecks : IsOnlyChecked id now past) : StaysQuiet id past ∧ w.IsFine id now := by
  induction h with
  | start => exact ⟨fun _ hs => absurd hs List.not_mem_nil, hfine⟩
  | @step past w w' a hrun hstep ih =>
    obtain ⟨hlast, hearlier⟩ := List.forall_mem_cons.mp hchecks
    obtain ⟨halone, hbefore⟩ := ih hearlier
    have hconfig : w'.manager.config = w.manager.config := (World.step_setting hstep).1
    cases hrun.moved hvalid hstep id with
    | @visited v pause _ hheld hvisit =>
      obtain ⟨rfl, hnow⟩ := hlast v rfl
      have hscene : w.scene = w.manager.scene { now } :=
        congrArg (fun now => w.manager.scene { now }) hnow
      rw [hscene] at hvisit
      have hsame : w'.tracked id = w.tracked id ∧ pause = {} := by
        generalize w'.tracked id = y at hvisit
        cases hvisit with
        | idle => exact ⟨rfl, rfl⟩
        | silent _ hsilent => exact absurd hsilent hbefore.heard
        | delayed _ _ hlate => exact absurd (hlate.symm.trans hbefore.onTime) Bool.false_ne_true
      obtain ⟨hafter, rfl⟩ := hsame
      refine ⟨List.forall_mem_cons.mpr ⟨fun _ => ⟨hafter, rfl⟩, halone⟩, ?_⟩
      refine hbefore.of_same hconfig (by rw [hafter]) (by rw [hafter]) fun pause hpause => ?_
      exact (Option.some.inj (hheld.symm.trans hpause)).symm
    | @settled pause _ hheld hfree _ hfinish =>
      obtain rfl := hbefore.held pause hheld
      have hafter : w'.tracked id = w.tracked id := by
        generalize w'.tracked id = y at hfinish
        generalize w'.manager.ids = ids at hfinish
        cases hfinish
        rfl
      have hdelivered : w.delivered (.settle id) = [] := by
        rw [World.delivered, World.awaited_of_held hheld]
        exact ite_self _
      refine ⟨List.forall_mem_cons.mpr ⟨fun _ => ⟨hafter, hdelivered⟩, halone⟩, ?_⟩
      refine hbefore.of_same hconfig (by rw [hafter]) (by rw [hafter]) fun pause hpause => ?_
      exact absurd (hfree.symm.trans hpause) (Option.some_ne_none pause).symm
    | touched hvisit hsettle _ htouched hkept =>
      have hlate : a ≠ .sendLate id := by
        rintro rfl
        cases World.stepped hstep with
        | sentLate hheld hn =>
          obtain rfl := hbefore.held _ hheld
          exact absurd hn (Option.some_ne_none _).symm
      refine ⟨List.forall_mem_cons.mpr ⟨?_, halone⟩, ?_⟩
      · rintro (⟨v, hv⟩ | hs | hs)
        · exact absurd hv (hvisit v)
        · exact absurd hs hlate
        · exact absurd hs hsettle
      · refine hbefore.of_same hconfig ?_ htouched.timing fun pause hpause => ?_
        · exact congrArg Standing.lastSystemAlive htouched.standing
        · exact hbefore.held pause ((hkept hlate).symm.trans hpause)

theorem stays_down (h : Run w₀ past w) (hvalid : w₀.IsValid) (hrest : w₀.IsAtRest id)
    (hchecks : IsOnlyChecked id now past) : w.IsAtRest id := by
  induction h with
  | start => exact hrest
  | @step past w w' a hrun hstep ih =>
    obtain ⟨hlast, hearlier⟩ := List.forall_mem_cons.mp hchecks
    obtain ⟨hdown, hheld⟩ := ih hearlier
    cases hrun.moved hvalid hstep id with
    | @visited v pause _ hheld' hvisit =>
      obtain ⟨rfl, -⟩ := hlast v rfl
      refine ⟨?_, fun pause' hpause => ?_⟩
      · generalize w'.tracked id = y at hvisit
        cases hvisit with
        | idle => exact hdown
        | silent henabled => exact Tracked.isDown_lowered henabled .aliveInterval
        | delayed henabled => exact Tracked.isDown_lowered henabled .queueDelay
      · obtain rfl := Option.some.inj (hheld'.symm.trans hpause)
        exact hvisit.rest_of_check
    | settled _ hfree _ hfinish =>
      refine ⟨hfinish.flag.1.trans hdown, fun pause hpause => ?_⟩
      exact absurd (hfree.symm.trans hpause) (Option.some_ne_none pause).symm
    | touched hvisit _ _ htouched =>
      refine ⟨(congrArg Standing.isDown htouched.standing).trans hdown, fun pause hpause => ?_⟩
      obtain ⟨before, hbefore, hrest, -⟩ := World.held_before hstep hvisit hpause
      exact hrest ▸ hheld before hbefore

section Answering

variable {w₁ w₂ w₃ : World} {between : List Step} {stamp : Stamp} {pause : Pause}
  (h : Run w₀ past w) (hstart : w₀.IsFresh) (henabled : (w.tracked id).isEnabled = true)
  (hdelayed : w.IsDelayed id) (hidle : (w.tracked id).tracker.state.isInProgress = false)
  (hstep : w.step (.visit id (.alive stamp true .systemAliveOnly)) = some w₁)
  (hheld : w₁.held[id]? = some pause) (hrest : pause.rest ≠ .done)

include h hstart hdelayed hidle hstep hheld hrest

-- What the alive leaves of the producer, and has still to say and to do.
theorem of_alive : w.HasCaughtUp id ∧ pause = {
      notification :=
        w.scene.notice ((w.tracked id).messaged stamp.received).raised .returnedFromInactivity
      rest := .keepAlive stamp } ∧
      w₁.tracked id =
        ((w.tracked id).messaged stamp.received).raised.told .returnedFromInactivity ∨
    ¬w.HasCaughtUp id ∧ (w₁.tracked id).isDown = true := by
  have htime : w.scene.onTime (w.tracked id) = true ↔ w.HasCaughtUp id := Scene.onTime_iff
  cases h.moved hstart.isValid hstep id with
  | touched hvisit => exact absurd rfl (hvisit _)
  | visited _ hheld₁ hvisit =>
    obtain rfl := Option.some.inj (hheld.symm.trans hheld₁)
    obtain ⟨hover, hpause, hafter⟩ | ⟨hlate, hstays⟩ :=
      hvisit.of_delayed hrest hdelayed.1 hdelayed.2 hidle
    · exact .inl ⟨htime.mp hover, hpause, hafter⟩
    · refine .inr ⟨fun hcaught => ?_, hstays⟩
      exact absurd (hlate.symm.trans (htime.mpr hcaught)) nofun

include henabled in
-- A return is news: the user was told last of the delay.
theorem return_is_told (hread : (w.tracked id).IsReadable) (hopen : w.isOpen = true)
    (hcaught : w.HasCaughtUp id) :
    (w₁.tracked id).isDown = false ∧ ∃ c, w₁.awaited id = [.statusChange c] ∧
      c.producer.id = id ∧ c.isDown = false ∧ c.isDelayed = false ∧
      c.reason = .returnedFromInactivity := by
  obtain ⟨-, rfl, hafter⟩ | ⟨hlate, -⟩ := h.of_alive hstart hdelayed hidle hstep hheld hrest
  · have hmessaged : (w.tracked id).SameDescription ((w.tracked id).messaged stamp.received) :=
      .messaged _ _
    have hx := (Tracked.isEnabled_messaged stamp.received).trans henabled
    have hmem : w.scene.outage = Outage.none := rfl
    have htime : w.scene.onTime ((w.tracked id).messaged stamp.received) = true :=
      (Visit.onTime_messaged hmem _).trans (Scene.onTime_iff.mpr hcaught)
    have htold : (w.tracked id).tracker.toldReason = some .queueDelay := by
      have hexplained := h.isExplained hstart id
      have hreason : (w.tracked id).standing.downReason = .queueDelay := hdelayed.2
      rw [Standing.IsExplained, hreason] at hexplained
      exact hexplained nofun
    have hnews : ((w.tracked id).messaged stamp.received).tracker.toldReason ≠
        some .returnedFromInactivity := fun hsame => absurd (htold.symm.trans hsame) nofun
    obtain ⟨c, hnotice, hc⟩ := Scene.notice_raised hmem hopen hx
      (hmessaged.isReadable.mpr hread) (hmessaged.isAddressed (h.isAddressed hstart id)) htime hnews
    refine ⟨?_, c, ?_, hc⟩
    · rw [hafter]
      exact Tracked.isDown_raised hx
    · rw [World.awaited_of_held hheld, hnotice]
      rfl
  · exact absurd hcaught hlate

-- What is left once the alive is kept, whatever else happened while its notification waited.
theorem of_kept_alive (hbetween : Run w₁ between w₂) (hsettle : ∀ s ∈ between, s.act ≠ .settle id)
    (hstep₃ : w₂.step (.settle id) = some w₃) :
    (w₃.tracked id).isDown = (w₁.tracked id).isDown ∧ w₃.held[id]? = none ∧
      (w.HasCaughtUp id → w₃.claims = w₂.claims ∧
        (w.now.since stamp.received ≤ w.manager.config.maxInactivityMillis.toInt →
          w₃.IsFine id w.now)) := by
  have hvalid₁ : w₁.IsValid := (h.step hstep).isValid hstart.isValid
  obtain ⟨⟨pause₂, hheld₂, hrest₂⟩, hstanding, htiming⟩ := hbetween.of_held hvalid₁ hheld hsettle
  cases hbetween.moved hvalid₁ hstep₃ id with
  | touched _ hact => exact absurd rfl hact
  | settled hheld' hfree hclaims hfinish =>
    obtain rfl := Option.some.inj (hheld₂.symm.trans hheld')
    rw [hrest₂] at hfinish
    refine ⟨hfinish.flag.1.trans (congrArg Standing.isDown hstanding), hfree, fun hcaught => ?_⟩
    obtain ⟨-, rfl, hafter⟩ | ⟨hlate, -⟩ := h.of_alive hstart hdelayed hidle hstep hheld hrest
    · obtain ⟨rfl, hkept⟩ := hfinish.of_keepAlive
      refine ⟨hclaims.trans (List.append_nil _), fun hearly => ?_⟩
      have htiming₁ : (w₁.tracked id).timing = (w.tracked id).timing := by
        rw [hafter]
        exact ((w.tracked id).messaged stamp.received).timing_raised.trans
          (Tracked.timing_messaged _)
      have hconfig : w₃.manager.config = w.manager.config :=
        (hbetween.step hstep₃).config.trans (Run.start.step hstep).config
      refine ⟨?_, ?_, fun pause hpause => absurd (hfree.symm.trans hpause) nofun⟩
      · have hheard : (w₃.tracked id).tracker.lastSystemAlive = some stamp.received := by
          rw [hkept]
          rfl
        simp only [Scene.isSilent, Manager.scene, hconfig, hheard, Option.getD_some]
        omega
      · have htime : (w.manager.scene { now := w.now }).onTime (w.tracked id) = true :=
          Scene.onTime_iff.mpr hcaught
        rw [Manager.onTime_scene hconfig]
        exact (Scene.onTime_congr rfl
          (hfinish.timing.trans (htiming.trans htiming₁))).trans htime
    · exact absurd hcaught hlate

end Answering

-- A delay is over, and an alive brings the producer back.
def returnActs : List Act :=
  .start :: World.delayActs ++
    [.visit ⟨1⟩ (.alive (.uniform 600000) true .systemAliveOnly), .settle ⟨1⟩]

-- Two health checks, one after the other.
def checkActs : List Act :=
  [.visit ⟨1⟩ .healthCheck, .settle ⟨1⟩, .visit ⟨1⟩ .healthCheck, .settle ⟨1⟩]

-- The processing of a message ends that was made almost 2^63 milliseconds ago.
def ancientMessageActs : List Act :=
  .start :: World.delayActs ++
    [.visit ⟨1⟩ (.messageEnded (Int64.minValue + 590000)), .settle ⟨1⟩]

end Run

end FeedWatch
