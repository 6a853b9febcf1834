import FeedWatch.Proofs.Acknowledgements
import FeedWatch.Proofs.Coherence

namespace FeedWatch

namespace Handler

variable {α β : Type} {sc : Scene} {d d' : Desk} {x : Tracked} {ids : RequestIds}

-- If it fails, it is over an answer of the directory.
def BlamesDirectory (h : Handler α) (sc : Scene) (d : Desk) : Prop :=
  ∀ e d', h sc d = .error e d' → ∃ source, e = .directory source

namespace BlamesDirectory

theorem of_ok {h : Handler α} {a : α} (hrun : h sc d = .ok a d') : BlamesDirectory h sc d := by
  intro e d'' hfail
  rw [hrun] at hfail
  cases hfail

-- What comes after a step that does not fail.
theorem after {h : Handler α} {k : α → Handler β} {a : α} (hrun : h sc d = .ok a d')
    (hk : BlamesDirectory (k a) sc d') : BlamesDirectory (h >>= k) sc d := by
  intro e d'' hfail
  rw [bind_run, hrun] at hfail
  exact hk e d'' hfail

theorem bind {h : Handler α} {k : α → Handler β} (hh : BlamesDirectory h sc d)
    (hk : ∀ a d', BlamesDirectory (k a) sc d') : BlamesDirectory (h >>= k) sc d := by
  cases hrun : h sc d with
  | ok a d' => exact .after hrun (hk a d')
  | error e d' =>
    intro e' d'' hfail
    rw [bind_run, hrun] at hfail
    cases hfail
    exact hh e d' hrun

theorem ite {c : Prop} [Decidable c] {h k : Handler α} (hh : BlamesDirectory h sc d)
    (hk : BlamesDirectory k sc d) : BlamesDirectory (if c then h else k) sc d := by
  split
  · exact hh
  · exact hk

-- What is done under a condition, before the rest.
theorem optional {c : Prop} [Decidable c] {h : Handler β} {k : β → Handler α} (b : β)
    (hh : BlamesDirectory h sc d) (hk : ∀ b d', BlamesDirectory (k b) sc d') :
    BlamesDirectory (if c then h >>= k else k b) sc d :=
  .ite (hh.bind hk) (hk b d)

end BlamesDirectory

theorem lookUp_blames (question : Tracked → Outage → Except DirectoryError α) :
    BlamesDirectory (lookUp question) sc d := by
  intro e d' hfail
  rw [lookUp_run] at hfail
  split at hfail
  · cases hfail
  · cases hfail
    exact ⟨_, rfl⟩

theorem write_blames (change : Tracked → Outage → Except DirectoryError Tracked) :
    BlamesDirectory (write change) sc d :=
  (lookUp_blames change).bind fun _ _ => .of_ok rfl

theorem tell_blames (reason : StatusReason) : BlamesDirectory (tell reason) sc d := by
  refine .after rfl (.ite (.of_ok rfl) (.after rfl ?_))
  refine (lookUp_blames _).bind fun producer d' => .after rfl ?_
  exact .after timingWithinLimits_run (.after rfl (.of_ok rfl))

theorem takeDown_blames (reason : DownReason) : BlamesDirectory (takeDown reason) sc d := by
  refine .after rfl (.ite (.of_ok rfl) (.after rfl (.after rfl ?_)))
  refine .optional () (write_blames _) fun _ d' => .after rfl ?_
  refine .optional () (.of_ok rfl) fun _ d'' => ?_
  exact .optional () (write_blames _) fun _ _ => tell_blames _

theorem bringUp_blames (reason : UpReason) : BlamesDirectory (bringUp reason) sc d := by
  refine .after rfl (.ite (.of_ok rfl) (.after rfl ?_))
  exact .optional () (write_blames _) fun _ _ => tell_blames _

theorem claim_blames (anchor : Instant) : BlamesDirectory (claim anchor) sc d := by
  refine .after rfl (.ite (.of_ok rfl) (.after rfl ?_))
  exact (lookUp_blames _).bind fun name d' => .after rfl (.after rfl (.of_ok rfl))

-- A visit that ends with what the user is told.
theorem BlamesDirectory.pause {h : Handler (Option Notification)} (hh : BlamesDirectory h sc d)
    (rest : Rest) : BlamesDirectory (do return ({ notification := ← h, rest } : Pause)) sc d :=
  hh.bind fun _ _ => .of_ok rfl

end Handler

namespace Visit

open Handler

variable {sc : Scene} {d : Desk} {x : Tracked} {request : RequestId} {interest : Interest}

theorem systemAlive_blames (stamp : Stamp) (subscribed : Bool) :
    BlamesDirectory (systemAlive stamp subscribed) sc d := by
  refine (write_blames _).bind fun _ d' => (lookUp_blames _).bind fun anchor d' => .ite ?_ ?_
  · refine .after rfl (.ite (.of_ok rfl) ?_)
    exact (takeDown_blames .other).pause _
  · have hback : BlamesDirectory isBackFromDelay sc d' :=
      .after rfl (.after rfl (.ite (.of_ok timingWithinLimits_run) (.of_ok rfl)))
    refine hback.bind fun back d' => .ite ((bringUp_blames _).pause _) (.after rfl ?_)
    exact .ite (.of_ok rfl) (.of_ok rfl)

theorem check_blames : BlamesDirectory check sc d := by
  refine .after rfl (.ite (.of_ok rfl) (.after rfl (.after rfl (.ite ?_ ?_))))
  · exact (takeDown_blames _).pause _
  · refine .after timingWithinLimits_run (.ite ?_ (.of_ok rfl))
    exact (takeDown_blames _).pause _

-- The replay has its entry.
theorem eventOver_blames (hentered : request ∈ d.tracked.tracker.events) :
    BlamesDirectory (eventOver request) sc d := by
  refine .after rfl (.after rfl ?_)
  cases hreplay : d.tracked.tracker.eventReplay? request with
  | none =>
    have hsome : (d.tracked.tracker.eventReplay? request).isSome = true :=
      Std.ExtTreeMap.mem_iff_isSome_getElem?.mp hentered
    rw [hreplay] at hsome
    exact absurd hsome nofun
  | some replay =>
    refine (lookUp_blames _).bind fun producer d' => .after rfl ?_
    exact .after (announce_run _) (.of_ok rfl)

-- The recovery has its start.
theorem recoveryOver_blames (hstarted : d.tracked.tracker.startedAt ≠ 0) :
    BlamesDirectory (recoveryOver request) sc d := by
  refine .after rfl (.after rfl ?_)
  rw [if_neg hstarted]
  refine .ite (.of_ok rfl) (.after rfl ?_)
  exact (bringUp_blames _).pause _

-- Both ends are seen for what is left of the producer by the question before.
theorem replayEnd_blames
    (hevent : (d.tracked.eventAnswered sc.outage request interest).1 = true →
      BlamesDirectory (eventOver request) sc
        { d with tracked := (d.tracked.eventAnswered sc.outage request interest).2 })
    (hrecovery : ((d.tracked.eventAnswered sc.outage request interest).2.recoveryAnswered sc.outage
        request interest).1 = true →
      BlamesDirectory (recoveryOver request) sc
        { d with tracked := ((d.tracked.eventAnswered sc.outage request interest).2.recoveryAnswered
            sc.outage request interest).2 }) :
    BlamesDirectory (replayEnd request interest) sc d := by
  refine .after rfl (.ite (.of_ok rfl) (.after rfl (.ite (.of_ok rfl) ?_)))
  refine .after (examine_run _) ?_
  split <;> rename_i hall
  · exact hevent hall
  · refine .after (examine_run _) ?_
    split <;> rename_i hall
    · exact hrecovery hall
    · exact .of_ok rfl

-- The part of a visit before its notification, but for the end of a replay.
theorem start_blames (v : Visit)
    (hend : ∀ request interest, v = .replayEnded request interest →
      BlamesDirectory (replayEnd request interest) sc d) : BlamesDirectory v.start sc d := by
  cases v with
  | messageStarted received => exact (write_blames _).bind fun _ _ => .of_ok rfl
  | messageEnded generated => exact (write_blames _).bind fun _ _ => .of_ok rfl
  | alive stamp subscribed interest =>
    exact .after rfl (.ite (.of_ok rfl) (.ite (systemAlive_blames _ _) (.of_ok rfl)))
  | replayEnded request interest => exact hend request interest rfl
  | healthCheck => exact check_blames

end Visit

namespace Rest

open Handler

variable {sc : Scene} {d : Desk}

theorem ensureRecovered_blames (anchor : Instant) :
    BlamesDirectory (ensureRecovered anchor) sc d := by
  refine .after rfl (.after rfl (.after rfl ?_))
  refine .optional none (claim_blames anchor) fun claimed d' => .after rfl ?_
  exact .ite (.after rfl (claim_blames anchor)) (.of_ok rfl)

theorem finish_blames (rest : Rest) : BlamesDirectory rest.finish sc d := by
  cases rest with
  | done => exact .of_ok rfl
  | keepAlive stamp => exact .of_ok rfl
  | claim anchor alive =>
    refine (claim_blames anchor).bind fun claimed d' => ?_
    cases alive <;> exact .of_ok rfl
  | ensureRecovery anchor stamp =>
    exact (ensureRecovered_blames anchor).bind fun claimed d' => .of_ok rfl
  | eventDone request => exact .of_ok rfl

end Rest

namespace Tracked

variable {x : Tracked} {outage : Outage} {request : RequestId} {interest : Interest}

-- To note an end of a replay takes nothing of what was there before.
theorem startedAt_acknowledged :
    (x.acknowledged request interest).tracker.startedAt = x.tracker.startedAt := by
  rw [← Standing.startedAt_standing, standing_acknowledged, Standing.startedAt_standing]

end Tracked

-- An end of replay does not fail where the record of the producer can be read, with all that
-- it finds in place.
theorem Visit.replayEnd_ok {sc : Scene} {x : Tracked} (hmem : sc.outage = Outage.none)
    (hread : x.IsReadable)
    (hstarted : x.tracker.state.isInProgress = true → x.tracker.startedAt ≠ 0)
    (request : RequestId) (interest : Interest) (ids : RequestIds) :
    ∃ pause d, replayEnd request interest sc ⟨x, ids⟩ = .ok pause d := by
  cases hx : x.isEnabled with
  | false =>
    refine ⟨{}, ⟨x, ids⟩, ?_⟩
    simp [replayEnd, Handler.bind_run, Handler.ask_run, hmem, Tracked.isDisabled_none, hx,
      Handler.pure_run]
  | true =>
    obtain ⟨p, hp⟩ := hread
    by_cases hevent : (x.eventAnswered Outage.none request interest).1 = true
    · obtain ⟨event, hentered⟩ :=
        Tracked.mem_events_iff.mp (Tracked.mem_events_of_eventAnswered hevent)
      exact ⟨_, _, replayEnd_of_answered ids hmem hx hp hentered hevent⟩
    cases hknown : x.tracker.knows request with
    | false =>
      refine ⟨{}, ⟨x, ids⟩, ?_⟩
      simp [replayEnd, Handler.bind_run, Handler.ask_run, hmem, Tracked.isDisabled_none, hx,
        Handler.tracker_run, hknown, Handler.pure_run]
    | true =>
      rw [replayEnd_run ids hmem hx hknown interest]
      dsimp only
      rw [if_neg hevent]
      split <;> rename_i hrecovery
      · obtain ⟨hprogress, -⟩ := Tracked.of_recoveryAnswered hrecovery
        obtain ⟨events, hevents⟩ := x.eventAnswered_eq Outage.none request interest
        rw [hevents] at hprogress
        obtain ⟨events', current, hnoted, -⟩ := x.acknowledged_eq request interest
        have hlisting : (x.acknowledged request interest).listing = x.listing := by
          rw [hnoted]
          rfl
        have hreadable : (x.acknowledged request interest).IsReadable := by
          rw [hnoted]
          exact ⟨p, hp⟩
        have hkept : (x.acknowledged request interest).tracker.startedAt ≠ 0 := by
          rw [Tracked.startedAt_acknowledged]
          exact hstarted hprogress
        obtain ⟨reason, hover⟩ := recoveryOver_run hmem ((Tracked.isEnabled_congr hlisting).trans hx)
          hreadable hkept request ids
        change ∃ pause d, recoveryOver request sc ⟨x.acknowledged request interest, ids⟩ = .ok pause d
        rw [hover]
        split <;> exact ⟨_, _, rfl⟩
      · exact ⟨_, _, rfl⟩

namespace Run

variable {w₀ w : World} {past : List Step}

-- All of an event's replay that arrives has its entry, and all of a recovery its start.
theorem over_blames (h : Run w₀ past w) (hstart : w₀.IsFresh)
    (hnow : ∀ s ∈ past, s.before.now ≠ 0) (id : ProducerId) (request : RequestId)
    (interest : Interest) :
    let event := (w.tracked id).eventAnswered Outage.none request interest
    (event.1 = true →
      (Visit.eventOver request).BlamesDirectory w.scene ⟨event.2, w.manager.ids⟩) ∧
    ((event.2.recoveryAnswered Outage.none request interest).1 = true →
      (Visit.recoveryOver request).BlamesDirectory w.scene
        ⟨(w.tracked id).acknowledged request interest, w.manager.ids⟩) := by
  constructor
  · intro hall
    apply Visit.eventOver_blames
    have hentered := Tracked.mem_events_of_eventAnswered hall
    exact (Tracked.mem_events_eventAnswered Outage.none interest).mpr hentered
  · intro hall
    obtain ⟨hprogress, -⟩ := Tracked.of_recoveryAnswered hall
    obtain ⟨events, hevents⟩ := (w.tracked id).eventAnswered_eq Outage.none request interest
    rw [hevents] at hprogress
    apply Visit.recoveryOver_blames
    rw [Tracked.startedAt_acknowledged]
    exact h.startedAt_ne_zero hstart hnow hprogress

-- In any phase, and however the answers of the API come in between, a visit and its rest fail
-- over an answer of the directory only. So does what is done once all of an event's replay has
-- arrived, or all of a recovery: the entry of the one and the start of the other are there. The
-- end of a replay does not fail at all where the record of its producer can be read.
theorem fails_over_directory (h : Run w₀ past w) (hstart : w₀.IsFresh)
    (hnow : ∀ s ∈ past, s.before.now ≠ 0) (id : ProducerId) :
    (∀ v : Visit, v.start.BlamesDirectory w.scene (w.manager.desk id)) ∧
      (∀ rest : Rest, rest.finish.BlamesDirectory w.scene (w.manager.desk id)) ∧
      ∀ request interest,
        let event := (w.tracked id).eventAnswered Outage.none request interest
        (event.1 = true →
          (Visit.eventOver request).BlamesDirectory w.scene ⟨event.2, w.manager.ids⟩) ∧
        ((event.2.recoveryAnswered Outage.none request interest).1 = true →
          (Visit.recoveryOver request).BlamesDirectory w.scene
            ⟨(w.tracked id).acknowledged request interest, w.manager.ids⟩) ∧
        ((w.tracked id).IsReadable → ∃ pause d,
          (Visit.replayEnded request interest).start w.scene (w.manager.desk id) = .ok pause d) := by
  have hover := h.over_blames hstart hnow id
  refine ⟨fun v => v.start_blames fun request interest _ => ?_, fun rest => rest.finish_blames,
    fun request interest => ?_⟩
  · obtain ⟨hevent, hrecovery⟩ := hover request interest
    exact Visit.replayEnd_blames hevent hrecovery
  · obtain ⟨hevent, hrecovery⟩ := hover request interest
    refine ⟨hevent, hrecovery, fun hread => ?_⟩
    exact Visit.replayEnd_ok rfl hread (h.startedAt_ne_zero hstart hnow) request interest _

-- All of both the interrupted recovery and the replay of a match arrives.
theorem both_replays_are_over : ∃ past w, Run World.ofLiveOdds past w ∧
    (∀ s ∈ past, s.before.now ≠ 0) ∧ (w.tracked ⟨1⟩).tracker.state = .interrupted ∧
    ((w.tracked ⟨1⟩).eventAnswered Outage.none ⟨2⟩ .all).1 = true ∧
    (Visit.eventOver ⟨2⟩).BlamesDirectory w.scene (w.manager.desk ⟨1⟩) ∧
    ((w.tracked ⟨1⟩).recoveryAnswered Outage.none ⟨1⟩ .all).1 = true ∧
    (Visit.recoveryOver ⟨1⟩).BlamesDirectory w.scene (w.manager.desk ⟨1⟩) := by
  have hrun : Run World.ofLiveOdds _ _ := Run.start.play interruptedEventActs
  have hnow : ∀ s ∈ (World.ofLiveOdds.play [] interruptedEventActs).1, s.before.now ≠ 0 := by
    decide +kernel
  obtain ⟨-, -, hover⟩ := hrun.fails_over_directory World.isFresh_ofLiveOdds hnow ⟨1⟩
  have hevent := (hover ⟨2⟩ .all).1
  have hrecovery := (hover ⟨1⟩ .all).2.1
  exact ⟨_, _, hrun, hnow, rfl, by decide +kernel, hevent (by decide +kernel), by decide +kernel,
    hrecovery (by decide +kernel)⟩

-- A recovery that was started at the reading 0 counts as one without a start.
example : ∃ d, (Visit.replayEnded ⟨1⟩ .all).start
    (World.ofLiveOdds.play [] (.moveClock (.set 0) :: interruptedActs.take 3)).2.scene
    ((World.ofLiveOdds.play [] (.moveClock (.set 0) :: interruptedActs.take 3)).2.manager.desk ⟨1⟩) =
      .error (.inconsistentState ⟨1⟩ ⟨1⟩) d := ⟨_, rfl⟩

end Run

end FeedWatch
