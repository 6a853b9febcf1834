import FeedWatch.Proofs.Handler

namespace FeedWatch

namespace Scene

-- Down because of a delay of the queue that is over, with no recovery under way.
def isBack (sc : Scene) (x : Tracked) : Bool :=
  x.isDown && !x.tracker.isPerformingRecovery && x.tracker.downReason = .queueDelay && sc.onTime x

-- No system alive was kept for longer than the limit.
def isSilent (sc : Scene) (x : Tracked) : Prop :=
  sc.now.since (x.tracker.lastSystemAlive.getD 0) > sc.config.maxInactivityMillis.toInt

instance (sc : Scene) (x : Tracked) : Decidable (sc.isSilent x) := by
  unfold isSilent
  infer_instance

-- The same in numbers of any size.
def isLongSilent (sc : Scene) (x : Tracked) : Prop :=
  sc.config.maxInactivityMillis.toInt < sc.now.toInt - (x.tracker.lastSystemAlive.getD 0).toInt

instance (sc : Scene) (x : Tracked) : Decidable (sc.isLongSilent x) := by
  unfold isLongSilent
  infer_instance

-- The time since the last system alive fits 64 bits, and so is seen as it is.
def seesSilence (sc : Scene) (x : Tracked) : Prop :=
  sc.now.IsExact (x.tracker.lastSystemAlive.getD 0)

instance (sc : Scene) (x : Tracked) : Decidable (sc.seesSilence x) := by
  unfold seesSilence
  infer_instance

theorem seesSilence.isSilent_iff {sc : Scene} {x : Tracked} (h : sc.seesSilence x) :
    sc.isSilent x ↔ sc.isLongSilent x := by
  rw [isSilent, h, gt_iff_lt, isLongSilent]

-- The recovery that is under way runs for longer than it may.
def isStuck (sc : Scene) (x : Tracked) : Bool :=
  x.tracker.isPerformingRecovery &&
    sc.now.since x.tracker.startedAt > sc.config.maxRecoveryMillis.toInt

end Scene

-- What is left of a producer by the part of a visit before its notification.
inductive Visited (sc : Scene) (x : Tracked) : Visit → Pause → Tracked → Prop where
  | idle (v : Visit) : Visited sc x v {} x
  | messageStarted {received : Instant} (hreceived : received ≠ 0) :
      Visited sc x (.messageStarted received) {} (x.messaged received)
  | messageEnded {generated : Instant} (hgenerated : generated ≠ 0) :
      Visited sc x (.messageEnded generated) {} (x.processed generated)
  | userAlive {stamp : Stamp} {subscribed : Bool} {interest : Interest}
      (henabled : x.isEnabled = true) (hinterest : interest ≠ .systemAliveOnly) :
      Visited sc x (.alive stamp subscribed interest) {}
        (x.mapTracker ({ · with lastUserAlive := stamp.created }))
  -- the alive is received and then fails on the scopes
  | unreadable {stamp : Stamp} {subscribed : Bool}
      (henabled : x.isEnabled = true) (hreceived : stamp.received ≠ 0) (hread : ¬x.IsReadable) :
      Visited sc x (.alive stamp subscribed .systemAliveOnly) {} (x.messaged stamp.received)
  | unsubscribed {stamp : Stamp} {anchor : Instant}
      (henabled : x.isEnabled = true) (hreceived : stamp.received ≠ 0)
      (hanchor : x.recoveryAnchor Outage.none = .ok anchor) (hdown : x.isDown = true) :
      Visited sc x (.alive stamp false .systemAliveOnly) { rest := .claim anchor (some stamp) }
        (x.messaged stamp.received)
  | unsubscribedUp {stamp : Stamp} {anchor : Instant}
      (henabled : x.isEnabled = true) (hreceived : stamp.received ≠ 0)
      (hanchor : x.recoveryAnchor Outage.none = .ok anchor) (hdown : x.isDown = false) :
      Visited sc x (.alive stamp false .systemAliveOnly)
        { notification := sc.notice ((x.messaged stamp.received).lowered .other) .other
          rest := .claim anchor (some stamp) }
        (((x.messaged stamp.received).lowered .other).told .other)
  | returned {stamp : Stamp}
      (henabled : x.isEnabled = true) (hreceived : stamp.received ≠ 0) (hread : x.IsReadable)
      (hback : sc.isBack x = true) :
      Visited sc x (.alive stamp true .systemAliveOnly)
        { notification := sc.notice (x.messaged stamp.received).raised .returnedFromInactivity
          rest := .keepAlive stamp }
        ((x.messaged stamp.received).raised.told .returnedFromInactivity)
  | subscribed {stamp : Stamp} {anchor : Instant}
      (henabled : x.isEnabled = true) (hreceived : stamp.received ≠ 0)
      (hanchor : x.recoveryAnchor Outage.none = .ok anchor) (hback : sc.isBack x = false)
      (hstate : Visit.isRecovering x.tracker.state = true) :
      Visited sc x (.alive stamp true .systemAliveOnly) { rest := .ensureRecovery anchor stamp }
        (x.messaged stamp.received)
  | calledOff {stamp : Stamp} {anchor : Instant}
      (henabled : x.isEnabled = true) (hreceived : stamp.received ≠ 0)
      (hanchor : x.recoveryAnchor Outage.none = .ok anchor) (hback : sc.isBack x = false)
      (hstate : Visit.isRecovering x.tracker.state = false) :
      Visited sc x (.alive stamp true .systemAliveOnly) { rest := .claim anchor (some stamp) }
        (x.messaged stamp.received)
  -- an end of replay that completes nothing, or whose producer cannot be told of
  | acknowledged {request : RequestId} {interest : Interest} {y : Tracked}
      (henabled : x.isEnabled = true)
      (hy : y = (x.eventAnswered Outage.none request interest).2 ∨
        y = x.acknowledged request interest) :
      Visited sc x (.replayEnded request interest) {} y
  | eventOver {request : RequestId} {interest : Interest} {replay : EventReplay} {p : Producer}
      (henabled : x.isEnabled = true)
      (hanswered : (x.eventAnswered Outage.none request interest).1 = true)
      (hreplay : (x.eventAnswered Outage.none request interest).2.tracker.eventReplay? request =
        some replay)
      (hp : x.producer Outage.none = .ok p) :
      Visited sc x (.replayEnded request interest)
        { notification := if sc.isOpen then some (.eventReplayed {
            producer := p, stamp := .uniform sc.now, event := replay.event, request }) else none
          rest := .eventDone request }
        (x.eventAnswered Outage.none request interest).2
  | resumed {request : RequestId} {interest : Interest}
      (henabled : x.isEnabled = true) (hcurrent : x.tracker.currentRequest = some request)
      (hstate : x.tracker.state = .interrupted) :
      Visited sc x (.replayEnded request interest)
        { rest := .claim x.tracker.resumeFrom none } (x.acknowledged request interest)
  | completed {request : RequestId} {interest : Interest} {reason : UpReason}
      (henabled : x.isEnabled = true) (hcurrent : x.tracker.currentRequest = some request)
      (hstate : x.tracker.state = .started)
      (hreason : reason = if x.tracker.firstRecoveryCompleted then .returnedFromInactivity
        else .firstRecoveryCompleted) :
      Visited sc x (.replayEnded request interest)
        { notification :=
            sc.notice ((x.acknowledged request interest).recovered request).raised reason.status }
        (((x.acknowledged request interest).recovered request).raised.told reason.status)
  | silent (henabled : x.isEnabled = true) (hsilent : sc.isSilent x) :
      Visited sc x .healthCheck
        { notification := sc.notice (x.lowered .aliveInterval) .aliveInterval }
        ((x.lowered .aliveInterval).told .aliveInterval)
  | delayed (henabled : x.isEnabled = true) (hsilent : ¬sc.isSilent x)
      (hlate : sc.onTime x = false) :
      Visited sc x .healthCheck { notification := sc.notice (x.lowered .queueDelay) .queueDelay }
        ((x.lowered .queueDelay).told .queueDelay)

namespace Visit

open Handler

variable {sc : Scene} {x : Tracked} {ids : RequestIds}

theorem isBackFromDelay_run (hmem : sc.outage = Outage.none) :
    isBackFromDelay sc ⟨x, ids⟩ = .ok (sc.isBack x) ⟨x, ids⟩ := by
  simp only [isBackFromDelay, bind_run, tracker_run, ask_run, ite_run, timingWithinLimits_run,
    pure_run, hmem]
  split <;> rename_i h
  · simp [Scene.isBack, Tracked.isDown, h.1, h.2.1, h.2.2]
  · simp only [EStateM.Result.ok.injEq, and_true, Scene.isBack, Tracked.isDown]
    grind

theorem check_run (hmem : sc.outage = Outage.none) (hx : x.isEnabled = true)
    (ids : RequestIds) :
    check sc ⟨x, ids⟩ =
      if sc.isSilent x then
        (do return ({ notification := ← takeDown .aliveInterval } : Pause)) sc ⟨x, ids⟩
      else if sc.onTime x = false then
        (do return ({ notification := ← takeDown .queueDelay } : Pause)) sc ⟨x, ids⟩
      else .ok {} ⟨x, ids⟩ := by
  simp only [check, bind_run, ask_run, hmem, Tracked.isDisabled_none, hx, Bool.not_true,
    Bool.false_eq_true, if_false, read_run, tracker_run,
    Scene.isSilent, timingWithinLimits_run, ite_run, pure_run, Bool.not_eq_true']

-- A silent producer goes down, whether or not the user can be told of it.
theorem check_silent (hmem : sc.outage = Outage.none) (hx : x.isEnabled = true)
    (hsilent : sc.isSilent x) (ids : RequestIds) :
    (check.leaves sc ⟨x, ids⟩).2 = ⟨(x.lowered .aliveInterval).told .aliveInterval, ids⟩ := by
  have hrun := check_run hmem hx ids
  rw [if_pos hsilent] at hrun
  obtain ⟨p, hp, -⟩ := pause_takeDown hmem hx .aliveInterval ids
  rw [leaves_congr hrun, hp]
  rfl

theorem check_visited (hmem : sc.outage = Outage.none) :
    ∃ p y, check.leaves sc ⟨x, ids⟩ = (p, ⟨y, ids⟩) ∧ Visited sc x .healthCheck (p.getD {}) y := by
  cases hx : x.isEnabled with
  | false =>
    refine ⟨some {}, x, ?_, .idle _⟩
    simp [leaves, check, bind_run, ask_run, hmem, Tracked.isDisabled_none, hx, pure_run]
  | true =>
    have hrun := check_run hmem hx ids
    by_cases hsilent : sc.isSilent x
    · rw [if_pos hsilent] at hrun
      obtain ⟨p, hp, hq⟩ := pause_takeDown hmem hx .aliveInterval ids
      exact ⟨p, _, (leaves_congr hrun).trans hp, hq ▸ .silent hx hsilent⟩
    · rw [if_neg hsilent] at hrun
      by_cases hlate : sc.onTime x = false
      · rw [if_pos hlate] at hrun
        obtain ⟨p, hp, hq⟩ := pause_takeDown hmem hx .queueDelay ids
        exact ⟨p, _, (leaves_congr hrun).trans hp, hq ▸ .delayed hx hsilent hlate⟩
      · rw [if_neg hlate] at hrun
        exact ⟨some {}, x, by rw [leaves, hrun], .idle _⟩

theorem onTime_messaged (hmem : sc.outage = Outage.none) (received : Instant) :
    sc.onTime (x.messaged received) = sc.onTime x := by
  simp only [Scene.onTime, hmem, Tracked.lastProcessed_messaged]
  rfl

theorem isBack_messaged (hmem : sc.outage = Outage.none) (received : Instant) :
    sc.isBack (x.messaged received) = sc.isBack x := by
  simp only [Scene.isBack, Tracked.isDown_messaged, onTime_messaged hmem]
  rfl

-- An alive that is accepted: it was received at a time, and the producer can be read.
theorem systemAlive_run (hmem : sc.outage = Outage.none) (hx : x.isEnabled = true)
    {stamp : Stamp} (hreceived : stamp.received ≠ 0) {anchor : Instant}
    (hanchor : x.recoveryAnchor Outage.none = .ok anchor) (subscribed : Bool) (ids : RequestIds)
    {y : Tracked}
    (hy : y = x.messaged stamp.received) :
    systemAlive stamp subscribed sc ⟨x, ids⟩ =
      if subscribed = false then
        if x.isDown then .ok { rest := .claim anchor (some stamp) } ⟨y, ids⟩
        else .ok
          { notification := sc.notice (y.lowered .other) .other
            rest := .claim anchor (some stamp) } ⟨(y.lowered .other).told .other, ids⟩
      else if sc.isBack x then .ok
        { notification := sc.notice y.raised .returnedFromInactivity
          rest := .keepAlive stamp } ⟨y.raised.told .returnedFromInactivity, ids⟩
      else if isRecovering x.tracker.state then
        .ok { rest := .ensureRecovery anchor stamp } ⟨y, ids⟩
      else .ok { rest := .claim anchor (some stamp) } ⟨y, ids⟩ := by
  obtain ⟨e, he⟩ := Tracked.exists_entry_of_isEnabled hx
  have hwrite : x.setLastMessage Outage.none stamp.received = .ok y :=
    hy ▸ Tracked.setLastMessage_none he hreceived
  have henabled : y.isEnabled = true := hy ▸ (Tracked.isEnabled_messaged _).trans hx
  have hanchor' : y.recoveryAnchor Outage.none = .ok anchor :=
    hy ▸ (Tracked.recoveryAnchor_messaged _).trans hanchor
  have hread : y.IsReadable := Tracked.isReadable_of_recoveryAnchor hanchor'
  have hdown : y.isFlaggedDown Outage.none = x.isDown := hy ▸ Tracked.isDown_messaged _
  have hback : sc.isBack y = sc.isBack x := hy ▸ isBack_messaged hmem _
  have hstate : y.tracker.state = x.tracker.state := hy ▸ rfl
  simp only [systemAlive, bind_run, write_run, hmem, hwrite, lookUp_run, hanchor', ite_run,
    ask_run, hdown, pure_run, isBackFromDelay_run hmem, hback, tracker_run, hstate,
    Bool.not_eq_true']
  split
  · split
    · rfl
    · obtain ⟨p, hp⟩ := (Tracked.isReadable_lowered .other).mpr hread
      rw [takeDown_run hmem henabled, tell_run (hmem ▸ hp)]
      rfl
  · split
    · obtain ⟨p, hp⟩ := Tracked.isReadable_raised.mpr hread
      rw [bringUp_run hmem henabled, tell_run (hmem ▸ hp)]
      rfl
    · rfl

-- What an accepted alive asks for is done after its notification.
theorem systemAlive_rest (hmem : sc.outage = Outage.none) (hx : x.isEnabled = true)
    {stamp : Stamp} (hreceived : stamp.received ≠ 0) (hread : x.IsReadable) (subscribed : Bool)
    (ids : RequestIds) :
    ∃ p d, systemAlive stamp subscribed sc ⟨x, ids⟩ = .ok p d ∧ p.rest ≠ .done := by
  obtain ⟨producer, hp⟩ := hread
  have hanchor : x.recoveryAnchor Outage.none = .ok producer.recoveryAnchor := by
    rw [Tracked.recoveryAnchor, hp]
    rfl
  rw [systemAlive_run hmem hx hreceived hanchor subscribed ids rfl]
  split
  · split
    · exact ⟨_, _, rfl, by simp⟩
    · exact ⟨_, _, rfl, by simp⟩
  · split
    · exact ⟨_, _, rfl, by simp⟩
    · split
      · exact ⟨_, _, rfl, by simp⟩
      · exact ⟨_, _, rfl, by simp⟩

theorem systemAlive_visited (hmem : sc.outage = Outage.none) (hx : x.isEnabled = true)
    (stamp : Stamp) (subscribed : Bool) (ids : RequestIds) :
    ∃ p y, (systemAlive stamp subscribed).leaves sc ⟨x, ids⟩ = (p, ⟨y, ids⟩) ∧
      Visited sc x (.alive stamp subscribed .systemAliveOnly) (p.getD {}) y := by
  obtain ⟨e, he⟩ := Tracked.exists_entry_of_isEnabled hx
  by_cases hreceived : stamp.received = 0
  · refine ⟨none, x, ?_, .idle _⟩
    simp [leaves, systemAlive, bind_run, write_run, Tracked.setLastMessage, hreceived]
  cases hread : x.recoveryAnchor Outage.none with
  | error err =>
    refine ⟨none, x.messaged stamp.received, ?_, .unreadable hx hreceived ?_⟩
    · have hanchor : (x.messaged stamp.received).recoveryAnchor Outage.none = .error err :=
        (Tracked.recoveryAnchor_messaged _).trans hread
      have hwrite : x.setLastMessage Outage.none stamp.received =
          .ok (x.messaged stamp.received) := Tracked.setLastMessage_none he hreceived
      simp only [leaves, systemAlive, bind_run, write_run, hmem, hwrite, lookUp_run, hanchor]
    · rintro ⟨p, hp⟩
      simp [Tracked.recoveryAnchor, hp, Except.map] at hread
  | ok anchor =>
    have hrun := systemAlive_run hmem hx hreceived hread subscribed ids rfl
    rw [leaves, hrun]
    cases subscribed with
    | false =>
      cases hdown : x.isDown with
      | true => exact ⟨_, _, rfl, .unsubscribed hx hreceived hread hdown⟩
      | false => exact ⟨_, _, rfl, .unsubscribedUp hx hreceived hread hdown⟩
    | true =>
      cases hback : sc.isBack x with
      | true =>
        have hr := Tracked.isReadable_of_recoveryAnchor hread
        exact ⟨_, _, rfl, .returned hx hreceived hr hback⟩
      | false =>
        cases hstate : isRecovering x.tracker.state with
        | true => exact ⟨_, _, rfl, .subscribed hx hreceived hread hback hstate⟩
        | false => exact ⟨_, _, rfl, .calledOff hx hreceived hread hback hstate⟩

theorem eventOver_visited (hmem : sc.outage = Outage.none) (hx : x.isEnabled = true)
    (ids : RequestIds) {request : RequestId} {interest : Interest}
    (ha : (x.eventAnswered Outage.none request interest).1 = true) :
    ∃ p z, (eventOver request).leaves sc ⟨(x.eventAnswered Outage.none request interest).2, ids⟩ =
        (p, ⟨z, ids⟩) ∧
      Visited sc x (.replayEnded request interest) (p.getD {}) z := by
  have hidle : Visited sc x (.replayEnded request interest) {}
      (x.eventAnswered Outage.none request interest).2 := .acknowledged hx (.inl rfl)
  have hprod : (x.eventAnswered Outage.none request interest).2.producer Outage.none =
      x.producer Outage.none := by
    obtain ⟨events, he⟩ := x.eventAnswered_eq Outage.none request interest
    rw [he]
    rfl
  cases hr : (x.eventAnswered Outage.none request interest).2.tracker.eventReplay? request with
  | none =>
    refine ⟨none, _, ?_, hidle⟩
    simp [leaves, eventOver, bind_run, producerId_run, tracker_run, hr, throw_run]
  | some replay =>
    cases hp : x.producer Outage.none with
    | error e =>
      refine ⟨none, _, ?_, hidle⟩
      simp [leaves, eventOver, bind_run, producerId_run, tracker_run, hr, lookUp_run, hmem, hprod,
        hp]
    | ok p =>
      refine ⟨some _, _, ?_, .eventOver hx ha hr hp⟩
      simp [leaves, eventOver, bind_run, map_run, producerId_run, tracker_run, hr, lookUp_run,
        hmem, hprod, hp, read_run, announce_run]

theorem recoveryOver_visited (hmem : sc.outage = Outage.none) (hx : x.isEnabled = true)
    (ids : RequestIds) {request : RequestId} {interest : Interest}
    (ha : ((x.eventAnswered Outage.none request interest).2.recoveryAnswered Outage.none request
      interest).1 = true) :
    ∃ p z, (recoveryOver request).leaves sc ⟨x.acknowledged request interest, ids⟩ =
        (p, ⟨z, ids⟩) ∧
      Visited sc x (.replayEnded request interest) (p.getD {}) z := by
  obtain ⟨hperforming, hcurrent⟩ := Tracked.of_recoveryAnswered ha
  obtain ⟨events, hevents⟩ := x.eventAnswered_eq Outage.none request interest
  rw [hevents] at hperforming hcurrent
  obtain ⟨events', current, hy, -⟩ := x.acknowledged_eq request interest
  generalize hz : x.acknowledged request interest = y at hy ⊢
  have hstate : y.tracker.state = x.tracker.state := by rw [hy, Tracked.mapTracker_tracker]
  have hfirst : y.tracker.firstRecoveryCompleted = x.tracker.firstRecoveryCompleted := by
    rw [hy, Tracked.mapTracker_tracker]
  have hresume : y.tracker.resumeFrom = x.tracker.resumeFrom := by
    rw [hy, Tracked.mapTracker_tracker]
  by_cases hstart : y.tracker.startedAt = 0
  · refine ⟨none, y, ?_, .acknowledged hx (.inr hz.symm)⟩
    simp [leaves, recoveryOver, bind_run, producerId_run, tracker_run, hstart, throw_run]
  by_cases hinter : x.tracker.state = .interrupted
  · refine ⟨some { rest := .claim x.tracker.resumeFrom none }, y, ?_, ?_⟩
    · simp [leaves, recoveryOver, bind_run, producerId_run, tracker_run, hstart, hstate, hinter,
        pure_run, hresume]
    · exact hz ▸ .resumed hx hcurrent hinter
  have hstarted : x.tracker.state = .started := by
    cases hs : x.tracker.state <;>
      simp_all [Tracker.isPerformingRecovery, RecoveryState.isInProgress]
  have hrecovered : (y.recovered request).isEnabled = true := by
    have hl : (y.recovered request).listing = x.listing := by rw [hy]; rfl
    exact (Tracked.isEnabled_congr hl).trans hx
  generalize hreason : (if x.tracker.firstRecoveryCompleted then UpReason.returnedFromInactivity
    else .firstRecoveryCompleted) = reason
  obtain ⟨p, hp, hq⟩ := pause_bringUp hmem hrecovered reason ids
  refine ⟨p, (y.recovered request).raised.told reason.status, ?_, ?_⟩
  · rw [← hp]
    apply leaves_congr
    simp only [recoveryOver, bind_run, producerId_run, tracker_run, hstart, hstate, hinter, ite_run,
      if_false, track_run, hfirst, hreason]
    rfl
  · rw [hq, ← hz]
    exact .completed hx hcurrent hstarted hreason.symm

-- A known request of an enabled producer answers an event replay, a recovery, or neither.
theorem replayEnd_run (ids : RequestIds) (hmem : sc.outage = Outage.none) (hx : x.isEnabled = true)
    {request : RequestId} (hk : x.tracker.knows request = true) (interest : Interest) :
    replayEnd request interest sc ⟨x, ids⟩ =
      let (event, y) := x.eventAnswered Outage.none request interest
      let (recovery, z) := y.recoveryAnswered Outage.none request interest
      if event then eventOver request sc ⟨y, ids⟩
      else if recovery then recoveryOver request sc ⟨z, ids⟩
      else .ok {} ⟨z, ids⟩ := by
  simp only [replayEnd, bind_run, ask_run, hmem, Tracked.isDisabled_none, hx, tracker_run, hk,
    examine_run, Bool.not_true, Bool.false_eq_true, if_false, ite_run, pure_run]

theorem replayEnd_visited (hmem : sc.outage = Outage.none) (request : RequestId)
    (interest : Interest) :
    ∃ p y, (replayEnd request interest).leaves sc ⟨x, ids⟩ = (p, ⟨y, ids⟩) ∧
      Visited sc x (.replayEnded request interest) (p.getD {}) y := by
  cases hx : x.isEnabled with
  | false =>
    refine ⟨some {}, x, ?_, .idle _⟩
    simp [leaves, replayEnd, bind_run, ask_run, hmem, Tracked.isDisabled_none, hx, pure_run]
  | true =>
    cases hk : x.tracker.knows request with
    | false =>
      refine ⟨some {}, x, ?_, .idle _⟩
      simp [leaves, replayEnd, bind_run, ask_run, hmem, Tracked.isDisabled_none, hx, tracker_run,
        hk, pure_run]
    | true =>
      have hrun := replayEnd_run ids hmem hx hk interest
      cases ha : (x.eventAnswered Outage.none request interest).1 with
      | true =>
        obtain ⟨p, z, hz, hv⟩ := eventOver_visited hmem hx ids ha
        refine ⟨p, z, hz ▸ leaves_congr (hrun.trans ?_), hv⟩
        simp only [ha, if_true]
      | false =>
        cases hb : ((x.eventAnswered Outage.none request interest).2.recoveryAnswered Outage.none
          request interest).1 with
        | true =>
          obtain ⟨p, z, hz, hv⟩ := recoveryOver_visited hmem hx ids hb
          refine ⟨p, z, hz ▸ leaves_congr (hrun.trans ?_), hv⟩
          simp only [ha, hb, Bool.false_eq_true, if_true, if_false]
          rfl
        | false =>
          refine ⟨some {}, _, ?_, .acknowledged hx (.inr rfl)⟩
          simp only [leaves, hrun, ha, hb, Bool.false_eq_true, if_false, Tracked.acknowledged]

-- The part of a visit before its notification, whether it fails or not.
theorem start_visited (hmem : sc.outage = Outage.none) (v : Visit) (x : Tracked)
    (ids : RequestIds) :
    ∃ p y, v.start.leaves sc ⟨x, ids⟩ = (p, ⟨y, ids⟩) ∧ Visited sc x v (p.getD {}) y := by
  cases v with
  | messageStarted received =>
    cases hw : x.setLastMessage Outage.none received with
    | error e =>
      refine ⟨none, x, ?_, .idle _⟩
      simp [leaves, start, bind_run, write_run, hmem, hw]
    | ok y =>
      refine ⟨some {}, y, ?_, ?_⟩
      · simp [leaves, start, bind_run, write_run, hmem, hw, pure_run]
      · obtain ⟨hr, rfl⟩ := Tracked.of_setLastMessage hw
        exact .messageStarted hr
  | messageEnded generated =>
    cases hw : x.setLastProcessed Outage.none generated with
    | error e =>
      refine ⟨none, x, ?_, .idle _⟩
      simp [leaves, start, bind_run, write_run, hmem, hw]
    | ok y =>
      refine ⟨some {}, y, ?_, ?_⟩
      · simp [leaves, start, bind_run, write_run, hmem, hw, pure_run]
      · obtain ⟨hg, rfl⟩ := Tracked.of_setLastProcessed hw
        exact .messageEnded hg
  | alive stamp subscribed interest => 
    cases hx : x.isEnabled with
    | false =>
      refine ⟨some {}, x, ?_, .idle _⟩
      simp [leaves, start, bind_run, ask_run, hmem, Tracked.isDisabled_none, hx, pure_run]
    | true =>
      by_cases hi : interest = .systemAliveOnly
      · subst hi
        obtain ⟨p, y, hy, hv⟩ := systemAlive_visited hmem hx stamp subscribed ids
        refine ⟨p, y, hy ▸ leaves_congr ?_, hv⟩
        simp [start, bind_run, ask_run, hmem, Tracked.isDisabled_none, hx]
      · refine ⟨some {}, _, ?_, .userAlive hx hi⟩
        simp [leaves, start, bind_run, ask_run, hmem, Tracked.isDisabled_none, hx, hi, map_run,
          track_run]
  | replayEnded request interest => exact replayEnd_visited hmem request interest
  | healthCheck => exact check_visited hmem

end Visit

-- What comes of a claim, with the alive that asked for it.
inductive Claimed (sc : Scene) (x : Tracked) (ids : RequestIds) (anchor : Instant)
    (alive : Option Stamp) : Option Claim → Tracked → RequestIds → Prop where
  | shut (hopen : sc.isOpen = false) : Claimed sc x ids anchor alive none (x.keptIf alive) ids
  -- the id is drawn, and then the name of the producer cannot be read
  | lost (hopen : sc.isOpen = true) (hread : ¬x.IsReadable) :
      Claimed sc x ids anchor alive none x ids.next.2
  | made {p : Producer} (hopen : sc.isOpen = true) (hp : x.producer Outage.none = .ok p) :
      Claimed sc x ids anchor alive
        (some {
          producer := x.id
          name := p.name
          request := ids.next.1
          after := Handler.replayStart sc.config.maxRecoveryMillis sc.now anchor
          requestedAt := sc.now })
        ((x.claimed ids.next.1 sc.now).keptIf alive) ids.next.2

-- What is left of a producer by the rest of a visit.
inductive Finished (sc : Scene) (x : Tracked) (ids : RequestIds) :
    Rest → Option Claim → Tracked → RequestIds → Prop where
  | done : Finished sc x ids .done none x ids
  | keepAlive (stamp : Stamp) : Finished sc x ids (.keepAlive stamp) none (x.kept stamp) ids
  | eventDone (request : RequestId) :
      Finished sc x ids (.eventDone request) none (x.mapTracker (·.eventDone request)) ids
  | claim {anchor : Instant} {alive : Option Stamp} {c : Option Claim} {y : Tracked}
      {ids' : RequestIds} (hclaim : Claimed sc x ids anchor alive c y ids') :
      Finished sc x ids (.claim anchor alive) c y ids'
  | attended {anchor : Instant} {stamp : Stamp} (hmissing : x.isUnattended = false)
      (hstuck : sc.isStuck x = false) :
      Finished sc x ids (.ensureRecovery anchor stamp) none (x.kept stamp) ids
  | missing {anchor : Instant} {stamp : Stamp} {c : Option Claim} {y : Tracked}
      {ids' : RequestIds} (hmissing : x.isUnattended = true)
      (hclaim : Claimed sc x ids anchor (some stamp) c y ids') :
      Finished sc x ids (.ensureRecovery anchor stamp) c y ids'
  | stuck {anchor : Instant} {stamp : Stamp} {c : Option Claim} {y : Tracked}
      {ids' : RequestIds} (hstuck : sc.isStuck x = true)
      (hclaim : Claimed sc x.givenUp ids anchor (some stamp) c y ids') :
      Finished sc x ids (.ensureRecovery anchor stamp) c y ids'

namespace Rest

open Handler

variable {sc : Scene} {x : Tracked} {ids : RequestIds}

theorem claim_claimed (hmem : sc.outage = Outage.none) (x : Tracked) (ids : RequestIds)
    (anchor : Instant) (alive : Option Stamp) :
    ∃ c y ids', (finish (.claim anchor alive)).leaves sc ⟨x, ids⟩ = (c, ⟨y, ids'⟩) ∧
      Claimed sc x ids anchor alive c.join y ids' ∧ (x.IsReadable → c.isSome = true) := by
  cases hopen : sc.isOpen with
  | false =>
    refine ⟨some none, x.keptIf alive, ids, ?_, .shut hopen, fun _ => rfl⟩
    cases alive <;>
      simp [leaves, finish, bind_run, map_run, claim_of_not_open hopen, keepAlive_run hmem, pure_run,
        Tracked.keptIf]
  | true =>
    cases hp : x.producer Outage.none with
    | error e =>
      have hlost : ¬x.IsReadable := by
        rintro ⟨p, h⟩
        simp [hp] at h
      refine ⟨none, x, ids.next.2, ?_, .lost hopen hlost, fun hread => absurd hread hlost⟩
      simp [leaves, finish, bind_run, claim_of_error hopen (hmem ▸ hp)]
    | ok p =>
      refine ⟨some (some _), _, ids.next.2, ?_, .made hopen hp, fun _ => rfl⟩
      cases alive <;>
        simp [leaves, finish, bind_run, map_run, claim_run hopen (hmem ▸ hp), keepAlive_run hmem,
          pure_run, Tracked.keptIf, Tracked.claimed]

theorem ensureRecovered_of_attended (hmem : sc.outage = Outage.none)
    (hmissing : x.isUnattended = false) (hstuck : sc.isStuck x = false) (anchor : Instant) :
    ensureRecovered anchor sc ⟨x, ids⟩ = .ok none ⟨x, ids⟩ := by
  simp only [Tracked.isUnattended, Tracked.isDown] at hmissing
  have hrun : ¬(x.tracker.isPerformingRecovery = true ∧
      sc.now.since x.tracker.startedAt > sc.config.maxRecoveryMillis.toInt) := by
    simpa [Scene.isStuck] using hstuck
  simp only [ensureRecovered, bind_run, read_run, tracker_run, ask_run, hmem, hmissing, ite_run,
    Bool.false_eq_true, if_false, pure_run, if_neg hrun]

-- A recovery that is claimed now has not run too long.
theorem ensureRecovered_of_missing (hmem : sc.outage = Outage.none)
    (hlimit : 0 ≤ sc.config.maxRecoveryMillis.toInt) (hmissing : x.isUnattended = true)
    (anchor : Instant) :
    ensureRecovered anchor sc ⟨x, ids⟩ = Handler.claim anchor sc ⟨x, ids⟩ := by
  have hidle : x.tracker.isPerformingRecovery = false := by
    simp only [Tracked.isUnattended, Bool.and_eq_true, Bool.not_eq_true'] at hmissing
    exact hmissing.1.2
  simp only [Tracked.isUnattended, Tracked.isDown] at hmissing
  simp only [ensureRecovered, bind_run, read_run, tracker_run, ask_run, hmem, hmissing, ite_run,
    if_true, pure_run]
  cases hopen : sc.isOpen with
  | false => simp [claim_of_not_open hopen, hidle]
  | true =>
    cases hp : x.producer Outage.none with
    | error e => simp [claim_of_error hopen (hmem ▸ hp)]
    | ok p =>
      simp [claim_run hopen (hmem ▸ hp), Tracker.setRecovery, Tracker.startedAt, Int.not_lt.mpr hlimit]

theorem ensureRecovered_of_stuck (hmem : sc.outage = Outage.none) (hstuck : sc.isStuck x = true)
    (anchor : Instant) :
    ensureRecovered anchor sc ⟨x, ids⟩ = Handler.claim anchor sc ⟨x.givenUp, ids⟩ := by
  obtain ⟨hperforming, hrun⟩ : x.tracker.isPerformingRecovery = true ∧
      sc.now.since x.tracker.startedAt > sc.config.maxRecoveryMillis.toInt := by
    simpa [Scene.isStuck] using hstuck
  simp only [ensureRecovered, bind_run, read_run, tracker_run, ask_run, hmem, hperforming, hrun,
    ite_run, Bool.not_true, Bool.and_false, Bool.false_and, Bool.false_eq_true, if_false, pure_run,
    and_self, if_true, track_run]
  rfl

-- The rest of a visit, whether it fails or not. It fails only where the producer cannot be
-- read. The limit is that of a valid configuration.
theorem finish_finished (hmem : sc.outage = Outage.none)
    (hlimit : 0 ≤ sc.config.maxRecoveryMillis.toInt) (rest : Rest) (x : Tracked)
    (ids : RequestIds) :
    ∃ c y ids', rest.finish.leaves sc ⟨x, ids⟩ = (c, ⟨y, ids'⟩) ∧
      Finished sc x ids rest c.join y ids' ∧ (x.IsReadable → c.isSome = true) := by
  cases rest with
  | done => exact ⟨some none, x, ids, rfl, .done, fun _ => rfl⟩
  | keepAlive stamp =>
    refine ⟨some none, x.kept stamp, ids, ?_, .keepAlive stamp, fun _ => rfl⟩
    simp [leaves, finish, map_run, keepAlive_run hmem]
  | eventDone request => exact ⟨some none, _, ids, rfl, .eventDone request, fun _ => rfl⟩
  | claim anchor alive =>
    obtain ⟨c, y, ids', hy, hc, hsome⟩ := claim_claimed hmem x ids anchor alive
    exact ⟨c, y, ids', hy, .claim hc, hsome⟩
  | ensureRecovery anchor stamp =>
    -- with a claim the rest goes on like that of an alive that starts a recovery
    have hsame {z : Tracked}
        (h : ensureRecovered anchor sc ⟨x, ids⟩ = Handler.claim anchor sc ⟨z, ids⟩) :
        (finish (.ensureRecovery anchor stamp)).leaves sc ⟨x, ids⟩ =
          (finish (.claim anchor (some stamp))).leaves sc ⟨z, ids⟩ := by
      apply leaves_congr
      simp only [finish, bind_run, h]
    cases hstuck : sc.isStuck x with
    | true =>
      rw [hsame (ensureRecovered_of_stuck hmem hstuck anchor)]
      obtain ⟨c, y, ids', hy, hc, hsome⟩ := claim_claimed hmem x.givenUp ids anchor
        (some stamp)
      exact ⟨c, y, ids', hy, .stuck hstuck hc, hsome⟩
    | false =>
      cases hmissing : x.isUnattended with
      | true =>
        rw [hsame (ensureRecovered_of_missing hmem hlimit hmissing anchor)]
        obtain ⟨c, y, ids', hy, hc, hsome⟩ := claim_claimed hmem x ids anchor (some stamp)
        exact ⟨c, y, ids', hy, .missing hmissing hc, hsome⟩
      | false =>
        refine ⟨some none, x.kept stamp, ids, ?_, .attended hmissing hstuck, fun _ => rfl⟩
        simp [leaves, finish, bind_run, map_run,
          ensureRecovered_of_attended hmem hmissing hstuck, keepAlive_run hmem]

end Rest

end FeedWatch
