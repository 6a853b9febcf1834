import FeedWatch.Proofs.Step

namespace FeedWatch

theorem RecoveryState.isInProgress_iff {state : RecoveryState} :
    state.isInProgress = true ↔ state = .started ∨ state = .interrupted := by
  cases state <;> simp [isInProgress]

structure Standing where
  isDown : Bool
  state : RecoveryState
  -- the current recovery, with the instant at which it was started
  current : Option (RequestId × Instant)
  firstRecoveryCompleted : Bool
  downReason : DownReason
  toldReason : Option StatusReason
  lastSystemAlive : Option Instant

namespace Standing

def lowered (s : Standing) (reason : DownReason) : Standing :=
  { s with
    isDown := true
    state := if s.state = .started ∧ reason ≠ .queueDelay then .interrupted else s.state
    downReason := reason
    toldReason := some reason.status }

def raised (s : Standing) (reason : UpReason) : Standing :=
  { s with
    isDown := false
    downReason := if s.isDown then .default else s.downReason
    toldReason := some reason.status }

def recovered (s : Standing) : Standing :=
  { s with state := .completed, firstRecoveryCompleted := true }

def claimed (s : Standing) (request : RequestId) (now : Instant) : Standing :=
  { s with state := .started, current := some (request, now) }

def givenUp (s : Standing) : Standing := { s with state := .error, current := some (.zero, 0) }

def kept (s : Standing) (received : Instant) : Standing :=
  { s with lastSystemAlive := some received }

def keptIf (s : Standing) : Option Stamp → Standing
  | none => s
  | some stamp => s.kept stamp.received

end Standing

namespace Tracked

def standing (x : Tracked) : Standing where
  isDown := x.isDown
  state := x.tracker.state
  current := x.tracker.current.map fun r => (r.request, r.startedAt)
  firstRecoveryCompleted := x.tracker.firstRecoveryCompleted
  downReason := x.tracker.downReason
  toldReason := x.tracker.toldReason
  lastSystemAlive := x.tracker.lastSystemAlive

variable {x y : Tracked}

@[simp] theorem standing_state : x.standing.state = x.tracker.state := rfl

theorem currentRequest_eq : x.tracker.currentRequest = x.standing.current.map Prod.fst := by
  simp [standing, Tracker.currentRequest, Function.comp_def]

theorem of_standing_current {request : RequestId} {startedAt : Instant}
    (h : x.standing.current = some (request, startedAt)) :
    x.tracker.currentRequest = some request ∧ x.tracker.startedAt = startedAt := by
  simp only [standing, Option.map_eq_some_iff, Prod.mk.injEq] at h
  obtain ⟨r, hr, rfl, rfl⟩ := h
  simp [Tracker.currentRequest, Tracker.startedAt, hr]

-- An entry is written that keeps its flag.
theorem isDown_mapEntry {f : Entry → Entry} (hf : ∀ e, (f e).flaggedDown = e.flaggedDown) :
    (x.mapEntry f).isDown = x.isDown := by
  cases he : x.listing.entry with
  | none =>
    have hn : (x.mapEntry f).listing.entry = none := by simp [he]
    rw [isDown_of_no_entry hn, isDown_of_no_entry he]
  | some e =>
    have hn : (x.mapEntry f).listing.entry = some (f e) := by simp [he]
    rw [isDown_of_entry hn, isDown_of_entry he, hf]

theorem isDown_flagged (hx : x.isEnabled = true) (down : Bool) :
    (x.mapEntry ({ · with flaggedDown := down })).isDown = down := by
  obtain ⟨e, he⟩ := exists_entry_of_isEnabled hx
  have hn : (x.mapEntry ({ · with flaggedDown := down })).listing.entry =
      some { e with flaggedDown := down } := by simp [he]
  rw [isDown_of_entry hn]

theorem isDown_lowered (hx : x.isEnabled = true) (reason : DownReason) :
    (x.lowered reason).isDown = true := isDown_flagged hx true

theorem isDown_raised (hx : x.isEnabled = true) : x.raised.isDown = false := isDown_flagged hx false

theorem isDown_kept (stamp : Stamp) : (x.kept stamp).isDown = x.isDown := by
  cases hd : x.isDown with
  | true =>
    have hl : (x.kept stamp).listing = x.listing := by simp [kept, hd]
    rw [isDown_congr hl, hd]
  | false =>
    have hl : (x.kept stamp).listing =
        (x.mapEntry ({ · with lastAlive := stamp.created })).listing := by simp [kept, hd]
    rw [isDown_congr hl, isDown_mapEntry (f := ({ · with lastAlive := stamp.created })) fun _ => rfl,
      hd]

theorem standing_messaged (received : Instant) : (x.messaged received).standing = x.standing := by
  simp only [standing, isDown_messaged]
  rfl

theorem standing_processed (generated : Instant) :
    (x.processed generated).standing = x.standing := by
  have hd : (x.processed generated).isDown = x.isDown :=
    isDown_mapEntry (f := ({ · with lastProcessed := generated })) fun _ => rfl
  simp only [standing, hd]
  rfl

theorem standing_lowered (hx : x.isEnabled = true) (reason : DownReason) :
    ((x.lowered reason).told reason.status).standing = x.standing.lowered reason := by
  have hd : ((x.lowered reason).told reason.status).isDown = true := isDown_lowered hx reason
  simp only [standing, hd]
  rfl

theorem standing_raised (hx : x.isEnabled = true) (reason : UpReason) :
    (x.raised.told reason.status).standing = x.standing.raised reason := by
  have hd : (x.raised.told reason.status).isDown = false := isDown_raised hx
  simp only [standing, hd]
  rfl

theorem standing_acknowledged (request : RequestId) (interest : Interest) :
    (x.acknowledged request interest).standing = x.standing := by
  obtain ⟨events, current, h, hc⟩ := x.acknowledged_eq request interest
  rw [h]
  simp only [standing, mapTracker_tracker, isDown_mapTracker, hc]

theorem standing_eventAnswered (request : RequestId) (interest : Interest) :
    (x.eventAnswered Outage.none request interest).2.standing = x.standing := by
  obtain ⟨events, h⟩ := x.eventAnswered_eq Outage.none request interest
  rw [h]
  rfl

-- The recovery that completes is the current one.
theorem standing_recovered {request : RequestId} (hc : x.tracker.currentRequest = some request) :
    (x.recovered request).standing = x.standing.recovered := by
  simp only [Tracker.currentRequest, Option.map_eq_some_iff] at hc
  obtain ⟨r, hr, rfl⟩ := hc
  simp [standing, recovered, Standing.recovered, Tracker.setRecovery, Tracker.startedAt, hr]

theorem standing_kept (stamp : Stamp) :
    (x.kept stamp).standing = x.standing.kept stamp.received := by
  simp only [standing, isDown_kept]
  rfl

theorem standing_keptIf (alive : Option Stamp) :
    (x.keptIf alive).standing = x.standing.keptIf alive := by
  cases alive with
  | none => rfl
  | some stamp => exact standing_kept stamp

theorem standing_claimed (request : RequestId) (now : Instant) :
    (x.claimed request now).standing = x.standing.claimed request now := rfl

theorem Touched.standing (h : x.Touched y) : y.standing = x.standing := by
  have hentry {f : Entry → Entry} (hf : ∀ e, (f e).flaggedDown = e.flaggedDown) :
      (x.mapEntry f).standing = x.standing := by
    simp only [Tracked.standing, isDown_mapEntry hf, mapEntry_tracker]
  cases h with
  | events => rfl
  | attempted attempt => exact hentry (f := ({ · with lastAttempt := some attempt })) fun _ => rfl
  | enabled enabled => exact hentry (f := ({ · with enabled })) fun _ => rfl
  | anchored recoveryFrom => exact hentry (f := ({ · with recoveryFrom })) fun _ => rfl

end Tracked

namespace Scene

-- What the user hears when a producer goes down or up for a reason. The record of the
-- producer is the one after that.
def Hears (sc : Scene) (x : Tracked) (isDown : Bool) (reason : StatusReason)
    (n : Option Notification) : Prop :=
  ∃ y, x.SameDescription y ∧ y.isDown = isDown ∧ y.tracker.toldReason = x.tracker.toldReason ∧
    n = sc.notice y reason

end Scene

-- What the part of a visit before its notification does to a standing.
inductive Turned (sc : Scene) (x : Tracked) : Visit → Pause → Standing → Prop where
  | quiet {v : Visit} {pause : Pause}
      (hrest : pause.rest = .done ∨ ∃ request, pause.rest = .eventDone request)
      (hquiet : ∀ change, pause.notification ≠ some (.statusChange change)) :
      Turned sc x v pause x.standing
  | asking {v : Visit} {anchor : Instant} {alive : Option Stamp}
      (hask : x.isDown = true ∨ Visit.isRecovering x.tracker.state = false) :
      Turned sc x v { rest := .claim anchor alive } x.standing
  | checking {v : Visit} {anchor : Instant} {stamp : Stamp} :
      Turned sc x v { rest := .ensureRecovery anchor stamp } x.standing
  | cutOff {stamp : Stamp} {anchor : Instant} {n : Option Notification} (hup : x.isDown = false)
      (hears : sc.Hears x true .other n) :
      Turned sc x (.alive stamp false .systemAliveOnly)
        { notification := n, rest := .claim anchor (some stamp) } (x.standing.lowered .other)
  | returned {stamp : Stamp} {n : Option Notification} (henabled : x.isEnabled = true)
      (hreceived : stamp.received ≠ 0) (hread : x.IsReadable) (hback : sc.isBack x = true)
      (hears : sc.Hears x false .returnedFromInactivity n) :
      Turned sc x (.alive stamp true .systemAliveOnly)
        { notification := n, rest := .keepAlive stamp }
        (x.standing.raised .returnedFromInactivity)
  | completed {request : RequestId} {interest : Interest} {reason : UpReason}
      {n : Option Notification} (hcurrent : x.tracker.currentRequest = some request)
      (hstate : x.tracker.state = .started)
      (hreason : reason = if x.tracker.firstRecoveryCompleted then .returnedFromInactivity
        else .firstRecoveryCompleted)
      (hears : sc.Hears x false reason.status n) :
      Turned sc x (.replayEnded request interest) { notification := n }
        (x.standing.recovered.raised reason)
  | silent {n : Option Notification} (hsilent : sc.isSilent x)
      (hears : sc.Hears x true .aliveInterval n) :
      Turned sc x .healthCheck { notification := n } (x.standing.lowered .aliveInterval)
  | delayed {n : Option Notification} (hsilent : ¬sc.isSilent x)
      (hears : sc.Hears x true .queueDelay n) :
      Turned sc x .healthCheck { notification := n } (x.standing.lowered .queueDelay)

theorem Visited.turned {sc : Scene} {x y : Tracked} {v : Visit} {pause : Pause}
    (h : Visited sc x v pause y) : Turned sc x v pause y.standing := by
  have hidle {v : Visit} : Turned sc x v {} x.standing := by
    refine .quiet (.inl rfl) ?_
    intro change h
    cases h
  cases h with
  | idle => exact hidle
  | messageStarted => rw [Tracked.standing_messaged]; exact hidle
  | messageEnded => rw [Tracked.standing_processed]; exact hidle
  | userAlive => exact hidle
  | unreadable => rw [Tracked.standing_messaged]; exact hidle
  | unsubscribed _ _ _ hdown => rw [Tracked.standing_messaged]; exact .asking (.inl hdown)
  | @unsubscribedUp stamp _ henabled _ _ hup =>
    have hx := (Tracked.isEnabled_messaged stamp.received).trans henabled
    have hstanding := Tracked.standing_lowered hx .other
    rw [Tracked.standing_messaged] at hstanding
    change Turned _ _ _ _ (Tracked.told _ (DownReason.other.status)).standing
    rw [hstanding]
    refine .cutOff hup ⟨_, ?_, Tracked.isDown_lowered hx .other, rfl, rfl⟩
    exact (Tracked.SameDescription.messaged _ x).trans (.lowered _ _)
  | @returned stamp henabled hreceived hread hback =>
    have hx := (Tracked.isEnabled_messaged stamp.received).trans henabled
    have hstanding := Tracked.standing_raised hx .returnedFromInactivity
    rw [Tracked.standing_messaged] at hstanding
    change Turned _ _ _ _ (Tracked.told _ (UpReason.returnedFromInactivity.status)).standing
    rw [hstanding]
    refine .returned henabled hreceived hread hback ⟨_, ?_, Tracked.isDown_raised hx, rfl, rfl⟩
    exact (Tracked.SameDescription.messaged _ x).trans (.raised _)
  | subscribed => rw [Tracked.standing_messaged]; exact .checking
  | calledOff _ _ _ _ hstate => rw [Tracked.standing_messaged]; exact .asking (.inr hstate)
  | @acknowledged request interest _ _ hy =>
    have hstanding : y.standing = x.standing := by
      rcases hy with rfl | rfl
      · exact Tracked.standing_eventAnswered request interest
      · exact Tracked.standing_acknowledged request interest
    rw [hstanding]
    exact hidle
  | @eventOver request interest =>
    rw [Tracked.standing_eventAnswered]
    refine .quiet (.inr ⟨_, rfl⟩) ?_
    intro change hn
    dsimp only at hn
    split at hn <;> simp at hn
  | @resumed request interest _ _ hstate =>
    rw [Tracked.standing_acknowledged]
    exact .asking (.inr (by rw [hstate]; rfl))
  | @completed request interest reason henabled hcurrent hstate hreason =>
    have hack := Tracked.standing_acknowledged (x := x) request interest
    obtain ⟨events, current, h, -⟩ := x.acknowledged_eq request interest
    have hcurrent' : (x.acknowledged request interest).tracker.currentRequest = some request := by
      rw [Tracked.currentRequest_eq, hack, ← Tracked.currentRequest_eq, hcurrent]
    have hx : ((x.acknowledged request interest).recovered request).isEnabled = true := by
      have hl : ((x.acknowledged request interest).recovered request).listing = x.listing := by
        rw [h]
        rfl
      exact (Tracked.isEnabled_congr hl).trans henabled
    have hstanding := Tracked.standing_raised hx reason
    rw [Tracked.standing_recovered hcurrent', hack] at hstanding
    rw [hstanding]
    refine .completed hcurrent hstate hreason ⟨_, ?_, Tracked.isDown_raised hx, ?_, rfl⟩
    · exact ((Tracked.SameDescription.acknowledged request interest x).trans
        (.mapTracker _ _)).trans (.raised _)
    · rw [h]
      rfl
  | silent henabled hsilent =>
    change Turned _ _ _ _ (Tracked.told _ (DownReason.aliveInterval.status)).standing
    rw [Tracked.standing_lowered henabled]
    exact .silent hsilent ⟨_, .lowered _ _, Tracked.isDown_lowered henabled _, rfl, rfl⟩
  | delayed henabled hsilent _ =>
    change Turned _ _ _ _ (Tracked.told _ (DownReason.queueDelay.status)).standing
    rw [Tracked.standing_lowered henabled]
    exact .delayed hsilent ⟨_, .lowered _ _, Tracked.isDown_lowered henabled _, rfl, rfl⟩

end FeedWatch
