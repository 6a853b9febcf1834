import FeedWatch.Visit
import FeedWatch.Proofs.Tracked

namespace FeedWatch

namespace Scene

-- No lag reaches the inactivity limit, and the directory says so.
def onTime (sc : Scene) (x : Tracked) : Bool :=
  match x.lastProcessed sc.outage with
  | .error _ => false
  | .ok lastProcessed =>
    sc.now.since lastProcessed < sc.config.maxInactivityMillis.toInt ∧
      sc.now.since x.tracker.lastUserAlive < sc.config.maxInactivityMillis.toInt

-- What the user hears of a reason: nothing if it was the last one, if the record of the
-- producer cannot be read, or if nobody listens.
def notice (sc : Scene) (x : Tracked) (reason : StatusReason) : Option Notification :=
  if x.tracker.toldReason = some reason then none
  else
    match x.producer sc.outage with
    | .error _ => none
    | .ok producer =>
      if sc.isOpen then
        some (.statusChange {
          producer
          stamp := Stamp.uniform sc.now
          isDown := x.isFlaggedDown sc.outage
          isDelayed := !sc.onTime x
          reason })
      else none

theorem onTime_iff {sc : Scene} {x : Tracked} : sc.onTime x = true ↔
    ∃ lastProcessed, x.lastProcessed sc.outage = .ok lastProcessed ∧
      sc.now.since lastProcessed < sc.config.maxInactivityMillis.toInt ∧
      sc.now.since x.tracker.lastUserAlive < sc.config.maxInactivityMillis.toInt := by
  unfold onTime
  cases x.lastProcessed sc.outage <;> simp

end Scene

namespace Handler

-- What a handler answers, if it does, and what it leaves behind in either case.
def leaves {α : Type} (h : Handler α) (sc : Scene) (d : Desk) : Option α × Desk :=
  match h sc d with
  | .ok a d => (some a, d)
  | .error _ d => (none, d)

variable {α β : Type} {sc : Scene} {d : Desk} {x : Tracked} {ids : RequestIds}

theorem pure_run (a : α) : (pure a : Handler α) sc d = .ok a d := rfl

theorem bind_run (h : Handler α) (k : α → Handler β) :
    (h >>= k) sc d = match h sc d with
      | .ok a d => k a sc d
      | .error e d => .error e d := by
  change EStateM.bind (h sc) (fun a => k a sc) d = _
  unfold EStateM.bind
  cases h sc d <;> rfl

theorem map_run (f : α → β) (h : Handler α) :
    (f <$> h) sc d = match h sc d with
      | .ok a d => .ok (f a) d
      | .error e d => .error e d := by
  change EStateM.map f (h sc) d = _
  unfold EStateM.map
  cases h sc d <;> rfl

theorem ite_run (c : Prop) [Decidable c] (h k : Handler α) :
    (if c then h else k) sc d = if c then h sc d else k sc d := by
  split <;> rfl

theorem throw_run (e : RecoveryError) : (throw e : Handler α) sc d = .error e d := rfl

theorem read_run : (read : Handler Scene) sc d = .ok sc d := rfl

theorem tracker_run : tracker sc d = .ok d.tracked.tracker d := rfl

theorem producerId_run : producerId sc d = .ok d.tracked.id d := rfl

theorem ask_run (question : Tracked → Outage → α) :
    ask question sc d = .ok (question d.tracked sc.outage) d := rfl

theorem track_run (change : Tracker → Tracker) :
    track change sc d = .ok () { d with tracked := d.tracked.mapTracker change } := rfl

theorem examine_run (question : Tracked → Outage → α × Tracked) :
    examine question sc d = .ok (question d.tracked sc.outage).1
      { d with tracked := (question d.tracked sc.outage).2 } := rfl

theorem drawId_run : drawId sc d = .ok d.ids.next.1 { d with ids := d.ids.next.2 } := rfl

theorem lookUp_run (question : Tracked → Outage → Except DirectoryError α) :
    lookUp question sc d = match question d.tracked sc.outage with
      | .ok answer => .ok answer d
      | .error e => .error (.directory e) d := by
  simp only [lookUp, bind_run, ask_run]
  cases question d.tracked sc.outage <;> rfl

theorem write_run (change : Tracked → Outage → Except DirectoryError Tracked) :
    write change sc d = match change d.tracked sc.outage with
      | .ok tracked => .ok () { d with tracked }
      | .error e => .error (.directory e) d := by
  simp only [write, bind_run, lookUp_run]
  cases change d.tracked sc.outage <;> rfl

theorem timingWithinLimits_run :
    timingWithinLimits sc ⟨x, ids⟩ = .ok (sc.onTime x) ⟨x, ids⟩ := by
  simp only [timingWithinLimits, bind_run, read_run, ask_run, Scene.onTime]
  cases x.lastProcessed sc.outage <;> rfl

theorem announce_run (n : Notification) :
    announce n sc d = .ok (if sc.isOpen then some n else none) d := rfl

theorem told_of_toldReason {reason : StatusReason} (h : x.tracker.toldReason = some reason) :
    x.told reason = x := by
  simp only [Tracked.told, Tracked.mapTracker, ← h]

theorem tell_of_told {reason : StatusReason} (h : x.tracker.toldReason = some reason) :
    tell reason sc ⟨x, ids⟩ = .ok none ⟨x, ids⟩ := by
  simp [tell, bind_run, tracker_run, pure_run, h]

-- A reason is told when the record of the producer can be read.
theorem tell_run {p : Producer} (hp : x.producer sc.outage = .ok p) (reason : StatusReason) :
    tell reason sc ⟨x, ids⟩ = .ok (sc.notice x reason) ⟨x.told reason, ids⟩ := by
  by_cases ht : x.tracker.toldReason = some reason
  · rw [tell_of_told ht, told_of_toldReason ht, Scene.notice, if_pos ht]
  · have hq : (x.told reason).producer sc.outage = .ok p := hp
    have ho : sc.onTime (x.told reason) = sc.onTime x := rfl
    have hd : (x.told reason).isFlaggedDown sc.outage = x.isFlaggedDown sc.outage := rfl
    simp only [Tracked.told] at hq ho hd
    simp [tell, bind_run, tracker_run, ht, track_run, lookUp_run, ask_run, hq, ho, hd,
      timingWithinLimits_run, read_run, announce_run, Scene.notice, hp, Tracked.told]

-- It is kept as told, but lost, when the record cannot be read.
theorem tell_of_error {e : DirectoryError} (hp : x.producer sc.outage = .error e)
    {reason : StatusReason} (ht : x.tracker.toldReason ≠ some reason) :
    tell reason sc ⟨x, ids⟩ = .error (.directory e) ⟨x.told reason, ids⟩ := by
  have hq : (x.told reason).producer sc.outage = .error e := hp
  simp only [Tracked.told] at hq
  simp [tell, bind_run, tracker_run, ht, track_run, lookUp_run, hq, Tracked.told]

theorem tell_leaves (sc : Scene) (x : Tracked) (ids : RequestIds) (reason : StatusReason) :
    ∃ n, (tell reason).leaves sc ⟨x, ids⟩ = (n, ⟨x.told reason, ids⟩) ∧
      n.join = sc.notice x reason := by
  by_cases ht : x.tracker.toldReason = some reason
  · refine ⟨some none, ?_, ?_⟩
    · rw [leaves, tell_of_told ht, told_of_toldReason ht]
    · simp [Scene.notice, ht]
  · cases hp : x.producer sc.outage with
    | ok p => exact ⟨some (sc.notice x reason), by rw [leaves, tell_run hp], rfl⟩
    | error e => exact ⟨none, by rw [leaves, tell_of_error hp ht], by simp [Scene.notice, ht, hp]⟩

theorem leaves_congr {h k : Handler α} {d d' : Desk} (hk : h sc d = k sc d') :
    h.leaves sc d = k.leaves sc d' := by
  rw [leaves, leaves, hk]

-- A visit that ends with what the user is told.
theorem pause_leaves (h : Handler (Option Notification)) (sc : Scene) (d : Desk) :
    ∃ p, (do return ({ notification := ← h } : Pause)).leaves sc d = (p, (h.leaves sc d).2) ∧
      p.getD {} = { notification := (h.leaves sc d).1.join } := by
  simp only [leaves, bind_run, pure_run]
  cases h sc d with
  | ok n d' => exact ⟨some { notification := n }, rfl, rfl⟩
  | error e d' => exact ⟨none, rfl, rfl⟩

section InMemory

variable (hmem : sc.outage = Outage.none) (hx : x.isEnabled = true)

include hmem hx

theorem takeDown_run (reason : DownReason) (ids : RequestIds) :
    takeDown reason sc ⟨x, ids⟩ = tell reason.status sc ⟨x.lowered reason, ids⟩ := by
  obtain ⟨e, he⟩ := Tracked.exists_entry_of_isEnabled hx
  have hd : x.isDisabled Outage.none = false := by rw [Tracked.isDisabled_none, hx, Bool.not_true]
  have hset (y : Tracked) (hy : y.listing = x.listing) := Tracked.setDown_none (hy ▸ he) reason
  have hsame := x.mapEntry_flaggedDown
  simp only [takeDown, bind_run, ask_run, ite_run, tracker_run, write_run, track_run, pure_run,
    hmem, hd]
  cases hdown : x.isDown with
  | false =>
    -- flagged last, after a started recovery gave way
    simp only [Tracked.isDown] at hdown
    by_cases hstart : x.tracker.state = .started ∧ reason ≠ .queueDelay <;>
      simp [hdown, hstart, hset, Tracked.lowered, Tracked.isDown, Tracked.mapTracker,
        Tracked.mapEntry, Tracker.interrupt]
  | true =>
    have hsame := Tracked.mapEntry_flaggedDown hdown
    simp only [Tracked.isDown] at hdown
    by_cases hreason : x.tracker.downReason = reason
    · subst hreason
      by_cases hstart : x.tracker.state = .started ∧ x.tracker.downReason ≠ .queueDelay <;>
        simp [hdown, hstart, hsame, Tracked.lowered, Tracked.isDown, Tracked.mapTracker,
          Tracker.interrupt]
    · by_cases hstart : x.tracker.state = .started ∧ reason ≠ .queueDelay <;>
        simp [hdown, hreason, hstart, hset, hsame, Tracked.lowered, Tracked.isDown,
          Tracked.mapTracker, Tracker.interrupt]

theorem bringUp_run (reason : UpReason) (ids : RequestIds) :
    bringUp reason sc ⟨x, ids⟩ = tell reason.status sc ⟨x.raised, ids⟩ := by
  obtain ⟨e, he⟩ := Tracked.exists_entry_of_isEnabled hx
  have hd : x.isDisabled Outage.none = false := by rw [Tracked.isDisabled_none, hx, Bool.not_true]
  simp only [bringUp, bind_run, ask_run, ite_run, write_run, pure_run, hmem, hd,
    Tracked.setUp_none he]
  cases hdown : x.isDown with
  | false =>
    have hsame := Tracked.mapEntry_flaggedUp hdown
    simp only [Tracked.isDown] at hdown
    simp [hdown, hsame, Tracked.raised, Tracked.isDown]
  | true =>
    simp only [Tracked.isDown] at hdown
    simp [hdown, Tracked.raised, Tracked.isDown]

theorem pause_takeDown (reason : DownReason) (ids : RequestIds) :
    ∃ p, (do return ({ notification := ← takeDown reason } : Pause)).leaves sc ⟨x, ids⟩ =
        (p, ⟨(x.lowered reason).told reason.status, ids⟩) ∧
      p.getD {} = { notification := sc.notice (x.lowered reason) reason.status } := by
  obtain ⟨n, hn, hj⟩ := tell_leaves sc (x.lowered reason) ids reason.status
  have ht := leaves_congr (takeDown_run hmem hx reason ids)
  obtain ⟨p, hp, hq⟩ := pause_leaves (takeDown reason) sc ⟨x, ids⟩
  rw [ht, hn] at hp hq
  exact ⟨p, hp, hj ▸ hq⟩

theorem pause_bringUp (reason : UpReason) (ids : RequestIds) :
    ∃ p, (do return ({ notification := ← bringUp reason } : Pause)).leaves sc ⟨x, ids⟩ =
        (p, ⟨x.raised.told reason.status, ids⟩) ∧
      p.getD {} = { notification := sc.notice x.raised reason.status } := by
  obtain ⟨n, hn, hj⟩ := tell_leaves sc x.raised ids reason.status
  have ht := leaves_congr (bringUp_run hmem hx reason ids)
  obtain ⟨p, hp, hq⟩ := pause_leaves (bringUp reason) sc ⟨x, ids⟩
  rw [ht, hn] at hp hq
  exact ⟨p, hp, hj ▸ hq⟩

end InMemory

-- A claim in an open manager.
theorem claim_run {p : Producer} (hopen : sc.isOpen = true) (hp : x.producer sc.outage = .ok p)
    (anchor : Instant) :
    claim anchor sc ⟨x, ids⟩ = .ok
      (some {
        producer := x.id
        name := p.name
        request := ids.next.1
        after := replayStart sc.config.maxRecoveryMillis sc.now anchor
        requestedAt := sc.now })
      ⟨x.mapTracker (·.setRecovery ids.next.1 sc.now .started), ids.next.2⟩ := by
  simp [claim, bind_run, map_run, read_run, hopen, drawId_run, lookUp_run, Tracked.name, hp,
    Except.map, track_run, producerId_run, Tracked.id]

theorem claim_of_not_open (hopen : sc.isOpen = false) (anchor : Instant) :
    claim anchor sc d = .ok none d := by
  simp [claim, bind_run, read_run, hopen, pure_run]

-- The id that was drawn is lost.
theorem claim_of_error {e : DirectoryError} (hopen : sc.isOpen = true)
    (hp : x.producer sc.outage = .error e) (anchor : Instant) :
    claim anchor sc ⟨x, ids⟩ = .error (.directory e) ⟨x, ids.next.2⟩ := by
  simp [claim, bind_run, read_run, hopen, drawId_run, lookUp_run, Tracked.name, hp, Except.map]

theorem keepAlive_run (hmem : sc.outage = Outage.none) (stamp : Stamp) :
    keepAlive stamp sc ⟨x, ids⟩ = .ok () ⟨x.kept stamp, ids⟩ := by
  simp [keepAlive, bind_run, examine_run, hmem, Tracked.systemAlive_none, pure_run]

end Handler
end FeedWatch
