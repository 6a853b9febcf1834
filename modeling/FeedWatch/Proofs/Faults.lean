import FeedWatch.Proofs.StatusStream

namespace FeedWatch

-- What a health check finds wrong with a producer, if anything.
def Scene.fault? (sc : Scene) (x : Tracked) : Option DownReason :=
  if x.isEnabled = false then none
  else if sc.isSilent x then some .aliveInterval
  else if sc.onTime x = false then some .queueDelay
  else none

-- What the user hears of it.
def Scene.complaint (sc : Scene) (x : Tracked) : Option Notification :=
  (sc.fault? x).bind fun reason => sc.notice (x.lowered reason) reason.status

-- What a health check that finds this leaves of a producer.
def Tracked.faulted (x : Tracked) : Option DownReason → Tracked
  | none => x
  | some reason => (x.lowered reason).told reason.status

namespace Scene

variable {sc : Scene} {x : Tracked} {reason : DownReason}

theorem isEnabled_of_fault? (h : sc.fault? x = some reason) : x.isEnabled = true := by
  unfold fault? at h
  split at h <;> rename_i henabled
  · exact absurd h nofun
  · simpa using henabled

theorem fault?_eq_aliveInterval :
    sc.fault? x = some .aliveInterval ↔ x.isEnabled = true ∧ sc.isSilent x := by
  unfold fault?
  grind

theorem not_isSilent_of_fault? (h : sc.fault? x = some .queueDelay) : ¬sc.isSilent x := by
  intro hsilent
  have hfault := fault?_eq_aliveInterval.mpr ⟨isEnabled_of_fault? h, hsilent⟩
  exact absurd (hfault.symm.trans h) nofun

theorem of_fault? (h : sc.fault? x = some reason) :
    reason = .aliveInterval ∨ reason = .queueDelay := by
  unfold fault? at h
  grind

-- A notice that was told is not told again.
theorem notice_of_told {reason : StatusReason} (h : x.tracker.toldReason = some reason) :
    sc.notice x reason = none := if_pos h

-- The status of a producer that goes with a notice, where the notice is about this one.
theorem statuses_notice (id : ProducerId) (x : Tracked) (reason : StatusReason) :
    Notification.statuses id (sc.notice x reason).toList = [] ∨
      x.tracker.toldReason ≠ some reason ∧ ∃ c, c.reason = reason ∧
        c.isDown = x.isFlaggedDown sc.outage ∧
        Notification.statuses id (sc.notice x reason).toList = [c] := by
  unfold notice
  split <;> rename_i htold
  · exact .inl rfl
  · split
    · exact .inl rfl
    · split
      · rename_i producer _ _
        by_cases hid : producer.id = id
        · refine .inr ⟨htold, {
            producer
            stamp := Stamp.uniform sc.now
            isDown := x.isFlaggedDown sc.outage
            isDelayed := !sc.onTime x
            reason }, rfl, rfl, ?_⟩
          simp [Notification.statuses, Notification.statusOf?, hid]
        · exact .inl (by simp [Notification.statuses, Notification.statusOf?, hid])
      · exact .inl rfl

end Scene

namespace Tracked

variable {x : Tracked} {reason : DownReason}

theorem lowered_eq_self (hdown : x.isDown = true) (hreason : x.tracker.downReason = reason)
    (hstate : x.tracker.state = .started → reason = .queueDelay) : x.lowered reason = x := by
  have hkept : ¬(x.tracker.state = .started ∧ reason ≠ .queueDelay) :=
    fun h => h.2 (hstate h.1)
  simp only [lowered, hdown, hreason, hkept, and_self, if_true, if_false,
    mapEntry_flaggedDown hdown]
  rw [← hreason]

theorem state_lowered (x : Tracked) (hstate : (x.lowered reason).tracker.state = .started) :
    reason = .queueDelay := by
  by_contra hother
  simp only [lowered, ne_eq, hother, not_false_eq_true, and_true] at hstate
  split at hstate
  · contradiction
  · contradiction

-- To find the same once more changes nothing.
theorem faulted_faulted {fault : Option DownReason}
    (henabled : ∀ reason, fault = some reason → x.isEnabled = true) :
    (x.faulted fault).faulted fault = x.faulted fault := by
  cases fault with
  | none => rfl
  | some reason =>
    have hdown : (x.faulted (some reason)).isDown = true :=
      isDown_lowered (henabled reason rfl) reason
    have hsame : (x.faulted (some reason)).lowered reason = x.faulted (some reason) :=
      lowered_eq_self hdown rfl x.state_lowered
    change ((x.faulted (some reason)).lowered reason).told reason.status = _
    rw [hsame]
    rfl

theorem isEnabled_faulted (fault : Option DownReason) :
    (x.faulted fault).isEnabled = x.isEnabled := by
  cases fault with
  | none => rfl
  | some reason => exact isEnabled_mapEntry (f := ({ · with flaggedDown := true })) fun _ => rfl

theorem lastProcessed_faulted (fault : Option DownReason) :
    (x.faulted fault).lastProcessed Outage.none = x.lastProcessed Outage.none := by
  cases fault with
  | none => rfl
  | some reason =>
    exact lastProcessed_mapEntry (f := ({ · with flaggedDown := true })) fun _ => ⟨rfl, rfl⟩

theorem faulted_tracker (fault : Option DownReason) :
    (x.faulted fault).tracker.lastSystemAlive = x.tracker.lastSystemAlive ∧
      (x.faulted fault).tracker.lastUserAlive = x.tracker.lastUserAlive := by
  cases fault <;> exact ⟨rfl, rfl⟩

theorem sameDescription_faulted (fault : Option DownReason) :
    x.SameDescription (x.faulted fault) := by
  cases fault with
  | none => exact .refl x
  | some reason =>
    have htold : (x.lowered reason).SameDescription ((x.lowered reason).told reason.status) :=
      .mapTracker _ _
    exact (SameDescription.lowered reason x).trans htold

-- A check does not bring a producer back.
theorem isDown_faulted {fault : Option DownReason} (hdown : x.isDown = true) :
    (x.faulted fault).isDown = true := by
  cases fault with
  | none => exact hdown
  | some reason =>
    have hflag : (x.faulted (some reason)).isDown =
        (x.mapEntry ({ · with flaggedDown := true })).isDown := isDown_congr rfl
    rw [hflag, mapEntry_flaggedDown hdown, hdown]

end Tracked

namespace Scene

variable {sc : Scene} {x : Tracked}

-- A check finds what an earlier one found at the same time.
theorem fault?_faulted (hmem : sc.outage = Outage.none) (fault : Option DownReason) :
    sc.fault? (x.faulted fault) = sc.fault? x := by
  obtain ⟨hsystem, huser⟩ := x.faulted_tracker fault
  have hsilent : sc.isSilent (x.faulted fault) ↔ sc.isSilent x := by
    rw [isSilent, isSilent, hsystem]
  have hontime : sc.onTime (x.faulted fault) = sc.onTime x := by
    simp only [onTime, hmem, Tracked.lastProcessed_faulted, huser]
  simp only [fault?, Tracked.isEnabled_faulted, hsilent, hontime]

-- A check at this time changes nothing and says nothing.
structure IsSettled (sc : Scene) (x : Tracked) : Prop where
  stays : x.faulted (sc.fault? x) = x
  mute : sc.complaint x = none

theorem isSettled_faulted (hmem : sc.outage = Outage.none) (x : Tracked) :
    sc.IsSettled (x.faulted (sc.fault? x)) := by
  refine ⟨?_, ?_⟩
  · rw [fault?_faulted hmem]
    exact Tracked.faulted_faulted fun _ => isEnabled_of_fault?
  · rw [complaint, fault?_faulted hmem]
    cases sc.fault? x with
    | none => rfl
    | some reason => exact notice_of_told rfl

end Scene

theorem Visit.check_fault {sc : Scene} (hmem : sc.outage = Outage.none) (x : Tracked)
    (ids : RequestIds) :
    ∃ p, check.leaves sc ⟨x, ids⟩ = (p, ⟨x.faulted (sc.fault? x), ids⟩) ∧
      p.getD {} = { notification := sc.complaint x } := by
  unfold Scene.complaint Scene.fault?
  cases hx : x.isEnabled with
  | false =>
    refine ⟨some {}, ?_, rfl⟩
    simp [Handler.leaves, check, Handler.bind_run, Handler.ask_run, hmem, Tracked.isDisabled_none,
      hx, Handler.pure_run, Tracked.faulted]
  | true =>
    have hrun := check_run hmem hx ids
    by_cases hsilent : sc.isSilent x
    · rw [if_pos hsilent] at hrun
      rw [if_neg (by decide), if_pos hsilent, Handler.leaves_congr hrun]
      exact Handler.pause_takeDown hmem hx .aliveInterval ids
    · rw [if_neg hsilent] at hrun
      rw [if_neg (by decide), if_neg hsilent]
      by_cases hlate : sc.onTime x = false
      · rw [if_pos hlate] at hrun
        rw [if_pos hlate, Handler.leaves_congr hrun]
        exact Handler.pause_takeDown hmem hx .queueDelay ids
      · rw [if_neg hlate] at hrun
        rw [if_neg hlate]
        exact ⟨some {}, by rw [Handler.leaves, hrun]; rfl, rfl⟩

namespace Manager

variable {m : Manager} {t : Moment} {id : ProducerId}

theorem visit_check (hmem : t.outage = Outage.none) :
    m.visit t id .healthCheck =
      ({ notification := (m.scene t).complaint (m.tracked id) },
        m.putDesk id ⟨(m.tracked id).faulted ((m.scene t).fault? (m.tracked id)), m.ids⟩) := by
  have hmem' : (m.scene t).outage = Outage.none := hmem
  obtain ⟨p, hleaves, hpause⟩ := Visit.check_fault hmem' (m.tracked id) m.ids
  obtain ⟨-, request, interest, hcheck⟩ | h := m.visit_eq_hold t id .healthCheck
  · cases hcheck
  · have hleaves' : (Visit.start .healthCheck).leaves (m.scene t) (m.desk id) = _ := hleaves
    rw [h, hold_toOption, hold_manager, hleaves', hpause]

theorem tracked_visit_check (hmem : t.outage = Outage.none) :
    (m.visit t id .healthCheck).2.tracked id =
      (m.tracked id).faulted ((m.scene t).fault? (m.tracked id)) := by
  rw [visit_check hmem]
  exact tracked_putDesk_self (Tracked.sameDescription_faulted _)

theorem putDesk_self (htracked : id ∈ m.trackers) : m.putDesk id (m.desk id) = m := by
  have htracker : m.trackers.insert id (m.trackers[id]?.getD {}) = m.trackers := by
    ext j : 1
    rw [Std.ExtTreeMap.getElem?_insert]
    split <;> rename_i hj
    · obtain rfl := Std.LawfulEqOrd.eq_of_compare hj
      rw [Std.ExtTreeMap.getElem?_eq_some_getElem htracked]
      rfl
    · rfl
  simp only [putDesk, desk, htracker, put_listing]

theorem visit_of_isSettled (hmem : t.outage = Outage.none) (htracked : id ∈ m.trackers)
    (h : (m.scene t).IsSettled (m.tracked id)) : m.visit t id .healthCheck = ({}, m) := by
  rw [visit_check hmem, h.stays, h.mute, ← desk_eq, putDesk_self htracked]

end Manager

-- A call that checks producers of which nothing is left to say does nothing.
theorem Service.run_of_visits {s : Service} {t : Moment} {order : List ProducerId}
    (h : ∀ id ∈ order, s.manager.visit t id .healthCheck = ({}, s.manager)) :
    s.run t (order.map fun id => ⟨id, .healthCheck⟩) = (s, .finished) := by
  induction order with
  | nil => rfl
  | cons id order ih =>
    obtain ⟨hfirst, hothers⟩ := List.forall_mem_cons.mp h
    simp only [List.map_cons, run, hfirst]
    exact ih hothers

end FeedWatch
