import FeedWatch.Manager
import FeedWatch.Proofs.Visit

namespace FeedWatch

namespace Tracked

-- The directory says the same of the producer as far as the feed described it.
structure SameDescription (x y : Tracked) : Prop where
  id : y.listing.id = x.listing.id
  fallback : y.listing.fallback = x.listing.fallback
  descriptor : y.listing.entry.map Entry.descriptor = x.listing.entry.map Entry.descriptor

namespace SameDescription

variable {x y z : Tracked}

theorem of_listing (h : y.listing = x.listing) : x.SameDescription y := by
  constructor <;> rw [h]

theorem refl (x : Tracked) : x.SameDescription x := of_listing rfl

theorem trans (h : x.SameDescription y) (h' : y.SameDescription z) : x.SameDescription z :=
  ⟨h'.id.trans h.id, h'.fallback.trans h.fallback, h'.descriptor.trans h.descriptor⟩

theorem mapEntry {f : Entry → Entry} (hf : ∀ e, (f e).descriptor = e.descriptor) (x : Tracked) :
    x.SameDescription (x.mapEntry f) := by
  refine ⟨rfl, rfl, ?_⟩
  cases he : x.listing.entry <;> simp [he, hf]

theorem mapTracker (f : Tracker → Tracker) (x : Tracked) : x.SameDescription (x.mapTracker f) :=
  of_listing rfl

theorem lowered (reason : DownReason) (x : Tracked) : x.SameDescription (x.lowered reason) :=
  ⟨rfl, rfl, (mapEntry (f := ({ · with flaggedDown := true })) (fun _ => rfl) x).descriptor⟩

theorem raised (x : Tracked) : x.SameDescription x.raised :=
  ⟨rfl, rfl, (mapEntry (f := ({ · with flaggedDown := false })) (fun _ => rfl) x).descriptor⟩

theorem kept (stamp : Stamp) (x : Tracked) : x.SameDescription (x.kept stamp) := by
  cases hd : x.isDown with
  | true => exact of_listing (by simp [Tracked.kept, hd])
  | false =>
    have hm := mapEntry (f := ({ · with lastAlive := stamp.created })) (fun _ => rfl) x
    constructor <;> simp only [Tracked.kept, hd, Bool.false_eq_true, if_false]
    · exact hm.id
    · exact hm.fallback
    · exact hm.descriptor

theorem keptIf (alive : Option Stamp) (x : Tracked) : x.SameDescription (x.keptIf alive) := by
  cases alive with
  | none => exact refl x
  | some stamp => exact kept stamp x

theorem messaged (received : Instant) (x : Tracked) : x.SameDescription (x.messaged received) :=
  mapEntry (f := ({ · with lastMessage := received })) (fun _ => rfl) x

theorem processed (generated : Instant) (x : Tracked) :
    x.SameDescription (x.processed generated) :=
  mapEntry (f := ({ · with lastProcessed := generated })) (fun _ => rfl) x

theorem acknowledged (request : RequestId) (interest : Interest) (x : Tracked) :
    x.SameDescription (x.acknowledged request interest) := by
  obtain ⟨events, current, h, -⟩ := x.acknowledged_eq request interest
  exact of_listing (by rw [h, mapTracker_listing])

theorem eventAnswered (outage : Outage) (request : RequestId) (interest : Interest) (x : Tracked) :
    x.SameDescription (x.eventAnswered outage request interest).2 := by
  obtain ⟨events, h⟩ := x.eventAnswered_eq outage request interest
  exact of_listing (by rw [h, mapTracker_listing])

theorem isReadable (h : x.SameDescription y) : y.IsReadable ↔ x.IsReadable := by
  have hd := h.descriptor
  cases hx : x.listing.entry with
  | none =>
    cases hy : y.listing.entry with
    | none => exact iff_of_true (isReadable_of_no_entry hy) (isReadable_of_no_entry hx)
    | some e => simp [hx, hy] at hd
  | some e =>
    cases hy : y.listing.entry with
    | none => simp [hx, hy] at hd
    | some e' =>
      simp only [hx, hy, Option.map_some, Option.some.injEq] at hd
      rw [isReadable_of_entry hx, isReadable_of_entry hy, hd]

end SameDescription

-- What may happen to a producer without a visit. None of it is ever decided on, except
-- whether the producer is enabled.
inductive Touched (x : Tracked) : Tracked → Prop where
  | events (events : Std.ExtTreeMap RequestId EventReplay) :
      Touched x (x.mapTracker ({ · with events }))
  | attempted (attempt : Attempt) : Touched x (x.mapEntry ({ · with lastAttempt := some attempt }))
  | enabled (enabled : Bool) : Touched x (x.mapEntry ({ · with enabled }))
  | anchored (recoveryFrom : Instant) : Touched x (x.mapEntry ({ · with recoveryFrom }))

namespace Touched

variable {x y : Tracked}

theorem refl (x : Tracked) : x.Touched x := .events x.tracker.events

theorem of_eq (h : y = x) : x.Touched y := h ▸ refl x

theorem sameDescription (h : x.Touched y) : x.SameDescription y := by
  cases h with
  | events => exact .mapTracker _ x
  | attempted attempt =>
    exact .mapEntry (f := ({ · with lastAttempt := some attempt })) (fun _ => rfl) x
  | enabled enabled => exact .mapEntry (f := ({ · with enabled })) (fun _ => rfl) x
  | anchored recoveryFrom => exact .mapEntry (f := ({ · with recoveryFrom })) (fun _ => rfl) x

end Touched

end Tracked

theorem Visited.sameDescription {sc : Scene} {x y : Tracked} {v : Visit} {pause : Pause}
    (h : Visited sc x v pause y) : x.SameDescription y := by
  cases h with
  | idle => exact .refl x
  | messageStarted => exact .messaged _ x
  | messageEnded => exact .processed _ x
  | userAlive => exact .mapTracker _ x
  | unreadable => exact .messaged _ x
  | unsubscribed => exact .messaged _ x
  | unsubscribedUp =>
    exact ((Tracked.SameDescription.messaged _ x).trans (.lowered _ _)).trans (.mapTracker _ _)
  | returned =>
    exact ((Tracked.SameDescription.messaged _ x).trans (.raised _)).trans (.mapTracker _ _)
  | subscribed => exact .messaged _ x
  | calledOff => exact .messaged _ x
  | acknowledged _ hy =>
    rcases hy with rfl | rfl
    · exact .eventAnswered _ _ _ x
    · exact .acknowledged _ _ x
  | eventOver => exact .eventAnswered _ _ _ x
  | resumed => exact .acknowledged _ _ x
  | completed =>
    exact (((Tracked.SameDescription.acknowledged _ _ x).trans (.mapTracker _ _)).trans
      (.raised _)).trans (.mapTracker _ _)
  | silent => exact (Tracked.SameDescription.lowered _ x).trans (.mapTracker _ _)
  | delayed => exact (Tracked.SameDescription.lowered _ x).trans (.mapTracker _ _)

theorem Scene.producer_of_notice {sc : Scene} {x : Tracked} {reason : StatusReason}
    {n : Notification} (h : sc.notice x reason = some n) :
    x.producer sc.outage = .ok n.producer := by
  unfold notice at h
  split at h
  · cases h
  · split at h <;> rename_i hp
    · cases h
    · split at h
      · exact Option.some.inj h ▸ hp
      · cases h

-- What is told of a producer bears the record of the producer, which was enabled.
theorem Visited.producer {sc : Scene} {x y : Tracked} {v : Visit} {pause : Pause}
    {n : Notification} (h : Visited sc x v pause y) (hmem : sc.outage = Outage.none)
    (hn : pause.notification = some n) :
    x.isEnabled = true ∧ ∃ z, x.SameDescription z ∧ z.producer Outage.none = .ok n.producer := by
  have hnotice {z : Tracked} {reason : StatusReason} (hz : sc.notice z reason = some n) :
      z.producer Outage.none = .ok n.producer := hmem ▸ Scene.producer_of_notice hz
  cases h with
  | unsubscribedUp henabled =>
    exact ⟨henabled, _, (Tracked.SameDescription.messaged _ x).trans (.lowered _ _), hnotice hn⟩
  | returned henabled =>
    exact ⟨henabled, _, (Tracked.SameDescription.messaged _ x).trans (.raised _), hnotice hn⟩
  | eventOver henabled _ _ hp =>
    split at hn
    · exact ⟨henabled, x, .refl x, Option.some.inj hn ▸ hp⟩
    · cases hn
  | completed henabled =>
    exact ⟨henabled, _, ((Tracked.SameDescription.acknowledged _ _ x).trans (.mapTracker _ _)).trans
      (.raised _), hnotice hn⟩
  | silent henabled => exact ⟨henabled, _, .lowered _ x, hnotice hn⟩
  | delayed henabled => exact ⟨henabled, _, .lowered _ x, hnotice hn⟩
  | _ => cases hn

theorem Claimed.sameDescription {sc : Scene} {x y : Tracked} {ids ids' : RequestIds}
    {anchor : Instant} {alive : Option Stamp} {c : Option Claim}
    (h : Claimed sc x ids anchor alive c y ids') : x.SameDescription y := by
  cases h with
  | shut => exact .keptIf _ x
  | lost => exact .refl x
  | made => exact (Tracked.SameDescription.mapTracker _ x).trans (.keptIf _ _)

theorem Finished.sameDescription {sc : Scene} {x y : Tracked} {ids ids' : RequestIds} {rest : Rest}
    {c : Option Claim} (h : Finished sc x ids rest c y ids') : x.SameDescription y := by
  cases h with
  | done => exact .refl x
  | keepAlive => exact .kept _ x
  | eventDone => exact .mapTracker _ x
  | claim hclaim => exact hclaim.sameDescription
  | attended => exact .kept _ x
  | missing _ hclaim => exact hclaim.sameDescription
  | stuck _ hclaim => exact (Tracked.SameDescription.mapTracker _ x).trans hclaim.sameDescription

theorem Tracker.setEvent_eq (t : Tracker) (event : Urn) (request : RequestId)
    (startedAt : Instant) : ∃ events, t.setEvent event request startedAt = { t with events } := by
  unfold setEvent
  split
  · exact ⟨_, rfl⟩
  · exact ⟨_, rfl⟩

namespace Manager

variable {m : Manager} {t : Moment} {id : ProducerId}

def tracked (m : Manager) (id : ProducerId) : Tracked := (m.desk id).tracked

theorem tracked_putDesk_self {d : Desk} (hd : (m.tracked id).SameDescription d.tracked) :
    (m.putDesk id d).tracked id = d.tracked := by
  obtain ⟨⟨tracker, ⟨i, fallback, entry⟩⟩, ids⟩ := d
  obtain ⟨hid, hfallback, hdescriptor⟩ := hd
  simp only [tracked, desk, Directory.listing] at hid hfallback hdescriptor
  cases entry with
  | none =>
    have hnone : m.directory.entries[id]? = none := by simpa using hdescriptor.symm
    simp [tracked, desk, putDesk, Directory.put, Directory.listing, hnone, hid, hfallback]
  | some e =>
    simp [tracked, desk, putDesk, Directory.put, Directory.listing, hid, hfallback]

theorem tracked_putDesk_mapTracker (f : Tracker → Tracker) (ids : RequestIds) :
    (m.putDesk id ⟨(m.tracked id).mapTracker f, ids⟩).tracked id = (m.tracked id).mapTracker f :=
  tracked_putDesk_self (.mapTracker f _)

theorem listing_put_ne {directory : Directory} {l : Listing} {j : ProducerId} (hj : j ≠ id) :
    (directory.put id l).listing j = directory.listing j := by
  unfold Directory.put
  cases l.entry with
  | none => rfl
  | some e => simp [Directory.listing, Std.ExtTreeMap.getElem?_insert, hj.symm]

-- What is there is put back.
theorem put_listing (d : Directory) (id : ProducerId) : d.put id (d.listing id) = d := by
  unfold Directory.put Directory.listing
  cases he : d.entries[id]? with
  | none => rfl
  | some e =>
    have hentries : d.entries.insert id e = d.entries := by
      ext j : 1
      rw [Std.ExtTreeMap.getElem?_insert]
      split <;> rename_i hj
      · rw [← Std.LawfulEqOrd.eq_of_compare hj, he]
      · rfl
    simp only [hentries]

theorem tracked_putDesk_ne {d : Desk} {j : ProducerId} (hj : j ≠ id) :
    (m.putDesk id d).tracked j = m.tracked j := by
  simp only [tracked, desk, putDesk, listing_put_ne hj]
  simp [Std.ExtTreeMap.getElem?_insert, hj.symm]

theorem scene_congr {m' : Manager} (hsetting : m'.config = m.config ∧ m'.phase = m.phase) :
    m'.scene t = m.scene t := by
  simp only [scene, isOpen, hsetting.1, hsetting.2]

theorem isOpen_congr {m' : Manager} (hphase : m'.phase = m.phase) : m'.isOpen = m.isOpen := by
  rw [isOpen, isOpen, hphase]

theorem hold_eq {α : Type} (h : Handler α) :
    m.hold t id h = (match h (m.scene t) (m.desk id) with
      | .ok a _ => .ok a
      | .error e _ => .error e, m.putDesk id (h.leaves (m.scene t) (m.desk id)).2) := by
  unfold hold Handler.leaves
  cases h (m.scene t) (m.desk id) <;> rfl

theorem hold_toOption {α : Type} (h : Handler α) :
    (m.hold t id h).1.toOption = (h.leaves (m.scene t) (m.desk id)).1 := by
  unfold hold Handler.leaves
  cases h (m.scene t) (m.desk id) <;> rfl

theorem hold_manager {α : Type} (h : Handler α) :
    (m.hold t id h).2 = m.putDesk id (h.leaves (m.scene t) (m.desk id)).2 := by
  rw [hold_eq]

theorem hold_tracked_ne {α : Type} (h : Handler α) {j : ProducerId} (hj : j ≠ id) :
    (m.hold t id h).2.tracked j = m.tracked j := by
  rw [hold_manager, tracked_putDesk_ne hj]

theorem desk_eq : m.desk id = ⟨m.tracked id, m.ids⟩ := rfl

theorem visit_eq_hold (m : Manager) (t : Moment) (id : ProducerId) (v : Visit) :
    m.visit t id v = ({}, m) ∧ (∃ request interest, v = .replayEnded request interest) ∨
      m.visit t id v = ((m.hold t id v.start).1.toOption.getD {}, (m.hold t id v.start).2) := by
  unfold visit
  split
  · exact .inl ⟨rfl, _, _, rfl⟩
  · exact .inr rfl

theorem visit_visited (hmem : t.outage = Outage.none) (v : Visit) :
    Visited (m.scene t) (m.tracked id) v (m.visit t id v).1 ((m.visit t id v).2.tracked id) := by
  obtain ⟨h, -⟩ | h := m.visit_eq_hold t id v
  · rw [h]
    exact .idle v
  · have hmem' : (m.scene t).outage = Outage.none := hmem
    obtain ⟨p, y, hy, hv⟩ :=
      Visit.start_visited hmem' v (m.tracked id) m.ids
    rw [h, hold_toOption, hold_manager, desk_eq, hy, tracked_putDesk_self hv.sameDescription]
    exact hv

theorem visit_setting (v : Visit) :
    (m.visit t id v).2.config = m.config ∧ (m.visit t id v).2.phase = m.phase := by
  obtain ⟨h, -⟩ | h := m.visit_eq_hold t id v
  · rw [h]
    exact ⟨rfl, rfl⟩
  · rw [h, hold_manager]
    exact ⟨rfl, rfl⟩

theorem visit_tracked_ne (v : Visit) {j : ProducerId} (hj : j ≠ id) :
    (m.visit t id v).2.tracked j = m.tracked j := by
  obtain ⟨h, -⟩ | h := m.visit_eq_hold t id v
  · rw [h]
  · rw [h, hold_tracked_ne _ hj]

theorem visit_alive_rest (hmem : t.outage = Outage.none) (hx : (m.tracked id).isEnabled = true)
    {stamp : Stamp} (hreceived : stamp.received ≠ 0) (hread : (m.tracked id).IsReadable)
    (subscribed : Bool) :
    (m.visit t id (.alive stamp subscribed .systemAliveOnly)).1.rest ≠ .done := by
  have hmem' : (m.scene t).outage = Outage.none := hmem
  obtain ⟨p, d, hrun, hrest⟩ := Visit.systemAlive_rest hmem' hx hreceived hread subscribed m.ids
  have hstart : (Visit.alive stamp subscribed .systemAliveOnly).start (m.scene t) (m.desk id) =
      .ok p d := by
    rw [← hrun, desk_eq]
    simp [Visit.start, Handler.bind_run, Handler.ask_run, hmem', Tracked.isDisabled_none, hx]
  obtain ⟨-, request, interest, halive⟩ | h :=
    m.visit_eq_hold t id (.alive stamp subscribed .systemAliveOnly)
  · cases halive
  · rw [h, hold_toOption, Handler.leaves, hstart]
    exact hrest

theorem visit_silent (hmem : t.outage = Outage.none) (hx : (m.tracked id).isEnabled = true)
    (hsilent : (m.scene t).isSilent (m.tracked id)) :
    (m.visit t id .healthCheck).2.tracked id =
      ((m.tracked id).lowered .aliveInterval).told .aliveInterval := by
  obtain ⟨-, request, interest, hcheck⟩ | h := m.visit_eq_hold t id .healthCheck
  · cases hcheck
  · have hmem' : (m.scene t).outage = Outage.none := hmem
    have hafter : (Visit.healthCheck.start.leaves (m.scene t) (m.desk id)).2 = _ :=
      Visit.check_silent hmem' hx hsilent m.ids
    rw [h, hold_manager, hafter]
    exact tracked_putDesk_self (Visited.silent hx hsilent).sameDescription

theorem finish_finished (hmem : t.outage = Outage.none)
    (hlimit : 0 ≤ m.config.maxRecoveryMillis.toInt) (rest : Rest) :
    Finished (m.scene t) (m.tracked id) m.ids rest (m.finish t id rest).1
      ((m.finish t id rest).2.tracked id) (m.finish t id rest).2.ids := by
  unfold finish
  split <;> rename_i hdone
  · subst hdone
    exact .done
  · have hmem' : (m.scene t).outage = Outage.none := hmem
    obtain ⟨c, y, ids', hy, hf, -⟩ := Rest.finish_finished hmem' hlimit rest
      (m.tracked id) m.ids
    dsimp only
    rw [hold_toOption, hold_manager, desk_eq, hy, tracked_putDesk_self hf.sameDescription]
    exact hf

theorem finish_setting (rest : Rest) :
    (m.finish t id rest).2.config = m.config ∧ (m.finish t id rest).2.phase = m.phase := by
  unfold finish
  split
  · exact ⟨rfl, rfl⟩
  · dsimp only
    rw [hold_manager]
    exact ⟨rfl, rfl⟩

theorem finish_tracked_ne (rest : Rest) {j : ProducerId} (hj : j ≠ id) :
    (m.finish t id rest).2.tracked j = m.tracked j := by
  unfold finish
  split
  · rfl
  · exact hold_tracked_ne _ hj

-- To track a producer from now on gives none of them another tracker than it had.
theorem getD_insertIfNew (trackers : Std.ExtTreeMap ProducerId Tracker) (i j : ProducerId) :
    (trackers.insertIfNew i {})[j]?.getD ({} : Tracker) = trackers[j]?.getD {} := by
  rw [Std.ExtTreeMap.getElem?_insertIfNew]
  split <;> rename_i hnew
  · have hj : i = j := Std.LawfulEqOrd.eq_of_compare hnew.1
    rw [← hj, Std.ExtTreeMap.getElem?_eq_none hnew.2]
    rfl
  · rfl

theorem callEvent_tracked (kind : Api.EventReplayKind) (event : Urn) (j : ProducerId) :
    (m.callEvent kind id event).2.tracked j = m.tracked j := by
  simp only [callEvent, tracked, desk, getD_insertIfNew]

-- An event replay is entered, and stays if the name of its producer can be read.
theorem enterEvent_eq (m : Manager) (t : Moment) (call : EventCall) :
    m.enterEvent t call =
      match (m.tracked call.producer).name t.outage with
      | .ok name => (.ok { call with name },
          m.putDesk call.producer
            ⟨(m.tracked call.producer).mapTracker (·.setEvent call.event call.request t.now), m.ids⟩)
      | .error e => (.error (.directory e),
          m.putDesk call.producer
            ⟨(m.tracked call.producer).mapTracker fun tracker =>
              (tracker.setEvent call.event call.request t.now).eventDone call.request, m.ids⟩) := by
  have hname : ((m.tracked call.producer).mapTracker
      (·.setEvent call.event call.request t.now)).name t.outage =
        (m.tracked call.producer).name t.outage := rfl
  simp only [enterEvent, hold, Handler.bind_run, Handler.track_run, Handler.ask_run, desk_eq,
    scene, hname]
  cases (m.tracked call.producer).name t.outage with
  | ok name => simp only [Handler.pure_run]
  | error e =>
    simp only [Handler.bind_run, Handler.track_run, Handler.throw_run]
    rfl

-- A desk on which nothing but the event replays of its producer changed.
theorem putDesk_touched {d : Desk}
    (hd : ∃ events, d.tracked = (m.tracked id).mapTracker ({ · with events })) (j : ProducerId) :
    (m.tracked j).Touched ((m.putDesk id d).tracked j) := by
  obtain ⟨events, hd⟩ := hd
  by_cases hj : j = id
  · subst hj
    rw [tracked_putDesk_self (hd ▸ .mapTracker _ _), hd]
    exact .events events
  · rw [tracked_putDesk_ne hj]
    exact .refl _

theorem enterEvent_touched (call : EventCall) (j : ProducerId) :
    (m.tracked j).Touched ((m.enterEvent t call).2.tracked j) := by
  obtain ⟨events, hset⟩ := (m.tracked call.producer).tracker.setEvent_eq call.event call.request t.now
  rw [enterEvent_eq]
  cases (m.tracked call.producer).name t.outage with
  | ok name => exact putDesk_touched ⟨events, by simp only [Tracked.mapTracker, hset]⟩ j
  | error e =>
    refine putDesk_touched ⟨events.erase call.request, ?_⟩ j
    simp only [Tracked.mapTracker, hset, Tracker.eventDone]

theorem eventPosted_touched (r : EventRequest) (answer : Except TransportError Unit)
    (j : ProducerId) : (m.tracked j).Touched ((m.eventPosted t r answer).2.tracked j) := by
  cases answer with
  | ok => exact .refl _
  | error e => exact putDesk_touched (d := ⟨_, _⟩) ⟨_, rfl⟩ j

theorem enterEvent_setting (call : EventCall) :
    (m.enterEvent t call).2.config = m.config ∧ (m.enterEvent t call).2.phase = m.phase := by
  rw [enterEvent_eq]
  cases (m.tracked call.producer).name t.outage <;> exact ⟨rfl, rfl⟩

theorem enterEvent_ids (call : EventCall) : (m.enterEvent t call).2.ids = m.ids := by
  rw [enterEvent_eq]
  cases (m.tracked call.producer).name t.outage <;> rfl

theorem eventPosted_setting (r : EventRequest) (answer : Except TransportError Unit) :
    (m.eventPosted t r answer).2.config = m.config ∧
      (m.eventPosted t r answer).2.phase = m.phase := by
  cases answer with
  | ok => exact ⟨rfl, rfl⟩
  | error e =>
    rw [eventPosted, hold_manager]
    exact ⟨rfl, rfl⟩

-- An entry of the directory is written, if there is one.
theorem tracked_put {f : Entry → Entry} {l : Listing}
    (hl : (m.directory.listing id).update f = .ok l) (j : ProducerId) :
    ({ m with directory := m.directory.put id l } : Manager).tracked j =
      if j = id then (m.tracked j).mapEntry f else m.tracked j := by
  split <;> rename_i hj
  · subst hj
    cases he : m.directory.entries[j]? with
    | none => simp [Directory.listing, Listing.update, he] at hl
    | some e =>
      simp only [Directory.listing, Listing.update, he, Except.ok.injEq] at hl
      subst hl
      simp [tracked, desk, Directory.put, Directory.listing, Tracked.mapEntry, he]
  · simp only [tracked, desk, listing_put_ne hj]

theorem recoveryPosted_touched (c : Claim) (answer : Except TransportError Unit) (j : ProducerId) :
    (m.tracked j).Touched ((m.recoveryPosted t c answer).tracked j) := by
  unfold recoveryPosted
  dsimp only
  split <;> rename_i hl
  · rw [tracked_put (Outage.of_guard hl)]
    split
    · exact .attempted _
    · exact .refl _
  · exact .refl _

theorem recoveryPosted_setting (c : Claim) (answer : Except TransportError Unit) :
    (m.recoveryPosted t c answer).config = m.config ∧
      (m.recoveryPosted t c answer).phase = m.phase := by
  unfold recoveryPosted
  dsimp only
  split
  · exact ⟨rfl, rfl⟩
  · exact ⟨rfl, rfl⟩

theorem trackers_recoveryPosted (c : Claim) (answer : Except TransportError Unit) :
    (m.recoveryPosted t c answer).trackers = m.trackers := by
  unfold recoveryPosted
  dsimp only
  split
  · rfl
  · rfl

theorem trackers_started (producers : List (ProducerId × Producer))
    (trackers : Std.ExtTreeMap ProducerId Tracker) (j : ProducerId) :
    (producers.foldl (fun trackers p => trackers.insertIfNew p.1 {}) trackers)[j]?.getD
        ({} : Tracker) = trackers[j]?.getD {} := by
  induction producers generalizing trackers with
  | nil => rfl
  | cons p producers ih => rw [List.foldl_cons, ih, getD_insertIfNew]

theorem start_manager {m' : Manager} (h : m.start t = .ok m') :
    m.phase = .created ∧ m'.phase = .opened ∧ m'.config = m.config ∧ m'.ids = m.ids ∧
      ∀ j, m'.tracked j = m.tracked j := by
  cases hphase : m.phase with
  | opened => simp [start, hphase] at h
  | closed => simp [start, hphase] at h
  | created =>
    simp only [start, hphase] at h
    split at h
    · exact absurd h nofun
    · simp only [Except.ok.injEq] at h
      subst h
      refine ⟨rfl, rfl, rfl, rfl, fun j => ?_⟩
      simp only [tracked, desk, trackers_started]

end Manager

end FeedWatch
