import FeedWatch.Proofs.Draws
import FeedWatch.Proofs.ManagerView

namespace FeedWatch

namespace Manager

variable {m n : Manager} {t : Moment} {id j : ProducerId}

-- What is kept of one producer.
def share (m : Manager) (id : ProducerId) : Option Tracker × Option Entry :=
  (m.trackers[id]?, m.directory.entries[id]?)

theorem share_putDesk_ne {d : Desk} (hj : j ≠ id) : (m.putDesk id d).share j = m.share j := by
  have hlisting : (m.directory.put id d.tracked.listing).listing j = m.directory.listing j :=
    listing_put_ne hj
  have hentry := congrArg Listing.entry hlisting
  simp only [Directory.listing] at hentry
  simp [share, putDesk, hentry, Std.ExtTreeMap.getElem?_insert, hj.symm]

theorem share_hold_ne {α : Type} (h : Handler α) (hj : j ≠ id) :
    (m.hold t id h).2.share j = m.share j := by
  rw [hold_manager, share_putDesk_ne hj]

theorem share_visit_ne (v : Visit) (hj : j ≠ id) : (m.visit t id v).2.share j = m.share j := by
  obtain ⟨h, -⟩ | h := m.visit_eq_hold t id v
  · rw [h]
  · rw [h, share_hold_ne _ hj]

theorem share_finish_ne (rest : Rest) (hj : j ≠ id) :
    (m.finish t id rest).2.share j = m.share j := by
  unfold finish
  split
  · rfl
  · exact share_hold_ne _ hj

-- Only this one may be tracked from now on.
theorem share_callEvent_ne (kind : Api.EventReplayKind) (event : Urn) (hj : j ≠ id) :
    (m.callEvent kind id event).2.share j = m.share j := by
  have hne : compare id j ≠ .eq := fun hc => hj (Std.LawfulEqOrd.eq_of_compare hc).symm
  simp [share, callEvent, Std.ExtTreeMap.getElem?_insertIfNew, hne]

theorem share_enterEvent_ne (call : EventCall) (hj : j ≠ call.producer) :
    (m.enterEvent t call).2.share j = m.share j :=
  share_hold_ne _ hj

theorem share_eventPosted_ne {r : EventRequest} (answer : Except TransportError Unit)
    (hj : j ≠ r.producer) : (m.eventPosted t r answer).2.share j = m.share j := by
  cases answer with
  | ok => rfl
  | error e =>
    rw [eventPosted]
    exact share_hold_ne _ hj

-- The entry that was written is put back.
theorem share_recoveryPosted_ne {c : Claim} (answer : Except TransportError Unit)
    (hj : j ≠ c.producer) : (m.recoveryPosted t c answer).share j = m.share j := by
  unfold recoveryPosted
  dsimp only
  split
  · rename_i l _
    have hlisting : (m.directory.put c.producer l).listing j = m.directory.listing j :=
      listing_put_ne hj
    exact congrArg (m.trackers[j]?, ·) (congrArg Listing.entry hlisting)
  · rfl

-- A manager cannot tell the two apart by the producer.
structure SameAt (id : ProducerId) (m n : Manager) : Prop where
  config : n.config = m.config
  phase : n.phase = m.phase
  ids : n.ids = m.ids
  tracker : n.trackers[id]? = m.trackers[id]?
  listing : n.directory.listing id = m.directory.listing id

namespace SameAt

theorem putDesk (h : m.SameAt id n) (d : Desk) : (m.putDesk id d).SameAt id (n.putDesk id d) := by
  refine ⟨h.config, h.phase, rfl, ?_, ?_⟩
  · simp [Manager.putDesk]
  · have hfallback : n.directory.fallback = m.directory.fallback :=
      congrArg Listing.fallback h.listing
    simp only [Manager.putDesk, Directory.put]
    cases d.tracked.listing.entry with
    | none => exact h.listing
    | some e => simp [Directory.listing, hfallback]

theorem hold (h : m.SameAt id n) {α : Type} (k : Handler α) :
    (n.hold t id k).1 = (m.hold t id k).1 ∧ (m.hold t id k).2.SameAt id (n.hold t id k).2 := by
  have hdesk : n.desk id = m.desk id := by
    simp only [desk, h.tracker, h.listing, h.ids]
  have hscene : n.scene t = m.scene t := scene_congr ⟨h.config, h.phase⟩
  unfold Manager.hold
  rw [hdesk, hscene]
  cases k (m.scene t) (m.desk id) with
  | ok a d => exact ⟨rfl, h.putDesk d⟩
  | error e d => exact ⟨rfl, h.putDesk d⟩

theorem visit (h : m.SameAt id n) (v : Visit) :
    (n.visit t id v).1 = (m.visit t id v).1 ∧ (m.visit t id v).2.SameAt id (n.visit t id v).2 := by
  obtain ⟨hanswer, hsame⟩ := h.hold (t := t) v.start
  have hheld := congrArg (·.toOption.getD {}) hanswer
  unfold Manager.visit
  rw [h.tracker]
  cases v with
  | replayEnded request interest =>
    cases m.trackers[id]? with
    | none => exact ⟨rfl, h⟩
    | some tracker => exact ⟨hheld, hsame⟩
  | _ => exact ⟨hheld, hsame⟩

theorem finish (h : m.SameAt id n) (rest : Rest) :
    (n.finish t id rest).1 = (m.finish t id rest).1 ∧
      (m.finish t id rest).2.SameAt id (n.finish t id rest).2 := by
  unfold Manager.finish
  split
  · exact ⟨rfl, h⟩
  · obtain ⟨hanswer, hsame⟩ := h.hold (t := t) rest.finish
    exact ⟨congrArg (·.toOption.join) hanswer, hsame⟩

theorem callEvent (h : m.SameAt id n) (kind : Api.EventReplayKind) (event : Urn) :
    (n.callEvent kind id event).1 = (m.callEvent kind id event).1 ∧
      (m.callEvent kind id event).2.SameAt id (n.callEvent kind id event).2 := by
  have hmem : id ∈ n.trackers ↔ id ∈ m.trackers := by
    rw [Std.ExtTreeMap.mem_iff_isSome_getElem?, Std.ExtTreeMap.mem_iff_isSome_getElem?, h.tracker]
  refine ⟨by simp only [Manager.callEvent, h.ids],
    ⟨h.config, h.phase, congrArg (·.next.2) h.ids, ?_, h.listing⟩⟩
  simp only [Manager.callEvent, Std.ExtTreeMap.getElem?_insertIfNew, hmem, h.tracker]

theorem enterEvent {call : EventCall} (h : m.SameAt call.producer n) :
    (n.enterEvent t call).1 = (m.enterEvent t call).1 ∧
      (m.enterEvent t call).2.SameAt call.producer (n.enterEvent t call).2 :=
  h.hold _

theorem eventPosted {r : EventRequest} (h : m.SameAt r.producer n)
    (answer : Except TransportError Unit) :
    (m.eventPosted t r answer).2.SameAt r.producer (n.eventPosted t r answer).2 := by
  cases answer with
  | ok => exact h
  | error e => exact (h.hold (t := t) (Handler.track (·.eventDone r.request))).2

end SameAt

end Manager

-- All but the endpoint of the API, which is all that a producer has from the fallback of the
-- directory.
def Entry.withoutEndpoint (e : Entry) : Entry :=
  { e with descriptor := { e.descriptor with apiEndpoint := "" } }

def Producer.withoutEndpoint (p : Producer) : Producer := { p with apiEndpoint := "" }

theorem Entry.producer_withoutEndpoint (e : Entry) :
    e.withoutEndpoint.producer = e.producer.map Producer.withoutEndpoint := by
  have hscopes : e.withoutEndpoint.descriptor.scopes = e.descriptor.scopes := rfl
  unfold producer
  rw [hscopes]
  cases e.descriptor.scopes <;> rfl

def View.withoutEndpoint : View where
  entry := Entry.withoutEndpoint
  fallback := fun _ => ""
  record := Producer.withoutEndpoint
  producer_entry := Entry.producer_withoutEndpoint
  unknown_fallback := fun _ _ => rfl
  enabled_entry := fun _ => rfl
  flaggedDown_entry := fun _ => rfl
  entry_flaggedDown := fun _ _ => rfl
  entry_lastMessage := fun _ _ => rfl
  entry_lastProcessed := fun _ _ => rfl
  entry_lastAlive := fun _ _ => rfl
  name_record := fun _ => rfl
  scopes_record := fun _ => rfl
  recoveryAnchor_record := fun _ => rfl
  lastProcessed_record := fun _ => rfl

theorem Entry.eq_of_withoutEndpoint {e e' : Entry} (h : e.withoutEndpoint = e'.withoutEndpoint)
    (hdescriptor : e.descriptor = e'.descriptor) : e = e' := by
  obtain ⟨descriptor, enabled, flaggedDown, lastMessage, lastProcessed, lastAlive, recoveryFrom,
    lastAttempt⟩ := e
  obtain rfl : descriptor = e'.descriptor := hdescriptor
  simp only [withoutEndpoint, Entry.mk.injEq, true_and] at h
  simp only [h]

theorem Producer.eq_of_withoutEndpoint {p q : Producer}
    (h : p.withoutEndpoint = q.withoutEndpoint) (hendpoint : p.apiEndpoint = q.apiEndpoint) :
    p = q := by
  obtain ⟨⟩ := p
  obtain ⟨⟩ := q
  simp only [withoutEndpoint, Producer.mk.injEq, true_and] at h
  simp_all

theorem Notification.eq_of_mapProducer {n n' : Notification}
    (h : n.mapProducer Producer.withoutEndpoint = n'.mapProducer Producer.withoutEndpoint)
    (hendpoint : n.producer.apiEndpoint = n'.producer.apiEndpoint) : n = n' := by
  cases n with
  | statusChange c =>
    cases n' with
    | statusChange c' =>
      obtain ⟨producer, stamp, isDown, isDelayed, reason⟩ := c
      simp only [mapProducer, Notification.statusChange.injEq, StatusChange.mk.injEq] at h
      obtain rfl := Producer.eq_of_withoutEndpoint h.1 hendpoint
      simp only [h]
    | eventReplayed => cases h
  | eventReplayed r =>
    cases n' with
    | statusChange => cases h
    | eventReplayed r' =>
      obtain ⟨producer, stamp, event, request⟩ := r
      simp only [mapProducer, Notification.eventReplayed.injEq, EventReplayed.mk.injEq] at h
      obtain rfl := Producer.eq_of_withoutEndpoint h.1 hendpoint
      simp only [h]

theorem Pause.eq_of_mapProducer {p q : Pause}
    (h : p.mapProducer Producer.withoutEndpoint = q.mapProducer Producer.withoutEndpoint)
    (hendpoint : ∀ n n', p.notification = some n → q.notification = some n' →
      n.producer.apiEndpoint = n'.producer.apiEndpoint) : p = q := by
  obtain ⟨notification, rest⟩ := p
  obtain ⟨notification', rest'⟩ := q
  obtain ⟨hnotification, rfl⟩ := Pause.mk.inj h
  cases notification with
  | none =>
    obtain rfl := Option.map_eq_none_iff.mp hnotification.symm
    rfl
  | some n =>
    obtain ⟨n', rfl, hsame⟩ := Option.map_eq_some_iff.mp hnotification.symm
    rw [Notification.eq_of_mapProducer hsame (hendpoint n n' rfl rfl).symm]

theorem Tracked.apiEndpoint_of_entry {x : Tracked} {e : Entry} {p : Producer}
    (he : x.listing.entry = some e) (hp : x.producer Outage.none = .ok p) :
    p.apiEndpoint = e.descriptor.apiEndpoint := by
  simp only [producer_none, Listing.producer, he, Entry.producer] at hp
  split at hp
  · cases hp
  · exact Except.ok.inj hp ▸ rfl

theorem Visited.apiEndpoint {sc : Scene} {x y : Tracked} {v : Visit} {pause : Pause}
    {n : Notification} (h : Visited sc x v pause y) (hmem : sc.outage = Outage.none)
    (hn : pause.notification = some n) :
    x.listing.entry.map (·.descriptor.apiEndpoint) = some n.producer.apiEndpoint := by
  obtain ⟨henabled, z, hz, hp⟩ := h.producer hmem hn
  obtain ⟨e, he⟩ := Tracked.exists_entry_of_isEnabled henabled
  have hdescriptor := hz.descriptor
  rw [he, Option.map_some] at hdescriptor
  obtain ⟨e', he', hsame⟩ := Option.map_eq_some_iff.mp hdescriptor
  rw [he, Option.map_some, Tracked.apiEndpoint_of_entry he' hp, hsame]

namespace Manager

variable {m n : Manager} {t : Moment} {id : ProducerId}

-- What is kept of an answer goes into the entry, if there is one.
theorem entries_recoveryPosted {c : Claim} (hmem : t.outage = Outage.none)
    (answer : Except TransportError Unit) :
    (m.recoveryPosted t c answer).directory.entries[c.producer]? =
      m.directory.entries[c.producer]?.map ({ · with lastAttempt := some {
        after := c.after, requestedAt := c.requestedAt, request := c.request,
        accepted := answer.isOk, node := m.config.node } }) := by
  unfold recoveryPosted
  simp only [hmem, Outage.guard, Outage.none, Listing.setLastAttempt, Listing.update,
    Directory.listing]
  cases hentry : m.directory.entries[c.producer]? with
  | none => simp [hentry]
  | some e => simp [Directory.put]

-- Two managers that keep the same of a producer, and have the same for all.
structure Agrees (id : ProducerId) (m n : Manager) : Prop where
  config : n.config = m.config
  phase : n.phase = m.phase
  ids : n.ids = m.ids
  share : n.share id = m.share id

namespace Agrees

-- The fallback of the directory is all that they can differ in.
theorem sameAt (h : m.Agrees id n) :
    (View.withoutEndpoint.manager m).SameAt id (View.withoutEndpoint.manager n) := by
  have hentry : n.directory.entries[id]? = m.directory.entries[id]? := congrArg Prod.snd h.share
  refine ⟨h.config, h.phase, h.ids, congrArg Prod.fst h.share, ?_⟩
  simp only [View.manager, View.listing_directory]
  simp only [View.listing, Directory.listing, hentry]
  rfl

theorem of_sameAt
    (h : (View.withoutEndpoint.manager m).SameAt id (View.withoutEndpoint.manager n))
    (hdescriptor : n.directory.entries[id]?.map Entry.descriptor =
      m.directory.entries[id]?.map Entry.descriptor) : m.Agrees id n := by
  refine ⟨h.config, h.phase, h.ids, Prod.ext h.tracker ?_⟩
  have hlisting := h.listing
  simp only [View.manager, View.listing_directory, View.listing] at hlisting
  have hentry : n.directory.entries[id]?.map Entry.withoutEndpoint =
    m.directory.entries[id]?.map Entry.withoutEndpoint := congrArg Listing.entry hlisting
  change n.directory.entries[id]? = m.directory.entries[id]?
  cases hm : m.directory.entries[id]? with
  | none => simpa [hm] using hentry
  | some e =>
    rw [hm, Option.map_some] at hentry hdescriptor
    obtain ⟨e', he', hsame⟩ := Option.map_eq_some_iff.mp hentry
    rw [he', Option.map_some, Option.some.injEq] at hdescriptor
    rw [he', Entry.eq_of_withoutEndpoint hsame hdescriptor]

-- Both keep the descriptor that they had.
theorem of_sameDescription {m' n' : Manager} (h : m.Agrees id n)
    (hsame : (View.withoutEndpoint.manager m').SameAt id (View.withoutEndpoint.manager n'))
    (hm : (m.tracked id).SameDescription (m'.tracked id))
    (hn : (n.tracked id).SameDescription (n'.tracked id)) : m'.Agrees id n' := by
  have hentry : n.directory.entries[id]? = m.directory.entries[id]? := congrArg Prod.snd h.share
  refine of_sameAt hsame (hn.descriptor.trans (Eq.trans ?_ hm.descriptor.symm))
  exact congrArg (Option.map Entry.descriptor) hentry

theorem visit (h : m.Agrees id n) (hmem : t.outage = Outage.none) (v : Visit) :
    (n.visit t id v).1 = (m.visit t id v).1 ∧ (m.visit t id v).2.Agrees id (n.visit t id v).2 := by
  have hvisited : Visited (m.scene t) (m.tracked id) v _ _ := m.visit_visited hmem v
  have hvisited' : Visited (n.scene t) (n.tracked id) v _ _ := n.visit_visited hmem v
  have hentry : (n.tracked id).listing.entry = (m.tracked id).listing.entry :=
    congrArg Prod.snd h.share
  obtain ⟨hpause, hsame⟩ := h.sameAt.visit (t := t) v
  rw [View.visit_manager, View.visit_manager] at hpause hsame
  refine ⟨Pause.eq_of_mapProducer hpause fun a b ha hb => ?_,
    h.of_sameDescription hsame hvisited.sameDescription hvisited'.sameDescription⟩
  have hendpoint := (hvisited'.apiEndpoint hmem ha).symm.trans
    ((congrArg (Option.map _) hentry).trans (hvisited.apiEndpoint hmem hb))
  exact Option.some.inj hendpoint

theorem finish (h : m.Agrees id n) (hmem : t.outage = Outage.none)
    (hlimit : 0 ≤ m.config.maxRecoveryMillis.toInt) (rest : Rest) :
    (n.finish t id rest).1 = (m.finish t id rest).1 ∧
      (m.finish t id rest).2.Agrees id (n.finish t id rest).2 := by
  have hfinished : Finished (m.scene t) (m.tracked id) m.ids rest _ _ _ :=
    m.finish_finished hmem hlimit rest
  have hfinished' : Finished (n.scene t) (n.tracked id) n.ids rest _ _ _ :=
    n.finish_finished hmem (h.config ▸ hlimit) rest
  obtain ⟨hclaimed, hsame⟩ := h.sameAt.finish (t := t) rest
  rw [View.finish_manager, View.finish_manager] at hclaimed hsame
  exact ⟨hclaimed,
    h.of_sameDescription hsame hfinished.sameDescription hfinished'.sameDescription⟩

theorem callEvent (h : m.Agrees id n) (kind : Api.EventReplayKind) (event : Urn) :
    (n.callEvent kind id event).1 = (m.callEvent kind id event).1 ∧
      (m.callEvent kind id event).2.Agrees id (n.callEvent kind id event).2 := by
  have hm : (m.tracked id).SameDescription ((m.callEvent kind id event).2.tracked id) :=
    .of_listing rfl
  have hn : (n.tracked id).SameDescription ((n.callEvent kind id event).2.tracked id) :=
    .of_listing rfl
  obtain ⟨hanswer, hsame⟩ := h.sameAt.callEvent kind event
  rw [View.callEvent_manager, View.callEvent_manager] at hanswer hsame
  exact ⟨hanswer, h.of_sameDescription hsame hm hn⟩

theorem enterEvent {call : EventCall} (h : m.Agrees call.producer n) :
    (n.enterEvent t call).1 = (m.enterEvent t call).1 ∧
      (m.enterEvent t call).2.Agrees call.producer (n.enterEvent t call).2 := by
  have htouched := m.enterEvent_touched (t := t) call call.producer
  have htouched' := n.enterEvent_touched (t := t) call call.producer
  obtain ⟨hanswer, hsame⟩ := h.sameAt.enterEvent (t := t)
  rw [View.enterEvent_manager, View.enterEvent_manager] at hanswer hsame
  exact ⟨hanswer, h.of_sameDescription hsame htouched.sameDescription htouched'.sameDescription⟩

theorem eventPosted {r : EventRequest} (h : m.Agrees r.producer n)
    (answer : Except TransportError Unit) :
    (m.eventPosted t r answer).2.Agrees r.producer (n.eventPosted t r answer).2 := by
  have htouched := m.eventPosted_touched (t := t) r answer r.producer
  have htouched' := n.eventPosted_touched (t := t) r answer r.producer
  have hsame := h.sameAt.eventPosted (t := t) answer
  rw [View.eventPosted_manager, View.eventPosted_manager] at hsame
  exact h.of_sameDescription hsame htouched.sameDescription htouched'.sameDescription

theorem recoveryPosted {c : Claim} (h : m.Agrees c.producer n) (hmem : t.outage = Outage.none)
    (answer : Except TransportError Unit) :
    (m.recoveryPosted t c answer).Agrees c.producer (n.recoveryPosted t c answer) := by
  have htracker : n.trackers[c.producer]? = m.trackers[c.producer]? := congrArg Prod.fst h.share
  have hentry : n.directory.entries[c.producer]? = m.directory.entries[c.producer]? :=
    congrArg Prod.snd h.share
  obtain ⟨hconfig, hphase⟩ := m.recoveryPosted_setting (t := t) c answer
  obtain ⟨hconfig', hphase'⟩ := n.recoveryPosted_setting (t := t) c answer
  refine ⟨hconfig'.trans (h.config.trans hconfig.symm),
    hphase'.trans (h.phase.trans hphase.symm), ?_, Prod.ext ?_ ?_⟩
  · rw [recoveryPosted_ids, recoveryPosted_ids, h.ids]
  · simp only [Manager.share, trackers_recoveryPosted, htracker]
  · simp only [Manager.share, entries_recoveryPosted hmem, hentry, h.config]

end Agrees

end Manager

end FeedWatch
