import FeedWatch.Proofs.ScopeCoverage

namespace FeedWatch

-- What may be done to a producer, by its recovery or elsewhere.
inductive Tracked.Operation where
  | answer (purpose : Purpose) (request : RequestId) (interest : Interest)
  | setEvent (event : Urn) (request : RequestId) (startedAt : Instant)
  | eventDone (request : RequestId)
  | setRecovery (request : RequestId) (startedAt : Instant) (state : RecoveryState)
  | interrupt
  | setDown (reason : DownReason)
  | setUp
  | systemAlive (received generated : Instant)
  | userAlive (generated : Instant)
  | setLastMessage (received : Instant)
  | setLastProcessed (generated : Instant)
  | completeFirst
  | tell (reason : StatusReason)
  -- others write the directory
  | elsewhere (listing : Listing)

namespace Tracked

-- Whether an end of a replay completes it, and the producer with that end noted.
def answeredUnder (x : Tracked) (outage : Outage) (request : RequestId) (interest : Interest) :
    Purpose → Bool × Tracked
  | .recovery => x.recoveryAnswered outage request interest
  | .event => x.eventAnswered outage request interest

-- An operation that fails leaves the producer as it was, a system alive apart.
def perform (x : Tracked) (outage : Outage) : Operation → Tracked
  | .answer purpose request interest => (x.answeredUnder outage request interest purpose).2
  | .setEvent event request startedAt => x.mapTracker (·.setEvent event request startedAt)
  | .eventDone request => x.mapTracker (·.eventDone request)
  | .setRecovery request startedAt state => x.mapTracker (·.setRecovery request startedAt state)
  | .interrupt => x.mapTracker Tracker.interrupt
  | .setDown reason => (x.setDown outage reason).toOption.getD x
  | .setUp => (x.setUp outage).toOption.getD x
  | .systemAlive received generated => (x.systemAlive outage received generated).2
  | .userAlive generated => x.mapTracker ({ · with lastUserAlive := generated })
  | .setLastMessage received => (x.setLastMessage outage received).toOption.getD x
  | .setLastProcessed generated => (x.setLastProcessed outage generated).toOption.getD x
  | .completeFirst => x.mapTracker ({ · with firstRecoveryCompleted := true })
  | .tell reason => x.mapTracker ({ · with toldReason := some reason })
  | .elsewhere listing => { x with listing }

-- What is kept of the replay.
def record? (x : Tracked) (request : RequestId) : Purpose → Option Replay
  | .recovery => x.tracker.current.filter (·.request = request)
  | .event => (x.tracker.eventReplay? request).map EventReplay.toReplay

-- An end of the replay is of interest.
def Awaits (x : Tracked) (request : RequestId) : Purpose → Prop
  | .recovery => x.tracker.state.isInProgress = true ∧ x.tracker.currentRequest = some request
  | .event => request ∈ x.tracker.events

end Tracked

-- An operation, with what it found and which calls failed meanwhile. It makes none of them twice.
structure Deed where
  before : Tracked
  outage : Outage
  operation : Tracked.Operation

namespace Deed

-- A record is made for the replay. There is one of a full recovery at a time.
def Creates (d : Deed) (request : RequestId) : Purpose → Prop
  | .recovery => ∃ r startedAt state, d.operation = .setRecovery r startedAt state
  | .event => ∃ event startedAt, d.operation = .setEvent event request startedAt

-- An end of the replay is seen under an interest that is limited to a scope.
structure Acknowledges (d : Deed) (request : RequestId) (purpose : Purpose) (interest : Interest) :
    Prop where
  operation : d.operation = .answer purpose request interest
  awaited : d.before.Awaits request purpose
  limited : interest.isScopeLimited = true

-- Others leave the flag as it is.
def KeepsFlag (d : Deed) : Prop :=
  ∀ listing, d.operation = .elsewhere listing → listing.isDown = d.before.listing.isDown

end Deed

-- What was done to a producer so far. The last deed stands first.
inductive History (x₀ : Tracked) : List Deed → Tracked → Prop where
  | new : History x₀ [] x₀
  | deed {past : List Deed} {x : Tracked} (h : History x₀ past x) (outage : Outage)
      (operation : Tracked.Operation) :
      History x₀ (⟨x, outage, operation⟩ :: past) (x.perform outage operation)

-- An end of the replay was seen under this interest, and no record was made for it since.
def IsAcknowledged (request : RequestId) (purpose : Purpose) (interest : Interest) :
    List Deed → Prop
  | [] => False
  | d :: past => d.Acknowledges request purpose interest ∨
      ¬d.Creates request purpose ∧ IsAcknowledged request purpose interest past

theorem Listing.isDown_of_setDown {l l' : Listing} {down : Bool} (h : l.setDown down = .ok l') :
    l'.isDown = .ok down := by
  unfold setDown update at h
  split at h
  · obtain rfl := Except.ok.inj h
    rfl
  · cases h

theorem Listing.isDown_of_update {l l' : Listing} {f : Entry → Entry} (h : l.update f = .ok l')
    (hf : ∀ e, (f e).flaggedDown = e.flaggedDown) : l'.isDown = l.isDown := by
  unfold update at h
  split at h
  · rename_i e hentry
    obtain rfl := Except.ok.inj h
    rw [isDown, isDown, read, read, hentry]
    exact congrArg Except.ok (hf e)
  · cases h

namespace Tracked

variable {x y : Tracked} {outage : Outage} {op : Operation} {request r : RequestId}
  {purpose : Purpose} {interest i : Interest}

-- Neither the replays change, nor the flag or its reason.
structure Spares (x y : Tracked) : Prop where
  current : y.tracker.current = x.tracker.current
  events : y.tracker.events = x.tracker.events
  downReason : y.tracker.downReason = x.tracker.downReason
  isDown : y.listing.isDown = x.listing.isDown

theorem Spares.refl (x : Tracked) : x.Spares x := ⟨rfl, rfl, rfl, rfl⟩

theorem Spares.record? (h : x.Spares y) (request : RequestId) (purpose : Purpose) :
    y.record? request purpose = x.record? request purpose := by
  cases purpose with
  | recovery => rw [Tracked.record?, Tracked.record?, h.current]
  | event => simp only [Tracked.record?, Tracker.eventReplay?, h.events]

theorem spares_systemAlive (received generated : Instant) :
    x.Spares (x.systemAlive outage received generated).2 := by
  have hresumed (y : Tracked) (h : x.Spares y) :
      x.Spares (if y.tracker.state = .started then y.mapTracker ({ · with resumeFrom := generated })
        else y) := by
    split
    · exact ⟨h.current, h.events, h.downReason, h.isDown⟩
    · exact h
  unfold systemAlive
  dsimp only
  split
  · exact hresumed _ ⟨rfl, rfl, rfl, rfl⟩
  · split
    · rename_i listing hguard
      have hsame : listing.isDown = x.listing.isDown :=
        Listing.isDown_of_update (Outage.of_guard hguard) fun _ => rfl
      exact hresumed { x.mapTracker ({ · with lastSystemAlive := some received }) with listing }
        ⟨rfl, rfl, rfl, hsame⟩
    · exact ⟨rfl, rfl, rfl, rfl⟩

theorem spares_setLastMessage {received : Instant} (h : x.setLastMessage outage received = .ok y) :
    x.Spares y := by
  unfold setLastMessage at h
  split at h
  · cases h
  · rename_i hreceived
    obtain ⟨hwritten, htracker⟩ := of_write h
    rw [Listing.setLastMessage, if_neg hreceived] at hwritten
    have hsame := Listing.isDown_of_update hwritten fun _ => rfl
    exact ⟨by rw [htracker], by rw [htracker], by rw [htracker], hsame⟩

theorem spares_setLastProcessed {generated : Instant}
    (h : x.setLastProcessed outage generated = .ok y) : x.Spares y := by
  unfold setLastProcessed at h
  split at h
  · cases h
  · obtain ⟨hwritten, htracker⟩ := of_write h
    have hsame := Listing.isDown_of_update hwritten fun _ => rfl
    exact ⟨by rw [htracker], by rw [htracker], by rw [htracker], hsame⟩

-- Where a write fails, the producer is as it was.
theorem attempt_cases {written : Except DirectoryError Tracked} {P : Tracked → Prop} (hfailed : P x)
    (hdone : ∀ y, written = .ok y → P y) : P (written.toOption.getD x) := by
  cases written with
  | ok y => exact hdone y rfl
  | error e => exact hfailed

end Tracked

-- These alone make a replay known, forget it or note an end of it, as long as the producer
-- does not go down.
def Tracked.Operation.isOfReplay : Tracked.Operation → Bool
  | .answer .. | .setEvent .. | .eventDone .. | .setRecovery .. => true
  | _ => false

-- What an operation comes to.
inductive Performed (x : Tracked) (outage : Outage) : Tracked.Operation → Tracked → Prop where
  | answered (purpose : Purpose) (request : RequestId) (interest : Interest) :
      Performed x outage (.answer purpose request interest)
        (x.answeredUnder outage request interest purpose).2
  | entered (event : Urn) (request : RequestId) (startedAt : Instant) :
      Performed x outage (.setEvent event request startedAt)
        (x.mapTracker (·.setEvent event request startedAt))
  | removed (request : RequestId) :
      Performed x outage (.eventDone request) (x.mapTracker (·.eventDone request))
  | started (request : RequestId) (startedAt : Instant) (state : RecoveryState) :
      Performed x outage (.setRecovery request startedAt state)
        (x.mapTracker (·.setRecovery request startedAt state))
  | lowered {reason : DownReason} {y : Tracked} (h : x.setDown outage reason = .ok y) :
      Performed x outage (.setDown reason) y
  | raised {y : Tracked} (h : x.setUp outage = .ok y) : Performed x outage .setUp y
  | elsewhere (listing : Listing) : Performed x outage (.elsewhere listing) { x with listing }
  | spared {op : Tracked.Operation} {y : Tracked} (hspares : x.Spares y)
      (hop : op.isOfReplay = false) : Performed x outage op y

namespace Tracked

variable {x y : Tracked} {outage : Outage} {op : Operation} {request r : RequestId}
  {purpose : Purpose} {interest i : Interest}

theorem performed (x : Tracked) (outage : Outage) (op : Operation) :
    Performed x outage op (x.perform outage op) := by
  cases op with
  | answer purpose request interest => exact .answered purpose request interest
  | setEvent event request startedAt => exact .entered event request startedAt
  | eventDone request => exact .removed request
  | setRecovery request startedAt state => exact .started request startedAt state
  | setDown reason => exact attempt_cases (.spared (.refl x) rfl) fun y h => .lowered h
  | setUp => exact attempt_cases (.spared (.refl x) rfl) fun y h => .raised h
  | elsewhere listing => exact .elsewhere listing
  | systemAlive received generated => exact .spared (spares_systemAlive received generated) rfl
  | setLastMessage received =>
    exact .spared (attempt_cases (.refl x) fun y h => spares_setLastMessage h) rfl
  | setLastProcessed generated =>
    exact .spared (attempt_cases (.refl x) fun y h => spares_setLastProcessed h) rfl
  | interrupt | userAlive | completeFirst | tell => exact .spared ⟨rfl, rfl, rfl, rfl⟩ rfl

instance : Decidable (x.Awaits request purpose) :=
  match purpose with
  | .recovery => inferInstanceAs (Decidable (_ ∧ _))
  | .event => inferInstanceAs (Decidable (_ ∈ _))

-- An end of replay is noted with the replay that awaits it, if it is limited to a scope.
theorem record?_answeredUnder (x : Tracked) (outage : Outage) (r : RequestId) (interest : Interest)
    (request : RequestId) (purpose : Purpose) :
    (x.answeredUnder outage r interest purpose).2.record? request purpose =
      (x.record? request purpose).map fun replay =>
        if r = request ∧ x.Awaits request purpose ∧ interest.isScopeLimited = true then
          replay.acknowledge interest
        else replay := by
  cases purpose with
  | recovery =>
    rw [answeredUnder, record?, record?, current_recoveryAnswered]
    cases hcurrent : x.tracker.current with
    | none => simp
    | some replay =>
      by_cases hrequest : replay.request = request
      · subst hrequest
        have hnoted : (x.tracker.state.isInProgress = true ∧ x.tracker.currentRequest = some r) ∧
            interest.isScopeLimited = true ↔ r = replay.request ∧
              x.Awaits replay.request .recovery ∧ interest.isScopeLimited = true := by
          simp only [Awaits, Tracker.currentRequest, hcurrent, Option.map_some, Option.some.injEq]
          grind
        simp only [hnoted]
        split <;> simp [Replay.acknowledge, Option.filter_some]
      · split <;> simp [Replay.acknowledge, Option.filter_some, hrequest]
  | event =>
    simp only [answeredUnder, record?, eventReplay?_eventAnswered]
    cases hreplay : x.tracker.eventReplay? request with
    | none => simp
    | some replay =>
      have hmem : x.Awaits request .event :=
        Std.ExtTreeMap.mem_iff_isSome_getElem?.mpr (Option.isSome_of_mem hreplay)
      simp only [hmem, true_and, eq_comm (a := request)]
      split <;> rfl

-- Nor is anything noted with a replay that was asked for with another purpose.
theorem record?_answeredUnder_of_ne {purpose' : Purpose} (hne : purpose ≠ purpose') :
    (x.answeredUnder outage r interest purpose').2.record? request purpose =
      x.record? request purpose := by
  cases purpose with
  | recovery =>
    cases purpose' with
    | recovery => exact absurd rfl hne
    | event =>
      obtain ⟨events, hy⟩ := x.eventAnswered_eq outage r interest
      rw [answeredUnder, hy]
      rfl
  | event =>
    cases purpose' with
    | recovery =>
      obtain ⟨current, hy, -⟩ := x.recoveryAnswered_eq outage r interest
      rw [answeredUnder, hy]
      rfl
    | event => exact absurd rfl hne

end Tracked

-- Where what is kept of a replay comes from.
inductive Deed.Leaves (d : Deed) (request : RequestId) (purpose : Purpose) (replay : Replay) :
    Prop where
  | new (hcreates : d.Creates request purpose) (hnone : replay.acknowledged = [])
  | kept {before : Replay} (hcreates : ¬d.Creates request purpose)
      (hbefore : d.before.record? request purpose = some before)
      (hmem : ∀ i, i ∈ replay.acknowledged ↔
        d.Acknowledges request purpose i ∨ i ∈ before.acknowledged)

namespace Deed

variable {d : Deed} {request : RequestId} {purpose : Purpose} {replay : Replay}

theorem Acknowledges.not_creates {i : Interest} (h : d.Acknowledges request purpose i) :
    ¬d.Creates request purpose := by
  cases purpose <;> simp [Creates, h.operation]

-- Nothing was done about the replay.
theorem Leaves.same (hcreates : ¬d.Creates request purpose)
    (hanswers : ∀ i, d.operation ≠ .answer purpose request i)
    (hbefore : d.before.record? request purpose = some replay) : d.Leaves request purpose replay :=
  .kept hcreates hbefore fun i => (or_iff_right fun h => hanswers i h.operation).symm

theorem leaves_answered {x : Tracked} {outage : Outage} {purpose' : Purpose} {r : RequestId}
    {interest : Interest}
    (h : (x.answeredUnder outage r interest purpose').2.record? request purpose = some replay) :
    (Deed.mk x outage (.answer purpose' r interest)).Leaves request purpose replay := by
  have hcreates : ¬(Deed.mk x outage (.answer purpose' r interest)).Creates request purpose := by
    cases purpose <;> simp [Creates]
  by_cases hpurpose : purpose = purpose'
  · subst hpurpose
    rw [Tracked.record?_answeredUnder] at h
    obtain ⟨before, hbefore, rfl⟩ := Option.map_eq_some_iff.mp h
    refine .kept hcreates hbefore fun i => ?_
    split
    · rename_i hnoted
      obtain ⟨rfl, hawaits, hlimited⟩ := hnoted
      rw [Replay.mem_acknowledge]
      refine or_congr_left ⟨?_, fun hseen => ?_⟩
      · rintro rfl
        exact ⟨rfl, hawaits, hlimited⟩
      · exact (Tracked.Operation.answer.inj hseen.operation).2.2.symm
    · rename_i hnot
      refine (or_iff_right fun hseen => hnot ?_).symm
      obtain ⟨-, rfl, rfl⟩ := Tracked.Operation.answer.inj hseen.operation
      exact ⟨rfl, hseen.awaited, hseen.limited⟩
  · rw [Tracked.record?_answeredUnder_of_ne hpurpose] at h
    refine .same hcreates (fun i hi => hpurpose ?_) h
    exact (Tracked.Operation.answer.inj hi).1.symm

theorem leaves_entered {x : Tracked} {outage : Outage} {event : Urn} {r : RequestId}
    {startedAt : Instant} (h : (x.mapTracker (·.setEvent event r startedAt)).record? request purpose =
      some replay) :
    (Deed.mk x outage (.setEvent event r startedAt)).Leaves request purpose replay := by
  cases purpose with
  | recovery =>
    obtain ⟨events, hevents⟩ := x.tracker.setEvent_eq event r startedAt
    rw [Tracked.mapTracker, hevents] at h
    exact .same (by simp [Creates]) (by simp) h
  | event =>
    simp only [Tracked.record?, Tracked.mapTracker, Tracker.setEvent, Tracker.eventReplay?] at h
    by_cases hr : r = request
    · subst hr
      split at h
      · simp at h
      · refine .new ⟨event, startedAt, rfl⟩ ?_
        simp at h
        rw [← h]
    · refine .same (by simp [Creates, hr]) (by simp) ?_
      rw [Tracked.record?, Tracker.eventReplay?]
      split at h <;>
        simpa only [Std.ExtTreeMap.getElem?_erase, Std.ExtTreeMap.getElem?_insert,
          Std.compare_eq_iff_eq, hr, if_false] using h

theorem leaves_performed {x y : Tracked} {outage : Outage} {op : Tracked.Operation}
    (h : Performed x outage op y) (hreplay : y.record? request purpose = some replay) :
    (Deed.mk x outage op).Leaves request purpose replay := by
  cases h with
  | answered => exact leaves_answered hreplay
  | entered => exact leaves_entered hreplay
  | removed r =>
    refine .same (by cases purpose <;> simp [Creates]) (by simp) ?_
    cases purpose with
    | recovery => exact hreplay
    | event =>
      simp only [Tracked.record?, Tracked.mapTracker, Tracker.eventDone, Tracker.eventReplay?,
        Std.ExtTreeMap.getElem?_erase] at hreplay
      split at hreplay
      · cases hreplay
      · exact hreplay
  | started r startedAt state =>
    cases purpose with
    | recovery =>
      refine .new ⟨r, startedAt, state, rfl⟩ ?_
      rw [Tracked.record?, Option.filter_eq_some_iff] at hreplay
      rw [← Option.some.inj hreplay.1]
    | event => exact .same (by simp [Creates]) (by simp) hreplay
  | lowered hdown =>
    obtain ⟨-, htracker⟩ := Tracked.of_write hdown
    refine .same (by cases purpose <;> simp [Creates]) (by simp) ?_
    cases purpose with
    | recovery =>
      rw [Tracked.record?, htracker] at hreplay
      exact hreplay
    | event =>
      rw [Tracked.record?, htracker] at hreplay
      simp [Tracker.eventReplay?] at hreplay
  | raised hup =>
    obtain ⟨-, htracker⟩ := Tracked.of_write hup
    refine .same (by cases purpose <;> simp [Creates]) (by simp) ?_
    cases purpose <;> rwa [Tracked.record?, htracker] at hreplay
  | elsewhere => exact .same (by cases purpose <;> simp [Creates]) (by simp) hreplay
  | spared hspares hop =>
    rw [hspares.record?] at hreplay
    refine .same (fun hcreates => ?_) (fun i hi => ?_) hreplay
    · cases purpose with
      | recovery =>
        obtain ⟨r, startedAt, state, rfl⟩ := hcreates
        cases hop
      | event =>
        obtain ⟨event, startedAt, rfl⟩ := hcreates
        cases hop
    · obtain rfl : op = .answer purpose request i := hi
      cases hop

end Deed

namespace Tracked

variable {x y : Tracked} {outage : Outage} {op : Operation} {request : RequestId}
  {purpose : Purpose} {interest : Interest}

theorem exists_record?_of_awaits (h : x.Awaits request purpose) :
    ∃ replay, x.record? request purpose = some replay := by
  cases purpose with
  | recovery =>
    obtain ⟨replay, hcurrent, rfl⟩ := Option.map_eq_some_iff.mp h.2
    exact ⟨replay, Option.filter_eq_some_iff.mpr ⟨hcurrent, decide_eq_true rfl⟩⟩
  | event =>
    obtain ⟨replay, hreplay⟩ := Option.isSome_iff_exists.mp
      (Std.ExtTreeMap.mem_iff_isSome_getElem?.mp h)
    exact ⟨replay.toReplay, by rw [record?, Tracker.eventReplay?, hreplay, Option.map_some]⟩

theorem scopesAcknowledged_iff {acknowledged : List Interest} :
    x.scopesAcknowledged outage acknowledged = true ↔
      ∃ p, x.producer outage = .ok p ∧
        ∀ scope ∈ p.scopes, ∃ i ∈ acknowledged, i.scope? = some scope := by
  cases hp : x.producer outage with
  | ok p => simp [scopesAcknowledged_run hp, Scope.allAcknowledged_iff]
  | error e => simp [scopesAcknowledged, hp]

-- An end of it that is limited to a scope completes a replay that awaits it, once the producer
-- can be read and has an end noted for each scope, this one among them.
theorem answeredUnder_iff (hlimited : interest.isScopeLimited = true) :
    (x.answeredUnder outage request interest purpose).1 = true ↔
      x.Awaits request purpose ∧ ∃ replay, x.record? request purpose = some replay ∧
        x.scopesAcknowledged outage (replay.acknowledge interest).acknowledged = true := by
  by_cases hawaits : x.Awaits request purpose
  · obtain ⟨replay, hreplay⟩ := exists_record?_of_awaits hawaits
    simp only [hawaits, hreplay, Option.some.injEq, exists_eq_left', true_and]
    cases purpose with
    | recovery =>
      obtain ⟨hcurrent, hrequest⟩ := Option.filter_eq_some_iff.mp hreplay
      obtain rfl := of_decide_eq_true hrequest
      rw [answeredUnder, recoveryAnswered_run outage hcurrent hawaits.1]
      simp [hlimited]
    | event =>
      obtain ⟨entry, hentry, rfl⟩ := Option.map_eq_some_iff.mp hreplay
      rw [answeredUnder, eventAnswered_run outage hentry]
      simp [hlimited, EventReplay.acknowledge]
  · refine iff_of_false ?_ fun h => hawaits h.1
    cases purpose with
    | recovery =>
      rw [answeredUnder, recoveryAnswered_of_not_current hawaits]
      exact Bool.false_ne_true
    | event =>
      rw [answeredUnder, eventAnswered_of_not_mem hawaits]
      exact Bool.false_ne_true

-- An end of a replay is noted, and nothing else is done.
theorem answeredUnder_eq (x : Tracked) (outage : Outage) (request : RequestId)
    (interest : Interest) (purpose : Purpose) : ∃ current events,
      (x.answeredUnder outage request interest purpose).2 =
        x.mapTracker ({ · with current, events }) := by
  cases purpose with
  | recovery =>
    obtain ⟨current, hy, -⟩ := x.recoveryAnswered_eq outage request interest
    exact ⟨current, x.tracker.events, hy⟩
  | event =>
    obtain ⟨events, hy⟩ := x.eventAnswered_eq outage request interest
    exact ⟨x.tracker.current, events, hy⟩

-- A replay of an event stays entered until it is done, or taken away, or the producer goes down.
theorem forgotten_performed (h : Performed x outage op y) (hbefore : request ∈ x.tracker.events)
    (hafter : request ∉ y.tracker.events) :
    op = .eventDone request ∨
      (request.isZero = true ∧ ∃ event, op = .setEvent event request 0) ∨
      ∃ reason y, op = .setDown reason ∧ x.setDown outage reason = .ok y := by
  have herased {r : RequestId} (h : request ∉ x.tracker.events.erase r) : r = request := by
    simpa [Std.ExtTreeMap.mem_erase, hbefore] using h
  cases h with
  | answered purpose r interest =>
    refine absurd ?_ hafter
    cases purpose with
    | recovery =>
      obtain ⟨current, hy, -⟩ := x.recoveryAnswered_eq outage r interest
      rw [answeredUnder, hy]
      exact hbefore
    | event => exact (mem_events_eventAnswered outage interest).mpr hbefore
  | entered event r startedAt =>
    simp only [mapTracker, Tracker.setEvent] at hafter
    split at hafter
    · rename_i hzero
      obtain ⟨hr, rfl⟩ := hzero
      obtain rfl := herased hafter
      exact .inr (.inl ⟨hr, event, rfl⟩)
    · exact absurd (Std.ExtTreeMap.mem_insert.mpr (.inr hbefore)) hafter
  | removed r =>
    obtain rfl := herased hafter
    exact .inl rfl
  | started | elsewhere => exact absurd hbefore hafter
  | lowered hdown => exact .inr (.inr ⟨_, _, rfl, hdown⟩)
  | raised hup =>
    rw [(of_write hup).2] at hafter
    exact absurd hbefore hafter
  | spared hspares hop =>
    rw [hspares.events] at hafter
    exact absurd hbefore hafter

-- A reason to be down goes with the flag.
theorem isDown_performed (h : Performed x outage op y)
    (hkeeps : (Deed.mk x outage op).KeepsFlag)
    (hdown : x.tracker.downReason ≠ .default → x.listing.isDown = .ok true)
    (hreason : y.tracker.downReason ≠ .default) : y.listing.isDown = .ok true := by
  cases h with
  | answered purpose r interest =>
    obtain ⟨current, events, hy⟩ := x.answeredUnder_eq outage r interest purpose
    rw [hy] at hreason ⊢
    exact hdown hreason
  | entered event r startedAt =>
    obtain ⟨events, hevents⟩ := x.tracker.setEvent_eq event r startedAt
    rw [mapTracker, hevents] at hreason ⊢
    exact hdown hreason
  | removed | started => exact hdown hreason
  | lowered hset => exact Listing.isDown_of_setDown (of_write hset).1
  | raised hset =>
    rw [(of_write hset).2] at hreason
    exact absurd rfl hreason
  | elsewhere listing => exact (hkeeps listing rfl).trans (hdown hreason)
  | spared hspares =>
    rw [hspares.isDown]
    exact hdown (hspares.downReason ▸ hreason)

-- The flag is written and the tracker with it. Where the call of the directory fails, as it is
-- out or the producer was never described, its error comes back and both are as they were.
structure WritesBoth (x : Tracked) (op : Operation)
    (change : Tracked → Outage → Except DirectoryError Tracked) (down : Bool) (tracker : Tracker) :
    Prop where
  done : ∀ (sc : Scene) (ids : RequestIds) (e : Entry), sc.outage .setDown = false →
    x.listing.entry = some e → ∃ y : Tracked, y.tracker = tracker ∧
      y.listing = { x.listing with entry := some { e with flaggedDown := down } } ∧
      Handler.write change sc ⟨x, ids⟩ = .ok () ⟨y, ids⟩ ∧ x.perform sc.outage op = y
  failed : ∀ (sc : Scene) (ids : RequestIds), sc.outage .setDown = true ∨ x.listing.entry = none →
    Handler.write change sc ⟨x, ids⟩ = .error (.directory (.unknownProducer x.id)) ⟨x, ids⟩ ∧
      x.perform sc.outage op = x

theorem writesBoth {change : Tracked → Outage → Except DirectoryError Tracked} {down : Bool}
    {tracker : Tracker}
    (hop : ∀ outage, x.perform outage op = (change x outage).toOption.getD x)
    (hchange : ∀ outage, change x outage = do
      let listing ← outage.guard .setDown x.id (x.listing.setDown down)
      return { tracker, listing }) : x.WritesBoth op change down tracker where
  done sc ids e hworks he := by
    have hguard : sc.outage.guard .setDown x.id (x.listing.setDown down) =
        .ok { x.listing with entry := some { e with flaggedDown := down } } := by
      simp [Outage.guard, hworks, Listing.setDown, Listing.update, he]
    have hwritten := hchange sc.outage
    rw [hguard] at hwritten
    refine ⟨⟨tracker, _⟩, rfl, rfl, ?_, ?_⟩
    · rw [Handler.write_run, hwritten]
      rfl
    · rw [hop, hwritten]
      rfl
  failed sc ids hfails := by
    have hguard : sc.outage.guard .setDown x.id (x.listing.setDown down) =
        .error (.unknownProducer x.id) := by
      obtain hout | hnone := hfails
      · simp [Outage.guard, hout]
      · simp [Outage.guard, Listing.setDown, Listing.update, hnone, Tracked.id]
    have hfailed := hchange sc.outage
    rw [hguard] at hfailed
    refine ⟨?_, ?_⟩
    · rw [Handler.write_run, hfailed]
      rfl
    · rw [hop, hfailed]
      rfl

-- What holds of a producer whatever was done to it, and whichever calls failed.
structure WithstandsOutages (x : Tracked) (past : List Deed) : Prop where
  setDown : ∀ reason : DownReason, x.WritesBoth (.setDown reason) (·.setDown · reason) true
    { x.tracker with downReason := reason, events := ∅ }
  setUp : x.WritesBoth .setUp Tracked.setUp false { x.tracker with downReason := .default }
  flag : (∀ d ∈ past, d.KeepsFlag) → x.tracker.downReason ≠ .default → x.listing.isDown = .ok true
  forgets : ∀ (outage : Outage) (op : Operation) (request : RequestId),
    request ∈ x.tracker.events → request ∉ (x.perform outage op).tracker.events →
      op = .eventDone request ∨
      (request.isZero = true ∧ ∃ event, op = .setEvent event request 0) ∨
      ∃ reason y, op = .setDown reason ∧ x.setDown outage reason = .ok y
  answers : ∀ (outage : Outage) (request : RequestId) (interest : Interest) (purpose : Purpose),
    interest.isScopeLimited = true →
      ((x.answeredUnder outage request interest purpose).1 = true ↔
        x.Awaits request purpose ∧ ∃ p, x.producer outage = .ok p ∧ ∀ scope ∈ p.scopes,
          ∃ i, (i = interest ∨ IsAcknowledged request purpose i past) ∧ i.scope? = some scope)

end Tracked

namespace History

variable {x₀ x : Tracked} {past : List Deed} {request : RequestId} {purpose : Purpose}
  {i : Interest}

-- The interests under which ends of a replay were seen are what is kept with it.
theorem mem_acknowledged_iff (h : History x₀ past x) (hnew : x₀.tracker = {}) {replay : Replay}
    (hreplay : x.record? request purpose = some replay) :
    i ∈ replay.acknowledged ↔ IsAcknowledged request purpose i past := by
  induction h generalizing replay with
  | new => cases purpose <;> simp [Tracked.record?, Tracker.eventReplay?, hnew] at hreplay
  | @deed past x h outage op ih =>
    rw [IsAcknowledged]
    cases Deed.leaves_performed (x.performed outage op) hreplay with
    | new hcreates hnone =>
      rw [hnone]
      refine iff_of_false List.not_mem_nil ?_
      rintro (hseen | ⟨hnot, -⟩)
      · exact hseen.not_creates hcreates
      · exact hnot hcreates
    | kept hcreates hbefore hmem => rw [hmem, ih hbefore, and_iff_right hcreates]

theorem isDown (h : History x₀ past x) (hnew : x₀.tracker = {}) (hkeeps : ∀ d ∈ past, d.KeepsFlag)
    (hreason : x.tracker.downReason ≠ .default) : x.listing.isDown = .ok true := by
  induction h with
  | new =>
    rw [hnew] at hreason
    exact absurd rfl hreason
  | @deed past x h outage op ih =>
    obtain ⟨hlast, hearlier⟩ := List.forall_mem_cons.mp hkeeps
    exact Tracked.isDown_performed (x.performed outage op) hlast (ih hearlier) hreason

theorem withstandsOutages (h : History x₀ past x) (hnew : x₀.tracker = {}) :
    x.WithstandsOutages past := by
  constructor
  case setDown => exact fun reason => Tracked.writesBoth (fun _ => rfl) fun _ => rfl
  case setUp => exact Tracked.writesBoth (fun _ => rfl) fun _ => rfl
  case flag => exact h.isDown hnew
  case forgets =>
    intro outage op request hbefore hafter
    exact Tracked.forgotten_performed (x.performed outage op) hbefore hafter
  case answers =>
    intro outage request interest purpose hlimited
    rw [Tracked.answeredUnder_iff hlimited]
    refine and_congr_right fun hawaits => ?_
    obtain ⟨replay, hreplay⟩ := Tracked.exists_record?_of_awaits hawaits
    simp only [hreplay, Option.some.injEq, exists_eq_left', Tracked.scopesAcknowledged_iff,
      Replay.mem_acknowledge, h.mem_acknowledged_iff hnew hreplay]

-- A recovery of both parts of the odds of which one part ended while the producer could not be
-- read, and after which the directory cannot be written. Once it can, the flag goes with its
-- reason.
theorem part_is_noted_unread : ∃ past x,
    History ⟨{}, (Directory.ofDescriptors [allOdds] "").listing ⟨1⟩⟩ past x ∧
    x.WithstandsOutages past ∧ past.length = 3 ∧
    IsAcknowledged ⟨1⟩ .recovery .liveOnly past ∧ x.tracker.downReason = .default ∧
    (x.answeredUnder Outage.none ⟨1⟩ .prematchOnly .recovery).1 = true ∧
    x.perform (· = .setDown) .setUp = x ∧
    (x.perform Outage.none .setUp).listing.isDown = .ok false ∧
    (x.perform Outage.none (.setDown .queueDelay)).tracker.downReason = .queueDelay := by
  have h : History ⟨{}, (Directory.ofDescriptors [allOdds] "").listing ⟨1⟩⟩ _ _ :=
    ((History.new.deed Outage.none (.setRecovery ⟨1⟩ 1000 .started)).deed
      (· = .producer) (.answer .recovery ⟨1⟩ .liveOnly)).deed (· = .setDown) (.setDown .queueDelay)
  have hwithstands := h.withstandsOutages rfl
  let scene (outage : Outage) : Scene := { config := {}, isOpen := true, now := 1000, outage }
  obtain ⟨-, hstays⟩ := hwithstands.setUp.failed (scene (· = .setDown)) ⟨0, 1⟩ (.inl rfl)
  obtain ⟨up, -, hup, -, hraised⟩ := hwithstands.setUp.done (scene Outage.none) ⟨0, 1⟩ _ rfl rfl
  obtain ⟨down, hdown, -, -, hlowered⟩ :=
    (hwithstands.setDown .queueDelay).done (scene Outage.none) ⟨0, 1⟩ _ rfl rfl
  refine ⟨_, _, h, hwithstands, rfl, ?_, rfl, rfl, hstays, ?_, ?_⟩
  · exact .inr ⟨by simp [Deed.Creates], .inl ⟨rfl, ⟨rfl, rfl⟩, rfl⟩⟩
  · rw [show _ = up from hraised, hup]
    rfl
  · rw [show _ = down from hlowered, hdown]

end History

end FeedWatch
