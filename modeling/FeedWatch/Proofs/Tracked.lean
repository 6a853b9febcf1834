import FeedWatch.Tracker

namespace FeedWatch

-- A call that does not fail is answered.
theorem Outage.of_guard {α : Type} {outage : Outage} {call : DirectoryCall} {id : ProducerId}
    {answer : Except DirectoryError α} {a : α} (h : outage.guard call id answer = .ok a) :
    answer = .ok a := by
  unfold guard at h
  split at h
  · cases h
  · exact h

namespace Tracked

def mapEntry (x : Tracked) (f : Entry → Entry) : Tracked :=
  { x with listing := { x.listing with entry := x.listing.entry.map f } }

def isDown (x : Tracked) : Bool := x.isFlaggedDown Outage.none

def isEnabled (x : Tracked) : Bool := !x.isDisabled Outage.none

def told (x : Tracked) (reason : StatusReason) : Tracked :=
  x.mapTracker ({ · with toldReason := some reason })

-- Down for the reason. Where that is no news the event replays stay, and only a delay
-- of the queue leaves a started recovery alone.
def lowered (x : Tracked) (reason : DownReason) : Tracked :=
  let t := x.tracker
  { tracker := { t with
      downReason := reason
      events := if x.isDown ∧ t.downReason = reason then t.events else ∅
      state := if t.state = .started ∧ reason ≠ .queueDelay then .interrupted else t.state }
    listing := (x.mapEntry ({ · with flaggedDown := true })).listing }

def raised (x : Tracked) : Tracked :=
  { tracker := { x.tracker with
      downReason := if x.isDown then .default else x.tracker.downReason }
    listing := (x.mapEntry ({ · with flaggedDown := false })).listing }

-- A system alive is kept.
def kept (x : Tracked) (stamp : Stamp) : Tracked :=
  { tracker := { x.tracker with
      lastSystemAlive := some stamp.received
      resumeFrom := if x.tracker.state = .started then stamp.created else x.tracker.resumeFrom }
    listing := if x.isDown then x.listing
      else (x.mapEntry ({ · with lastAlive := stamp.created })).listing }

-- A message was received.
def messaged (x : Tracked) (received : Instant) : Tracked :=
  x.mapEntry ({ · with lastMessage := received })

-- A message that was generated at this instant is processed.
def processed (x : Tracked) (generated : Instant) : Tracked :=
  x.mapEntry ({ · with lastProcessed := generated })

def keptIf (x : Tracked) : Option Stamp → Tracked
  | none => x
  | some stamp => x.kept stamp

-- Down for anything but a delay of the queue, with no recovery under way.
def isUnattended (x : Tracked) : Bool :=
  x.isDown && !x.tracker.isPerformingRecovery && x.tracker.downReason != .queueDelay

def claimed (x : Tracked) (request : RequestId) (now : Instant) : Tracked :=
  x.mapTracker (·.setRecovery request now .started)

-- The current recovery has run too long.
def givenUp (x : Tracked) : Tracked := x.mapTracker (·.setRecovery .zero 0 .error)

-- All of the current recovery has arrived.
def recovered (x : Tracked) (request : RequestId) : Tracked :=
  x.mapTracker fun t =>
    { t with firstRecoveryCompleted := true }.setRecovery request t.startedAt .completed

-- An end of replay is noted with the replays it may belong to.
def acknowledged (x : Tracked) (request : RequestId) (interest : Interest) : Tracked :=
  ((x.eventAnswered Outage.none request interest).2.recoveryAnswered Outage.none request
    interest).2

-- The record of the producer can be read: its scopes make sense.
def IsReadable (x : Tracked) : Prop := ∃ p, x.producer Outage.none = .ok p

variable {x : Tracked} {e : Entry}

@[simp] theorem mapTracker_tracker (f : Tracker → Tracker) :
    (x.mapTracker f).tracker = f x.tracker := rfl

@[simp] theorem mapTracker_listing (f : Tracker → Tracker) :
    (x.mapTracker f).listing = x.listing := rfl

@[simp] theorem mapEntry_tracker (f : Entry → Entry) : (x.mapEntry f).tracker = x.tracker := rfl

@[simp] theorem mapEntry_entry (f : Entry → Entry) :
    (x.mapEntry f).listing.entry = x.listing.entry.map f := rfl

@[simp] theorem isDown_mapTracker (f : Tracker → Tracker) :
    (x.mapTracker f).isDown = x.isDown := rfl

theorem isDown_of_entry (he : x.listing.entry = some e) : x.isDown = e.flaggedDown := by
  simp [isDown, isFlaggedDown, Outage.guard, Outage.none, Listing.isDown, Listing.read, he]

theorem isDown_of_no_entry (he : x.listing.entry = none) : x.isDown = true := by
  simp [isDown, isFlaggedDown, Outage.guard, Outage.none, Listing.isDown, Listing.read, he]

theorem isEnabled_of_no_entry (he : x.listing.entry = none) : x.isEnabled = false := by
  simp [isEnabled, isDisabled, Outage.guard, Outage.none, Listing.isEnabled, Listing.read, he]

-- To flag a producer as it is changes nothing.
theorem mapEntry_flaggedDown (h : x.isDown = true) :
    x.mapEntry ({ · with flaggedDown := true }) = x := by
  obtain ⟨t, id, fallback, entry⟩ := x
  cases entry with
  | none => rfl
  | some e =>
    have hf : e.flaggedDown = true := by rw [← h, isDown_of_entry rfl]
    simp only [mapEntry, Option.map_some, ← hf]

theorem mapEntry_flaggedUp (h : x.isDown = false) :
    x.mapEntry ({ · with flaggedDown := false }) = x := by
  obtain ⟨t, id, fallback, entry⟩ := x
  cases entry with
  | none => rfl
  | some e =>
    have hf : e.flaggedDown = false := by rw [← h, isDown_of_entry rfl]
    simp only [mapEntry, Option.map_some, ← hf]

theorem isDown_congr {y : Tracked} (h : y.listing = x.listing) : y.isDown = x.isDown := by
  simp only [isDown, isFlaggedDown, id, h]

theorem isEnabled_congr {y : Tracked} (h : y.listing = x.listing) : y.isEnabled = x.isEnabled := by
  simp only [isEnabled, isDisabled, id, h]

theorem isDisabled_none : x.isDisabled Outage.none = !x.isEnabled := by simp [isEnabled]

-- Only a producer that was described can be enabled, and so only such a one moves.
theorem exists_entry_of_isEnabled (h : x.isEnabled = true) : ∃ e, x.listing.entry = some e := by
  cases he : x.listing.entry with
  | none => simp [isEnabled_of_no_entry he] at h
  | some e => exact ⟨e, rfl⟩

theorem producer_none : x.producer Outage.none = x.listing.producer := rfl

-- Whether a producer can be read is settled by what the feed said of it.
theorem isReadable_of_entry (he : x.listing.entry = some e) :
    x.IsReadable ↔ ∃ scopes, e.descriptor.scopes = .ok scopes := by
  rw [IsReadable, producer_none]
  simp only [Listing.producer, he, Entry.producer]
  cases e.descriptor.scopes <;> simp

theorem isReadable_of_no_entry (he : x.listing.entry = none) : x.IsReadable :=
  ⟨_, by rw [producer_none, Listing.producer, he]⟩

theorem isReadable_mapEntry {f : Entry → Entry} (hf : ∀ e, (f e).descriptor = e.descriptor) :
    (x.mapEntry f).IsReadable ↔ x.IsReadable := by
  cases he : x.listing.entry with
  | none =>
    have hn : (x.mapEntry f).listing.entry = none := by simp [he]
    exact iff_of_true (isReadable_of_no_entry hn) (isReadable_of_no_entry he)
  | some e =>
    have hn : (x.mapEntry f).listing.entry = some (f e) := by simp [he]
    rw [isReadable_of_entry hn, isReadable_of_entry he, hf]

theorem isReadable_lowered (reason : DownReason) : (x.lowered reason).IsReadable ↔ x.IsReadable :=
  isReadable_mapEntry (f := ({ · with flaggedDown := true })) fun _ => rfl

theorem isReadable_raised : x.raised.IsReadable ↔ x.IsReadable :=
  isReadable_mapEntry (f := ({ · with flaggedDown := false })) fun _ => rfl

theorem isReadable_of_recoveryAnchor {anchor : Instant}
    (h : x.recoveryAnchor Outage.none = .ok anchor) : x.IsReadable := by
  cases hp : x.producer Outage.none with
  | ok p => exact ⟨p, hp⟩
  | error e => simp [recoveryAnchor, hp, Except.map] at h

-- An entry is written that leaves these as they are.
theorem isEnabled_mapEntry {f : Entry → Entry} (hf : ∀ e, (f e).enabled = e.enabled) :
    (x.mapEntry f).isEnabled = x.isEnabled := by
  obtain ⟨t, id, fallback, entry⟩ := x
  cases entry with
  | none => rfl
  | some e => exact congrArg (fun enabled => !!enabled) (hf e)

theorem lastProcessed_mapEntry {f : Entry → Entry}
    (hf : ∀ e, (f e).descriptor = e.descriptor ∧ (f e).lastProcessed = e.lastProcessed) :
    (x.mapEntry f).lastProcessed Outage.none = x.lastProcessed Outage.none := by
  obtain ⟨t, id, fallback, entry⟩ := x
  cases entry with
  | none => rfl
  | some e =>
    simp only [lastProcessed, producer_none, Listing.producer, mapEntry, Option.map_some,
      Entry.producer, (hf e).1]
    cases e.descriptor.scopes with
    | error => rfl
    | ok scopes => exact congrArg Except.ok (hf e).2

-- A message that is received changes nothing that is ever decided on.
theorem isDown_messaged (received : Instant) : (x.messaged received).isDown = x.isDown := by
  obtain ⟨t, id, fallback, entry⟩ := x
  cases entry <;> rfl

theorem isEnabled_messaged (received : Instant) :
    (x.messaged received).isEnabled = x.isEnabled :=
  isEnabled_mapEntry (f := ({ · with lastMessage := received })) fun _ => rfl

theorem lastProcessed_messaged (received : Instant) :
    (x.messaged received).lastProcessed Outage.none = x.lastProcessed Outage.none :=
  lastProcessed_mapEntry (f := ({ · with lastMessage := received })) fun _ => ⟨rfl, rfl⟩

theorem recoveryAnchor_messaged (received : Instant) :
    (x.messaged received).recoveryAnchor Outage.none = x.recoveryAnchor Outage.none := by
  obtain ⟨t, id, fallback, entry⟩ := x
  cases entry with
  | none => rfl
  | some e =>
    simp only [recoveryAnchor, producer_none, Listing.producer, messaged, mapEntry,
      Option.map_some, Entry.producer]
    cases e.descriptor.scopes <;> rfl

-- What is written comes from the directory, with the tracker it is written for.
theorem of_write {outage : Outage} {call : DirectoryCall} {answer : Except DirectoryError Listing}
    {tracker : Tracker} {y : Tracked}
    (h : (do
      let listing ← outage.guard call x.id answer
      return ({ tracker, listing } : Tracked)) = .ok y) :
    answer = .ok y.listing ∧ y.tracker = tracker := by
  cases hguard : outage.guard call x.id answer with
  | error e => simp [hguard, bind, Except.bind] at h
  | ok listing =>
    simp only [hguard, bind, Except.bind, pure, Except.pure, Except.ok.injEq] at h
    subst h
    exact ⟨Outage.of_guard hguard, rfl⟩

theorem setDown_none (he : x.listing.entry = some e) (reason : DownReason) :
    x.setDown Outage.none reason = .ok
      { tracker := { x.tracker with downReason := reason, events := ∅ }
        listing := (x.mapEntry ({ · with flaggedDown := true })).listing } := by
  simp [setDown, Outage.guard, Outage.none, Listing.setDown, Listing.update, mapEntry, he,
    bind, Except.bind, pure, Except.pure]

theorem setUp_none (he : x.listing.entry = some e) :
    x.setUp Outage.none = .ok
      { tracker := { x.tracker with downReason := .default }
        listing := (x.mapEntry ({ · with flaggedDown := false })).listing } := by
  simp [setUp, Outage.guard, Outage.none, Listing.setDown, Listing.update, mapEntry, he,
    bind, Except.bind, pure, Except.pure]

theorem setLastMessage_none (he : x.listing.entry = some e) {received : Instant}
    (hr : received ≠ 0) : x.setLastMessage Outage.none received = .ok (x.messaged received) := by
  simp [setLastMessage, Outage.guard, Outage.none, Listing.setLastMessage, Listing.update,
    messaged, mapEntry, he, hr, bind, Except.bind, pure, Except.pure]

theorem setLastProcessed_none (he : x.listing.entry = some e) {generated : Instant}
    (hg : generated ≠ 0) :
    x.setLastProcessed Outage.none generated = .ok (x.processed generated) := by
  simp [setLastProcessed, Outage.guard, Outage.none, Listing.setLastProcessed, Listing.update,
    processed, mapEntry, he, hg, bind, Except.bind, pure, Except.pure]

theorem of_setLastMessage {received : Instant} {y : Tracked}
    (h : x.setLastMessage Outage.none received = .ok y) :
    received ≠ 0 ∧ y = x.messaged received := by
  by_cases hr : received = 0
  · simp [setLastMessage, hr] at h
  cases he : x.listing.entry with
  | none =>
    simp [setLastMessage, Outage.guard, Outage.none, Listing.setLastMessage, Listing.update, he, hr,
      bind, Except.bind] at h
  | some e =>
    rw [setLastMessage_none he hr] at h
    exact ⟨hr, (Except.ok.inj h).symm⟩

theorem of_setLastProcessed {generated : Instant} {y : Tracked}
    (h : x.setLastProcessed Outage.none generated = .ok y) :
    generated ≠ 0 ∧ y = x.processed generated := by
  by_cases hg : generated = 0
  · simp [setLastProcessed, hg] at h
  cases he : x.listing.entry with
  | none =>
    simp [setLastProcessed, Outage.guard, Outage.none, Listing.setLastProcessed, Listing.update, he,
      hg, bind, Except.bind] at h
  | some e =>
    rw [setLastProcessed_none he hg] at h
    exact ⟨hg, (Except.ok.inj h).symm⟩

-- The write of an alive cannot fail: it is made for a producer that is up, and only a
-- described one can be.
theorem systemAlive_none (stamp : Stamp) :
    x.systemAlive Outage.none stamp.received stamp.created = (.ok (), x.kept stamp) := by
  cases he : x.listing.entry with
  | none =>
    have hd := isDown_of_no_entry he
    unfold isDown at hd
    by_cases hs : x.tracker.state = .started <;>
      simp [systemAlive, kept, mapTracker, isFlaggedDown, isDown, hs, he, Outage.guard,
        Outage.none, Listing.isDown, Listing.read]
  | some e =>
    by_cases hs : x.tracker.state = .started <;> by_cases hd : e.flaggedDown = true <;>
      simp [systemAlive, kept, mapTracker, mapEntry, isFlaggedDown, isDown, hs, hd, he,
        Outage.guard, Outage.none, Listing.isDown, Listing.read, Listing.setLastAlive,
        Listing.update]

theorem eventAnswered_eq (outage : Outage) (request : RequestId) (interest : Interest) :
    ∃ events, (x.eventAnswered outage request interest).2 = x.mapTracker ({ · with events }) := by
  unfold eventAnswered
  cases x.tracker.eventReplay? request with
  | none => exact ⟨x.tracker.events, rfl⟩
  | some replay =>
    by_cases hi : interest.isScopeLimited
    · exact ⟨x.tracker.events.insert request (replay.acknowledge interest), by simp [hi]; rfl⟩
    · exact ⟨x.tracker.events, by simp [hi, mapTracker]⟩

theorem recoveryAnswered_eq (outage : Outage) (request : RequestId) (interest : Interest) :
    ∃ current, (x.recoveryAnswered outage request interest).2 = x.mapTracker ({ · with current }) ∧
      current.map (fun r => (r.request, r.startedAt)) =
        x.tracker.current.map (fun r => (r.request, r.startedAt)) := by
  have hsame : x = x.mapTracker ({ · with current := x.tracker.current }) := rfl
  unfold recoveryAnswered
  cases hc : x.tracker.current with
  | none => exact ⟨x.tracker.current, hsame, by rw [hc]⟩
  | some replay =>
    dsimp only
    split
    · exact ⟨x.tracker.current, hsame, by rw [hc]⟩
    · split
      · exact ⟨x.tracker.current, hsame, by rw [hc]⟩
      · exact ⟨some (replay.acknowledge interest), rfl, rfl⟩

-- Only a recovery that is under way is answered, and only under its own request.
theorem of_recoveryAnswered {outage : Outage} {request : RequestId} {interest : Interest}
    (h : (x.recoveryAnswered outage request interest).1 = true) :
    x.tracker.isPerformingRecovery = true ∧ x.tracker.currentRequest = some request := by
  unfold recoveryAnswered at h
  cases hc : x.tracker.current with
  | none => simp [hc] at h
  | some replay =>
    by_cases hp : x.tracker.isPerformingRecovery <;> by_cases hr : replay.request = request <;>
      simp_all [Tracker.currentRequest]

-- What an end of replay leaves: other acknowledgements, and all else as it was.
theorem acknowledged_eq (request : RequestId) (interest : Interest) :
    ∃ events current, x.acknowledged request interest =
        x.mapTracker ({ · with events, current }) ∧
      current.map (fun r => (r.request, r.startedAt)) =
        x.tracker.current.map (fun r => (r.request, r.startedAt)) := by
  obtain ⟨events, he⟩ := x.eventAnswered_eq Outage.none request interest
  obtain ⟨current, hc, hm⟩ :=
    (x.mapTracker ({ · with events })).recoveryAnswered_eq Outage.none request interest
  exact ⟨events, current, by rw [acknowledged, he, hc]; rfl, hm⟩

end Tracked
end FeedWatch
