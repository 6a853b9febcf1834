import FeedWatch.Proofs.Progress

namespace FeedWatch

namespace Rest

-- The system alive that is still to be kept.
def alive? : Rest → Option Stamp
  | done | eventDone _ => none
  | keepAlive stamp | ensureRecovery _ stamp => some stamp
  | claim _ alive => alive

-- Where a recovery starts that is claimed now.
def anchor? : Rest → Option Instant
  | done | keepAlive _ | eventDone _ => none
  | claim anchor _ | ensureRecovery anchor _ => some anchor

end Rest

namespace Tracked

def isUp (x : Tracked) : Bool := !x.isDown

def isStarted (x : Tracked) : Bool := x.tracker.state = .started

def lastAlive (x : Tracked) : Instant := (x.listing.entry.map Entry.lastAlive).getD 0

def recoveryFrom (x : Tracked) : Instant := (x.listing.entry.map Entry.recoveryFrom).getD 0

def anchors (x : Tracked) : Instant × Instant := (x.lastAlive, x.tracker.resumeFrom)

-- The anchors of a producer that came to stand like `y`, where an alive was kept in the end.
-- It is the next anchor while the producer is up, and the point to resume from while a
-- recovery is started.
def anchorsKept (x y : Tracked) : Option Stamp → Instant × Instant
  | none => x.anchors
  | some stamp => (if y.isUp then stamp.created else x.lastAlive,
      if y.isStarted then stamp.created else x.tracker.resumeFrom)

-- The last request for a full recovery that was answered.
def lastAttempt (x : Tracked) : Option Attempt := x.listing.entry.bind Entry.lastAttempt

-- What is kept with a producer of its recoveries.
def record (x : Tracked) : Option (Instant × Option Attempt) × Instant :=
  (x.listing.entry.map fun e => (e.lastAlive, e.lastAttempt), x.tracker.resumeFrom)

variable {x y : Tracked}

theorem anchors_of_record (h : y.record = x.record) :
    y.anchors = x.anchors ∧ y.lastAttempt = x.lastAttempt := by
  have hanchors (z : Tracked) : z.anchors = ((z.record.1.map Prod.fst).getD 0, z.record.2) := by
    simp [anchors, lastAlive, record, Function.comp_def]
  have hattempt (z : Tracked) : z.lastAttempt = z.record.1.bind Prod.snd := by
    cases he : z.listing.entry <;> simp [lastAttempt, record, he]
  rw [hanchors, hanchors, hattempt, hattempt, h]
  exact ⟨rfl, rfl⟩

theorem record_mapEntry {f : Entry → Entry}
    (hf : ∀ e, (f e).lastAlive = e.lastAlive ∧ (f e).lastAttempt = e.lastAttempt) :
    (x.mapEntry f).record = x.record := by
  cases he : x.listing.entry with
  | none => simp [record, he]
  | some e => simp [record, he, hf]

theorem record_messaged (received : Instant) : (x.messaged received).record = x.record :=
  record_mapEntry (f := ({ · with lastMessage := received })) fun _ => ⟨rfl, rfl⟩

theorem record_processed (generated : Instant) : (x.processed generated).record = x.record :=
  record_mapEntry (f := ({ · with lastProcessed := generated })) fun _ => ⟨rfl, rfl⟩

theorem record_lowered (reason : DownReason) : (x.lowered reason).record = x.record :=
  record_mapEntry (x := x) (f := ({ · with flaggedDown := true })) fun _ => ⟨rfl, rfl⟩

theorem record_raised : x.raised.record = x.record :=
  record_mapEntry (x := x) (f := ({ · with flaggedDown := false })) fun _ => ⟨rfl, rfl⟩

theorem record_acknowledged (request : RequestId) (interest : Interest) :
    (x.acknowledged request interest).record = x.record := by
  obtain ⟨events, current, h, -⟩ := x.acknowledged_eq request interest
  rw [h]
  rfl

theorem record_eventAnswered (request : RequestId) (interest : Interest) :
    (x.eventAnswered Outage.none request interest).2.record = x.record := by
  obtain ⟨events, h⟩ := x.eventAnswered_eq Outage.none request interest
  rw [h]
  rfl

theorem anchors_kept (stamp : Stamp) :
    (x.kept stamp).anchors = x.anchorsKept (x.kept stamp) (some stamp) := by
  have hstarted : (x.kept stamp).isStarted = x.isStarted := rfl
  have hresume : (x.kept stamp).tracker.resumeFrom =
      if x.isStarted then stamp.created else x.tracker.resumeFrom := by
    simp only [kept, isStarted, decide_eq_true_eq]
  have hlast : (x.kept stamp).lastAlive = if x.isUp then stamp.created else x.lastAlive := by
    cases hd : x.isDown with
    | true => simp [kept, hd, isUp, lastAlive]
    | false =>
      cases he : x.listing.entry with
      | none => cases hd.symm.trans (isDown_of_no_entry he)
      | some e => simp [kept, hd, isUp, lastAlive, he]
  have hup : (x.kept stamp).isUp = x.isUp := congrArg (!·) (isDown_kept stamp)
  rw [anchorsKept, hup, hstarted, ← hresume, ← hlast]
  rfl

theorem lastAttempt_kept (stamp : Stamp) : (x.kept stamp).lastAttempt = x.lastAttempt := by
  cases hd : x.isDown with
  | true => simp [kept, hd, lastAttempt]
  | false => cases he : x.listing.entry <;> simp [kept, hd, lastAttempt, he]

theorem Touched.anchors (h : x.Touched y) : y.anchors = x.anchors := by
  have hentry {f : Entry → Entry} (hf : ∀ e, (f e).lastAlive = e.lastAlive) :
      (x.mapEntry f).anchors = x.anchors := by
    cases he : x.listing.entry with
    | none => simp [Tracked.anchors, lastAlive, he]
    | some e => simp [Tracked.anchors, lastAlive, he, hf]
  cases h with
  | events => rfl
  | attempted attempt => exact hentry (f := ({ · with lastAttempt := some attempt })) fun _ => rfl
  | enabled enabled => exact hentry (f := ({ · with enabled })) fun _ => rfl
  | anchored recoveryFrom => exact hentry (f := ({ · with recoveryFrom })) fun _ => rfl

-- The anchor of a recovery is the last alive that counts, or what was set by hand.
theorem recoveryAnchor_eq {anchor : Instant} (h : x.recoveryAnchor Outage.none = .ok anchor) :
    anchor = if x.lastAlive = 0 then x.recoveryFrom else x.lastAlive := by
  cases hp : x.producer Outage.none with
  | error e => simp [recoveryAnchor, hp, Except.map] at h
  | ok p =>
    have hanchor : p.recoveryAnchor = anchor := by
      simpa [recoveryAnchor, hp, Except.map] using h
    rw [producer_none] at hp
    rw [← hanchor]
    cases he : x.listing.entry with
    | none =>
      simp only [Listing.producer, he, Except.ok.injEq] at hp
      subst hp
      simp [Producer.recoveryAnchor, Producer.unknown, lastAlive, recoveryFrom, he]
    | some e =>
      simp only [Listing.producer, he, Entry.producer] at hp
      split at hp
      · cases hp
      · obtain rfl := Except.ok.inj hp
        simp [Producer.recoveryAnchor, lastAlive, recoveryFrom, he]

end Tracked

namespace Visited

variable {sc : Scene} {x y : Tracked} {v : Visit} {pause : Pause}

-- Nothing is recorded before the notification.
theorem record (h : Visited sc x v pause y) : y.record = x.record := by
  cases h with
  | idle => rfl
  | messageStarted => exact Tracked.record_messaged _
  | messageEnded => exact Tracked.record_processed _
  | userAlive => rfl
  | unreadable => exact Tracked.record_messaged _
  | unsubscribed => exact Tracked.record_messaged _
  | unsubscribedUp => exact (Tracked.record_lowered .other).trans (Tracked.record_messaged _)
  | returned => exact Tracked.record_raised.trans (Tracked.record_messaged _)
  | subscribed => exact Tracked.record_messaged _
  | calledOff => exact Tracked.record_messaged _
  | acknowledged _ hy =>
    rcases hy with rfl | rfl
    · exact Tracked.record_eventAnswered _ _
    · exact Tracked.record_acknowledged _ _
  | eventOver => exact Tracked.record_eventAnswered _ _
  | resumed => exact Tracked.record_acknowledged _ _
  | completed => exact Tracked.record_raised.trans (Tracked.record_acknowledged _ _)
  | silent => exact Tracked.record_lowered .aliveInterval
  | delayed => exact Tracked.record_lowered .queueDelay

-- Only a system alive of a producer that can be read is kept.
theorem of_alive? (h : Visited sc x v pause y) {stamp : Stamp}
    (hrest : pause.rest.alive? = some stamp) :
    (∃ subscribed, v = .alive stamp subscribed .systemAliveOnly) ∧ x.IsReadable := by
  cases h with
  | unsubscribed _ _ hanchor =>
    obtain rfl := Option.some.inj hrest
    exact ⟨⟨_, rfl⟩, Tracked.isReadable_of_recoveryAnchor hanchor⟩
  | unsubscribedUp _ _ hanchor =>
    obtain rfl := Option.some.inj hrest
    exact ⟨⟨_, rfl⟩, Tracked.isReadable_of_recoveryAnchor hanchor⟩
  | returned _ _ hread =>
    obtain rfl := Option.some.inj hrest
    exact ⟨⟨_, rfl⟩, hread⟩
  | subscribed _ _ hanchor =>
    obtain rfl := Option.some.inj hrest
    exact ⟨⟨_, rfl⟩, Tracked.isReadable_of_recoveryAnchor hanchor⟩
  | calledOff _ _ hanchor =>
    obtain rfl := Option.some.inj hrest
    exact ⟨⟨_, rfl⟩, Tracked.isReadable_of_recoveryAnchor hanchor⟩
  | _ => exact absurd hrest nofun

-- A recovery is asked for by a system alive, or by the end of one that was interrupted.
theorem of_anchor? (h : Visited sc x v pause y) {anchor : Instant}
    (hrest : pause.rest.anchor? = some anchor) :
    x.isEnabled = true ∧
      ((∃ stamp subscribed, v = .alive stamp subscribed .systemAliveOnly ∧
          pause.rest.alive? = some stamp ∧
          anchor = if x.lastAlive = 0 then x.recoveryFrom else x.lastAlive) ∨
        ∃ request interest, v = .replayEnded request interest ∧ y.standing = x.standing ∧
          x.progress = (.interrupted, some request) ∧ anchor = x.tracker.resumeFrom) := by
  cases h with
  | unsubscribed henabled _ hanchor =>
    obtain rfl := Option.some.inj hrest
    exact ⟨henabled, .inl ⟨_, _, rfl, rfl, Tracked.recoveryAnchor_eq hanchor⟩⟩
  | unsubscribedUp henabled _ hanchor =>
    obtain rfl := Option.some.inj hrest
    exact ⟨henabled, .inl ⟨_, _, rfl, rfl, Tracked.recoveryAnchor_eq hanchor⟩⟩
  | subscribed henabled _ hanchor =>
    obtain rfl := Option.some.inj hrest
    exact ⟨henabled, .inl ⟨_, _, rfl, rfl, Tracked.recoveryAnchor_eq hanchor⟩⟩
  | calledOff henabled _ hanchor =>
    obtain rfl := Option.some.inj hrest
    exact ⟨henabled, .inl ⟨_, _, rfl, rfl, Tracked.recoveryAnchor_eq hanchor⟩⟩
  | resumed henabled hcurrent hstate =>
    obtain rfl := Option.some.inj hrest
    exact ⟨henabled,
      .inr ⟨_, _, rfl, Tracked.standing_acknowledged _ _, Prod.ext hstate hcurrent, rfl⟩⟩
  | _ => exact absurd hrest nofun

end Visited

-- No visit brings a recovery under way before its notification.
theorem Turned.isInProgress {sc : Scene} {x : Tracked} {v : Visit} {pause : Pause} {s : Standing}
    (h : Turned sc x v pause s) (hs : s.state.isInProgress = true) :
    x.tracker.state.isInProgress = true := by
  have hlowered {reason : DownReason} (hs : (x.standing.lowered reason).state.isInProgress = true) :
      x.tracker.state.isInProgress = true := by
    obtain hsame | ⟨hstarted, -⟩ := x.standing.state_lowered reason
    · exact (congrArg RecoveryState.isInProgress hsame).symm.trans hs
    · exact RecoveryState.isInProgress_iff.mpr (.inl hstarted)
  cases h with
  | quiet => exact hs
  | asking => exact hs
  | checking => exact hs
  | returned => exact hs
  | cutOff => exact hlowered hs
  | silent => exact hlowered hs
  | delayed => exact hlowered hs
  | completed => exact absurd hs nofun

section Ending

variable {sc : Scene} {x y : Tracked} {ids ids' : RequestIds} {rest : Rest} {c : Option Claim}

-- An alive is kept last, under the flag and the state that the rest leaves.
theorem Claimed.anchors {anchor : Instant} {alive : Option Stamp}
    (h : Claimed sc x ids anchor alive c y ids') (hread : alive.isSome = true → x.IsReadable) :
    y.anchors = x.anchorsKept y alive := by
  cases alive with
  | none =>
    cases h with
    | shut => rfl
    | lost => rfl
    | made => rfl
  | some stamp =>
    cases h with
    | shut => exact Tracked.anchors_kept stamp
    | lost _ hlost => exact absurd (hread rfl) hlost
    | made => exact Tracked.anchors_kept stamp

theorem Finished.anchors (h : Finished sc x ids rest c y ids')
    (hread : rest.alive?.isSome = true → x.IsReadable) :
    y.anchors = x.anchorsKept y rest.alive? := by
  cases h with
  | done => rfl
  | keepAlive stamp => exact Tracked.anchors_kept stamp
  | eventDone => rfl
  | claim hclaim => exact hclaim.anchors hread
  | attended => exact Tracked.anchors_kept _
  | missing _ hclaim => exact hclaim.anchors hread
  | stuck _ hclaim => exact hclaim.anchors hread

theorem Claimed.lastAttempt {anchor : Instant} {alive : Option Stamp}
    (h : Claimed sc x ids anchor alive c y ids') : y.lastAttempt = x.lastAttempt := by
  have hkept (z : Tracked) : (z.keptIf alive).lastAttempt = z.lastAttempt := by
    cases alive with
    | none => rfl
    | some stamp => exact Tracked.lastAttempt_kept stamp
  cases h with
  | shut => exact hkept x
  | lost => rfl
  | made => exact hkept _

theorem Finished.lastAttempt (h : Finished sc x ids rest c y ids') :
    y.lastAttempt = x.lastAttempt := by
  cases h with
  | done => rfl
  | keepAlive => exact Tracked.lastAttempt_kept _
  | eventDone => rfl
  | claim hclaim => exact hclaim.lastAttempt
  | attended => exact Tracked.lastAttempt_kept _
  | missing _ hclaim => exact hclaim.lastAttempt
  | stuck _ hclaim => exact hclaim.lastAttempt

-- A recovery that is under way was so before, or is claimed.
theorem Finished.isInProgress (h : Finished sc x ids rest c y ids')
    (hy : y.tracker.state.isInProgress = true) :
    x.tracker.state.isInProgress = true ∨
      y.isStarted = true ∧ ∃ anchor, rest.anchor? = some anchor := by
  have hended := h.ended
  rw [← Tracked.standing_state] at hy
  generalize hs : y.standing = s at hended hy
  have hstate : y.tracker.state = s.state := hs ▸ rfl
  cases hended with
  | @kept _ alive => cases alive <;> exact .inl hy
  | @claimed _ alive _ _ hrest =>
    right
    have hstarted : ((x.standing.claimed ids.next.1 sc.now).keptIf alive).state = .started := by
      cases alive <;> rfl
    refine ⟨decide_eq_true (hstate.trans hstarted), ?_⟩
    rcases hrest with ⟨anchor, rfl⟩ | ⟨⟨anchor, stamp, rfl⟩, -⟩
    · exact ⟨anchor, rfl⟩
    · exact ⟨anchor, rfl⟩
  | @givenUp _ _ alive => cases alive <;> exact absurd hy nofun

theorem Claimed.claim_eq {anchor : Instant} {alive : Option Stamp} {c : Claim}
    (h : Claimed sc x ids anchor alive (some c) y ids') :
    c.producer = x.id ∧ c.requestedAt = sc.now ∧
      c.after = Handler.replayStart sc.config.maxRecoveryMillis sc.now anchor := by
  cases h with
  | made => exact ⟨rfl, rfl, rfl⟩

theorem Finished.claim_eq {c : Claim} (h : Finished sc x ids rest (some c) y ids') :
    c.producer = x.id ∧ c.requestedAt = sc.now ∧ ∃ anchor, rest.anchor? = some anchor ∧
      c.after = Handler.replayStart sc.config.maxRecoveryMillis sc.now anchor := by
  cases h with
  | claim hclaim =>
    obtain ⟨hproducer, hat, hafter⟩ := hclaim.claim_eq
    exact ⟨hproducer, hat, _, rfl, hafter⟩
  | missing _ hclaim =>
    obtain ⟨hproducer, hat, hafter⟩ := hclaim.claim_eq
    exact ⟨hproducer, hat, _, rfl, hafter⟩
  | stuck _ hclaim =>
    obtain ⟨hproducer, hat, hafter⟩ := hclaim.claim_eq
    exact ⟨hproducer, hat, _, rfl, hafter⟩

end Ending

end FeedWatch
