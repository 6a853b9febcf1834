import FeedWatch.Proofs.Careful
import FeedWatch.Proofs.Config
import FeedWatch.Proofs.RecoveryStart

namespace FeedWatch

-- The two times of an alive that are kept.
structure Stamp.IsSinceEpoch (stamp : Stamp) : Prop where
  received : 0 ≤ stamp.received.toInt
  created : 0 ≤ stamp.created.toInt

structure Tracker.IsSinceEpoch (t : Tracker) : Prop where
  startedAt : 0 ≤ t.startedAt.toInt
  lastSystemAlive : 0 ≤ (t.lastSystemAlive.getD 0).toInt
  lastUserAlive : 0 ≤ t.lastUserAlive.toInt
  resumeFrom : 0 ≤ t.resumeFrom.toInt

structure Entry.IsSinceEpoch (e : Entry) : Prop where
  lastProcessed : 0 ≤ e.lastProcessed.toInt
  lastAlive : 0 ≤ e.lastAlive.toInt
  recoveryFrom : 0 ≤ e.recoveryFrom.toInt

def Listing.IsSinceEpoch (l : Listing) : Prop := ∀ e, l.entry = some e → e.IsSinceEpoch

structure Tracked.IsSinceEpoch (x : Tracked) : Prop where
  tracker : x.tracker.IsSinceEpoch
  listing : x.listing.IsSinceEpoch

def Visit.IsSinceEpoch : Visit → Prop
  | .messageStarted received => 0 ≤ received.toInt
  | .messageEnded generated => 0 ≤ generated.toInt
  | .alive stamp .. => stamp.IsSinceEpoch
  | .replayEnded .. | .healthCheck => True

instance (stamp : Stamp) : Decidable stamp.IsSinceEpoch :=
  decidable_of_iff (0 ≤ stamp.received.toInt ∧ 0 ≤ stamp.created.toInt)
    ⟨fun h => ⟨h.1, h.2⟩, fun h => ⟨h.received, h.created⟩⟩

instance : (v : Visit) → Decidable v.IsSinceEpoch
  | .messageStarted received => inferInstanceAs (Decidable (0 ≤ received.toInt))
  | .messageEnded generated => inferInstanceAs (Decidable (0 ≤ generated.toInt))
  | .alive stamp .. => inferInstanceAs (Decidable stamp.IsSinceEpoch)
  | .replayEnded .. | .healthCheck => isTrue trivial

structure Rest.IsSinceEpoch (rest : Rest) : Prop where
  anchor : ∀ anchor, rest.anchor? = some anchor → 0 ≤ anchor.toInt
  alive : ∀ stamp, rest.alive? = some stamp → stamp.IsSinceEpoch

theorem Rest.IsSinceEpoch.of_none {rest : Rest} (hanchor : rest.anchor? = none)
    (halive : rest.alive? = none) : rest.IsSinceEpoch :=
  ⟨fun anchor h => absurd (h.symm.trans hanchor) (Option.some_ne_none anchor),
    fun stamp h => absurd (h.symm.trans halive) (Option.some_ne_none stamp)⟩

namespace Careful

-- A number that fits is computed exactly.
theorem signed?_eq_some_iff {n : Int} {a : Int64} : signed? n = some a ↔ a.toInt = n := by
  unfold signed?
  constructor
  · intro h
    split at h
    · rename_i hn
      rw [← Option.some.inj h, Int64.toInt_ofInt_of_le hn.1 hn.2]
    · exact absurd h nofun
  · rintro rfl
    rw [if_pos ⟨a.le_toInt, a.toInt_lt⟩, Int64.ofInt_toInt]

theorem isExact_of_nonneg {now earlier : Instant} (hnow : 0 ≤ now.toInt)
    (hearlier : 0 ≤ earlier.toInt) : now.IsExact earlier := by
  have hlt := now.toInt_lt
  have hlt' := earlier.toInt_lt
  exact Instant.isExact_iff.mpr ⟨by omega, by omega⟩

theorem sub?_eq {a b : Int64} (ha : 0 ≤ a.toInt) (hb : 0 ≤ b.toInt) : sub? a b = some (a - b) :=
  signed?_eq_some_iff.mpr (isExact_of_nonneg ha hb)

-- Before the epoch there is an instant that cannot be subtracted.
example : sub? 0 Int64.minValue = none := by decide

theorem sub_lt_iff {now earlier : Instant} {limit : Int64} :
    now - earlier < limit ↔ now.since earlier < limit.toInt := Int64.lt_iff_toInt_lt

theorem lt_sub_iff {now earlier : Instant} {limit : Int64} :
    limit < now - earlier ↔ limit.toInt < now.since earlier := Int64.lt_iff_toInt_lt

theorem millis?_eq {amount : UInt64} {unit product : Int64}
    (hamount : amount.toNat < 0x8000000000000000) (h : product.toInt = amount.toNat * unit.toInt) :
    millis? amount unit = some product := by
  have hcast : cast? amount = some amount.toInt64 :=
    signed?_eq_some_iff.mpr (Config.toInt_toInt64 hamount)
  have hmul : mul? amount.toInt64 unit = some product := by
    rw [mul?, Config.toInt_toInt64 hamount]
    exact signed?_eq_some_iff.mpr h
  rw [millis?, hcast, Option.bind_eq_bind, Option.bind_some, hmul]

theorem maxInactivityMillis?_eq {c : Config} (h : c.validate = .ok ()) :
    maxInactivityMillis? c = some c.maxInactivityMillis := by
  obtain ⟨⟨-, hmax⟩, -⟩ := Config.bounds_of_validate h
  exact millis?_eq (by omega) (Config.toInt_maxInactivityMillis h)

theorem maxRecoveryMillis?_eq {c : Config} (h : c.validate = .ok ()) :
    maxRecoveryMillis? c = some c.maxRecoveryMillis := by
  obtain ⟨-, -, hmax⟩ := Config.bounds_of_validate h
  exact millis?_eq (by omega) (Config.toInt_maxRecoveryMillis h)

variable {limit : Int64} {now anchor : Instant}

theorem replayStart?_eq (hlimit : 0 ≤ limit.toInt) (hnow : 0 ≤ now.toInt)
    (hanchor : 0 ≤ anchor.toInt) :
    replayStart? limit now anchor = some (Handler.replayStart limit now anchor) := by
  simp only [replayStart?, Handler.replayStart, sub?_eq hnow hanchor, sub?_eq hnow hlimit,
    Option.bind_eq_bind, Option.bind_some, gt_iff_lt, lt_sub_iff]
  split <;> rfl

-- A replay that is to start anywhere but at the beginning does not start there.
theorem replayStart_pos (hlimit : 0 ≤ limit.toInt) (hnow : 0 ≤ now.toInt)
    (hanchor : 0 ≤ anchor.toInt) (hzero : anchor ≠ 0) : 0 < (Handler.replayStart limit now anchor).toInt := by
  have hpos : anchor.toInt ≠ 0 := fun h => hzero (Int64.toInt_inj.mp h)
  rw [replayStart_eq_clampedStart, toInt_clampedStart hlimit (isExact_of_nonneg hnow hanchor),
    exactStart]
  split
  · omega
  · rename_i hfar
    have hgap : ¬now.toInt - anchor.toInt ≤ limit.toInt := fun hnear => hfar (.inr hnear)
    omega

theorem setRecoveryFrom?_eq (l : Listing) {recoveryFrom : Instant} (hfrom : 0 ≤ recoveryFrom.toInt)
    (hnow : 0 ≤ now.toInt) :
    setRecoveryFrom? l recoveryFrom now = some (l.setRecoveryFrom recoveryFrom now) := by
  unfold setRecoveryFrom? Listing.setRecoveryFrom
  cases l.read (·.descriptor.windowMinutes) with
  | error e => rfl
  | ok windowMinutes =>
    -- a window has 32 bits, so it is far below the limit also in milliseconds
    have hsmall := windowMinutes.toNat_lt
    have hamount : windowMinutes.toUInt64.toNat = windowMinutes.toNat := UInt32.toNat_toUInt64 _
    obtain ⟨window, hmillis⟩ : ∃ window : Int64, window.toInt = windowMinutes.toNat * 60000 :=
      ⟨Int64.ofInt (windowMinutes.toNat * 60000), Int64.toInt_ofInt_of_le (by omega) (by omega)⟩
    have hminute : (60000 : Int64).toInt = 60000 := rfl
    have hwindow : millis? windowMinutes.toUInt64 60000 = some window :=
      millis?_eq (by omega) (by rw [hmillis, hamount, hminute])
    simp only [hwindow, sub?_eq hnow hfrom, Option.bind_eq_bind, Option.bind_some, gt_iff_lt,
      lt_sub_iff, hmillis]
    exact (apply_ite some _ _ _).symm

end Careful

-- What is read off the record of a producer.
theorem Tracked.exists_producer {x : Tracked} {outage : Outage} {f : Producer → α} {a : α}
    (h : (x.producer outage).map f = .ok a) : ∃ p, x.producer outage = .ok p ∧ f p = a := by
  cases hp : x.producer outage with
  | error e =>
    rw [hp] at h
    exact absurd h nofun
  | ok p =>
    rw [hp] at h
    exact ⟨p, rfl, Except.ok.inj h⟩

namespace Tracked.IsSinceEpoch

variable {x y : Tracked} {outage : Outage}

theorem mapTracker {f : Tracker → Tracker} (h : x.IsSinceEpoch)
    (hf : x.tracker.IsSinceEpoch → (f x.tracker).IsSinceEpoch) : (x.mapTracker f).IsSinceEpoch :=
  ⟨hf h.tracker, h.listing⟩

theorem mapEntry {f : Entry → Entry} (h : x.IsSinceEpoch)
    (hf : ∀ e, e.IsSinceEpoch → (f e).IsSinceEpoch) : (x.mapEntry f).IsSinceEpoch := by
  refine ⟨h.tracker, fun e he => ?_⟩
  obtain ⟨e, hentry, rfl⟩ := Option.map_eq_some_iff.mp he
  exact hf e (h.listing e hentry)

-- An entry is written, along with what is kept of the producer.
theorem update {f : Entry → Entry} (h : x.IsSinceEpoch)
    (hlisting : x.listing.update f = .ok y.listing)
    (hf : ∀ e, e.IsSinceEpoch → (f e).IsSinceEpoch) (htracker : y.tracker.IsSinceEpoch) :
    y.IsSinceEpoch := by
  refine ⟨htracker, ?_⟩
  unfold Listing.update at hlisting
  split at hlisting
  · rename_i e he
    rw [← Except.ok.inj hlisting]
    intro e' he'
    exact Option.some.inj he' ▸ hf e (h.listing e he)
  · exact absurd hlisting nofun

theorem setDown {reason : DownReason} (h : x.IsSinceEpoch)
    (hset : x.setDown outage reason = .ok y) : y.IsSinceEpoch := by
  obtain ⟨hlisting, htracker⟩ := of_write hset
  refine h.update hlisting (fun e he => ⟨he.1, he.2, he.3⟩) ?_
  rw [htracker]
  exact ⟨h.tracker.1, h.tracker.2, h.tracker.3, h.tracker.4⟩

theorem setUp (h : x.IsSinceEpoch) (hset : x.setUp outage = .ok y) : y.IsSinceEpoch := by
  obtain ⟨hlisting, htracker⟩ := of_write hset
  refine h.update hlisting (fun e he => ⟨he.1, he.2, he.3⟩) ?_
  rw [htracker]
  exact ⟨h.tracker.1, h.tracker.2, h.tracker.3, h.tracker.4⟩

theorem setLastMessage {received : Instant} (h : x.IsSinceEpoch)
    (hset : x.setLastMessage outage received = .ok y) : y.IsSinceEpoch := by
  unfold Tracked.setLastMessage at hset
  split at hset
  · exact absurd hset nofun
  · obtain ⟨hlisting, htracker⟩ := of_write hset
    rename_i hzero
    rw [Listing.setLastMessage, if_neg hzero] at hlisting
    exact h.update hlisting (fun e he => ⟨he.1, he.2, he.3⟩) (htracker ▸ h.tracker)

theorem setLastProcessed {generated : Instant} (h : x.IsSinceEpoch)
    (hgenerated : 0 ≤ generated.toInt) (hset : x.setLastProcessed outage generated = .ok y) :
    y.IsSinceEpoch := by
  unfold Tracked.setLastProcessed at hset
  split at hset
  · exact absurd hset nofun
  · obtain ⟨hlisting, htracker⟩ := of_write hset
    exact h.update hlisting (fun e he => ⟨hgenerated, he.2, he.3⟩) (htracker ▸ h.tracker)

theorem eventAnswered (h : x.IsSinceEpoch) (request : RequestId) (interest : Interest) :
    (x.eventAnswered outage request interest).2.IsSinceEpoch := by
  obtain ⟨events, heq⟩ := x.eventAnswered_eq outage request interest
  rw [heq]
  exact h.mapTracker fun ht => ⟨ht.1, ht.2, ht.3, ht.4⟩

theorem recoveryAnswered (h : x.IsSinceEpoch) (request : RequestId) (interest : Interest) :
    (x.recoveryAnswered outage request interest).2.IsSinceEpoch := by
  obtain ⟨current, heq, hcurrent⟩ := x.recoveryAnswered_eq outage request interest
  rw [heq]
  refine h.mapTracker fun ht => ⟨?_, ht.2, ht.3, ht.4⟩
  have hstarted : ({ x.tracker with current } : Tracker).startedAt = x.tracker.startedAt := by
    unfold Tracker.startedAt
    cases hc : x.tracker.current <;> cases current <;> simp_all
  exact hstarted ▸ ht.startedAt

theorem systemAlive {received generated : Instant} (h : x.IsSinceEpoch)
    (hreceived : 0 ≤ received.toInt) (hgenerated : 0 ≤ generated.toInt) :
    (x.systemAlive outage received generated).2.IsSinceEpoch := by
  have hkept : (x.mapTracker ({ · with lastSystemAlive := some received })).IsSinceEpoch :=
    h.mapTracker fun ht => ⟨ht.1, hreceived, ht.3, ht.4⟩
  have hresumable {y : Tracked} (hy : y.IsSinceEpoch) :
      (if y.tracker.state = .started then y.mapTracker ({ · with resumeFrom := generated })
        else y).IsSinceEpoch := by
    split
    · exact hy.mapTracker fun ht => ⟨ht.1, ht.2, ht.3, hgenerated⟩
    · exact hy
  unfold Tracked.systemAlive
  dsimp only
  split
  · exact hresumable hkept
  · split
    · rename_i listing hguard
      refine hresumable (y := { tracker := _, listing }) ?_
      exact hkept.update (Outage.of_guard hguard) (fun e he => ⟨he.1, hgenerated, he.3⟩)
        hkept.tracker
    · exact hkept

theorem producer {p : Producer} (h : x.IsSinceEpoch) (hp : x.producer outage = .ok p) :
    0 ≤ p.lastProcessed.toInt ∧ 0 ≤ p.recoveryAnchor.toInt := by
  have hlisting : x.listing.producer = .ok p := Outage.of_guard hp
  unfold Listing.producer at hlisting
  split at hlisting
  · rename_i e he
    obtain ⟨hprocessed, halive, hfrom⟩ := h.listing e he
    unfold Entry.producer at hlisting
    split at hlisting
    · exact absurd hlisting nofun
    · rw [← Except.ok.inj hlisting]
      refine ⟨hprocessed, ?_⟩
      unfold Producer.recoveryAnchor
      split
      · exact hfrom
      · exact halive
  · rw [← Except.ok.inj hlisting]
    exact ⟨Int.le_refl 0, Int.le_refl 0⟩

theorem recoveryAnchor {anchor : Instant} (h : x.IsSinceEpoch)
    (hanchor : x.recoveryAnchor outage = .ok anchor) : 0 ≤ anchor.toInt := by
  obtain ⟨p, hp, rfl⟩ := exists_producer hanchor
  exact (h.producer hp).2

theorem lastProcessed {lastProcessed : Instant} (h : x.IsSinceEpoch)
    (hlast : x.lastProcessed outage = .ok lastProcessed) : 0 ≤ lastProcessed.toInt := by
  obtain ⟨p, hp, rfl⟩ := exists_producer hlast
  exact (h.producer hp).1

end Tracked.IsSinceEpoch

end FeedWatch
