import FeedWatch.Proofs.Timely

namespace FeedWatch

namespace Tracked

variable {x y : Tracked}

-- What the timing check reads.
def timing (x : Tracked) : Except DirectoryError Instant × Instant :=
  (x.lastProcessed Outage.none, x.tracker.lastUserAlive)

theorem lastProcessed_congr (h : y.listing = x.listing) :
    y.lastProcessed Outage.none = x.lastProcessed Outage.none := by
  simp only [lastProcessed, producer_none, h]

theorem timing_flagged (down : Bool) :
    (x.mapEntry ({ · with flaggedDown := down })).lastProcessed Outage.none =
      x.lastProcessed Outage.none :=
  lastProcessed_mapEntry fun _ => ⟨rfl, rfl⟩

theorem timing_messaged (received : Instant) : (x.messaged received).timing = x.timing := by
  simp only [timing, lastProcessed_messaged]
  rfl

theorem timing_lowered (x : Tracked) (reason : DownReason) :
    (x.lowered reason).timing = x.timing := by
  have hl : (x.lowered reason).lastProcessed Outage.none = x.lastProcessed Outage.none :=
    (lastProcessed_congr rfl).trans (timing_flagged true)
  simp only [timing, hl]
  rfl

theorem timing_raised (x : Tracked) : x.raised.timing = x.timing := by
  have hl : x.raised.lastProcessed Outage.none = x.lastProcessed Outage.none :=
    (lastProcessed_congr rfl).trans (timing_flagged false)
  simp only [timing, hl]
  rfl

theorem timing_kept (stamp : Stamp) : (x.kept stamp).timing = x.timing := by
  have hl : (x.kept stamp).lastProcessed Outage.none = x.lastProcessed Outage.none := by
    cases hd : x.isDown with
    | true => exact lastProcessed_congr (by simp [kept, hd])
    | false =>
      have hlisting : (x.kept stamp).listing =
          (x.mapEntry ({ · with lastAlive := stamp.created })).listing := by simp [kept, hd]
      rw [lastProcessed_congr hlisting]
      exact lastProcessed_mapEntry fun _ => ⟨rfl, rfl⟩
  simp only [timing, hl]
  rfl

theorem timing_keptIf (alive : Option Stamp) : (x.keptIf alive).timing = x.timing := by
  cases alive with
  | none => rfl
  | some stamp => exact timing_kept stamp

theorem Touched.timing (h : x.Touched y) : y.timing = x.timing := by
  have hentry {f : Entry → Entry}
      (hf : ∀ e, (f e).descriptor = e.descriptor ∧ (f e).lastProcessed = e.lastProcessed) :
      (x.mapEntry f).timing = x.timing := by
    simp only [Tracked.timing, lastProcessed_mapEntry hf, mapEntry_tracker]
  cases h with
  | events => rfl
  | attempted attempt =>
    exact hentry (f := ({ · with lastAttempt := some attempt })) fun _ => ⟨rfl, rfl⟩
  | enabled enabled =>
    exact hentry (f := ({ · with enabled })) fun _ => ⟨rfl, rfl⟩
  | anchored recoveryFrom =>
    exact hentry (f := ({ · with recoveryFrom })) fun _ => ⟨rfl, rfl⟩

end Tracked

theorem Scene.onTime_congr {sc : Scene} {x y : Tracked} (hmem : sc.outage = Outage.none)
    (h : y.timing = x.timing) : sc.onTime y = sc.onTime x := by
  simp only [Tracked.timing, Prod.mk.injEq] at h
  simp only [Scene.onTime, hmem, h.1, h.2]

theorem Claimed.timing {sc : Scene} {x y : Tracked} {ids ids' : RequestIds} {anchor : Instant}
    {alive : Option Stamp} {c : Option Claim} (h : Claimed sc x ids anchor alive c y ids') :
    y.timing = x.timing := by
  cases h with
  | shut => exact Tracked.timing_keptIf alive
  | lost => rfl
  | made => exact (Tracked.timing_keptIf alive).trans rfl

theorem Finished.timing {sc : Scene} {x y : Tracked} {ids ids' : RequestIds} {rest : Rest}
    {c : Option Claim} (h : Finished sc x ids rest c y ids') : y.timing = x.timing := by
  cases h with
  | done => rfl
  | keepAlive stamp => exact Tracked.timing_kept stamp
  | eventDone => rfl
  | claim hclaim => exact hclaim.timing
  | attended => exact Tracked.timing_kept _
  | missing _ hclaim => exact hclaim.timing
  | stuck _ hclaim => exact hclaim.timing

theorem Visited.timing_of_alive {sc : Scene} {x y : Tracked} {stamp : Stamp} {subscribed : Bool}
    {pause : Pause} (h : Visited sc x (.alive stamp subscribed .systemAliveOnly) pause y) :
    y.timing = x.timing := by
  have hmessaged : (x.messaged stamp.received).timing = x.timing :=
    Tracked.timing_messaged stamp.received
  cases h with
  | idle => rfl
  | userAlive _ hinterest => exact absurd rfl hinterest
  | unreadable => exact hmessaged
  | unsubscribed => exact hmessaged
  | unsubscribedUp =>
    have hlowered := (x.messaged stamp.received).timing_lowered .other
    exact hlowered.trans hmessaged
  | returned =>
    have hraised := (x.messaged stamp.received).timing_raised
    exact hraised.trans hmessaged
  | subscribed => exact hmessaged
  | calledOff => exact hmessaged

-- While a producer is held nothing happens to it that is decided on.
theorem Run.of_held {w₁ w₂ : World} {between : List Step} {id : ProducerId} {pause : Pause}
    (h : Run w₁ between w₂) (hvalid : w₁.IsValid) (hheld : w₁.held[id]? = some pause)
    (hsettle : ∀ s ∈ between, s.act ≠ .settle id) :
    (∃ pause₂, w₂.held[id]? = some pause₂ ∧ pause₂.rest = pause.rest) ∧
      (w₂.tracked id).standing = (w₁.tracked id).standing ∧
      (w₂.tracked id).timing = (w₁.tracked id).timing := by
  induction h with
  | start => exact ⟨⟨pause, hheld, rfl⟩, rfl, rfl⟩
  | step hrun hstep ih =>
    obtain ⟨hact, hsettle⟩ := List.forall_mem_cons.mp hsettle
    obtain ⟨⟨pause₁, hsame, hrest₁⟩, hstanding, htiming⟩ := ih hsettle
    cases hrun.moved hvalid hstep id with
    | visited hfree => exact absurd (hfree.symm.trans hsame) nofun
    | settled => exact absurd rfl hact
    | touched _ _ hrest htouched =>
      rw [hsame, Option.map_some] at hrest
      obtain ⟨pause₂, hheld₂, hrest₂⟩ := Option.map_eq_some_iff.mp hrest
      exact ⟨⟨pause₂, hheld₂, hrest₂.trans hrest₁⟩, htouched.standing.trans hstanding,
        htouched.timing.trans htiming⟩

namespace Standing

-- 0 if no recovery was ever started.
def startedAt (s : Standing) : Instant :=
  match s.current with
  | some (_, startedAt) => startedAt
  | none => 0

-- An accepted alive has to start a recovery: it is unsubscribed, or the last recovery was
-- interrupted or has run too long, or one is missing.
def NeedsRecovery (s : Standing) (sc : Scene) (subscribed : Bool) : Prop :=
  subscribed = false ∨ s.state = .interrupted ∨
    s.state = .started ∧ sc.now.since s.startedAt > sc.config.maxRecoveryMillis.toInt ∨
    s.state.isInProgress = false ∧ s.isDown = true ∧ s.downReason ≠ .queueDelay

def IsRecovered (s : Standing) : Prop := s.isDown = false ∧ s.state = .completed

-- A recovery is under way and has not run too long.
def IsRecovering (s : Standing) (sc : Scene) : Prop :=
  s.isDown = true ∧ s.state = .started ∧
    sc.now.since s.startedAt ≤ sc.config.maxRecoveryMillis.toInt

def IsDelayed (s : Standing) : Prop :=
  s.isDown = true ∧ s.downReason = .queueDelay ∧ s.state = .completed

variable {s s' : Standing} {sc : Scene} {x : Tracked} {ids : RequestIds} {c : Option Claim}

theorem startedAt_standing : x.standing.startedAt = x.tracker.startedAt := by
  cases hc : x.tracker.current <;> simp [startedAt, Tracked.standing, Tracker.startedAt, hc]

theorem isStuck_iff : sc.isStuck x = true ↔ x.standing.state.isInProgress = true ∧
    sc.now.since x.standing.startedAt > sc.config.maxRecoveryMillis.toInt := by
  rw [startedAt_standing]
  simp [Scene.isStuck, Tracker.isPerformingRecovery]

theorem isRecovering_claimed (hdown : s.isDown = true)
    (hlimit : 0 ≤ sc.config.maxRecoveryMillis.toInt) (request : RequestId)
    (alive : Option Stamp) : ((s.claimed request sc.now).keptIf alive).IsRecovering sc := by
  have hage : sc.now.since sc.now ≤ sc.config.maxRecoveryMillis.toInt := by
    rw [Instant.since_self]
    exact hlimit
  cases alive with
  | none => exact ⟨hdown, rfl, hage⟩
  | some stamp => exact ⟨hdown, rfl, hage⟩

theorem of_settled_claim {anchor : Instant} {alive : Option Stamp}
    (h : Settled sc x ids (.claim anchor alive) c s') :
    ∃ c', c = some c' ∧ c'.producer = x.id ∧
      s' = (x.standing.claimed c'.request sc.now).keptIf alive := by
  cases h with
  | quiet hrest =>
    obtain hdone | ⟨request, hevent⟩ := hrest
    · exact absurd hdone nofun
    · exact absurd hevent nofun
  | claimed hrest hproducer =>
    obtain hclaim | ⟨stamp, -, hensure, -⟩ := hrest
    · obtain ⟨-, rfl⟩ := Rest.claim.inj hclaim
      exact ⟨_, rfl, hproducer, rfl⟩
    · exact absurd hensure nofun

theorem of_settled_keepAlive {stamp : Stamp} (h : Settled sc x ids (.keepAlive stamp) c s') :
    c = none ∧ s' = x.standing.kept stamp.received := by
  cases h with
  | quiet hrest =>
    obtain hdone | ⟨request, hevent⟩ := hrest
    · exact absurd hdone nofun
    · exact absurd hevent nofun
  | kept => exact ⟨rfl, rfl⟩
  | claimed hrest =>
    obtain hclaim | ⟨stamp, -, hensure, -⟩ := hrest
    · exact absurd hclaim nofun
    · exact absurd hensure nofun

theorem of_settled_ensureRecovery {anchor : Instant} {stamp : Stamp}
    (h : Settled sc x ids (.ensureRecovery anchor stamp) c s') :
    c = none ∧ x.isUnattended = false ∧ sc.isStuck x = false ∧
        s' = x.standing.kept stamp.received ∨
      ∃ c', c = some c' ∧ c'.producer = x.id ∧ (x.isUnattended = true ∨ sc.isStuck x = true) ∧
        s' = (x.standing.claimed c'.request sc.now).keptIf (some stamp) := by
  cases h with
  | quiet hrest =>
    obtain hdone | ⟨request, hevent⟩ := hrest
    · exact absurd hdone nofun
    · exact absurd hevent nofun
  | attended hmissing hstuck => exact .inl ⟨rfl, hmissing, hstuck, rfl⟩
  | claimed hrest hproducer =>
    obtain hclaim | ⟨stamp, rfl, hensure, hneeded⟩ := hrest
    · exact absurd hclaim nofun
    · obtain ⟨-, rfl⟩ := Rest.ensureRecovery.inj hensure
      exact .inr ⟨_, rfl, hproducer, hneeded, rfl⟩

-- An alive that finds a recovery under way, or none needed, lets things be.
theorem attended_outcome {sc₁ : Scene} (hsound : x.standing.IsSound none)
    (htimely : x.standing.IsTimely none) (hstate : Visit.isRecovering x.tracker.state = true)
    (hback : sc₁.isBack x = false) (hmissing : x.isUnattended = false)
    (hstuck : sc.isStuck x = false) (received : Instant) :
    ¬x.standing.NeedsRecovery sc true ∧
      ((x.standing.kept received).IsRecovered ∨ (x.standing.kept received).IsRecovering sc ∨
        (x.standing.kept received).IsDelayed ∧ sc₁.onTime x = false) := by
  have hinterrupted : x.standing.state ≠ .interrupted := by
    intro hs
    rw [← Tracked.standing_state, hs] at hstate
    exact absurd hstate nofun
  constructor
  · rintro (hsubscribed | hs | ⟨hs, hage⟩ | hneeds)
    · exact absurd hsubscribed nofun
    · exact hinterrupted hs
    · have hrun : sc.isStuck x = true := isStuck_iff.mpr ⟨by rw [hs]; rfl, hage⟩
      exact absurd (hstuck.symm.trans hrun) nofun
    · have hunattended : x.isUnattended = true :=
        isUnattended_iff.mpr ⟨hneeds.2.1, hneeds.1, hneeds.2.2⟩
      exact absurd (hmissing.symm.trans hunattended) nofun
  · obtain hs | hs | hs | hs := hsound.state
    · obtain ⟨hdown, -, hreason⟩ := htimely.unclaimed hs
      have hunattended : x.isUnattended = true :=
        isUnattended_iff.mpr ⟨hdown, by rw [← Tracked.standing_state, hs]; rfl, hreason⟩
      exact absurd (hmissing.symm.trans hunattended) nofun
    · have hdown := hsound.inProgress (by rw [hs]; rfl)
      refine .inr (.inl ⟨hdown, hs, ?_⟩)
      by_cases hage : sc.now.since x.standing.startedAt ≤ sc.config.maxRecoveryMillis.toInt
      · exact hage
      · have hrun : sc.isStuck x = true := isStuck_iff.mpr ⟨by rw [hs]; rfl, by omega⟩
        exact absurd (hstuck.symm.trans hrun) nofun
    · exact absurd hs hinterrupted
    · have hidle : x.tracker.state.isInProgress = false := by
        rw [← Tracked.standing_state, hs]
        rfl
      cases hdown : x.isDown with
      | false => exact .inl ⟨hdown, hs⟩
      | true =>
        by_cases hreason : x.tracker.downReason = .queueDelay
        · refine .inr (.inr ⟨⟨hdown, hreason, hs⟩, ?_⟩)
          by_cases htime : sc₁.onTime x = true
          · have h := isBack_iff.mpr ⟨hdown, hidle, hreason, htime⟩
            exact absurd (hback.symm.trans h) nofun
          · exact Bool.eq_false_iff.mpr htime
        · have hunattended : x.isUnattended = true := isUnattended_iff.mpr ⟨hdown, hidle, hreason⟩
          exact absurd (hmissing.symm.trans hunattended) nofun

theorem isUnattended_congr {y : Tracked} (h : y.standing = x.standing) :
    y.isUnattended = x.isUnattended := by
  have hdown : y.isDown = x.isDown := congrArg isDown h
  have hstate : y.tracker.state = x.tracker.state := congrArg state h
  have hreason : y.tracker.downReason = x.tracker.downReason := congrArg downReason h
  simp only [Tracked.isUnattended, Tracker.isPerformingRecovery, hdown, hstate, hreason]

theorem isStuck_congr {y : Tracked} (h : y.standing = x.standing) :
    sc.isStuck y = sc.isStuck x := by
  rw [Bool.eq_iff_iff, isStuck_iff, isStuck_iff, h]

-- The two parts of an accepted alive. In between the producer was held.
theorem alive_outcome {sc₁ : Scene} {y z : Tracked} {stamp : Stamp} {subscribed : Bool}
    {pause : Pause} (hv : Visited sc₁ x (.alive stamp subscribed .systemAliveOnly) pause y)
    (hrest : pause.rest ≠ .done) (hsound : x.standing.IsSound none)
    (htimely : x.standing.IsTimely none) (hheld : z.standing = y.standing)
    (hs : Settled sc z ids pause.rest c s') (hlimit : 0 ≤ sc.config.maxRecoveryMillis.toInt) :
    x.standing.NeedsRecovery sc subscribed ∧
        (∃ c', c = some c' ∧ c'.producer = z.id) ∧ s'.IsRecovering sc ∨
      ¬x.standing.NeedsRecovery sc subscribed ∧ c = none ∧
        (s'.IsRecovered ∨ s'.IsRecovering sc ∨ s'.IsDelayed ∧ sc₁.onTime x = false) := by
  have hclaims {anchor : Instant} {alive : Option Stamp}
      (hneeds : x.standing.NeedsRecovery sc subscribed) (hdown : z.isDown = true)
      (hs : Settled sc z ids (.claim anchor alive) c s') :
      x.standing.NeedsRecovery sc subscribed ∧
        (∃ c', c = some c' ∧ c'.producer = z.id) ∧ s'.IsRecovering sc := by
    obtain ⟨c', rfl, hproducer, rfl⟩ := of_settled_claim hs
    exact ⟨hneeds, ⟨c', rfl, hproducer⟩, isRecovering_claimed hdown hlimit _ _⟩
  cases hv with
  | idle => exact absurd rfl hrest
  | userAlive _ hinterest => exact absurd rfl hinterest
  | unreadable => exact absurd rfl hrest
  | unsubscribed _ _ _ hdown =>
    rw [Tracked.standing_messaged] at hheld
    have hz : z.isDown = true := (congrArg isDown hheld).trans hdown
    exact .inl (hclaims (.inl rfl) hz hs)
  | unsubscribedUp henabled =>
    have hx := (Tracked.isEnabled_messaged stamp.received).trans henabled
    have hz : z.isDown = true := (congrArg isDown hheld).trans (Tracked.isDown_lowered hx .other)
    exact .inl (hclaims (.inl rfl) hz hs)
  | returned henabled _ _ hback =>
    have hcompleted := state_of_isBack htimely hsound hback
    obtain ⟨-, -, hdelay, -⟩ := isBack_iff.mp hback
    have hx := (Tracked.isEnabled_messaged stamp.received).trans henabled
    obtain ⟨rfl, rfl⟩ := of_settled_keepAlive hs
    have hup : z.isDown = false := (congrArg isDown hheld).trans (Tracked.isDown_raised hx)
    have hstate : z.tracker.state = .completed := (congrArg state hheld).trans hcompleted
    refine .inr ⟨?_, rfl, .inl ⟨hup, hstate⟩⟩
    rintro (hsubscribed | hinterrupted | ⟨hstarted, -⟩ | hneeds)
    · exact absurd hsubscribed nofun
    · exact absurd (hcompleted.symm.trans hinterrupted) nofun
    · exact absurd (hcompleted.symm.trans hstarted) nofun
    · exact absurd hdelay hneeds.2.2
  | subscribed _ _ _ hback hstate =>
    rw [Tracked.standing_messaged] at hheld
    have hdown : z.isDown = x.isDown := congrArg isDown hheld
    rcases of_settled_ensureRecovery hs with
      ⟨rfl, hmissing, hstuck, rfl⟩ | ⟨c', rfl, hproducer, hneeded, rfl⟩
    · rw [isUnattended_congr hheld] at hmissing
      rw [isStuck_congr hheld] at hstuck
      obtain ⟨hneeds, houtcome⟩ :=
        attended_outcome hsound htimely hstate hback hmissing hstuck stamp.received
      rw [hheld]
      exact .inr ⟨hneeds, rfl, houtcome⟩
    · rw [isUnattended_congr hheld, isStuck_congr hheld] at hneeded
      obtain hmissing | hstuck := hneeded
      · obtain ⟨hx, hidle, hreason⟩ := isUnattended_iff.mp hmissing
        exact .inl ⟨.inr (.inr (.inr ⟨hidle, hx, hreason⟩)), ⟨c', rfl, hproducer⟩,
          isRecovering_claimed (hdown.trans hx) hlimit _ _⟩
      · obtain ⟨hprogress, hage⟩ := isStuck_iff.mp hstuck
        have hx := hsound.inProgress hprogress
        have hstarted : x.standing.state = .started := by
          obtain hs | hs := RecoveryState.isInProgress_iff.mp hprogress
          · exact hs
          · rw [← Tracked.standing_state, hs] at hstate
            exact absurd hstate nofun
        exact .inl ⟨.inr (.inr (.inl ⟨hstarted, hage⟩)), ⟨c', rfl, hproducer⟩,
          isRecovering_claimed (hdown.trans hx) hlimit _ _⟩
  | calledOff _ _ _ _ hstate =>
    rw [Tracked.standing_messaged] at hheld
    have hinterrupted := hsound.state_of_not_isRecovering hstate
    have hx := hsound.inProgress (by rw [hinterrupted]; rfl)
    have hz : z.isDown = true := (congrArg isDown hheld).trans hx
    exact .inl (hclaims (.inr (.inl hinterrupted)) hz hs)

end Standing

namespace World

variable {w w' : World} {id : ProducerId}

-- An enabled producer that can be read is not held: an alive is accepted.
theorem exists_step_alive (hfree : id ∉ w.held) (henabled : (w.tracked id).isEnabled = true)
    (hread : (w.tracked id).IsReadable) {stamp : Stamp} (hreceived : stamp.received ≠ 0)
    (subscribed : Bool) :
    ∃ w' pause, w.step (.visit id (.alive stamp subscribed .systemAliveOnly)) = some w' ∧
      w'.held[id]? = some pause ∧ pause.rest ≠ .done := by
  have hstep := step_visit (v := .alive stamp subscribed .systemAliveOnly) hfree nofun
  obtain ⟨pause, hheld, hrest⟩ := held_of_step_alive hstep henabled hread hreceived
  exact ⟨_, pause, hstep, hheld, hrest⟩

theorem scene_settle (h : w.step (.settle id) = some w') : w'.scene = w.scene := by
  cases stepped h with
  | @settled _ pause => exact Manager.scene_congr (Manager.finish_setting pause.rest)

end World

-- An accepted alive claims one recovery if one is needed, and none otherwise. After that
-- the producer is up, or a recovery is under way, or it is down for a delay that is not
-- over. It waits for nothing but room in the stream.
theorem Run.alive_is_answered {w₀ w : World} {past : List Step} {id : ProducerId}
    (h : Run w₀ past w) (hstart : w₀.IsJustOpened) (hread : (w₀.tracked id).IsReadable)
    (hlate : ∀ s ∈ past, s.before.IsLate) (hopen : w.isOpen = true) (hfree : id ∉ w.held)
    (henabled : (w.tracked id).isEnabled = true) {stamp : Stamp} (hreceived : stamp.received ≠ 0)
    (subscribed : Bool) :
    ∃ w₁, w.step (.visit id (.alive stamp subscribed .systemAliveOnly)) = some w₁ ∧
      ∀ between w₂, Run w₁ between w₂ → (∀ s ∈ between, s.act ≠ .settle id) →
        w₂.isOpen = true →
          ((∃ w₃, w₂.step (.settle id) = some w₃) ∨ w₂.IsFull) ∧
          ∀ w₃, w₂.step (.settle id) = some w₃ →
            let before := (w.tracked id).standing
            let after := (w₃.tracked id).standing
            (before.NeedsRecovery w₂.scene subscribed →
              ∃ c, c.producer = id ∧ w₃.claims = w₂.claims ++ [c]) ∧
            (¬before.NeedsRecovery w₂.scene subscribed → w₃.claims = w₂.claims) ∧
            (after.IsRecovered ∨ after.IsRecovering w₃.scene ∨
              after.IsDelayed ∧ w.scene.onTime (w₃.tracked id) = false) ∧
            ¬(after.IsRecovered ∧ after.IsRecovering w₃.scene) ∧
            ¬(after.IsRecovered ∧ after.IsDelayed) ∧
            ¬(after.IsRecovering w₃.scene ∧ after.IsDelayed) ∧
            (subscribed = false → after.IsRecovering w₃.scene) := by
  obtain ⟨-, hvalid, -⟩ := hstart.eq
  have hreadable := h.isReadable hvalid hread
  obtain ⟨w₁, pause, hstep, hheld, hrest⟩ :=
    World.exists_step_alive hfree henabled hreadable hreceived subscribed
  refine ⟨w₁, hstep, fun between w₂ hbetween hsettle hopen₂ => ?_⟩
  have hvalid₁ : w₁.IsValid := (h.step hstep).isValid hvalid
  have hsound := h.isSound hstart hread hopen
  have htimely := h.isTimely hstart hread hlate hopen
  rw [World.getElem?_held_of_not_mem hfree] at hsound htimely
  obtain ⟨⟨pause₂, hheld₂, hrest₂⟩, hstanding, htiming⟩ := hbetween.of_held hvalid₁ hheld hsettle
  refine ⟨World.exists_step_settle hheld₂, fun w₃ hstep₃ => ?_⟩
  cases h.moved hvalid hstep id with
  | touched hvisit => exact absurd rfl (hvisit _)
  | visited _ hheld₁ hvisit =>
    obtain rfl := Option.some.inj (hheld.symm.trans hheld₁)
    cases hbetween.moved hvalid₁ hstep₃ id with
    | touched _ hact => exact absurd rfl hact
    | settled hheld' _ hclaims hfinish =>
      obtain rfl := Option.some.inj (hheld₂.symm.trans hheld')
      rw [hrest₂] at hfinish
      have hreadable₂ := hbetween.isReadable hvalid₁ (hvisit.sameDescription.isReadable.mpr hreadable)
      have hlimit := (hbetween.isValid hvalid₁).limit_nonneg
      have hdelay : w.scene.onTime (w₃.tracked id) = w.scene.onTime (w.tracked id) :=
        Scene.onTime_congr rfl (hfinish.timing.trans (htiming.trans hvisit.timing_of_alive))
      have hsettled := hfinish.settled hopen₂ hreadable₂
      rw [World.scene_settle hstep₃, hdelay]
      have hexclusive {s : Standing} : ¬(s.IsRecovered ∧ s.IsRecovering w₂.scene) ∧
          ¬(s.IsRecovered ∧ s.IsDelayed) ∧ ¬(s.IsRecovering w₂.scene ∧ s.IsDelayed) := by
        refine ⟨fun ⟨hup, hrun⟩ => ?_, fun ⟨hup, hdown⟩ => ?_, fun ⟨hrun, hdown⟩ => ?_⟩
        · exact absurd (hup.1.symm.trans hrun.1) nofun
        · exact absurd (hup.1.symm.trans hdown.1) nofun
        · exact absurd (hrun.2.1.symm.trans hdown.2.2) nofun
      obtain ⟨h₁, h₂, h₃⟩ := hexclusive (s := (w₃.tracked id).standing)
      rcases Standing.alive_outcome hvisit hrest hsound htimely hstanding hsettled hlimit with
        ⟨hneeds, ⟨c, rfl, hproducer⟩, hrun⟩ | ⟨hneeds, rfl, houtcome⟩
      · exact ⟨fun _ => ⟨c, hproducer, hclaims⟩, fun hno => absurd hneeds hno, .inr (.inl hrun),
          h₁, h₂, h₃, fun _ => hrun⟩
      · refine ⟨fun hyes => absurd hyes hneeds, fun _ => hclaims.trans (List.append_nil _), houtcome,
          h₁, h₂, h₃, fun hsubscribed => absurd (.inl hsubscribed) hneeds⟩

theorem Run.unsubscribed_is_answered : ∃ past w w₁ w₂ c, Run World.openedLiveOdds past w ∧
    w.step (.visit ⟨1⟩ (.alive (.uniform 600000) false .systemAliveOnly)) = some w₁ ∧
    w₁.step (.settle ⟨1⟩) = some w₂ ∧ c.producer = ⟨1⟩ ∧ w₂.claims = w₁.claims ++ [c] ∧
    (w₂.tracked ⟨1⟩).standing.IsRecovering w₂.scene := by
  have hrun : Run World.openedLiveOdds _ _ := Run.start.play World.delayActs
  have hstep : (World.openedLiveOdds.play [] World.delayActs).2.step
      (.visit ⟨1⟩ (.alive (.uniform 600000) false .systemAliveOnly)) = some _ := rfl
  have hreceived : (Stamp.uniform 600000).received ≠ 0 := by decide
  obtain ⟨w₁, hstep₁, hanswer⟩ := hrun.alive_is_answered World.isJustOpened_openedLiveOdds
    World.isReadable_openedLiveOdds (by decide +kernel) rfl (by decide +kernel) rfl hreceived false
  obtain rfl := Option.some.inj (hstep.symm.trans hstep₁)
  obtain ⟨-, hsettled⟩ := hanswer [] _ .start (fun _ hs => absurd hs List.not_mem_nil) rfl
  obtain ⟨hclaims, -, -, -, -, -, hrecovering⟩ := hsettled _ rfl
  obtain ⟨c, hproducer, hclaim⟩ := hclaims (.inl rfl)
  exact ⟨_, _, _, _, c, hrun, hstep, rfl, hproducer, hclaim, hrecovering rfl⟩

end FeedWatch
