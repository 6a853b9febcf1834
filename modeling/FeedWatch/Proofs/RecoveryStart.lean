import FeedWatch.Proofs.Accepted
import FeedWatch.Proofs.Return

namespace FeedWatch

-- The anchor, or the limit before now where that is later. The anchor 0 asks for everything.
def clampedStart (limit : Int64) (now anchor : Instant) : Instant :=
  if anchor = 0 ∨ now - anchor ≤ limit then anchor else now - limit

-- The same in numbers of any size.
def exactStart (limit : Int) (now anchor : Instant) : Int :=
  if anchor = 0 ∨ now.toInt - anchor.toInt ≤ limit then anchor.toInt else now.toInt - limit

-- Where a recovery starts that is claimed now, by the past: after the last alive that left the
-- producer up if an alive asks for it, after the last one that left a recovery started if an
-- interrupted one is resumed.
inductive IsAnchor (id : ProducerId) (past : List Step) (anchor : Instant) : Prop where
  | alive {begun : Step} {stamp : Stamp} {subscribed : Bool}
      (hvisiting : visiting? id past = some begun)
      (hact : begun.act = .visit id (.alive stamp subscribed .systemAliveOnly))
      (hanchor : anchor =
        if (lastAccepted? id Tracked.isUp past).getD 0 = 0 then (begun.before.tracked id).recoveryFrom
        else (lastAccepted? id Tracked.isUp past).getD 0)
  | resumed {begun : Step} {request : RequestId} {interest : Interest}
      (hvisiting : visiting? id past = some begun)
      (hact : begun.act = .visit id (.replayEnded request interest))
      (hinterrupted : (begun.before.tracked id).progress = (.interrupted, some request))
      (hanchor : lastAccepted? id Tracked.isStarted past = some anchor)

-- What is kept of the answer to the request of a recovery.
def Claim.attempt (c : Claim) (config : Config) (answer : Except TransportError Unit) : Attempt where
  after := c.after
  requestedAt := c.requestedAt
  request := c.request
  accepted := answer.isOk
  node := config.node

theorem replayStart_eq_clampedStart (limit : Int64) (now anchor : Instant) :
    Handler.replayStart limit now anchor = clampedStart limit now anchor := by
  have hfar : anchor ≠ 0 ∧ now.since anchor > limit.toInt ↔
      ¬(anchor = 0 ∨ now - anchor ≤ limit) := by
    rw [not_or, Int64.not_le, Int64.lt_iff_toInt_lt]
    exact Iff.rfl
  rw [Handler.replayStart, clampedStart, ite_cond_congr (propext hfar), ite_not]

-- No start overflows if the time since the anchor does not: the limit is positive, and a
-- start is not before its anchor.
theorem toInt_clampedStart {limit : Int64} {now anchor : Instant} (hlimit : 0 ≤ limit.toInt)
    (hexact : now.IsExact anchor) :
    (clampedStart limit now anchor).toInt = exactStart limit.toInt now anchor := by
  have hnear : now - anchor ≤ limit ↔ now.toInt - anchor.toInt ≤ limit.toInt := by
    rw [Int64.le_iff_toInt_le, ← hexact, Instant.since]
  unfold clampedStart exactStart
  simp only [hnear]
  split <;> rename_i hclose
  · rfl
  · have hgap : limit.toInt < now.toInt - anchor.toInt :=
      Int.not_le.mp fun hle => hclose (.inr hle)
    have hanchor := anchor.le_toInt
    have hnow := now.toInt_lt
    rw [Int64.toInt_sub]
    exact Int.bmod_eq_of_le (by omega) (by omega)

section Attempts

variable {m : Manager} {t : Moment} {id : ProducerId}

theorem Tracked.SameDescription.exists_entry {x y : Tracked} (h : x.SameDescription y) :
    (∃ e, x.listing.entry = some e) ↔ ∃ e, y.listing.entry = some e := by
  have hdescribed := congrArg Option.isSome h.descriptor
  rw [Option.isSome_map, Option.isSome_map] at hdescribed
  rw [← Option.isSome_iff_exists, ← Option.isSome_iff_exists, hdescribed]

theorem Tracked.mapEntry_of_no_entry {x : Tracked} (he : x.listing.entry = none)
    (f : Entry → Entry) : x.mapEntry f = x := by
  obtain ⟨t, i, fallback, entry⟩ := x
  obtain rfl : entry = none := he
  rfl

theorem Manager.tracked_recoveryPosted (hmem : t.outage = Outage.none) (c : Claim)
    (answer : Except TransportError Unit) (j : ProducerId) :
    (m.recoveryPosted t c answer).tracked j =
      if j = c.producer then
        (m.tracked j).mapEntry ({ · with lastAttempt := some (c.attempt m.config answer) })
      else m.tracked j := by
  have hguard (l : Except DirectoryError Listing) :
      t.outage.guard .setLastAttempt c.producer l = l := by
    rw [hmem]
    rfl
  unfold recoveryPosted Claim.attempt
  dsimp only
  rw [hguard]
  cases hl : (m.directory.listing c.producer).setLastAttempt _ with
  | ok l => exact tracked_put hl j
  | error e =>
    have hnone : (m.tracked c.producer).listing.entry = none := by
      cases he : (m.directory.listing c.producer).entry with
      | none => exact he
      | some entry => simp [Listing.setLastAttempt, Listing.update, he] at hl
    by_cases hj : j = c.producer
    · rw [if_pos hj, hj, Tracked.mapEntry_of_no_entry hnone]
    · rw [if_neg hj]

-- The calls of an event write nothing into the directory.
theorem Manager.lastAttempt_putDesk (f : Tracker → Tracker) (ids : RequestIds) (j : ProducerId) :
    ((m.putDesk id ⟨(m.tracked id).mapTracker f, ids⟩).tracked j).lastAttempt =
      (m.tracked j).lastAttempt := by
  by_cases hj : j = id
  · rw [hj, tracked_putDesk_mapTracker]
    rfl
  · rw [tracked_putDesk_ne hj]

variable {w w' : World} {a : Act}

-- The last attempt changes as the request of a recovery of the producer is answered.
theorem World.lastAttempt_step (hvalid : w.IsValid) (h : w.step a = some w')
    (hother : ∀ c answer, a = .recoveryPosted c answer → c.producer ≠ id) :
    (w'.tracked id).lastAttempt = (w.tracked id).lastAttempt := by
  have hsame (htracked : w'.tracked id = w.tracked id) :
      (w'.tracked id).lastAttempt = (w.tracked id).lastAttempt := by rw [htracked]
  have hwritten {f : Entry → Entry} (hf : ∀ e, (f e).lastAttempt = e.lastAttempt)
      (h : w'.tracked id = w.tracked id ∨ w'.tracked id = (w.tracked id).mapEntry f) :
      (w'.tracked id).lastAttempt = (w.tracked id).lastAttempt := by
    obtain h | h := h
    · exact hsame h
    · rw [h]
      cases he : (w.tracked id).listing.entry <;> simp [Tracked.lastAttempt, he, hf]
  cases stepped h with
  | started hstart =>
    obtain ⟨-, -, -, -, htracked⟩ := Manager.start_manager (Service.start_manager hstart)
    exact hsame (htracked id)
  | @visited i v =>
    by_cases hi : id = i
    · subst hi
      have hvisited : Visited w.scene (w.tracked id) v _ _ :=
        Manager.visit_visited (t := w.moment) rfl v
      exact (Tracked.anchors_of_record hvisited.record).2
    · exact hsame (w.manager.visit_tracked_ne v hi)
  | @settled i pause =>
    by_cases hi : id = i
    · subst hi
      have hfinished : Finished w.scene (w.tracked id) w.manager.ids pause.rest _ _ _ :=
        Manager.finish_finished (t := w.moment) rfl hvalid.limit_nonneg pause.rest
      exact hfinished.lastAttempt
    · exact hsame (w.manager.finish_tracked_ne pause.rest hi)
  | @recoveryPosted c answer =>
    refine hsame ((Manager.tracked_recoveryPosted (t := w.moment) rfl c answer id).trans (if_neg ?_))
    exact fun hi => hother c answer rfl hi.symm
  | @eventCalled kind i event => exact hsame (Manager.callEvent_tracked kind event id)
  | @eventEntered call =>
    change (((w.manager.enterEvent w.moment call).2.tracked id).lastAttempt = _)
    rw [Manager.enterEvent_eq]
    cases (w.manager.tracked call.producer).name w.moment.outage with
    | ok name => exact Manager.lastAttempt_putDesk _ _ id
    | error e => exact Manager.lastAttempt_putDesk _ _ id
  | @eventPosted r answer =>
    cases answer with
    | ok => rfl
    | error source =>
      change (((w.manager.eventPosted w.moment r (.error source)).2.tracked id).lastAttempt = _)
      rw [Manager.eventPosted, Manager.hold_manager]
      exact Manager.lastAttempt_putDesk _ _ id
  | @enabled i enabled =>
    exact hwritten (f := ({ · with enabled })) (fun _ => rfl)
      (w.tracked_written _ _ (fun _ hl => hl) id)
  | @anchored i recoveryFrom now =>
    exact hwritten (f := ({ · with recoveryFrom })) (fun _ => rfl)
      (w.tracked_written _ _ (fun _ hl => of_setRecoveryFrom hl) id)
  | notStarted => rfl
  | sentLate => rfl
  | closed => rfl
  | clockMoved => rfl
  | read => rfl
  | abandoned => rfl
  | unread => rfl
  | notAbandoned => rfl

end Attempts

namespace Run

variable {w₀ w : World} {past : List Step} {id : ProducerId} {c : Claim}

-- A request that is out was so before, or this step claimed it.
theorem isClaim_or_out {w' : World} {a : Act} (h : Run w₀ past w) (hstart : w₀.IsFresh)
    (hstep : w.step a = some w') (hc : c ∈ w'.claims) :
    Step.IsClaim ⟨w, a, w'⟩ c.producer c ∨ c ∈ w.claims := by
  cases World.stepped hstep with
  | @settled i pause service hheld hannounce =>
    obtain hold | hnew := List.mem_append.mp hc
    · exact .inr hold
    · have hclaimed := Option.mem_toList.mp hnew
      have hfinished : Finished w.scene (w.tracked i) w.manager.ids pause.rest (some c) _ _ :=
        hclaimed ▸ Manager.finish_finished (t := w.moment) rfl
          (h.isValid hstart.isValid).limit_nonneg pause.rest
      have hproducer : c.producer = i := hfinished.claim_eq.1
      refine .inl ⟨congrArg Act.settle hproducer.symm, rfl, ?_⟩
      exact congrArg (w.claims ++ ·) (congrArg Option.toList hclaimed)
  | recoveryPosted => exact .inr (List.mem_of_mem_erase hc)
  | _ => exact .inr hc

theorem isClaim_of_mem (h : Run w₀ past w) (hstart : w₀.IsFresh) (hc : c ∈ w.claims) :
    ∃ s ∈ past, s.IsClaim c.producer c := by
  induction h with
  | start =>
    obtain ⟨config, descriptors, fallback, ids, now, -, rfl⟩ := hstart.eq
    exact absurd hc List.not_mem_nil
  | step hrun hstep ih =>
    obtain hclaim | hout := hrun.isClaim_or_out hstart hstep hc
    · exact ⟨_, List.mem_cons_self, hclaim⟩
    · obtain ⟨s, hs, hclaim⟩ := ih hout
      exact ⟨s, List.mem_cons_of_mem _ hs, hclaim⟩

-- A claim is what is left of a visit that asked for a recovery.
theorem isHeldBy_of_isClaim {s : Step} (h : Run w₀ past s.before) (hstart : w₀.IsFresh)
    (hstep : s.before.step s.act = some s.after) (hclaim : s.IsClaim id c) :
    ∃ pause begun v earlier anchor, IsHeldBy w₀ s.before past id pause begun v earlier ∧
      pause.rest.anchor? = some anchor ∧ c.requestedAt = s.before.now ∧
      c.after =
        Handler.replayStart s.before.manager.config.maxRecoveryMillis s.before.now anchor := by
  obtain ⟨hact, -, hclaims⟩ := hclaim
  rw [hact] at hstep
  cases h.moved hstart.isValid hstep id with
  | touched _ hsettle => exact absurd rfl hsettle
  | @settled pause claimed hheld _ hclaims' hfinish =>
    have hmade : claimed.toList = [c] := List.append_cancel_left (hclaims'.symm.trans hclaims)
    obtain rfl := Option.toList_eq_singleton_iff.mp hmade
    obtain ⟨pause', begun, v, earlier, hvisit, hsame, -⟩ :=
      h.isHeldBy hstart.isValid hstart.held hheld
    obtain ⟨-, hat, anchor, hrest, hafter⟩ := hfinish.claim_eq
    exact ⟨pause', begun, v, earlier, anchor, hvisit, hsame ▸ hrest, hat, hafter⟩

theorem isAnchor_of_isHeldBy {pause : Pause} {begun : Step} {v : Visit} {earlier : List Step}
    {anchor : Instant} (hvisit : IsHeldBy w₀ w past id pause begun v earlier) (hstart : w₀.IsFresh)
    (hrest : pause.rest.anchor? = some anchor) : IsAnchor id past anchor := by
  have hanchors := hvisit.run.anchors hstart id
  rw [← hvisit.lastAccepted?_eq, ← hvisit.lastAccepted?_eq] at hanchors
  obtain ⟨-, ⟨stamp, subscribed, rfl, -, hanchor⟩ |
      ⟨request, interest, rfl, -, hinterrupted, hanchor⟩⟩ := hvisit.visited.of_anchor? hrest
  · have hlast : (begun.before.tracked id).lastAlive = _ := congrArg Prod.fst hanchors
    refine .alive hvisit.visiting hvisit.act ?_
    rw [hanchor, hlast]
  · have hresume : (begun.before.tracked id).tracker.resumeFrom = _ := congrArg Prod.snd hanchors
    have hprogress : (begun.before.tracked id).tracker.state.isInProgress = true :=
      RecoveryState.isInProgress_iff.mpr (.inr (congrArg Prod.fst hinterrupted))
    obtain ⟨created, hcreated⟩ := hvisit.run.exists_lastAccepted? hstart hprogress
    rw [← hvisit.lastAccepted?_eq] at hcreated
    refine .resumed hvisit.visiting hvisit.act hinterrupted ?_
    rw [hanchor, hresume, hcreated]
    rfl

-- Only a producer that the feed described has its recoveries claimed.
theorem exists_entry_of_isClaim {s : Step} (h : Run w₀ past s.before) (hstart : w₀.IsFresh)
    (hstep : s.before.step s.act = some s.after) (hclaim : s.IsClaim id c) :
    ∃ e, (w₀.tracked id).listing.entry = some e := by
  obtain ⟨pause, begun, v, earlier, anchor, hvisit, hrest, -⟩ :=
    h.isHeldBy_of_isClaim hstart hstep hclaim
  have hentry := Tracked.exists_entry_of_isEnabled (hvisit.visited.of_anchor? hrest).1
  exact (hvisit.run.sameDescription hstart.isValid id).exists_entry.mpr hentry

theorem lastAttempt_eq {w₁ w₂ : World} {later : List Step} (h : Run w₁ later w₂)
    (hvalid : w₁.IsValid) (hother : ∀ t ∈ later, ∀ c answer,
      t.act = .recoveryPosted c answer → c.producer ≠ id) :
    (w₂.tracked id).lastAttempt = (w₁.tracked id).lastAttempt := by
  induction h with
  | start => rfl
  | step hrun hstep ih =>
    obtain ⟨hact, hother⟩ := List.forall_mem_cons.mp hother
    exact (World.lastAttempt_step (hrun.isValid hvalid) hstep hact).trans (ih hother)

theorem lastAttempt_of_posted {w' : World} (h : Run w₀ past w) (hstart : w₀.IsFresh)
    {answer : Except TransportError Unit} (hstep : w.step (.recoveryPosted c answer) = some w') :
    (w'.tracked c.producer).lastAttempt = some (c.attempt w.manager.config answer) := by
  cases World.stepped hstep with
  | recoveryPosted hout =>
    obtain ⟨s, hs, hclaim⟩ := h.isClaim_of_mem hstart hout
    obtain ⟨later, earlier, rfl⟩ := List.append_of_mem hs
    obtain ⟨hrun, hcut, -⟩ := h.split
    obtain ⟨e, he⟩ := (h.sameDescription hstart.isValid c.producer).exists_entry.mp
      (hrun.exists_entry_of_isClaim hstart hcut hclaim)
    have hposted := Manager.tracked_recoveryPosted (m := w.manager) (t := w.moment) rfl c answer
      c.producer
    rw [if_pos rfl] at hposted
    refine (congrArg Tracked.lastAttempt hposted).trans ?_
    have hentry : (w.manager.tracked c.producer).listing.entry = some e := he
    simp [Tracked.lastAttempt, hentry]

end Run

-- Full recoveries leave no gap that the past does not account for.
structure AnchorsRecoveries (past : List Step) (w : World) : Prop where
  -- a request that is out was claimed
  claimed : ∀ c ∈ w.claims, ∃ s ∈ past, s.IsClaim c.producer c
  -- what is claimed starts at an anchor, but not further back than a recovery may run
  anchored : ∀ later s earlier id c, past = later ++ s :: earlier → s.IsClaim id c →
    c.requestedAt = s.before.now ∧ ∃ anchor, IsAnchor id earlier anchor ∧
      c.after = clampedStart w.manager.config.maxRecoveryMillis s.before.now anchor ∧
      (s.before.now.IsExact anchor → c.after.toInt =
        exactStart w.manager.config.maxRecoveryMillis.toInt s.before.now anchor)
  -- the last answer to a request of the producer stays with it
  recorded : ∀ later s earlier c answer, past = later ++ s :: earlier →
    s.act = .recoveryPosted c answer →
    (∀ t ∈ later, ∀ c' answer', t.act = .recoveryPosted c' answer' → c'.producer ≠ c.producer) →
    (w.tracked c.producer).lastAttempt = some (c.attempt w.manager.config answer)

-- After seven hours of silence a producer is recovered for the last six.
def sevenHoursActs : List Act :=
  [.start, .visit ⟨1⟩ (.alive (.uniform 600000) false .systemAliveOnly), .settle ⟨1⟩,
    .visit ⟨1⟩ (.replayEnded ⟨1⟩ .all), .settle ⟨1⟩,
    .visit ⟨1⟩ (.alive (.uniform 600000) true .systemAliveOnly), .settle ⟨1⟩,
    .moveClock (.seconds 25200),
    .visit ⟨1⟩ (.alive (.uniform 25800000) false .systemAliveOnly), .settle ⟨1⟩,
    .recoveryPosted ⟨⟨1⟩, "LO", ⟨2⟩, 4200000, 25800000⟩ (.ok ())]

-- An alive that leaves the producer up was made almost 2^63 milliseconds ago. Then one comes
-- that asks for a recovery.
def ancientAnchorActs : List Act :=
  [.start, .visit ⟨1⟩ (.alive (.uniform 600000) false .systemAliveOnly), .settle ⟨1⟩,
    .visit ⟨1⟩ (.replayEnded ⟨1⟩ .all), .settle ⟨1⟩,
    .visit ⟨1⟩ (.alive { Stamp.uniform 600000 with created := Int64.minValue + 590000 } true
      .systemAliveOnly),
    .settle ⟨1⟩, .visit ⟨1⟩ (.alive (.uniform 600000) false .systemAliveOnly), .settle ⟨1⟩]

end FeedWatch
