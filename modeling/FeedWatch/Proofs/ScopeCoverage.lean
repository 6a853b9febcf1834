import FeedWatch.Proofs.Acknowledgements

namespace FeedWatch

-- The record of the producer can be read, and has these scopes.
def Tracked.HasScopes (x : Tracked) (scopes : List Scope) : Prop :=
  ∃ p, x.producer Outage.none = .ok p ∧ p.scopes = scopes

-- For each scope one of the steps sees an end of the replay that is limited to it.
def CoversScopes (id : ProducerId) (purpose : Purpose) (request : RequestId)
    (scopes : List Scope) (steps : List Step) : Prop :=
  ∀ scope ∈ scopes, ∃ s ∈ steps, ∃ interest,
    s.Answers id purpose request interest ∧ interest.scope? = some scope

-- An end of a replay is seen, and brings the replay to its end.
inductive Step.Finishes (s : Step) (id : ProducerId) : Purpose → RequestId → Prop where
  | completed {request : RequestId} {interest : Interest}
      (hact : s.act = .visit id (.replayEnded request interest))
      (hbefore : (s.before.tracked id).progress = (.started, some request))
      (hafter : (s.after.tracked id).progress = (.completed, some request))
      (hup : (s.after.tracked id).isDown = false) : s.Finishes id .recovery request
  -- another recovery is to take the place of one that was interrupted
  | resumed {request : RequestId} {interest : Interest}
      (hact : s.act = .visit id (.replayEnded request interest))
      (hbefore : (s.before.tracked id).progress = (.interrupted, some request))
      (hheld : s.after.held[id]? =
        some { rest := .claim (s.before.tracked id).tracker.resumeFrom none }) :
      s.Finishes id .recovery request
  -- the user is to be told, and then the replay of the event is forgotten
  | reported {n : EventReplayed} {interest : Interest}
      (hact : s.act = .visit id (.replayEnded n.request interest))
      (hproducer : (s.before.tracked id).producer Outage.none = .ok n.producer)
      (hevent : (s.before.tracked id).eventOf? n.request = some n.event)
      (hheld : s.after.held[id]? =
        some { notification := some (.eventReplayed n), rest := .eventDone n.request }) :
      s.Finishes id .event n.request

namespace Tracked

variable {x y : Tracked} {scopes : List Scope}

theorem hasScopes_of_entry {e : Entry} (he : x.listing.entry = some e) :
    x.HasScopes scopes ↔ e.descriptor.scopes = .ok scopes := by
  simp only [HasScopes, producer_none, Listing.producer, he, Entry.producer]
  cases e.descriptor.scopes <;> simp

theorem hasScopes_of_no_entry (he : x.listing.entry = none) :
    x.HasScopes scopes ↔ scopes = [.live, .prematch] := by
  simp only [HasScopes, producer_none, Listing.producer, he, Except.ok.injEq, exists_eq_left']
  exact eq_comm

theorem SameDescription.hasScopes (h : x.SameDescription y) (hx : x.HasScopes scopes) :
    y.HasScopes scopes := by
  have hdescriptor := h.descriptor
  cases he : x.listing.entry with
  | none =>
    rw [he, Option.map_none, Option.map_eq_none_iff] at hdescriptor
    exact (hasScopes_of_no_entry hdescriptor).mpr ((hasScopes_of_no_entry he).mp hx)
  | some e =>
    rw [he, Option.map_some] at hdescriptor
    obtain ⟨e', he', hsame⟩ := Option.map_eq_some_iff.mp hdescriptor
    rw [hasScopes_of_entry he', hsame]
    exact (hasScopes_of_entry he).mp hx

theorem HasScopes.isReadable (h : x.HasScopes scopes) : x.IsReadable := by
  obtain ⟨p, hp, -⟩ := h
  exact ⟨p, hp⟩

end Tracked

theorem Tracked.standing_answered {x : Tracked} {request : RequestId} {interest : Interest}
    (purpose : Purpose) : (x.answered request interest purpose).2.standing = x.standing := by
  cases purpose with
  | recovery =>
    obtain ⟨current, hy, hsame⟩ := x.recoveryAnswered_eq Outage.none request interest
    rw [answered, hy]
    simp only [standing, mapTracker_tracker, isDown_mapTracker, hsame]
  | event => exact standing_eventAnswered request interest

-- A recovery that completes leaves its producer up.
theorem Tracked.isDown_completed {x : Tracked} {request : RequestId} {interest : Interest}
    (hx : x.isEnabled = true) (reason : StatusReason) :
    ((((x.answered request interest .recovery).2.recovered request).raised).told reason).isDown =
      false := by
  obtain ⟨current, hy, -⟩ := x.recoveryAnswered_eq Outage.none request interest
  have henabled : ((x.answered request interest .recovery).2.recovered request).isEnabled = true := by
    rw [answered, hy]
    exact hx
  exact isDown_raised henabled

theorem World.InFlight.of_standing {w w' : World} {id : ProducerId} {purpose : Purpose}
    {request : RequestId} (hflight : w.InFlight id purpose request)
    (hstanding : (w'.tracked id).standing = (w.tracked id).standing)
    (hevent : (w'.tracked id).eventOf? request = (w.tracked id).eventOf? request) :
    w'.InFlight id purpose request := by
  cases purpose with
  | recovery =>
    refine ⟨(congrArg (·.state.isInProgress) hstanding).trans hflight.1, ?_⟩
    rw [Tracked.currentRequest_eq, hstanding, ← Tracked.currentRequest_eq]
    exact hflight.2
  | event =>
    obtain ⟨event, hentered⟩ := Tracked.mem_events_iff.mp hflight
    exact Tracked.mem_events_iff.mpr ⟨event, hevent.trans hentered⟩

theorem Tracked.eventOf?_answered {x : Tracked} {request r : RequestId} {interest : Interest}
    (purpose : Purpose) : (x.answered request interest purpose).2.eventOf? r = x.eventOf? r := by
  cases purpose with
  | recovery =>
    obtain ⟨current, hy, -⟩ := x.recoveryAnswered_eq Outage.none request interest
    rw [answered, hy]
    rfl
  | event => exact eventOf?_eventAnswered _ _

namespace Run

variable {w₀ w w' : World} {past : List Step} {a : Act} {id : ProducerId} {purpose : Purpose}
  {request : RequestId} {interest : Interest} {scopes : List Scope}

-- All scopes have answered, or one end speaks for them all.
theorem answered_iff (h : Run w₀ past w) (hstart : w₀.IsFresh) (hodd : w₀.DrawsOdd)
    (hfew : (draws past).length < 2 ^ 32) (hnow : ∀ s ∈ past, s.before.now ≠ 0)
    (hscopes : (w₀.tracked id).HasScopes scopes)
    (hanswers : (Step.mk w a w').Answers id purpose request interest) :
    ((w.tracked id).answered request interest purpose).1 = true ↔
      interest.isScopeLimited = false ∨
        CoversScopes id purpose request scopes (⟨w, a, w'⟩ :: past) := by
  have hread := hscopes.isReadable
  obtain ⟨p, hp, rfl⟩ := (h.sameDescription hstart.isValid id).hasScopes hscopes
  have hflight : w.InFlight id purpose request := hanswers.inFlight
  rw [World.answered_iff hflight hp]
  refine or_congr Iff.rfl (forall₂_congr fun scope _ => ?_)
  constructor
  · rintro ⟨i, rfl | hnoted, hscope⟩
    · exact ⟨_, List.mem_cons_self, i, hanswers, hscope⟩
    · obtain ⟨-, s, hs, hsame⟩ :=
        (h.mem_noted_iff hstart hodd hfew hnow hread hflight).mp hnoted
      exact ⟨s, List.mem_cons_of_mem _ hs, i, hsame, hscope⟩
  · rintro ⟨s, hs, i, hsame, hscope⟩
    refine ⟨i, ?_, hscope⟩
    obtain rfl | hs := List.mem_cons.mp hs
    · exact .inl (Visit.replayEnded.inj
        (Act.visit.inj (hsame.act.symm.trans hanswers.act)).2).2
    · have hlimited : i.isScopeLimited = true := by simp [Interest.isScopeLimited, hscope]
      exact .inr ((h.mem_noted_iff hstart hodd hfew hnow hread hflight).mpr
        ⟨hlimited, s, hs, hsame⟩)

-- A complete answer finishes the replay. Any other is noted and leaves it in flight.
theorem outcome_of_answers (h : Run w₀ past w) (hstart : w₀.IsFresh) (hodd : w₀.DrawsOdd)
    (hfew : (draws past).length < 2 ^ 32) (hnow : ∀ s ∈ past, s.before.now ≠ 0)
    (hread : (w₀.tracked id).IsReadable) (hopen : w.isOpen = true) (hstep : w.step a = some w')
    (hanswers : (Step.mk w a w').Answers id purpose request interest) :
    if ((w.tracked id).answered request interest purpose).1 = true then
      (Step.mk w a w').Finishes id purpose request
    else ¬(Step.mk w a w').Finishes id purpose request ∧ w'.held[id]? = some {} ∧
      w'.InFlight id purpose request ∧ (w'.tracked id).standing = (w.tracked id).standing := by
  obtain ⟨rfl, henabled, hflight⟩ := hanswers
  obtain ⟨pause, hheld, hanswered⟩ := h.answered hstart hodd hfew hnow hread hstep henabled hflight
  generalize hy : w'.tracked id = y at hanswered
  cases hanswered with
  | waits hpart =>
    have hstanding : (w'.tracked id).standing = (w.tracked id).standing :=
      hy ▸ Tracked.standing_answered purpose
    have hevent : (w'.tracked id).eventOf? request = (w.tracked id).eventOf? request :=
      hy ▸ Tracked.eventOf?_answered purpose
    rw [if_neg (by rw [hpart]; exact Bool.false_ne_true)]
    refine ⟨fun hfinishes => ?_, hheld, hflight.of_standing hstanding hevent, hy ▸ hstanding⟩
    cases hfinishes with
    | completed _ hbefore hafter =>
      have hsame : (w'.tracked id).progress = (w.tracked id).progress := by
        rw [← Standing.progress_standing, hstanding, Standing.progress_standing]
      cases hafter.symm.trans (hsame.trans hbefore)
    | resumed _ _ hclaim => cases hheld.symm.trans hclaim
    | reported _ _ _ hdone => cases hheld.symm.trans hdone
  | resumed hall hstate =>
    rw [if_pos hall]
    exact .resumed rfl (Prod.ext hstate hflight.2) hheld
  | completed hall hstate =>
    rw [if_pos hall]
    refine .completed rfl (Prod.ext hstate hflight.2) ?_ ?_
    · rw [hy]
      rfl
    · rw [hy]
      exact Tracked.isDown_completed henabled _
  | @reported p event hall hp hevent =>
    rw [if_pos hall]
    have hscene : w.scene.isOpen = true := hopen
    rw [if_pos hscene] at hheld
    exact .reported (n := ⟨p, .uniform w.now, event, request⟩) rfl hp hevent hheld

-- A claim that is due in an open manager replaces the recovery by a new one.
theorem replaced_of_settle (h : Run w₀ past w) (hstart : w₀.IsFresh) (hodd : w₀.DrawsOdd)
    (hread : (w₀.tracked id).IsReadable) (hopen : w.isOpen = true)
    (hstep : w.step (.settle id) = some w') {pause : Pause} {anchor : Instant}
    (hheld : w.held[id]? = some pause) (hrest : pause.rest = .claim anchor none) :
    ∃ c, w'.claims = w.claims ++ [c] ∧ c.producer = id ∧
      (Step.mk w (.settle id) w').draw? = some ⟨c.request, id, .recovery⟩ ∧
      (w'.tracked id).progress = (.started, some c.request) := by
  cases h.moved hstart.isValid hstep id with
  | touched _ hsettle => exact absurd rfl hsettle
  | settled hheld' _ hclaims hfinish =>
    obtain rfl := Option.some.inj (hheld.symm.trans hheld')
    rw [hrest] at hfinish
    generalize hids : w'.manager.ids = ids at hfinish
    generalize hy : w'.tracked id = y at hfinish ⊢
    cases hfinish with
    | claim hclaim =>
      cases hclaim with
      | shut hshut => exact absurd (hshut.symm.trans hopen) nofun
      | lost _ hlost => exact absurd (h.isReadable hstart.isValid hread) hlost
      | made => exact ⟨_, hclaims, rfl, h.draw?_of_settle hstart.isValid hodd hids, rfl⟩

end Run

-- The visit that holds the producer is to end the replay.
def World.IsEnding (w : World) (id : ProducerId) (request : RequestId) (purpose : Purpose) : Prop :=
  ∃ pause, w.held[id]? = some pause ∧
    match purpose with
    | .recovery => ∃ anchor, pause.rest = .claim anchor none
    | .event => pause.rest = .eventDone request

namespace Step.Finishes

variable {s : Step} {id : ProducerId} {purpose : Purpose} {request : RequestId}

theorem inFlight (h : s.Finishes id purpose request) : s.before.InFlight id purpose request := by
  cases h with
  | completed _ hbefore =>
    obtain ⟨hstate, hcurrent⟩ := Prod.ext_iff.mp hbefore
    exact ⟨RecoveryState.isInProgress_iff.mpr (.inl hstate), hcurrent⟩
  | resumed _ hbefore =>
    obtain ⟨hstate, hcurrent⟩ := Prod.ext_iff.mp hbefore
    exact ⟨RecoveryState.isInProgress_iff.mpr (.inr hstate), hcurrent⟩
  | reported _ _ hevent => exact Tracked.mem_events_iff.mpr ⟨_, hevent⟩

theorem ending_or_over (h : s.Finishes id purpose request) :
    s.after.IsEnding id request purpose ∨ ¬s.after.InFlight id purpose request := by
  cases h with
  | completed _ _ hafter =>
    refine .inr fun hflight => ?_
    have hprogress := hflight.1
    rw [show (s.after.tracked id).tracker.state = _ from congrArg Prod.fst hafter] at hprogress
    exact absurd hprogress nofun
  | resumed _ _ hheld => exact .inl ⟨_, hheld, _, rfl⟩
  | reported _ _ _ hheld => exact .inl ⟨_, hheld, rfl⟩

end Step.Finishes

namespace Run

variable {w₀ w w' : World} {past : List Step} {a : Act} {id : ProducerId} {purpose : Purpose}
  {request : RequestId}

-- A replay of an event is forgotten as the visit that saw its end is settled.
theorem forgotten_of_settle (h : Run w₀ past w) (hstart : w₀.IsFresh)
    (hstep : w.step (.settle id) = some w') {pause : Pause} (hheld : w.held[id]? = some pause)
    (hrest : pause.rest = .eventDone request) : ¬w'.InFlight id .event request := by
  intro hentered
  obtain ⟨event, hevent⟩ := Tracked.mem_events_iff.mp hentered
  cases h.moved hstart.isValid hstep id with
  | touched _ hsettle => exact absurd rfl hsettle
  | settled hheld' _ _ hfinish =>
    obtain rfl := Option.some.inj (hheld.symm.trans hheld')
    cases ((hfinish.eventOf? request).1 hrest).symm.trans hevent

-- The settling of a visit that is to end a replay does so.
theorem over_of_settle (h : Run w₀ past w) (hstart : w₀.IsFresh) (hodd : w₀.DrawsOdd)
    (hfew : (draws (⟨w, .settle id, w'⟩ :: past)).length < 2 ^ 32)
    (hread : (w₀.tracked id).IsReadable) (hclosed : w.manager.phase ≠ .closed)
    (hstep : w.step (.settle id) = some w') (hflight : w.InFlight id purpose request)
    (hending : w.IsEnding id request purpose) : ¬w'.InFlight id purpose request := by
  obtain ⟨pause, hheld, hrest⟩ := hending
  cases purpose with
  | recovery =>
    obtain ⟨anchor, hrest⟩ := hrest
    have hopen : w.isOpen = true := by
      have hcreated : w.manager.phase ≠ .created := by
        intro hcreated
        have hdefault := (h.isOrderly hstart id).created hcreated
        have hprogress := hflight.1
        rw [← Tracked.standing_state, hdefault] at hprogress
        exact absurd hprogress nofun
      rw [World.isOpen_iff]
      cases hphase : w.manager.phase with
      | created => exact absurd hphase hcreated
      | opened => rfl
      | closed => exact absurd hphase hclosed
    obtain ⟨c, -, -, hdraw, hprogress⟩ :=
      h.replaced_of_settle hstart hodd hread hopen hstep hheld hrest
    rintro ⟨-, hcurrent⟩
    obtain rfl := Option.some.inj (hcurrent.symm.trans (congrArg Prod.snd hprogress))
    exact h.request_ne hstart.isValid hodd hstep hfew hdraw
      (h.mem_draws_of_inFlight hstart hodd hflight) rfl
  | event => exact h.forgotten_of_settle hstart hstep hheld hrest

-- A replay that was brought to its end is over as soon as its producer is let go.
theorem ending_or_over (h : Run w₀ past w) (hstart : w₀.IsFresh) (hodd : w₀.DrawsOdd)
    (hfew : (draws past).length < 2 ^ 32) (hread : (w₀.tracked id).IsReadable)
    (hclosed : w.manager.phase ≠ .closed) {s : Step} (hs : s ∈ past)
    (hfinishes : s.Finishes id purpose request) :
    w.IsEnding id request purpose ∨ ¬w.InFlight id purpose request := by
  induction h with
  | start => exact absurd hs List.not_mem_nil
  | @step past w w' a hrun hstep ih =>
    obtain rfl | hs := List.mem_cons.mp hs
    · exact hfinishes.ending_or_over
    · have hlength := length_draws_le_cons ⟨w, a, w'⟩ past
      have hopen : w.manager.phase ≠ .closed := by
        obtain hsame | ⟨hcreated, -⟩ | hshut := World.phase_step hstep
        · rwa [hsame] at hclosed
        · rw [hcreated]
          exact nofun
        · exact absurd hshut hclosed
      have hbefore := ih (by omega) hopen hs
      by_cases hflight : w.InFlight id purpose request
      · obtain ⟨pause, hheld, hrest⟩ := hbefore.resolve_right (not_not_intro hflight)
        cases hrun.moved hstart.isValid hstep id with
        | visited hfree => cases hfree.symm.trans hheld
        | settled =>
          exact .inr (hrun.over_of_settle hstart hodd hfew hread hopen hstep hflight
            ⟨pause, hheld, hrest⟩)
        | touched _ _ _ _ hkept =>
          have hlate : a ≠ .sendLate id := by
            rintro rfl
            exact hopen (World.phase_of_sendLate hstep)
          exact .inl ⟨pause, (hkept hlate).trans hheld, hrest⟩
      · refine .inr fun hagain => ?_
        obtain hflight' | ⟨-, hdraw⟩ | ⟨-, call, hcall, -, -, rfl⟩ :=
          hrun.inFlight_of_step hstart hodd hstep hagain
        · exact hflight hflight'
        · exact hrun.request_ne hstart.isValid hodd hstep hfew hdraw
            (hrun.mem_draws_of_before hstart hodd hs hfinishes.inFlight) rfl
        · exact (hrun.not_inFlight_of_call hstart hodd (by omega) hcall id purpose).2 s hs
            hfinishes.inFlight

end Run

-- How the replays of a producer with these scopes finish in a run.
structure FinishesReplays (past : List Step) (w : World) (id : ProducerId) (scopes : List Scope) :
    Prop where
  -- an end of a replay finishes it if it speaks for all scopes, or if with it all of them
  -- have answered
  finishes : ∀ (s : Step) (earlier : List Step) (purpose : Purpose) (request : RequestId)
    (interest : Interest), s :: earlier <:+ past → s.before.isOpen = true →
      s.Answers id purpose request interest →
        (s.Finishes id purpose request ↔ interest.isScopeLimited = false ∨
          CoversScopes id purpose request scopes (s :: earlier))
  -- any other leaves it in flight and its producer as it stands, and nothing is said or claimed
  waits : ∀ (s : Step) (earlier : List Step) (purpose : Purpose) (request : RequestId)
    (interest : Interest), s :: earlier <:+ past → s.before.isOpen = true →
      s.Answers id purpose request interest → ¬s.Finishes id purpose request →
        s.after.held[id]? = some {} ∧ s.after.InFlight id purpose request ∧
          (s.after.tracked id).standing = (s.before.tracked id).standing
  -- no end of a replay is seen after the one that finished it
  once : ∀ (s : Step) (earlier : List Step) (purpose : Purpose) (request : RequestId)
    (interest : Interest), s :: earlier <:+ past → s.before.isOpen = true →
      s.Answers id purpose request interest → ∀ t ∈ earlier, ¬t.Finishes id purpose request
  -- a recovery completes in no other way
  only : ∀ (s : Step) (earlier : List Step) (request : RequestId), s :: earlier <:+ past →
    (s.before.tracked id).progress = (.started, some request) →
      (s.after.tracked id).tracker.state = .completed →
        ∃ interest, s.Answers id .recovery request interest
  -- an interrupted recovery gives way to a fresh one as its visit is settled
  replaced : ∀ (s u : Step) (earlier : List Step) (request : RequestId), u :: earlier <:+ past →
    u.act = .settle id → visiting? id earlier = some s → s.Finishes id .recovery request →
      (s.before.tracked id).tracker.state = .interrupted → u.before.isOpen = true →
        ∃ c, u.after.claims = u.before.claims ++ [c] ∧ c.producer = id ∧ c.request ≠ request ∧
          (u.after.tracked id).progress = (.started, some c.request)
  -- the user is told of the end of an event's replay, and the replay is forgotten
  told : ∀ (s u : Step) (earlier : List Step) (request : RequestId), u :: earlier <:+ past →
    u.act = .settle id → visiting? id earlier = some s → s.Finishes id .event request →
      (u.before.isOpen = true → ∃ n, u.before.delivered u.act = [.eventReplayed n] ∧
        n.request = request ∧ (s.before.tracked id).eventOf? request = some n.event) ∧
      ¬u.after.InFlight id .event request
  -- nothing holds up the claim of the fresh recovery
  unblocked : ∀ (s : Step) (request : RequestId), visiting? id past = some s →
    s.Finishes id .recovery request → (s.before.tracked id).tracker.state = .interrupted →
      ∃ w', w.step (.settle id) = some w'

theorem Visited.of_completed {sc : Scene} {x y : Tracked} {v : Visit} {pause : Pause}
    (h : Visited sc x v pause y) (hx : x.tracker.state = .started)
    (hy : y.tracker.state = .completed) : x.isEnabled = true ∧
      ∃ request interest, v = .replayEnded request interest ∧
        x.tracker.currentRequest = some request := by
  have hlowered {z : Tracked} {reason : DownReason} (hz : z.tracker.state = .started)
      (hstate : (z.lowered reason).tracker.state = .completed) : False := by
    simp only [Tracked.lowered, hz] at hstate
    split at hstate <;> cases hstate
  have hkept (hsame : y.tracker.state = x.tracker.state) : False := by
    cases hy.symm.trans (hsame.trans hx)
  cases h with
  | completed henabled hcurrent => exact ⟨henabled, _, _, rfl, hcurrent⟩
  | unsubscribedUp => exact (hlowered hx hy).elim
  | silent => exact (hlowered hx hy).elim
  | delayed => exact (hlowered hx hy).elim
  | @acknowledged request interest _ _ hy =>
    rcases hy with rfl | rfl
    · exact (hkept (congrArg Standing.state (x.standing_eventAnswered request interest))).elim
    · exact (hkept (congrArg Standing.state (x.standing_acknowledged request interest))).elim
  | @eventOver request interest =>
    exact (hkept (congrArg Standing.state (x.standing_eventAnswered request interest))).elim
  | resumed _ _ hstate => cases hstate.symm.trans hx
  | _ => exact (hkept rfl).elim

theorem Ended.state_of_completed {sc : Scene} {x : Tracked} {ids ids' : RequestIds} {rest : Rest}
    {c : Option Claim} {s : Standing} (h : Ended sc x ids rest c s ids')
    (hs : s.state = .completed) : x.tracker.state = .completed := by
  cases h with
  | @kept _ alive => cases alive <;> exact hs
  | @claimed _ alive => cases alive <;> cases hs
  | @givenUp _ _ alive => cases alive <;> cases hs

theorem length_draws_le_append (later earlier : List Step) :
    (draws earlier).length ≤ (draws (later ++ earlier)).length := by
  have hsub : earlier.Sublist (later ++ earlier) := List.sublist_append_right _ _
  exact (hsub.filterMap Step.draw?).length_le

-- A visit that says nothing is settled at any time.
theorem World.exists_step_settle_of_silent {w : World} {id : ProducerId} {pause : Pause}
    (hheld : w.held[id]? = some pause) (hsilent : pause.notification = none) :
    ∃ w', w.step (.settle id) = some w' := by
  simp [step, hheld, Service.settle?, Service.announce?, hsilent]

namespace Run

variable {w₀ w w' : World} {past : List Step} {a : Act} {id : ProducerId} {purpose : Purpose}
  {request : RequestId} {interest : Interest} {scopes : List Scope}

-- What holds a producer is what the visit to it left, less what was sent late.
theorem held_of_visiting (h : Run w₀ past w) (hstart : w₀.IsFresh) {s : Step}
    (hvisiting : visiting? id past = some s) :
    ∃ begun pause, s.after.held[id]? = some begun ∧ w.held[id]? = some pause ∧
      begun.rest = pause.rest ∧
      (begun = pause ∨ w.manager.phase = .closed ∧ pause.notification = none) ∧ s ∈ past := by
  have hheld : ∃ pause, w.held[id]? = some pause := by
    induction h with
    | start => cases hvisiting
    | @step past w w' a hrun hstep ih =>
      cases hrun.moved hstart.isValid hstep id with
      | visited _ hheld => exact ⟨_, hheld⟩
      | settled => simp [visiting?] at hvisiting
      | touched hvisit hsettle hrest =>
        obtain ⟨pause, hpause⟩ := ih (visiting?_cons_of_ne hvisit hsettle ▸ hvisiting)
        rw [hpause, Option.map_some] at hrest
        obtain ⟨pause', hpause', -⟩ := Option.map_eq_some_iff.mp hrest
        exact ⟨pause', hpause'⟩
  obtain ⟨pause, hpause⟩ := hheld
  obtain ⟨begun, s', v, earlier, hs, hrest, hsame⟩ := h.isHeldBy hstart.isValid hstart.held hpause
  obtain rfl := Option.some.inj (hvisiting.symm.trans hs.visiting)
  obtain ⟨between, rfl, -⟩ := hs.since
  exact ⟨begun, pause, hs.held, hpause, hrest, hsame,
    List.mem_append_right _ List.mem_cons_self⟩

theorem answers_of_completed {s : Step} (h : Run w₀ past s.before)
    (hstart : w₀.IsFresh) (hstep : s.before.step s.act = some s.after)
    (hbefore : (s.before.tracked id).progress = (.started, some request))
    (hafter : (s.after.tracked id).tracker.state = .completed) :
    ∃ interest, s.Answers id .recovery request interest := by
  obtain ⟨hstate, hcurrent⟩ := Prod.ext_iff.mp hbefore
  dsimp only [Tracked.progress] at hstate hcurrent
  have hflight : s.before.InFlight id .recovery request :=
    ⟨RecoveryState.isInProgress_iff.mpr (.inl hstate), hcurrent⟩
  obtain ⟨w, a, w'⟩ := s
  cases h.moved hstart.isValid hstep id with
  | visited _ _ hvisit =>
    obtain ⟨henabled, request', interest, rfl, hcurrent'⟩ := hvisit.of_completed hstate hafter
    obtain rfl := Option.some.inj (hcurrent.symm.trans hcurrent')
    exact ⟨interest, rfl, henabled, hflight⟩
  | settled _ _ _ hfinish =>
    cases hstate.symm.trans (hfinish.ended.state_of_completed hafter)
  | touched _ _ _ htouched =>
    cases hafter.symm.trans ((congrArg Standing.state htouched.standing).trans hstate)

-- No end of a replay is seen once the replay has finished.
theorem not_finished_of_answers (h : Run w₀ past w) (hstart : w₀.IsFresh) (hodd : w₀.DrawsOdd)
    (hfew : (draws past).length < 2 ^ 32) (hread : (w₀.tracked id).IsReadable)
    (hopen : w.isOpen = true) (hstep : w.step a = some w')
    (hanswers : (Step.mk w a w').Answers id purpose request interest) {s : Step} (hs : s ∈ past) :
    ¬s.Finishes id purpose request := by
  intro hfinishes
  have hclosed : w.manager.phase ≠ .closed := by
    rw [World.isOpen_iff.mp hopen]
    exact nofun
  obtain ⟨pause, hheld, -⟩ | hover := h.ending_or_over hstart hodd hfew hread hclosed hs hfinishes
  · -- no visit begins while the producer is held
    obtain rfl : a = _ := hanswers.act
    cases h.moved hstart.isValid hstep id with
    | visited hfree => cases hfree.symm.trans hheld
    | touched hvisit => exact absurd rfl (hvisit _)
  · exact hover hanswers.inFlight

-- An interrupted recovery that has finished gives way to one of another request.
theorem replaced_of_finishes (h : Run w₀ past w) (hstart : w₀.IsFresh) (hodd : w₀.DrawsOdd)
    (hread : (w₀.tracked id).IsReadable) (hopen : w.isOpen = true)
    (hstep : w.step (.settle id) = some w')
    (hfew : (draws (⟨w, .settle id, w'⟩ :: past)).length < 2 ^ 32) {s : Step}
    (hvisiting : visiting? id past = some s) (hfinishes : s.Finishes id .recovery request)
    (hstate : (s.before.tracked id).tracker.state = .interrupted) :
    ∃ c, w'.claims = w.claims ++ [c] ∧ c.producer = id ∧ c.request ≠ request ∧
      (w'.tracked id).progress = (.started, some c.request) := by
  obtain ⟨begun, pause, hbegun, hpause, hrest, -, hs⟩ := h.held_of_visiting hstart hvisiting
  have hdrawn := h.mem_draws_of_before hstart hodd hs hfinishes.inFlight
  cases hfinishes with
  | completed _ hbefore => cases (congrArg Prod.fst hbefore).symm.trans hstate
  | resumed _ _ hheld =>
    obtain rfl := Option.some.inj (hbegun.symm.trans hheld)
    obtain ⟨c, hclaims, hproducer, hdraw, hprogress⟩ :=
      h.replaced_of_settle hstart hodd hread hopen hstep hpause hrest.symm
    refine ⟨c, hclaims, hproducer, ?_, hprogress⟩
    rintro rfl
    exact h.request_ne hstart.isValid hodd hstep hfew hdraw hdrawn rfl

-- The end of a replay of an event is told, and the replay is forgotten.
theorem told_of_finishes (h : Run w₀ past w) (hstart : w₀.IsFresh)
    (hstep : w.step (.settle id) = some w') {s : Step} (hvisiting : visiting? id past = some s)
    (hfinishes : s.Finishes id .event request) :
    (w.isOpen = true → ∃ n, w.delivered (.settle id) = [.eventReplayed n] ∧
      n.request = request ∧ (s.before.tracked id).eventOf? request = some n.event) ∧
      ¬w'.InFlight id .event request := by
  obtain ⟨begun, pause, hbegun, hpause, hrest, hsame, -⟩ := h.held_of_visiting hstart hvisiting
  cases hfinishes with
  | @reported n _ _ _ hevent hheld =>
    obtain rfl := Option.some.inj (hbegun.symm.trans hheld)
    refine ⟨fun hopen => ⟨n, ?_, rfl, hevent⟩, ?_⟩
    · have hnot : w.manager.phase ≠ .closed := by
        rw [World.isOpen_iff.mp hopen]
        exact nofun
      obtain rfl := hsame.resolve_right fun hclosed => hnot hclosed.1
      have hawaited : w.awaited id = [.eventReplayed n] := World.awaited_of_held hpause
      exact (if_pos hopen).trans hawaited
    · exact h.forgotten_of_settle hstart hstep hpause hrest.symm

-- Nothing holds up the claim of the recovery that takes the place of an interrupted one.
theorem exists_step_of_finishes (h : Run w₀ past w) (hstart : w₀.IsFresh) {s : Step}
    (hvisiting : visiting? id past = some s) (hfinishes : s.Finishes id .recovery request)
    (hstate : (s.before.tracked id).tracker.state = .interrupted) :
    ∃ w', w.step (.settle id) = some w' := by
  obtain ⟨begun, pause, hbegun, hpause, -, hsame, -⟩ := h.held_of_visiting hstart hvisiting
  cases hfinishes with
  | completed _ hbefore => cases (congrArg Prod.fst hbefore).symm.trans hstate
  | resumed _ _ hheld =>
    obtain rfl := Option.some.inj (hbegun.symm.trans hheld)
    refine World.exists_step_settle_of_silent hpause ?_
    obtain rfl | ⟨-, hnone⟩ := hsame
    · rfl
    · exact hnone

-- The replays of a producer finish one by one: each with the first end of it that is not
-- limited to a scope or with which all scopes have answered, in whatever order and however
-- often they answer, and whatever else is seen in between.
theorem finishesReplays (h : Run w₀ past w) (hstart : w₀.IsFresh) (hodd : w₀.DrawsOdd)
    (hfew : (draws past).length < 2 ^ 32) (hnow : ∀ s ∈ past, s.before.now ≠ 0)
    (hscopes : (w₀.tracked id).HasScopes scopes) : FinishesReplays past w id scopes := by
  have hread := hscopes.isReadable
  -- the run up to one of its steps
  have hcut {s : Step} {earlier : List Step} (hsuffix : s :: earlier <:+ past) :
      Run w₀ earlier s.before ∧ s.before.step s.act = some s.after ∧
        (draws (s :: earlier)).length < 2 ^ 32 ∧ (draws earlier).length < 2 ^ 32 ∧
        ∀ t ∈ earlier, t.before.now ≠ 0 := by
    obtain ⟨later, rfl⟩ := hsuffix
    obtain ⟨hearlier, hstep, -⟩ := h.split
    have hlength := length_draws_le_append later (s :: earlier)
    have hlength' := length_draws_le_cons s earlier
    refine ⟨hearlier, hstep, by omega, by omega, fun t ht => ?_⟩
    exact hnow t (List.mem_append_right _ (List.mem_cons_of_mem s ht))
  constructor
  case finishes =>
    rintro s earlier purpose request interest hsuffix hopen hanswers
    obtain ⟨hrun, hstep, -, hfew, hnow⟩ := hcut hsuffix
    have houtcome := hrun.outcome_of_answers hstart hodd hfew hnow hread hopen hstep hanswers
    rw [← hrun.answered_iff hstart hodd hfew hnow hscopes hanswers]
    split at houtcome <;> rename_i hall
    · exact iff_of_true houtcome hall
    · exact iff_of_false houtcome.1 hall
  case waits =>
    rintro s earlier purpose request interest hsuffix hopen hanswers hnot
    obtain ⟨hrun, hstep, -, hfew, hnow⟩ := hcut hsuffix
    have houtcome := hrun.outcome_of_answers hstart hodd hfew hnow hread hopen hstep hanswers
    split at houtcome
    · exact absurd houtcome hnot
    · exact houtcome.2
  case once =>
    rintro s earlier purpose request interest hsuffix hopen hanswers t ht
    obtain ⟨hrun, hstep, -, hfew, -⟩ := hcut hsuffix
    exact hrun.not_finished_of_answers hstart hodd hfew hread hopen hstep hanswers ht
  case only =>
    rintro s earlier request hsuffix hbefore hafter
    obtain ⟨hrun, hstep, -⟩ := hcut hsuffix
    exact hrun.answers_of_completed hstart hstep hbefore hafter
  case replaced =>
    rintro s ⟨w, act, w'⟩ earlier request hsuffix rfl hvisiting hfinishes hstate hopen
    obtain ⟨hrun, hstep, hfew, -, -⟩ := hcut hsuffix
    exact hrun.replaced_of_finishes hstart hodd hread hopen hstep hfew hvisiting hfinishes hstate
  case told =>
    rintro s ⟨w, act, w'⟩ earlier request hsuffix rfl hvisiting hfinishes
    obtain ⟨hrun, hstep, -⟩ := hcut hsuffix
    exact hrun.told_of_finishes hstart hstep hvisiting hfinishes
  case unblocked =>
    rintro s request hvisiting hfinishes hstate
    exact h.exists_step_of_finishes hstart hvisiting hfinishes hstate

end Run

-- The odds before a match and those during it, ten minutes past the epoch.
def allOdds : Descriptor := { liveOdds with name := "AO", scope := "live | prematch" }

def World.ofAllOdds : World :=
  .ofManager { config := {}, directory := .ofDescriptors [allOdds] "", ids := ⟨0, 1⟩ } 600000

-- The live part of a recovery ends twice, and then the part before the match.
def bothPartsActs : List Act :=
  [.start, .visit ⟨1⟩ (.alive (.uniform 600000) false .systemAliveOnly), .settle ⟨1⟩,
    .visit ⟨1⟩ (.replayEnded ⟨1⟩ .liveOnly), .settle ⟨1⟩,
    .visit ⟨1⟩ (.replayEnded ⟨1⟩ .liveOnly), .settle ⟨1⟩,
    .visit ⟨1⟩ (.replayEnded ⟨1⟩ .prematchOnly)]

theorem Run.second_part_finishes : ∃ past w, Run World.ofAllOdds past w ∧
    FinishesReplays past w ⟨1⟩ [.live, .prematch] ∧
    ((World.ofAllOdds.play [] (bothPartsActs.take 7)).2.tracked ⟨1⟩).progress =
      (.started, some ⟨1⟩) ∧
    (w.tracked ⟨1⟩).progress = (.completed, some ⟨1⟩) ∧ (w.tracked ⟨1⟩).isDown = false := by
  have hrun : Run World.ofAllOdds _ _ := Run.start.play bothPartsActs
  have hfresh : World.ofAllOdds.IsFresh := ⟨{}, [allOdds], "", ⟨0, 1⟩, _, 600000, rfl, rfl⟩
  have hscopes : (World.ofAllOdds.tracked ⟨1⟩).HasScopes [.live, .prematch] := ⟨_, rfl, rfl⟩
  have hfinishes := hrun.finishesReplays hfresh rfl (by decide +kernel) (by decide +kernel) hscopes
  exact ⟨_, _, hrun, hfinishes, rfl, rfl, rfl⟩

end FeedWatch
