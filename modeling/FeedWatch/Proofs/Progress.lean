import FeedWatch.Proofs.Draws
import FeedWatch.Proofs.Sound
import FeedWatch.Proofs.Visiting

namespace FeedWatch

-- The state of the recovery, and the request that it is about.
def Tracked.progress (x : Tracked) : RecoveryState × Option RequestId :=
  (x.tracker.state, x.tracker.currentRequest)

def Standing.progress (s : Standing) : RecoveryState × Option RequestId :=
  (s.state, s.current.map Prod.fst)

namespace Step

-- How a step may change the progress of a producer.
inductive Advances (id : ProducerId) (past : List Step) (s : Step) : Prop where
  | stays (hsame : (s.after.tracked id).progress = (s.before.tracked id).progress)
  -- a recovery is requested under an id that is drawn in this step
  | starts {request : RequestId}
      (hfrom : (s.before.tracked id).tracker.state ∈
        [RecoveryState.default, .completed, .interrupted, .started])
      (hopen : s.before.isOpen = true) (hdraw : s.draw? = some ⟨request, id, .recovery⟩)
      (hafter : (s.after.tracked id).progress = (.started, some request))
  | completes {request : RequestId} {interest : Interest}
      (hact : s.act = .visit id (.replayEnded request interest))
      (hbefore : (s.before.tracked id).progress = (.started, some request))
      (hafter : (s.after.tracked id).progress = (.completed, some request))
  | interrupts {request : RequestId} (hact : s.act = .visit id .healthCheck)
      (hsilent : s.before.scene.isSilent (s.before.tracked id))
      (hbefore : (s.before.tracked id).progress = (.started, some request))
      (hafter : (s.after.tracked id).progress = (.interrupted, some request))
  -- a system alive finds a recovery that has run too long, and another cannot be requested
  | fails {request : RequestId} {v : Step} {stamp : Stamp} (hact : s.act = .settle id)
      (hvisit : visiting? id past = some v)
      (halive : v.act = .visit id (.alive stamp true .systemAliveOnly))
      (hopen : s.before.isOpen = false)
      (hbefore : (s.before.tracked id).progress = (.started, some request))
      (hafter : (s.after.tracked id).tracker.state = .error)

end Step

-- The request was that of an interrupted recovery of the producer.
def WasInterrupted (id : ProducerId) (request : RequestId) (past : List Step) : Prop :=
  ∃ s ∈ past, (s.after.tracked id).progress = (.interrupted, some request)

-- What holds in any phase. The rest is that of the visit which holds the producer.
structure Standing.IsOrderly (s : Standing) (phase : Phase) (rest : Option Rest) : Prop where
  inProgress : s.state.isInProgress = true → s.isDown = true
  reached : s.state ≠ .notStarted
  current : s.state ≠ .default → ∃ request startedAt, s.current = some (request, startedAt)
  created : phase = .created → s.state = .default
  error : s.state = .error → phase = .closed
  asked : ∀ anchor alive, rest = some (.claim anchor alive) → s.isDown = true ∨ s.state = .error
  checked : ∀ anchor alive, rest = some (.ensureRecovery anchor alive) →
    Visit.isRecovering s.state = true

-- What the rest of a visit does to the standing of its producer, in any phase.
inductive Ended (sc : Scene) (x : Tracked) (ids : RequestIds) :
    Rest → Option Claim → Standing → RequestIds → Prop where
  | kept {rest : Rest} {alive : Option Stamp} {ids' : RequestIds} :
      Ended sc x ids rest none (x.standing.keptIf alive) ids'
  | claimed {rest : Rest} {alive : Option Stamp} {c : Claim} (hopen : sc.isOpen = true)
      (hrest : (∃ anchor, rest = .claim anchor alive) ∨
        (∃ anchor stamp, rest = .ensureRecovery anchor stamp) ∧
          (x.isUnattended = true ∨ sc.isStuck x = true)) :
      Ended sc x ids rest (some c) ((x.standing.claimed ids.next.1 sc.now).keptIf alive)
        ids.next.2
  | givenUp {anchor : Instant} {stamp : Stamp} {alive : Option Stamp} {ids' : RequestIds}
      (hstuck : sc.isStuck x = true) (hshut : sc.isOpen = false ∨ ¬x.IsReadable) :
      Ended sc x ids (.ensureRecovery anchor stamp) none (x.standing.givenUp.keptIf alive) ids'

namespace Standing

variable {s : Standing} {phase phase' : Phase} {rest : Option Rest}

@[simp] theorem progress_keptIf (alive : Option Stamp) : (s.keptIf alive).progress = s.progress := by
  cases alive <;> rfl

theorem progress_standing (x : Tracked) : x.standing.progress = x.progress := by
  rw [progress, Tracked.progress, Tracked.currentRequest_eq]
  rfl

theorem isOrderly_fresh : fresh.IsOrderly .created none where
  inProgress := nofun
  reached := nofun
  current hstate := absurd rfl hstate
  created _ := rfl
  error := nofun
  asked := nofun
  checked := nofun

theorem IsOrderly.keptIf (h : s.IsOrderly phase rest) (alive : Option Stamp) :
    (s.keptIf alive).IsOrderly phase none := by
  cases alive <;> exact ⟨h.inProgress, h.reached, h.current, h.created, h.error, nofun, nofun⟩

theorem state_lowered (s : Standing) (reason : DownReason) :
    (s.lowered reason).state = s.state ∨
      s.state = .started ∧ (s.lowered reason).state = .interrupted := by
  by_cases hstarted : s.state = .started ∧ reason ≠ .queueDelay
  · exact .inr ⟨hstarted.1, if_pos hstarted⟩
  · exact .inl (if_neg hstarted)

theorem IsOrderly.lowered (h : s.IsOrderly phase none) (reason : DownReason)
    (hrest : ∀ anchor alive, rest ≠ some (.ensureRecovery anchor alive)) :
    (s.lowered reason).IsOrderly phase rest where
  inProgress _ := rfl
  reached := by
    obtain hstate | ⟨-, hstate⟩ := s.state_lowered reason
    · rw [hstate]
      exact h.reached
    · rw [hstate]
      exact nofun
  current hdefault := by
    obtain hstate | ⟨hstarted, -⟩ := s.state_lowered reason
    · exact h.current (hstate ▸ hdefault)
    · exact h.current (by rw [hstarted]; exact nofun)
  created hcreated := by
    obtain hstate | ⟨hstarted, -⟩ := s.state_lowered reason
    · rw [hstate, h.created hcreated]
    · exact absurd (hstarted.symm.trans (h.created hcreated)) nofun
  error herror := by
    obtain hstate | ⟨-, hstate⟩ := s.state_lowered reason
    · exact h.error (hstate.symm.trans herror)
    · exact absurd (hstate.symm.trans herror) nofun
  asked _ _ _ := .inl rfl
  checked anchor alive hensure := absurd hensure (hrest anchor alive)

theorem IsOrderly.turned {sc : Scene} {x : Tracked} {v : Visit} {pause : Pause} {s' : Standing}
    (h : x.standing.IsOrderly phase none) (ht : Turned sc x v pause s')
    (hchecked : ∀ anchor alive, pause.rest = .ensureRecovery anchor alive →
      Visit.isRecovering x.tracker.state = true) : s'.IsOrderly phase (some pause.rest) := by
  have hensure (anchor : Instant) (alive : Stamp)
      (hrest : some pause.rest = some (.ensureRecovery anchor alive)) :
      Visit.isRecovering x.tracker.state = true := hchecked anchor alive (Option.some.inj hrest)
  cases ht with
  | quiet hrest =>
    refine ⟨h.inProgress, h.reached, h.current, h.created, h.error, ?_, hensure⟩
    intro anchor alive hclaim
    obtain hdone | ⟨request, hevent⟩ := hrest
    · exact absurd (hdone.symm.trans (Option.some.inj hclaim)) nofun
    · exact absurd (hevent.symm.trans (Option.some.inj hclaim)) nofun
  | asking hask =>
    refine ⟨h.inProgress, h.reached, h.current, h.created, h.error, fun _ _ _ => ?_, nofun⟩
    obtain hdown | hstate := hask
    · exact .inl hdown
    · -- no more awaited: interrupted, and then it is down, or in error
      cases hs : x.tracker.state with
      | interrupted => exact .inl (h.inProgress (by rw [Tracked.standing_state, hs]; rfl))
      | error => exact .inr hs
      | notStarted => exact absurd hs h.reached
      | default => exact absurd (hs ▸ hstate) nofun
      | started => exact absurd (hs ▸ hstate) nofun
      | completed => exact absurd (hs ▸ hstate) nofun
  | checking => exact ⟨h.inProgress, h.reached, h.current, h.created, h.error, nofun, hensure⟩
  | cutOff => exact h.lowered _ nofun
  | returned _ _ _ hback =>
    obtain ⟨-, hidle, -, -⟩ := isBack_iff.mp hback
    refine ⟨fun hprogress => ?_, h.reached, h.current, h.created, h.error, nofun, nofun⟩
    exact absurd (hidle.symm.trans hprogress) nofun
  | completed _ hstate =>
    have hstarted : x.standing.state ≠ .default := by
      rw [Tracked.standing_state, hstate]
      exact nofun
    refine ⟨nofun, nofun, fun _ => h.current hstarted, fun hcreated => ?_, nofun, nofun, nofun⟩
    exact absurd (h.created hcreated) hstarted
  | silent => exact h.lowered _ nofun
  | delayed => exact h.lowered _ nofun

theorem IsOrderly.ended {sc : Scene} {x : Tracked} {ids ids' : RequestIds} {rest : Rest}
    {c : Option Claim} {s' : Standing} (h : x.standing.IsOrderly phase (some rest))
    (hs : Ended sc x ids rest c s' ids') (hphase : sc.isOpen = true ↔ phase = .opened)
    (hread : ∀ anchor alive, rest = .ensureRecovery anchor alive → x.IsReadable) :
    s'.IsOrderly phase none := by
  cases hs with
  | kept => exact h.keptIf _
  | claimed hopen hrest =>
    have hopened := hphase.mp hopen
    have hdown : x.isDown = true := by
      obtain ⟨anchor, rfl⟩ | ⟨-, hmissing | hstuck⟩ := hrest
      · obtain hdown | herror := h.asked _ _ rfl
        · exact hdown
        · cases hopened.symm.trans (h.error herror)
      · exact (isUnattended_iff.mp hmissing).1
      · simp only [Scene.isStuck, Bool.and_eq_true] at hstuck
        exact h.inProgress hstuck.1
    have hclaimed : (x.standing.claimed ids.next.1 sc.now).IsOrderly phase none := by
      refine ⟨fun _ => hdown, by simp [claimed], fun _ => ⟨_, _, rfl⟩, ?_, by simp [claimed], by simp,
        by simp⟩
      intro hcreated
      cases hopened.symm.trans hcreated
    exact hclaimed.keptIf _
  | givenUp hstuck hshut =>
    simp only [Scene.isStuck, Bool.and_eq_true] at hstuck
    have hprogress : x.standing.state.isInProgress = true := hstuck.1
    have hclosed : phase = .closed := by
      cases hp : phase with
      | closed => rfl
      | opened =>
        obtain hshut | hlost := hshut
        · cases hshut.symm.trans (hphase.mpr hp)
        · exact absurd (hread _ _ rfl) hlost
      | created =>
        rw [h.created hp] at hprogress
        cases hprogress
    have hgivenUp : x.standing.givenUp.IsOrderly phase none := by
      refine ⟨by simp [givenUp, RecoveryState.isInProgress], by simp [givenUp], fun _ => ⟨_, _, rfl⟩,
        ?_, fun _ => hclosed, by simp, by simp⟩
      intro hcreated
      cases hclosed.symm.trans hcreated
    exact hgivenUp.keptIf _

-- To open or close a manager keeps this.
theorem IsOrderly.of_phase (h : s.IsOrderly phase rest)
    (hphase : phase' = phase ∨ phase = .created ∧ phase' = .opened ∨ phase' = .closed) :
    s.IsOrderly phase' rest := by
  refine ⟨h.inProgress, h.reached, h.current, fun hcreated => ?_, fun herror => ?_, h.asked,
    h.checked⟩
  · rcases hphase with rfl | ⟨-, rfl⟩ | rfl
    · exact h.created hcreated
    · exact absurd hcreated nofun
    · exact absurd hcreated nofun
  · have hclosed := h.error herror
    rcases hphase with rfl | ⟨rfl, -⟩ | rfl
    · exact hclosed
    · exact absurd hclosed nofun
    · rfl

end Standing

theorem Finished.ended {sc : Scene} {x y : Tracked} {ids ids' : RequestIds} {rest : Rest}
    {c : Option Claim} (h : Finished sc x ids rest c y ids') :
    Ended sc x ids rest c y.standing ids' := by
  have hkept (alive : Option Stamp) : Ended sc x ids rest none (x.keptIf alive).standing ids' :=
    x.standing_keptIf alive ▸ .kept
  cases h with
  | done => exact hkept none
  | keepAlive stamp => exact hkept (some stamp)
  | eventDone => exact hkept none
  | attended => exact hkept (some _)
  | claim hclaim =>
    cases hclaim with
    | shut => exact hkept _
    | lost => exact hkept none
    | made hopen =>
      rw [Tracked.standing_keptIf, Tracked.standing_claimed]
      exact .claimed hopen (.inl ⟨_, rfl⟩)
  | missing hmissing hclaim =>
    cases hclaim with
    | shut => exact hkept (some _)
    | lost => exact hkept none
    | made hopen =>
      rw [Tracked.standing_keptIf, Tracked.standing_claimed]
      exact .claimed hopen (.inr ⟨⟨_, _, rfl⟩, .inl hmissing⟩)
  | stuck hstuck hclaim =>
    cases hclaim with
    | shut hopen =>
      rw [Tracked.standing_keptIf]
      exact .givenUp hstuck (.inl hopen)
    | lost _ hread =>
      change Ended sc x ids _ none (x.standing.givenUp.keptIf none) _
      exact .givenUp hstuck (.inr hread)
    | made hopen =>
      rw [Tracked.standing_keptIf]
      exact .claimed hopen (.inr ⟨⟨_, _, rfl⟩, .inr hstuck⟩)

-- The rest of a visit tells nothing.
theorem Ended.toldReason {sc : Scene} {x : Tracked} {ids ids' : RequestIds} {rest : Rest}
    {c : Option Claim} {s : Standing} (h : Ended sc x ids rest c s ids') :
    s.toldReason = x.tracker.toldReason := by
  cases h with
  | @kept _ alive => cases alive <;> rfl
  | @claimed _ alive => cases alive <;> rfl
  | @givenUp _ _ alive => cases alive <;> rfl

-- Only a subscribed system alive looks whether a recovery is missing or has run too long.
theorem Visited.of_ensureRecovery {sc : Scene} {x y : Tracked} {v : Visit} {pause : Pause}
    (h : Visited sc x v pause y) {anchor : Instant} {stamp : Stamp}
    (hrest : pause.rest = .ensureRecovery anchor stamp) :
    v = .alive stamp true .systemAliveOnly ∧ x.IsReadable ∧
      Visit.isRecovering x.tracker.state = true := by
  cases h with
  | subscribed _ _ hanchor _ hstate =>
    obtain ⟨-, rfl⟩ := Rest.ensureRecovery.inj hrest
    exact ⟨rfl, Tracked.isReadable_of_recoveryAnchor hanchor, hstate⟩
  | _ => exact absurd hrest nofun

theorem World.phase_step {w w' : World} {a : Act} (h : w.step a = some w') :
    w'.manager.phase = w.manager.phase ∨
      w.manager.phase = .created ∧ w'.manager.phase = .opened ∨ w'.manager.phase = .closed := by
  obtain ⟨-, hsame | ⟨-, hopened⟩ | ⟨-, hclosed⟩⟩ := step_setting h
  · exact .inl hsame
  · exact .inr (.inl hopened)
  · exact .inr (.inr hclosed)

namespace Run

variable {w₀ w w' : World} {past : List Step} {a : Act} {id : ProducerId}

-- A visit that ends with a look at the recovery is that of a producer that can be read.
theorem isReadable_of_ensureRecovery (h : Run w₀ past w) (hstart : w₀.IsFresh) {pause : Pause}
    (hheld : w.held[id]? = some pause) {anchor : Instant} {stamp : Stamp}
    (hrest : pause.rest = .ensureRecovery anchor stamp) : (w.tracked id).IsReadable := by
  obtain ⟨begun, s, v, earlier, hvisit, hsame, -⟩ := h.isHeldBy hstart.isValid hstart.held hheld
  obtain ⟨-, hread, -⟩ := hvisit.visited.of_ensureRecovery (hsame.trans hrest)
  exact hvisit.isReadable h hstart.isValid hread

theorem isOrderly (h : Run w₀ past w) (hstart : w₀.IsFresh) (id : ProducerId) :
    (w.tracked id).standing.IsOrderly w.manager.phase (w.held[id]?.map Pause.rest) := by
  induction h with
  | start =>
    rw [hstart.standing, hstart.phase, hstart.held]
    simpa using Standing.isOrderly_fresh
  | @step past w w' a hrun hstep ih =>
    refine Standing.IsOrderly.of_phase ?_ (World.phase_step hstep)
    cases hrun.moved hstart.isValid hstep id with
    | visited hfree hheld hvisit =>
      rw [hfree] at ih
      rw [hheld]
      exact ih.turned hvisit.turned fun _ _ hrest => (hvisit.of_ensureRecovery hrest).2.2
    | settled hheld hfree _ hfinish =>
      rw [hheld] at ih
      rw [hfree]
      refine ih.ended hfinish.ended World.isOpen_iff fun _ _ hrest => ?_
      exact hrun.isReadable_of_ensureRecovery hstart hheld hrest
    | touched _ _ hkept htouched =>
      rw [hkept, htouched.standing]
      exact ih

theorem advances_visited (h : Run w₀ past w) (hstart : w₀.IsFresh) {v : Visit} {pause : Pause}
    (ht : Turned w.scene (w.tracked id) v pause (w'.tracked id).standing) :
    Step.Advances id past ⟨w, .visit id v, w'⟩ := by
  have horderly := h.isOrderly hstart id
  generalize hs : (w'.tracked id).standing = s' at ht
  have hafter : (w'.tracked id).progress = s'.progress := by
    rw [← Standing.progress_standing, hs]
  have hbefore : (w.tracked id).progress = (w.tracked id).standing.progress :=
    (Standing.progress_standing _).symm
  have hstays (hsame : s'.progress = (w.tracked id).standing.progress) :
      Step.Advances id past ⟨w, .visit id v, w'⟩ := .stays (hafter.trans (hsame.trans hbefore.symm))
  cases ht with
  | quiet => exact hstays rfl
  | asking => exact hstays rfl
  | checking => exact hstays rfl
  | returned => exact hstays rfl
  | delayed =>
    refine hstays (Prod.ext (if_neg ?_) rfl)
    exact fun hstarted => hstarted.2 rfl
  | cutOff hup =>
    refine hstays (Prod.ext (if_neg ?_) rfl)
    rintro ⟨hstarted, -⟩
    have hdown : (w.tracked id).isDown = true := horderly.inProgress (by rw [hstarted]; rfl)
    exact absurd (hup.symm.trans hdown) nofun
  | silent hsilent =>
    by_cases hstarted : (w.tracked id).standing.state = .started
    · obtain ⟨request, startedAt, hcurrent⟩ := horderly.current (by rw [hstarted]; exact nofun)
      have hrequest : (w.tracked id).standing.current.map Prod.fst = some request := by
        rw [hcurrent]
        rfl
      refine .interrupts rfl hsilent (hbefore.trans (Prod.ext hstarted hrequest)) ?_
      exact hafter.trans (Prod.ext (if_pos ⟨hstarted, nofun⟩) hrequest)
    · exact hstays (Prod.ext (if_neg fun h => hstarted h.1) rfl)
  | completed hcurrent hstate =>
    have hrequest : (w.tracked id).standing.current.map Prod.fst = some _ :=
      Tracked.currentRequest_eq.symm.trans hcurrent
    refine .completes rfl (Prod.ext hstate hcurrent) ?_
    exact hafter.trans (Prod.ext rfl hrequest)

-- Recoveries are requested in an open manager, and the last one was not given up then.
theorem advances_settled (h : Run w₀ past w) (hstart : w₀.IsFresh) (hodd : w₀.DrawsOdd)
    {pause : Pause} {c : Option Claim} (hheld : w.held[id]? = some pause)
    (hs : Ended w.scene (w.tracked id) w.manager.ids pause.rest c (w'.tracked id).standing
      w'.manager.ids) : Step.Advances id past ⟨w, .settle id, w'⟩ := by
  have horderly := h.isOrderly hstart id
  generalize hstanding : (w'.tracked id).standing = s' at hs
  generalize hids : w'.manager.ids = ids' at hs
  have hafter : (w'.tracked id).progress = s'.progress := by
    rw [← Standing.progress_standing, hstanding]
  generalize hrest : pause.rest = rest at hs
  cases hs with
  | kept =>
    refine .stays (hafter.trans ?_)
    rw [Standing.progress_keptIf, Standing.progress_standing]
  | claimed hopen =>
    have hstate : (w.tracked id).tracker.state ∈
        [RecoveryState.default, .completed, .interrupted, .started] := by
      cases hs : (w.tracked id).tracker.state with
      | notStarted => exact absurd hs horderly.reached
      | error =>
        have hopened := World.isOpen_iff.mp hopen
        cases hopened.symm.trans (horderly.error hs)
      | _ => decide
    refine .starts hstate hopen (h.draw?_of_settle hstart.isValid hodd hids) ?_
    rw [hafter, Standing.progress_keptIf]
    rfl
  | @givenUp anchor stamp _ _ hstuck hshut =>
    obtain ⟨begun, s, v, earlier, hvisit, hsame, -⟩ := h.isHeldBy hstart.isValid hstart.held hheld
    obtain ⟨rfl, -, -⟩ := hvisit.visited.of_ensureRecovery (hsame.trans hrest)
    have hopen : w.isOpen = false := by
      obtain hshut | hlost := hshut
      · exact hshut
      · exact absurd (h.isReadable_of_ensureRecovery hstart hheld hrest) hlost
    have hstarted : (w.tracked id).standing.state = .started := by
      simp only [Scene.isStuck, Bool.and_eq_true] at hstuck
      obtain hs | hs := RecoveryState.isInProgress_iff.mp hstuck.1
      · exact hs
      · have hrecovering := horderly.checked anchor stamp (by rw [hheld, Option.map_some, hrest])
        rw [Tracked.standing_state, hs] at hrecovering
        cases hrecovering
    obtain ⟨request, startedAt, hcurrent⟩ := horderly.current (by rw [hstarted]; decide)
    have hbefore : (w.tracked id).progress = (.started, some request) := by
      rw [← Standing.progress_standing]
      exact Prod.ext hstarted (by rw [Standing.progress, hcurrent]; rfl)
    refine .fails rfl hvisit.visiting hvisit.act hopen hbefore ?_
    rw [Standing.progress_keptIf] at hafter
    exact congrArg Prod.fst hafter

theorem advances (h : Run w₀ past w) (hstart : w₀.IsFresh) (hodd : w₀.DrawsOdd)
    (hstep : w.step a = some w') (id : ProducerId) : Step.Advances id past ⟨w, a, w'⟩ := by
  cases h.moved hstart.isValid hstep id with
  | visited _ _ hvisit => exact h.advances_visited hstart hvisit.turned
  | settled hheld _ _ hfinish => exact h.advances_settled hstart hodd hheld hfinish.ended
  | touched _ _ _ htouched =>
    refine .stays ?_
    dsimp only
    rw [← Standing.progress_standing, ← Standing.progress_standing, htouched.standing]

-- A recovery that is under way was so before, or its request is drawn by this step.
theorem isInProgress_of_step (h : Run w₀ past w) (hstart : w₀.IsFresh) (hodd : w₀.DrawsOdd)
    (hstep : w.step a = some w') {request : RequestId}
    (hprogress : (w'.tracked id).tracker.state.isInProgress = true)
    (hcurrent : (w'.tracked id).tracker.currentRequest = some request) :
    (w.tracked id).tracker.state.isInProgress = true ∧
        (w.tracked id).tracker.currentRequest = some request ∨
      (Step.mk w a w').draw? = some ⟨request, id, .recovery⟩ := by
  have hidle {state : RecoveryState} (hstate : (w'.tracked id).tracker.state = state) :
      state.isInProgress = true := hstate ▸ hprogress
  cases h.advances hstart hodd hstep id with
  | stays hsame =>
    have hstate : (w'.tracked id).tracker.state = (w.tracked id).tracker.state :=
      congrArg Prod.fst hsame
    have hrequest : (w'.tracked id).tracker.currentRequest =
        (w.tracked id).tracker.currentRequest := congrArg Prod.snd hsame
    exact .inl ⟨hidle hstate, hrequest.symm.trans hcurrent⟩
  | starts _ _ hdraw hstarted =>
    obtain rfl := Option.some.inj (hcurrent.symm.trans (congrArg Prod.snd hstarted))
    exact .inr hdraw
  | interrupts _ _ hbefore hinterrupted =>
    have hstate : (w.tracked id).tracker.state = .started := congrArg Prod.fst hbefore
    have hstarted : (w.tracked id).tracker.currentRequest = some _ := congrArg Prod.snd hbefore
    have hrequest := hcurrent.symm.trans (congrArg Prod.snd hinterrupted)
    exact .inl ⟨by rw [hstate]; rfl, hstarted.trans hrequest.symm⟩
  | completes _ _ hcompleted => exact absurd (hidle (congrArg Prod.fst hcompleted)) nofun
  | fails _ _ _ _ _ hfailed => exact absurd (hidle hfailed) nofun

theorem mem_draws_of_isInProgress (h : Run w₀ past w) (hstart : w₀.IsFresh) (hodd : w₀.DrawsOdd)
    {request : RequestId} (hprogress : (w.tracked id).tracker.state.isInProgress = true)
    (hcurrent : (w.tracked id).tracker.currentRequest = some request) :
    ⟨request, id, .recovery⟩ ∈ draws past := by
  let underWay (w : World) : Prop := (w.tracked id).tracker.state.isInProgress = true ∧
    (w.tracked id).tracker.currentRequest = some request
  have hnot : ¬underWay w₀ := by
    rintro ⟨hstarted, -⟩
    have hfresh : (w₀.tracked id).tracker.state = .default :=
      congrArg Standing.state (hstart.standing id)
    rw [hfresh] at hstarted
    exact absurd hstarted nofun
  refine h.mem_draws_of (P := underWay) hnot ?_ ⟨hprogress, hcurrent⟩
  intro past w a w' hrun hstep hnow
  exact hrun.isInProgress_of_step hstart hodd hstep hnow.1 hnow.2

-- An interrupted recovery stays interrupted until another one takes its place, or until
-- recoveries are over for good.
theorem not_resumed (h : Run w₀ past w) (hstart : w₀.IsFresh) (hodd : w₀.DrawsOdd)
    (hfew : (draws past).length < 2 ^ 32) {request : RequestId}
    (hinterrupted : WasInterrupted id request past) :
    ⟨request, id, .recovery⟩ ∈ draws past ∧
      ((w.tracked id).tracker.currentRequest = some request →
        (w.tracked id).tracker.state = .interrupted ∨ (w.tracked id).tracker.state = .error) := by
  induction h with
  | start =>
    obtain ⟨s, hs, -⟩ := hinterrupted
    exact absurd hs List.not_mem_nil
  | @step past w w' a hrun hstep ih =>
    obtain ⟨s, hs, hprogress⟩ := hinterrupted
    obtain rfl | hs := List.mem_cons.mp hs
    · obtain ⟨hstate, hcurrent⟩ := Prod.ext_iff.mp hprogress
      dsimp only [Tracked.progress] at hstate hcurrent
      refine ⟨?_, fun _ => .inl hstate⟩
      exact (hrun.step hstep).mem_draws_of_isInProgress hstart hodd (by rw [hstate]; rfl) hcurrent
    · have hlength := length_draws_le_cons ⟨w, a, w'⟩ past
      obtain ⟨hdrawn, hkept⟩ := ih (by omega) ⟨s, hs, hprogress⟩
      refine ⟨mem_draws_cons.mpr (.inr hdrawn), fun hcurrent => ?_⟩
      cases hrun.advances hstart hodd hstep id with
      | stays hsame =>
        have hstate : (w'.tracked id).tracker.state = (w.tracked id).tracker.state :=
          congrArg Prod.fst hsame
        have hrequest : (w'.tracked id).tracker.currentRequest =
            (w.tracked id).tracker.currentRequest := congrArg Prod.snd hsame
        rw [hstate]
        exact hkept (hrequest.symm.trans hcurrent)
      | starts _ _ hdraw hstarted =>
        obtain ⟨-, hrequest⟩ := Prod.ext_iff.mp hstarted
        obtain rfl := Option.some.inj (hcurrent.symm.trans hrequest)
        have hnew := hrun.not_drawn_before hstart.isValid hodd hstep hfew hdraw
        exact absurd (List.mem_map_of_mem hdrawn) hnew
      | completes _ hbefore hcompleted =>
        obtain ⟨-, hrequest⟩ := Prod.ext_iff.mp hcompleted
        obtain rfl := Option.some.inj (hcurrent.symm.trans hrequest)
        obtain ⟨hstarted, hcurrent⟩ := Prod.ext_iff.mp hbefore
        obtain hs | hs := hkept hcurrent
        · exact absurd (hs.symm.trans hstarted) nofun
        · exact absurd (hs.symm.trans hstarted) nofun
      | interrupts _ _ _ hafter => exact .inl (congrArg Prod.fst hafter)
      | fails _ _ _ _ _ hafter => exact .inr hafter

-- The end of a replay raises a producer only if it is that of its current recovery, and
-- that one is started.
theorem isDown_of_replayEnded (h : Run w₀ past w) (hvalid : w₀.IsValid) {request : RequestId}
    {interest : Interest} (hstep : w.step (.visit id (.replayEnded request interest)) = some w')
    (hkept : (w.tracked id).tracker.currentRequest = some request →
      (w.tracked id).tracker.state ≠ .started) :
    (w'.tracked id).isDown = (w.tracked id).isDown := by
  cases h.moved hvalid hstep id with
  | touched hvisit => exact absurd rfl (hvisit _)
  | visited _ _ hvisit =>
    have hturned := hvisit.turned
    generalize hs : (w'.tracked id).standing = s at hturned
    cases hturned with
    | completed hcurrent hstate => exact absurd hstate (hkept hcurrent)
    | _ => exact congrArg Standing.isDown hs

-- A recovery is requested while the manager is open, and then completes, is interrupted or
-- fails. One that was interrupted never completes and never brings its producer up.
theorem recovery_advances (h : Run w₀ past w) (hstart : w₀.IsFresh) (hodd : w₀.DrawsOdd)
    (hfew : (draws past).length < 2 ^ 32) (hstep : w.step a = some w') (id : ProducerId) :
    Step.Advances id past ⟨w, a, w'⟩ ∧ (w'.tracked id).tracker.state ≠ .notStarted ∧
      ((w.tracked id).tracker.state = .error → (w'.tracked id).tracker.state = .error) ∧
      ∀ request, WasInterrupted id request past →
        (w'.tracked id).progress ≠ (.completed, some request) ∧
        ∀ interest, a = .visit id (.replayEnded request interest) →
          (w'.tracked id).isDown = (w.tracked id).isDown := by
  have hadvances := h.advances hstart hodd hstep id
  have horderly := (h.step hstep).isOrderly hstart id
  refine ⟨hadvances, horderly.reached, fun herror => ?_, fun request hinterrupted => ?_⟩
  · cases hadvances with
    | stays hsame => exact (congrArg Prod.fst hsame).trans herror
    | starts hfrom =>
      dsimp only at hfrom
      rw [herror] at hfrom
      exact absurd hfrom (by decide)
    | completes _ hbefore => exact absurd (herror.symm.trans (congrArg Prod.fst hbefore)) nofun
    | interrupts _ _ hbefore => exact absurd (herror.symm.trans (congrArg Prod.fst hbefore)) nofun
    | fails _ _ _ _ _ hafter => exact hafter
  · obtain ⟨-, hkept⟩ := h.not_resumed hstart hodd hfew hinterrupted
    have hnot (hcurrent : (w.tracked id).tracker.currentRequest = some request) :
        (w.tracked id).tracker.state ≠ .started ∧ (w.tracked id).tracker.state ≠ .completed := by
      obtain hs | hs := hkept hcurrent
      · rw [hs]
        exact ⟨nofun, nofun⟩
      · rw [hs]
        exact ⟨nofun, nofun⟩
    constructor
    · intro hcompleted
      have hstate : (w'.tracked id).tracker.state = .completed := congrArg Prod.fst hcompleted
      cases hadvances with
      | stays hsame =>
        have hbefore : (w.tracked id).progress = (.completed, some request) :=
          hsame.symm.trans hcompleted
        exact (hnot (congrArg Prod.snd hbefore)).2 (congrArg Prod.fst hbefore)
      | starts _ _ _ hafter => exact absurd (hstate.symm.trans (congrArg Prod.fst hafter)) nofun
      | completes _ hbefore hafter =>
        have hrequest := (Prod.mk.inj (hafter.symm.trans hcompleted)).2
        rw [hrequest] at hbefore
        exact (hnot (congrArg Prod.snd hbefore)).1 (congrArg Prod.fst hbefore)
      | interrupts _ _ _ hafter =>
        exact absurd (hstate.symm.trans (congrArg Prod.fst hafter)) nofun
      | fails _ _ _ _ _ hafter => exact absurd (hstate.symm.trans hafter) nofun
    · rintro interest rfl
      exact h.isDown_of_replayEnded hstart.isValid hstep fun hcurrent => (hnot hcurrent).1

-- A recovery is interrupted, and then its replay ends.
def interruptedActs : List Act :=
  [.start, .visit ⟨1⟩ (.alive (.uniform 600000) false .systemAliveOnly), .settle ⟨1⟩,
    .moveClock (.set 700000), .visit ⟨1⟩ .healthCheck, .settle ⟨1⟩,
    .visit ⟨1⟩ (.replayEnded ⟨1⟩ .all)]

theorem interrupted_is_replaced : ∃ past w w', Run World.ofLiveOdds past w ∧
    WasInterrupted ⟨1⟩ ⟨1⟩ past ∧ w.step (.settle ⟨1⟩) = some w' ∧
    Step.Advances ⟨1⟩ past ⟨w, .settle ⟨1⟩, w'⟩ ∧
    (w'.tracked ⟨1⟩).progress = (.started, some ⟨2⟩) ∧
    (w'.tracked ⟨1⟩).progress ≠ (.completed, some ⟨1⟩) := by
  have hrun : Run World.ofLiveOdds _ _ := Run.start.play interruptedActs
  have hinterrupted : WasInterrupted ⟨1⟩ ⟨1⟩ (World.ofLiveOdds.play [] interruptedActs).1 := by
    unfold WasInterrupted
    decide +kernel
  have hstep : (World.ofLiveOdds.play [] interruptedActs).2.step (.settle ⟨1⟩) = some _ := rfl
  obtain ⟨hadvances, -, -, hreplaced⟩ := hrun.recovery_advances World.isFresh_ofLiveOdds rfl
    (by decide +kernel) hstep ⟨1⟩
  exact ⟨_, _, _, hrun, hinterrupted, hstep, hadvances, rfl, (hreplaced ⟨1⟩ hinterrupted).1⟩

end Run

end FeedWatch
