import FeedWatch.Proofs.Draws

namespace FeedWatch

-- The acts in which the manager asks something of the directory.
def Act.AsksDirectory : Act → Bool
  | .start | .visit .. | .settle _ | .recoveryPosted .. | .enterEvent _ | .eventPosted .. => true
  | .close | .sendLate _ | .requestEvent .. | .setEnabled .. | .setRecoveryFrom .. | .moveClock _
  | .read _ | .abandon => false

namespace World

def momentUnder (w : World) (outage : Outage) : Moment := { now := w.now, outage }

-- How an opening would end.
def opening (w : World) (outage : Outage) : Except RecoveryError Service :=
  w.service.start (w.momentUnder outage)

-- What an opening hears of the active producers.
def activeUnder (w : World) (outage : Outage) :
    Except DirectoryError (List (ProducerId × Producer)) :=
  outage.guard .active ⟨0⟩ w.manager.directory.active

-- An act while some calls of the directory fail.
def stepUnder (w : World) (outage : Outage) : Act → Option World
  | .start =>
    match w.opening outage with
    | .ok service => some { w with service }
    | .error _ => some w
  | .visit id v =>
    if id ∈ w.held ∨ v = .healthCheck ∧ id ∉ w.manager.trackers then none
    else
      let (pause, manager) := w.manager.visit (w.momentUnder outage) id v
      some { w.withManager manager with held := w.held.insert id pause }
  | .settle id => do
    let pause ← w.held[id]?
    let (service, claimed) ← w.service.settle? (w.momentUnder outage) id pause
    return { w with service, held := w.held.erase id, claims := w.claims ++ claimed.toList }
  | .recoveryPosted c answer =>
    if c ∈ w.claims then
      some { w.withManager (w.manager.recoveryPosted (w.momentUnder outage) c answer) with
        claims := w.claims.erase c }
    else none
  | .enterEvent call =>
    if call ∉ w.eventCalls ∨ call.producer ∈ w.held then none
    else
      let (request, manager) := w.manager.enterEvent (w.momentUnder outage) call
      some { w.withManager manager with
        eventCalls := w.eventCalls.erase call
        eventRequests := w.eventRequests ++ request.toOption.toList }
  | .eventPosted r answer =>
    if r ∉ w.eventRequests ∨ r.producer ∈ w.held ∧ answer.isOk = false then none
    else
      some { w.withManager (w.manager.eventPosted (w.momentUnder outage) r answer).2 with
        eventRequests := w.eventRequests.erase r }
  | a => w.step a

theorem stepUnder_none (w : World) : w.stepUnder Outage.none = w.step := by
  funext a
  cases a <;> rfl

end World

-- What happened from a first world on, whatever calls of the directory failed in each act.
inductive RunUnder (w₀ : World) : List Step → World → Prop where
  | start : RunUnder w₀ [] w₀
  | step {past : List Step} {w w' : World} {a : Act} (hrun : RunUnder w₀ past w)
      (outage : Outage) (hstep : w.stepUnder outage a = some w') :
      RunUnder w₀ (⟨w, a, w'⟩ :: past) w'

-- A stretch in which all calls are answered.
theorem RunUnder.append {w₀ w w' : World} {past past' : List Step} (h : RunUnder w₀ past w)
    (h' : Run w past' w') : RunUnder w₀ (past' ++ past) w' := by
  induction h' with
  | start => exact h
  | @step _ v _ _ _ hstep ih => exact ih.step Outage.none (v.stepUnder_none ▸ hstep)

-- What a world can come to by such an act.
inductive SteppedUnder (w : World) (outage : Outage) : Act → World → Prop where
  | started {service : Service} (hstart : w.opening outage = .ok service) :
      SteppedUnder w outage .start { w with service }
  | notStarted {e : RecoveryError} (hfail : w.opening outage = .error e) :
      SteppedUnder w outage .start w
  | visited {id : ProducerId} {v : Visit} :
      SteppedUnder w outage (.visit id v)
        { w.withManager (w.manager.visit (w.momentUnder outage) id v).2 with
          held := w.held.insert id (w.manager.visit (w.momentUnder outage) id v).1 }
  | settled {id : ProducerId} {pause : Pause} {service : Service} {claimed : Option Claim}
      (hheld : w.held[id]? = some pause)
      (hsettle : w.service.settle? (w.momentUnder outage) id pause = some (service, claimed)) :
      SteppedUnder w outage (.settle id)
        { w with service, held := w.held.erase id, claims := w.claims ++ claimed.toList }
  | recoveryPosted {c : Claim} {answer : Except TransportError Unit} :
      SteppedUnder w outage (.recoveryPosted c answer)
        { w.withManager (w.manager.recoveryPosted (w.momentUnder outage) c answer) with
          claims := w.claims.erase c }
  | eventEntered {call : EventCall} :
      SteppedUnder w outage (.enterEvent call)
        { w.withManager (w.manager.enterEvent (w.momentUnder outage) call).2 with
          eventCalls := w.eventCalls.erase call
          eventRequests := w.eventRequests ++
            (w.manager.enterEvent (w.momentUnder outage) call).1.toOption.toList }
  | eventPosted {r : EventRequest} {answer : Except TransportError Unit} :
      SteppedUnder w outage (.eventPosted r answer)
        { w.withManager (w.manager.eventPosted (w.momentUnder outage) r answer).2 with
          eventRequests := w.eventRequests.erase r }
  | aside {a : Act} {w' : World} (ha : a.AsksDirectory = false) (hstep : Stepped w a w') :
      SteppedUnder w outage a w'

theorem World.steppedUnder {w w' : World} {outage : Outage} {a : Act}
    (h : w.stepUnder outage a = some w') : SteppedUnder w outage a w' := by
  cases a with
  | start =>
    simp only [stepUnder] at h
    split at h <;> rename_i hstart <;> obtain rfl := Option.some.inj h
    · exact .started hstart
    · exact .notStarted hstart
  | visit id v =>
    simp only [stepUnder] at h
    split at h
    · exact absurd h nofun
    · obtain rfl := Option.some.inj h
      exact .visited
  | settle id =>
    simp only [stepUnder, Option.bind_eq_bind, Option.bind_eq_some_iff, Prod.exists] at h
    obtain ⟨pause, hheld, service, claimed, hsettle, hw⟩ := h
    obtain rfl := Option.some.inj hw
    exact .settled hheld hsettle
  | recoveryPosted c answer =>
    simp only [stepUnder] at h
    split at h
    · obtain rfl := Option.some.inj h
      exact .recoveryPosted
    · exact absurd h nofun
  | enterEvent call =>
    simp only [stepUnder] at h
    split at h
    · exact absurd h nofun
    · obtain rfl := Option.some.inj h
      exact .eventEntered
  | eventPosted r answer =>
    simp only [stepUnder] at h
    split at h
    · exact absurd h nofun
    · obtain rfl := Option.some.inj h
      exact .eventPosted
  | close => exact .aside rfl (stepped h)
  | sendLate => exact .aside rfl (stepped h)
  | requestEvent => exact .aside rfl (stepped h)
  | setEnabled => exact .aside rfl (stepped h)
  | setRecoveryFrom => exact .aside rfl (stepped h)
  | moveClock => exact .aside rfl (stepped h)
  | read => exact .aside rfl (stepped h)
  | abandon => exact .aside rfl (stepped h)

namespace Service

variable {s : Service}

theorem settle?_of_shut (hshut : s.manager.isOpen = false) (t : Moment) (id : ProducerId)
    (pause : Pause) :
    ∃ manager, s.settle? t id pause = some ({ s with manager }, none) ∧
      s.manager.Unclaimed manager := by
  obtain ⟨hclaim, hunclaimed⟩ : (s.manager.finish t id pause.rest).1 = none ∧
      s.manager.Unclaimed (s.manager.finish t id pause.rest).2 :=
    Manager.finish_of_shut hshut pause.rest
  refine ⟨(s.manager.finish t id pause.rest).2, ?_, hunclaimed⟩
  simp only [settle?, announce?_of_shut hshut, Option.bind_eq_bind, Option.bind_some, ← hclaim]
  rfl

-- While the manager is not open a call does all its errands. It waits for nothing.
theorem run_of_shut (hshut : s.manager.isOpen = false) (t : Moment) (errands : List Errand) :
    ∃ manager, s.run t errands = ({ s with manager }, .finished) ∧
      s.manager.Unclaimed manager := by
  induction errands generalizing s with
  | nil => exact ⟨s.manager, rfl, .refl s.manager⟩
  | cons e later ih =>
    let visited := s.manager.visit t e.producer e.visit
    have hvisit : s.manager.Unclaimed visited.2 := Manager.visit_unclaimed _
    have hshut' : visited.2.isOpen = false := (Manager.isOpen_congr hvisit.phase).trans hshut
    obtain ⟨m, hsettle, hfinish⟩ :=
      settle?_of_shut (s := { s with manager := visited.2 }) hshut' t e.producer visited.1
    obtain ⟨manager, hrun, hlater⟩ :=
      ih (s := { s with manager := m }) ((Manager.isOpen_congr hfinish.phase).trans hshut')
    refine ⟨manager, ?_, (hvisit.trans hfinish).trans hlater⟩
    simp only [run, hsettle, hrun, visited]

-- So does a call that is taken up.
theorem resume_of_shut (hshut : s.manager.isOpen = false) (t : Moment) (id : ProducerId)
    (pause : Pause) (later : List Errand) :
    ∃ manager, s.resume t id pause later = ({ s with manager }, .finished) ∧
      s.manager.Unclaimed manager := by
  obtain ⟨m, hsettle, hfinish⟩ := settle?_of_shut hshut t id pause
  obtain ⟨manager, hrun, hlater⟩ := run_of_shut (s := { s with manager := m })
    ((Manager.isOpen_congr hfinish.phase).trans hshut) t later
  refine ⟨manager, ?_, hfinish.trans hlater⟩
  simp only [resume, hsettle, hrun]

end Service

-- The opening of a manager, with success.
def Step.Opens (s : Step) : Prop :=
  s.act = .start ∧ s.before.isOpen = false ∧ s.after.isOpen = true

-- No recovery is claimed or started, no id is drawn for one, and nothing comes into the stream
-- but what is late.
structure Step.IsIdle (s : Step) : Prop where
  claims : s.after.claims.Sublist s.before.claims
  started : ∀ id, (s.after.tracked id).tracker.state = .started →
    (s.before.tracked id).tracker.state = .started
  ids : s.after.manager.ids = s.before.manager.ids ∨
    (∃ kind id event, s.act = .requestEvent kind id event) ∧
      s.after.manager.ids = s.before.manager.ids.next.2
  queue : s.after.queue <:+ s.before.queue ∨
    ∃ id, s.act = .sendLate id ∧ s.after.queue = s.before.queue ++ s.before.awaited id
  visits : ∀ id v, s.act = .visit id v → s.after.awaited id = []

namespace World

variable {w w' : World} {outage : Outage} {a : Act} {id : ProducerId}

-- What an act does to the phase.
theorem stepUnder_phase (h : w.stepUnder outage a = some w') :
    a = .close ∧ w'.manager.phase = .closed ∨
      a = .start ∧ w.manager.phase = .created ∧ w'.manager.phase = .opened ∨
      a ≠ .close ∧ w'.manager.phase = w.manager.phase := by
  by_cases hclose : a = .close
  · subst hclose
    obtain rfl := Option.some.inj h
    exact .inl ⟨rfl, rfl⟩
  refine .inr ?_
  cases steppedUnder h with
  | started hstart =>
    obtain ⟨hcreated, hopened, -⟩ := Manager.start_manager (Service.start_manager hstart)
    exact .inl ⟨rfl, hcreated, hopened⟩
  | notStarted => exact .inr ⟨hclose, rfl⟩
  | @visited id v => exact .inr ⟨hclose, (Manager.visit_setting v).2⟩
  | @settled id pause service claimed hheld hsettle =>
    refine .inr ⟨hclose, ?_⟩
    simp only [Service.settle?, Option.bind_eq_bind, Option.bind_eq_some_iff] at hsettle
    obtain ⟨announced, hannounce, hfinish⟩ := hsettle
    obtain ⟨rfl, -⟩ := Prod.mk.inj (Option.some.inj hfinish)
    exact (Manager.finish_setting pause.rest).2.trans
      (congrArg Manager.phase (Service.announce?_manager hannounce))
  | @recoveryPosted c answer => exact .inr ⟨hclose, (Manager.recoveryPosted_setting c answer).2⟩
  | @eventEntered call => exact .inr ⟨hclose, (Manager.enterEvent_setting call).2⟩
  | @eventPosted r answer => exact .inr ⟨hclose, (Manager.eventPosted_setting r answer).2⟩
  | aside ha hstep =>
    cases hstep with
    | closed => exact absurd rfl hclose
    | sentLate => exact .inr ⟨hclose, rfl⟩
    | eventCalled => exact .inr ⟨hclose, rfl⟩
    | enabled => exact .inr ⟨hclose, rfl⟩
    | anchored => exact .inr ⟨hclose, rfl⟩
    | clockMoved => exact .inr ⟨hclose, rfl⟩
    | read => exact .inr ⟨hclose, rfl⟩
    | abandoned => exact .inr ⟨hclose, rfl⟩
    | unread => exact .inr ⟨hclose, rfl⟩
    | notAbandoned => exact .inr ⟨hclose, rfl⟩
    | _ => cases ha

-- Most acts leave the stream to the user, and draw nothing.
theorem isIdle_of_touched (hclaims : w'.claims.Sublist w.claims)
    (htouched : ∀ id, (w.tracked id).Touched (w'.tracked id))
    (hids : w'.manager.ids = w.manager.ids) (hqueue : w'.queue <:+ w.queue)
    (hvisit : ∀ id v, a ≠ .visit id v) : (Step.mk w a w').IsIdle := by
  refine ⟨hclaims, fun id hstarted => ?_, .inl hids, .inl hqueue,
    fun id v ha => absurd ha (hvisit id v)⟩
  exact (congrArg Standing.state (htouched id).standing).symm.trans hstarted

theorem isIdle_of_aside (ha : a.AsksDirectory = false) (h : Stepped w a w') :
    (Step.mk w a w').IsIdle := by
  have hsame {w' : World} (hclaims : w'.claims = w.claims) (hmanager : w'.manager = w.manager)
      (hqueue : w'.queue <:+ w.queue) (hvisit : ∀ id v, a ≠ .visit id v) :
      (Step.mk w a w').IsIdle :=
    isIdle_of_touched (hclaims ▸ List.Sublist.refl _)
      (fun id => .of_eq (congrArg (·.tracked id) hmanager))
      (congrArg Manager.ids hmanager) hqueue hvisit
  cases h with
  | @sentLate id pause n stream stream' hheld hn hstream _ hpush =>
    obtain rfl := Stream.push?_eq hpush
    refine ⟨List.Sublist.refl _, fun _ hstarted => hstarted, .inl rfl, ?_, nofun⟩
    rw [queue_of_stream hstream, queue_of_stream rfl]
    cases hreads : stream.hasReader with
    | false =>
      refine .inl ?_
      simp
    | true =>
      refine .inr ⟨id, rfl, ?_⟩
      rw [awaited_of_held hheld, hn]
      rfl
  | @eventCalled kind id event =>
    refine ⟨List.Sublist.refl _, fun j hstarted => ?_, .inr ⟨⟨kind, id, event, rfl⟩, rfl⟩,
      .inl (List.suffix_refl _), nofun⟩
    have htracked : (w.manager.callEvent kind id event).2.tracked j = w.manager.tracked j :=
      Manager.callEvent_tracked kind event j
    exact (congrArg (·.tracker.state) htracked).symm.trans hstarted
  | @read count stream hstream =>
    exact hsame rfl rfl (queue_of_stream hstream ▸ List.drop_suffix count stream.queue) nofun
  | abandoned => exact hsame rfl rfl List.nil_suffix nofun
  | closed =>
    exact isIdle_of_touched (List.Sublist.refl _) (fun _ => .refl _) rfl (List.suffix_refl _) nofun
  | @enabled id enabled =>
    exact isIdle_of_touched (List.Sublist.refl _) (w.setEnabled_touched id enabled) rfl
      (List.suffix_refl _) nofun
  | @anchored id recoveryFrom now =>
    exact isIdle_of_touched (List.Sublist.refl _) (w.setRecoveryFrom_touched id recoveryFrom now)
      rfl (List.suffix_refl _) nofun
  | clockMoved => exact hsame rfl rfl (List.suffix_refl _) nofun
  | unread => exact hsame rfl rfl (List.suffix_refl _) nofun
  | notAbandoned => exact hsame rfl rfl (List.suffix_refl _) nofun
  | _ => cases ha

theorem isIdle_of_shut (hshut : w.isOpen = false) (h : w.stepUnder outage a = some w') :
    (Step.mk w a w').IsIdle := by
  cases steppedUnder h with
  | @started service hstart =>
    obtain ⟨-, -, -, hids, htracked⟩ := Manager.start_manager (Service.start_manager hstart)
    have hstream := Service.start_stream hstart
    have hempty : queue { w with service } = [] := by rw [queue_of_stream hstream]
    exact isIdle_of_touched (List.Sublist.refl _) (fun id => .of_eq (htracked id)) hids
      (hempty ▸ List.nil_suffix) nofun
  | notStarted =>
    exact isIdle_of_touched (List.Sublist.refl _) (fun _ => .refl _) rfl (List.suffix_refl _) nofun
  | @visited id v =>
    have hunclaimed : w.manager.Unclaimed (w.manager.visit (w.momentUnder outage) id v).2 :=
      Manager.visit_unclaimed v
    refine ⟨List.Sublist.refl _, hunclaimed.started, .inl hunclaimed.ids,
      .inl (List.suffix_refl _), fun i u hact => ?_⟩
    obtain ⟨rfl, rfl⟩ := Act.visit.inj hact
    rw [awaited_of_held Std.ExtTreeMap.getElem?_insert_self,
      Manager.visit_notification_of_shut hshut]
    rfl
  | @settled id pause _ _ hheld hsettle =>
    obtain ⟨manager, hshutSettle, hunclaimed⟩ :=
      Service.settle?_of_shut hshut (w.momentUnder outage) id pause
    obtain ⟨rfl, rfl⟩ := Prod.mk.inj (Option.some.inj (hsettle.symm.trans hshutSettle))
    exact ⟨by simp, hunclaimed.started, .inl hunclaimed.ids, .inl (List.suffix_refl _), nofun⟩
  | @recoveryPosted c answer =>
    exact isIdle_of_touched List.erase_sublist (Manager.recoveryPosted_touched c answer)
      (Manager.recoveryPosted_ids c answer) (List.suffix_refl _) nofun
  | @eventEntered call =>
    exact isIdle_of_touched (List.Sublist.refl _) (Manager.enterEvent_touched call)
      (Manager.enterEvent_ids call) (List.suffix_refl _) nofun
  | @eventPosted r answer =>
    exact isIdle_of_touched (List.Sublist.refl _) (Manager.eventPosted_touched r answer)
      (Manager.eventPosted_ids r answer) (List.suffix_refl _) nofun
  | aside ha hstep => exact isIdle_of_aside ha hstep

-- Something to be sent comes of a visit in an open manager only.
theorem stepUnder_awaited (h : w.stepUnder outage a = some w') (hawaited : w'.awaited id ≠ []) :
    (∃ v, a = .visit id v ∧ w.isOpen = true) ∨ w'.awaited id = w.awaited id := by
  have hheld (hsame : w'.held[id]? = w.held[id]?) : w'.awaited id = w.awaited id := by
    rw [awaited, awaited, hsame]
  have hne {i : ProducerId} (hi : i ≠ id) : compare i id ≠ .eq :=
    fun hc => hi (Std.LawfulEqOrd.eq_of_compare hc)
  cases steppedUnder h with
  | @visited i v =>
    by_cases hi : i = id
    · subst hi
      refine .inl ⟨v, rfl, ?_⟩
      by_contra hshut
      exact hawaited ((isIdle_of_shut (Bool.eq_false_iff.mpr hshut) h).visits i v rfl)
    · exact .inr (hheld (by simp [Std.ExtTreeMap.getElem?_insert, hne hi]))
  | @settled i =>
    by_cases hi : i = id
    · subst hi
      exact absurd (awaited_of_free (by simp)) hawaited
    · exact .inr (hheld (by simp [Std.ExtTreeMap.getElem?_erase, hne hi]))
  | aside ha hstep =>
    cases hstep with
    | @sentLate i =>
      by_cases hi : i = id
      · subst hi
        exact absurd (by simp [awaited]) hawaited
      · exact .inr (hheld (by simp [Std.ExtTreeMap.getElem?_insert, hne hi]))
    | visited => cases ha
    | settled => cases ha
    | _ => exact .inr rfl
  | _ => exact .inr rfl

theorem step_awaited (h : w.step a = some w') (hawaited : w'.awaited id ≠ []) :
    (∃ v, a = .visit id v ∧ w.isOpen = true) ∨ w'.awaited id = w.awaited id :=
  stepUnder_awaited ((congrFun w.stepUnder_none a).trans h) hawaited

-- Where nothing waits while the manager is shut, nothing comes to wait.
theorem awaited_of_shut (hshut : w.isOpen = false) (h : w.step a = some w')
    (hnone : w.awaited id = []) : w'.awaited id = [] := by
  by_contra hsome
  obtain ⟨v, -, hopen⟩ | hsame := step_awaited h hsome
  · exact absurd (hshut.symm.trans hopen) nofun
  · exact hsome (hsame.trans hnone)

theorem awaited_of_sendLate (h : w.stepUnder outage (.sendLate id) = some w') :
    w.awaited id ≠ [] := by
  cases steppedUnder h with
  | aside _ hstep =>
    cases hstep with
    | sentLate hheld hn => simp [awaited_of_held hheld, hn]

-- How an opening ends, by the phase that it meets.
theorem opening_iff (w : World) (outage : Outage) :
    ((∃ service, w.opening outage = .ok service) ↔
        w.manager.phase = .created ∧ ∃ producers, w.activeUnder outage = .ok producers) ∧
      (w.opening outage = .error .alreadyOpened ↔ w.manager.phase = .opened) ∧
      (w.opening outage = .error .closed ↔ w.manager.phase = .closed) ∧
      ∀ e, w.opening outage = .error (.directory e) ↔
        w.manager.phase = .created ∧ w.activeUnder outage = .error e := by
  simp only [opening, Service.start, Manager.start, activeUnder, momentUnder, manager]
  cases w.service.manager.phase with
  | opened => simp [bind, Except.bind]
  | closed => simp [bind, Except.bind]
  | created =>
    cases outage.guard .active ⟨0⟩ w.service.manager.directory.active <;>
      simp [bind, Except.bind, pure, Except.pure]

end World

theorem Step.Opens.phase {w w' : World} {a : Act} {outage : Outage}
    (h : (Step.mk w a w').Opens) (hstep : w.stepUnder outage a = some w') :
    w.manager.phase = .created := by
  obtain ⟨-, hbefore, hafter⟩ := h
  rw [World.isOpen_iff] at hafter
  obtain ⟨-, hclosed⟩ | ⟨-, hcreated, -⟩ | ⟨-, hsame⟩ := World.stepUnder_phase hstep
  · exact absurd (hclosed.symm.trans hafter) nofun
  · exact hcreated
  · exact absurd (hsame.symm.trans hafter) (World.not_isOpen_iff.mp hbefore)

-- Nobody has opened or closed the manager yet.
def IsUnopened (past : List Step) : Prop := ∀ s ∈ past, ¬s.Opens ∧ s.act ≠ .close

namespace RunUnder

variable {w₀ w w' : World} {past : List Step}

theorem phase_iff (h : RunUnder w₀ past w) (hcreated : w₀.manager.phase = .created) :
    (w.manager.phase = .created ↔ IsUnopened past) ∧
      (w.manager.phase = .closed ↔ ∃ s ∈ past, s.act = .close) := by
  induction h with
  | start => simp [hcreated, IsUnopened]
  | @step past w w' a hrun outage hstep ih =>
    obtain ⟨hcreated, hclosed⟩ := ih
    simp only [IsUnopened, List.forall_mem_cons, List.exists_mem_cons_iff] at hcreated ⊢
    obtain ⟨rfl, hphase⟩ | ⟨rfl, hbefore, hafter⟩ | ⟨hact, hphase⟩ := World.stepUnder_phase hstep
    · simp [hphase]
    · have hopens : (Step.mk w .start w').Opens :=
        ⟨rfl, World.not_isOpen_iff.mpr (by simp [hbefore]), World.isOpen_iff.mpr hafter⟩
      simp only [hafter, hopens, not_true, false_and, reduceCtorEq, false_or, ← hclosed, hbefore,
        and_self]
    · have hopens : ¬(Step.mk w a w').Opens := by
        rintro ⟨-, hbefore, hafter⟩
        rw [World.isOpen_iff, hphase] at hafter
        exact World.not_isOpen_iff.mp hbefore hafter
      simp only [hphase, hopens, hact, hcreated, hclosed, not_false_eq_true, ne_eq, true_and,
        false_or, and_self]

theorem isOpen_iff (h : RunUnder w₀ past w) (hcreated : w₀.manager.phase = .created) :
    w.isOpen = true ↔ (∃ s ∈ past, s.Opens) ∧ ∀ s ∈ past, s.act ≠ .close := by
  obtain ⟨hunopened, hclosed⟩ := h.phase_iff hcreated
  have hnotClosed : w.manager.phase ≠ .closed ↔ ∀ s ∈ past, s.act ≠ .close := by
    simp only [ne_eq, hclosed, not_exists, not_and]
  rw [World.isOpen_iff, ← hnotClosed]
  constructor
  · intro hopen
    have hnot : ¬IsUnopened past := fun h => absurd ((hunopened.mpr h).symm.trans hopen) nofun
    refine ⟨?_, by simp [hopen]⟩
    by_contra hnone
    have hnever := hnotClosed.mp (by simp [hopen])
    exact hnot fun s hs => ⟨fun hopens => hnone ⟨s, hs, hopens⟩, hnever s hs⟩
  · rintro ⟨⟨s, hs, hopens⟩, hne⟩
    cases hphase : w.manager.phase with
    | created => exact absurd hopens (hunopened.mp hphase s hs).1
    | opened => rfl
    | closed => exact absurd hphase hne

theorem opens_once (h : RunUnder w₀ past w) (hcreated : w₀.manager.phase = .created) :
    past.Pairwise fun s t => ¬(s.Opens ∧ t.Opens) := by
  induction h with
  | start => exact .nil
  | step hrun outage hstep ih =>
    refine .cons (fun t ht hboth => ?_) ih
    have hphase := hboth.1.phase hstep
    exact ((hrun.phase_iff hcreated).1.mp hphase t ht).1 hboth.2

-- A run is cut at one of its steps.
theorem split {later earlier : List Step} {s : Step} (h : RunUnder w₀ (later ++ s :: earlier) w) :
    RunUnder w₀ earlier s.before ∧ ∃ outage, s.before.stepUnder outage s.act = some s.after := by
  induction later generalizing w with
  | nil =>
    cases h with
    | step hrun outage hstep => exact ⟨hrun, outage, hstep⟩
  | cons t later ih =>
    cases h with
    | step hrun outage hstep => exact ih hrun

-- What waits is what a visit in the open phase has to say.
theorem visit_of_awaited (h : RunUnder w₀ past w) (hstart : w₀.IsFresh) {id : ProducerId}
    (hawaited : w.awaited id ≠ []) :
    ∃ t ∈ past, ∃ v, t.act = .visit id v ∧ t.before.isOpen = true ∧
      t.after.awaited id = w.awaited id := by
  induction h with
  | start => exact absurd (World.awaited_of_free (by simp [hstart.held])) hawaited
  | @step past w w' a hrun outage hstep ih =>
    obtain ⟨v, rfl, hopen⟩ | hsame := World.stepUnder_awaited hstep hawaited
    · exact ⟨_, List.mem_cons_self, v, rfl, hopen, rfl⟩
    · obtain ⟨t, ht, hvisit⟩ := ih (hsame ▸ hawaited)
      exact ⟨t, List.mem_cons_of_mem _ ht, hsame ▸ hvisit⟩

theorem idle (h : RunUnder w₀ past w) :
    ∀ s ∈ past, s.before.isOpen = false → s.IsIdle := by
  induction h with
  | start => exact fun _ hs => absurd hs List.not_mem_nil
  | step hrun outage hstep ih =>
    exact List.forall_mem_cons.mpr ⟨fun hshut => World.isIdle_of_shut hshut hstep, ih⟩

end RunUnder

-- A manager opens once, and closes for good.
structure HasOneLife (past : List Step) (w : World) : Prop where
  once : past.Pairwise fun s t => ¬(s.Opens ∧ t.Opens)
  isOpen : w.isOpen = true ↔ (∃ s ∈ past, s.Opens) ∧ ∀ s ∈ past, s.act ≠ .close
  -- how an opening would end now
  succeeds : ∀ outage, (∃ service, w.opening outage = .ok service) ↔
    IsUnopened past ∧
      ∃ producers, w.activeUnder outage = .ok producers
  alreadyOpened : ∀ outage, w.opening outage = .error .alreadyOpened ↔ w.isOpen = true
  closed : ∀ outage, w.opening outage = .error .closed ↔ ∃ s ∈ past, s.act = .close
  fails : ∀ outage e, w.opening outage = .error (.directory e) ↔
    IsUnopened past ∧ w.activeUnder outage = .error e
  -- one that succeeds opens the manager, with an empty stream
  opens : ∀ outage service, w.opening outage = .ok service →
    w.stepUnder outage .start = some { w with service } ∧
      (Step.mk w .start { w with service }).Opens ∧
      service.stream = some { capacity := w.manager.config.capacity.toNat }
  -- and one that fails leaves everything as it was
  refused : ∀ outage e, w.opening outage = .error e → w.stepUnder outage .start = some w
  -- nothing is claimed or said outside the open phase, in an act or in a whole call, and what
  -- is late is what a visit of the open phase has to say
  idle : ∀ s ∈ past, s.before.isOpen = false → s.IsIdle
  late : ∀ later s earlier id, past = later ++ s :: earlier → s.act = .sendLate id →
    ∃ t ∈ earlier, ∃ v, t.act = .visit id v ∧ t.before.isOpen = true ∧
      t.after.awaited id = s.before.awaited id
  calls : w.isOpen = false → ∀ outage errands, ∃ manager,
    w.service.run (w.momentUnder outage) errands = ({ w.service with manager }, .finished) ∧
      w.manager.Unclaimed manager

theorem RunUnder.hasOneLife {w₀ w : World} {past : List Step} (h : RunUnder w₀ past w)
    (hstart : w₀.IsFresh) : HasOneLife past w := by
  obtain ⟨hunopened, hclosed⟩ := h.phase_iff hstart.phase
  refine ⟨h.opens_once hstart.phase, h.isOpen_iff hstart.phase, fun outage => ?_, fun outage => ?_,
    fun outage => ?_, fun outage e => ?_, fun outage service hok => ?_, fun outage e herror => ?_,
    h.idle, fun later s earlier id hpast hact => ?_, fun hshut outage => Service.run_of_shut hshut _⟩
  · rw [← hunopened]
    exact (w.opening_iff outage).1
  · rw [World.isOpen_iff]
    exact (w.opening_iff outage).2.1
  · rw [← hclosed]
    exact (w.opening_iff outage).2.2.1
  · rw [← hunopened]
    exact (w.opening_iff outage).2.2.2 e
  · obtain ⟨hcreated, hopened, hconfig, -⟩ := Manager.start_manager (Service.start_manager hok)
    refine ⟨by simp only [World.stepUnder, hok], ⟨rfl, ?_, ?_⟩, ?_⟩
    · exact World.not_isOpen_iff.mpr (hcreated ▸ nofun)
    · exact World.isOpen_iff.mpr hopened
    · rw [Service.start_stream hok, hconfig]
      rfl
  · simp only [World.stepUnder, herror]
  · subst hpast
    obtain ⟨hearlier, outage, hstep⟩ := h.split
    rw [hact] at hstep
    exact hearlier.visit_of_awaited hstart (World.awaited_of_sendLate hstep)

-- The listing fails, and is tried again. An alive then finds the manager closed before a
-- recovery is claimed for it.
def lateAliveActs : List Act :=
  [.visit ⟨1⟩ (.alive (.uniform 600000) false .systemAliveOnly), .close, .settle ⟨1⟩, .start]

theorem RunUnder.opened_at_second_try : ∃ past w, RunUnder World.ofLiveOdds past w ∧
    past.reverse.map Step.act = [.start, .start] ++ lateAliveActs ∧
    past.reverse.map (·.after.isOpen) = [false, true, true, false, false, false] ∧
    w.claims = [] ∧ ∀ outage, w.opening outage = .error .closed := by
  have hfailed : RunUnder World.ofLiveOdds _ World.ofLiveOdds :=
    RunUnder.start.step (a := .start) (fun _ => true) rfl
  have hopened : RunUnder World.ofLiveOdds _ World.openedLiveOdds :=
    hfailed.step (a := .start) Outage.none rfl
  have hrun := hopened.append (Run.start.play lateAliveActs)
  have hlife := hrun.hasOneLife World.isFresh_ofLiveOdds
  refine ⟨_, _, hrun, rfl, by decide +kernel, by decide +kernel, fun outage => ?_⟩
  rw [hlife.closed]
  exact ⟨_, List.mem_cons_of_mem _ (List.mem_cons_of_mem _ List.mem_cons_self), rfl⟩

end FeedWatch
