import FeedWatch.Proofs.Faults
import FeedWatch.Proofs.HealthPass
import FeedWatch.Proofs.Silence

namespace FeedWatch

-- Nothing but health checks, while the clock is not set back and the user may read. A visit
-- that held its producer before goes on to hold it.
def IsTicking (w : World) (ticks : List Step) : Prop :=
  ∀ s ∈ ticks, (∃ id, s.act = .visit id .healthCheck) ∨ (∃ id, s.act = .settle id ∧ id ∉ w.held) ∨
    s.act.IsAside = true ∧ s.IsForward

-- A step among such checks.
inductive Ticked (w w' : World) : Act → Prop where
  | checked {id : ProducerId} (hfree : id ∉ w.held)
      (hmanager : w'.manager = (w.manager.visit w.moment id .healthCheck).2)
      (hheld : w'.held = w.held.insert id (w.manager.visit w.moment id .healthCheck).1)
      (hnow : w'.now = w.now) : Ticked w w' (.visit id .healthCheck)
  | settled {id : ProducerId} {pause : Pause} (hheld : w.held[id]? = some pause)
      (hrest : pause.rest = .done) (hmanager : w'.manager = w.manager)
      (hheld' : w'.held = w.held.erase id) (hnow : w'.now = w.now) : Ticked w w' (.settle id)
  | aside {a : Act} (ha : a.IsAside = true) (hmanager : w'.manager = w.manager)
      (hheld : w'.held = w.held) (hforward : w.now.toInt ≤ w'.now.toInt) : Ticked w w' a

-- What holds a producer: what held it before the checks, or a check.
structure World.HoldsFrom (w w' : World) : Prop where
  before : ∀ id ∈ w.held, w'.held[id]? = w.held[id]?
  since : ∀ id ∉ w.held, ∀ pause, w'.held[id]? = some pause → pause.rest = .done

namespace World

variable {w w₁ w₂ : World} {a : Act}

theorem HoldsFrom.mem {id : ProducerId} (h : w.HoldsFrom w₁) (hid : id ∈ w.held) :
    id ∈ w₁.held := by
  rw [Std.ExtTreeMap.mem_iff_isSome_getElem?, h.before id hid]
  exact Std.ExtTreeMap.mem_iff_isSome_getElem?.mp hid

theorem ticked_of_step (h : w.HoldsFrom w₁) (hstep : w₁.step a = some w₂)
    (ha : (∃ id, a = .visit id .healthCheck) ∨ (∃ id, a = .settle id ∧ id ∉ w.held) ∨
      a.IsAside = true ∧ (Step.mk w₁ a w₂).IsForward) : Ticked w₁ w₂ a := by
  obtain ⟨id, rfl⟩ | ⟨id, rfl, hfree⟩ | ⟨haside, hforward⟩ := ha
  · cases stepped hstep with
    | visited hfree => exact .checked hfree rfl rfl rfl
  · cases stepped hstep with
    | settled hheld =>
      have hrest := h.since id hfree _ hheld
      obtain ⟨hmanager, hheld', -⟩ := settle_of_check hstep hheld hrest
      exact .settled hheld hrest hmanager hheld' rfl
  · obtain ⟨hmanager, hheld⟩ := manager_of_aside haside hstep
    exact .aside haside hmanager hheld hforward

theorem HoldsFrom.ticked (h : w.HoldsFrom w₁) (hticked : Ticked w₁ w₂ a)
    (ha : ∀ id ∈ w.held, a ≠ .settle id) : w.HoldsFrom w₂ := by
  cases hticked with
  | @checked i hfree _ hheld =>
    have hi : i ∉ w.held := fun hi => hfree (h.mem hi)
    refine ⟨fun id hid => ?_, fun id hid pause hpause => ?_⟩
    · have hne : id ≠ i := fun hsame => hi (hsame ▸ hid)
      rw [hheld, held_insert_ne hne]
      exact h.before id hid
    · by_cases hsame : id = i
      · subst hsame
        rw [hheld, Std.ExtTreeMap.getElem?_insert_self] at hpause
        exact Option.some.inj hpause ▸ (Manager.visit_visited rfl .healthCheck).rest_of_check
      · rw [hheld, held_insert_ne hsame] at hpause
        exact h.since id hid pause hpause
  | @settled i _ _ _ _ hheld =>
    refine ⟨fun id hid => ?_, fun id hid pause hpause => ?_⟩
    · have hne : id ≠ i := fun hsame => ha id hid (hsame ▸ rfl)
      rw [hheld, held_erase_ne hne]
      exact h.before id hid
    · rw [hheld, Std.ExtTreeMap.getElem?_erase] at hpause
      split at hpause
      · exact absurd hpause nofun
      · exact h.since id hid pause hpause
  | aside _ _ hheld =>
    refine ⟨fun id hid => ?_, fun id hid pause hpause => ?_⟩
    · rw [hheld]
      exact h.before id hid
    · rw [hheld] at hpause
      exact h.since id hid pause hpause

end World

namespace Ticked

variable {w w' : World} {a : Act} {id : ProducerId}

theorem forward (h : Ticked w w' a) : w.now.toInt ≤ w'.now.toInt := by
  cases h with
  | checked _ _ _ hnow => rw [hnow]
  | settled _ _ _ _ hnow => rw [hnow]
  | aside _ _ _ hforward => exact hforward

theorem ne_sendLate (h : Ticked w w' a) : a ≠ .sendLate id := by
  rintro rfl
  cases h with
  | aside ha => cases ha

-- A producer is checked, or left as it is.
theorem tracked (h : Ticked w w' a) (id : ProducerId) :
    w'.tracked id = (w.tracked id).faulted (w.scene.fault? (w.tracked id)) ∧
        a = .visit id .healthCheck ∨
      w'.tracked id = w.tracked id ∧ ∀ v, a ≠ .visit id v := by
  cases h with
  | @checked i _ hmanager =>
    by_cases hi : id = i
    · subst hi
      refine .inl ⟨?_, rfl⟩
      rw [World.tracked, hmanager]
      exact Manager.tracked_visit_check rfl
    · refine .inr ⟨?_, fun v hv => hi (Act.visit.inj hv).1.symm⟩
      rw [World.tracked, hmanager]
      exact w.manager.visit_tracked_ne .healthCheck hi
  | settled _ _ hmanager => exact .inr ⟨by rw [World.tracked, hmanager]; rfl, by simp⟩
  | aside ha hmanager =>
    refine .inr ⟨by rw [World.tracked, hmanager]; rfl, ?_⟩
    rintro v rfl
    cases ha

theorem setting (h : Ticked w w' a) :
    w'.manager.config = w.manager.config ∧ w'.manager.phase = w.manager.phase := by
  cases h with
  | checked _ hmanager =>
    rw [hmanager]
    exact Manager.visit_setting _
  | settled _ _ hmanager => rw [hmanager]; exact ⟨rfl, rfl⟩
  | aside _ hmanager => rw [hmanager]; exact ⟨rfl, rfl⟩

theorem mem_trackers (h : Ticked w w' a) (hid : id ∈ w.manager.trackers) :
    id ∈ w'.manager.trackers := by
  cases h with
  | checked _ hmanager =>
    rw [hmanager]
    exact Manager.mem_trackers_visit _ hid
  | settled _ _ hmanager => rwa [hmanager]
  | aside _ hmanager => rwa [hmanager]

theorem scene_of_now (h : Ticked w w' a) (hnow : w'.now = w.now) : w'.scene = w.scene := by
  have hmoment : w'.moment = w.moment := congrArg (Moment.mk · Outage.none) hnow
  rw [World.scene, hmoment]
  exact Manager.scene_congr h.setting

theorem scene_of_check (h : Ticked w w' (.visit id .healthCheck)) : w'.scene = w.scene := by
  cases h with
  | checked hfree hmanager hheld hnow =>
    exact (Ticked.checked hfree hmanager hheld hnow).scene_of_now hnow
  | aside ha => exact absurd ha nofun

-- Silence lasts.
theorem isLongSilent (h : Ticked w w' a) (hsilent : w.scene.isLongSilent (w.tracked id)) :
    w'.scene.isLongSilent (w'.tracked id) := by
  have hconfig : w'.scene.config = w.scene.config := h.setting.1
  have hforward : w.scene.now.toInt ≤ w'.scene.now.toInt := h.forward
  have halive : (w'.tracked id).tracker.lastSystemAlive = (w.tracked id).tracker.lastSystemAlive := by
    obtain ⟨hchecked, -⟩ | ⟨hsame, -⟩ := h.tracked id
    · rw [hchecked]
      exact ((w.tracked id).faulted_tracker _).1
    · rw [hsame]
  simp only [Scene.isLongSilent, hconfig, halive] at hsilent ⊢
  omega

-- No request goes out.
theorem effect (h : Ticked w w' a) :
    (Step.mk w a w').effect.recoveries = [] ∧ (Step.mk w a w').effect.replays = [] := by
  cases h with
  | checked => exact ⟨rfl, rfl⟩
  | settled hheld hrest =>
    refine ⟨?_, rfl⟩
    simp only [Step.effect, World.claimed, hheld, Option.bind_some]
    rw [Manager.finish, if_pos hrest]
    rfl
  | aside ha =>
    rw [World.effect_of_aside w w' ha]
    exact ⟨rfl, rfl⟩

theorem claims (h : Ticked w w' a) (hstep : w.step a = some w') : w'.claims = w.claims := by
  have hanswer (c : Claim) (answer : Except TransportError Unit) :
      a ≠ .recoveryPosted c answer := by
    rintro rfl
    cases h with
    | aside ha => exact absurd ha nofun
  rw [World.claims_step hanswer hstep, show w.claimed a = [] from h.effect.1, List.append_nil]

theorem held_of_ne (h : Ticked w w' a) (hvisit : ∀ v, a ≠ .visit id v) (hsettle : a ≠ .settle id) :
    w'.held[id]? = w.held[id]? := by
  cases h with
  | checked _ _ hheld =>
    rw [hheld]
    exact World.held_insert_ne fun hsame => hvisit .healthCheck (hsame ▸ rfl)
  | settled _ _ _ hheld =>
    rw [hheld]
    exact World.held_erase_ne fun hsame => hsettle (hsame ▸ rfl)
  | aside _ _ hheld => rw [hheld]

-- A check that finds something has still to say so.
theorem awaited_of_check (h : Ticked w w' (.visit id .healthCheck)) :
    w.awaited id = [] ∧ w'.awaited id = (w.scene.complaint (w.tracked id)).toList := by
  cases h with
  | checked hfree _ hheld =>
    have hpause : w'.held[id]? = some { notification := w.scene.complaint (w.tracked id) } := by
      rw [hheld, Std.ExtTreeMap.getElem?_insert_self, Manager.visit_check rfl]
      rfl
    exact ⟨World.awaited_of_free (World.getElem?_held_of_not_mem hfree),
      World.awaited_of_held hpause⟩
  | aside ha => exact absurd ha nofun

theorem awaited_of_settle (h : Ticked w w' (.settle id)) : w'.awaited id = [] := by
  cases h with
  | settled _ _ _ hheld =>
    apply World.awaited_of_free
    rw [hheld, Std.ExtTreeMap.getElem?_erase_self]
  | aside ha => exact absurd ha nofun

end Ticked

-- What such checks have said of a producer: that it lags, and then that it is silent, which
-- lasts.
structure Scene.HasTold (sc : Scene) (x : Tracked) (l : List StatusChange) : Prop where
  order : (l.map StatusChange.reason).Sublist [.queueDelay, .aliveInterval]
  last : ∀ c ∈ l,
    c.reason = .queueDelay ∧ x.tracker.toldReason = some .queueDelay ∨
      x.tracker.toldReason = some .aliveInterval ∧ sc.isLongSilent x

namespace Scene

variable {sc sc' : Scene} {x x' : Tracked} {l l' : List StatusChange}

-- A check tells of a producer that is down.
theorem isDown_of_complaint (hmem : sc.outage = Outage.none) (id : ProducerId) :
    ∀ c ∈ Notification.statuses id (sc.complaint x).toList, c.isDown = true := by
  intro c hc
  cases hfault : sc.fault? x with
  | none =>
    have hmute : sc.complaint x = none := by rw [complaint, hfault]; rfl
    rw [hmute] at hc
    exact absurd hc List.not_mem_nil
  | some reason =>
    have hcomplaint : sc.complaint x = sc.notice (x.lowered reason) reason.status := by
      rw [complaint, hfault]
      rfl
    have hdown : (x.lowered reason).isFlaggedDown sc.outage = true := by
      rw [hmem]
      exact Tracked.isDown_lowered (isEnabled_of_fault? hfault) reason
    rw [hcomplaint] at hc
    obtain hnone | ⟨-, c', -, hc', hone⟩ := statuses_notice id (x.lowered reason) reason.status
    · rw [hnone] at hc
      exact absurd hc List.not_mem_nil
    · rw [hone] at hc
      rw [List.mem_singleton.mp hc]
      exact hc'.trans hdown

namespace HasTold

theorem nil : sc.HasTold x [] := ⟨List.nil_sublist _, fun _ hc => absurd hc List.not_mem_nil⟩

theorem less (h : sc.HasTold x l) (hless : l'.Sublist l) : sc.HasTold x l' :=
  ⟨(hless.map _).trans h.order, fun c hc => h.last c (hless.subset hc)⟩

theorem later (h : sc.HasTold x l) (htold : x'.tracker.toldReason = x.tracker.toldReason)
    (hsilent : sc.isLongSilent x → sc'.isLongSilent x') : sc'.HasTold x' l := by
  refine ⟨h.order, fun c hc => ?_⟩
  rw [htold]
  exact (h.last c hc).imp_right (And.imp_right hsilent)

-- A silence that was said before counts as told, and so does a delay before the silence.
theorem news {c : StatusChange} (h : sc.HasTold x l)
    (hnews : x.tracker.toldReason ≠ some c.reason)
    (hreason : c.reason = .aliveInterval ∨ c.reason = .queueDelay ∧ ¬sc.isLongSilent x) :
    ((l ++ [c]).map StatusChange.reason).Sublist [.queueDelay, .aliveInterval] := by
  rw [List.map_append, List.map_singleton]
  obtain hsilence | ⟨hdelay, hheard⟩ := hreason
  · have hdelays : ∀ r ∈ l.map StatusChange.reason, r = .queueDelay := by
      rintro r hr
      obtain ⟨c', hc', rfl⟩ := List.mem_map.mp hr
      obtain ⟨hreason, -⟩ | ⟨htold, -⟩ := h.last c' hc'
      · exact hreason
      · exact absurd (htold.trans (congrArg some hsilence.symm)) hnews
    have hbefore : (l.map StatusChange.reason).Sublist [.queueDelay] := by
      have horder := h.order.filter fun r => decide (r = StatusReason.queueDelay)
      rw [List.filter_eq_self.mpr fun r hr => decide_eq_true (hdelays r hr)] at horder
      exact horder
    rw [hsilence]
    exact hbefore.append (List.Sublist.refl _)
  · have hnone : l = [] := by
      refine List.eq_nil_iff_forall_not_mem.mpr fun c' hc' => ?_
      obtain ⟨-, htold⟩ | ⟨-, hsilent⟩ := h.last c' hc'
      · exact hnews (htold.trans (congrArg some hdelay.symm))
      · exact hheard hsilent
    rw [hnone, hdelay]
    exact List.sublist_append_left [StatusReason.queueDelay] [StatusReason.aliveInterval]

-- The check has to see how long the producer has been silent.
theorem checked (h : sc.HasTold x l) (hsees : sc.seesSilence x) (id : ProducerId) :
    sc.HasTold (x.faulted (sc.fault? x))
      (l ++ Notification.statuses id (sc.complaint x).toList) := by
  cases hfault : sc.fault? x with
  | none =>
    have hmute : sc.complaint x = none := by rw [complaint, hfault]; rfl
    rw [hmute]
    exact (List.append_nil l).symm ▸ h
  | some reason =>
    have hcomplaint : sc.complaint x = sc.notice (x.lowered reason) reason.status := by
      rw [complaint, hfault]
      rfl
    rw [hcomplaint]
    obtain rfl | rfl := of_fault? hfault
    · have hsilent := hsees.isSilent_iff.mp (fault?_eq_aliveInterval.mp hfault).2
      obtain hnone | ⟨hnews, c, hreason, -, hone⟩ := statuses_notice id (x.lowered .aliveInterval) _
      · rw [hnone, List.append_nil]
        exact ⟨h.order, fun _ _ => .inr ⟨rfl, hsilent⟩⟩
      · rw [hone]
        exact ⟨h.news (hreason ▸ hnews) (.inl hreason), fun _ _ => .inr ⟨rfl, hsilent⟩⟩
    · have hheard : ¬sc.isLongSilent x :=
        fun hsilent => not_isSilent_of_fault? hfault (hsees.isSilent_iff.mpr hsilent)
      have hdelay : ∀ c ∈ l, c.reason = .queueDelay :=
        fun c hc => (h.last c hc).elim And.left fun hsilence => absurd hsilence.2 hheard
      obtain hnone | ⟨hnews, c, hreason, -, hone⟩ := statuses_notice id (x.lowered .queueDelay) _
      · rw [hnone, List.append_nil]
        exact ⟨h.order, fun c hc => .inl ⟨hdelay c hc, rfl⟩⟩
      · rw [hone]
        refine ⟨h.news (hreason ▸ hnews) (.inr ⟨hreason, hheard⟩), ?_⟩
        refine List.forall_mem_append.mpr ⟨fun c hc => .inl ⟨hdelay c hc, rfl⟩, ?_⟩
        exact fun c' hc' => .inl ⟨List.mem_singleton.mp hc' ▸ hreason, rfl⟩

end HasTold

end Scene

namespace Run

variable {w₀ w w' : World} {past ticks : List Step} {id : ProducerId}

-- What holds at first, and is kept by each step of the checks, holds after them.
theorem of_ticks {P : List Step → World → Prop} (h : Run w ticks w') (hticks : IsTicking w ticks)
    (hbegin : P [] w)
    (hkept : ∀ ticks w₁ a w₂, Run w ticks w₁ → w₁.step a = some w₂ → Ticked w₁ w₂ a →
      (∀ id ∈ w.held, a ≠ .settle id ∧ ∀ v, a ≠ .visit id v) → P ticks w₁ →
        P (⟨w₁, a, w₂⟩ :: ticks) w₂) :
    P ticks w' := by
  suffices hboth : w.HoldsFrom w' ∧ P ticks w' from hboth.2
  induction h with
  | start =>
    refine ⟨⟨fun _ _ => rfl, fun id hid pause hpause => ?_⟩, hbegin⟩
    exact absurd ((World.getElem?_held_of_not_mem hid).symm.trans hpause) nofun
  | @step ticks w₁ w₂ a hrun hstep ih =>
    obtain ⟨hlast, hticks⟩ := List.forall_mem_cons.mp hticks
    obtain ⟨hholds, hbefore⟩ := ih hticks
    have hticked := World.ticked_of_step hholds hstep hlast
    have hothers (id : ProducerId) (hid : id ∈ w.held) :
        a ≠ .settle id ∧ ∀ v, a ≠ .visit id v := by
      refine ⟨?_, ?_⟩
      · rintro rfl
        obtain ⟨i, hi⟩ | ⟨i, hi, hfree⟩ | ⟨haside, -⟩ := hlast
        · cases hi
        · obtain rfl := Act.settle.inj hi
          exact hfree hid
        · cases haside
      · rintro v rfl
        cases hticked with
        | checked hfree => exact hfree (hholds.mem hid)
        | aside haside => cases haside
    exact ⟨hholds.ticked hticked fun id hid => (hothers id hid).1,
      hkept _ _ _ _ hrun hstep hticked hothers hbefore⟩

theorem ticked (h : Run w ticks w') (hticks : IsTicking w ticks) :
    ∀ s ∈ ticks, Ticked s.before s.after s.act := by
  apply h.of_ticks hticks
  · exact fun _ hs => absurd hs List.not_mem_nil
  · exact fun ticks w₁ a w₂ _ _ hticked _ ih => List.forall_mem_cons.mpr ⟨hticked, ih⟩

-- What a step of the checks says of a producer that was not held before, or has still to say:
-- what the step before had to say, and what it finds by a check.
theorem statuses_step {a : Act} {w₁ w₂ : World} (hrun : Run w₀ past w₁) (hstart : w₀.IsFresh)
    (hticked : Ticked w₁ w₂ a) :
    w₂.scene = w₁.scene ∧
        w₂.tracked id = (w₁.tracked id).faulted (w₁.scene.fault? (w₁.tracked id)) ∧
        a = .visit id .healthCheck ∧
        Notification.statuses id ((Step.mk w₁ a w₂).effect.messages ++ w₂.awaited id) =
          Notification.statuses id (w₁.awaited id) ++
            Notification.statuses id (w₁.scene.complaint (w₁.tracked id)).toList ∨
      w₂.tracked id = w₁.tracked id ∧
        (Notification.statuses id ((Step.mk w₁ a w₂).effect.messages ++ w₂.awaited id)).Sublist
          (Notification.statuses id (w₁.awaited id)) := by
  obtain ⟨hchecked, rfl⟩ | ⟨hsame, hvisit⟩ := hticked.tracked id
  · obtain ⟨hbefore, hafter⟩ := hticked.awaited_of_check
    refine .inl ⟨hticked.scene_of_check, hchecked, rfl, ?_⟩
    rw [hbefore, hafter]
    rfl
  · refine .inr ⟨hsame, ?_⟩
    by_cases hsettle : a = .settle id
    · subst hsettle
      rw [hticked.awaited_of_settle, List.append_nil]
      exact (w₁.delivered_settle_sublist id).filterMap _
    · have hnothing : Notification.statuses id (Step.mk w₁ a w₂).effect.messages = [] :=
        hrun.statuses_delivered hstart hsettle hticked.ne_sendLate
      have hkept : w₂.awaited id = w₁.awaited id := by
        simp only [World.awaited, hticked.held_of_ne hvisit hsettle]
      rw [hkept, Notification.statuses_append, hnothing, List.nil_append]

theorem isDown_of_statuses (h : Run w ticks w') (hpast : Run w₀ past w) (hstart : w₀.IsFresh)
    (hticks : IsTicking w ticks) (hfree : id ∉ w.held) :
    ∀ c ∈ Notification.statuses id (messages ticks ++ w'.awaited id), c.isDown = true := by
  apply h.of_ticks hticks
  · rw [World.awaited_of_free (World.getElem?_held_of_not_mem hfree)]
    exact fun c hc => absurd hc List.not_mem_nil
  · intro ticks w₁ a w₂ hrun hstep hticked _ ih
    rw [Notification.statuses_append] at ih
    obtain ⟨hsaid, hwaiting⟩ := List.forall_mem_append.mp ih
    rw [messages_cons, List.append_assoc, Notification.statuses_append]
    refine List.forall_mem_append.mpr ⟨hsaid, ?_⟩
    obtain ⟨-, -, -, hnews⟩ | ⟨-, hless⟩ := (hpast.append hrun).statuses_step hstart hticked
    · rw [hnews]
      exact List.forall_mem_append.mpr ⟨hwaiting, Scene.isDown_of_complaint rfl id⟩
    · exact fun c hc => hwaiting c (hless.subset hc)

theorem hasTold (h : Run w ticks w') (hpast : Run w₀ past w) (hstart : w₀.IsFresh)
    (hticks : IsTicking w ticks) (hfree : id ∉ w.held) :
    (∀ s ∈ ticks, s.SeesSilence id) → w'.scene.HasTold (w'.tracked id)
      (Notification.statuses id (messages ticks ++ w'.awaited id)) := by
  apply h.of_ticks hticks
  · rw [World.awaited_of_free (World.getElem?_held_of_not_mem hfree)]
    exact fun _ => .nil
  · intro ticks w₁ a w₂ hrun hstep hticked _ ih hsees
    obtain ⟨hlast, hsees⟩ := List.forall_mem_cons.mp hsees
    have hbefore := ih hsees
    rw [Notification.statuses_append] at hbefore
    rw [messages_cons, List.append_assoc, Notification.statuses_append]
    obtain ⟨hscene, hchecked, hcheck, hnews⟩ | ⟨hsame, hless⟩ :=
      (hpast.append hrun).statuses_step hstart hticked
    · rw [hnews, hscene, hchecked, ← List.append_assoc]
      exact hbefore.checked (hlast hcheck) id
    · have hlater :=
        hbefore.later (congrArg (·.tracker.toldReason) hsame) hticked.isLongSilent
      exact hlater.less (hless.append_left _)

-- Of a producer that was held before, nothing is said.
theorem statuses_of_held (h : Run w ticks w') (hpast : Run w₀ past w) (hstart : w₀.IsFresh)
    (hticks : IsTicking w ticks) (hheld : id ∈ w.held) :
    Notification.statuses id (messages ticks) = [] := by
  apply h.of_ticks hticks (P := fun ticks _ => Notification.statuses id (messages ticks) = [])
  · rfl
  · intro ticks w₁ a w₂ hrun hstep hticked hothers ih
    have hnothing := (hpast.append hrun).statuses_delivered hstart (hothers id hheld).1
      hticked.ne_sendLate
    rw [messages_cons, Notification.statuses_append, ih]
    exact hnothing

-- While the clock reads what it read at a check of a producer, another one does nothing.
theorem isSettled (h : Run w ticks w') (hticks : IsTicking w ticks) :
    ∀ s ∈ ticks, s.act = .visit id .healthCheck →
      s.before.now.toInt ≤ w'.now.toInt ∧
        (s.before.now = w'.now →
          w'.scene.IsSettled (w'.tracked id) ∧ id ∈ w'.manager.trackers) := by
  apply h.of_ticks hticks
  · exact fun _ hs => absurd hs List.not_mem_nil
  · intro ticks w₁ a w₂ hrun hstep hticked _ ih
    refine List.forall_mem_cons.mpr ⟨?_, fun s hs hcheck => ?_⟩
    · rintro rfl
      refine ⟨hticked.forward, fun _ => ?_⟩
      obtain ⟨hchecked, -⟩ | ⟨-, hvisit⟩ := hticked.tracked id
      · rw [hchecked, hticked.scene_of_check]
        refine ⟨Scene.isSettled_faulted rfl _, ?_⟩
        cases World.stepped hstep with
        | visited _ htracked => exact hticked.mem_trackers (htracked rfl)
      · exact absurd rfl (hvisit _)
    · obtain ⟨hforward, hsettled⟩ := ih s hs hcheck
      refine ⟨hforward.trans hticked.forward, fun hnow => ?_⟩
      have hsame : w₁.now = w₂.now := by
        rw [hnow] at hforward
        exact Int64.toInt_inj.mp (le_antisymm hticked.forward hforward)
      obtain ⟨hstays, htracked⟩ := hsettled (hnow.trans hsame.symm)
      rw [hticked.scene_of_now hsame.symm]
      refine ⟨?_, hticked.mem_trackers htracked⟩
      obtain ⟨hchecked, -⟩ | ⟨hkept, -⟩ := hticked.tracked id
      · rw [hchecked, hstays.stays]
        exact hstays
      · rw [hkept]
        exact hstays

theorem isDown_of_isFoundSilent (h : Run w ticks w') (hticks : IsTicking w ticks) :
    IsFoundSilent id ticks →
      (w'.tracked id).isDown = true ∧ (w'.tracked id).tracker.downReason = .aliveInterval ∧
        (w'.tracked id).tracker.state ≠ .started := by
  apply h.of_ticks hticks
  · exact fun hsilent => hsilent.elim
  · rintro ticks w₁ a w₂ - - hticked - ih (⟨hcheck, henabled, hsilent⟩ | ⟨hvisit, hbefore⟩)
    · obtain ⟨hchecked, -⟩ | ⟨-, hvisit⟩ := hticked.tracked id
      · rw [hchecked, Scene.fault?_eq_aliveInterval.mpr ⟨henabled, hsilent⟩]
        refine ⟨Tracked.isDown_lowered henabled .aliveInterval, rfl, fun hstarted => ?_⟩
        exact absurd ((w₁.tracked id).state_lowered hstarted) nofun
      · exact absurd hcheck (hvisit _)
    · obtain ⟨-, hcheck⟩ | ⟨hkept, -⟩ := hticked.tracked id
      · exact absurd hcheck (hvisit _)
      · rw [hkept]
        exact ih hbefore

end Run

-- What health checks come to with nothing else between them.
structure TicksQuietly (w : World) (ticks : List Step) (w' : World) : Prop where
  -- a producer is said to lag, and then to be silent, each of the two once at most, as long as
  -- the checks see how long it has been silent
  reasons : ∀ id, (∀ s ∈ ticks, s.SeesSilence id) →
    ((Notification.statuses id (messages ticks)).map StatusChange.reason).Sublist
      [.queueDelay, .aliveInterval]
  down : ∀ id, ∀ c ∈ Notification.statuses id (messages ticks), c.isDown = true
  -- no request goes out
  calls : ∀ s ∈ ticks, s.effect.recoveries = [] ∧ s.effect.replays = []
  claims : w'.claims = w.claims
  -- no producer comes back
  flags : ∀ s ∈ ticks, ∀ id,
    (s.before.tracked id).isDown = true → (s.after.tracked id).isDown = true
  -- while the clock reads the same another check does nothing
  again : ∀ {id s}, s ∈ ticks → s.act = .visit id .healthCheck → s.before.now = w'.now →
    w'.manager.visit w'.moment id .healthCheck = ({}, w'.manager)
  calledAgain : (∀ id ∈ w'.manager.trackers,
      ∃ s ∈ ticks, s.act = .visit id .healthCheck ∧ s.before.now = w'.now) →
    w'.service.run w'.moment (Errand.healthCheck w'.manager) = (w'.service, .finished)
  -- a silence that the last check found is why the producer is down
  silence : ∀ {id}, IsFoundSilent id ticks →
    (w'.tracked id).isDown = true ∧ (w'.tracked id).tracker.downReason = .aliveInterval ∧
      (w'.tracked id).tracker.state ≠ .started

-- An alive is received and no message is processed. Then nothing comes but two checks.
def quietActs : List Act :=
  [.visit ⟨1⟩ (.alive (.uniform 600000) false .systemAliveOnly), .settle ⟨1⟩]

def tickActs (seconds : Int64) : List Act :=
  [.visit ⟨1⟩ .healthCheck, .settle ⟨1⟩, .moveClock (.seconds seconds), .visit ⟨1⟩ .healthCheck,
    .settle ⟨1⟩]

theorem isTicking_tickActs {w : World} (seconds : Int64) (hfree : ⟨1⟩ ∉ w.held)
    (hforward : ∀ s ∈ (w.play [] (tickActs seconds)).1, s.IsForward) :
    IsTicking w (w.play [] (tickActs seconds)).1 := by
  intro s hs
  have hact := (World.act_of_mem_play hs).resolve_left List.not_mem_nil
  simp only [tickActs, List.mem_cons, List.not_mem_nil, or_false] at hact
  rcases hact with hact | hact | hact | hact | hact
  · exact .inl ⟨_, hact⟩
  · exact .inr (.inl ⟨_, hact, hfree⟩)
  · exact .inr (.inr ⟨by rw [hact]; rfl, hforward s hs⟩)
  · exact .inl ⟨_, hact⟩
  · exact .inr (.inl ⟨_, hact, hfree⟩)

end FeedWatch
