import FeedWatch.Proofs.Step

namespace FeedWatch

theorem Run.append {w₀ w w' : World} {past past' : List Step} (h : Run w₀ past w)
    (h' : Run w past' w') : Run w₀ (past' ++ past) w' := by
  induction h' with
  | start => exact h
  | step _ hstep ih => exact ih.step hstep

namespace Manager

variable {m : Manager} {t : Moment} {id j : ProducerId}

theorem mem_trackers_hold {α : Type} (h : Handler α) (hj : j ∈ m.trackers) :
    j ∈ (m.hold t id h).2.trackers := by
  rw [hold_manager]
  exact Std.ExtTreeMap.mem_insert.mpr (.inr hj)

theorem mem_trackers_visit (v : Visit) (hj : j ∈ m.trackers) :
    j ∈ (m.visit t id v).2.trackers := by
  obtain ⟨h, -⟩ | h := m.visit_eq_hold t id v
  · rw [h]
    exact hj
  · rw [h]
    exact mem_trackers_hold _ hj

theorem mem_trackers_finish (rest : Rest) (hj : j ∈ m.trackers) :
    j ∈ (m.finish t id rest).2.trackers := by
  unfold finish
  split
  · exact hj
  · exact mem_trackers_hold _ hj

end Manager

-- What is still to be done for an errand.
def Errand.acts (e : Errand) : List Act := [.visit e.producer e.visit, .settle e.producer]

-- What a task that stopped has still to do.
def Halt.acts : Halt → List Act
  | .finished => []
  | .waiting id _ later => .settle id :: later.flatMap Errand.acts
  | .posting _ later => later.flatMap Errand.acts

namespace World

-- The world with one producer let go.
def letGo (w : World) (id : ProducerId) : World := { w with held := w.held.erase id }

-- A call that found the first world stops in the second: what it still holds, and what it
-- has out.
def Stops (w w' : World) : Halt → Prop
  | .finished => w'.held = w.held ∧ w'.claims = w.claims
  | .waiting id pause _ => w'.held = w.held.insert id pause ∧ w'.claims = w.claims
  | .posting claim _ => w'.held = w.held ∧ w'.claims = w.claims ++ [claim]

-- A run from the first world gives what a call gives, and stops where the call stops, short
-- of what the call has still to do. The call found the second world, but for a producer that
-- it held itself.
def Does (w free : World) (acts : List Act) (outcome : Service × Halt) : Prop :=
  ∃ past w', Run w past w' ∧ past.reverse.map Step.act ++ outcome.2.acts = acts ∧
    w'.service = outcome.1 ∧ w'.now = w.now ∧ free.Stops w' outcome.2

-- The producers of the errands are free, and those that are to be checked are tracked.
def CanRun (w : World) (errands : List Errand) : Prop :=
  ∀ e ∈ errands, e.producer ∉ w.held ∧ (e.visit = .healthCheck → e.producer ∈ w.manager.trackers)

variable {w w' free free' : World} {id : ProducerId} {pause : Pause} {later : List Errand}

theorem CanRun.congr (h : w.CanRun later) (hheld : w'.held = w.held)
    (htracked : ∀ j, j ∈ w.manager.trackers → j ∈ w'.manager.trackers) : w'.CanRun later := by
  intro e he
  obtain ⟨hfree, hcheck⟩ := h e he
  rw [hheld]
  exact ⟨hfree, fun hv => htracked _ (hcheck hv)⟩

-- A feed message can be handled while nothing else is done for its producer.
theorem canRun_ofSignal {received : Instant} {interest : Interest} {signal : Signal}
    (hfree : signal.producer ∉ w.held) :
    w.CanRun (Errand.ofSignal received interest signal) := by
  have hended (id : ProducerId) (generated : Instant) (e : Errand)
      (he : e ∈ Errand.messageEnded id generated) :
      e.producer = id ∧ e.visit = .messageEnded generated := by
    unfold Errand.messageEnded at he
    split at he
    · exact absurd he List.not_mem_nil
    · rw [List.mem_singleton] at he
      exact ⟨he ▸ rfl, he ▸ rfl⟩
  intro e he
  obtain he | he := List.mem_append.mp he
  · obtain rfl := List.mem_singleton.mp he
    exact ⟨hfree, nofun⟩
  · cases signal with
    | alive id stamp subscribed =>
      obtain he | he := List.mem_append.mp he
      · obtain rfl := List.mem_singleton.mp he
        exact ⟨hfree, nofun⟩
      · obtain ⟨rfl, hv⟩ := hended _ _ e he
        exact ⟨hfree, fun h => absurd (hv.symm.trans h) nofun⟩
    | replayEnded id request =>
      obtain rfl := List.mem_singleton.mp he
      exact ⟨hfree, nofun⟩
    | message id generated =>
      obtain ⟨rfl, hv⟩ := hended _ _ e he
      exact ⟨hfree, fun h => absurd (hv.symm.trans h) nofun⟩

-- The tracked producers can be checked, in any order, while nothing is held.
theorem canRun_checks {order : List ProducerId} (htracked : ∀ id ∈ order, id ∈ w.manager.trackers)
    (hfree : ∀ id, id ∉ w.held) : w.CanRun (order.map fun id => ⟨id, .healthCheck⟩) := by
  intro e he
  obtain ⟨id, hid, rfl⟩ := List.mem_map.mp he
  exact ⟨hfree id, fun _ => htracked id hid⟩

theorem Stops.congr {halt : Halt} (h : free.Stops w halt) (hheld : free.held = free'.held)
    (hclaims : free.claims = free'.claims) : free'.Stops w halt := by
  cases halt with
  | finished => exact ⟨h.1.trans hheld, h.2.trans hclaims⟩
  | waiting id pause => exact ⟨hheld ▸ h.1, h.2.trans hclaims⟩
  | posting claim => exact ⟨h.1.trans hheld, hclaims ▸ h.2⟩

theorem Does.step {a : Act} {acts : List Act} {outcome : Service × Halt}
    (h : w'.Does free acts outcome) (hstep : w.step a = some w') (hnow : w'.now = w.now)
    (hheld : free.held = free'.held) (hclaims : free.claims = free'.claims) :
    w.Does free' (a :: acts) outcome := by
  obtain ⟨past, w₂, hrun, hacts, hservice, hclock, hstops⟩ := h
  exact ⟨past ++ [⟨w, a, w'⟩], w₂, (Run.start.step hstep).append hrun, by simp [← hacts], hservice,
    hclock.trans hnow, hstops.congr hheld hclaims⟩

theorem held_insert_erase (hfree : id ∉ w.held) : (w.held.insert id pause).erase id = w.held := by
  ext j : 1
  rw [Std.ExtTreeMap.getElem?_erase, Std.ExtTreeMap.getElem?_insert]
  split <;> rename_i hj
  · rw [← Std.LawfulEqOrd.eq_of_compare hj, getElem?_held_of_not_mem hfree]
  · rfl

theorem held_erase_insert (hheld : w.held[id]? = some pause) :
    (w.held.erase id).insert id pause = w.held := by
  ext j : 1
  rw [Std.ExtTreeMap.getElem?_insert, Std.ExtTreeMap.getElem?_erase]
  split <;> rename_i hj
  · rw [← Std.LawfulEqOrd.eq_of_compare hj, hheld]
  · rfl

-- A visit that was held is taken up. Its producer is then as free as the others.
theorem does_resume_of_run
    (hlater : ∀ w : World, w.CanRun later →
      w.Does w (later.flatMap Errand.acts) (w.service.run w.moment later))
    (hheld : w.held[id]? = some pause) (hcan : (w.letGo id).CanRun later) :
    w.Does (w.letGo id) (.settle id :: later.flatMap Errand.acts)
      (w.service.resume w.moment id pause later) := by
  unfold Service.resume
  cases hsettle : w.service.settle? w.moment id pause with
  | none => exact ⟨[], w, .start, rfl, rfl, rfl, (held_erase_insert hheld).symm, rfl⟩
  | some settled =>
    obtain ⟨service, claimed⟩ := settled
    have hstep : w.step (.settle id) = some { w with
        service, held := w.held.erase id, claims := w.claims ++ claimed.toList } := by
      simp [step, hheld, hsettle]
    cases claimed with
    | some claim => exact ⟨_, _, Run.start.step hstep, rfl, rfl, rfl, rfl, rfl⟩
    | none =>
      have htracked (j : ProducerId) (hj : j ∈ w.manager.trackers) :
          j ∈ service.manager.trackers := by
        simp only [Service.settle?, Option.bind_eq_bind, Option.bind_eq_some_iff, pure,
          Option.some.injEq, Prod.mk.injEq] at hsettle
        obtain ⟨announced, hannounce, rfl, -⟩ := hsettle
        rw [Service.announce?_manager hannounce]
        exact Manager.mem_trackers_finish _ hj
      refine (hlater _ ?_).step hstep rfl rfl (List.append_nil _)
      exact hcan.congr rfl htracked

-- A call does its errands by visits, each followed by its rest.
theorem does_run (errands : List Errand) (hcan : w.CanRun errands) :
    w.Does w (errands.flatMap Errand.acts) (w.service.run w.moment errands) := by
  induction errands generalizing w with
  | nil => exact ⟨[], w, .start, rfl, rfl, rfl, rfl, rfl⟩
  | cons e later ih =>
    obtain ⟨⟨hfree, hcheck⟩, hlater⟩ := List.forall_mem_cons.mp hcan
    have hstep : w.step (.visit e.producer e.visit) =
        some { w.withManager (w.manager.visit w.moment e.producer e.visit).2 with
          held := w.held.insert e.producer (w.manager.visit w.moment e.producer e.visit).1 } := by
      simp only [step]
      rw [if_neg]
      rintro (hheld | ⟨hv, huntracked⟩)
      · exact hfree hheld
      · exact huntracked (hcheck hv)
    refine Does.step (does_resume_of_run (fun _ => ih) Std.ExtTreeMap.getElem?_insert_self ?_)
      hstep rfl ?_ ?_
    · exact CanRun.congr (w := w) hlater (held_insert_erase hfree)
        fun _ => Manager.mem_trackers_visit _
    · exact held_insert_erase hfree
    · rfl

theorem does_resume (hheld : w.held[id]? = some pause) (hcan : (w.letGo id).CanRun later) :
    w.Does (w.letGo id) (.settle id :: later.flatMap Errand.acts)
      (w.service.resume w.moment id pause later) :=
  does_resume_of_run (fun _ => does_run later) hheld hcan

-- The answer to a request is taken up.
theorem does_posted {c : Claim} (answer : Except TransportError Unit) (hc : c ∈ w.claims)
    (hcan : w.CanRun later) :
    w.Does { w with claims := w.claims.erase c }
      (.recoveryPosted c answer :: later.flatMap Errand.acts)
      (w.service.posted w.moment c answer later) := by
  have hstep : w.step (.recoveryPosted c answer) =
      some { w.withManager (w.manager.recoveryPosted w.moment c answer) with
        claims := w.claims.erase c } := by
    simp only [step, if_pos hc]
  refine (does_run (w := { w.withManager _ with claims := _ }) later ?_).step hstep rfl rfl rfl
  exact hcan.congr rfl fun j hj => (Manager.trackers_recoveryPosted c answer).symm ▸ hj

end World

end FeedWatch
