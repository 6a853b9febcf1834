import FeedWatch.Proofs.Calls
import FeedWatch.Proofs.Isolation
import FeedWatch.Proofs.LastAttempt
import FeedWatch.Proofs.LateAnswer
import FeedWatch.Proofs.StatusStream

namespace FeedWatch

-- Addressed to the producer alone.
def Act.IsFor (id : ProducerId) : Act → Prop
  | .visit i _ | .sendLate i | .settle i | .requestEvent _ i _ => i = id
  | .recoveryPosted c _ => c.producer = id
  | .enterEvent call => call.producer = id
  | .eventPosted r _ => r.producer = id
  | _ => False

-- Time passes, or the user reads or leaves.
def Act.IsAside : Act → Bool
  | .moveClock _ | .read _ | .abandon => true
  | _ => false

-- Whatever was asked for was addressed to the producer.
def OnlyFor (id : ProducerId) (past : List Step) : Prop :=
  ∀ s ∈ past, s.act.IsFor id ∨ s.act.IsAside = true

-- What an act says and asks for.
structure Effect where
  messages : List Notification
  recoveries : List Claim
  replays : List EventRequest

def World.requested (w : World) : Act → List EventRequest
  | .enterEvent call => (w.manager.enterEvent w.moment call).1.toOption.toList
  | _ => []

def Step.effect (s : Step) : Effect where
  messages := s.before.delivered s.act
  recoveries := s.before.claimed s.act
  replays := s.before.requested s.act

-- All of it is about the producer, and is asked for under its name.
structure Effect.IsAbout (e : Effect) (id : ProducerId) (x : Tracked) : Prop where
  messages : ∀ n ∈ e.messages, n.producer.id = id
  recoveries : ∀ c ∈ e.recoveries, c.producer = id ∧ x.name Outage.none = .ok c.name
  replays : ∀ r ∈ e.replays, r.producer = id ∧ x.name Outage.none = .ok r.name

theorem Effect.isAbout_none {id : ProducerId} {x : Tracked} : Effect.IsAbout ⟨[], [], []⟩ id x := by
  constructor <;> exact fun _ h => absurd h List.not_mem_nil

namespace World

variable {w v w' v' : World} {a : Act} {id j : ProducerId}

-- What is kept of a producer, and the visit that holds it.
def share (w : World) (id : ProducerId) : (Option Tracker × Option Entry) × Option Pause :=
  (w.manager.share id, w.held[id]?)

-- Two worlds that are the same as far as the producer goes.
structure Agrees (id : ProducerId) (w v : World) : Prop where
  manager : w.manager.Agrees id v.manager
  now : v.now = w.now
  pause : v.held[id]? = w.held[id]?

-- The request that an act answers is out, the call that it enters was made, and there is a
-- stream for what it sends.
def HasOut (w : World) : Act → Prop
  | .sendLate _ => w.service.stream ≠ none
  | .recoveryPosted c _ => c ∈ w.claims
  | .enterEvent call => call ∈ w.eventCalls
  | .eventPosted r _ => r ∈ w.eventRequests
  | _ => True

theorem held_insert_ne {pause : Pause} (hj : j ≠ id) :
    (w.held.insert id pause)[j]? = w.held[j]? := by
  simp [Std.ExtTreeMap.getElem?_insert, hj.symm]

theorem held_erase_ne (hj : j ≠ id) : (w.held.erase id)[j]? = w.held[j]? := by
  simp [Std.ExtTreeMap.getElem?_erase, hj.symm]

-- Time and the user touch nothing of the manager.
theorem manager_of_aside (ha : a.IsAside = true) (h : w.step a = some w') :
    w'.manager = w.manager ∧ w'.held = w.held := by
  cases stepped h with
  | clockMoved => exact ⟨rfl, rfl⟩
  | read => exact ⟨rfl, rfl⟩
  | abandoned => exact ⟨rfl, rfl⟩
  | unread => exact ⟨rfl, rfl⟩
  | notAbandoned => exact ⟨rfl, rfl⟩
  | _ => cases ha

theorem effect_of_aside (w w' : World) (ha : a.IsAside = true) :
    (Step.mk w a w').effect = ⟨[], [], []⟩ := by
  cases a with
  | moveClock => rfl
  | read => rfl
  | abandon => rfl
  | _ => cases ha

theorem share_step_ne (h : w.step a = some w') (ha : a.IsFor id) (hj : j ≠ id) :
    w'.share j = w.share j := by
  cases stepped h with
  | @visited i v =>
    obtain rfl : i = id := ha
    exact Prod.ext (Manager.share_visit_ne v hj) (held_insert_ne hj)
  | @sentLate i =>
    obtain rfl : i = id := ha
    exact Prod.ext rfl (held_insert_ne hj)
  | @settled i pause =>
    obtain rfl : i = id := ha
    exact Prod.ext (Manager.share_finish_ne pause.rest hj) (held_erase_ne hj)
  | @recoveryPosted c answer =>
    obtain rfl : c.producer = id := ha
    exact Prod.ext (Manager.share_recoveryPosted_ne answer hj) rfl
  | @eventCalled kind i event =>
    obtain rfl : i = id := ha
    exact Prod.ext (Manager.share_callEvent_ne kind event hj) rfl
  | @eventEntered call =>
    obtain rfl : call.producer = id := ha
    exact Prod.ext (Manager.share_enterEvent_ne call hj) rfl
  | @eventPosted r answer =>
    obtain rfl : r.producer = id := ha
    exact Prod.ext (Manager.share_eventPosted_ne answer hj) rfl
  | _ => exact ha.elim

namespace Agrees

theorem moment (h : w.Agrees id v) : v.moment = w.moment := congrArg (Moment.mk · Outage.none) h.now

-- The same act does the same to both, and has the same effect.
theorem step (h : w.Agrees id v) (hvalid : w.IsValid) (ha : a.IsFor id)
    (hstep : w.step a = some w') (hstep' : v.step a = some v') :
    w'.Agrees id v' ∧ (Step.mk v a v').effect = (Step.mk w a w').effect := by
  have hmoment := h.moment
  cases stepped hstep with
  | @visited i visit =>
    obtain rfl : i = id := ha
    obtain ⟨hpause, hmanager⟩ := h.manager.visit (t := w.moment) rfl visit
    cases stepped hstep' with
    | visited =>
      rw [hmoment]
      exact ⟨⟨hmanager, h.now, by simp [hpause]⟩, rfl⟩
  | @sentLate i _ _ _ _ hheld =>
    obtain rfl : i = id := ha
    cases stepped hstep' with
    | sentLate hheld' =>
      obtain rfl := Option.some.inj (hheld.symm.trans (h.pause.symm.trans hheld'))
      refine ⟨⟨h.manager, h.now, by simp⟩, ?_⟩
      simp only [Step.effect, delivered, awaited, claimed, requested, hheld, hheld']
  | @settled i pause _ hheld =>
    obtain rfl : i = id := ha
    obtain ⟨hclaimed, hmanager⟩ :=
      h.manager.finish (t := w.moment) rfl hvalid.limit_nonneg pause.rest
    cases stepped hstep' with
    | settled hheld' =>
      obtain rfl := Option.some.inj (hheld.symm.trans (h.pause.symm.trans hheld'))
      have hopen : v.isOpen = w.isOpen := Manager.isOpen_congr h.manager.phase
      rw [hmoment]
      refine ⟨⟨hmanager, h.now, by simp⟩, ?_⟩
      simp only [Step.effect, delivered, awaited, claimed, requested, hheld, hheld', hopen,
        hmoment, Option.bind_some, hclaimed]
  | @recoveryPosted c answer =>
    obtain rfl : c.producer = id := ha
    cases stepped hstep' with
    | recoveryPosted =>
      rw [hmoment]
      exact ⟨⟨h.manager.recoveryPosted rfl answer, h.now, h.pause⟩, rfl⟩
  | @eventCalled kind i event =>
    obtain rfl : i = id := ha
    cases stepped hstep' with
    | eventCalled => exact ⟨⟨(h.manager.callEvent kind event).2, h.now, h.pause⟩, rfl⟩
  | @eventEntered call =>
    obtain rfl : call.producer = id := ha
    obtain ⟨hanswer, hmanager⟩ := h.manager.enterEvent (t := w.moment)
    cases stepped hstep' with
    | eventEntered =>
      rw [hmoment]
      refine ⟨⟨hmanager, h.now, h.pause⟩, ?_⟩
      simp only [Step.effect, delivered, claimed, requested, hmoment, hanswer]
  | @eventPosted r answer =>
    obtain rfl : r.producer = id := ha
    cases stepped hstep' with
    | eventPosted =>
      rw [hmoment]
      exact ⟨⟨h.manager.eventPosted answer, h.now, h.pause⟩, rfl⟩
  | _ => exact ha.elim

theorem aside (h : w.Agrees id v) (ha : a.IsAside = true) (hstep : w.step a = some w')
    (hstep' : v.step a = some v') : w'.Agrees id v' := by
  obtain ⟨hmanager, hheld⟩ := manager_of_aside ha hstep
  obtain ⟨hmanager', hheld'⟩ := manager_of_aside ha hstep'
  refine ⟨by rw [hmanager, hmanager']; exact h.manager, ?_, by rw [hheld, hheld']; exact h.pause⟩
  cases stepped hstep with
  | @clockMoved move =>
    cases stepped hstep' with
    | clockMoved => exact congrArg move.apply h.now
  | read => cases stepped hstep' <;> exact h.now
  | unread => cases stepped hstep' <;> exact h.now
  | abandoned => cases stepped hstep' <;> exact h.now
  | notAbandoned => cases stepped hstep' <;> exact h.now
  | _ => cases ha

theorem step_or_aside (h : w.Agrees id v) (hvalid : w.IsValid)
    (ha : a.IsFor id ∨ a.IsAside = true) (hstep : w.step a = some w')
    (hstep' : v.step a = some v') :
    w'.Agrees id v' ∧ (Step.mk v a v').effect = (Step.mk w a w').effect := by
  obtain ha | ha := ha
  · exact h.step hvalid ha hstep hstep'
  · exact ⟨h.aside ha hstep hstep', by rw [effect_of_aside _ _ ha, effect_of_aside _ _ ha]⟩

theorem exists_step_aside (v : World) (ha : a.IsAside = true) : ∃ v', v.step a = some v' := by
  cases a with
  | moveClock => exact ⟨_, rfl⟩
  | read count =>
    simp only [World.step]
    cases v.service.stream <;> exact ⟨_, rfl⟩
  | abandon =>
    simp only [World.step]
    cases v.service.stream <;> exact ⟨_, rfl⟩
  | _ => cases ha

theorem not_mem_held (h : w.Agrees id v) (hfree : id ∉ w.held) : id ∉ v.held := by
  intro hheld
  obtain ⟨pause, hpause⟩ := Option.isSome_iff_exists.mp
    (Std.ExtTreeMap.mem_iff_isSome_getElem?.mp hheld)
  exact absurd ((getElem?_held_of_not_mem hfree).symm.trans (h.pause.symm.trans hpause)) nofun

theorem mem_trackers (h : w.Agrees id v) (htracked : id ∈ w.manager.trackers) :
    id ∈ v.manager.trackers := by
  have htracker : v.manager.trackers[id]? = w.manager.trackers[id]? :=
    congrArg Prod.fst h.manager.share
  rw [Std.ExtTreeMap.mem_iff_isSome_getElem?, htracker]
  exact Std.ExtTreeMap.mem_iff_isSome_getElem?.mp htracked

-- What can be done in the one can be done in the other, unless its stream is full or what the
-- act needs is not there.
theorem exists_step (h : w.Agrees id v) (ha : a.IsFor id ∨ a.IsAside = true)
    (hstep : w.step a = some w') : (∃ v', v.step a = some v') ∨ v.IsFull ∨ ¬v.HasOut a := by
  obtain ha | ha := ha
  · cases stepped hstep with
    | @visited i visit hfree hcheck =>
      obtain rfl : i = id := ha
      refine .inl ⟨_, if_neg ?_⟩
      rintro (hheld | ⟨hvisit, huntracked⟩)
      · exact h.not_mem_held hfree hheld
      · exact huntracked (h.mem_trackers (hcheck hvisit))
    | @sentLate i pause n _ _ hheld hn _ hclosed =>
      obtain rfl : i = id := ha
      by_cases hout : v.HasOut (.sendLate i)
      · obtain ⟨stream, hstream⟩ := Option.ne_none_iff_exists'.mp hout
        exact (exists_step_sendLate (h.pause.trans hheld) hn hstream
          (h.manager.phase.trans hclosed)).imp id .inl
      · exact .inr (.inr hout)
    | @settled i pause _ hheld =>
      obtain rfl : i = id := ha
      obtain hsettled | hfull := exists_step_settle (h.pause.trans hheld)
      · exact .inl hsettled
      · exact .inr (.inl hfull)
    | @recoveryPosted c answer =>
      by_cases hout : c ∈ v.claims
      · exact .inl (exists_step_posted hout answer)
      · exact .inr (.inr hout)
    | eventCalled => exact .inl ⟨_, rfl⟩
    | @eventEntered call _ hfree =>
      obtain rfl : call.producer = id := ha
      by_cases hout : call ∈ v.eventCalls
      · refine .inl ⟨_, if_neg ?_⟩
        rintro (hnot | hheld)
        · exact hnot hout
        · exact h.not_mem_held hfree hheld
      · exact .inr (.inr hout)
    | @eventPosted r answer _ hfree =>
      obtain rfl : r.producer = id := ha
      by_cases hout : r ∈ v.eventRequests
      · refine .inl ⟨_, if_neg ?_⟩
        rintro (hnot | ⟨hheld, hfail⟩)
        · exact hnot hout
        · exact h.not_mem_held (hfree hfail) hheld
      · exact .inr (.inr hout)
    | _ => exact ha.elim
  · exact .inl (exists_step_aside v ha)

end Agrees

end World

namespace Run

variable {w₀ w v w' v' : World} {past past' : List Step} {a : Act} {id j : ProducerId}

theorem share_ne (h : Run w past w') (hfor : OnlyFor id past) (hj : j ≠ id) :
    w'.share j = w.share j := by
  induction h with
  | start => rfl
  | step hrun hstep ih =>
    obtain ⟨ha, hearlier⟩ := List.forall_mem_cons.mp hfor
    refine Eq.trans ?_ (ih hearlier)
    obtain ha | ha := ha
    · exact World.share_step_ne hstep ha hj
    · obtain ⟨hmanager, hheld⟩ := World.manager_of_aside ha hstep
      simp only [World.share, hmanager, hheld]

theorem agrees (h : Run w past w') (h' : Run v past' v') (hvalid : w.IsValid)
    (hagrees : w.Agrees id v) (hfor : OnlyFor id past)
    (hacts : past'.map Step.act = past.map Step.act) :
    w'.Agrees id v' ∧ past'.map Step.effect = past.map Step.effect := by
  induction h generalizing v' past' with
  | start =>
    obtain rfl := List.map_eq_nil_iff.mp hacts
    cases h'
    exact ⟨hagrees, rfl⟩
  | step hrun hstep ih =>
    obtain ⟨ha, hearlier⟩ := List.forall_mem_cons.mp hfor
    cases h' with
    | start => exact absurd hacts nofun
    | step hrun' hstep' =>
      obtain ⟨hact, hsame⟩ := List.cons.inj hacts
      obtain rfl := hact
      obtain ⟨hbefore, heffects⟩ := ih hrun' hearlier hsame
      obtain ⟨hafter, heffect⟩ := hbefore.step_or_aside (hrun.isValid hvalid) ha hstep hstep'
      exact ⟨hafter, by rw [List.map_cons, List.map_cons, heffect, heffects]⟩

-- What was done to a producer in the one world can be done in the other up to where the
-- stream is full or what an act needs is not there.
theorem exists_run (h : Run w past w') (hvalid : w.IsValid) (hagrees : w.Agrees id v)
    (hfor : OnlyFor id past) : ∃ past' v', Run v past' v' ∧
      (past'.map Step.act = past.map Step.act ∨
        ∃ a, a :: past'.map Step.act <:+ past.map Step.act ∧ (v'.IsFull ∨ ¬v'.HasOut a)) := by
  induction h with
  | start => exact ⟨[], v, .start, .inl rfl⟩
  | @step past w w' a hrun hstep ih =>
    obtain ⟨ha, hearlier⟩ := List.forall_mem_cons.mp hfor
    obtain ⟨past', v', hrun', hacts | ⟨b, hsuffix, hstuck⟩⟩ := ih hearlier
    · obtain ⟨hbefore, -⟩ := hrun.agrees hrun' hvalid hagrees hearlier hacts
      obtain ⟨v'', hstep'⟩ | hstuck := hbefore.exists_step ha hstep
      · exact ⟨_, v'', hrun'.step hstep', .inl (congrArg (a :: ·) hacts)⟩
      · exact ⟨past', v', hrun', .inr ⟨a, by simp [hacts], hstuck⟩⟩
    · exact ⟨past', v', hrun', .inr ⟨b, hsuffix.trans (List.suffix_cons _ _), hstuck⟩⟩

theorem effect_isAbout (h : Run w₀ past w) (hstart : w₀.IsFresh) (hstep : w.step a = some w')
    (ha : a.IsFor id ∨ a.IsAside = true) :
    (Step.mk w a w').effect.IsAbout id (w.tracked id) := by
  obtain ha | ha := ha
  · cases World.stepped hstep with
    | visited => exact Effect.isAbout_none
    | @settled i pause _ hheld =>
      obtain rfl : i = id := ha
      refine ⟨fun n hn => ?_, fun c hc => ?_, fun _ h => absurd h List.not_mem_nil⟩
      · simp only [Step.effect, World.delivered] at hn
        split at hn
        · exact h.awaits_own hstart hn
        · exact absurd hn List.not_mem_nil
      · simp only [Step.effect, World.claimed, hheld, Option.bind_some, Option.mem_toList] at hc
        have hfinish : Finished w.scene (w.manager.tracked i) w.manager.ids pause.rest _ _ _ :=
          w.manager.finish_finished rfl (h.isValid hstart.isValid).limit_nonneg pause.rest
        rw [hc] at hfinish
        obtain ⟨p, hp, hname⟩ := hfinish.name_eq
        have hp' : (w.tracked i).producer Outage.none = .ok p := hp
        exact ⟨hfinish.claim_eq.1, by rw [Tracked.name, hp', hname]; rfl⟩
    | @sentLate i =>
      obtain rfl : i = id := ha
      exact ⟨fun _ hn => h.awaits_own hstart hn, fun _ h => absurd h List.not_mem_nil,
        fun _ h => absurd h List.not_mem_nil⟩
    | recoveryPosted => exact Effect.isAbout_none
    | eventCalled => exact Effect.isAbout_none
    | @eventEntered call =>
      obtain rfl : call.producer = id := ha
      refine ⟨fun _ h => absurd h List.not_mem_nil, fun _ h => absurd h List.not_mem_nil,
        fun r hr => ?_⟩
      simp only [Step.effect, World.requested, Manager.enterEvent_eq] at hr
      split at hr <;> rename_i hname
      · obtain rfl := List.mem_singleton.mp hr
        exact ⟨rfl, hname⟩
      · exact absurd hr List.not_mem_nil
    | eventPosted => exact Effect.isAbout_none
    | _ => exact ha.elim
  · rw [World.effect_of_aside _ _ ha]
    exact Effect.isAbout_none

end Run

end FeedWatch
