import FeedWatch.Proofs.Progress
import FeedWatch.Proofs.StatusStream

namespace FeedWatch

-- When the reason that counts as told became another one for the last time, the manager was
-- not open.
def WasLost (id : ProducerId) : List Step → Prop :=
  Since
    (fun s => (s.after.tracked id).tracker.toldReason = (s.before.tracked id).tracker.toldReason)
    (fun s => s.before.isOpen = false ∧
      (s.after.tracked id).tracker.toldReason ≠ (s.before.tracked id).tracker.toldReason)

-- The last visit to the producer was a health check that found it silent.
def IsFoundSilent (id : ProducerId) : List Step → Prop :=
  Since (fun s => ∀ v, s.act ≠ .visit id v)
    (fun s => s.act = .visit id .healthCheck ∧ (s.before.tracked id).isEnabled = true ∧
      s.before.scene.isSilent (s.before.tracked id))

-- The statuses of a producer that stands like this. Its last reason is that of the last
-- status, or was lost before any status.
structure Standing.IsHeardOf (s : Standing) (wasLost : Prop) (l : List StatusChange) : Prop where
  faithful : ∀ c ∈ l, c.IsFaithful
  lost : wasLost → l = []
  last : ¬wasLost → s.toldReason = l.getLast?.map StatusChange.reason

section Lost

variable {id : ProducerId} {s : Step} {past : List Step}

theorem wasLost_cons_of_same
    (hsame : (s.after.tracked id).tracker.toldReason = (s.before.tracked id).tracker.toldReason) :
    WasLost id (s :: past) ↔ WasLost id past := by
  constructor
  · rintro (⟨-, hother⟩ | ⟨-, hpast⟩)
    · exact absurd hsame hother
    · exact hpast
  · intro hpast
    exact .inr ⟨hsame, hpast⟩

-- In an open manager another reason is not lost.
theorem not_wasLost_cons (hopen : s.before.isOpen = true)
    (hother : (s.after.tracked id).tracker.toldReason ≠ (s.before.tracked id).tracker.toldReason) :
    ¬WasLost id (s :: past) := by
  rintro (⟨hshut, -⟩ | ⟨hsame, -⟩)
  · exact absurd (hshut.symm.trans hopen) nofun
  · exact hother hsame

end Lost

namespace Standing

variable {s s' : Standing} {wasLost wasLost' : Prop} {l told : List StatusChange}

theorem IsHeardOf.stays (h : s.IsHeardOf wasLost l) (htold : s'.toldReason = s.toldReason)
    (hlost : wasLost' ↔ wasLost) : s'.IsHeardOf wasLost' l where
  faithful := h.faithful
  lost hyes := h.lost (hlost.mp hyes)
  last hno := htold.trans (h.last fun hyes => hno (hlost.mpr hyes))

-- In an open manager the news is the last status.
theorem IsHeardOf.tells (h : s.IsHeardOf wasLost l) (ht : s.Tells s' told)
    (hsame : s'.toldReason = s.toldReason → (wasLost' ↔ wasLost))
    (hother : s'.toldReason ≠ s.toldReason → ¬wasLost') : s'.IsHeardOf wasLost' (l ++ told) := by
  cases ht with
  | nothing htold =>
    rw [List.append_nil]
    exact h.stays htold (hsame htold)
  | @news c hfaithful hnews htold =>
    have hno : ¬wasLost' := hother fun hstays => hnews (hstays.symm.trans htold)
    refine ⟨fun c' hc' => ?_, fun hyes => absurd hyes hno, fun _ => ?_⟩
    · obtain hold | hnew := List.mem_append.mp hc'
      · exact h.faithful c' hold
      · exact List.mem_singleton.mp hnew ▸ hfaithful
    · rw [htold, List.getLast?_concat]
      rfl

end Standing

-- Nothing leaves while the manager is not open, and nothing of a producer that cannot be read.
theorem Scene.Hears.eq_none {sc : Scene} {x : Tracked} {isDown : Bool} {reason : StatusReason}
    {n : Option Notification} (h : sc.Hears x isDown reason n) (hmem : sc.outage = Outage.none)
    (hmute : sc.isOpen = false ∨ ¬x.IsReadable) : n = none := by
  obtain ⟨y, hy, -, -, rfl⟩ := h
  unfold notice
  split
  · rfl
  · split <;> rename_i hp
    · rfl
    · obtain hshut | hlost := hmute
      · simp [hshut]
      · exact absurd (hy.isReadable.mp ⟨_, hmem ▸ hp⟩) hlost

theorem Turned.tells_nothing {sc : Scene} {x : Tracked} {v : Visit} {pause : Pause} {s : Standing}
    {id : ProducerId} (h : Turned sc x v pause s) (hmem : sc.outage = Outage.none)
    (hmute : sc.isOpen = false ∨ ¬x.IsReadable) :
    Notification.statuses id pause.notification.toList = [] := by
  have hnothing {isDown : Bool} {reason : StatusReason} {n : Option Notification}
      (hears : sc.Hears x isDown reason n) : Notification.statuses id n.toList = [] := by
    rw [hears.eq_none hmem hmute]
    rfl
  cases h with
  | quiet _ hquiet => exact Notification.statuses_eq_nil hquiet
  | asking => rfl
  | checking => rfl
  | cutOff _ hears => exact hnothing hears
  | returned _ _ _ _ hears => exact hnothing hears
  | completed _ _ _ hears => exact hnothing hears
  | silent _ hears => exact hnothing hears
  | delayed _ hears => exact hnothing hears

namespace World

variable {w w' : World} {a : Act} {id : ProducerId}

theorem statuses_eq_nil_iff :
    w.statuses id = [] ↔
      Notification.statuses id w.sent = [] ∧ Notification.statuses id (w.awaited id) = [] := by
  rw [statuses, Notification.statuses_append, List.append_eq_nil_iff]

theorem toldReason_of_silent (h : w.step (.visit id .healthCheck) = some w')
    (henabled : (w.tracked id).isEnabled = true) (hsilent : w.scene.isSilent (w.tracked id)) :
    (w'.tracked id).tracker.toldReason = some .aliveInterval := by
  cases stepped h with
  | visited =>
    have hafter := Manager.visit_silent (t := w.moment) rfl henabled hsilent
    exact congrArg (fun x : Tracked => x.tracker.toldReason) hafter

theorem not_isOpen_of_created (hcreated : w.manager.phase = .created) : w.isOpen = false := by
  simp [isOpen, Manager.isOpen, hcreated]

-- An opened manager that is still listened to was so before.
theorem opened_of_step (hcreated : w.manager.phase ≠ .created) (hstep : w.step a = some w')
    (hlive : w'.manager.phase = .created ∨ w'.isOpen = true ∧ w'.HasReader) :
    w.isOpen = true ∧ w.HasReader ∧ a ≠ .abandon := by
  obtain hcreated' | ⟨hopen, hreader⟩ := hlive
  · exact absurd hcreated' ((Run.start.step hstep).not_created hcreated)
  · have hbefore := Run.start.isOpen_of_step hcreated hstep hopen
    exact ⟨hbefore, hasReader_of_step hstep hcreated hreader⟩

end World

namespace Run

variable {w₀ w : World} {past : List Step} {id : ProducerId}

-- Before the opening nothing was open.
theorem not_isOpen_of_created (h : Run w₀ past w) (hcreated : w.manager.phase = .created) :
    ∀ s ∈ past, s.before.isOpen = false := by
  induction h with
  | start => exact fun _ hs => absurd hs List.not_mem_nil
  | step hrun hstep ih =>
    obtain hsame | ⟨-, hopened⟩ | hclosed := World.phase_step hstep
    · have hbefore := hsame.symm.trans hcreated
      exact List.forall_mem_cons.mpr ⟨World.not_isOpen_of_created hbefore, ih hbefore⟩
    · cases hcreated.symm.trans hopened
    · cases hcreated.symm.trans hclosed

-- Where all was mute no status has left or is about to.
theorem statuses_eq_nil (h : Run w₀ past w) (hstart : w₀.IsFresh)
    (hmute : ∀ s ∈ past, s.before.isOpen = false ∨ ¬(w₀.tracked id).IsReadable) :
    w.statuses id = [] := by
  induction h with
  | start =>
    rw [World.statuses, hstart.sent, World.awaited, hstart.held]
    simp [Notification.statuses]
  | @step past w w' a hrun hstep ih =>
    obtain ⟨hlast, hmute⟩ := List.forall_mem_cons.mp hmute
    obtain ⟨hsent, hawaited⟩ := World.statuses_eq_nil_iff.mp (ih hmute)
    refine World.statuses_eq_nil_iff.mpr ⟨?_, ?_⟩
    · have hdelivered : Notification.statuses id (w.delivered a) = [] := by
        by_cases hsettle : a = .settle id
        · subst hsettle
          simp only [World.delivered]
          split
          · exact hawaited
          · rfl
        by_cases hlate : a = .sendLate id
        · subst hlate
          exact hawaited
        · exact hrun.statuses_delivered hstart hsettle hlate
      have hless : (Notification.statuses id w'.sent).Sublist
          (Notification.statuses id (w.sent ++ w.delivered a)) :=
        (World.step_sent_sublist hstep).filterMap _
      rw [Notification.statuses_append, hsent, hdelivered] at hless
      exact List.sublist_nil.mp hless
    · cases hrun.moved hstart.isValid hstep id with
      | visited _ hheld hvisit =>
        rw [World.awaited_of_held hheld]
        refine hvisit.turned.tells_nothing rfl (hlast.imp_right fun hlost hread => hlost ?_)
        exact (hrun.sameDescription hstart.isValid id).isReadable.mp hread
      | settled _ hfree =>
        rw [World.awaited_of_free hfree]
        rfl
      | touched hvisit =>
        refine List.filterMap_eq_nil_iff.mpr fun n hn => ?_
        exact List.filterMap_eq_nil_iff.mp hawaited n (World.mem_awaited_of_step hstep hvisit hn)

-- Every reason before the opening is lost.
theorem toldReason_eq_none (h : Run w₀ past w) (hstart : w₀.IsFresh)
    (hshut : ∀ s ∈ past, s.before.isOpen = false) (hno : ¬WasLost id past) :
    (w.tracked id).tracker.toldReason = none := by
  induction h with
  | start => exact congrArg Standing.toldReason (hstart.standing id)
  | @step past w w' a hrun hstep ih =>
    obtain ⟨hlast, hshut⟩ := List.forall_mem_cons.mp hshut
    by_cases hsame : (w'.tracked id).tracker.toldReason = (w.tracked id).tracker.toldReason
    · rw [hsame]
      exact ih hshut fun hlost => hno ((wasLost_cons_of_same hsame).mpr hlost)
    · exact absurd (.inl ⟨hlast, hsame⟩) hno

theorem isHeardOf_of_shut (h : Run w₀ past w) (hstart : w₀.IsFresh)
    (hshut : ∀ s ∈ past, s.before.isOpen = false) :
    (w.tracked id).standing.IsHeardOf (WasLost id past) (w.statuses id) := by
  rw [h.statuses_eq_nil hstart fun s hs => .inl (hshut s hs)]
  exact ⟨fun _ hc => absurd hc List.not_mem_nil, fun _ => rfl, h.toldReason_eq_none hstart hshut⟩

-- From the opening on a new reason is heard of, until the closing and as long as someone
-- listens.
theorem isHeardOf (h : Run w₀ past w) (hstart : w₀.IsFresh) (hread : (w₀.tracked id).IsReadable)
    (hlive : w.manager.phase = .created ∨ w.isOpen = true ∧ w.HasReader) :
    (w.tracked id).standing.IsHeardOf (WasLost id past) (w.statuses id) := by
  induction h with
  | start => exact Run.start.isHeardOf_of_shut hstart fun _ hs => absurd hs List.not_mem_nil
  | @step past w w' a hrun hstep ih =>
    by_cases hcreated : w.manager.phase = .created
    · have hshut := World.not_isOpen_of_created hcreated
      exact (hrun.step hstep).isHeardOf_of_shut hstart
        (List.forall_mem_cons.mpr ⟨hshut, hrun.not_isOpen_of_created hcreated⟩)
    · obtain ⟨hopen, hreader, hact⟩ := World.opened_of_step hcreated hstep hlive
      have hheard := ih (.inr ⟨hopen, hreader⟩)
      obtain ⟨-, hsent⟩ := World.step_sent hreader hcreated hact hstep
      cases hrun.moved hstart.isValid hstep id with
      | visited hfree hheld hvisit =>
        rw [World.statuses_visited hsent hfree hheld]
        have htells := hvisit.turned.tells rfl hopen (hrun.isReadable hstart.isValid hread)
          (hrun.isAddressed hstart id)
        exact hheard.tells htells (fun hsame => wasLost_cons_of_same hsame)
          fun hother => not_wasLost_cons hopen hother
      | settled hheld hfree _ hfinish =>
        have hsame := hfinish.ended.toldReason
        rw [World.statuses_settled hsent hopen hfree]
        exact hheard.stays hsame (wasLost_cons_of_same hsame)
      | touched _ hsettle _ htouched hkept =>
        have hsame := congrArg Standing.toldReason htouched.standing
        have hlate := World.ne_sendLate hopen hstep id
        rw [World.statuses_aside hsent (hrun.statuses_delivered hstart hsettle hlate) (hkept hlate)]
        exact hheard.stays hsame (wasLost_cons_of_same hsame)

-- The silence counts as told from then on.
theorem toldReason_of_isFoundSilent (h : Run w₀ past w) (hstart : w₀.IsFresh)
    (hsilent : IsFoundSilent id past) : (w.tracked id).tracker.toldReason = some .aliveInterval := by
  induction h with
  | start => exact hsilent.elim
  | @step past w w' a hrun hstep ih =>
    obtain ⟨hact, henabled, hlong⟩ | ⟨hvisit, hpast⟩ := hsilent
    · obtain rfl : a = .visit id .healthCheck := hact
      exact World.toldReason_of_silent hstep henabled hlong
    · have hbefore := ih hpast
      cases hrun.moved hstart.isValid hstep id with
      | visited => exact absurd rfl (hvisit _)
      | settled _ _ _ hfinish => exact hfinish.ended.toldReason.trans hbefore
      | touched _ _ _ htouched =>
        exact (congrArg Standing.toldReason htouched.standing).trans hbefore

-- After a health check found a producer silent, the last status that was sent of it says so
-- exactly if the producer can be read and the reason was not lost before the opening.
theorem silence_is_told_iff (h : Run w₀ past w) (hstart : w₀.IsFresh)
    (hsilent : IsFoundSilent id past) (hsettled : id ∉ w.held) (hopen : w.isOpen = true)
    (hreader : w.HasReader) :
    (∃ c, (Notification.statuses id w.sent).getLast? = some c ∧ c.isDown = true ∧
        c.reason = .aliveInterval) ↔
      (w₀.tracked id).IsReadable ∧ ¬WasLost id past := by
  have hsent : w.statuses id = Notification.statuses id w.sent := by
    rw [World.statuses, World.awaited_of_free (World.getElem?_held_of_not_mem hsettled),
      List.append_nil]
  rw [← hsent]
  have htold := h.toldReason_of_isFoundSilent hstart hsilent
  constructor
  · rintro ⟨c, hlast, -⟩
    have hread : (w₀.tracked id).IsReadable := by
      by_contra hlost
      rw [h.statuses_eq_nil hstart fun _ _ => .inr hlost] at hlast
      cases hlast
    refine ⟨hread, fun hlost => ?_⟩
    rw [(h.isHeardOf hstart hread (.inr ⟨hopen, hreader⟩)).lost hlost] at hlast
    cases hlast
  · rintro ⟨hread, hno⟩
    have hheard := h.isHeardOf hstart hread (.inr ⟨hopen, hreader⟩)
    have hreason : (w.statuses id).getLast?.map StatusChange.reason = some .aliveInterval :=
      (hheard.last hno).symm.trans htold
    obtain ⟨c, hlast, hc⟩ := Option.map_eq_some_iff.mp hreason
    have hfaithful := hheard.faithful c (List.mem_of_getLast? hlast)
    exact ⟨c, hlast, hfaithful.down.mpr (.inl hc), hc⟩

end Run

-- The producer falls silent before the opening, and is found so once more after it.
def earlySilenceActs : List Act :=
  [.visit ⟨1⟩ (.messageStarted 600000), .settle ⟨1⟩, .visit ⟨1⟩ .healthCheck, .settle ⟨1⟩, .start,
    .visit ⟨1⟩ .healthCheck, .settle ⟨1⟩]

theorem Run.early_silence_is_untold : ∃ past w, Run World.ofLiveOdds past w ∧
    IsFoundSilent ⟨1⟩ past ∧ w.isOpen = true ∧ w.HasReader ∧ WasLost ⟨1⟩ past ∧
    ¬∃ c, (Notification.statuses ⟨1⟩ w.sent).getLast? = some c ∧ c.isDown = true ∧
      c.reason = .aliveInterval := by
  have hrun : Run World.ofLiveOdds _ _ := Run.start.play earlySilenceActs
  have hsilent : IsFoundSilent ⟨1⟩ (World.ofLiveOdds.play [] earlySilenceActs).1 := by
    refine .inr ⟨nofun, .inl ⟨rfl, rfl, ?_⟩⟩
    decide +kernel
  have hlost : WasLost ⟨1⟩ (World.ofLiveOdds.play [] earlySilenceActs).1 := by
    refine .inr ⟨rfl, .inr ⟨rfl, .inr ⟨rfl, .inr ⟨rfl, .inl ⟨rfl, ?_⟩⟩⟩⟩⟩
    decide +kernel
  have hreader : (World.ofLiveOdds.play [] earlySilenceActs).2.HasReader := ⟨_, rfl, rfl⟩
  have hiff := hrun.silence_is_told_iff World.isFresh_ofLiveOdds hsilent (by decide +kernel) rfl
    hreader
  refine ⟨_, _, hrun, hsilent, rfl, hreader, hlost, fun htold => ?_⟩
  obtain ⟨-, hkept⟩ := hiff.mp htold
  exact hkept hlost

end FeedWatch
