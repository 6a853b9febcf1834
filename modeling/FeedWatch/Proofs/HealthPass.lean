import FeedWatch.Proofs.Separation

namespace FeedWatch

-- The health check of the producers, one after the other.
def Act.checks (order : List ProducerId) : List Act :=
  order.flatMap fun id => [.visit id .healthCheck, .settle id]

-- One pass of the health check in this order. Time may pass and the user may read meanwhile.
def IsPass (order : List ProducerId) (past : List Step) : Prop :=
  (past.reverse.filter fun s => !s.act.IsAside).map Step.act = Act.checks order

-- What the clock reads when each producer is checked.
def ChecksAt (clock : ProducerId → Instant) (past : List Step) : Prop :=
  ∀ s ∈ past, ∀ id, s.act = .visit id .healthCheck → s.before.now = clock id

-- All that was said, in order.
def messages (past : List Step) : List Notification :=
  past.reverse.flatMap fun s => s.effect.messages

-- What was said about a producer, in order.
def messagesAbout (id : ProducerId) (past : List Step) : List Notification :=
  (messages past).filter fun n => n.producer.id = id

theorem messages_cons (s : Step) (past : List Step) :
    messages (s :: past) = messages past ++ s.effect.messages := by
  simp [messages]

theorem messagesAbout_append (id : ProducerId) (past past' : List Step) :
    messagesAbout id (past' ++ past) = messagesAbout id past ++ messagesAbout id past' := by
  simp [messagesAbout, messages]

theorem messagesAbout_cons (id : ProducerId) (s : Step) (past : List Step) :
    messagesAbout id (s :: past) =
      messagesAbout id past ++ s.effect.messages.filter fun n => n.producer.id = id := by
  simp [messagesAbout, messages]

theorem messagesAbout_asides {id : ProducerId} {past : List Step}
    (h : ∀ s ∈ past, s.act.IsAside = true) : messagesAbout id past = [] := by
  induction past with
  | nil => rfl
  | cons s past ih =>
    obtain ⟨hs, hpast⟩ := List.forall_mem_cons.mp h
    rw [messagesAbout_cons, ih hpast, World.effect_of_aside s.before s.after hs]
    rfl

theorem isPass_nil {past : List Step} : IsPass [] past ↔ ∀ s ∈ past, s.act.IsAside = true := by
  simp [IsPass, Act.checks]

-- The first check of a pass, and the pass that is left.
theorem IsPass.cons {id : ProducerId} {order : List ProducerId} {past : List Step}
    (h : IsPass (id :: order) past) :
    ∃ later settled between visited earlier,
      past = later ++ settled :: (between ++ visited :: earlier) ∧
      visited.act = .visit id .healthCheck ∧ settled.act = .settle id ∧
      (∀ s ∈ earlier, s.act.IsAside = true) ∧ (∀ s ∈ between, s.act.IsAside = true) ∧
      IsPass order later := by
  obtain ⟨visited, rest, hvisited, hact, hrest⟩ := List.map_eq_cons_iff.mp h
  obtain ⟨settled, rest', hsettled, hact', hrest'⟩ := List.map_eq_cons_iff.mp hrest
  obtain ⟨earlier, l, hl, hearlier, -, hfilter⟩ := List.filter_eq_cons_iff.mp hvisited
  rw [hsettled] at hfilter
  obtain ⟨between, later, rfl, hbetween, -, hfilter'⟩ := List.filter_eq_cons_iff.mp hfilter
  refine ⟨later.reverse, settled, between.reverse, visited, earlier.reverse, ?_, hact, hact',
    by simpa using hearlier, by simpa using hbetween, ?_⟩
  · rw [← List.reverse_reverse past, hl]
    simp
  · simp only [IsPass, List.reverse_reverse, hfilter', hrest']
    rfl

-- A check leaves nothing to be done after its notification.
theorem Visited.rest_of_check {sc : Scene} {x y : Tracked} {pause : Pause}
    (h : Visited sc x .healthCheck pause y) : pause.rest = .done := by
  cases h <;> rfl

-- What a pass comes to: each of its producers is left as a check of it alone leaves it, and
-- the user is told what such a check tells. No request goes out.
structure Checked (clock : ProducerId → Instant) (order : List ProducerId) (w w' : World)
    (past : List Step) : Prop where
  config : w'.manager.config = w.manager.config
  phase : w'.manager.phase = w.manager.phase
  ids : w'.manager.ids = w.manager.ids
  fallback : w'.manager.directory.fallback = w.manager.directory.fallback
  others : ∀ id ∉ order, w'.share id = w.share id ∧ messagesAbout id past = []
  share : ∀ id ∈ order, w'.share id =
    ((w.manager.visit { now := clock id } id .healthCheck).2.share id, none)
  messages : ∀ id ∈ order, messagesAbout id past =
    if w.isOpen then
      (w.manager.visit { now := clock id } id .healthCheck).1.notification.toList
    else []
  calls : ∀ s ∈ past, s.effect.recoveries = [] ∧ s.effect.replays = []

namespace Run

variable {w₀ w w₁ w₂ w' : World} {past : List Step} {id : ProducerId}

theorem manager_of_asides (h : Run w past w') (hasides : ∀ s ∈ past, s.act.IsAside = true) :
    w'.manager = w.manager ∧ w'.held = w.held := by
  induction h with
  | start => exact ⟨rfl, rfl⟩
  | step hrun hstep ih =>
    obtain ⟨ha, hearlier⟩ := List.forall_mem_cons.mp hasides
    obtain ⟨hmanager, hheld⟩ := ih hearlier
    obtain ⟨hmanager', hheld'⟩ := World.manager_of_aside ha hstep
    exact ⟨hmanager'.trans hmanager, hheld'.trans hheld⟩

end Run

namespace World

variable {w w₁ w₂ w' : World} {id : ProducerId}

theorem of_step_visit {v : Visit} (h : w.step (.visit id v) = some w') :
    id ∉ w.held ∧ w'.manager = (w.manager.visit w.moment id v).2 ∧
      w'.held = w.held.insert id (w.manager.visit w.moment id v).1 := by
  cases stepped h with
  | visited hfree => exact ⟨hfree, rfl, rfl⟩

-- A producer that is held for a check is let go as the check left it.
theorem settle_of_check {pause : Pause} (hstep : w.step (.settle id) = some w')
    (hheld : w.held[id]? = some pause) (hrest : pause.rest = .done) :
    w'.manager = w.manager ∧ w'.held = w.held.erase id ∧
      (Step.mk w (.settle id) w').effect =
        ⟨if w.isOpen then pause.notification.toList else [], [], []⟩ := by
  cases stepped hstep with
  | settled hheld' =>
    obtain rfl := Option.some.inj (hheld.symm.trans hheld')
    have hdone : w.manager.finish w.moment id pause.rest = (none, w.manager) := if_pos hrest
    refine ⟨congrArg Prod.snd hdone, rfl, ?_⟩
    simp only [Step.effect, delivered, awaited, claimed, requested, hheld, Option.bind_some, hdone]
    rfl

end World

-- A check of one producer alone.
structure CheckedOne (now : Instant) (id : ProducerId) (w w' : World) (past : List Step) :
    Prop where
  free : id ∉ w.held
  manager : w'.manager = (w.manager.visit { now } id .healthCheck).2
  held : w'.held = w.held
  messages : ∀ j, messagesAbout j past =
    (if w.isOpen then (w.manager.visit { now } id .healthCheck).1.notification.toList else []).filter
      fun n => n.producer.id = j
  calls : ∀ s ∈ past, s.effect.recoveries = [] ∧ s.effect.replays = []

theorem calls_of_asides {past : List Step} (h : ∀ s ∈ past, s.act.IsAside = true) :
    ∀ s ∈ past, s.effect.recoveries = [] ∧ s.effect.replays = [] := by
  intro s hs
  rw [World.effect_of_aside s.before s.after (h s hs)]
  exact ⟨rfl, rfl⟩

namespace Run

variable {w₀ w w' : World} {id : ProducerId}

theorem checkedOne {visited settled : Step} {earlier between : List Step}
    (h : Run w (settled :: (between ++ visited :: earlier)) w')
    (hvisited : visited.act = .visit id .healthCheck) (hsettled : settled.act = .settle id)
    (hearlier : ∀ s ∈ earlier, s.act.IsAside = true)
    (hbetween : ∀ s ∈ between, s.act.IsAside = true) :
    CheckedOne visited.before.now id w w' (settled :: (between ++ visited :: earlier)) := by
  cases h with
  | @step _ w₁ _ a hrun hsettle =>
    obtain rfl : a = .settle id := hsettled
    obtain ⟨hbefore, hvisit, hwait⟩ := hrun.split
    rw [hvisited] at hvisit
    obtain ⟨hmanager, hheld⟩ := hbefore.manager_of_asides hearlier
    obtain ⟨hfree, hafter, hinsert⟩ := World.of_step_visit hvisit
    obtain ⟨hmanager', hheld'⟩ := hwait.manager_of_asides hbetween
    rw [hmanager] at hafter hinsert
    rw [hheld] at hfree hinsert
    have hpause : w₁.held[id]? =
        some (w.manager.visit visited.before.moment id .healthCheck).1 := by
      rw [hheld', hinsert, Std.ExtTreeMap.getElem?_insert_self]
    have hrest : (w.manager.visit visited.before.moment id .healthCheck).1.rest = .done :=
      (w.manager.visit_visited rfl .healthCheck).rest_of_check
    have hopen : w₁.isOpen = w.isOpen := by
      have hphase : w₁.manager.phase = w.manager.phase := by
        rw [hmanager', hafter, (Manager.visit_setting _).2]
      exact Manager.isOpen_congr hphase
    obtain ⟨hleft, hlet, heffect⟩ := World.settle_of_check hsettle hpause hrest
    refine ⟨hfree, hleft.trans (hmanager'.trans hafter), ?_, fun j => ?_, fun s hs => ?_⟩
    · rw [hlet, hheld', hinsert, World.held_insert_erase hfree]
    · have hvisit' : visited.effect.messages = [] := by
        simp only [Step.effect, hvisited, World.delivered]
      rw [messagesAbout_cons, messagesAbout_append, messagesAbout_cons, messagesAbout_asides hearlier,
        messagesAbout_asides hbetween, hvisit', heffect, hopen]
      rfl
    · obtain rfl | hs := List.mem_cons.mp hs
      · rw [heffect]
        exact ⟨rfl, rfl⟩
      · obtain hs | hs := List.mem_append.mp hs
        · exact calls_of_asides hbetween s hs
        · obtain rfl | hs := List.mem_cons.mp hs
          · simp only [Step.effect, hvisited, World.claimed, World.requested, and_self]
          · exact calls_of_asides hearlier s hs

end Run

namespace CheckedOne

variable {now : Instant} {id j : ProducerId} {w w' : World} {past : List Step}

theorem visited (h : CheckedOne now id w w' past) :
    Visited (w.manager.scene { now }) (w.tracked id) .healthCheck
      (w.manager.visit { now } id .healthCheck).1 (w'.tracked id) := by
  rw [World.tracked, World.tracked, h.manager]
  exact w.manager.visit_visited rfl .healthCheck

theorem config (h : CheckedOne now id w w' past) : w'.manager.config = w.manager.config := by
  rw [h.manager]
  exact (Manager.visit_setting _).1

theorem phase (h : CheckedOne now id w w' past) : w'.manager.phase = w.manager.phase := by
  rw [h.manager]
  exact (Manager.visit_setting _).2

theorem ids (h : CheckedOne now id w w' past) : w'.manager.ids = w.manager.ids := by
  rw [h.manager]
  exact (Manager.visit_unclaimed _).ids

theorem fallback (h : CheckedOne now id w w' past) :
    w'.manager.directory.fallback = w.manager.directory.fallback :=
  h.visited.sameDescription.fallback

theorem isOpen_eq (h : CheckedOne now id w w' past) : w'.isOpen = w.isOpen :=
  Manager.isOpen_congr h.phase

theorem share (h : CheckedOne now id w w' past) :
    w'.share id = ((w.manager.visit { now } id .healthCheck).2.share id, none) := by
  rw [World.share, h.manager, h.held, World.getElem?_held_of_not_mem h.free]

theorem share_ne (h : CheckedOne now id w w' past) (hj : j ≠ id) : w'.share j = w.share j := by
  rw [World.share, World.share, h.manager, h.held, Manager.share_visit_ne _ hj]

-- The others find the manager as they would have found it before.
theorem agrees (h : CheckedOne now id w w' past) (hj : j ≠ id) :
    w.manager.Agrees j w'.manager :=
  ⟨h.config, h.phase, h.ids, congrArg Prod.fst (h.share_ne hj)⟩

theorem messages_self (h : CheckedOne now id w w' past)
    (haddressed : (w.tracked id).IsAddressed id) : messagesAbout id past =
      if w.isOpen then (w.manager.visit { now } id .healthCheck).1.notification.toList else [] := by
  rw [h.messages, List.filter_eq_self]
  intro n hn
  split at hn
  · simp [h.visited.producer_id rfl haddressed (Option.mem_toList.mp hn)]
  · exact absurd hn List.not_mem_nil

theorem messages_ne (h : CheckedOne now id w w' past)
    (haddressed : (w.tracked id).IsAddressed id) (hj : j ≠ id) : messagesAbout j past = [] := by
  rw [h.messages, List.filter_eq_nil_iff]
  intro n hn
  split at hn
  · simp [h.visited.producer_id rfl haddressed (Option.mem_toList.mp hn), hj.symm]
  · exact absurd hn List.not_mem_nil

end CheckedOne

theorem Manager.eq_of_fields {m n : Manager} (hconfig : n.config = m.config)
    (hdirectory : n.directory = m.directory) (hids : n.ids = m.ids)
    (htrackers : n.trackers = m.trackers) (hphase : n.phase = m.phase) : n = m := by
  obtain ⟨config, directory, ids, trackers, phase⟩ := m
  subst hconfig hdirectory hids htrackers hphase
  rfl

namespace Checked

variable {clock : ProducerId → Instant} {order : List ProducerId} {w w₁ w' : World}
variable {past past' : List Step} {id : ProducerId}

theorem nil (h : Run w past w') (hasides : ∀ s ∈ past, s.act.IsAside = true) :
    Checked clock [] w w' past := by
  obtain ⟨hmanager, hheld⟩ := h.manager_of_asides hasides
  refine ⟨by rw [hmanager], by rw [hmanager], by rw [hmanager], by rw [hmanager], fun id _ => ⟨?_, ?_⟩,
    fun id hid => absurd hid List.not_mem_nil, fun id hid => absurd hid List.not_mem_nil,
    calls_of_asides hasides⟩
  · simp only [World.share, hmanager, hheld]
  · exact messagesAbout_asides hasides

-- The check of one producer, and then of others.
theorem cons (hone : CheckedOne (clock id) id w w₁ past) (h : Checked clock order w₁ w' past')
    (haddressed : (w.tracked id).IsAddressed id) (hid : id ∉ order) :
    Checked clock (id :: order) w w' (past' ++ past) := by
  have hne {j : ProducerId} (hj : j ∈ order) : j ≠ id := fun hsame => hid (hsame ▸ hj)
  refine ⟨h.config.trans hone.config, h.phase.trans hone.phase, h.ids.trans hone.ids,
    h.fallback.trans hone.fallback, fun j hj => ?_, fun j hj => ?_, fun j hj => ?_, fun s hs => ?_⟩
  · obtain ⟨hother, hnot⟩ := not_or.mp (List.mem_cons.not.mp hj)
    obtain ⟨hkept, hquiet⟩ := h.others j hnot
    rw [messagesAbout_append, hquiet, hone.messages_ne haddressed hother]
    exact ⟨hkept.trans (hone.share_ne hother), rfl⟩
  · obtain rfl | hj := List.mem_cons.mp hj
    · rw [(h.others j hid).1, hone.share]
    · have hvisit := (hone.agrees (hne hj)).visit (t := { now := clock j }) rfl .healthCheck
      rw [h.share j hj, hvisit.2.share]
  · rw [messagesAbout_append]
    obtain rfl | hj := List.mem_cons.mp hj
    · rw [(h.others j hid).2, hone.messages_self haddressed, List.append_nil]
    · have hvisit := (hone.agrees (hne hj)).visit (t := { now := clock j }) rfl .healthCheck
      rw [hone.messages_ne haddressed (hne hj), h.messages j hj, hone.isOpen_eq, List.nil_append,
        hvisit.1]
  · obtain hs | hs := List.mem_append.mp hs
    · exact h.calls s hs
    · exact hone.calls s hs

-- So the order makes no difference.
theorem manager_eq {order' : List ProducerId} {v' : World} (h : Checked clock order w w' past)
    (h' : Checked clock order' w v' past') (horder : order.Perm order') :
    v'.manager = w'.manager := by
  have hshare (id : ProducerId) : v'.share id = w'.share id := by
    by_cases hid : id ∈ order
    · rw [h.share id hid, h'.share id (horder.mem_iff.mp hid)]
    · rw [(h.others id hid).1, (h'.others id fun hin => hid (horder.mem_iff.mpr hin)).1]
  have htrackers : v'.manager.trackers = w'.manager.trackers := by
    ext id : 1
    exact congrArg (fun share => share.1.1) (hshare id)
  have hentries : v'.manager.directory.entries = w'.manager.directory.entries := by
    ext id : 1
    exact congrArg (fun share => share.1.2) (hshare id)
  refine Manager.eq_of_fields (h'.config.trans h.config.symm) ?_ (h'.ids.trans h.ids.symm)
    htrackers (h'.phase.trans h.phase.symm)
  exact congrArg₂ Directory.mk hentries (h'.fallback.trans h.fallback.symm)

theorem messages_eq {order' : List ProducerId} {v' : World} (h : Checked clock order w w' past)
    (h' : Checked clock order' w v' past') (horder : order.Perm order') (id : ProducerId) :
    messagesAbout id past' = messagesAbout id past := by
  by_cases hid : id ∈ order
  · rw [h.messages id hid, h'.messages id (horder.mem_iff.mp hid)]
  · rw [(h.others id hid).2, (h'.others id fun hin => hid (horder.mem_iff.mpr hin)).2]

end Checked

theorem Run.checked {w₀ w w' : World} {clock : ProducerId → Instant} {order : List ProducerId}
    {earlier past : List Step} (hearlier : Run w₀ earlier w) (hstart : w₀.IsFresh)
    (h : Run w past w') (hpass : IsPass order past) (hclock : ChecksAt clock past)
    (hnodup : order.Nodup) : Checked clock order w w' past := by
  induction order generalizing w earlier past with
  | nil => exact .nil h (isPass_nil.mp hpass)
  | cons id order ih =>
    obtain ⟨hid, hnodup⟩ := List.nodup_cons.mp hnodup
    obtain ⟨later, settled, between, visited, asides, rfl, hvisited, hsettled, hasides, hbetween,
      hlater⟩ := hpass.cons
    obtain ⟨hbefore, hsettle, hafter⟩ := h.split
    have hcheck := hbefore.step hsettle
    have hone := hcheck.checkedOne hvisited hsettled hasides hbetween
    rw [hclock visited (by simp) id hvisited] at hone
    have hrest := ih (hearlier.append hcheck) hafter hlater (fun s hs => hclock s (by simp [hs]))
      hnodup
    simpa using Checked.cons hone hrest (hearlier.isAddressed hstart id) hid

-- The health check of a service, as a call, is such a pass as far as it comes.
theorem World.does_healthCheck {w : World} {order : List ProducerId}
    (htracked : ∀ id ∈ order, id ∈ w.manager.trackers) (hfree : ∀ id, id ∉ w.held) :
    w.Does w (Act.checks order)
      (w.service.run w.moment (order.map fun id => ⟨id, .healthCheck⟩)) := by
  have hacts : (order.map fun id => (⟨id, .healthCheck⟩ : Errand)).flatMap Errand.acts =
      Act.checks order := List.flatMap_map _ _ _
  rw [← hacts]
  exact does_run _ (canRun_checks htracked hfree)

-- Whatever comes of the world, what is done to one producer has nothing to do with others.
structure World.IsolatesProducers (w : World) : Prop where
  -- what is kept of the others stays as it is
  spares : ∀ {id past w'}, Run w past w' → OnlyFor id past → ∀ j ≠ id, w'.share j = w.share j
  -- what is said and asked for is about the one
  concerns : ∀ {id past w'}, Run w past w' → OnlyFor id past →
    ∀ s ∈ past, s.effect.IsAbout id (s.before.tracked id)
  -- it comes to the same, with the same effects, wherever the same is kept of the one
  depends : ∀ {id v past past' w' v'}, w.Agrees id v → Run w past w' → OnlyFor id past →
    Run v past' v' → past'.map Step.act = past.map Step.act →
      w'.Agrees id v' ∧ past'.map Step.effect = past.map Step.effect
  -- and it can be done there, up to a full stream, or where what an act needs is not there
  happens : ∀ {id v past w'}, w.Agrees id v → Run w past w' → OnlyFor id past →
    ∃ past' v', Run v past' v' ∧
      (past'.map Step.act = past.map Step.act ∨
        ∃ a, a :: past'.map Step.act <:+ past.map Step.act ∧ (v'.IsFull ∨ ¬v'.HasOut a))
  -- a call that visits the one does nothing but what is addressed to it
  calls : ∀ {id errands}, id ∉ w.held →
    (∀ e ∈ errands, e.producer = id ∧ e.visit ≠ .healthCheck) →
      w.Does w (errands.flatMap Errand.acts) (w.service.run w.moment errands) ∧
        ∀ a ∈ errands.flatMap Errand.acts, a.IsFor id
  -- the health check visits the tracked producers in some order
  visits : ∀ {order : List ProducerId}, order.Perm w.manager.trackers.keys → (∀ id, id ∉ w.held) →
    w.Does w (Act.checks order)
      (w.service.run w.moment (order.map fun id => ⟨id, .healthCheck⟩))
  -- it does to each of them what a check of it alone does
  checks : ∀ {clock order past w'}, order.Nodup → Run w past w' → IsPass order past →
    ChecksAt clock past → Checked clock order w w' past
  -- so that the order makes no difference
  reorders : ∀ {clock order order' past past' w' v'}, order.Nodup → order.Perm order' →
    Run w past w' → IsPass order past → ChecksAt clock past →
    Run w past' v' → IsPass order' past' → ChecksAt clock past' →
      v'.manager = w'.manager ∧ ∀ id, messagesAbout id past' = messagesAbout id past

-- A producer of odds before the match.
def prematchOdds : Descriptor := { liveOdds with id := ⟨3⟩, name := "PO", scope := "prematch" }

def World.ofBothOdds : World :=
  .ofManager
    { config := {}
      directory := .ofDescriptors [liveOdds, prematchOdds] ""
      ids := ⟨0, 1⟩ }
    600000

def World.openedBothOdds : World := (ofBothOdds.play [] [.start]).2

end FeedWatch
