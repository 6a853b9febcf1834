import FeedWatch.Proofs.Opened

namespace FeedWatch

-- The last visit to the producer, unless it was settled since.
def visiting? (id : ProducerId) : List Step → Option Step
  | [] => none
  | s :: past =>
    match s.act with
    | .visit i _ => if i = id then some s else visiting? id past
    | .settle i => if i = id then none else visiting? id past
    | _ => visiting? id past

-- The step began the visit that holds the producer, with this pause. All that happened
-- before it is in `earlier`.
structure IsHeldBy (w₀ w : World) (past : List Step) (id : ProducerId) (pause : Pause) (s : Step)
    (v : Visit) (earlier : List Step) : Prop where
  visiting : visiting? id past = some s
  act : s.act = .visit id v
  run : Run w₀ earlier s.before
  step : s.before.step (.visit id v) = some s.after
  since : ∃ between, past = between ++ s :: earlier ∧ Run s.after between w ∧
    ∀ t ∈ between, t.act ≠ .settle id
  pause_eq : (s.before.manager.visit s.before.moment id v).1 = pause
  visited : Visited s.before.scene (s.before.tracked id) v pause (s.after.tracked id)
  standing : (w.tracked id).standing = (s.after.tracked id).standing

variable {w₀ w w' : World} {past : List Step} {a : Act} {id : ProducerId}

theorem visiting?_cons_of_ne (hvisit : ∀ v, a ≠ .visit id v) (hsettle : a ≠ .settle id) :
    visiting? id (⟨w, a, w'⟩ :: past) = visiting? id past := by
  cases a with
  | visit i v =>
    have hi : i ≠ id := fun hi => hvisit v (by rw [hi])
    simp [visiting?, hi]
  | settle i =>
    have hi : i ≠ id := fun hi => hsettle (by rw [hi])
    simp [visiting?, hi]
  | _ => rfl

theorem World.held_of_step_visit {v : Visit} (h : w.step (.visit id v) = some w') :
    w'.held[id]? = some (w.manager.visit w.moment id v).1 := by
  cases stepped h with
  | visited => exact Std.ExtTreeMap.getElem?_insert_self

namespace Run

-- A notification that is late leaves before the rest of its visit.
theorem isHeldBy (h : Run w₀ past w) (hvalid : w₀.IsValid) (hnone : w₀.held = ∅) {pause : Pause}
    (hheld : w.held[id]? = some pause) :
    ∃ begun s v earlier, IsHeldBy w₀ w past id begun s v earlier ∧ begun.rest = pause.rest ∧
      (begun = pause ∨ w.manager.phase = .closed ∧ pause.notification = none) := by
  induction h generalizing pause with
  | start => simp [hnone] at hheld
  | @step past w w' a hrun hstep ih =>
    cases hrun.moved hvalid hstep id with
    | @visited v pause' _ hheld' hvisit =>
      obtain rfl := Option.some.inj (hheld.symm.trans hheld')
      have hpause := Option.some.inj ((World.held_of_step_visit hstep).symm.trans hheld)
      exact ⟨_, ⟨w, .visit id v, w'⟩, v, past, ⟨by simp [visiting?], rfl, hrun, hstep,
        ⟨[], rfl, .start, fun _ ht => absurd ht List.not_mem_nil⟩, hpause, hvisit, rfl⟩, rfl, .inl rfl⟩
    | settled _ hfree => exact absurd (hfree.symm.trans hheld) nofun
    | touched hvisit hsettle _ htouched =>
      obtain ⟨before, hbefore, hrest, hnotification⟩ := World.held_before hstep hvisit hheld
      obtain ⟨begun, s, v, earlier, hs, hrest', hpause⟩ := ih hbefore
      obtain ⟨between, rfl, hbetween, hnot⟩ := hs.since
      refine ⟨begun, s, v, earlier, ⟨(visiting?_cons_of_ne hvisit hsettle).trans hs.visiting, hs.act,
        hs.run, hs.step, ⟨_, rfl, hbetween.step hstep, List.forall_mem_cons.mpr ⟨hsettle, hnot⟩⟩,
        hs.pause_eq, hs.visited, htouched.standing.trans hs.standing⟩, hrest'.trans hrest, ?_⟩
      obtain rfl | hlate := hnotification
      · exact hpause.imp_right fun ⟨hclosed, hnone⟩ => ⟨World.closed_of_step hstep hclosed, hnone⟩
      · exact .inr hlate

end Run

namespace IsHeldBy

variable {pause : Pause} {s : Step} {v : Visit} {earlier : List Step}

theorem held (h : IsHeldBy w₀ w past id pause s v earlier) : s.after.held[id]? = some pause := by
  rw [World.held_of_step_visit h.step, h.pause_eq]

-- The producer can be read at the end of a visit if it could at its beginning.
theorem isReadable (h : IsHeldBy w₀ w past id pause s v earlier) (hrun : Run w₀ past w)
    (hvalid : w₀.IsValid) (hread : (s.before.tracked id).IsReadable) :
    (w.tracked id).IsReadable :=
  hrun.isReadable hvalid ((h.run.sameDescription hvalid id).isReadable.mp hread)

end IsHeldBy

end FeedWatch
