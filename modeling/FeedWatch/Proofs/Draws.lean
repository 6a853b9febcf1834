import FeedWatch.Proofs.Opened
import FeedWatch.Proofs.RequestIds
import FeedWatch.Proofs.Unclaimed

namespace FeedWatch

-- What an id is drawn for.
inductive Purpose where
  | recovery
  | event
  deriving DecidableEq, Repr

structure Draw where
  request : RequestId
  producer : ProducerId
  purpose : Purpose
  deriving DecidableEq, Repr

-- The id that a step drew, if it moved the sequence on.
def Step.draw? (s : Step) : Option Draw :=
  if s.after.manager.ids = s.before.manager.ids then none
  else
    match s.act with
    | .settle id => some ⟨s.before.manager.ids.next.1, id, .recovery⟩
    | .requestEvent _ id _ => some ⟨s.before.manager.ids.next.1, id, .event⟩
    | _ => none

-- The last one stands first.
def draws (past : List Step) : List Draw := past.filterMap Step.draw?

theorem mem_draws_cons {d : Draw} {s : Step} {past : List Step} :
    d ∈ draws (s :: past) ↔ s.draw? = some d ∨ d ∈ draws past := by
  simp only [draws, List.mem_filterMap, List.mem_cons, exists_eq_or_imp]

theorem mem_draws_append {d : Draw} {later earlier : List Step} :
    d ∈ draws (later ++ earlier) ↔ d ∈ draws later ∨ d ∈ draws earlier := by
  rw [draws, List.filterMap_append, List.mem_append]
  rfl

theorem length_draws_le_cons (s : Step) (past : List Step) :
    (draws past).length ≤ (draws (s :: past)).length := by
  have hsub : past.Sublist (s :: past) := List.sublist_cons_self s past
  exact (hsub.filterMap Step.draw?).length_le

theorem Claimed.ids {sc : Scene} {x y : Tracked} {ids ids' : RequestIds} {anchor : Instant}
    {alive : Option Stamp} {c : Option Claim} (h : Claimed sc x ids anchor alive c y ids') :
    ids' = ids ∨ ids' = ids.next.2 := by
  cases h with
  | shut => exact .inl rfl
  | lost => exact .inr rfl
  | made => exact .inr rfl

theorem Finished.ids {sc : Scene} {x y : Tracked} {ids ids' : RequestIds} {rest : Rest}
    {c : Option Claim} (h : Finished sc x ids rest c y ids') : ids' = ids ∨ ids' = ids.next.2 := by
  cases h with
  | done => exact .inl rfl
  | keepAlive => exact .inl rfl
  | eventDone => exact .inl rfl
  | attended => exact .inl rfl
  | claim hclaim => exact hclaim.ids
  | missing _ hclaim => exact hclaim.ids
  | stuck _ hclaim => exact hclaim.ids

namespace Manager

variable {m : Manager} {t : Moment}

theorem eventPosted_ids (r : EventRequest) (answer : Except TransportError Unit) :
    (m.eventPosted t r answer).2.ids = m.ids := by
  cases answer with
  | ok => rfl
  | error e => rw [eventPosted, hold_manager]; rfl

theorem recoveryPosted_ids (c : Claim) (answer : Except TransportError Unit) :
    (m.recoveryPosted t c answer).ids = m.ids := by
  unfold recoveryPosted
  dsimp only
  split
  · rfl
  · rfl

end Manager

-- Only the end of a visit, and the call for an event replay, draw ids: one at most.
theorem World.step_ids {w w' : World} {a : Act} (hvalid : w.IsValid) (h : w.step a = some w') :
    w'.manager.ids = w.manager.ids ∨
      w'.manager.ids = w.manager.ids.next.2 ∧
        ((∃ id, a = .settle id) ∨ ∃ kind id event, a = .requestEvent kind id event) := by
  have hlimit := hvalid.limit_nonneg
  cases stepped h with
  | started hstart =>
    obtain ⟨-, -, -, hids, -⟩ := Manager.start_manager (Service.start_manager hstart)
    exact .inl hids
  | @visited id v => exact .inl (Manager.visit_unclaimed v).ids
  | @settled id pause =>
    have hfinish : Finished w.scene (w.tracked id) w.manager.ids pause.rest _ _ _ :=
      Manager.finish_finished (t := w.moment) rfl hlimit pause.rest
    obtain hids | hids := hfinish.ids
    · exact .inl hids
    · exact .inr ⟨hids, .inl ⟨id, rfl⟩⟩
  | @eventCalled kind id event => exact .inr ⟨rfl, .inr ⟨kind, id, event, rfl⟩⟩
  | @eventEntered call => exact .inl (Manager.enterEvent_ids call)
  | sentLate => exact .inl rfl
  | @eventPosted r answer => exact .inl (Manager.eventPosted_ids r answer)
  | @recoveryPosted c answer => exact .inl (Manager.recoveryPosted_ids c answer)
  | notStarted => exact .inl rfl
  | closed => exact .inl rfl
  | enabled => exact .inl rfl
  | anchored => exact .inl rfl
  | clockMoved => exact .inl rfl
  | read => exact .inl rfl
  | abandoned => exact .inl rfl
  | unread => exact .inl rfl
  | notAbandoned => exact .inl rfl

-- A step draws the next id of the sequence, or leaves the sequence alone.
theorem World.step_draw? {w w' : World} {a : Act} (hvalid : w.IsValid) (h : w.step a = some w') :
    (Step.mk w a w').draw? = none ∧ w'.manager.ids = w.manager.ids ∨
      ∃ d, (Step.mk w a w').draw? = some d ∧ d.request = w.manager.ids.next.1 ∧
        w'.manager.ids = w.manager.ids.next.2 := by
  by_cases hsame : w'.manager.ids = w.manager.ids
  · exact .inl ⟨if_pos hsame, hsame⟩
  · right
    obtain hids | ⟨hids, ⟨id, rfl⟩ | ⟨kind, id, event, rfl⟩⟩ := step_ids hvalid h
    · exact absurd hids hsame
    · exact ⟨_, if_neg hsame, rfl, hids⟩
    · exact ⟨_, if_neg hsame, rfl, hids⟩

theorem World.ids_of_requestEvent {w w' : World} {kind : Api.EventReplayKind} {id : ProducerId}
    {event : Urn} (h : w.step (.requestEvent kind id event) = some w') :
    w'.manager.ids = w.manager.ids.next.2 := by
  cases stepped h with
  | eventCalled => rfl

-- The sequence takes odd steps, so that it runs through all ids.
def World.DrawsOdd (w : World) : Prop := w.manager.ids.step.toNat % 2 = 1

namespace Run

variable {w₀ w w' : World} {past : List Step} {a : Act}

theorem ids_eq_skip (h : Run w₀ past w) (hvalid : w₀.IsValid) :
    w.manager.ids = w₀.manager.ids.skip (draws past).length ∧
      (draws past).reverse.map Draw.request = w₀.manager.ids.draw (draws past).length := by
  induction h with
  | start => exact ⟨(RequestIds.skip_zero _).symm, rfl⟩
  | @step past w w' a hrun hstep ih =>
    obtain ⟨hids, hdraws⟩ := ih
    obtain ⟨hnone, hsame⟩ | ⟨d, hd, hrequest, hnext⟩ :=
      World.step_draw? (hrun.isValid hvalid) hstep
    · rw [draws, List.filterMap_cons_none hnone]
      exact ⟨hsame.trans hids, hdraws⟩
    · have hcons : draws (⟨w, a, w'⟩ :: past) = d :: draws past := List.filterMap_cons_some hd
      rw [hcons, List.length_cons]
      constructor
      · rw [hnext, hids, RequestIds.next_skip]
      · rw [List.reverse_cons, List.map_append, hdraws, RequestIds.draw_succ, ← hids, ← hrequest]
        rfl

theorem drawsOdd (h : Run w₀ past w) (hvalid : w₀.IsValid) (hodd : w₀.DrawsOdd) : w.DrawsOdd := by
  rw [World.DrawsOdd, (h.ids_eq_skip hvalid).1, RequestIds.step_skip]
  exact hodd

theorem nodup_draws (h : Run w₀ past w) (hvalid : w₀.IsValid) (hodd : w₀.DrawsOdd)
    (hfew : (draws past).length < 2 ^ 32) : ((draws past).map Draw.request).Nodup := by
  have hnodup := RequestIds.nodup_draw hodd hfew.le
  rw [← (h.ids_eq_skip hvalid).2, List.map_reverse, List.nodup_reverse] at hnodup
  exact hnodup

-- A step that moves the sequence on draws an id, and it is the next one.
theorem draw?_of_settle (h : Run w₀ past w) (hvalid : w₀.IsValid) (hodd : w₀.DrawsOdd)
    {id : ProducerId} (hnext : w'.manager.ids = w.manager.ids.next.2) :
    (Step.mk w (.settle id) w').draw? = some ⟨w.manager.ids.next.1, id, .recovery⟩ := by
  have hmoved : w'.manager.ids ≠ w.manager.ids := by
    rw [hnext]
    exact RequestIds.next_ne (h.drawsOdd hvalid hodd)
  exact if_neg hmoved

theorem draw?_of_requestEvent (h : Run w₀ past w) (hvalid : w₀.IsValid) (hodd : w₀.DrawsOdd)
    {kind : Api.EventReplayKind} {id : ProducerId} {event : Urn}
    (hnext : w'.manager.ids = w.manager.ids.next.2) :
    (Step.mk w (.requestEvent kind id event) w').draw? =
      some ⟨w.manager.ids.next.1, id, .event⟩ := by
  have hmoved : w'.manager.ids ≠ w.manager.ids := by
    rw [hnext]
    exact RequestIds.next_ne (h.drawsOdd hvalid hodd)
  exact if_neg hmoved

-- What can only come about by a draw, and holds now, was drawn for.
theorem mem_draws_of {P : World → Prop} {d : Draw} (h : Run w₀ past w) (hnot : ¬P w₀)
    (hdrawn : ∀ past w a w', Run w₀ past w → w.step a = some w' → P w' →
      P w ∨ (Step.mk w a w').draw? = some d) (hnow : P w) : d ∈ draws past := by
  induction h with
  | start => exact absurd hnow hnot
  | step hrun hstep ih =>
    rw [mem_draws_cons]
    obtain hbefore | hdraw := hdrawn _ _ _ _ hrun hstep hnow
    · exact .inr (ih hbefore)
    · exact .inl hdraw

-- An id that is drawn now was not drawn before.
theorem not_drawn_before (h : Run w₀ past w) (hvalid : w₀.IsValid) (hodd : w₀.DrawsOdd)
    (hstep : w.step a = some w') (hfew : (draws (⟨w, a, w'⟩ :: past)).length < 2 ^ 32) {d : Draw}
    (hd : (Step.mk w a w').draw? = some d) : d.request ∉ (draws past).map Draw.request := by
  have hnodup := (h.step hstep).nodup_draws hvalid hodd hfew
  have hcons : draws (⟨w, a, w'⟩ :: past) = d :: draws past := List.filterMap_cons_some hd
  rw [hcons, List.map_cons] at hnodup
  exact (List.nodup_cons.mp hnodup).1

theorem request_ne (h : Run w₀ past w) (hvalid : w₀.IsValid) (hodd : w₀.DrawsOdd)
    (hstep : w.step a = some w') (hfew : (draws (⟨w, a, w'⟩ :: past)).length < 2 ^ 32) {d d' : Draw}
    (hd : (Step.mk w a w').draw? = some d) (hd' : d' ∈ draws past) : d'.request ≠ d.request := by
  intro hsame
  exact h.not_drawn_before hvalid hodd hstep hfew hd (hsame ▸ List.mem_map_of_mem hd')

end Run

end FeedWatch
