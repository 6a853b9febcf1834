import FeedWatch.Proofs.Anchors

namespace FeedWatch

namespace World

-- The visit does not fail before its notification.
def begins (w : World) (id : ProducerId) (v : Visit) : Bool :=
  (w.manager.hold w.moment id v.start).1.isOk

-- The rest of a visit does not fail.
def ends (w : World) (id : ProducerId) (rest : Rest) : Bool :=
  (w.manager.hold w.moment id rest.finish).1.isOk

end World

namespace Step

-- The system alive that comes in this step, if its producer is enabled and nothing fails so
-- far.
def hears? (s : Step) (id : ProducerId) : Option Stamp :=
  match s.act with
  | .visit _ (.alive stamp subscribed .systemAliveOnly) =>
    if (s.before.tracked id).isEnabled ∧
        s.before.begins id (.alive stamp subscribed .systemAliveOnly) then some stamp
    else none
  | _ => none

-- The system alive that is handled to its end in this step, if nothing failed.
def accepts? (s : Step) (id : ProducerId) (past : List Step) : Option Stamp :=
  match s.act, visiting? id past, s.before.held[id]? with
  | .settle i, some begun, some pause =>
    if i = id ∧ s.before.ends id pause.rest then begun.hears? id else none
  | _, _, _ => none

end Step

-- When the last system alive was generated that was accepted and left the producer like this.
def lastAccepted? (id : ProducerId) (leaves : Tracked → Bool) : List Step → Option Instant
  | [] => none
  | s :: past =>
    match s.accepts? id past with
    | some stamp =>
      if leaves (s.after.tracked id) then some stamp.created else lastAccepted? id leaves past
    | none => lastAccepted? id leaves past

-- A system alive that does not fail is to be kept in the end.
theorem Visit.systemAlive_alive? {sc : Scene} {x : Tracked} (hmem : sc.outage = Outage.none)
    (hx : x.isEnabled = true) (stamp : Stamp) (subscribed : Bool) (ids : RequestIds) {p : Pause}
    {d : Desk} (h : systemAlive stamp subscribed sc ⟨x, ids⟩ = .ok p d) :
    p.rest.alive? = some stamp := by
  by_cases hreceived : stamp.received = 0
  · simp [systemAlive, Handler.bind_run, Handler.write_run, Tracked.setLastMessage, hreceived] at h
  cases hread : x.recoveryAnchor Outage.none with
  | error e =>
    obtain ⟨entry, he⟩ := Tracked.exists_entry_of_isEnabled hx
    have hanchor : (x.messaged stamp.received).recoveryAnchor Outage.none = .error e :=
      (Tracked.recoveryAnchor_messaged _).trans hread
    simp [systemAlive, Handler.bind_run, Handler.write_run, hmem,
      Tracked.setLastMessage_none he hreceived, Handler.lookUp_run, hanchor] at h
  | ok anchor =>
    rw [systemAlive_run hmem hx hreceived hread subscribed ids rfl] at h
    split at h
    · split at h
      · exact (EStateM.Result.ok.inj h).1 ▸ rfl
      · exact (EStateM.Result.ok.inj h).1 ▸ rfl
    · split at h
      · exact (EStateM.Result.ok.inj h).1 ▸ rfl
      · split at h
        · exact (EStateM.Result.ok.inj h).1 ▸ rfl
        · exact (EStateM.Result.ok.inj h).1 ▸ rfl

theorem Manager.alive?_systemAlive {m : Manager} {t : Moment} {id : ProducerId}
    (hmem : t.outage = Outage.none) (stamp : Stamp) (subscribed : Bool) :
    (m.visit t id (.alive stamp subscribed .systemAliveOnly)).1.rest.alive? =
      if (m.tracked id).isEnabled = true ∧
          (m.hold t id (Visit.alive stamp subscribed .systemAliveOnly).start).1.isOk = true then
        some stamp
      else none := by
  have hmem' : (m.scene t).outage = Outage.none := hmem
  have hvisit : m.visit t id (.alive stamp subscribed .systemAliveOnly) =
      ((m.hold t id (Visit.alive stamp subscribed .systemAliveOnly).start).1.toOption.getD {},
        (m.hold t id (Visit.alive stamp subscribed .systemAliveOnly).start).2) := rfl
  rw [hvisit]
  cases hx : (m.tracked id).isEnabled with
  | false =>
    have hstart : (Visit.alive stamp subscribed .systemAliveOnly).start (m.scene t) (m.desk id) =
        .ok {} (m.desk id) := by
      rw [desk_eq]
      simp [Visit.start, Handler.bind_run, Handler.ask_run, hmem', Tracked.isDisabled_none, hx,
        Handler.pure_run]
    rw [if_neg (by simp), hold, hstart]
    rfl
  | true =>
    have hstart : (Visit.alive stamp subscribed .systemAliveOnly).start (m.scene t) (m.desk id) =
        Visit.systemAlive stamp subscribed (m.scene t) ⟨m.tracked id, m.ids⟩ := by
      rw [desk_eq]
      simp [Visit.start, Handler.bind_run, Handler.ask_run, hmem', Tracked.isDisabled_none, hx]
    cases hrun : Visit.systemAlive stamp subscribed (m.scene t) ⟨m.tracked id, m.ids⟩ with
    | ok p d =>
      rw [hold, hstart, hrun, if_pos ⟨rfl, rfl⟩]
      exact Visit.systemAlive_alive? hmem' hx stamp subscribed m.ids hrun
    | error e d =>
      rw [hold, hstart, hrun, if_neg (by simp [Except.isOk, Except.toBool])]
      rfl

-- What is left of a visit keeps the alive that was heard, if one was.
theorem Step.hears?_eq {s : Step} {id : ProducerId} {v : Visit} (hact : s.act = .visit id v) :
    s.hears? id = (s.before.manager.visit s.before.moment id v).1.rest.alive? := by
  by_cases hv : ∃ stamp subscribed, v = .alive stamp subscribed .systemAliveOnly
  · obtain ⟨stamp, subscribed, rfl⟩ := hv
    rw [Manager.alive?_systemAlive rfl, hears?, hact]
    rfl
  · have hvisited : Visited s.before.scene (s.before.tracked id) v _ _ :=
      Manager.visit_visited (t := s.before.moment) rfl v
    have hkept : (s.before.manager.visit s.before.moment id v).1.rest.alive? = none := by
      rw [Option.eq_none_iff_forall_ne_some]
      rintro stamp hrest
      obtain ⟨⟨subscribed, halive⟩, -⟩ := hvisited.of_alive? hrest
      exact hv ⟨stamp, subscribed, halive⟩
    rw [hkept, hears?, hact]
    cases v with
    | alive stamp subscribed interest =>
      cases interest with
      | systemAliveOnly => exact absurd ⟨stamp, subscribed, rfl⟩ hv
      | _ => rfl
    | _ => rfl

section Settling

variable {s : Step} {id : ProducerId} {past : List Step}

theorem Step.accepts?_of_ne (ha : s.act ≠ .settle id) : s.accepts? id past = none := by
  unfold accepts?
  split
  · rename_i hsettle _ _
    exact if_neg fun hsame => ha (hsettle.trans (congrArg Act.settle hsame.1))
  · rfl

-- Alives are accepted where their visits are settled, and nowhere else.
theorem lastAccepted?_cons_of_ne (ha : s.act ≠ .settle id) (leaves : Tracked → Bool) :
    lastAccepted? id leaves (s :: past) = lastAccepted? id leaves past := by
  rw [lastAccepted?, Step.accepts?_of_ne ha]

theorem IsHeldBy.lastAccepted?_eq {w₀ w : World} {pause : Pause} {v : Visit} {earlier : List Step}
    (h : IsHeldBy w₀ w past id pause s v earlier) (leaves : Tracked → Bool) :
    lastAccepted? id leaves past = lastAccepted? id leaves earlier := by
  obtain ⟨between, rfl, -, hnot⟩ := h.since
  have hvisit : s.act ≠ .settle id := h.act ▸ nofun
  clear h
  induction between with
  | nil => exact lastAccepted?_cons_of_ne hvisit leaves
  | cons t between ih =>
    obtain ⟨ht, hnot⟩ := List.forall_mem_cons.mp hnot
    exact (lastAccepted?_cons_of_ne ht leaves).trans (ih hnot)

end Settling

-- The rest of a visit fails only where the producer cannot be read.
theorem World.ends_of_isReadable {w : World} {id : ProducerId} (hvalid : w.IsValid)
    (hread : (w.tracked id).IsReadable) (rest : Rest) : w.ends id rest = true := by
  have hmem : w.scene.outage = Outage.none := rfl
  obtain ⟨c, y, ids', hrun, -, hsome⟩ :=
    Rest.finish_finished hmem hvalid.limit_nonneg rest (w.tracked id) w.manager.ids
  have hanswer : (w.manager.hold w.moment id rest.finish).1.toOption = c :=
    (Manager.hold_toOption rest.finish).trans (congrArg Prod.fst hrun)
  unfold ends
  cases hhold : (w.manager.hold w.moment id rest.finish).1 with
  | ok claimed => rfl
  | error e =>
    rw [hhold] at hanswer
    exact absurd (hanswer ▸ hsome hread) nofun

namespace Run

variable {w₀ w : World} {past : List Step} {id : ProducerId}

-- An alive is kept for a producer that can be read.
theorem isReadable_of_alive? (h : Run w₀ past w) (hstart : w₀.IsFresh) {pause : Pause}
    (hheld : w.held[id]? = some pause) {stamp : Stamp} (hrest : pause.rest.alive? = some stamp) :
    (w.tracked id).IsReadable := by
  obtain ⟨begun, s, v, earlier, hvisit, hsame, -⟩ := h.isHeldBy hstart.isValid hstart.held hheld
  rw [← hsame] at hrest
  exact hvisit.isReadable h hstart.isValid (hvisit.visited.of_alive? hrest).2

-- A step that settles a visit accepts the alive that the visit keeps.
theorem accepts?_of_settle (h : Run w₀ past w) (hstart : w₀.IsFresh) {pause : Pause} {w' : World}
    (hheld : w.held[id]? = some pause) :
    (Step.mk w (.settle id) w').accepts? id past = pause.rest.alive? := by
  obtain ⟨begun, s, v, earlier, hvisit, hsame, -⟩ := h.isHeldBy hstart.isValid hstart.held hheld
  have hheard : s.hears? id = pause.rest.alive? := by
    rw [Step.hears?_eq hvisit.act, hvisit.pause_eq, hsame]
  simp only [Step.accepts?, hvisit.visiting, hheld, hheard, true_and]
  cases hrest : pause.rest.alive? with
  | none => exact ite_self none
  | some stamp =>
    have hread := h.isReadable_of_alive? hstart hheld hrest
    exact if_pos (World.ends_of_isReadable (h.isValid hstart.isValid) hread pause.rest)

-- The anchors of a producer are the last accepted alives, each for what it is kept for.
theorem anchors (h : Run w₀ past w) (hstart : w₀.IsFresh) (id : ProducerId) :
    (w.tracked id).anchors = ((lastAccepted? id Tracked.isUp past).getD 0,
      (lastAccepted? id Tracked.isStarted past).getD 0) := by
  induction h with
  | start =>
    obtain ⟨htracker, -, hentry⟩ := hstart.listing id
    have hlast : (w₀.tracked id).lastAlive = 0 := by
      cases he : (w₀.tracked id).listing.entry with
      | none => simp [Tracked.lastAlive, he]
      | some e =>
        rw [Tracked.lastAlive, he, (hentry e he).2]
        rfl
    exact Prod.ext hlast (by rw [Tracked.anchors, htracker]; rfl)
  | @step past w w' a hrun hstep ih =>
    have haside (ha : a ≠ .settle id) (hsame : (w'.tracked id).anchors = (w.tracked id).anchors) :
        (w'.tracked id).anchors =
          ((lastAccepted? id Tracked.isUp (⟨w, a, w'⟩ :: past)).getD 0,
            (lastAccepted? id Tracked.isStarted (⟨w, a, w'⟩ :: past)).getD 0) := by
      have hlast (leaves : Tracked → Bool) : lastAccepted? id leaves (⟨w, a, w'⟩ :: past) = _ :=
        lastAccepted?_cons_of_ne ha leaves
      rw [hlast, hlast]
      exact hsame.trans ih
    cases hrun.moved hstart.isValid hstep id with
    | visited _ _ hvisit => exact haside (by simp) (Tracked.anchors_of_record hvisit.record).1
    | touched _ hsettle _ htouched => exact haside hsettle htouched.anchors
    | @settled pause _ hheld _ _ hfinish =>
      have hread (hkept : pause.rest.alive?.isSome = true) : (w.tracked id).IsReadable := by
        obtain ⟨stamp, hrest⟩ := Option.isSome_iff_exists.mp hkept
        exact hrun.isReadable_of_alive? hstart hheld hrest
      rw [hfinish.anchors hread]
      simp only [lastAccepted?, hrun.accepts?_of_settle hstart hheld]
      cases pause.rest.alive? with
      | none => exact ih
      | some stamp =>
        have hlast : (w.tracked id).lastAlive = _ := congrArg Prod.fst ih
        have hresume : (w.tracked id).tracker.resumeFrom = _ := congrArg Prod.snd ih
        have hlatest (now : Bool) (last : Option Instant) :
            (if now then some stamp.created else last).getD 0 =
              if now then stamp.created else last.getD 0 := by
          cases now <;> rfl
        simp only [Tracked.anchorsKept, hlast, hresume, hlatest]

-- A recovery that is under way was started by an alive, or took up one that was.
theorem exists_lastAccepted? (h : Run w₀ past w) (hstart : w₀.IsFresh)
    (hprogress : (w.tracked id).tracker.state.isInProgress = true) :
    ∃ created, lastAccepted? id Tracked.isStarted past = some created := by
  induction h with
  | start =>
    rw [(hstart.listing id).1] at hprogress
    exact absurd hprogress nofun
  | @step past w w' a hrun hstep ih =>
    have haside (ha : a ≠ .settle id) (hbefore : (w.tracked id).tracker.state.isInProgress = true) :
        ∃ created, lastAccepted? id Tracked.isStarted (⟨w, a, w'⟩ :: past) = some created := by
      obtain ⟨created, hlast⟩ := ih hbefore
      exact ⟨created, (lastAccepted?_cons_of_ne ha _).trans hlast⟩
    cases hrun.moved hstart.isValid hstep id with
    | visited _ _ hvisit => exact haside nofun (hvisit.turned.isInProgress hprogress)
    | touched _ hsettle _ htouched =>
      have hstate : (w'.tracked id).tracker.state = (w.tracked id).tracker.state :=
        congrArg Standing.state htouched.standing
      exact haside hsettle (hstate ▸ hprogress)
    | @settled pause _ hheld _ _ hfinish =>
      rw [lastAccepted?, hrun.accepts?_of_settle hstart hheld]
      cases hrest : pause.rest.alive? with
      | none =>
        refine ih ?_
        obtain hbefore | ⟨-, anchor, hanchor⟩ := hfinish.isInProgress hprogress
        · exact hbefore
        · obtain ⟨begun, s, v, earlier, hvisit, hsame, -⟩ :=
            hrun.isHeldBy hstart.isValid hstart.held hheld
          rw [← hsame] at hrest hanchor
          obtain ⟨-, ⟨stamp, subscribed, -, halive, -⟩ | ⟨request, interest, -, hsame, hbefore, -⟩⟩ :=
            hvisit.visited.of_anchor? hanchor
          · exact absurd (hrest.symm.trans halive) nofun
          · have hstate : (w.tracked id).tracker.state = .interrupted :=
              (congrArg Standing.state (hvisit.standing.trans hsame)).trans (congrArg Prod.fst hbefore)
            exact RecoveryState.isInProgress_iff.mpr (.inr hstate)
      | some stamp =>
        by_cases hstarted : (w'.tracked id).isStarted = true
        · exact ⟨stamp.created, if_pos hstarted⟩
        · dsimp only
          rw [if_neg hstarted]
          obtain hbefore | ⟨hstarted', -⟩ := hfinish.isInProgress hprogress
          · exact ih hbefore
          · exact absurd hstarted' hstarted

end Run

end FeedWatch
