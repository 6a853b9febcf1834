import FeedWatch.Proofs.SinceEpoch

namespace FeedWatch

namespace Careful

variable {α β : Type} {sc : Scene} {c : Careful α} {h : Handler α} {P : α → Prop}
  {k : α → Careful β} {next : α → Handler β} {Q : β → Prop}

-- What a handler comes to: it leaves nothing before the epoch behind, and if it answers, then
-- as wanted.
def Ends (P : α → Prop) : EStateM.Result RecoveryError Desk α → Prop
  | .ok a d => P a ∧ d.tracked.IsSinceEpoch
  | .error _ d => d.tracked.IsSinceEpoch

-- Careful steps do as the steps do, which end well.
def Follows (sc : Scene) (c : Careful α) (h : Handler α) (P : α → Prop) : Prop :=
  ∀ d : Desk, d.tracked.IsSinceEpoch → c sc d = h.careful sc d ∧ Ends P (h sc d)

theorem bind_run (c : Careful α) (k : α → Careful β) (d : Desk) :
    (c >>= k) sc d = match c sc d with
      | .ok a d => k a sc d
      | .error e d => .error e d := by
  change EStateM.bind (c sc) (fun a => k a sc) d = _
  unfold EStateM.bind
  cases c sc d <;> rfl

namespace Follows

theorem bind (hc : Follows sc c h P) (hk : ∀ a, P a → Follows sc (k a) (next a) Q) :
    Follows sc (c >>= k) (h >>= next) Q := by
  intro d hd
  obtain ⟨heq, hends⟩ := hc d hd
  rw [bind_run, heq, Handler.careful, Handler.careful, Handler.bind_run]
  cases hrun : h sc d with
  | error e d' =>
    rw [hrun] at hends
    exact ⟨rfl, hends⟩
  | ok a d' =>
    rw [hrun] at hends
    exact hk a hends.1 d' hends.2

-- A number that fits is computed.
theorem computed {o : Option α} {a : α} {h : Handler β} (ho : o = some a)
    (hk : Follows sc (k a) h Q) : Follows sc (liftM o >>= k) h Q := by
  subst ho
  exact hk

theorem ite {p q : Prop} [Decidable p] [Decidable q] {c' : Careful α} {h' : Handler α}
    (hpq : p ↔ q) (hc : Follows sc c h P) (hc' : Follows sc c' h' P) :
    Follows sc (if p then c else c') (if q then h else h') P := by
  by_cases hp : p
  · rwa [if_pos hp, if_pos (hpq.mp hp)]
  · rwa [if_neg hp, if_neg (hpq.not.mp hp)]

-- What is done under a condition, before the rest.
theorem optional {p : Prop} [Decidable p] {c : Careful Unit} {h : Handler Unit}
    {k : Unit → Careful β} {next : Unit → Handler β} (hc : Follows sc c h fun _ => True)
    (hk : ∀ u, Follows sc (k u) (next u) Q) :
    Follows sc (if p then c >>= k else k ()) (if p then h >>= next else next ()) Q :=
  ite .rfl (hc.bind fun u _ => hk u) (hk ())

-- Steps as they are.
theorem steps (hends : ∀ d : Desk, d.tracked.IsSinceEpoch → Ends P (h sc d)) :
    Follows sc h.careful h P := fun d hd => ⟨rfl, hends d hd⟩

theorem leaves {d : Desk} (hc : Follows sc c h P) (hd : d.tracked.IsSinceEpoch) :
    (h.leaves sc d).2.tracked.IsSinceEpoch ∧ ∀ a, (h.leaves sc d).1 = some a → P a := by
  obtain ⟨-, hends⟩ := hc d hd
  rw [Handler.leaves]
  cases hrun : h sc d with
  | error e d' =>
    rw [hrun] at hends
    exact ⟨hends, fun a ha => absurd ha.symm (Option.some_ne_none a)⟩
  | ok a d' =>
    rw [hrun] at hends
    exact ⟨hends.2, fun _ ha => Option.some.inj ha ▸ hends.1⟩

end Follows

theorem follows_pure {a : α} (ha : P a) : Follows sc (pure a) (pure a) P :=
  fun _ hd => ⟨rfl, ha, hd⟩

theorem follows_throw (e : RecoveryError) : Follows sc (throw (.error e)) (throw e) P :=
  fun _ hd => ⟨rfl, hd⟩

theorem follows_read : Follows sc read read (· = sc) := fun _ hd => ⟨rfl, rfl, hd⟩

theorem follows_tracker : Follows sc Handler.tracker.careful Handler.tracker Tracker.IsSinceEpoch :=
  .steps fun _ hd => ⟨hd.tracker, hd⟩

theorem follows_producerId :
    Follows sc Handler.producerId.careful Handler.producerId fun _ => True :=
  .steps fun _ hd => ⟨trivial, hd⟩

theorem follows_ask (question : Tracked → Outage → α) :
    Follows sc (Handler.ask question).careful (Handler.ask question) fun _ => True :=
  .steps fun _ hd => ⟨trivial, hd⟩

theorem follows_drawId : Follows sc Handler.drawId.careful Handler.drawId fun _ => True :=
  .steps fun _ hd => ⟨trivial, hd⟩

theorem follows_announce (n : Notification) :
    Follows sc (Handler.announce n).careful (Handler.announce n) fun _ => True :=
  .steps fun _ hd => ⟨trivial, hd⟩

theorem follows_track {change : Tracker → Tracker}
    (hchange : ∀ t : Tracker, t.IsSinceEpoch → (change t).IsSinceEpoch) :
    Follows sc (Handler.track change).careful (Handler.track change) fun _ => True :=
  .steps fun d hd => ⟨trivial, hd.mapTracker (hchange d.tracked.tracker)⟩

theorem follows_examine {question : Tracked → Outage → α × Tracked}
    (hleft : ∀ x outage, x.IsSinceEpoch → (question x outage).2.IsSinceEpoch) :
    Follows sc (Handler.examine question).careful (Handler.examine question) fun _ => True :=
  .steps fun d hd => ⟨trivial, hleft d.tracked sc.outage hd⟩

theorem follows_lookUp {question : Tracked → Outage → Except DirectoryError α}
    (hanswer : ∀ x outage a, x.IsSinceEpoch → question x outage = .ok a → P a) :
    Follows sc (Handler.lookUp question).careful (Handler.lookUp question) P := by
  refine .steps fun d hd => ?_
  rw [Handler.lookUp_run]
  cases ha : question d.tracked sc.outage with
  | ok a => exact ⟨hanswer _ _ a hd ha, hd⟩
  | error e => exact hd

theorem follows_write {change : Tracked → Outage → Except DirectoryError Tracked}
    (hleft : ∀ x outage y, x.IsSinceEpoch → change x outage = .ok y → y.IsSinceEpoch) :
    Follows sc (Handler.write change).careful (Handler.write change) fun _ => True := by
  refine .steps fun d hd => ?_
  rw [Handler.write_run]
  cases hy : change d.tracked sc.outage with
  | ok y => exact ⟨trivial, hleft _ _ y hd hy⟩
  | error e => exact hd

theorem follows_keepAlive {stamp : Stamp} (hstamp : stamp.IsSinceEpoch) :
    Follows sc (Handler.keepAlive stamp).careful (Handler.keepAlive stamp) fun _ => True :=
  .steps fun _ hd => ⟨trivial, hd.systemAlive hstamp.received hstamp.created⟩

theorem follows_lastProcessed :
    Follows sc (Handler.ask Tracked.lastProcessed).careful (Handler.ask Tracked.lastProcessed)
      fun answer => ∀ lastProcessed, answer = .ok lastProcessed → 0 ≤ lastProcessed.toInt :=
  .steps fun _ hd => ⟨fun _ hlast => hd.lastProcessed hlast, hd⟩

-- The rest of the end of an event replay starts no recovery.
theorem follows_eventOver (request : RequestId) :
    Follows sc (Visit.eventOver request).careful (Visit.eventOver request) fun pause =>
      pause.rest.IsSinceEpoch := by
  refine .steps fun d hd => ?_
  simp only [Visit.eventOver, Handler.bind_run, Handler.producerId_run, Handler.tracker_run]
  cases d.tracked.tracker.eventReplay? request with
  | none => exact hd
  | some replay =>
    simp only [Handler.bind_run, Handler.lookUp_run]
    cases d.tracked.producer sc.outage with
    | error e => exact hd
    | ok p => exact ⟨.of_none rfl rfl, hd⟩

-- A recovery that takes up somewhere starts after the beginning.
def TakesUp (anchor : Instant) (claimed : Option Claim) : Prop :=
  ∀ c, claimed = some c → anchor ≠ 0 → 0 < c.after.toInt

theorem takesUp_none (anchor : Instant) : TakesUp anchor none :=
  fun c hc => absurd hc.symm (Option.some_ne_none c)

section Visits

variable (hvalid : sc.config.validate = .ok ()) (hnow : 0 ≤ sc.now.toInt)

include hvalid hnow

theorem timingWithinLimits_follows :
    Follows sc timingWithinLimits Handler.timingWithinLimits fun _ => True := by
  refine follows_read.bind fun scene hscene => ?_
  subst hscene
  refine .computed (maxInactivityMillis?_eq hvalid) ?_
  refine follows_lastProcessed.bind fun answer hanswer => ?_
  cases answer with
  | error e => exact follows_pure trivial
  | ok lastProcessed =>
    have hlast := hanswer lastProcessed rfl
    refine follows_tracker.bind fun t ht => ?_
    refine .computed (sub?_eq hnow hlast) (.computed (sub?_eq hnow ht.lastUserAlive) ?_)
    simp only [sub_lt_iff]
    exact follows_pure trivial

theorem tell_follows (reason : StatusReason) :
    Follows sc (tell reason) (Handler.tell reason) fun _ => True := by
  refine follows_tracker.bind fun t _ => .ite .rfl (follows_pure trivial) ?_
  refine (follows_track fun t ht => by exact ⟨ht.1, ht.2, ht.3, ht.4⟩).bind fun _ _ => ?_
  refine (follows_lookUp (P := fun _ => True) fun _ _ _ _ _ => trivial).bind fun producer _ => ?_
  refine (follows_ask _).bind fun isDown _ => ?_
  refine (timingWithinLimits_follows hvalid hnow).bind fun onTime _ => ?_
  exact follows_read.bind fun scene _ => follows_announce _

theorem takeDown_follows (reason : DownReason) :
    Follows sc (takeDown reason) (Handler.takeDown reason) fun _ => True := by
  have hset : Follows sc (Handler.write (·.setDown · reason)).careful
      (Handler.write (·.setDown · reason)) fun _ => True :=
    follows_write fun _ _ _ hx => hx.setDown
  refine (follows_ask _).bind fun disabled _ => .ite .rfl (follows_pure trivial) ?_
  refine (follows_ask _).bind fun wasDown _ => follows_tracker.bind fun t _ => ?_
  refine .optional hset fun _ => follows_tracker.bind fun t _ => ?_
  refine .optional (follows_track fun t ht => by exact ⟨ht.1, ht.2, ht.3, ht.4⟩) fun _ => ?_
  exact .optional hset fun _ => tell_follows hvalid hnow _

theorem bringUp_follows (reason : UpReason) :
    Follows sc (bringUp reason) (Handler.bringUp reason) fun _ => True := by
  have hset : Follows sc (Handler.write Tracked.setUp).careful (Handler.write Tracked.setUp)
      fun _ => True := follows_write fun _ _ _ hx => hx.setUp
  refine (follows_ask _).bind fun disabled _ => .ite .rfl (follows_pure trivial) ?_
  refine (follows_ask _).bind fun isDown _ => ?_
  exact .optional hset fun _ => tell_follows hvalid hnow _

theorem claim_follows {anchor : Instant} (hanchor : 0 ≤ anchor.toInt) :
    Follows sc (claim anchor) (Handler.claim anchor) (TakesUp anchor) := by
  have hlimit : 0 ≤ sc.config.maxRecoveryMillis.toInt := by
    rw [Config.toInt_maxRecoveryMillis hvalid]
    omega
  refine follows_read.bind fun scene hscene => ?_
  subst hscene
  refine .ite .rfl (follows_pure (takesUp_none anchor)) ?_
  refine .computed (maxRecoveryMillis?_eq hvalid) ?_
  refine .computed (replayStart?_eq hlimit hnow hanchor) ?_
  refine follows_drawId.bind fun request _ => ?_
  refine (follows_lookUp (P := fun _ => True) fun _ _ _ _ _ => trivial).bind fun name _ => ?_
  refine (follows_track fun t ht => by exact ⟨hnow, ht.2, ht.3, ht.4⟩).bind fun _ _ => ?_
  refine follows_producerId.bind fun id _ => follows_pure fun c hc hzero => ?_
  rw [← Option.some.inj hc]
  exact replayStart_pos hlimit hnow hanchor hzero

theorem isBackFromDelay_follows :
    Follows sc isBackFromDelay Visit.isBackFromDelay fun _ => True := by
  refine follows_tracker.bind fun t _ => (follows_ask _).bind fun isDown _ => ?_
  exact .ite .rfl (timingWithinLimits_follows hvalid hnow) (follows_pure trivial)

theorem systemAlive_follows {stamp : Stamp} (hstamp : stamp.IsSinceEpoch) (subscribed : Bool) :
    Follows sc (systemAlive stamp subscribed) (Visit.systemAlive stamp subscribed) fun pause =>
      pause.rest.IsSinceEpoch := by
  refine (follows_write fun _ _ _ hx => hx.setLastMessage).bind fun _ _ => ?_
  refine (follows_lookUp fun _ _ _ hx => hx.recoveryAnchor).bind fun anchor hanchor => ?_
  have hclaim : (Rest.claim anchor (some stamp)).IsSinceEpoch :=
    ⟨fun _ h => Option.some.inj h ▸ hanchor, fun _ h => Option.some.inj h ▸ hstamp⟩
  have hensure : (Rest.ensureRecovery anchor stamp).IsSinceEpoch :=
    ⟨fun _ h => Option.some.inj h ▸ hanchor, fun _ h => Option.some.inj h ▸ hstamp⟩
  have hkeep : (Rest.keepAlive stamp).IsSinceEpoch :=
    ⟨fun a h => absurd h.symm (Option.some_ne_none a), fun _ h => Option.some.inj h ▸ hstamp⟩
  refine .ite .rfl ?_ ?_
  · refine (follows_ask _).bind fun isDown _ => .ite .rfl (follows_pure hclaim) ?_
    exact (takeDown_follows hvalid hnow .other).bind fun _ _ => follows_pure hclaim
  · refine (isBackFromDelay_follows hvalid hnow).bind fun back _ => .ite .rfl ?_ ?_
    · exact (bringUp_follows hvalid hnow _).bind fun _ _ => follows_pure hkeep
    · exact follows_tracker.bind fun t _ =>
        .ite .rfl (follows_pure hensure) (follows_pure hclaim)

theorem recoveryOver_follows (request : RequestId) :
    Follows sc (recoveryOver request) (Visit.recoveryOver request) fun pause =>
      pause.rest.IsSinceEpoch := by
  refine follows_producerId.bind fun id _ => follows_tracker.bind fun t ht => ?_
  refine .ite .rfl (follows_throw _) (.ite .rfl (follows_pure ?_) ?_)
  · exact ⟨fun _ h => Option.some.inj h ▸ ht.resumeFrom,
      fun stamp h => absurd h.symm (Option.some_ne_none stamp)⟩
  · refine (follows_track fun t ht => by exact ⟨ht.1, ht.2, ht.3, ht.4⟩).bind fun _ _ => ?_
    exact (bringUp_follows hvalid hnow _).bind fun _ _ => follows_pure (.of_none rfl rfl)

theorem replayEnd_follows (request : RequestId) (interest : Interest) :
    Follows sc (replayEnd request interest) (Visit.replayEnd request interest) fun pause =>
      pause.rest.IsSinceEpoch := by
  have hidle : Follows sc (pure {}) (pure {}) fun pause : Pause => pause.rest.IsSinceEpoch :=
    follows_pure (.of_none rfl rfl)
  refine (follows_ask _).bind fun disabled _ => .ite .rfl hidle ?_
  refine follows_tracker.bind fun t _ => .ite .rfl hidle ?_
  refine (follows_examine fun _ _ hx => hx.eventAnswered _ _).bind fun event _ => .ite .rfl ?_ ?_
  · exact follows_eventOver request
  · refine (follows_examine fun _ _ hx => hx.recoveryAnswered _ _).bind fun recovery _ => ?_
    exact .ite .rfl (recoveryOver_follows hvalid hnow request) hidle

theorem check_follows :
    Follows sc check Visit.check fun pause => pause.rest.IsSinceEpoch := by
  have hdown (reason : DownReason) :
      Follows sc (do return ({ notification := ← takeDown reason } : Pause))
        (do return ({ notification := ← Handler.takeDown reason } : Pause))
        fun pause => pause.rest.IsSinceEpoch :=
    (takeDown_follows hvalid hnow reason).bind fun _ _ => follows_pure (.of_none rfl rfl)
  refine (follows_ask _).bind fun disabled _ => .ite .rfl (follows_pure (.of_none rfl rfl)) ?_
  refine follows_read.bind fun scene hscene => ?_
  subst hscene
  refine .computed (maxInactivityMillis?_eq hvalid) (follows_tracker.bind fun t ht => ?_)
  refine .computed (sub?_eq hnow ht.lastSystemAlive) ?_
  refine .ite lt_sub_iff (hdown .aliveInterval) ?_
  refine (timingWithinLimits_follows hvalid hnow).bind fun onTime _ => ?_
  exact .ite .rfl (hdown .queueDelay) (follows_pure (.of_none rfl rfl))

-- The part of a visit before its notification.
theorem start_follows {v : Visit} (hv : v.IsSinceEpoch) :
    Follows sc (start v) v.start fun pause => pause.rest.IsSinceEpoch := by
  cases v with
  | messageStarted received =>
    refine (follows_write fun _ _ _ hx => hx.setLastMessage).bind fun _ _ => ?_
    exact follows_pure (.of_none rfl rfl)
  | messageEnded generated =>
    refine (follows_write fun _ _ _ hx => hx.setLastProcessed hv).bind fun _ _ => ?_
    exact follows_pure (.of_none rfl rfl)
  | alive stamp subscribed interest =>
    refine (follows_ask _).bind fun disabled _ => .ite .rfl (follows_pure (.of_none rfl rfl)) ?_
    refine .ite .rfl (systemAlive_follows hvalid hnow hv subscribed) ?_
    refine (follows_track fun t ht => by exact ⟨ht.1, ht.2, hv.created, ht.4⟩).bind fun _ _ => ?_
    exact follows_pure (.of_none rfl rfl)
  | replayEnded request interest => exact replayEnd_follows hvalid hnow request interest
  | healthCheck => exact check_follows hvalid hnow

theorem ensureRecovered_follows {anchor : Instant} (hanchor : 0 ≤ anchor.toInt) :
    Follows sc (ensureRecovered anchor) (Rest.ensureRecovered anchor) (TakesUp anchor) := by
  have hclaim := claim_follows hvalid hnow hanchor
  refine follows_read.bind fun scene hscene => ?_
  subst hscene
  refine follows_tracker.bind fun t _ => (follows_ask _).bind fun isDown _ => ?_
  -- whether or not a recovery was missing
  have hstuck (claimed : Option Claim) (hclaimed : TakesUp anchor claimed) :
      Follows scene
        (do
          let t ← Handler.tracker
          let limit ← maxRecoveryMillis? scene.config
          let runningFor ← sub? scene.now t.startedAt
          if t.isPerformingRecovery ∧ runningFor > limit then
            Handler.track (·.setRecovery .zero 0 .error)
            claim anchor
          else return claimed)
        (do
          let t ← Handler.tracker
          if t.isPerformingRecovery ∧
              scene.now.since t.startedAt > scene.config.maxRecoveryMillis.toInt then
            Handler.track (·.setRecovery .zero 0 .error)
            Handler.claim anchor
          else return claimed)
        (TakesUp anchor) := by
    refine follows_tracker.bind fun t ht => ?_
    refine .computed (maxRecoveryMillis?_eq hvalid) (.computed (sub?_eq hnow ht.startedAt) ?_)
    refine .ite (and_congr_right' lt_sub_iff) ?_ (follows_pure hclaimed)
    have hgivenUp : 0 ≤ (0 : Instant).toInt := by decide
    refine (follows_track fun t ht => by exact ⟨hgivenUp, ht.2, ht.3, ht.4⟩).bind fun _ _ => ?_
    exact hclaim
  refine .ite .rfl (hclaim.bind hstuck) ?_
  exact (follows_pure (takesUp_none anchor)).bind hstuck

-- The part of a visit after it.
theorem finish_follows {rest : Rest} (hrest : rest.IsSinceEpoch) :
    Follows sc (finish rest) rest.finish fun claimed =>
      ∀ anchor, rest.anchor? = some anchor → TakesUp anchor claimed := by
  cases rest with
  | done => exact follows_pure fun anchor _ => takesUp_none anchor
  | keepAlive stamp =>
    refine (follows_keepAlive (hrest.alive stamp rfl)).bind fun _ _ => ?_
    exact follows_pure fun anchor _ => takesUp_none anchor
  | claim anchor alive =>
    refine (claim_follows hvalid hnow (hrest.anchor anchor rfl)).bind fun claimed hclaimed => ?_
    have hanswer : ∀ a, some anchor = some a → TakesUp a claimed :=
      fun _ ha => Option.some.inj ha ▸ hclaimed
    cases alive with
    | none => exact follows_pure hanswer
    | some stamp =>
      exact (follows_keepAlive (hrest.alive stamp rfl)).bind fun _ _ => follows_pure hanswer
  | ensureRecovery anchor stamp =>
    refine (ensureRecovered_follows hvalid hnow (hrest.anchor anchor rfl)).bind
      fun claimed hclaimed => ?_
    refine (follows_keepAlive (hrest.alive stamp rfl)).bind fun _ _ => follows_pure ?_
    exact fun _ ha => Option.some.inj ha ▸ hclaimed
  | eventDone request =>
    refine (follows_track fun t ht => by exact ⟨ht.1, ht.2, ht.3, ht.4⟩).bind fun _ _ => ?_
    exact follows_pure fun anchor _ => takesUp_none anchor

end Visits

end Careful
end FeedWatch
