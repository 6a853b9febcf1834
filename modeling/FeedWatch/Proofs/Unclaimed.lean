import FeedWatch.Proofs.Manager

namespace FeedWatch

namespace Tracked

variable {x y : Tracked} {outage : Outage}

-- What is written about a producer leaves the state of its recovery alone.
theorem state_setDown {reason : DownReason} (h : x.setDown outage reason = .ok y) :
    y.tracker.state = x.tracker.state := by
  rw [(of_write h).2]

theorem state_setUp (h : x.setUp outage = .ok y) : y.tracker.state = x.tracker.state := by
  rw [(of_write h).2]

theorem state_setLastMessage {received : Instant} (h : x.setLastMessage outage received = .ok y) :
    y.tracker.state = x.tracker.state := by
  unfold setLastMessage at h
  split at h
  · cases h
  · rw [(of_write h).2]

theorem state_setLastProcessed {generated : Instant}
    (h : x.setLastProcessed outage generated = .ok y) : y.tracker.state = x.tracker.state := by
  unfold setLastProcessed at h
  split at h
  · cases h
  · rw [(of_write h).2]

theorem state_eventAnswered (request : RequestId) (interest : Interest) :
    (x.eventAnswered outage request interest).2.tracker.state = x.tracker.state := by
  obtain ⟨events, h⟩ := x.eventAnswered_eq outage request interest
  rw [h]
  rfl

theorem state_recoveryAnswered (request : RequestId) (interest : Interest) :
    (x.recoveryAnswered outage request interest).2.tracker.state = x.tracker.state := by
  obtain ⟨current, h, -⟩ := x.recoveryAnswered_eq outage request interest
  rw [h]
  rfl

theorem state_systemAlive (received generated : Instant) :
    (x.systemAlive outage received generated).2.tracker.state = x.tracker.state := by
  unfold systemAlive
  dsimp only
  split
  · split <;> rfl
  · split
    · split <;> rfl
    · rfl

end Tracked

-- What a desk is left as where no recovery is claimed: no id was drawn for one, and none is
-- started that was not.
structure Desk.Unclaimed (d d' : Desk) : Prop where
  ids : d'.ids = d.ids
  started : d'.tracked.tracker.state = .started → d.tracked.tracker.state = .started

namespace Desk.Unclaimed

variable {d d' d'' : Desk}

theorem refl (d : Desk) : d.Unclaimed d := ⟨rfl, id⟩

theorem trans (h : d.Unclaimed d') (h' : d'.Unclaimed d'') : d.Unclaimed d'' :=
  ⟨h'.ids.trans h.ids, fun hstarted => h.started (h'.started hstarted)⟩

theorem of_state {x : Tracked} (h : x.tracker.state = d.tracked.tracker.state) :
    d.Unclaimed { d with tracked := x } :=
  ⟨rfl, fun hstarted => h ▸ hstarted⟩

end Desk.Unclaimed

namespace Handler

variable {α β : Type}

-- No recovery is claimed, whatever it comes to.
def ClaimsNothing (h : Handler α) : Prop := ∀ sc (d : Desk), d.Unclaimed (h.leaves sc d).2

theorem ClaimsNothing.bind {h : Handler α} {k : α → Handler β} (hh : ClaimsNothing h)
    (hk : ∀ a, ClaimsNothing (k a)) : ClaimsNothing (h >>= k) := by
  intro sc d
  have hfirst := hh sc d
  rw [leaves, bind_run]
  rw [leaves] at hfirst
  cases hrun : h sc d with
  | error e d' => rwa [hrun] at hfirst
  | ok a d' =>
    rw [hrun] at hfirst
    exact hfirst.trans (hk a sc d')

theorem ClaimsNothing.ite {c : Prop} [Decidable c] {h k : Handler α} (hh : ClaimsNothing h)
    (hk : ClaimsNothing k) : ClaimsNothing (if c then h else k) := by
  split
  · exact hh
  · exact hk

-- What is done under a condition, before the rest.
theorem ClaimsNothing.optional {c : Prop} [Decidable c] {h : Handler Unit} {k : Unit → Handler α}
    (hh : ClaimsNothing h) (hk : ∀ u, ClaimsNothing (k u)) :
    ClaimsNothing (if c then h >>= k else k ()) :=
  .ite (hh.bind hk) (hk ())

theorem pure_claimsNothing (a : α) : ClaimsNothing (pure a) := fun _ d => .refl d

theorem throw_claimsNothing (e : RecoveryError) : ClaimsNothing (throw e : Handler α) :=
  fun _ d => .refl d

theorem read_claimsNothing : ClaimsNothing (read : Handler Scene) := fun _ d => .refl d

theorem tracker_claimsNothing : ClaimsNothing tracker := fun _ d => .refl d

theorem producerId_claimsNothing : ClaimsNothing producerId := fun _ d => .refl d

theorem ask_claimsNothing (question : Tracked → Outage → α) : ClaimsNothing (ask question) :=
  fun _ d => .refl d

theorem announce_claimsNothing (n : Notification) : ClaimsNothing (announce n) :=
  fun _ d => .refl d

theorem track_claimsNothing {change : Tracker → Tracker}
    (h : ∀ t, (change t).state = .started → t.state = .started) : ClaimsNothing (track change) :=
  fun _ d => ⟨rfl, h d.tracked.tracker⟩

theorem examine_claimsNothing {question : Tracked → Outage → α × Tracked}
    (h : ∀ x outage, (question x outage).2.tracker.state = x.tracker.state) :
    ClaimsNothing (examine question) := fun sc d => .of_state (h d.tracked sc.outage)

theorem lookUp_claimsNothing (question : Tracked → Outage → Except DirectoryError α) :
    ClaimsNothing (lookUp question) := by
  intro sc d
  rw [leaves, lookUp_run]
  cases question d.tracked sc.outage <;> exact .refl d

theorem write_claimsNothing {change : Tracked → Outage → Except DirectoryError Tracked}
    (h : ∀ x outage y, change x outage = .ok y → y.tracker.state = x.tracker.state) :
    ClaimsNothing (write change) := by
  intro sc d
  rw [leaves, write_run]
  cases hy : change d.tracked sc.outage with
  | ok y => exact .of_state (h _ _ y hy)
  | error e => exact .refl d

theorem timingWithinLimits_claimsNothing : ClaimsNothing timingWithinLimits := by
  intro sc d
  rw [leaves, timingWithinLimits_run]
  exact .refl d

theorem tell_claimsNothing (reason : StatusReason) : ClaimsNothing (tell reason) := by
  refine tracker_claimsNothing.bind fun t => .ite (pure_claimsNothing none) ?_
  refine (track_claimsNothing fun _ hstarted => by exact hstarted).bind fun _ => ?_
  refine (lookUp_claimsNothing _).bind fun producer => (ask_claimsNothing _).bind fun isDown => ?_
  refine timingWithinLimits_claimsNothing.bind fun _ => read_claimsNothing.bind fun scene => ?_
  exact announce_claimsNothing _

theorem takeDown_claimsNothing (reason : DownReason) : ClaimsNothing (takeDown reason) := by
  have hset : ClaimsNothing (write (·.setDown · reason)) :=
    write_claimsNothing fun _ _ _ => Tracked.state_setDown
  refine (ask_claimsNothing _).bind fun disabled => .ite (pure_claimsNothing none) ?_
  refine (ask_claimsNothing _).bind fun wasDown => tracker_claimsNothing.bind fun t => ?_
  refine .optional hset fun _ => tracker_claimsNothing.bind fun t => ?_
  refine .optional (track_claimsNothing fun _ hstarted => by cases hstarted) fun _ => ?_
  exact .optional hset fun _ => tell_claimsNothing _

theorem bringUp_claimsNothing (reason : UpReason) : ClaimsNothing (bringUp reason) := by
  have hset : ClaimsNothing (write Tracked.setUp) :=
    write_claimsNothing fun _ _ _ => Tracked.state_setUp
  refine (ask_claimsNothing _).bind fun disabled => .ite (pure_claimsNothing none) ?_
  refine (ask_claimsNothing _).bind fun isDown => ?_
  exact .optional hset fun _ => tell_claimsNothing _

-- A visit that ends with what the user is told.
theorem ClaimsNothing.pause {h : Handler (Option Notification)} (hh : ClaimsNothing h)
    (rest : Rest) : ClaimsNothing (do return ({ notification := ← h, rest } : Pause)) :=
  hh.bind fun _ => pure_claimsNothing _

end Handler

namespace Visit

open Handler

theorem systemAlive_claimsNothing (stamp : Stamp) (subscribed : Bool) :
    ClaimsNothing (systemAlive stamp subscribed) := by
  refine (write_claimsNothing fun _ _ _ => Tracked.state_setLastMessage).bind fun _ => ?_
  refine (lookUp_claimsNothing _).bind fun anchor => .ite ?_ ?_
  · refine (ask_claimsNothing _).bind fun isDown => .ite (pure_claimsNothing _) ?_
    exact (takeDown_claimsNothing .other).pause _
  · have hback : ClaimsNothing isBackFromDelay := by
      refine tracker_claimsNothing.bind fun t => (ask_claimsNothing _).bind fun isDown => ?_
      exact .ite timingWithinLimits_claimsNothing (pure_claimsNothing false)
    refine hback.bind fun back => .ite ((bringUp_claimsNothing _).pause _) ?_
    exact tracker_claimsNothing.bind fun t => .ite (pure_claimsNothing _) (pure_claimsNothing _)

theorem replayEnd_claimsNothing (request : RequestId) (interest : Interest) :
    ClaimsNothing (replayEnd request interest) := by
  have heventOver : ClaimsNothing (eventOver request) := by
    refine producerId_claimsNothing.bind fun id => tracker_claimsNothing.bind fun t => ?_
    cases t.eventReplay? request with
    | none => exact throw_claimsNothing _
    | some replay =>
      refine (lookUp_claimsNothing _).bind fun producer => read_claimsNothing.bind fun scene => ?_
      exact (announce_claimsNothing _).bind fun _ => pure_claimsNothing _
  have hrecoveryOver : ClaimsNothing (recoveryOver request) := by
    refine producerId_claimsNothing.bind fun id => tracker_claimsNothing.bind fun t => ?_
    refine .ite (throw_claimsNothing _) (.ite (pure_claimsNothing _) ?_)
    exact (track_claimsNothing fun _ hstarted => by cases hstarted).bind fun _ =>
      (bringUp_claimsNothing _).pause _
  refine (ask_claimsNothing _).bind fun disabled => .ite (pure_claimsNothing _) ?_
  refine tracker_claimsNothing.bind fun t => .ite (pure_claimsNothing _) ?_
  refine (examine_claimsNothing fun _ _ => Tracked.state_eventAnswered _ _).bind fun event =>
    .ite heventOver ?_
  exact (examine_claimsNothing fun _ _ => Tracked.state_recoveryAnswered _ _).bind fun recovery =>
    .ite hrecoveryOver (pure_claimsNothing _)

theorem check_claimsNothing : ClaimsNothing check := by
  refine (ask_claimsNothing _).bind fun disabled => .ite (pure_claimsNothing _) ?_
  refine read_claimsNothing.bind fun scene => tracker_claimsNothing.bind fun t => .ite ?_ ?_
  · exact (takeDown_claimsNothing _).pause _
  · refine timingWithinLimits_claimsNothing.bind fun onTime => .ite ?_ (pure_claimsNothing _)
    exact (takeDown_claimsNothing _).pause _

-- The part of a visit before its notification claims no recovery.
theorem start_claimsNothing (v : Visit) : ClaimsNothing v.start := by
  cases v with
  | messageStarted received =>
    exact (write_claimsNothing fun _ _ _ => Tracked.state_setLastMessage).bind fun _ =>
      pure_claimsNothing _
  | messageEnded generated =>
    exact (write_claimsNothing fun _ _ _ => Tracked.state_setLastProcessed).bind fun _ =>
      pure_claimsNothing _
  | alive stamp subscribed interest =>
    refine (ask_claimsNothing _).bind fun disabled => .ite (pure_claimsNothing _) (.ite ?_ ?_)
    · exact systemAlive_claimsNothing stamp subscribed
    · exact (track_claimsNothing fun _ hstarted => by exact hstarted).bind fun _ =>
        pure_claimsNothing _
  | replayEnded request interest => exact replayEnd_claimsNothing request interest
  | healthCheck => exact check_claimsNothing

end Visit

namespace Handler

variable {α β : Type} {P : α → Prop} {Q : β → Prop} {h k : Handler α}

-- What it answers while the manager is not open, if it does.
def AnswersShut (P : α → Prop) (h : Handler α) : Prop :=
  ∀ sc d a d', sc.isOpen = false → h sc d = .ok a d' → P a

namespace AnswersShut

theorem bind {next : α → Handler β} (hh : AnswersShut P h)
    (hnext : ∀ a, P a → AnswersShut Q (next a)) : AnswersShut Q (h >>= next) := by
  intro sc d b d' hshut hrun
  rw [bind_run] at hrun
  cases hfirst : h sc d with
  | error e d₁ => simp [hfirst] at hrun
  | ok a d₁ =>
    rw [hfirst] at hrun
    exact hnext a (hh sc d a d₁ hshut hfirst) sc d₁ b d' hshut hrun

theorem after (h : Handler α) {next : α → Handler β} (hnext : ∀ a, AnswersShut Q (next a)) :
    AnswersShut Q (h >>= next) :=
  bind (P := fun _ => True) (fun _ _ _ _ _ _ => trivial) fun a _ => hnext a

theorem ite {c : Prop} [Decidable c] (hh : AnswersShut P h) (hk : AnswersShut P k) :
    AnswersShut P (if c then h else k) := by
  split
  · exact hh
  · exact hk

theorem optional {c : Prop} [Decidable c] (u : Handler Unit) {next : Unit → Handler α}
    (hnext : ∀ a, AnswersShut P (next a)) : AnswersShut P (if c then u >>= next else next ()) :=
  .ite (.after u hnext) (hnext ())

theorem pure {a : α} (ha : P a) : AnswersShut P (Pure.pure a) := by
  intro sc d b d' _ hrun
  obtain ⟨rfl, -⟩ := EStateM.Result.ok.inj hrun
  exact ha

theorem throw (e : RecoveryError) : AnswersShut P (MonadExcept.throw e) :=
  fun _ _ _ _ _ hrun => absurd hrun nofun

-- A visit that ends with what the user is told.
theorem pause {h : Handler (Option Notification)} (hh : AnswersShut (· = none) h) (rest : Rest) :
    AnswersShut (·.notification = none) (do return ({ notification := ← h, rest } : Pause)) :=
  hh.bind fun _ hnone => .pure hnone

end AnswersShut

theorem announce_answersShut (n : Notification) : AnswersShut (· = none) (announce n) := by
  intro sc d a d' hshut hrun
  obtain ⟨rfl, -⟩ := EStateM.Result.ok.inj hrun
  exact if_neg (by simp [hshut])

theorem tell_answersShut (reason : StatusReason) : AnswersShut (· = none) (tell reason) :=
  .after _ fun _ => .ite (.pure rfl) <| .after _ fun _ => .after _ fun _ => .after _ fun _ =>
    .after _ fun _ => .after _ fun _ => announce_answersShut _

theorem takeDown_answersShut (reason : DownReason) : AnswersShut (· = none) (takeDown reason) :=
  .after _ fun _ => .ite (.pure rfl) <| .after _ fun _ => .after _ fun _ => .optional _ fun _ =>
    .after _ fun _ => .optional _ fun _ => .optional _ fun _ => tell_answersShut _

theorem bringUp_answersShut (reason : UpReason) : AnswersShut (· = none) (bringUp reason) :=
  .after _ fun _ => .ite (.pure rfl) <| .after _ fun _ => .optional _ fun _ => tell_answersShut _

end Handler

namespace Visit

open Handler

theorem systemAlive_answersShut (stamp : Stamp) (subscribed : Bool) :
    AnswersShut (·.notification = none) (systemAlive stamp subscribed) := by
  refine .after _ fun _ => .after _ fun anchor => .ite (.after _ fun isDown => .ite ?_ ?_) ?_
  · exact .pure rfl
  · exact (takeDown_answersShut _).pause _
  · refine .after _ fun back => .ite ((bringUp_answersShut _).pause _) ?_
    exact .after _ fun t => .ite (.pure rfl) (.pure rfl)

theorem replayEnd_answersShut (request : RequestId) (interest : Interest) :
    AnswersShut (·.notification = none) (replayEnd request interest) := by
  have heventOver : AnswersShut (·.notification = none) (eventOver request) := by
    refine .after _ fun id => .after _ fun t => ?_
    cases t.eventReplay? request with
    | none => exact .throw _
    | some replay =>
      refine .after _ fun producer => .after _ fun scene => ?_
      exact (announce_answersShut _).pause _
  have hrecoveryOver : AnswersShut (·.notification = none) (recoveryOver request) := by
    refine .after _ fun id => .after _ fun t => .ite (.throw _) (.ite (.pure rfl) ?_)
    exact .after _ fun _ => (bringUp_answersShut _).pause _
  refine .after _ fun disabled => .ite (.pure rfl) (.after _ fun t => .ite (.pure rfl) ?_)
  refine .after _ fun event => .ite heventOver ?_
  exact .after _ fun recovery => .ite hrecoveryOver (.pure rfl)

theorem check_answersShut : AnswersShut (·.notification = none) check := by
  refine .after _ fun disabled => .ite (.pure rfl) (.after _ fun scene => .after _ fun t => .ite ?_ ?_)
  · exact (takeDown_answersShut _).pause _
  · exact .after _ fun onTime => .ite ((takeDown_answersShut _).pause _) (.pure rfl)

-- Visits say nothing while nobody listens.
theorem start_answersShut (v : Visit) : AnswersShut (·.notification = none) v.start := by
  cases v with
  | messageStarted received => exact .after _ fun _ => .pure rfl
  | messageEnded generated => exact .after _ fun _ => .pure rfl
  | alive stamp subscribed interest =>
    refine .after _ fun disabled => .ite (.pure rfl) (.ite ?_ ?_)
    · exact systemAlive_answersShut stamp subscribed
    · exact .after _ fun _ => .pure rfl
  | replayEnded request interest => exact replayEnd_answersShut request interest
  | healthCheck => exact check_answersShut

end Visit

namespace Rest

variable {sc : Scene} {d : Desk}

theorem ensureRecovered_of_not_open (hopen : sc.isOpen = false) (anchor : Instant) :
    ∃ d', ensureRecovered anchor sc d = .ok none d' ∧ d.Unclaimed d' := by
  have hclaim (d : Desk) : Handler.claim anchor sc d = .ok none d :=
    Handler.claim_of_not_open hopen anchor
  simp only [ensureRecovered, Handler.bind_run, Handler.read_run, Handler.tracker_run,
    Handler.ask_run, Handler.ite_run, hclaim, Handler.pure_run, Handler.track_run, ite_self]
  split
  · exact ⟨_, rfl, rfl, fun hstarted => by cases hstarted⟩
  · exact ⟨d, rfl, .refl d⟩

-- The rest of a visit comes to an end, without a claim.
theorem finish_of_not_open (hopen : sc.isOpen = false) (rest : Rest) :
    ∃ d', rest.finish sc d = .ok none d' ∧ d.Unclaimed d' := by
  cases rest with
  | done => exact ⟨d, rfl, .refl d⟩
  | keepAlive stamp => exact ⟨_, rfl, .of_state (Tracked.state_systemAlive _ _)⟩
  | claim anchor alive =>
    cases alive <;> simp only [finish, Handler.bind_run, Handler.claim_of_not_open hopen]
    · exact ⟨d, rfl, .refl d⟩
    · exact ⟨_, rfl, .of_state (Tracked.state_systemAlive _ _)⟩
  | ensureRecovery anchor stamp =>
    obtain ⟨d', hd', hunclaimed⟩ := ensureRecovered_of_not_open (d := d) hopen anchor
    simp only [finish, Handler.bind_run, hd']
    exact ⟨_, rfl, hunclaimed.trans (.of_state (Tracked.state_systemAlive _ _))⟩
  | eventDone request => exact ⟨_, rfl, .of_state rfl⟩

end Rest

namespace Manager

variable {m m' m'' : Manager} {t : Moment} {id : ProducerId}

-- What a manager is left as where no recovery is claimed.
structure Unclaimed (m m' : Manager) : Prop where
  phase : m'.phase = m.phase
  ids : m'.ids = m.ids
  started : ∀ id, (m'.tracked id).tracker.state = .started → (m.tracked id).tracker.state = .started

namespace Unclaimed

theorem refl (m : Manager) : m.Unclaimed m := ⟨rfl, rfl, fun _ hstarted => hstarted⟩

theorem trans (h : m.Unclaimed m') (h' : m'.Unclaimed m'') : m.Unclaimed m'' :=
  ⟨h'.phase.trans h.phase, h'.ids.trans h.ids, fun j hstarted => h.started j (h'.started j hstarted)⟩

theorem putDesk {d : Desk} (h : (m.desk id).Unclaimed d) : m.Unclaimed (m.putDesk id d) := by
  refine ⟨rfl, h.ids, fun j hstarted => ?_⟩
  by_cases hj : j = id
  · subst hj
    have htracker : ((m.putDesk j d).tracked j).tracker = d.tracked.tracker := by
      simp [tracked, desk, Manager.putDesk]
    exact h.started (htracker ▸ hstarted)
  · rwa [tracked_putDesk_ne hj] at hstarted

end Unclaimed

theorem visit_unclaimed (v : Visit) : m.Unclaimed (m.visit t id v).2 := by
  obtain ⟨h, -⟩ | h := m.visit_eq_hold t id v
  · rw [h]
    exact .refl m
  · rw [h, hold_manager]
    exact .putDesk (v.start_claimsNothing (m.scene t) (m.desk id))

theorem visit_notification_of_shut (hshut : m.isOpen = false) (v : Visit) :
    (m.visit t id v).1.notification = none := by
  obtain ⟨h, -⟩ | h := m.visit_eq_hold t id v
  · rw [h]
  · rw [h, hold_toOption, Handler.leaves]
    cases hrun : v.start (m.scene t) (m.desk id) with
    | ok pause d => exact v.start_answersShut (m.scene t) (m.desk id) pause d hshut hrun
    | error e d => rfl

theorem finish_of_shut (hshut : m.isOpen = false) (rest : Rest) :
    (m.finish t id rest).1 = none ∧ m.Unclaimed (m.finish t id rest).2 := by
  unfold finish
  split
  · exact ⟨rfl, .refl m⟩
  · have hopen : (m.scene t).isOpen = false := hshut
    obtain ⟨d, hd, hunclaimed⟩ := Rest.finish_of_not_open (d := m.desk id) hopen rest
    simp only [hold, hd]
    exact ⟨rfl, .putDesk hunclaimed⟩

end Manager

end FeedWatch
