import FeedWatch.Proofs.Handler

namespace FeedWatch

-- How the entries of the directory, its fallback and its records are seen.
structure View where
  entry : Entry → Entry
  fallback : String → String
  record : Producer → Producer
  producer_entry : ∀ e, (entry e).producer = e.producer.map record
  unknown_fallback : ∀ id endpoint,
    Producer.unknown id (fallback endpoint) = record (Producer.unknown id endpoint)
  enabled_entry : ∀ e, (entry e).enabled = e.enabled
  flaggedDown_entry : ∀ e, (entry e).flaggedDown = e.flaggedDown
  entry_flaggedDown : ∀ e flaggedDown,
    { entry e with flaggedDown } = entry { e with flaggedDown }
  entry_lastMessage : ∀ e lastMessage,
    { entry e with lastMessage } = entry { e with lastMessage }
  entry_lastProcessed : ∀ e lastProcessed,
    { entry e with lastProcessed } = entry { e with lastProcessed }
  entry_lastAlive : ∀ e lastAlive, { entry e with lastAlive } = entry { e with lastAlive }
  name_record : ∀ p, (record p).name = p.name
  scopes_record : ∀ p, (record p).scopes = p.scopes
  recoveryAnchor_record : ∀ p, (record p).recoveryAnchor = p.recoveryAnchor
  lastProcessed_record : ∀ p, (record p).lastProcessed = p.lastProcessed

def Notification.mapProducer (f : Producer → Producer) : Notification → Notification
  | .statusChange change => .statusChange { change with producer := f change.producer }
  | .eventReplayed replay => .eventReplayed { replay with producer := f replay.producer }

def Pause.mapProducer (f : Producer → Producer) (p : Pause) : Pause :=
  { p with notification := p.notification.map (Notification.mapProducer f) }

theorem Outage.guard_map {α β : Type} (outage : Outage) (call : DirectoryCall) (id : ProducerId)
    (answer : Except DirectoryError α) (f : α → β) :
    outage.guard call id (answer.map f) = (outage.guard call id answer).map f := by
  unfold guard
  split <;> rfl

@[simp] theorem Tracked.mapTracker_id (x : Tracked) (f : Tracker → Tracker) :
    (x.mapTracker f).id = x.id := rfl

theorem Tracked.isFlaggedDown_mapTracker (x : Tracked) (f : Tracker → Tracker) (outage : Outage) :
    (x.mapTracker f).isFlaggedDown outage = x.isFlaggedDown outage := rfl

namespace View

def listing (V : View) (l : Listing) : Listing :=
  ⟨l.id, V.fallback l.fallback, l.entry.map V.entry⟩

def tracked (V : View) (x : Tracked) : Tracked := { x with listing := V.listing x.listing }

def desk (V : View) (d : Desk) : Desk := { d with tracked := V.tracked d.tracked }

variable {V : View} {l : Listing} {x : Tracked} {outage : Outage}

theorem producer_listing : (V.listing l).producer = l.producer.map V.record := by
  obtain ⟨id, fallback, entry⟩ := l
  cases entry with
  | none => exact congrArg Except.ok (V.unknown_fallback id fallback)
  | some e => exact V.producer_entry e

theorem read_listing {α : Type} {f : Entry → α} (hf : ∀ e, f (V.entry e) = f e) :
    (V.listing l).read f = l.read f := by
  obtain ⟨id, fallback, entry⟩ := l
  cases entry with
  | none => rfl
  | some e => exact congrArg Except.ok (hf e)

theorem update_listing {f : Entry → Entry} (hf : ∀ e, f (V.entry e) = V.entry (f e)) :
    (V.listing l).update f = (l.update f).map V.listing := by
  obtain ⟨id, fallback, entry⟩ := l
  cases entry with
  | none => rfl
  | some e =>
    change Except.ok (Listing.mk id (V.fallback fallback) (some (f (V.entry e)))) = _
    rw [hf]
    rfl

@[simp] theorem tracked_tracker : (V.tracked x).tracker = x.tracker := rfl

@[simp] theorem tracked_id : (V.tracked x).id = x.id := rfl

@[simp] theorem tracked_mk (tracker : Tracker) (l : Listing) :
    V.tracked ⟨tracker, l⟩ = ⟨tracker, V.listing l⟩ := rfl

@[simp] theorem tracked_mapTracker (f : Tracker → Tracker) :
    V.tracked (x.mapTracker f) = (V.tracked x).mapTracker f := rfl

theorem isFlaggedDown_tracked : (V.tracked x).isFlaggedDown outage = x.isFlaggedDown outage := by
  unfold Tracked.isFlaggedDown
  rw [show (V.tracked x).listing.isDown = x.listing.isDown from read_listing V.flaggedDown_entry]
  rfl

theorem isDisabled_tracked : (V.tracked x).isDisabled outage = x.isDisabled outage := by
  unfold Tracked.isDisabled
  rw [show (V.tracked x).listing.isEnabled = x.listing.isEnabled from
    read_listing V.enabled_entry]
  rfl

theorem producer_tracked :
    (V.tracked x).producer outage = (x.producer outage).map V.record := by
  unfold Tracked.producer
  rw [← Outage.guard_map, ← producer_listing]
  rfl

-- What is read off the record of a producer.
theorem map_producer_tracked {α : Type} {f : Producer → α} (hf : ∀ p, f (V.record p) = f p) :
    ((V.tracked x).producer outage).map f = (x.producer outage).map f := by
  rw [producer_tracked]
  cases x.producer outage with
  | ok p => exact congrArg Except.ok (hf p)
  | error e => rfl

theorem scopesAcknowledged_tracked (acknowledged : List Interest) :
    (V.tracked x).scopesAcknowledged outage acknowledged =
      x.scopesAcknowledged outage acknowledged := by
  unfold Tracked.scopesAcknowledged
  rw [producer_tracked]
  cases x.producer outage with
  | ok p => exact congrArg (Scope.allAcknowledged · acknowledged) (V.scopes_record p)
  | error e => rfl

-- A question whose answer is the same, and so is the trace that it leaves.
def Answers {α : Type} (V : View) (question : Tracked → Outage → α × Tracked) : Prop :=
  ∀ x outage, question (V.tracked x) outage =
    ((question x outage).1, V.tracked (question x outage).2)

theorem answers_recoveryAnswered (request : RequestId) (interest : Interest) :
    V.Answers (·.recoveryAnswered · request interest) := by
  intro x outage
  dsimp only
  unfold Tracked.recoveryAnswered
  rw [tracked_tracker]
  cases x.tracker.current with
  | none => rfl
  | some replay =>
    dsimp only
    split
    · rfl
    · split
      · rfl
      · exact congrArg (·, _) (scopesAcknowledged_tracked _)

theorem answers_eventAnswered (request : RequestId) (interest : Interest) :
    V.Answers (·.eventAnswered · request interest) := by
  intro x outage
  dsimp only
  unfold Tracked.eventAnswered
  rw [tracked_tracker]
  cases x.tracker.eventReplay? request with
  | none => rfl
  | some replay =>
    dsimp only
    split
    · rfl
    · exact congrArg (·, _) (scopesAcknowledged_tracked _)

-- The same is written.
def Writes (V : View) (change : Tracked → Outage → Except DirectoryError Tracked) : Prop :=
  ∀ x outage, change (V.tracked x) outage = (change x outage).map V.tracked

-- What is written about a producer, and then kept in its tracker.
theorem writes_update {call : DirectoryCall} {f : Entry → Entry} {g : Tracker → Tracker}
    (hf : ∀ e, f (V.entry e) = V.entry (f e)) :
    V.Writes fun x outage => do
      let listing ← outage.guard call x.id (x.listing.update f)
      return { tracker := g x.tracker, listing } := by
  intro x outage
  have hupdate : (V.tracked x).listing.update f = _ := update_listing hf
  dsimp only
  rw [hupdate, Outage.guard_map]
  change Except.bind (Except.map _ (outage.guard call x.id (x.listing.update f))) _ = _
  cases outage.guard call x.id (x.listing.update f) <;> rfl

theorem writes_setDown (reason : DownReason) : V.Writes (·.setDown · reason) :=
  writes_update (f := ({ · with flaggedDown := true }))
    (g := ({ · with downReason := reason, events := ∅ })) fun e => V.entry_flaggedDown e true

theorem writes_setUp : V.Writes Tracked.setUp :=
  writes_update (f := ({ · with flaggedDown := false })) (g := ({ · with downReason := .default }))
    fun e => V.entry_flaggedDown e false

-- A zero is refused before anything is written.
theorem writes_unless {c : Prop} [Decidable c] {e : DirectoryError}
    {change : Tracked → Outage → Except DirectoryError Tracked} (h : ¬c → V.Writes change) :
    V.Writes fun x outage => if c then .error e else change x outage := by
  split <;> rename_i hc
  · exact fun _ _ => rfl
  · exact h hc

theorem writes_setLastMessage (received : Instant) : V.Writes (·.setLastMessage · received) := by
  refine writes_unless fun hzero => ?_
  simp only [Listing.setLastMessage, hzero, if_false]
  exact writes_update (f := ({ · with lastMessage := received })) (g := fun t => t)
    fun e => V.entry_lastMessage e received

theorem writes_setLastProcessed (generated : Instant) :
    V.Writes (·.setLastProcessed · generated) :=
  writes_unless fun _ => writes_update (f := ({ · with lastProcessed := generated }))
    (g := fun t => t) fun e => V.entry_lastProcessed e generated

theorem answers_systemAlive (received generated : Instant) :
    V.Answers (·.systemAlive · received generated) := by
  intro x outage
  have hset : outage.guard .setLastAlive x.id ((V.tracked x).listing.setLastAlive generated) =
      (outage.guard .setLastAlive x.id (x.listing.setLastAlive generated)).map V.listing := by
    rw [← Outage.guard_map]
    exact congrArg (outage.guard _ _) (update_listing fun e => V.entry_lastAlive e generated)
  by_cases hs : x.tracker.state = .started <;> cases hd : x.isFlaggedDown outage <;>
    cases hg : outage.guard .setLastAlive x.id (x.listing.setLastAlive generated) <;>
    simp [Tracked.systemAlive, Tracked.isFlaggedDown_mapTracker, isFlaggedDown_tracked, hs, hd,
      hg, hset, Except.map]

variable {α β : Type}

-- What is seen of an outcome: the answer by `f`, and the desk.
def seen (V : View) (f : α → β) :
    EStateM.Result RecoveryError Desk α → EStateM.Result RecoveryError Desk β
  | .ok a d => .ok (f a) (V.desk d)
  | .error e d => .error e (V.desk d)

end View

namespace Handler

open View

variable {V : View} {α β γ δ : Type} {f : α → β} {g : γ → δ}

-- Where the first handler meets a desk, the second does the same to what is seen of it.
def Matches (V : View) (f : α → β) (h : Handler α) (k : Handler β) : Prop :=
  ∀ sc d, k sc (V.desk d) = V.seen f (h sc d)

theorem Matches.bind {h : Handler α} {h' : Handler β} {k : α → Handler γ} {k' : β → Handler δ}
    (hh : Matches V f h h') (hk : ∀ a, Matches V g (k a) (k' (f a))) :
    Matches V g (h >>= k) (h' >>= k') := by
  intro sc d
  rw [bind_run, bind_run, hh sc d]
  cases h sc d with
  | ok a d => exact hk a sc d
  | error e d => rfl

theorem Matches.ite {c : Prop} [Decidable c] {h k : Handler α} {h' k' : Handler β}
    (hh : Matches V f h h') (hk : Matches V f k k') :
    Matches V f (if c then h else k) (if c then h' else k') := by
  split
  · exact hh
  · exact hk

-- What is done under a condition, before the rest.
theorem Matches.optional {c : Prop} [Decidable c] {h : Handler Unit} {k k' : Unit → Handler α}
    {f : α → α} (hh : Matches V id h h) (hk : ∀ u, Matches V f (k u) (k' u)) :
    Matches V f (if c then h >>= k else k ()) (if c then h >>= k' else k' ()) :=
  .ite (hh.bind hk) (hk ())

theorem pure_matches (a : α) : Matches V f (pure a) (pure (f a)) := fun _ _ => rfl

theorem throw_matches (e : RecoveryError) : Matches V f (throw e) (throw e) := fun _ _ => rfl

theorem read_matches : Matches V id (read : Handler Scene) read := fun _ _ => rfl

theorem tracker_matches : Matches V id tracker tracker := fun _ _ => rfl

theorem producerId_matches : Matches V id producerId producerId := fun _ _ => rfl

theorem drawId_matches : Matches V id drawId drawId := fun _ _ => rfl

theorem track_matches (change : Tracker → Tracker) : Matches V id (track change) (track change) :=
  fun _ _ => rfl

theorem ask_matches {question : Tracked → Outage → α}
    (hq : ∀ x outage, question (V.tracked x) outage = question x outage) :
    Matches V id (ask question) (ask question) := by
  intro sc d
  rw [ask_run, ask_run]
  exact congrArg (EStateM.Result.ok · _) (hq d.tracked sc.outage)

theorem lookUp_matches {question : Tracked → Outage → Except DirectoryError α} {f : α → α}
    (hq : ∀ x outage, question (V.tracked x) outage = (question x outage).map f) :
    Matches V f (lookUp question) (lookUp question) := by
  intro sc d
  have htracked : (V.desk d).tracked = V.tracked d.tracked := rfl
  rw [lookUp_run, lookUp_run, htracked, hq]
  cases question d.tracked sc.outage <;> rfl

theorem write_matches {change : Tracked → Outage → Except DirectoryError Tracked}
    (hc : V.Writes change) : Matches V id (write change) (write change) := by
  intro sc d
  have htracked : (V.desk d).tracked = V.tracked d.tracked := rfl
  rw [write_run, write_run, htracked, hc]
  cases change d.tracked sc.outage <;> rfl

theorem examine_matches {question : Tracked → Outage → α × Tracked} (hq : V.Answers question) :
    Matches V id (examine question) (examine question) := by
  intro sc d
  have h := hq d.tracked sc.outage
  rw [examine_run, examine_run]
  change EStateM.Result.ok (question (V.tracked d.tracked) sc.outage).1
    (Desk.mk (question (V.tracked d.tracked) sc.outage).2 d.ids) = _
  rw [h]
  rfl

theorem isFlaggedDown_matches :
    Matches V id (ask Tracked.isFlaggedDown) (ask Tracked.isFlaggedDown) :=
  ask_matches fun _ _ => isFlaggedDown_tracked

theorem isDisabled_matches : Matches V id (ask Tracked.isDisabled) (ask Tracked.isDisabled) :=
  ask_matches fun _ _ => isDisabled_tracked

theorem name_matches : Matches V id (lookUp Tracked.name) (lookUp Tracked.name) := by
  refine lookUp_matches fun x outage => ?_
  rw [Except.map_id]
  exact map_producer_tracked V.name_record

theorem timingWithinLimits_matches : Matches V id timingWithinLimits timingWithinLimits := by
  refine read_matches.bind fun scene => ?_
  refine (ask_matches fun _ _ => map_producer_tracked V.lastProcessed_record).bind fun l => ?_
  cases l with
  | error e => exact pure_matches false
  | ok lastProcessed => exact tracker_matches.bind fun t => pure_matches _

-- What the user is told, as it is seen.
theorem announce_matches (n : Notification) :
    Matches V (Option.map (Notification.mapProducer V.record)) (announce n)
      (announce (n.mapProducer V.record)) := by
  refine read_matches.bind fun scene sc d => ?_
  change EStateM.Result.ok (if scene.isOpen then some (n.mapProducer V.record) else none) _ = _
  rw [pure_run, seen]
  split <;> rfl

theorem tell_matches (reason : StatusReason) :
    Matches V (Option.map (Notification.mapProducer V.record)) (tell reason) (tell reason) := by
  refine tracker_matches.bind fun t => .ite (pure_matches none) ?_
  refine (track_matches _).bind fun _ => ?_
  refine (lookUp_matches fun _ _ => producer_tracked).bind fun producer => ?_
  refine isFlaggedDown_matches.bind fun isDown => timingWithinLimits_matches.bind fun onTime => ?_
  exact read_matches.bind fun scene => announce_matches _

theorem takeDown_matches (reason : DownReason) :
    Matches V (Option.map (Notification.mapProducer V.record)) (takeDown reason)
      (takeDown reason) := by
  have hset : Matches V id (write (·.setDown · reason)) (write (·.setDown · reason)) :=
    write_matches (writes_setDown reason)
  refine isDisabled_matches.bind fun disabled => .ite (pure_matches none) ?_
  refine isFlaggedDown_matches.bind fun wasDown => tracker_matches.bind fun t => ?_
  refine .optional hset fun _ => tracker_matches.bind fun t => ?_
  refine .optional (track_matches _) fun _ => .optional hset fun _ => tell_matches _

theorem bringUp_matches (reason : UpReason) :
    Matches V (Option.map (Notification.mapProducer V.record)) (bringUp reason)
      (bringUp reason) := by
  refine isDisabled_matches.bind fun disabled => .ite (pure_matches none) ?_
  refine isFlaggedDown_matches.bind fun isDown => ?_
  exact .optional (write_matches writes_setUp) fun _ => tell_matches _

theorem claim_matches (anchor : Instant) : Matches V id (claim anchor) (claim anchor) := by
  refine read_matches.bind fun scene => .ite (pure_matches none) ?_
  refine drawId_matches.bind fun request => name_matches.bind fun name => ?_
  exact (track_matches _).bind fun _ => producerId_matches.bind fun id => pure_matches _

theorem keepAlive_matches (stamp : Stamp) : Matches V id (keepAlive stamp) (keepAlive stamp) :=
  (examine_matches (answers_systemAlive _ _)).bind fun _ => pure_matches ()

end Handler

namespace Visit

open Handler View

variable {V : View}

theorem isBackFromDelay_matches : Matches V id isBackFromDelay isBackFromDelay := by
  refine tracker_matches.bind fun t => isFlaggedDown_matches.bind fun isDown => ?_
  exact .ite timingWithinLimits_matches (pure_matches false)

theorem recoveryAnchor_matches :
    Matches V id (lookUp Tracked.recoveryAnchor) (lookUp Tracked.recoveryAnchor) := by
  refine lookUp_matches fun x outage => ?_
  rw [Except.map_id]
  exact map_producer_tracked V.recoveryAnchor_record

theorem systemAlive_matches (stamp : Stamp) (subscribed : Bool) :
    Matches V (Pause.mapProducer V.record) (systemAlive stamp subscribed)
      (systemAlive stamp subscribed) := by
  refine (write_matches (writes_setLastMessage _)).bind fun _ => ?_
  refine recoveryAnchor_matches.bind fun anchor => .ite ?_ ?_
  · refine isFlaggedDown_matches.bind fun isDown => .ite ?_ ?_
    · exact pure_matches _
    · exact (takeDown_matches .other).bind fun notification => pure_matches _
  · refine isBackFromDelay_matches.bind fun back => .ite ?_ ?_
    · exact (bringUp_matches _).bind fun notification => pure_matches _
    · exact tracker_matches.bind fun t => .ite (pure_matches _) (pure_matches _)

theorem eventOver_matches (request : RequestId) :
    Matches V (Pause.mapProducer V.record) (eventOver request) (eventOver request) := by
  refine producerId_matches.bind fun id => tracker_matches.bind fun t => ?_
  dsimp only [id_eq]
  cases t.eventReplay? request with
  | none => exact throw_matches _
  | some replay =>
    refine (lookUp_matches fun _ _ => producer_tracked).bind fun producer => ?_
    refine read_matches.bind fun scene => ?_
    exact (announce_matches _).bind fun notification => pure_matches _

theorem recoveryOver_matches (request : RequestId) :
    Matches V (Pause.mapProducer V.record) (recoveryOver request) (recoveryOver request) := by
  refine producerId_matches.bind fun id => tracker_matches.bind fun t => ?_
  refine .ite (throw_matches _) (.ite (pure_matches _) ?_)
  refine (track_matches _).bind fun _ => ?_
  exact (bringUp_matches _).bind fun notification => pure_matches _

theorem replayEnd_matches (request : RequestId) (interest : Interest) :
    Matches V (Pause.mapProducer V.record) (replayEnd request interest)
      (replayEnd request interest) := by
  refine isDisabled_matches.bind fun disabled => .ite (pure_matches _) ?_
  refine tracker_matches.bind fun t => .ite (pure_matches _) ?_
  refine (examine_matches (answers_eventAnswered _ _)).bind fun event => ?_
  refine .ite (eventOver_matches request) ?_
  refine (examine_matches (answers_recoveryAnswered _ _)).bind fun _ => ?_
  exact .ite (recoveryOver_matches request) (pure_matches _)

theorem check_matches : Matches V (Pause.mapProducer V.record) check check := by
  refine isDisabled_matches.bind fun disabled => .ite (pure_matches _) ?_
  refine read_matches.bind fun scene => tracker_matches.bind fun t => .ite ?_ ?_
  · exact (takeDown_matches _).bind fun notification => pure_matches _
  · refine timingWithinLimits_matches.bind fun onTime => .ite ?_ (pure_matches _)
    exact (takeDown_matches _).bind fun notification => pure_matches _

theorem start_matches (v : Visit) : Matches V (Pause.mapProducer V.record) v.start v.start := by
  cases v with
  | messageStarted received =>
    refine (write_matches (writes_setLastMessage _)).bind fun _ => ?_
    exact pure_matches _
  | messageEnded generated =>
    refine (write_matches (writes_setLastProcessed _)).bind fun _ => ?_
    exact pure_matches _
  | alive stamp subscribed interest =>
    refine isDisabled_matches.bind fun disabled => .ite (pure_matches _) (.ite ?_ ?_)
    · exact systemAlive_matches stamp subscribed
    · exact (track_matches _).bind fun _ => pure_matches _
  | replayEnded request interest => exact replayEnd_matches request interest
  | healthCheck => exact check_matches

end Visit

namespace Rest

open Handler

variable {V : View}

theorem ensureRecovered_matches (anchor : Instant) :
    Matches V id (ensureRecovered anchor) (ensureRecovered anchor) := by
  refine read_matches.bind fun scene => tracker_matches.bind fun t => ?_
  refine isFlaggedDown_matches.bind fun isDown => ?_
  -- what follows is the same whether a missing recovery was claimed or not
  refine .ite ((claim_matches anchor).bind fun claimed => ?_)
    ((pure_matches (f := id) none).bind fun claimed => ?_)
  all_goals
    refine tracker_matches.bind fun t => .ite ?_ (pure_matches _)
    exact (track_matches _).bind fun _ => claim_matches anchor

theorem finish_matches (rest : Rest) : Matches V id rest.finish rest.finish := by
  cases rest with
  | done => exact pure_matches _
  | keepAlive stamp => exact (keepAlive_matches stamp).bind fun _ => pure_matches _
  | claim anchor alive =>
    refine (claim_matches anchor).bind fun claimed => ?_
    cases alive with
    | none => exact pure_matches _
    | some stamp => exact (keepAlive_matches stamp).bind fun _ => pure_matches _
  | ensureRecovery anchor stamp =>
    refine (ensureRecovered_matches anchor).bind fun claimed => ?_
    exact (keepAlive_matches stamp).bind fun _ => pure_matches _
  | eventDone request => exact (track_matches _).bind fun _ => pure_matches _

end Rest

end FeedWatch
