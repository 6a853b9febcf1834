import FeedWatch.Proofs.ManagerView
import FeedWatch.Proofs.Step

namespace FeedWatch

def Entry.withoutAttempt (e : Entry) : Entry := { e with lastAttempt := none }

def Listing.withoutAttempt (l : Listing) : Listing :=
  { l with entry := l.entry.map Entry.withoutAttempt }

def Producer.withoutAttempt (p : Producer) : Producer := { p with lastAttempt := none }

def Notification.withoutAttempt : Notification → Notification
  | .statusChange change =>
    .statusChange { change with producer := change.producer.withoutAttempt }
  | .eventReplayed replay =>
    .eventReplayed { replay with producer := replay.producer.withoutAttempt }

def Pause.withoutAttempt (p : Pause) : Pause :=
  { p with notification := p.notification.map Notification.withoutAttempt }

def Directory.withoutAttempts (d : Directory) : Directory :=
  { d with entries := d.entries.map fun _ e => e.withoutAttempt }

def Manager.withoutAttempts (m : Manager) : Manager :=
  { m with directory := m.directory.withoutAttempts }

def Stream.withoutAttempts (s : Stream) : Stream :=
  { s with queue := s.queue.map Notification.withoutAttempt }

def Service.withoutAttempts (s : Service) : Service where
  manager := s.manager.withoutAttempts
  stream := s.stream.map Stream.withoutAttempts

-- All but the last attempts, in the directory and in what was and will be said.
def World.withoutAttempts (w : World) : World :=
  { w with
    service := w.service.withoutAttempts
    held := w.held.map fun _ p => p.withoutAttempt
    heard := w.heard.map Notification.withoutAttempt }

theorem Entry.producer_withoutAttempt (e : Entry) :
    e.withoutAttempt.producer = e.producer.map Producer.withoutAttempt := by
  have hdescriptor : e.withoutAttempt.descriptor = e.descriptor := rfl
  unfold producer
  rw [hdescriptor]
  cases e.descriptor.scopes <;> rfl

namespace View

-- All but the last attempt.
def withoutAttempt : View where
  entry := Entry.withoutAttempt
  fallback := fun fallback => fallback
  record := Producer.withoutAttempt
  producer_entry := Entry.producer_withoutAttempt
  unknown_fallback := fun _ _ => rfl
  enabled_entry := fun _ => rfl
  flaggedDown_entry := fun _ => rfl
  entry_flaggedDown := fun _ _ => rfl
  entry_lastMessage := fun _ _ => rfl
  entry_lastProcessed := fun _ _ => rfl
  entry_lastAlive := fun _ _ => rfl
  name_record := fun _ => rfl
  scopes_record := fun _ => rfl
  recoveryAnchor_record := fun _ => rfl
  lastProcessed_record := fun _ => rfl

end View

theorem Notification.mapProducer_withoutAttempt :
    mapProducer Producer.withoutAttempt = withoutAttempt := by
  funext n
  cases n <;> rfl

theorem Pause.mapProducer_withoutAttempt (p : Pause) :
    p.mapProducer Producer.withoutAttempt = p.withoutAttempt := by
  rw [mapProducer, Notification.mapProducer_withoutAttempt]
  rfl

theorem mapM_map_except {α β γ ε : Type} (f : α → Except ε β) (g : β → γ) (l : List α) :
    l.mapM (fun a => (f a).map g) = (l.mapM f).map (List.map g) := by
  induction l with
  | nil => rfl
  | cons a l ih =>
    rw [List.mapM_cons, List.mapM_cons, ih]
    cases f a with
    | error e => rfl
    | ok b => cases l.mapM f <;> rfl

namespace Listing

variable {l l' : Listing}

theorem setRecoveryFrom_withoutAttempt (recoveryFrom now : Instant) :
    l.withoutAttempt.setRecoveryFrom recoveryFrom now =
      (l.setRecoveryFrom recoveryFrom now).map withoutAttempt := by
  have hread : l.withoutAttempt.read (·.descriptor.windowMinutes) = _ :=
    View.withoutAttempt.read_listing fun _ => rfl
  unfold setRecoveryFrom
  rw [hread]
  cases l.read (·.descriptor.windowMinutes) with
  | error e => rfl
  | ok windowMinutes =>
    change (if _ then _ else _) = Except.map _ (if _ then _ else _)
    split
    · rfl
    · exact View.withoutAttempt.update_listing fun _ => rfl

theorem of_setLastAttempt {attempt : Attempt} (h : l.setLastAttempt attempt = .ok l') :
    l'.withoutAttempt = l.withoutAttempt := by
  obtain ⟨id, fallback, entry⟩ := l
  cases entry with
  | none => exact absurd h nofun
  | some e =>
    obtain rfl := Except.ok.inj h
    rfl

end Listing

namespace Directory

variable {d : Directory} {id : ProducerId}

theorem listing_withoutAttempts :
    d.withoutAttempts.listing id = (d.listing id).withoutAttempt :=
  View.withoutAttempt.listing_directory

theorem put_withoutAttempts (l : Listing) :
    d.withoutAttempts.put id l.withoutAttempt = (d.put id l).withoutAttempts :=
  View.withoutAttempt.put_directory l

theorem written_withoutAttempts (answer : Except DirectoryError Listing) :
    d.withoutAttempts.written id (answer.map Listing.withoutAttempt) =
      (d.written id answer).withoutAttempts := by
  cases answer with
  | ok l => exact put_withoutAttempts l
  | error e => rfl

theorem setEnabled_withoutAttempts (enabled : Bool) :
    d.withoutAttempts.setEnabled id enabled = (d.setEnabled id enabled).withoutAttempts := by
  unfold setEnabled
  rw [listing_withoutAttempts, ← written_withoutAttempts]
  exact congrArg _ (View.withoutAttempt.update_listing fun _ => rfl)

theorem setRecoveryFrom_withoutAttempts (recoveryFrom now : Instant) :
    d.withoutAttempts.setRecoveryFrom id recoveryFrom now =
      (d.setRecoveryFrom id recoveryFrom now).withoutAttempts := by
  unfold setRecoveryFrom
  rw [listing_withoutAttempts, Listing.setRecoveryFrom_withoutAttempt]
  exact written_withoutAttempts _

-- The last attempt is all that is written.
theorem put_setLastAttempt {l : Listing} {attempt : Attempt}
    (h : (d.listing id).setLastAttempt attempt = .ok l) :
    (d.put id l).withoutAttempts = d.withoutAttempts := by
  have hl : l.withoutAttempt = (d.listing id).withoutAttempt := Listing.of_setLastAttempt h
  rw [← put_withoutAttempts, hl, ← listing_withoutAttempts, Manager.put_listing]

-- The records of the producers, in the same order.
theorem active_withoutAttempts :
    d.withoutAttempts.active =
      d.active.map (List.map fun (id, p) => (id, p.withoutAttempt)) := by
  unfold active producers withoutAttempts
  rw [Std.ExtTreeMap.toList_map, List.filter_map, List.mapM_map, ← mapM_map_except]
  congr 1
  funext ⟨id, e⟩
  change e.withoutAttempt.producer.map (id, ·) = (e.producer.map (id, ·)).map _
  rw [e.producer_withoutAttempt]
  cases e.producer <;> rfl

end Directory

namespace Manager

variable {m : Manager} {t : Moment} {id : ProducerId}

@[simp] theorem withoutAttempts_trackers : m.withoutAttempts.trackers = m.trackers := rfl

theorem visit_withoutAttempts (v : Visit) :
    m.withoutAttempts.visit t id v =
      ((m.visit t id v).1.withoutAttempt, (m.visit t id v).2.withoutAttempts) := by
  rw [← Pause.mapProducer_withoutAttempt]
  exact View.withoutAttempt.visit_manager v

theorem callEvent_withoutAttempts (kind : Api.EventReplayKind) (event : Urn) :
    m.withoutAttempts.callEvent kind id event =
      ((m.callEvent kind id event).1, (m.callEvent kind id event).2.withoutAttempts) :=
  View.withoutAttempt.callEvent_manager kind event

theorem enterEvent_withoutAttempts (call : EventCall) :
    m.withoutAttempts.enterEvent t call =
      ((m.enterEvent t call).1, (m.enterEvent t call).2.withoutAttempts) :=
  View.withoutAttempt.enterEvent_manager call

theorem eventPosted_withoutAttempts (r : EventRequest) (answer : Except TransportError Unit) :
    m.withoutAttempts.eventPosted t r answer =
      ((m.eventPosted t r answer).1, (m.eventPosted t r answer).2.withoutAttempts) :=
  View.withoutAttempt.eventPosted_manager r answer

-- What is kept of an answer is the last attempt alone.
theorem recoveryPosted_withoutAttempts (c : Claim) (answer : Except TransportError Unit) :
    (m.recoveryPosted t c answer).withoutAttempts = m.withoutAttempts := by
  unfold recoveryPosted
  dsimp only
  split <;> rename_i hl
  · have hput := Directory.put_setLastAttempt (Outage.of_guard hl)
    exact congrArg (fun directory => { m with directory }) hput
  · rfl

theorem start_withoutAttempts :
    m.withoutAttempts.start t = (m.start t).map withoutAttempts := by
  have hphase : m.withoutAttempts.phase = m.phase := rfl
  have hdirectory : m.withoutAttempts.directory = m.directory.withoutAttempts := rfl
  unfold start
  rw [hphase]
  cases m.phase with
  | opened => rfl
  | closed => rfl
  | created =>
    dsimp only
    rw [hdirectory, Directory.active_withoutAttempts, Outage.guard_map]
    cases t.outage.guard .active ⟨0⟩ m.directory.active with
    | error e => rfl
    | ok producers =>
      simp only [Except.map, List.foldl_map]
      rfl

end Manager

namespace Service

variable {s : Service} {t : Moment} {id : ProducerId} {pause : Pause}

theorem start_withoutAttempts : s.withoutAttempts.start t = (s.start t).map withoutAttempts := by
  unfold start
  rw [show s.withoutAttempts.manager.start t = _ from Manager.start_withoutAttempts]
  cases s.manager.start t <;> rfl

theorem push?_withoutAttempts {stream : Stream} (n : Notification) :
    stream.withoutAttempts.push? n.withoutAttempt =
      (stream.push? n).map Stream.withoutAttempts := by
  unfold Stream.push? Stream.withoutAttempts
  simp only [List.length_map]
  split
  · rfl
  · split
    · simp
    · rfl

theorem announce?_withoutAttempts :
    s.withoutAttempts.announce? pause.withoutAttempt =
      (s.announce? pause).map withoutAttempts := by
  obtain ⟨m, stream⟩ := s
  obtain ⟨notification, rest⟩ := pause
  cases notification with
  | none => rfl
  | some n =>
    cases stream with
    | none => rfl
    | some stream =>
      change (if m.isOpen then (stream.withoutAttempts.push? n.withoutAttempt).map _ else _) =
        (if m.isOpen then (stream.push? n).map _ else _).map _
      rw [push?_withoutAttempts]
      split
      · rw [Option.map_map, Option.map_map]
        rfl
      · rfl

theorem sendLate?_withoutAttempts :
    s.withoutAttempts.sendLate? pause.withoutAttempt =
      (s.sendLate? pause).map fun (s, pause) => (s.withoutAttempts, pause.withoutAttempt) := by
  obtain ⟨m, stream⟩ := s
  obtain ⟨notification, rest⟩ := pause
  cases notification with
  | none => rfl
  | some n =>
    cases stream with
    | none => rfl
    | some stream =>
      change (if m.phase = .closed then (stream.withoutAttempts.push? n.withoutAttempt).map _
          else _) =
        (if m.phase = .closed then (stream.push? n).map _ else _).map _
      rw [push?_withoutAttempts]
      split
      · rw [Option.map_map, Option.map_map]
        rfl
      · rfl

theorem settle?_withoutAttempts :
    s.withoutAttempts.settle? t id pause.withoutAttempt =
      (s.settle? t id pause).map fun (s, c) => (s.withoutAttempts, c) := by
  unfold settle?
  rw [announce?_withoutAttempts]
  cases s.announce? pause with
  | none => rfl
  | some announced =>
    have hfinish : announced.withoutAttempts.manager.finish t id pause.withoutAttempt.rest = _ :=
      View.withoutAttempt.finish_manager pause.rest
    simp only [Option.map_some, Option.bind_eq_bind, Option.bind_some, hfinish]
    rfl

end Service

namespace World

variable {w : World} {a : Act}

@[simp] theorem withoutAttempts_service : w.withoutAttempts.service = w.service.withoutAttempts := rfl

@[simp] theorem withoutAttempts_manager : w.withoutAttempts.manager = w.manager.withoutAttempts := rfl

@[simp] theorem withoutAttempts_moment : w.withoutAttempts.moment = w.moment := rfl

@[simp] theorem withoutAttempts_eventCalls : w.withoutAttempts.eventCalls = w.eventCalls := rfl

@[simp] theorem withoutAttempts_eventRequests :
    w.withoutAttempts.eventRequests = w.eventRequests := rfl

theorem mem_held_withoutAttempts {id : ProducerId} :
    id ∈ w.withoutAttempts.held ↔ id ∈ w.held := Std.ExtTreeMap.mem_map

theorem getElem?_held_withoutAttempts {id : ProducerId} :
    w.withoutAttempts.held[id]? = w.held[id]?.map Pause.withoutAttempt :=
  Std.ExtTreeMap.getElem?_map

-- Nothing that happens depends on the last attempts.
theorem step_withoutAttempts (ha : ∀ c answer, a ≠ .recoveryPosted c answer) :
    w.withoutAttempts.step a = (w.step a).map withoutAttempts := by
  cases a with
  | start =>
    simp only [step, withoutAttempts_service, withoutAttempts_moment, Service.start_withoutAttempts]
    cases w.service.start w.moment <;> rfl
  | close => rfl
  | visit id v =>
    simp only [step, mem_held_withoutAttempts, withoutAttempts_manager, withoutAttempts_moment,
      Manager.withoutAttempts_trackers, Manager.visit_withoutAttempts]
    split
    · rfl
    · simp only [Option.map_some, withoutAttempts, map_insert]
      rfl
  | sendLate id =>
    simp only [step, getElem?_held_withoutAttempts, withoutAttempts_service]
    cases w.held[id]? with
    | none => rfl
    | some pause =>
      simp only [Option.map_some, Option.bind_eq_bind, Option.bind_some,
        Service.sendLate?_withoutAttempts]
      cases w.service.sendLate? pause with
      | none => rfl
      | some sent =>
        simp only [Option.map_some, Option.bind_some, pure, withoutAttempts, map_insert]
  | settle id =>
    simp only [step, getElem?_held_withoutAttempts, withoutAttempts_service,
      withoutAttempts_moment]
    cases w.held[id]? with
    | none => rfl
    | some pause =>
      simp only [Option.map_some, Option.bind_eq_bind, Option.bind_some,
        Service.settle?_withoutAttempts]
      cases w.service.settle? w.moment id pause with
      | none => rfl
      | some settled =>
        simp only [Option.map_some, Option.bind_some, pure, withoutAttempts, map_erase]
  | recoveryPosted c answer => exact absurd rfl (ha c answer)
  | requestEvent kind id event =>
    simp only [step, withoutAttempts_manager, Manager.callEvent_withoutAttempts]
    rfl
  | enterEvent call =>
    simp only [step, mem_held_withoutAttempts, withoutAttempts_manager, withoutAttempts_moment,
      withoutAttempts_eventCalls, Manager.enterEvent_withoutAttempts]
    split <;> rfl
  | eventPosted r answer =>
    simp only [step, mem_held_withoutAttempts, withoutAttempts_manager, withoutAttempts_moment,
      withoutAttempts_eventRequests, Manager.eventPosted_withoutAttempts]
    split <;> rfl
  | setEnabled id enabled =>
    exact congrArg (fun d => some (w.withoutAttempts.withDirectory d))
      (Directory.setEnabled_withoutAttempts enabled)
  | setRecoveryFrom id recoveryFrom now =>
    exact congrArg (fun d => some (w.withoutAttempts.withDirectory d))
      (Directory.setRecoveryFrom_withoutAttempts recoveryFrom now)
  | moveClock move => rfl
  | read count =>
    obtain ⟨⟨m, stream⟩, now, held, eventCalls, claims, eventRequests, heard⟩ := w
    cases stream with
    | none => rfl
    | some stream =>
      simp [step, withoutAttempts, Service.withoutAttempts, Stream.withoutAttempts, List.map_drop,
        List.map_take]
  | abandon =>
    obtain ⟨⟨m, stream⟩, now, held, eventCalls, claims, eventRequests, heard⟩ := w
    cases stream <;> rfl

end World

end FeedWatch
