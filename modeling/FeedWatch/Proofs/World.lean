import FeedWatch.Clock
import FeedWatch.Service

namespace FeedWatch

namespace Directory

def written (d : Directory) (id : ProducerId) : Except DirectoryError Listing → Directory
  | .ok l => d.put id l
  | .error _ => d

def setEnabled (d : Directory) (id : ProducerId) (enabled : Bool) : Directory :=
  d.written id ((d.listing id).setEnabled enabled)

def setRecoveryFrom (d : Directory) (id : ProducerId) (recoveryFrom now : Instant) : Directory :=
  d.written id ((d.listing id).setRecoveryFrom recoveryFrom now)

end Directory

-- What may happen next. Calls that wait for a producer, for room in the stream or for an answer
-- of the API are cut where they wait, and other calls may come in between.
inductive Act where
  | start
  | close
  -- hold a producer, and do the part of a visit before its notification
  | visit (id : ProducerId) (v : Visit)
  -- a notification leaves that was still to be sent at the close
  | sendLate (id : ProducerId)
  -- the notification leaves, or is given up after the close, the rest of the visit is done, and
  -- the producer is let go
  | settle (id : ProducerId)
  | recoveryPosted (c : Claim) (answer : Except TransportError Unit)
  -- draw the id of an event replay
  | requestEvent (kind : Api.EventReplayKind) (id : ProducerId) (event : Urn)
  -- hold the producer and enter the event replay
  | enterEvent (call : EventCall)
  | eventPosted (r : EventRequest) (answer : Except TransportError Unit)
  | setEnabled (id : ProducerId) (enabled : Bool)
  | setRecoveryFrom (id : ProducerId) (recoveryFrom now : Instant)
  | moveClock (move : ClockMove)
  -- the user reads notifications, at most so many
  | read (count : Nat)
  -- the user reads no more
  | abandon

-- The directory lies in memory: its calls do not fail.
structure World where
  service : Service
  now : Instant
  -- the visits whose rest is still to be done, by the producer that they hold
  held : Std.ExtTreeMap ProducerId Pause := ∅
  -- the event replays that are still to be entered
  eventCalls : List EventCall := []
  -- the requests that are out
  claims : List Claim := []
  eventRequests : List EventRequest := []
  -- what the user has read
  heard : List Notification := []

namespace World

def manager (w : World) : Manager := w.service.manager

def moment (w : World) : Moment := { now := w.now }

def scene (w : World) : Scene := w.manager.scene w.moment

def isOpen (w : World) : Bool := w.manager.isOpen

def withManager (w : World) (manager : Manager) : World :=
  { w with service := { w.service with manager } }

def withDirectory (w : World) (directory : Directory) : World :=
  w.withManager { w.manager with directory }

def queue (w : World) : List Notification :=
  match w.service.stream with
  | some stream => stream.queue
  | none => []

theorem queue_of_stream {w : World} {stream : Stream} (h : w.service.stream = some stream) :
    w.queue = stream.queue := by
  rw [queue, h]

theorem queue_of_no_stream {w : World} (h : w.service.stream = none) : w.queue = [] := by
  rw [queue, h]

-- All that came out of the stream or is in it, in order.
def sent (w : World) : List Notification := w.heard ++ w.queue

-- The producer as its recovery sees it.
def tracked (w : World) (id : ProducerId) : Tracked := (w.manager.desk id).tracked

-- `none` where the act cannot happen: no producer is held twice, only tracked producers
-- are checked, a full stream takes nothing, only a call that was made is entered, and only a
-- request that is out is answered.
def step (w : World) : Act → Option World
  | .start =>
    match w.service.start w.moment with
    | .ok service => some { w with service }
    | .error _ => some w
  | .close => some { w with service := w.service.close }
  | .visit id v =>
    if id ∈ w.held ∨ v = .healthCheck ∧ id ∉ w.manager.trackers then none
    else
      let (pause, manager) := w.manager.visit w.moment id v
      some { w.withManager manager with held := w.held.insert id pause }
  | .sendLate id => do
    let pause ← w.held[id]?
    let (service, pause) ← w.service.sendLate? pause
    return { w with service, held := w.held.insert id pause }
  | .settle id => do
    let pause ← w.held[id]?
    let (service, claimed) ← w.service.settle? w.moment id pause
    return { w with service, held := w.held.erase id, claims := w.claims ++ claimed.toList }
  | .recoveryPosted c answer =>
    if c ∈ w.claims then
      some { w.withManager (w.manager.recoveryPosted w.moment c answer) with
        claims := w.claims.erase c }
    else none
  | .requestEvent kind id event =>
    let (call, manager) := w.manager.callEvent kind id event
    some { w.withManager manager with eventCalls := w.eventCalls ++ [call] }
  | .enterEvent call =>
    if call ∉ w.eventCalls ∨ call.producer ∈ w.held then none
    else
      let (request, manager) := w.manager.enterEvent w.moment call
      some { w.withManager manager with
        eventCalls := w.eventCalls.erase call
        eventRequests := w.eventRequests ++ request.toOption.toList }
  | .eventPosted r answer =>
    -- only a failure has to hold the producer
    if r ∉ w.eventRequests ∨ r.producer ∈ w.held ∧ answer.isOk = false then none
    else
      some { w.withManager (w.manager.eventPosted w.moment r answer).2 with
        eventRequests := w.eventRequests.erase r }
  | .setEnabled id enabled =>
    some (w.withDirectory (w.manager.directory.setEnabled id enabled))
  | .setRecoveryFrom id recoveryFrom now =>
    some (w.withDirectory (w.manager.directory.setRecoveryFrom id recoveryFrom now))
  | .moveClock move => some { w with now := move.apply w.now }
  | .read count =>
    match w.service.stream with
    | none => some w
    | some stream =>
      let rest := { stream with queue := stream.queue.drop count }
      some { w with
        service := { w.service with stream := some rest }
        heard := w.heard ++ stream.queue.take count }
  | .abandon =>
    match w.service.stream with
    | none => some w
    | some stream => some { w with service := { w.service with stream := some stream.abandon } }

-- A manager that nothing was asked of yet.
def ofManager (manager : Manager) (now : Instant) : World := { service := { manager }, now }

def IsFresh (w : World) : Prop :=
  ∃ (config : Config) (descriptors : List Descriptor) (fallback : String) (ids : RequestIds)
    (manager : Manager) (now : Instant),
    Manager.ofConfig config (.ofDescriptors descriptors fallback) ids = .ok manager ∧
      w = ofManager manager now

-- A new manager that was opened, with success, and nothing since.
def IsJustOpened (w : World) : Prop :=
  ∃ (w₀ : World) (service : Service), w₀.IsFresh ∧ w₀.service.start w₀.moment = .ok service ∧
    w = { w₀ with service }

end World

-- One act, with what was before and after it.
structure Step where
  before : World
  act : Act
  after : World

-- What happened from a first world on. The last step stands first.
inductive Run (w₀ : World) : List Step → World → Prop where
  | start : Run w₀ [] w₀
  | step {past : List Step} {w w' : World} {a : Act} (hrun : Run w₀ past w)
      (hstep : w.step a = some w') : Run w₀ (⟨w, a, w'⟩ :: past) w'

-- Some step of the past started it, and each step after that one let it go on.
def Since (goesOn starts : Step → Prop) : List Step → Prop
  | [] => False
  | s :: past => starts s ∨ goesOn s ∧ Since goesOn starts past

namespace Since

variable {goesOn goesOn' starts starts' : Step → Prop} {past : List Step}

theorem imp (h : Since goesOn starts past) (hgoesOn : ∀ s, goesOn s → goesOn' s)
    (hstarts : ∀ s, starts s → starts' s) : Since goesOn' starts' past := by
  induction past with
  | nil => exact h
  | cons s past ih =>
    obtain hs | ⟨hs, hpast⟩ := h
    · exact .inl (hstarts s hs)
    · exact .inr ⟨hgoesOn s hs, ih hpast⟩

-- The step that started it, and all those that let it go on.
theorem exists_step (h : Since goesOn starts past) :
    ∃ later s earlier, past = later ++ s :: earlier ∧ starts s ∧ ∀ t ∈ later, goesOn t := by
  induction past with
  | nil => exact h.elim
  | cons s past ih =>
    obtain hs | ⟨hs, hpast⟩ := h
    · exact ⟨[], s, past, rfl, hs, fun _ ht => absurd ht List.not_mem_nil⟩
    · obtain ⟨later, t, earlier, rfl, ht, hlater⟩ := ih hpast
      exact ⟨s :: later, t, earlier, rfl, ht, List.forall_mem_cons.mpr ⟨hs, hlater⟩⟩

-- A step that puts an end to it, with no later one that starts it again.
theorem not_of_end {later earlier : List Step} {s : Step} (hlater : ∀ t ∈ later, ¬starts t)
    (hstarts : ¬starts s) (hgoesOn : ¬goesOn s) : ¬Since goesOn starts (later ++ s :: earlier) := by
  induction later with
  | nil => exact fun h => h.elim hstarts fun h => hgoesOn h.1
  | cons t later ih =>
    obtain ⟨ht, hlater⟩ := List.forall_mem_cons.mp hlater
    exact fun h => h.elim ht fun h => ih hlater h.2

end Since

namespace World

-- Does the acts that can happen, one after the other.
def play (w : World) (past : List Step) : List Act → List Step × World
  | [] => (past, w)
  | a :: acts =>
    match w.step a with
    | some w' => w'.play (⟨w, a, w'⟩ :: past) acts
    | none => w.play past acts

end World

theorem Run.play {w₀ w : World} {past : List Step} (h : Run w₀ past w) (acts : List Act) :
    Run w₀ (w.play past acts).1 (w.play past acts).2 := by
  induction acts generalizing w past with
  | nil => exact h
  | cons a acts ih =>
    rw [World.play]
    cases hstep : w.step a with
    | none => exact ih h
    | some w' => exact ih (h.step hstep)

-- A run is cut at one of its steps.
theorem Run.split {w₀ w : World} {later earlier : List Step} {s : Step}
    (h : Run w₀ (later ++ s :: earlier) w) :
    Run w₀ earlier s.before ∧ s.before.step s.act = some s.after ∧ Run s.after later w := by
  induction later generalizing w with
  | nil =>
    cases h with
    | step hrun hstep => exact ⟨hrun, hstep, .start⟩
  | cons t later ih =>
    cases h with
    | step hrun hstep =>
      obtain ⟨hearlier, hcut, hlater⟩ := ih hrun
      exact ⟨hearlier, hcut, hlater.step hstep⟩

theorem World.play_past (w : World) (past : List Step) (acts : List Act) :
    w.play past acts = ((w.play [] acts).1 ++ past, (w.play [] acts).2) := by
  induction acts generalizing w past with
  | nil => rfl
  | cons a acts ih =>
    simp only [World.play]
    cases w.step a with
    | none => exact ih w past
    | some w' =>
      dsimp only
      rw [ih w', ih w' [⟨w, a, w'⟩], List.append_assoc]
      rfl

theorem World.act_of_mem_play {w : World} {past : List Step} {acts : List Act} {s : Step}
    (h : s ∈ (w.play past acts).1) : s ∈ past ∨ s.act ∈ acts := by
  induction acts generalizing w past with
  | nil => exact .inl h
  | cons a acts ih =>
    rw [World.play] at h
    cases hstep : w.step a with
    | none =>
      rw [hstep] at h
      exact (ih h).imp id (List.mem_cons_of_mem a)
    | some w' =>
      rw [hstep] at h
      obtain hpast | hact := ih h
      · obtain rfl | hpast := List.mem_cons.mp hpast
        · exact .inr List.mem_cons_self
        · exact .inl hpast
      · exact .inr (List.mem_cons_of_mem a hact)

end FeedWatch
