import FeedWatch.Manager
import FeedWatch.Stream

namespace FeedWatch

-- A visit to one producer.
structure Errand where
  producer : ProducerId
  visit : Visit
  deriving DecidableEq, Repr

-- What a feed message means for recovery.
inductive Signal where
  -- the heartbeat of a producer
  | alive (producer : ProducerId) (stamp : Stamp) (subscribed : Bool)
  | replayEnded (producer : ProducerId) (request : RequestId)
  -- any other message, with the instant at which it was generated
  | message (producer : ProducerId) (generated : Instant)
  deriving DecidableEq, Repr

namespace Signal

def producer : Signal → ProducerId
  | alive producer .. | replayEnded producer _ | message producer _ => producer

end Signal

namespace Errand

def messageStarted (id : ProducerId) (received : Instant) : List Errand :=
  [⟨id, .messageStarted received⟩]

-- A message without a time of generation says nothing about the queue.
def messageEnded (id : ProducerId) (generated : Instant) : List Errand :=
  if generated = 0 then [] else [⟨id, .messageEnded generated⟩]

def alive (id : ProducerId) (stamp : Stamp) (subscribed : Bool) (interest : Interest) : List Errand :=
  [⟨id, .alive stamp subscribed interest⟩]

def replayEnded (id : ProducerId) (request : RequestId) (interest : Interest) : List Errand :=
  [⟨id, .replayEnded request interest⟩]

-- One feed message: its session begins with it, handles it and is done with it.
def ofSignal (received : Instant) (interest : Interest) (signal : Signal) : List Errand :=
  messageStarted signal.producer received ++
    match signal with
    | .alive id stamp subscribed =>
      alive id stamp subscribed interest ++ messageEnded id stamp.created
    | .replayEnded id request => replayEnded id request interest
    | .message id generated => messageEnded id generated

-- One pass of the health check: a visit to each tracked producer.
def healthCheck (m : Manager) : List Errand :=
  m.trackers.keys.map fun id => ⟨id, .healthCheck⟩

end Errand

structure Service where
  manager : Manager
  -- there from the opening on
  stream : Option Stream := none

-- Where a task stops.
inductive Halt where
  | finished
  -- The notification of a visit finds the stream full. The producer is still held.
  | waiting (producer : ProducerId) (pause : Pause) (later : List Errand)
  -- The request of a claimed recovery is out. No producer is held.
  | posting (claim : Claim) (later : List Errand)

namespace Service

def start (s : Service) (t : Moment) : Except RecoveryError Service := do
  let manager ← s.manager.start t
  return { manager, stream := some { capacity := manager.config.capacity.toNat } }

-- What is in the stream can still be read afterwards.
def close (s : Service) : Service := { s with manager := s.manager.close }

-- Nothing more will come out of the stream, unless it leaves late.
def hasEnded (s : Service) : Bool :=
  match s.stream with
  | some stream => s.manager.phase = .closed && stream.queue.isEmpty
  | none => false

-- A notification that waits is given up once the manager is closed, unless it leaves late.
def announce? (s : Service) (pause : Pause) : Option Service :=
  match pause.notification, s.stream with
  | some n, some stream =>
    if s.manager.isOpen then (stream.push? n).map fun stream => { s with stream := some stream }
    else some s
  | _, _ => some s

-- After the close a notification that waits may leave all the same, if there is room for it
-- again. `none` where there is not, and where nothing waits.
def sendLate? (s : Service) (pause : Pause) : Option (Service × Pause) :=
  match pause.notification, s.stream with
  | some n, some stream =>
    if s.manager.phase = .closed then
      (stream.push? n).map fun stream =>
        ({ s with stream := some stream }, { pause with notification := none })
    else none
  | _, _ => none

-- The notification of a visit leaves, and then the rest of the visit is done. `none`
-- while the stream is full.
def settle? (s : Service) (t : Moment) (id : ProducerId) (pause : Pause) :
    Option (Service × Option Claim) := do
  let s ← s.announce? pause
  let (claimed, manager) := s.manager.finish t id pause.rest
  return ({ s with manager }, claimed)

-- Does one errand after the other.
def run (s : Service) (t : Moment) : List Errand → Service × Halt
  | [] => (s, .finished)
  | errand :: later =>
    let (pause, manager) := s.manager.visit t errand.producer errand.visit
    let s := { s with manager }
    match s.settle? t errand.producer pause with
    | none => (s, .waiting errand.producer pause later)
    | some (s, some claim) => (s, .posting claim later)
    | some (s, none) => s.run t later

-- Takes up a task that was waiting for room in the stream.
def resume (s : Service) (t : Moment) (id : ProducerId) (pause : Pause) (later : List Errand) :
    Service × Halt :=
  match s.settle? t id pause with
  | none => (s, .waiting id pause later)
  | some (s, some claim) => (s, .posting claim later)
  | some (s, none) => s.run t later

-- Takes up a task whose request was answered.
def posted (s : Service) (t : Moment) (c : Claim) (answer : Except TransportError Unit)
    (later : List Errand) : Service × Halt :=
  { s with manager := s.manager.recoveryPosted t c answer }.run t later

end Service

end FeedWatch
