import FeedWatch.Api.Path
import FeedWatch.Visit

namespace FeedWatch

inductive Phase where
  | created
  | opened
  | closed
  deriving DecidableEq, Repr

-- The clock's reading, and how the directory is doing.
structure Moment where
  now : Instant
  outage : Outage := Outage.none

structure Manager where
  config : Config
  directory : Directory
  ids : RequestIds
  trackers : Std.ExtTreeMap ProducerId Tracker := ∅
  phase : Phase := .created

-- What is known of one producer's recovery at present.
structure RecoveryStatus where
  producer : ProducerId
  state : RecoveryState
  request : Option RequestId
  events : Nat
  firstRecoveryCompleted : Bool
  downReason : DownReason
  deriving DecidableEq, Repr

-- A call for an event replay, with the id that was drawn for it.
structure EventCall where
  kind : Api.EventReplayKind
  producer : ProducerId
  event : Urn
  request : RequestId
  deriving DecidableEq, Repr

-- An event replay that is entered and about to be asked for.
structure EventRequest where
  kind : Api.EventReplayKind
  producer : ProducerId
  name : String
  event : Urn
  request : RequestId
  deriving DecidableEq, Repr

namespace Manager

def ofConfig (config : Config) (directory : Directory) (ids : RequestIds) :
    Except ConfigError Manager := do
  config.validate
  return { config, directory, ids }

def isOpen (m : Manager) : Bool := m.phase = .opened

def scene (m : Manager) (t : Moment) : Scene :=
  { config := m.config, isOpen := m.isOpen, now := t.now, outage := t.outage }

-- A producer that is met for the first time has a fresh tracker.
def desk (m : Manager) (id : ProducerId) : Desk :=
  { tracked := { tracker := m.trackers[id]?.getD {}, listing := m.directory.listing id }
    ids := m.ids }

def putDesk (m : Manager) (id : ProducerId) (d : Desk) : Manager :=
  { m with
    trackers := m.trackers.insert id d.tracked.tracker
    directory := m.directory.put id d.tracked.listing
    ids := d.ids }

-- Carries out a handler for one producer. It sees and changes nothing of the others.
def hold (m : Manager) (t : Moment) (id : ProducerId) (handler : Handler α) :
    Except RecoveryError α × Manager :=
  match handler (m.scene t) (m.desk id) with
  | .ok answer d => (.ok answer, m.putDesk id d)
  | .error e d => (.error e, m.putDesk id d)

-- Starts to track all active producers. A listing that fails changes nothing, so
-- that opening may be tried again.
def start (m : Manager) (t : Moment) : Except RecoveryError Manager :=
  match m.phase with
  | .opened => .error .alreadyOpened
  | .closed => .error .closed
  | .created =>
    match t.outage.guard .active ⟨0⟩ m.directory.active with
    | .error e => .error (.directory e)
    | .ok producers =>
      let trackers := producers.foldl (fun trackers (id, _) => trackers.insertIfNew id {}) m.trackers
      .ok { m with trackers, phase := .opened }

def close (m : Manager) : Manager := { m with phase := .closed }

def status? (m : Manager) (id : ProducerId) : Option RecoveryStatus :=
  (m.trackers[id]?).map fun t => {
    producer := id
    state := t.state
    request := t.currentRequest
    events := t.events.size
    firstRecoveryCompleted := t.firstRecoveryCompleted
    downReason := t.downReason
  }

-- The part of a visit before its notification. The end of a replay is of no interest
-- to a producer that is not tracked. A visit that fails is over.
def visit (m : Manager) (t : Moment) (id : ProducerId) (v : Visit) : Pause × Manager :=
  match v, m.trackers[id]? with
  | .replayEnded .., none => ({}, m)
  | _, _ =>
    let (pause, m) := m.hold t id v.start
    (pause.toOption.getD {}, m)

-- The part of a visit after its notification, where anything is left to do.
def finish (m : Manager) (t : Moment) (id : ProducerId) (rest : Rest) : Option Claim × Manager :=
  if rest = .done then (none, m)
  else
    let (claimed, m) := m.hold t id rest.finish
    (claimed.toOption.join, m)

-- The request of a claimed recovery was answered. The attempt is kept whatever the
-- answer was: alives and the limit on its run take care of one that failed.
def recoveryPosted (m : Manager) (t : Moment) (c : Claim) (answer : Except TransportError Unit) :
    Manager :=
  let attempt : Attempt :=
    { after := c.after, requestedAt := c.requestedAt, request := c.request,
      accepted := answer.isOk, node := m.config.node }
  match t.outage.guard .setLastAttempt c.producer
      ((m.directory.listing c.producer).setLastAttempt attempt) with
  | .ok listing => { m with directory := m.directory.put c.producer listing }
  | .error _ => m

-- The id of an event replay is drawn before its producer is held, which may take a while. The
-- producer is tracked from here on.
def callEvent (m : Manager) (kind : Api.EventReplayKind) (id : ProducerId) (event : Urn) :
    EventCall × Manager :=
  let (request, ids) := m.ids.next
  ({ kind, producer := id, event, request },
    { m with trackers := m.trackers.insertIfNew id {}, ids })

-- Enters an event replay before its request goes out, so that a quick end of the
-- replay is known.
def enterEvent (m : Manager) (t : Moment) (call : EventCall) :
    Except RecoveryError EventRequest × Manager :=
  m.hold t call.producer do
    Handler.track (·.setEvent call.event call.request t.now)
    match ← Handler.ask Tracked.name with
    | .ok name => return { call with name }
    | .error e =>
      Handler.track (·.eventDone call.request)
      throw (.directory e)

def requestEvent (m : Manager) (t : Moment) (kind : Api.EventReplayKind) (id : ProducerId)
    (event : Urn) : Except RecoveryError EventRequest × Manager :=
  let (call, m) := m.callEvent kind id event
  m.enterEvent t call

-- The request of an event replay was answered. One that failed is forgotten.
def eventPosted (m : Manager) (t : Moment) (r : EventRequest) (answer : Except TransportError Unit) :
    Except RecoveryError RequestId × Manager :=
  match answer with
  | .ok _ => (.ok r.request, m)
  | .error source =>
    let (_, m) := m.hold t r.producer (Handler.track (·.eventDone r.request))
    (.error (.eventRecoveryFailed r.request source), m)

end Manager

end FeedWatch
