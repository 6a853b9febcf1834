import FeedWatch.Outage
import FeedWatch.Replay
import FeedWatch.Status

namespace FeedWatch

structure Tracker where
  current : Option Replay := none
  -- the event replays in flight, each under its own request
  events : Std.ExtTreeMap RequestId EventReplay := ∅
  -- when the last system alive was received
  lastSystemAlive : Option Instant := none
  -- when the last alive of a user's session was generated
  lastUserAlive : Instant := 0
  -- when the last system alive during a started recovery was generated: an
  -- interrupted recovery resumes from there
  resumeFrom : Instant := 0
  state : RecoveryState := .default
  firstRecoveryCompleted : Bool := false
  downReason : DownReason := .default
  -- the reason that the user was told last
  toldReason : Option StatusReason := none

namespace Tracker

def currentRequest (t : Tracker) : Option RequestId := t.current.map Replay.request

-- 0 if no full recovery was ever started.
def startedAt (t : Tracker) : Instant :=
  match t.current with
  | some replay => replay.startedAt
  | none => 0

def isPerformingRecovery (t : Tracker) : Bool := t.state.isInProgress

-- The request is that of the current full recovery or of an event replay in flight.
def knows (t : Tracker) (request : RequestId) : Bool :=
  t.currentRequest = some request || t.events.contains request

def eventReplay? (t : Tracker) (request : RequestId) : Option EventReplay := t.events[request]?

-- The request 0 at the instant 0 takes away what is kept under the request 0. Any
-- other is entered anew.
def setEvent (t : Tracker) (event : Urn) (request : RequestId) (startedAt : Instant) : Tracker :=
  if request.isZero ∧ startedAt = 0 then { t with events := t.events.erase request }
  else { t with events := t.events.insert request { request, startedAt, event } }

def eventDone (t : Tracker) (request : RequestId) : Tracker :=
  { t with events := t.events.erase request }

-- A new current recovery, nothing of it acknowledged yet.
def setRecovery (t : Tracker) (request : RequestId) (startedAt : Instant) (state : RecoveryState) :
    Tracker :=
  { t with state, current := some { request, startedAt } }

def interrupt (t : Tracker) : Tracker := { t with state := .interrupted }

end Tracker

-- A producer as its recovery sees it.
structure Tracked where
  tracker : Tracker := {}
  listing : Listing

namespace Tracked

def id (x : Tracked) : ProducerId := x.listing.id

def mapTracker (x : Tracked) (f : Tracker → Tracker) : Tracked := { x with tracker := f x.tracker }

def producer (x : Tracked) (outage : Outage) : Except DirectoryError Producer :=
  outage.guard .producer x.id x.listing.producer

-- A directory that fails to answer counts as one that says down.
def isFlaggedDown (x : Tracked) (outage : Outage) : Bool :=
  match outage.guard .isDown x.id x.listing.isDown with
  | .ok down => down
  | .error _ => true

-- A directory that fails to answer counts as one that says disabled.
def isDisabled (x : Tracked) (outage : Outage) : Bool :=
  match outage.guard .isEnabled x.id x.listing.isEnabled with
  | .ok enabled => !enabled
  | .error _ => true

def scopesAcknowledged (x : Tracked) (outage : Outage) (acknowledged : List Interest) : Bool :=
  match x.producer outage with
  | .ok p => Scope.allAcknowledged p.scopes acknowledged
  | .error _ => false

-- Whether an end of replay seen under the interest completes the current recovery.
-- An interest that is limited to a scope is kept, and the recovery is complete once
-- all scopes of the producer have answered. Any other interest completes at once.
def recoveryAnswered (x : Tracked) (outage : Outage) (request : RequestId) (interest : Interest) :
    Bool × Tracked :=
  match x.tracker.current with
  | none => (false, x)
  | some replay =>
    if !x.tracker.isPerformingRecovery || replay.request != request then (false, x)
    else if !interest.isScopeLimited then (true, x)
    else
      let replay := replay.acknowledge interest
      let x := x.mapTracker ({ · with current := some replay })
      (x.scopesAcknowledged outage replay.acknowledged, x)

-- The same for an event replay.
def eventAnswered (x : Tracked) (outage : Outage) (request : RequestId) (interest : Interest) :
    Bool × Tracked :=
  match x.tracker.eventReplay? request with
  | none => (false, x)
  | some replay =>
    if !interest.isScopeLimited then (true, x)
    else
      let replay := replay.acknowledge interest
      let x := x.mapTracker fun t => { t with events := t.events.insert request replay }
      (x.scopesAcknowledged outage replay.acknowledged, x)

-- The directory is written first, and where that fails nothing changes. A producer
-- that goes down loses its event replays.
def setDown (x : Tracked) (outage : Outage) (reason : DownReason) : Except DirectoryError Tracked := do
  let listing ← outage.guard .setDown x.id (x.listing.setDown true)
  return { tracker := { x.tracker with downReason := reason, events := ∅ }, listing }

def setUp (x : Tracked) (outage : Outage) : Except DirectoryError Tracked := do
  let listing ← outage.guard .setDown x.id (x.listing.setDown false)
  return { tracker := { x.tracker with downReason := .default }, listing }

-- Keeps a system alive. Its time of generation becomes the anchor of the next
-- recovery only while the producer is up, and the point to resume from only while a
-- recovery is started.
def systemAlive (x : Tracked) (outage : Outage) (received generated : Instant) :
    Except DirectoryError Unit × Tracked :=
  let x := x.mapTracker ({ · with lastSystemAlive := some received })
  let resumable (x : Tracked) : Tracked :=
    if x.tracker.state = .started then x.mapTracker ({ · with resumeFrom := generated }) else x
  if x.isFlaggedDown outage then (.ok (), resumable x)
  else
    match outage.guard .setLastAlive x.id (x.listing.setLastAlive generated) with
    | .ok listing => (.ok (), resumable { x with listing })
    | .error e => (.error e, x)

def name (x : Tracked) (outage : Outage) : Except DirectoryError String :=
  (x.producer outage).map Producer.name

def recoveryAnchor (x : Tracked) (outage : Outage) : Except DirectoryError Instant :=
  (x.producer outage).map Producer.recoveryAnchor

def lastProcessed (x : Tracked) (outage : Outage) : Except DirectoryError Instant :=
  (x.producer outage).map Producer.lastProcessed

def setLastMessage (x : Tracked) (outage : Outage) (received : Instant) :
    Except DirectoryError Tracked := do
  if received = 0 then .error .zeroTimestamp
  else
    let listing ← outage.guard .setLastMessage x.id (x.listing.setLastMessage received)
    return { x with listing }

def setLastProcessed (x : Tracked) (outage : Outage) (generated : Instant) :
    Except DirectoryError Tracked := do
  if generated = 0 then .error .zeroTimestamp
  else
    let listing ← outage.guard .setLastProcessed x.id (x.listing.setLastProcessed generated)
    return { x with listing }

end Tracked

end FeedWatch
