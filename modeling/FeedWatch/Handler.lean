import FeedWatch.Config
import FeedWatch.Notification
import FeedWatch.RequestIds
import FeedWatch.Tracker

namespace FeedWatch

-- What stays the same while a producer is held.
structure Scene where
  config : Config
  isOpen : Bool
  now : Instant
  outage : Outage

-- What may change.
structure Desk where
  tracked : Tracked
  ids : RequestIds

-- A step that fails keeps what it has changed so far.
abbrev Handler := ReaderT Scene (EStateM RecoveryError Desk)

-- A full recovery that is entered as started. Its request goes out once the producer
-- is let go, and an end of its replay is known from here on.
structure Claim where
  producer : ProducerId
  name : String
  request : RequestId
  after : Instant
  requestedAt : Instant
  deriving DecidableEq, Repr

namespace Handler

def tracker : Handler Tracker := return (← get).tracked.tracker

def producerId : Handler ProducerId := return (← get).tracked.id

def ask (question : Tracked → Outage → α) : Handler α :=
  return question (← get).tracked (← read).outage

def lookUp (question : Tracked → Outage → Except DirectoryError α) : Handler α := do
  match ← ask question with
  | .ok answer => return answer
  | .error e => throw (.directory e)

def write (change : Tracked → Outage → Except DirectoryError Tracked) : Handler Unit := do
  let tracked ← lookUp change
  modify ({ · with tracked })

def track (change : Tracker → Tracker) : Handler Unit :=
  modify fun desk => { desk with tracked := desk.tracked.mapTracker change }

-- Asks a question whose answer may leave a trace in the tracker.
def examine (question : Tracked → Outage → α × Tracked) : Handler α := do
  let (answer, tracked) ← ask question
  modify ({ · with tracked })
  return answer

def drawId : Handler RequestId := do
  let (request, ids) := (← get).ids.next
  modify ({ · with ids })
  return request

-- Neither the processed messages nor the alives of the user's sessions lag by the
-- inactivity limit.
def timingWithinLimits : Handler Bool := do
  let scene ← read
  let limit := scene.config.maxInactivityMillis.toInt
  match ← ask Tracked.lastProcessed with
  | .error _ => return false
  | .ok lastProcessed =>
    let t ← tracker
    return scene.now.since lastProcessed < limit ∧ scene.now.since t.lastUserAlive < limit

-- What is said while nobody listens is lost.
def announce (n : Notification) : Handler (Option Notification) :=
  return if (← read).isOpen then some n else none

-- The user is told a reason once and not again before another one.
def tell (reason : StatusReason) : Handler (Option Notification) := do
  if (← tracker).toldReason = some reason then return none
  else
    track ({ · with toldReason := some reason })
    let producer ← lookUp Tracked.producer
    let isDown ← ask Tracked.isFlaggedDown
    let isDelayed := !(← timingWithinLimits)
    let stamp := Stamp.uniform (← read).now
    announce (.statusChange { producer, stamp, isDown, isDelayed, reason })

-- Flags a producer down, or changes the reason of one that is down. A recovery that
-- is under way is interrupted, except by a delay of the queue.
def takeDown (reason : DownReason) : Handler (Option Notification) := do
  if ← ask Tracked.isDisabled then return none
  else
    let wasDown ← ask Tracked.isFlaggedDown
    if wasDown ∧ (← tracker).downReason ≠ reason then write (·.setDown · reason)
    if (← tracker).state = .started ∧ reason ≠ .queueDelay then track Tracker.interrupt
    if !wasDown then write (·.setDown · reason)
    tell reason.status

def bringUp (reason : UpReason) : Handler (Option Notification) := do
  if ← ask Tracked.isDisabled then return none
  else
    if ← ask Tracked.isFlaggedDown then write Tracked.setUp
    tell reason.status

-- Where a replay starts that should start at the anchor: not further back than a
-- recovery may run. The anchor 0 asks for everything.
def replayStart (limit : Int64) (now anchor : Instant) : Instant :=
  if anchor ≠ 0 ∧ now.since anchor > limit.toInt then now - limit else anchor

-- Starts a full recovery, in an open manager only.
def claim (anchor : Instant) : Handler (Option Claim) := do
  let scene ← read
  if !scene.isOpen then return none
  else
    let request ← drawId
    let name ← lookUp Tracked.name
    track (·.setRecovery request scene.now .started)
    return some {
      producer := ← producerId
      name
      request
      after := replayStart scene.config.maxRecoveryMillis scene.now anchor
      requestedAt := scene.now
    }

-- An alive that cannot be kept changes nothing else.
def keepAlive (stamp : Stamp) : Handler Unit := do
  let _ ← examine (·.systemAlive · stamp.received stamp.created)

end Handler

end FeedWatch
