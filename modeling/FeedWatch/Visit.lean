import FeedWatch.Handler

namespace FeedWatch

-- Why a producer is held.
inductive Visit where
  -- a session began with a message that it received at this instant
  | messageStarted (received : Instant)
  -- a session is done with a message that was generated at this instant
  | messageEnded (generated : Instant)
  | alive (stamp : Stamp) (subscribed : Bool) (interest : Interest)
  -- a session saw the end of a replay
  | replayEnded (request : RequestId) (interest : Interest)
  | healthCheck
  deriving DecidableEq, Repr

-- What is still to be done once the notification has left.
inductive Rest where
  | done
  | keepAlive (stamp : Stamp)
  -- start a recovery, and keep the alive that asked for it
  | claim (anchor : Instant) (alive : Option Stamp)
  -- start a recovery only if one is missing or has run too long
  | ensureRecovery (anchor : Instant) (alive : Stamp)
  | eventDone (request : RequestId)
  deriving DecidableEq, Repr

structure Pause where
  notification : Option Notification := none
  rest : Rest := .done
  deriving DecidableEq, Repr

namespace Visit

-- Down because of a delay of the queue, with no recovery under way, and the delay
-- is over.
def isBackFromDelay : Handler Bool := do
  let t ← Handler.tracker
  if (← Handler.ask Tracked.isFlaggedDown) ∧ !t.isPerformingRecovery ∧ t.downReason = .queueDelay then
    Handler.timingWithinLimits
  else return false

-- The last recovery, if any, was not called off.
def isRecovering : RecoveryState → Bool
  | .notStarted | .error | .interrupted => false
  | .default | .started | .completed => true

def systemAlive (stamp : Stamp) (subscribed : Bool) : Handler Pause := do
  Handler.write (·.setLastMessage · stamp.received)
  let anchor ← Handler.lookUp Tracked.recoveryAnchor
  if !subscribed then
    let notification ←
      if ← Handler.ask Tracked.isFlaggedDown then pure none else Handler.takeDown .other
    return { notification, rest := .claim anchor (some stamp) }
  else if ← isBackFromDelay then
    let notification ← Handler.bringUp .returnedFromInactivity
    return { notification, rest := .keepAlive stamp }
  else if isRecovering (← Handler.tracker).state then
    return { rest := .ensureRecovery anchor stamp }
  else return { rest := .claim anchor (some stamp) }

-- An event replay is over. Its entry goes once the user has been told.
def eventOver (request : RequestId) : Handler Pause := do
  let id ← Handler.producerId
  match (← Handler.tracker).eventReplay? request with
  | none => throw (.inconsistentState id request)
  | some replay =>
    let producer ← Handler.lookUp Tracked.producer
    let stamp := Stamp.uniform (← read).now
    let notification ← Handler.announce
      (.eventReplayed { producer, stamp, event := replay.event, request })
    return { notification, rest := .eventDone request }

-- All of a full recovery has arrived. If it was interrupted in between, another one
-- takes up where the alives broke off.
def recoveryOver (request : RequestId) : Handler Pause := do
  let id ← Handler.producerId
  let t ← Handler.tracker
  if t.startedAt = 0 then throw (.inconsistentState id request)
  else if t.state = .interrupted then return { rest := .claim t.resumeFrom none }
  else
    let reason : UpReason :=
      if t.firstRecoveryCompleted then .returnedFromInactivity else .firstRecoveryCompleted
    Handler.track fun t =>
      { t with firstRecoveryCompleted := true }.setRecovery request t.startedAt .completed
    return { notification := ← Handler.bringUp reason }

def replayEnd (request : RequestId) (interest : Interest) : Handler Pause := do
  if ← Handler.ask Tracked.isDisabled then return {}
  else if !(← Handler.tracker).knows request then return {}
  else if ← Handler.examine (·.eventAnswered · request interest) then eventOver request
  else if ← Handler.examine (·.recoveryAnswered · request interest) then recoveryOver request
  else return {}

-- No system alive for longer than the limit takes a producer down, and so does a
-- lag of its messages or of the user's sessions. A producer without any alive yet
-- counts as silent since the instant 0.
def check : Handler Pause := do
  if ← Handler.ask Tracked.isDisabled then return {}
  else
    let scene ← read
    let lastAlive := (← Handler.tracker).lastSystemAlive.getD 0
    if scene.now.since lastAlive > scene.config.maxInactivityMillis.toInt then
      return { notification := ← Handler.takeDown .aliveInterval }
    else if !(← Handler.timingWithinLimits) then
      return { notification := ← Handler.takeDown .queueDelay }
    else return {}

-- The part before the notification.
def start : Visit → Handler Pause
  | messageStarted received => do
    Handler.write (·.setLastMessage · received)
    return {}
  | messageEnded generated => do
    Handler.write (·.setLastProcessed · generated)
    return {}
  | alive stamp subscribed interest => do
    if ← Handler.ask Tracked.isDisabled then return {}
    else if interest = .systemAliveOnly then systemAlive stamp subscribed
    else
      Handler.track ({ · with lastUserAlive := stamp.created })
      return {}
  | replayEnded request interest => replayEnd request interest
  | healthCheck => check

end Visit

namespace Rest

-- A recovery is missing if the producer is down for anything but a delay of the
-- queue. One that has run too long is given up and replaced.
def ensureRecovered (anchor : Instant) : Handler (Option Claim) := do
  let scene ← read
  let t ← Handler.tracker
  let isMissing :=
    (← Handler.ask Tracked.isFlaggedDown) && !t.isPerformingRecovery && t.downReason != .queueDelay
  let claimed ← if isMissing then Handler.claim anchor else pure none
  let t ← Handler.tracker
  if t.isPerformingRecovery ∧
      scene.now.since t.startedAt > scene.config.maxRecoveryMillis.toInt then
    Handler.track (·.setRecovery .zero 0 .error)
    Handler.claim anchor
  else return claimed

-- The part after the notification. It may leave a recovery whose request is to be
-- sent.
def finish : Rest → Handler (Option Claim)
  | done => return none
  | keepAlive stamp => do
    Handler.keepAlive stamp
    return none
  | claim anchor alive => do
    let claimed ← Handler.claim anchor
    if let some stamp := alive then Handler.keepAlive stamp
    return claimed
  | ensureRecovery anchor stamp => do
    let claimed ← ensureRecovered anchor
    Handler.keepAlive stamp
    return claimed
  | eventDone request => do
    Handler.track (·.eventDone request)
    return none

end Rest

end FeedWatch
