import FeedWatch.Visit

namespace FeedWatch

inductive Fault where
  | error (e : RecoveryError)
  | overflow

-- Visits with checked arithmetic: a number that does not fit 64 bits ends them. Nothing else
-- differs.
abbrev Careful := ReaderT Scene (EStateM Fault Desk)

-- Steps as they are. They fail with errors only.
def Handler.careful (h : Handler α) : Careful α := fun scene desk =>
  match h scene desk with
  | .ok a desk => .ok a desk
  | .error e desk => .error (.error e) desk

instance : MonadLift Handler Careful := ⟨Handler.careful⟩

namespace Careful

def fits (result : Option α) : Careful α := fun _ desk =>
  match result with
  | some a => .ok a desk
  | none => .error .overflow desk

instance : MonadLift Option Careful := ⟨fits⟩

-- The signed number of 64 bits that is this integer.
def signed? (n : Int) : Option Int64 :=
  if -0x8000000000000000 ≤ n ∧ n < 0x8000000000000000 then some (Int64.ofInt n) else none

def sub? (a b : Int64) : Option Int64 := signed? (a.toInt - b.toInt)

def mul? (a b : Int64) : Option Int64 := signed? (a.toInt * b.toInt)

def cast? (n : UInt64) : Option Int64 := signed? n.toNat

-- So many units of so many milliseconds.
def millis? (amount : UInt64) (unit : Int64) : Option Int64 := do mul? (← cast? amount) unit

def maxInactivityMillis? (c : Config) : Option Int64 := millis? c.maxInactivitySeconds 1000

def maxRecoveryMillis? (c : Config) : Option Int64 := millis? c.maxRecoveryMinutes 60000

def replayStart? (limit : Int64) (now anchor : Instant) : Option Instant := do
  let age ← sub? now anchor
  if anchor ≠ 0 ∧ age > limit then sub? now limit else return anchor

def setRecoveryFrom? (l : Listing) (recoveryFrom now : Instant) :
    Option (Except DirectoryError Listing) :=
  match l.read (·.descriptor.windowMinutes) with
  | .error e => some (.error e)
  | .ok windowMinutes => do
    let window ← millis? windowMinutes.toUInt64 60000
    let age ← sub? now recoveryFrom
    if recoveryFrom ≠ 0 ∧ age > window then
      return .error (.outsideRecoveryWindow l.id recoveryFrom windowMinutes)
    else return l.update ({ · with recoveryFrom })

def timingWithinLimits : Careful Bool := do
  let scene ← read
  let limit ← maxInactivityMillis? scene.config
  match ← Handler.ask Tracked.lastProcessed with
  | .error _ => return false
  | .ok lastProcessed =>
    let t ← Handler.tracker
    let lag ← sub? scene.now lastProcessed
    let userLag ← sub? scene.now t.lastUserAlive
    return lag < limit ∧ userLag < limit

def tell (reason : StatusReason) : Careful (Option Notification) := do
  if (← Handler.tracker).toldReason = some reason then return none
  else
    Handler.track ({ · with toldReason := some reason })
    let producer ← Handler.lookUp Tracked.producer
    let isDown ← Handler.ask Tracked.isFlaggedDown
    let isDelayed := !(← timingWithinLimits)
    let stamp := Stamp.uniform (← read).now
    Handler.announce (.statusChange { producer, stamp, isDown, isDelayed, reason })

def takeDown (reason : DownReason) : Careful (Option Notification) := do
  if ← Handler.ask Tracked.isDisabled then return none
  else
    let wasDown ← Handler.ask Tracked.isFlaggedDown
    if wasDown ∧ (← Handler.tracker).downReason ≠ reason then Handler.write (·.setDown · reason)
    if (← Handler.tracker).state = .started ∧ reason ≠ .queueDelay then
      Handler.track Tracker.interrupt
    if !wasDown then Handler.write (·.setDown · reason)
    tell reason.status

def bringUp (reason : UpReason) : Careful (Option Notification) := do
  if ← Handler.ask Tracked.isDisabled then return none
  else
    if ← Handler.ask Tracked.isFlaggedDown then Handler.write Tracked.setUp
    tell reason.status

def claim (anchor : Instant) : Careful (Option Claim) := do
  let scene ← read
  if !scene.isOpen then return none
  else
    let limit ← maxRecoveryMillis? scene.config
    let after ← replayStart? limit scene.now anchor
    let request ← Handler.drawId
    let name ← Handler.lookUp Tracked.name
    Handler.track (·.setRecovery request scene.now .started)
    return some {
      producer := ← Handler.producerId
      name
      request
      after
      requestedAt := scene.now
    }

def isBackFromDelay : Careful Bool := do
  let t ← Handler.tracker
  let isDown ← Handler.ask Tracked.isFlaggedDown
  if isDown ∧ !t.isPerformingRecovery ∧ t.downReason = .queueDelay then timingWithinLimits
  else return false

def systemAlive (stamp : Stamp) (subscribed : Bool) : Careful Pause := do
  Handler.write (·.setLastMessage · stamp.received)
  let anchor ← Handler.lookUp Tracked.recoveryAnchor
  if !subscribed then
    let notification ←
      if ← Handler.ask Tracked.isFlaggedDown then pure none else takeDown .other
    return { notification, rest := .claim anchor (some stamp) }
  else if ← isBackFromDelay then
    let notification ← bringUp .returnedFromInactivity
    return { notification, rest := .keepAlive stamp }
  else if Visit.isRecovering (← Handler.tracker).state then
    return { rest := .ensureRecovery anchor stamp }
  else return { rest := .claim anchor (some stamp) }

def recoveryOver (request : RequestId) : Careful Pause := do
  let id ← Handler.producerId
  let t ← Handler.tracker
  if t.startedAt = 0 then throw (.error (.inconsistentState id request))
  else if t.state = .interrupted then return { rest := .claim t.resumeFrom none }
  else
    let reason : UpReason :=
      if t.firstRecoveryCompleted then .returnedFromInactivity else .firstRecoveryCompleted
    Handler.track fun t =>
      { t with firstRecoveryCompleted := true }.setRecovery request t.startedAt .completed
    return { notification := ← bringUp reason }

def replayEnd (request : RequestId) (interest : Interest) : Careful Pause := do
  if ← Handler.ask Tracked.isDisabled then return {}
  else if !(← Handler.tracker).knows request then return {}
  else if ← Handler.examine (·.eventAnswered · request interest) then Visit.eventOver request
  else if ← Handler.examine (·.recoveryAnswered · request interest) then recoveryOver request
  else return {}

def check : Careful Pause := do
  if ← Handler.ask Tracked.isDisabled then return {}
  else
    let scene ← read
    let limit ← maxInactivityMillis? scene.config
    let silence ← sub? scene.now ((← Handler.tracker).lastSystemAlive.getD 0)
    if silence > limit then return { notification := ← takeDown .aliveInterval }
    else if !(← timingWithinLimits) then return { notification := ← takeDown .queueDelay }
    else return {}

def start : Visit → Careful Pause
  | .messageStarted received => do
    Handler.write (·.setLastMessage · received)
    return {}
  | .messageEnded generated => do
    Handler.write (·.setLastProcessed · generated)
    return {}
  | .alive stamp subscribed interest => do
    if ← Handler.ask Tracked.isDisabled then return {}
    else if interest = .systemAliveOnly then systemAlive stamp subscribed
    else
      Handler.track ({ · with lastUserAlive := stamp.created })
      return {}
  | .replayEnded request interest => replayEnd request interest
  | .healthCheck => check

def ensureRecovered (anchor : Instant) : Careful (Option Claim) := do
  let scene ← read
  let t ← Handler.tracker
  let isMissing :=
    (← Handler.ask Tracked.isFlaggedDown) && !t.isPerformingRecovery && t.downReason != .queueDelay
  let claimed ← if isMissing then claim anchor else pure none
  let t ← Handler.tracker
  let limit ← maxRecoveryMillis? scene.config
  let runningFor ← sub? scene.now t.startedAt
  if t.isPerformingRecovery ∧ runningFor > limit then
    Handler.track (·.setRecovery .zero 0 .error)
    claim anchor
  else return claimed

def finish : Rest → Careful (Option Claim)
  | .done => return none
  | .keepAlive stamp => do
    Handler.keepAlive stamp
    return none
  | .claim anchor alive => do
    let claimed ← claim anchor
    if let some stamp := alive then Handler.keepAlive stamp
    return claimed
  | .ensureRecovery anchor stamp => do
    let claimed ← ensureRecovered anchor
    Handler.keepAlive stamp
    return claimed
  | .eventDone request => do
    Handler.track (·.eventDone request)
    return none

end Careful

end FeedWatch
