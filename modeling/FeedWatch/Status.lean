import FeedWatch.Id

namespace FeedWatch

-- Where the current full recovery of a producer stands.
inductive RecoveryState where
  -- none was ever asked for
  | default
  | notStarted
  | started
  | completed
  | interrupted
  | error
  deriving DecidableEq, Repr, Inhabited

-- A replay is running, or it was interrupted and waits to be resumed.
def RecoveryState.isInProgress : RecoveryState → Bool
  | .started | .interrupted => true
  | _ => false

inductive DownReason where
  | default
  -- no system alive for too long
  | aliveInterval
  -- messages are processed too long after they were generated
  | queueDelay
  | other
  deriving DecidableEq, Repr, Inhabited

inductive UpReason where
  | default
  | firstRecoveryCompleted
  | queueDelayStabilized
  | returnedFromInactivity
  deriving DecidableEq, Repr, Inhabited

-- The reason that goes with a change of status.
inductive StatusReason where
  | error
  | firstRecoveryCompleted
  | queueDelayStabilized
  | returnedFromInactivity
  | aliveInterval
  | queueDelay
  | other
  deriving DecidableEq, Repr, Inhabited

def StatusReason.code : StatusReason → UInt8
  | .error => 0
  | .firstRecoveryCompleted => 1
  | .queueDelayStabilized => 2
  | .returnedFromInactivity => 3
  | .aliveInterval => 4
  | .queueDelay => 5
  | .other => 6

def DownReason.status : DownReason → StatusReason
  | .default => .error
  | .aliveInterval => .aliveInterval
  | .queueDelay => .queueDelay
  | .other => .other

def UpReason.status : UpReason → StatusReason
  | .default => .error
  | .firstRecoveryCompleted => .firstRecoveryCompleted
  | .queueDelayStabilized => .queueDelayStabilized
  | .returnedFromInactivity => .returnedFromInactivity

-- When a message was made by the producer, handed to the broker, received here and
-- passed on to the user.
structure Stamp where
  created : Instant := 0
  sent : Instant := 0
  received : Instant := 0
  published : Instant := 0
  deriving DecidableEq, Repr, Inhabited

-- The times of a message that is made here.
def Stamp.uniform (now : Instant) : Stamp := ⟨now, now, now, now⟩

end FeedWatch
