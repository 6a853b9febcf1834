import FeedWatch.Directory

namespace FeedWatch

-- The calls of the directory that recovery makes.
inductive DirectoryCall where
  | producer
  | isEnabled
  | isDown
  | setDown
  | setLastMessage
  | setLastProcessed
  | setLastAlive
  | setLastAttempt
  | active
  deriving DecidableEq, Repr

-- The calls that fail at present.
abbrev Outage := DirectoryCall → Bool

namespace Outage

def none : Outage := fun _ => false

-- A call that fails does nothing and answers that the producer is missing.
def guard (outage : Outage) (call : DirectoryCall) (id : ProducerId)
    (answer : Except DirectoryError α) : Except DirectoryError α :=
  if outage call then .error (.unknownProducer id) else answer

end Outage

end FeedWatch
