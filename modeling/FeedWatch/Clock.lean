import FeedWatch.Id

namespace FeedWatch

inductive ClockMove where
  | set (reading : Instant)
  | millis (amount : Int64)
  | seconds (amount : Int64)
  deriving DecidableEq, Repr

def ClockMove.apply (now : Instant) : ClockMove → Instant
  | set reading => reading
  | millis amount => now + amount
  | seconds amount => now + amount * 1000

-- One wait lasts no longer than thirty years, whatever was asked for.
def longestWaitSeconds : Nat := 30 * 365 * 24 * 60 * 60

def waitSeconds (asked : UInt64) : Nat := min asked.toNat longestWaitSeconds

end FeedWatch
