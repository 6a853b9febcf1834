import FeedWatch.Clock
import FeedWatch.Config

namespace FeedWatch

namespace Config

-- Milliseconds from the opening to the check number `k`, the first being number 1.
def checkDue (c : Config) (k : Nat) : Nat :=
  (waitSeconds c.initialDelaySeconds + k * c.tickSeconds.toNat) * 1000

-- How many checks are due up to an age, given in milliseconds since the opening.
def checksDueBy (c : Config) (age : Nat) : Nat :=
  (age - waitSeconds c.initialDelaySeconds * 1000) / (c.tickSeconds.toNat * 1000)

-- The ages at which checks are due, after the first given age and up to the second.
def checksDue (c : Config) (after upTo : Nat) : List Nat :=
  ((List.range (c.checksDueBy upTo + 1)).drop (c.checksDueBy after + 1)).map c.checkDue

end Config

end FeedWatch
