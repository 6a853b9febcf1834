import FeedWatch.Id
import FeedWatch.Scope

namespace FeedWatch

-- A producer as the feed describes it. The scopes stay text here, and a text that
-- cannot be read is an error only where the scopes are needed.
structure Descriptor where
  id : ProducerId
  name : String
  description : String
  apiEndpoint : String
  active : Bool
  scope : String
  windowMinutes : UInt32
  deriving DecidableEq, Repr

def Descriptor.scopes (d : Descriptor) : Except ParseError (List Scope) :=
  Scope.parseList d.scope

-- The last time a full recovery of a producer was asked for.
structure Attempt where
  -- where the replay starts, 0 for all of it
  after : Instant
  requestedAt : Instant
  request : RequestId
  accepted : Bool
  node : Option Int32
  deriving DecidableEq, Repr

structure Producer where
  id : ProducerId
  name : String
  description : String
  apiEndpoint : String
  -- the feed says that it is in use
  active : Bool
  -- the user wants its messages
  enabled : Bool
  flaggedDown : Bool
  scopes : List Scope
  windowMinutes : UInt32
  lastMessage : Instant
  lastProcessed : Instant
  lastAlive : Instant
  recoveryFrom : Instant
  lastAttempt : Option Attempt
  deriving DecidableEq, Repr

namespace Producer

-- The record of an id that the feed never described. It has both scopes, so a
-- recovery waits for both.
def unknown (id : ProducerId) (apiEndpoint : String) : Producer where
  id := id
  name := "unknown"
  description := "unknown producer"
  apiEndpoint := apiEndpoint
  active := true
  enabled := true
  flaggedDown := true
  scopes := [.live, .prematch]
  windowMinutes := 4320
  lastMessage := 0
  lastProcessed := 0
  lastAlive := 0
  recoveryFrom := 0
  lastAttempt := none

-- Where the next recovery starts: the last alive that counted, else the instant
-- that the user set.
def recoveryAnchor (p : Producer) : Instant :=
  if p.lastAlive = 0 then p.recoveryFrom else p.lastAlive

-- How far the processed messages lag behind.
def processingDelay (p : Producer) (now : Instant) : Int := now.since p.lastProcessed

def serves (p : Producer) (scope : Scope) : Bool := p.scopes.contains scope

end Producer

end FeedWatch
