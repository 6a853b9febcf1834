import FeedWatch.Interest
import FeedWatch.Urn

namespace FeedWatch

-- The request of a full recovery or of an event's. A producer with several scopes
-- answers with one end of replay per session that is limited to a scope, so the
-- interests under which an end was seen are kept, in the order of their declaration.
structure Replay where
  request : RequestId
  startedAt : Instant
  acknowledged : List Interest := []
  deriving DecidableEq, Repr

def Replay.acknowledge (r : Replay) (interest : Interest) : Replay :=
  { r with acknowledged := Interest.everyInterest.filter fun i => i = interest ∨ i ∈ r.acknowledged }

structure EventReplay extends Replay where
  event : Urn
  deriving DecidableEq, Repr

def EventReplay.acknowledge (r : EventReplay) (interest : Interest) : EventReplay :=
  { r with toReplay := r.toReplay.acknowledge interest }

-- Each scope has an interest among them that is limited to it.
def Scope.allAcknowledged (scopes : List Scope) (acknowledged : List Interest) : Bool :=
  scopes.all fun scope => acknowledged.any fun interest => interest.scope? = some scope

end FeedWatch
