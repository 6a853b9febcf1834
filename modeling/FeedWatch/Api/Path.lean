import FeedWatch.Id
import FeedWatch.Urn

namespace FeedWatch.Api

-- Which messages of an event are sent again.
inductive EventReplayKind where
  | odds
  -- bet stops and settlements
  | stateful
  deriving DecidableEq, Repr

def EventReplayKind.folder : EventReplayKind → String
  | .odds => "odds"
  | .stateful => "stateful_messages"

def nodeQuery : Option Int32 → String
  | some node => s!"&node_id={node.toInt}"
  | none => ""

-- A replay from the instant `after` on, or of everything where it is 0.
def recoveryPath (producer : String) (request : RequestId) (node : Option Int32) (after : Instant) :
    String :=
  s!"/{producer}/recovery/initiate_request?request_id={request.text}" ++ nodeQuery node ++
    (if after = 0 then "" else s!"&after={after.toInt}")

-- A replay of one event.
def eventPath (kind : EventReplayKind) (producer : String) (event : Urn) (request : RequestId)
    (node : Option Int32) : String :=
  s!"/{producer}/{kind.folder}/events/{event.text}/initiate_request?request_id={request.text}" ++
    nodeQuery node

end FeedWatch.Api
