import FeedWatch.Producer
import FeedWatch.Status
import FeedWatch.Urn

namespace FeedWatch

-- A producer went up or down, or the reason changed.
structure StatusChange where
  producer : Producer
  stamp : Stamp
  isDown : Bool
  -- messages or the alives of the user's sessions lag behind
  isDelayed : Bool
  reason : StatusReason
  deriving DecidableEq, Repr

-- The replay of one event has ended.
structure EventReplayed where
  producer : Producer
  stamp : Stamp
  event : Urn
  request : RequestId
  deriving DecidableEq, Repr

inductive Notification where
  | statusChange (change : StatusChange)
  | eventReplayed (replay : EventReplayed)
  deriving DecidableEq, Repr

namespace Notification

def producer : Notification → Producer
  | statusChange change => change.producer
  | eventReplayed replay => replay.producer

def label : Notification → String
  | statusChange _ => "ProducerStatus"
  | eventReplayed _ => "EventRecovery"

end Notification

end FeedWatch
