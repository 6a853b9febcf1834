import FeedWatch.Producer

namespace FeedWatch

inductive Interest where
  | liveOnly
  | prematchOnly
  | hiPriorityOnly
  | lowPriorityOnly
  | specifiedMatchesOnly
  | all
  -- a system session, bound to alives only
  | systemAliveOnly
  deriving DecidableEq, Repr

namespace Interest

def everyInterest : List Interest :=
  [.liveOnly, .prematchOnly, .hiPriorityOnly, .lowPriorityOnly, .specifiedMatchesOnly, .all,
    .systemAliveOnly]

-- The pattern that is bound on the exchange.
def routingKey : Interest → String
  | .liveOnly => "*.*.live.*.*.*.*"
  | .prematchOnly => "*.pre.*.*.*.*.*"
  | .hiPriorityOnly => "hi.*.*.*.*.*.*"
  | .lowPriorityOnly => "lo.*.*.*.*.*.*"
  | .specifiedMatchesOnly => ""
  | .all => "*.*.*.*.*.*.*"
  | .systemAliveOnly => "-.-.-.alive.#"

def parse (key : String) : Except ParseError Interest :=
  match everyInterest.find? fun interest => interest.routingKey = key with
  | some interest => .ok interest
  | none => .error (.unknownInterest key)

-- The one scope that the interest is limited to.
def scope? : Interest → Option Scope
  | .liveOnly => some .live
  | .prematchOnly => some .prematch
  | _ => none

-- The end of a replay seen under this interest speaks for a part of the producer.
def isScopeLimited (interest : Interest) : Bool := interest.scope?.isSome

def covers (interest : Interest) (p : Producer) : Bool :=
  match interest.scope? with
  | some scope => p.serves scope
  | none => true

-- The producers that a session with this interest can hear of, by ascending id.
def sources (interest : Interest) (producers : Std.ExtTreeMap ProducerId Producer) :
    List ProducerId :=
  (producers.toList.filter fun (_, p) => interest.covers p).map fun (_, p) => p.id

end Interest

end FeedWatch
