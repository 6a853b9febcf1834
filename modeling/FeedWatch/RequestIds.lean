import FeedWatch.Id

namespace FeedWatch

-- Full and event recoveries draw from one sequence, so their ids stay apart until
-- the sequence comes round.
structure RequestIds where
  last : UInt32
  step : UInt32 := 1
  deriving DecidableEq, Repr

namespace RequestIds

-- The next id, and the sequence after it. Ids wrap at 2^32.
def next (ids : RequestIds) : RequestId × RequestIds :=
  (⟨ids.last + ids.step⟩, { ids with last := ids.last + ids.step })

-- The first ids of the sequence.
def draw (ids : RequestIds) : Nat → List RequestId
  | 0 => []
  | n + 1 => ids.next.1 :: ids.next.2.draw n

end RequestIds

end FeedWatch
