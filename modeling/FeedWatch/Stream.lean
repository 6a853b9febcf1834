import FeedWatch.Notification

namespace FeedWatch

structure Stream where
  capacity : Nat
  queue : List Notification := []
  -- the user still reads, or may read again
  hasReader : Bool := true
  deriving DecidableEq, Repr

namespace Stream

-- Puts a notification at the end, `none` while the stream is full. What nobody will
-- read is dropped.
def push? (s : Stream) (n : Notification) : Option Stream :=
  if !s.hasReader then some s
  else if s.queue.length < s.capacity then some { s with queue := s.queue ++ [n] }
  else none

-- All that can be read at once, and the stream without it.
def takeAll (s : Stream) : List Notification × Stream := (s.queue, { s with queue := [] })

-- The reader goes, and with it what it has not read.
def abandon (s : Stream) : Stream := { s with queue := [], hasReader := false }

end Stream

end FeedWatch
