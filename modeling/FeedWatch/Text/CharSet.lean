import FeedWatch.Text.Numeral
import FeedWatch.Text.Segments

namespace FeedWatch.Text

-- The code points from `low` to `high`, or of these only every second one, every
-- third one and so on.
structure CodePoints where
  low : Nat
  high : Nat
  step : Nat := 1
  deriving DecidableEq, Repr

namespace CodePoints

def contains (r : CodePoints) (n : Nat) : Bool :=
  r.low ≤ n && n ≤ r.high && (n - r.low) % r.step = 0

-- A single code point as in `AD`, a range as in `5BE-5F4`, every second code point
-- of a range as in `728-72C/2`. All numbers are hexadecimal.
def ofText? (s : List Char) : Option CodePoints := do
  let (range, step) := (cut? ['/'] s).getD (s, ['1'])
  let (low, high) := (cut? ['-'] range).getD (range, range)
  return { low := ← numeral? 16 low, high := ← numeral? 16 high, step := ← numeral? 16 step }

end CodePoints

-- The words of a text, between blanks and ends of lines.
def words (s : String) : List (List Char) :=
  (segments ' ' (s.toList.map fun c => if c = '\n' then ' ' else c)).filter (!·.isEmpty)

structure CharSet where
  ranges : List CodePoints
  deriving DecidableEq, Repr

namespace CharSet

def ofText (s : String) : CharSet := ⟨(words s).filterMap CodePoints.ofText?⟩

def contains (s : CharSet) (c : Char) : Bool := s.ranges.any (·.contains c.toNat)

end CharSet

end FeedWatch.Text
