import FeedWatch.Text.Blank
import FeedWatch.Text.Segments

namespace FeedWatch.Api

def messageStart : List Char := "<message>".toList

def messageEnd : List Char := "</message>".toList

-- What stands in the first message element, without the blanks around it. A blank
-- message counts as none.
def errorMessage? (body : String) : Option String := do
  let (_, afterStart) ← Text.cut? messageStart body.toList
  let (inside, _) ← Text.cut? messageEnd afterStart
  let message := Text.trim inside
  if message.isEmpty then none else some (String.ofList message)

end FeedWatch.Api
