import FeedWatch.ParseError
import FeedWatch.Text.Blank
import FeedWatch.Text.Segments

namespace FeedWatch

inductive Scope where
  | live
  | prematch
  deriving DecidableEq, Repr

namespace Scope

def text : Scope → String
  | .live => "live"
  | .prematch => "prematch"

def parse (s : String) : Except ParseError Scope :=
  if s = "live" then .ok .live
  else if s = "prematch" then .ok .prematch
  else .error (.unknownScope s)

-- The texts between the bars, without the blanks around them and without those
-- that are blank altogether.
def entries (s : String) : List String :=
  (((Text.segments '|' s.toList).map Text.trim).filter (!·.isEmpty)).map String.ofList

-- A list of scopes such as `live | prematch`. The first entry that is no scope is
-- the error.
def parseList (s : String) : Except ParseError (List Scope) :=
  (entries s).mapM parse

end Scope

end FeedWatch
