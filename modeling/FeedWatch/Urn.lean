import FeedWatch.ParseError
import FeedWatch.Text.Decimal
import FeedWatch.Text.Segments

namespace FeedWatch

-- Any texts are allowed for the first two parts. Only those that are nonempty and
-- hold no colon can be read back.
structure Urn where
  scheme : String
  kind : String
  id : UInt64
  deriving DecidableEq, Repr

namespace Urn

def ofMatch (id : UInt64) : Urn := ⟨"od", "match", id⟩

def text (urn : Urn) : String := s!"{urn.scheme}:{urn.kind}:{urn.id.toNat}"

-- Three parts between two colons, the first two nonempty and the last a 64-bit
-- number.
def parse (s : String) : Except ParseError Urn :=
  match Text.segments ':' s.toList with
  | [scheme, kind, id] =>
    if scheme.isEmpty || kind.isEmpty then .error (.invalidUrn s)
    else
      match Text.readNumber UInt64.size id with
      | .ok n => .ok ⟨String.ofList scheme, String.ofList kind, UInt64.ofNat n⟩
      | .error e => .error (.invalidUrnId s e.message)
  | _ => .error (.invalidUrn s)

end Urn

end FeedWatch
