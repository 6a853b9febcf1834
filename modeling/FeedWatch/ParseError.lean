namespace FeedWatch

inductive ParseError where
  | invalidUrn (value : String)
  | invalidUrnId (value reason : String)
  | unknownInterest (value : String)
  | unknownScope (value : String)
  deriving DecidableEq, Repr

def ParseError.message : ParseError → String
  | .invalidUrn value => s!"Invalid URN: {value}"
  | .invalidUrnId value reason => s!"Invalid URN id in {value}: {reason}"
  | .unknownInterest value => s!"Unknown message interest: {value}"
  | .unknownScope value => s!"Unknown producer scope: {value}"

end FeedWatch
