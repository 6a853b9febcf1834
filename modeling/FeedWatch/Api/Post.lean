import FeedWatch.Api.Config
import FeedWatch.Api.ErrorBody
import FeedWatch.Clock

namespace FeedWatch.Api

-- What comes back for one request that was sent. A body may be missing because it
-- could not be read.
inductive Answer where
  | response (status : UInt16) (body : Option String)
  | failure (text : String)
  deriving DecidableEq, Repr

-- Every attempt sends the same request.
structure Request where
  method : String
  url : String
  accept : String
  accessToken : String
  deriving DecidableEq, Repr

-- What a call of the API does, one after the other.
inductive Move where
  | send (request : Request)
  | wait (seconds : UInt64)
  deriving DecidableEq, Repr

-- One call of the API: what it did, and how it ended.
structure Exchange where
  moves : List Move
  outcome : Except TransportError Unit

def Move.request? : Move → Option Request
  | send request => some request
  | wait _ => none

def Exchange.sent (e : Exchange) : List Request := e.moves.filterMap Move.request?

def isServerError (status : UInt16) : Bool := 500 ≤ status && status ≤ 599

-- Why an answered request counts as failed, when it is not sent again.
def refusal (path : String) (status : UInt16) (body : Option String) : TransportError :=
  match errorMessage? (body.getD "") with
  | some message => .api status message
  | none => .status "POST" path status

-- Sends the request, and after a wait once more as long as the server fails and
-- sends are left. `answer k` is what the request number `k` brings.
def sendUpTo (request : Request) (path : String) (delay : UInt64) (answer : Nat → Answer) (k : Nat) :
    Nat → Exchange
  | 0 => ⟨[], .error (.request s!"no attempt made for {path}")⟩
  | more + 1 =>
    match answer k with
    | .failure text => ⟨[.send request], .error (.http text)⟩
    | .response status body =>
      if status = 200 then ⟨[.send request], .ok ()⟩
      else if isServerError status && more != 0 then
        let rest := sendUpTo request path delay answer (k + 1) more
        ⟨.send request :: .wait delay :: rest.moves, rest.outcome⟩
      else ⟨[.send request], .error (refusal path status body)⟩

-- How often a request is sent at most: at least once.
def Config.attempts (c : Config) : Nat := max c.retryCount.toNat 1

-- The milliseconds that the waits of a call take together, which all are for the delay
-- of its configuration.
def Exchange.waitedMillis (e : Exchange) (c : Config) : Nat :=
  e.moves.count (.wait c.retryDelaySeconds) * waitSeconds c.retryDelaySeconds * 1000

-- A configuration with the address that its requests go to.
structure Endpoint where
  config : Config
  baseUrl : String
  deriving DecidableEq, Repr

-- The address is checked first. `client` tells whether an HTTP client could be had.
def Endpoint.ofConfig (config : Config) (client : Except String Unit) : Except ConfigError Endpoint := do
  let baseUrl ← config.baseUrl
  match client with
  | .ok _ => return { config, baseUrl }
  | .error text => .error (.httpClient text)

def Endpoint.request (e : Endpoint) (path : String) : Request where
  method := "POST"
  url := e.baseUrl ++ path
  accept := "application/xml"
  accessToken := e.config.accessToken

def Endpoint.post (e : Endpoint) (path : String) (answer : Nat → Answer) : Exchange :=
  sendUpTo (e.request path) path e.config.retryDelaySeconds answer 0 e.config.attempts

end FeedWatch.Api
