import FeedWatch.Id
import FeedWatch.ParseError

namespace FeedWatch

inductive DirectoryError where
  | unknownProducer (id : ProducerId)
  | zeroTimestamp
  | outsideRecoveryWindow (id : ProducerId) (timestamp : Instant) (windowMinutes : UInt32)
  | unknownScope (id : ProducerId) (source : ParseError)
  deriving DecidableEq, Repr

inductive TransportError where
  | request (text : String)
  | http (text : String)
  | status (method path : String) (code : UInt16)
  | api (code : UInt16) (message : String)
  deriving DecidableEq, Repr

inductive ConfigError where
  | inactivityOutOfRange (value low high : UInt64)
  | zeroRecoveryExecution
  | recoveryExecutionTooLong (value high : UInt64)
  | zeroChannelCapacity
  | zeroTickPeriod
  | unknownEnvironment (endpoint : String)
  | httpClient (text : String)
  deriving DecidableEq, Repr

inductive RecoveryError where
  | alreadyOpened
  | closed
  | inconsistentState (producer : ProducerId) (request : RequestId)
  | eventRecoveryFailed (request : RequestId) (source : TransportError)
  | directory (source : DirectoryError)
  | transport (source : TransportError)
  | config (source : ConfigError)
  deriving DecidableEq, Repr

def DirectoryError.message : DirectoryError → String
  | .unknownProducer id => s!"missing producer {id.text}"
  | .zeroTimestamp => "required non zero timestamp"
  | .outsideRecoveryWindow id timestamp windowMinutes =>
    s!"recovery timestamp {timestamp.toInt} for producer {id.text} is older than the " ++
      s!"{windowMinutes.toNat} minute recovery window"
  | .unknownScope id source => s!"producer {id.text} has an invalid scope: {source.message}"

def TransportError.message : TransportError → String
  | .request text => s!"failed to build request: {text}"
  | .http text => s!"http error: {text}"
  | .status method path code => s!"failed to {method} {path} with status code {code.toNat}"
  | .api _ message => s!"api server returned err - {message}"

def ConfigError.message : ConfigError → String
  | .inactivityOutOfRange value low high =>
    s!"max inactivity seconds must be within [{low.toNat}, {high.toNat}], got {value.toNat}"
  | .zeroRecoveryExecution => "max recovery execution minutes must be positive"
  | .recoveryExecutionTooLong value high =>
    s!"max recovery execution minutes must be at most {high.toNat}, got {value.toNat}"
  | .zeroChannelCapacity => "message channel capacity must be positive"
  | .zeroTickPeriod => "tick period must be positive"
  | .unknownEnvironment endpoint => s!"unknown environment has no {endpoint} endpoint"
  | .httpClient text => s!"failed to build HTTP client: {text}"

def RecoveryError.message : RecoveryError → String
  | .alreadyOpened => "recovery manager already opened"
  | .closed => "recovery manager closed"
  | .inconsistentState producer request =>
    s!"inconsistent recovery state for producer {producer.text}, request {request.text}"
  | .eventRecoveryFailed request source =>
    s!"event recovery {request.text} failed: {source.message}"
  | .directory source => s!"Directory error: {source.message}"
  | .transport source => s!"Transport error: {source.message}"
  | .config source => s!"Config error: {source.message}"

end FeedWatch
