import FeedWatch.Error
import FeedWatch.Json.Record

namespace FeedWatch.Api

inductive Environment where
  | unknown
  | integration
  | production
  | test
  deriving DecidableEq, Repr

namespace Environment

def host : Environment → Except ConfigError String
  | integration => .ok "api-mq.integration.oddin.gg"
  | production => .ok "api-mq.oddin.gg"
  | test => .ok "api-mq-test.integration.oddin.gg"
  | unknown => .error (.unknownEnvironment "api")

def word : Environment → String
  | unknown => "unknown"
  | integration => "integration"
  | production => "production"
  | test => "test"

def ofJson? : Json → Option Environment :=
  Json.oneOf? [unknown, integration, production, test] word .plain

end Environment

structure Config where
  environment : Environment
  -- instead of the environment's host, with its scheme
  forcedUrl : Option String := none
  accessToken : String
  version : String := "v1"
  timeoutSeconds : UInt64 := 10
  retryCount : UInt32 := 3
  retryDelaySeconds : UInt64 := 10
  deriving DecidableEq, Repr

namespace Config

def withoutEndSlashes (url : String) : String :=
  String.ofList (url.toList.reverse.dropWhile (· = '/')).reverse

-- What stands before the path of every request.
def baseUrl (c : Config) : Except ConfigError String := do
  let root ← match c.forcedUrl with
    | some url => .ok (withoutEndSlashes url)
    | none => (c.environment.host).map ("https://" ++ ·)
  return root ++ "/" ++ c.version

def toJson (c : Config) : Json :=
  .obj [("environment", .str c.environment.word), ("forced_api_url", Json.ofNullable .str c.forcedUrl),
    ("access_token", .str c.accessToken), ("api_version", .str c.version),
    ("timeout_secs", .int c.timeoutSeconds.toNat), ("retry_count", .int c.retryCount.toNat),
    ("retry_delay_secs", .int c.retryDelaySeconds.toNat)]

open Json.Reading in
def ofJson? : Json → Option Config := Json.record? do
  let environment ← required "environment" Environment.ofJson?
  let forcedUrl ← optional "forced_api_url" Json.str?
  let accessToken ← required "access_token" Json.str?
  let version ← required "api_version" Json.str?
  let timeoutSeconds ← required "timeout_secs" Json.uint64?
  let retryCount ← required "retry_count" Json.uint32?
  let retryDelaySeconds ← required "retry_delay_secs" Json.uint64?
  return { environment, forcedUrl, accessToken, version, timeoutSeconds, retryCount,
           retryDelaySeconds }

end Config

end FeedWatch.Api
