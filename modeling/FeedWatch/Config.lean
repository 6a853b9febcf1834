import FeedWatch.Error
import FeedWatch.Json.Record

namespace FeedWatch

structure Config where
  -- the longest silence of the system alives, and the longest lag of the messages
  -- and of the alives of the user's sessions
  maxInactivitySeconds : UInt64 := 20
  -- the longest run of a full recovery, and how far back one may start
  maxRecoveryMinutes : UInt64 := 360
  -- sent along with requests, so that the replay reaches this node only
  node : Option Int32 := none
  -- from opening to the first period of health checks
  initialDelaySeconds : UInt64 := 60
  tickSeconds : UInt64 := 10
  -- how many notifications the stream holds
  capacity : UInt64 := 64
  deriving DecidableEq, Repr, Inhabited

namespace Config

def minInactivitySeconds : UInt64 := 10

def maxInactivitySecondsAllowed : UInt64 := 180

-- one week
def maxRecoveryMinutesAllowed : UInt64 := 7 * 24 * 60

-- The first limit that makes no sense is the error.
def validate (c : Config) : Except ConfigError Unit :=
  if c.maxInactivitySeconds < minInactivitySeconds ∨
      maxInactivitySecondsAllowed < c.maxInactivitySeconds then
    .error (.inactivityOutOfRange c.maxInactivitySeconds minInactivitySeconds
      maxInactivitySecondsAllowed)
  else if c.maxRecoveryMinutes = 0 then .error .zeroRecoveryExecution
  else if maxRecoveryMinutesAllowed < c.maxRecoveryMinutes then
    .error (.recoveryExecutionTooLong c.maxRecoveryMinutes maxRecoveryMinutesAllowed)
  else if c.capacity = 0 then .error .zeroChannelCapacity
  else if c.tickSeconds = 0 then .error .zeroTickPeriod
  else .ok ()

-- Seconds are read as a signed number, so the result is right below 2^63 only. A
-- valid configuration is far below that.
def maxInactivityMillis (c : Config) : Int64 := c.maxInactivitySeconds.toInt64 * 1000

def maxRecoveryMillis (c : Config) : Int64 := c.maxRecoveryMinutes.toInt64 * 60000

def toJson (c : Config) : Json :=
  .obj [("max_inactivity_seconds", .int c.maxInactivitySeconds.toNat),
    ("max_recovery_execution_minutes", .int c.maxRecoveryMinutes.toNat),
    ("sdk_node_id", Json.ofNullable (fun node => .int node.toInt) c.node),
    ("initial_delay_secs", .int c.initialDelaySeconds.toNat),
    ("tick_period_secs", .int c.tickSeconds.toNat),
    ("message_channel_capacity", .int c.capacity.toNat)]

open Json.Reading in
-- A limit that is left out has its default.
def ofJson? : Json → Option Config := Json.record? do
  let d : Config := {}
  let maxInactivitySeconds ←
    withDefault "max_inactivity_seconds" d.maxInactivitySeconds Json.uint64?
  let maxRecoveryMinutes ←
    withDefault "max_recovery_execution_minutes" d.maxRecoveryMinutes Json.uint64?
  let node ← withDefault "sdk_node_id" d.node (Json.nullable? Json.int32?)
  let initialDelaySeconds ← withDefault "initial_delay_secs" d.initialDelaySeconds Json.uint64?
  let tickSeconds ← withDefault "tick_period_secs" d.tickSeconds Json.uint64?
  let capacity ← withDefault "message_channel_capacity" d.capacity Json.uint64?
  return { maxInactivitySeconds, maxRecoveryMinutes, node, initialDelaySeconds, tickSeconds,
           capacity }

end Config

end FeedWatch
