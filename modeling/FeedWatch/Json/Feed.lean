import FeedWatch.Interest
import FeedWatch.Json.Record
import FeedWatch.Notification

namespace FeedWatch

open Json.Reading

def ProducerId.toJson (id : ProducerId) : Json := .int id.value.toNat
def ProducerId.ofJson? (j : Json) : Option ProducerId := j.uint32?.map ProducerId.mk

def RequestId.toJson (id : RequestId) : Json := .int id.value.toNat
def RequestId.ofJson? (j : Json) : Option RequestId := j.uint32?.map RequestId.mk

def Instant.toJson (t : Instant) : Json := .int t.toInt
def Instant.ofJson? (j : Json) : Option Instant := j.int64?

def Urn.toJson (urn : Urn) : Json := .str urn.text
def Urn.ofJson? (j : Json) : Option Urn := do (Urn.parse (← j.str?)).toOption

def Scope.toJson (scope : Scope) : Json := .str scope.text
def Scope.read? : Json.WordForm → Json → Option Scope := Json.oneOf? [.live, .prematch] Scope.text
def Scope.ofJson? : Json → Option Scope := Scope.read? .plain

def Interest.word : Interest → String
  | .liveOnly => "live_only"
  | .prematchOnly => "prematch_only"
  | .hiPriorityOnly => "hi_priority_only"
  | .lowPriorityOnly => "low_priority_only"
  | .specifiedMatchesOnly => "specified_matches_only"
  | .all => "all"
  | .systemAliveOnly => "system_alive_only"

def Interest.toJson (interest : Interest) : Json := .str interest.word
def Interest.ofJson? : Json → Option Interest := Json.oneOf? Interest.everyInterest Interest.word .plain

def RecoveryState.word : RecoveryState → String
  | .default => "DEFAULT"
  | .notStarted => "NOT_STARTED"
  | .started => "STARTED"
  | .completed => "COMPLETED"
  | .interrupted => "INTERRUPTED"
  | .error => "ERROR"

def RecoveryState.toJson (state : RecoveryState) : Json := .str state.word
def RecoveryState.ofJson? : Json → Option RecoveryState :=
  Json.oneOf? [.default, .notStarted, .started, .completed, .interrupted, .error] RecoveryState.word
    .plain

def DownReason.word : DownReason → String
  | .default => "DEFAULT"
  | .aliveInterval => "ALIVE_INTERVAL_VIOLATION"
  | .queueDelay => "PROCESSING_QUEUE_DELAY_VIOLATION"
  | .other => "OTHER"

def DownReason.toJson (reason : DownReason) : Json := .str reason.word
def DownReason.ofJson? : Json → Option DownReason :=
  Json.oneOf? [.default, .aliveInterval, .queueDelay, .other] DownReason.word .plain

def UpReason.word : UpReason → String
  | .default => "DEFAULT"
  | .firstRecoveryCompleted => "FIRST_RECOVERY_COMPLETED"
  | .queueDelayStabilized => "PROCESSING_QUEUE_DELAY_STABILIZED"
  | .returnedFromInactivity => "RETURNED_FROM_INACTIVITY"

def UpReason.toJson (reason : UpReason) : Json := .str reason.word
def UpReason.ofJson? : Json → Option UpReason :=
  Json.oneOf? [.default, .firstRecoveryCompleted, .queueDelayStabilized, .returnedFromInactivity]
    UpReason.word .plain

def StatusReason.word : StatusReason → String
  | .error => "ERROR"
  | .firstRecoveryCompleted => "FIRST_RECOVERY_COMPLETED"
  | .queueDelayStabilized => "PROCESSING_QUEUE_DELAY_STABILIZED"
  | .returnedFromInactivity => "RETURNED_FROM_INACTIVITY"
  | .aliveInterval => "ALIVE_INTERVAL_VIOLATION"
  | .queueDelay => "PROCESSING_QUEUE_DELAY_VIOLATION"
  | .other => "OTHER"

def StatusReason.toJson (reason : StatusReason) : Json := .str reason.word
def StatusReason.read? : Json.WordForm → Json → Option StatusReason :=
  Json.oneOf? [.error, .firstRecoveryCompleted, .queueDelayStabilized, .returnedFromInactivity,
    .aliveInterval, .queueDelay, .other] StatusReason.word

def StatusReason.ofJson? : Json → Option StatusReason := StatusReason.read? .plain

def Stamp.toJson (s : Stamp) : Json :=
  .obj [("created", s.created.toJson), ("sent", s.sent.toJson), ("received", s.received.toJson),
    ("published", s.published.toJson)]

def Stamp.ofJson? : Json → Option Stamp := Json.record? do
  let created ← required "created" Instant.ofJson?
  let sent ← required "sent" Instant.ofJson?
  let received ← required "received" Instant.ofJson?
  let published ← required "published" Instant.ofJson?
  return { created, sent, received, published }

def Descriptor.toJson (d : Descriptor) : Json :=
  .obj [("id", d.id.toJson), ("name", .str d.name), ("description", .str d.description),
    ("api_endpoint", .str d.apiEndpoint), ("active", .bool d.active), ("scope", .str d.scope),
    ("stateful_recovery_window_minutes", .int d.windowMinutes.toNat)]

def Descriptor.ofJson? : Json → Option Descriptor := Json.record? do
  let id ← required "id" ProducerId.ofJson?
  let name ← required "name" Json.str?
  let description ← required "description" Json.str?
  let apiEndpoint ← required "api_endpoint" Json.str?
  let active ← required "active" Json.bool?
  let scope ← required "scope" Json.str?
  let windowMinutes ← required "stateful_recovery_window_minutes" Json.uint32?
  return { id, name, description, apiEndpoint, active, scope, windowMinutes }

def Attempt.toJson (a : Attempt) : Json :=
  .obj [("after", a.after.toJson), ("timestamp", a.requestedAt.toJson),
    ("request_id", a.request.toJson), ("successful", .bool a.accepted),
    ("node_id", Json.ofNullable (fun node => .int node.toInt) a.node)]

def Attempt.ofJson? : Json → Option Attempt := Json.record? do
  let after ← required "after" Instant.ofJson?
  let requestedAt ← required "timestamp" Instant.ofJson?
  let request ← required "request_id" RequestId.ofJson?
  let accepted ← required "successful" Json.bool?
  let node ← optional "node_id" Json.int32?
  return { after, requestedAt, request, accepted, node }

def Producer.toJson (p : Producer) : Json :=
  .obj [("id", p.id.toJson), ("name", .str p.name), ("description", .str p.description),
    ("api_endpoint", .str p.apiEndpoint), ("active", .bool p.active), ("enabled", .bool p.enabled),
    ("flagged_down", .bool p.flaggedDown), ("scopes", .arr (p.scopes.map Scope.toJson)),
    ("stateful_recovery_window_minutes", .int p.windowMinutes.toNat),
    ("last_message_timestamp", p.lastMessage.toJson),
    ("last_processed_message_gen_timestamp", p.lastProcessed.toJson),
    ("last_alive_received_gen_timestamp", p.lastAlive.toJson),
    ("recovery_from_timestamp", p.recoveryFrom.toJson),
    ("last_recovery_info", Json.ofNullable Attempt.toJson p.lastAttempt)]

def Producer.read? (form : Json.WordForm) : Json → Option Producer := Json.record? do
  let id ← required "id" ProducerId.ofJson?
  let name ← required "name" Json.str?
  let description ← required "description" Json.str?
  let apiEndpoint ← required "api_endpoint" Json.str?
  let active ← required "active" Json.bool?
  let enabled ← required "enabled" Json.bool?
  let flaggedDown ← required "flagged_down" Json.bool?
  let scopes ← required "scopes" (Json.list? (Scope.read? form))
  let windowMinutes ← required "stateful_recovery_window_minutes" Json.uint32?
  let lastMessage ← required "last_message_timestamp" Instant.ofJson?
  let lastProcessed ← required "last_processed_message_gen_timestamp" Instant.ofJson?
  let lastAlive ← required "last_alive_received_gen_timestamp" Instant.ofJson?
  let recoveryFrom ← required "recovery_from_timestamp" Instant.ofJson?
  let lastAttempt ← optional "last_recovery_info" Attempt.ofJson?
  return { id, name, description, apiEndpoint, active, enabled, flaggedDown, scopes, windowMinutes,
           lastMessage, lastProcessed, lastAlive, recoveryFrom, lastAttempt }

def Producer.ofJson? : Json → Option Producer := Producer.read? .plain

-- A notification has a field `type` with its label, before the fields of its kind.
def Notification.toJson : Notification → Json
  | .statusChange s =>
    .obj [("type", .str "ProducerStatus"), ("producer", s.producer.toJson),
      ("timestamp", s.stamp.toJson), ("is_down", .bool s.isDown), ("is_delayed", .bool s.isDelayed),
      ("reason", s.reason.toJson)]
  | .eventReplayed r =>
    .obj [("type", .str "EventRecovery"), ("producer", r.producer.toJson),
      ("timestamp", r.stamp.toJson), ("event_id", r.event.toJson), ("request_id", r.request.toJson)]

def Notification.ofJson? : Json → Option Notification := Json.record? do
  let label ← required "type" Json.str?
  if label = "ProducerStatus" then
    let producer ← required "producer" (Producer.read? .tagged)
    let stamp ← required "timestamp" Stamp.ofJson?
    let isDown ← required "is_down" Json.bool?
    let isDelayed ← required "is_delayed" Json.bool?
    let reason ← required "reason" (StatusReason.read? .tagged)
    return .statusChange { producer, stamp, isDown, isDelayed, reason }
  else if label = "EventRecovery" then
    let producer ← required "producer" (Producer.read? .tagged)
    let stamp ← required "timestamp" Stamp.ofJson?
    let event ← required "event_id" Urn.ofJson?
    let request ← required "request_id" RequestId.ofJson?
    return .eventReplayed { producer, stamp, event, request }
  else failure

end FeedWatch
