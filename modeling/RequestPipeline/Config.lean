import RequestPipeline.LogLevel
import RequestPipeline.Record

/-!
# Configuration of requests

Where a request goes and how: the endpoint, the security of the connection, the time it may take,
and what is logged to whom.
-/

namespace RequestPipeline

/-- Where the lines of a log go.  A logger of the caller is a sink: it takes the line and returns,
and nothing that it does with the line comes back to the request. -/
inductive Logger where
  /-- A function of the caller, which keeps the lines. -/
  | recorder
  /-- The output for diagnostics. -/
  | output
  deriving DecidableEq, Repr

/-- A connection pool by its place among all of them. -/
abbrev ConnectionId := Nat

/-- The configuration of a request. -/
structure Config where
  endpoint : String
  serviceName : String
  /-- An endpoint without a scheme is reached without encryption. -/
  disableSsl : Bool
  disableFollowRedirects : Bool
  verifySsl : Bool
  timeout : Float
  /-- The connections to use; without them every attempt opens its own. -/
  connection : Option ConnectionId
  logLevel : LogLevel
  logger : Option Logger
  requestId : String
  deriving Repr

namespace Config

/-- The values of the log levels that have names. -/
def levels : List Int :=
  [LogLevel.silent, LogLevel.error, LogLevel.debug, LogLevel.debugBody, LogLevel.debugRetries]

/-- The number of bits of a log level. -/
def levelSpan : Nat := 14

def schema : Schema := .record "Config" [
  ("endpoint", .str, some (.str "")),
  ("service_name", .str, some (.str "")),
  ("disable_ssl", .bool, some (.bool false)),
  ("disable_follow_redirects", .bool, some (.bool false)),
  ("verify_ssl", .bool, some (.bool true)),
  ("timeout", .float .positive, some (.float 30)),
  ("http_client", .optional (.handle "Client"), some .null),
  ("log_level", .flags levels levelSpan, some (.int 0)),
  ("logger", .any, some .null),
  ("request_id", .str, some (.str ""))]

/-- The configuration of a record, without connections and logger. -/
def ofRecord (v : Value) : Config where
  endpoint := (v.field "endpoint").asText
  serviceName := (v.field "service_name").asText
  disableSsl := (v.field "disable_ssl").asBool
  disableFollowRedirects := (v.field "disable_follow_redirects").asBool
  verifySsl := (v.field "verify_ssl").asBool
  timeout := (v.field "timeout").asFloat
  connection := none
  logLevel := (v.field "log_level").asInt.toNat
  logger := none
  requestId := (v.field "request_id").asText

/-- The configuration that leaves all but the endpoint to the defaults. -/
def plain (endpoint : String) : Config where
  endpoint
  serviceName := ""
  disableSsl := false
  disableFollowRedirects := false
  verifySsl := true
  timeout := 30
  connection := none
  logLevel := LogLevel.silent
  logger := none
  requestId := ""

/-- A configuration from its fields by name. -/
def ofFields (fields : Value) : Except Schema.Report Config :=
  (schema.validate "Config" fields).map ofRecord

end Config

end RequestPipeline
