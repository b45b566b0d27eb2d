import RequestPipeline.Backoff
import RequestPipeline.Record

/-!
# Retry policies

How often a request may be attempted again, and how long it waits before that.
-/

namespace RequestPipeline

/-- The retries of one request. -/
structure RetryBudget where
  /-- Retries so far. -/
  used : Int
  limit : Int
  /-- No retry starts later than this many seconds after the first attempt; zero is no bound. -/
  maxElapsed : Float
  /-- Error codes whose failures are retried. -/
  codes : List String
  /-- The request has been marked as retryable whatever its failure. -/
  marked : Bool

namespace RetryBudget

def schema : Schema := .record "RetryConfig" [
  ("retry_count", .int .nonNegative, some (.int 0)),
  ("max_retries", .int .nonNegative, some (.int 0)),
  ("max_elapsed_time", .float .nonNegative, some (.float 0)),
  ("retry_error_codes", .listOf .str, some (.list []))]

def ofRecord (v : Value) : RetryBudget where
  used := (v.field "retry_count").asInt
  limit := (v.field "max_retries").asInt
  maxElapsed := (v.field "max_elapsed_time").asFloat
  codes := (v.field "retry_error_codes").asItems.map Value.asText
  marked := false

/-- A budget from its fields by name. -/
def ofFields (fields : Value) : Except Schema.Report RetryBudget :=
  (schema.validate "RetryConfig" fields).map ofRecord

/-- No retries. -/
def none : RetryBudget := ⟨0, 0, 0, [], false⟩

end RetryBudget

namespace Backoff

def schema : Schema := .record "DelayConfig" [
  ("initial_delay", .float .nonNegative, some (.float 1)),
  ("multiplier", .float .positive, some (.float 1)),
  ("max_delay", .float .nonNegative, some (.float 10)),
  ("jitter", .float .fraction, some (.float 0))]

def ofRecord (v : Value) : Backoff Float where
  initial := (v.field "initial_delay").asFloat
  multiplier := (v.field "multiplier").asFloat
  cap := (v.field "max_delay").asFloat
  jitter := (v.field "jitter").asFloat

/-- The record of a policy. -/
def toRecord (b : Backoff Float) : Value := .record "DelayConfig" [
  ("initial_delay", .float b.initial),
  ("multiplier", .float b.multiplier),
  ("max_delay", .float b.cap),
  ("jitter", .float b.jitter)]

/-- A policy from its fields by name. -/
def ofFields (fields : Value) : Except Schema.Report (Backoff Float) :=
  (schema.validate "DelayConfig" fields).map ofRecord

/-- A second between attempts. -/
def steady : Backoff Float := ⟨1, 1, 10, 0⟩

end Backoff

end RequestPipeline
