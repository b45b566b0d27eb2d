import RequestPipeline.Config
import RequestPipeline.Context
import RequestPipeline.Hook
import RequestPipeline.Http.Response
import RequestPipeline.Operation
import RequestPipeline.Retryer
import RequestPipeline.Url.Endpoint

/-!
# Requests

A request carries all that one remote call needs: its configuration, its own copy of the hooks, the
operation and its input, the parts of the message to send, and what came of it.
-/

namespace RequestPipeline

open Text (Bytes Str)

/-- How far a request has come. -/
inductive Stage where
  | created
  | validated
  | built
  | sent
  | unmarshalled
  | completed
  | failed
  deriving DecidableEq, Repr

def Stage.name : Stage → String
  | .created => "created"
  | .validated => "validated"
  | .built => "built"
  | .sent => "sent"
  | .unmarshalled => "unmarshalled"
  | .completed => "completed"
  | .failed => "failed"

/-- Why an adapter gives no value: a validation report, or a failure of another kind that a
validator of the caller raised. -/
inductive AdapterFault where
  | report (report : Schema.Report)
  | raised (kind : Failure.Kind) (message : Str)
  deriving DecidableEq, Repr

/-- A named type that values are adapted to.  The adapter may run code of the caller, so it is any
function from a value to one of the type. -/
structure Output where
  name : String
  adapt : Value → Except AdapterFault Value

/-- The type of values that a schema describes. -/
def Output.ofSchema (name title : String) (schema : Schema) : Output where
  name
  adapt v := (schema.validate title v).mapError .report

/-- An HTTP request as it is sent. -/
structure Transmission where
  method : String
  url : Url
  headers : Headers
  body : Bytes
  timeout : Float

/-- A request: its configuration and hooks, what the hooks have made of its input, and where its
pipeline stands. -/
structure Request (κ : Type) where
  config : Config
  hooks : Hooks κ
  operation : Operation
  params : Value
  data : Value
  output : Option Output
  retryer : Retryer
  budget : RetryBudget
  error : Option FailureId
  stage : Stage
  method : String
  url : String
  headers : Headers
  body : Option Bytes
  /-- The message of the latest attempt. -/
  transmission : Option Transmission
  response : Option Response
  /-- The time of the first attempt. -/
  firstAttempt : Option Float
  context : Context
  built : Bool

/-- An option for a request, which is applied before it is sent. -/
inductive RequestOption where
  | header (name value : String)
  | logLevel (level : LogLevel)
  | logger (logger : Logger)
  | serviceName (name : String)
  | requestId (id : String)
  | connection (id : ConnectionId)

namespace Request

/-- The target of the request. -/
def target (endpoint path : String) : String :=
  String.ofList (Url.joinPath endpoint.toList path.toList)

/-- The fault of an endpoint that is no URL. -/
def endpointFault? (endpoint : String) : Option UrlFault :=
  match Url.read endpoint.toList with
  | .ok _ => none
  | .error fault => some fault

/-- A request over a template of hooks.  An endpoint that is no URL makes it fail at once. -/
def create {κ : Type} (config : Config) (hooks : Hooks κ) (operation : Operation)
    (params data : Value) (output : Option Output) (retryer : Retryer) (failures : Failures) :
    Request κ × Failures :=
  let request : Request κ :=
    { config, hooks, operation, params, data, output, retryer
      budget := .none
      error := none
      stage := .created
      method := operation.method
      url := target config.endpoint operation.path
      headers := .empty
      body := none
      transmission := none
      response := none
      firstAttempt := none
      context := .background
      built := false }
  match endpointFault? config.endpoint with
  | none => (request, failures)
  | some fault =>
    let (id, failures) := failures.addReason (.invalidEndpoint fault)
    ({ request with error := some id, stage := .failed }, failures)

/-- The request after an option. -/
def withOption {κ : Type} (r : Request κ) : RequestOption → Except EncodeFault (Request κ)
  | .header name value => do
    let headers ← r.headers.set? name.toList value.toList
    pure { r with headers }
  | .logLevel level => .ok { r with config.logLevel := level }
  | .logger logger => .ok { r with config.logger := some logger }
  | .serviceName name => .ok { r with config.serviceName := name }
  | .requestId id => .ok { r with config.requestId := id }
  | .connection id => .ok { r with config.connection := some id }

/-- The request as a value shows it. -/
def describe {κ : Type} (r : Request κ) : String :=
  let quoted (s : String) := String.ofList (Text.quoted s.toList)
  s!"Request(operation={quoted r.operation.name}, method={quoted r.method}, " ++
    s!"url={quoted r.url}, state={quoted r.stage.name})"

end Request

end RequestPipeline
