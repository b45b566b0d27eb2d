import RequestPipeline.Json.Plain
import RequestPipeline.Transport

/-!
# Core hooks

The hooks of a request that speaks JSON over HTTP: the endpoint is checked and completed, the input
encoded, the message sent, and the answer decoded.
-/

namespace RequestPipeline

open Text (Bytes Str)
open Failure (EncodingFault)

/-- The hooks that come with the library. -/
inductive CoreHook where
  | validateEndpoint
  /-- The input is adapted to a type. -/
  | validateParams (expected : Output)
  | resolveEndpoint
  | encodeBody
  | basicAuth (user password : String)
  | send
  | unmarshal
  | logRequest
  | logResponse
  | closeResponse

namespace CoreHook

open Step

variable {κ μ : Type}

/-- The name of the hook in its list. -/
def name : CoreHook → String
  | .validateEndpoint => "core.ValidateEndpoint"
  | .validateParams _ => "core.ValidateParams"
  | .resolveEndpoint => "core.ResolveEndpoint"
  | .encodeBody => "core.EncodeJSONBody"
  | .basicAuth _ _ => "core.BasicAuth"
  | .send => "core.SendHook"
  | .unmarshal => "core.UnmarshalJSON"
  | .logRequest => "core.LogHTTPRequest"
  | .logResponse => "core.LogHTTPResponse"
  | .closeResponse => "core.CloseResponse"

/-- Makes a failure for a reason and records it as the error of the request. -/
def reject (reason : Failure.Reason) : Step κ μ Unit := do
  let id ← explain reason
  setError id

/-! ## Validate and build -/

def checkEndpoint : Step κ μ Unit := do
  let r ← getRequest
  if r.config.endpoint.isEmpty then reject (.missingEndpoint r.operation.name)

def checkParams (expected : Output) : Step κ μ Unit := do
  let r ← getRequest
  match expected.adapt r.params with
  | .ok params => modifyRequest fun r => { r with params }
  | .error (.report report) => reject (.invalidParameters r.operation.name report)
  | .error (.raised kind message) => fail (.told kind message)

/-- Puts a scheme in front of the endpoint and computes the target again. -/
def resolve : Step κ μ Unit :=
  modifyRequest fun r =>
    let endpoint := String.ofList (Url.withScheme r.config.endpoint.toList r.config.disableSsl)
    { r with config.endpoint := endpoint, url := Request.target endpoint r.operation.path }

/-- Sets a header field; one that cannot be set stops the hook. -/
def setHeader (name value : List Char) : Step κ μ Unit := do
  let r ← getRequest
  let headers ← orFail ((r.headers.set? name value).mapError .header)
  modifyRequest fun r => { r with headers }

/-- Writes the input as the body: binary data as it is, all else by `bodyOf`.  Of the failures of
`bodyOf` those about values and types are recorded, and all others stop the hook. -/
def encodeWith (bodyOf : Value → Except EncodingFault Bytes) : Step κ μ Unit := do
  let r ← getRequest
  match r.params with
  | .null => pure ()
  | .bytes body => modifyRequest fun r => { r with body := some body }
  | params => match bodyOf params with
    | .error fault =>
      if fault.kind.isBadArgument then reject (.cannotEncode r.operation.name fault)
      else fail (.encoding fault)
    | .ok body => do
      modifyRequest fun r => { r with body := some body }
      setHeader "Content-Type".toList "application/json".toList

/-- Writes the input as JSON. -/
def encode : Step κ μ Unit := encodeWith Json.body

def authorize (user password : String) : Step κ μ Unit :=
  setHeader "Authorization".toList (Transmission.basicAuth user.toList password.toList)

/-! ## Send -/

/-- The timeout of an attempt: that of the configuration, or the time left up to the deadline of the
context if that is less. -/
def timeLeft (r : Request κ) (now : Float) : Float :=
  match r.context.remaining? now with
  | some left => if left < r.config.timeout then left else r.config.timeout
  | none => r.config.timeout

/-- Records a fault of the network as a transport error with the fault as its cause.  If the context
has ended, the failure for that is recorded in its place. -/
def handleFault (id : FailureId) (fault : Failure.NetworkFault) : Step κ μ Unit := do
  match ← cancellation? with
  | some cancelled => do
    setCause cancelled id
    setError cancelled
  | none => do
    let r ← getRequest
    let text ← messageOf id
    let failure ← makeFailure (.ofSend r.method r.url text fault.isTemporary id)
    setError failure

/-- The fault of the network, if that is the kind of the failure in the heap. -/
def faultOf? (failures : Failures) (id : FailureId) : Option Failure.NetworkFault :=
  match (failures.get? id).map Failure.kind with
  | some (.outside (.network fault)) => some fault
  | _ => none

/-- Sends the request over the connection pool of its configuration, or over a new one that is
closed behind the call. -/
def call (timeout : Float) : Step κ μ Response := do
  let r ← getRequest
  match r.config.connection with
  | none => Transport.withOwnConnection r.config.verifySsl (Transport.send none timeout)
  | some id => Transport.send (some id) timeout

/-- The send hook: keeps the answer as the response of the request, or records a fault of the
network as its error.  Any other failure stops the hook. -/
def transmit : Step κ μ Unit := do
  let r ← getRequest
  let time ← now
  try
    let response ← call (timeLeft r time)
    modifyRequest fun r => { r with response := some response }
  catch
    | .raised id => do
      let w ← getWorld
      match faultOf? w.failures id with
      | some fault => handleFault id fault
      | none => raise id
    | .unfinished => throw .unfinished

/-! ## Unmarshal -/

/-- The payload of an answer with an error status: its JSON value, or its text if the body is no
JSON. -/
def payloadOf (response : Response) : Except Text.CodecFault Value :=
  if response.body.isEmpty then .ok .null
  else match response.json with
    | .ok v => .ok v
    | .error _ => response.text.map .str

/-- The keys of a JSON payload that are tried for an error message, in this order. -/
def messageKeys : List String := ["errorMessage", "message", "error", "detail"]

/-- The keys of a JSON payload that are tried for an error code, in this order. -/
def codeKeys : List String := ["errorCode", "error_code", "code"]

/-- The error message in a payload: the first message key with a value that counts as true, or the
first 200 characters of a payload that is no mapping. -/
def detailOf (payload : Value) : Str :=
  match payload with
  | .dict entries =>
    let found := messageKeys.findSome? fun key : String =>
      match Value.lookupKey entries key with
      | some v => if v.truthy then some v.text else none
      | none => none
    found.getD []
  | v => if v.truthy then v.text.take 200 else []

/-- The message for an answer with an error status. -/
def answerMessage (status : Int) (payload : Value) : Str :=
  let detail := detailOf payload
  if detail.isEmpty then s!"HTTP {status}" else .ofString s!"HTTP {status}: " ++ detail

/-- The error code in a payload, as text. -/
def codeOf (payload : Value) : Option Str :=
  match payload with
  | .dict entries => codeKeys.findSome? fun key : String =>
    match Value.lookupKey entries key with
    | none | some .null => none
    | some v => some v.text
  | _ => none

/-- The failure for an answer with an error status. -/
def answerFailure (response : Response) : Except Text.CodecFault Failure :=
  (payloadOf response).map fun payload =>
    .ofAnswer response.status payload (answerMessage response.status payload)
      ((codeOf payload).map .str)

/-- The unmarshal hook: decodes the JSON of a successful answer into the data of the request,
through the adapter of the output type if there is one.  An error status, a body that is no JSON and
a value that does not fit are recorded as the error of the request. -/
def decode : Step κ μ Unit := do
  let r ← getRequest
  match r.response with
  | none => pure ()
  | some response =>
    if !response.isSuccess then do
      let failure ← orFail ((answerFailure response).mapError .codec)
      let id ← makeFailure failure
      setError id
    else if response.body.isEmpty then pure ()
    else match response.json with
      | .error fault => reject (.notJson r.operation.name fault)
      | .ok body => match r.output with
        | none => modifyRequest fun r => { r with data := body }
        | some output => match output.adapt body with
          | .ok data => modifyRequest fun r => { r with data }
          | .error (.report report) => reject (.mismatch r.operation.name output.name report)
          | .error (.raised kind message) => fail (.told kind message)

/-! ## Logging -/

/-- Header fields a line each. -/
def fieldLines (h : Headers) : List Str :=
  h.items.map fun (name, value) => .ofChars (name ++ ':' :: ' ' :: value)

/-- Lines with line breaks between them. -/
def lines (texts : List Str) : Str := (Str.ofChars ['\n']).intercalate texts

/-- Whether the request logs its messages: it has a logger, and its level is at least that of
debugging. -/
def logsTraffic (r : Request κ) : Bool :=
  r.config.logLevel.atLeast LogLevel.debug && r.config.logger.isSome

def logRequestLines : Step κ μ Unit := do
  let r ← getRequest
  if logsTraffic r then do
    modifyRequest fun r => { r with headers := r.headers.read }
    let body := r.body.getD []
    let bodyLines := if r.config.logLevel.covers LogLevel.debugBody && !body.isEmpty then
        [[], Str.ofChars (Text.decodeUtf8Lossy body)]
      else []
    let first : Str := s!"{r.method} {r.url}"
    log (.ofString s!"DEBUG: {r.operation.name}, "
      ++ lines (first :: fieldLines r.headers ++ bodyLines))

def logResponseLines : Step κ μ Unit := do
  let r ← getRequest
  if logsTraffic r then
    match r.response with
    | none => pure ()
    | some response => do
      let bodyLines ←
        if r.config.logLevel.covers LogLevel.debugBody && !response.body.isEmpty then do
          let text ← orFail (response.text.mapError .codec)
          pure [[], text]
        else pure []
      let status := s!"HTTP {response.status} {Status.phrase response.status}".toList
      let first := Str.ofChars (Text.trimEndWhere Text.isBlank status)
      log (.ofString s!"DEBUG: {r.operation.name} response, "
        ++ lines (first :: fieldLines response.headers ++ bodyLines))

/-! ## All together -/

/-- The step that each core hook takes on the request of the session. -/
def perform : CoreHook → Step κ μ Unit
  | .validateEndpoint => checkEndpoint
  | .validateParams expected => checkParams expected
  | .resolveEndpoint => resolve
  | .encodeBody => encode
  | .basicAuth user password => authorize user password
  | .send => transmit
  | .unmarshal => decode
  | .logRequest => logRequestLines
  | .logResponse => logResponseLines
  | .closeResponse => pure ()

/-- The hook under its name, as a callback of some kind. -/
def named (embed : CoreHook → κ) (h : CoreHook) : HookList.Entry κ := .hook ⟨h.name, embed h⟩

/-- The default hooks: JSON in both directions, with the traffic logged. -/
def template (embed : CoreHook → κ) : Hooks κ where
  validate := .ofEntries [named embed .validateEndpoint]
  build := .ofEntries [named embed .resolveEndpoint, named embed .encodeBody]
  send := .ofEntries [named embed .logRequest, named embed .send]
  unmarshal := .ofEntries [named embed .logResponse, named embed .unmarshal]
  retry := .empty
  complete := .ofEntries [named embed .closeResponse]

end CoreHook

end RequestPipeline
