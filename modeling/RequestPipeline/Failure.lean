import RequestPipeline.Failure.Kind
import RequestPipeline.Http.Headers
import RequestPipeline.Http.Status
import RequestPipeline.Json.Writer
import RequestPipeline.Schema.Report
import RequestPipeline.Text.Codec
import RequestPipeline.Url.Join

/-!
# Failures

A failure has a reason, which fixes its kind and its text, and may have been caused by another one.
Failures are shared: they live in a heap and are known by their place in it, so that "the very same
failure" has a meaning and chains of causes may run in circles.
-/

namespace RequestPipeline

open Text (Str)

/-- A failure by its place in the heap. -/
abbrev FailureId := Nat

namespace Failure

/-- The text of a failure with a message: that of a missing key is the quoted key. -/
def spoken : Kind → Str → Str
  | .outside .key, message => .ofChars (Text.quotedStr message)
  | _, message => message

/-- Why a payload cannot be encoded as JSON. -/
inductive EncodingFault where
  | unknownType (typeName : String)
  | badText (fault : Text.DecodeFault)
  /-- A key with a surrogate. -/
  | torn (fault : Text.Unencodable)
  /-- A value inside too many collections. -/
  | tooDeep
  | unwritable (fault : Json.Unwritable)
  /-- An object of the caller's failed when it was asked for its value. -/
  | raised (kind : Kind) (message : Str)
  deriving DecidableEq, Repr

def EncodingFault.message : EncodingFault → Str
  | .unknownType typeName =>
    let quote := String.singleton Text.singleQuote
    s!"Unable to serialize unknown type: <class {quote}__main__.{typeName}{quote}>"
  | .badText fault => fault.message
  | .torn fault => fault.message
  | .tooDeep => "Circular reference detected (depth exceeded)"
  | .unwritable fault => fault.message
  | .raised kind message => spoken kind message

def EncodingFault.kind : EncodingFault → Kind
  | .unknownType _ => .outside .unserializable
  | .badText _ => .outside .undecodable
  | .torn _ => .outside .unencodable
  | .tooDeep => .outside .value
  | .unwritable .tooManyDigits => .outside .value
  | .unwritable _ => .outside .type
  | .raised kind _ => kind

/-- Why a configuration file cannot be used. -/
inductive FileFault where
  | json (fault : Json.Fault)
  | notAnObject
  | settings (report : Schema.Report)
  deriving DecidableEq, Repr

def FileFault.message : FileFault → String
  | .json fault => fault.message
  | .notAnObject => "expected a JSON object"
  | .settings report => report.message

/-- The reason of a failure: its kind, and the data of its message. -/
inductive Reason where
  /-- Said by a hook, a transport or a caller. -/
  | told (kind : Kind) (message : Str)
  /-- The answer has a status outside the successful ones. -/
  | answered (status : Int) (payload : Value) (message : Str)
  | invalidEndpoint (fault : UrlFault)
  | missingEndpoint (operation : String)
  | invalidParameters (operation : String) (report : Schema.Report)
  | cannotEncode (operation : String) (fault : EncodingFault)
  /-- A fault of the network ended the call to a URL. -/
  | sendFailed (method url : String) (cause : Str)
  | notJson (operation : String) (fault : Json.Fault)
  | mismatch (operation expected : String) (report : Schema.Report)
  /-- The context was cancelled, perhaps for a cause. -/
  | cancelled (because : Option Str)
  | deadlineExceeded
  | unknownLevel (name : String)
  | badFile (label path : String) (fault : FileFault)
  | badSettings (report : Schema.Report)
  | noEndpoint
  | badHeader (header : String)
  | url (fault : UrlFault)
  | json (fault : Json.Fault)
  | schema (report : Schema.Report)
  | encoding (fault : EncodingFault)
  | header (fault : EncodeFault)
  | codec (fault : Text.CodecFault)
  /-- A text with a surrogate was to be printed. -/
  | unprintable (fault : Text.Unencodable)
  /-- A redirecting answer names no URL. -/
  | badLocation (fault : UrlFault)
  | redirectLoop
  | closedConnection
  | interrupted
  /-- A value of some type stands where a mapping should. -/
  | notMapping (typeName : String)
  | noItemAssignment (typeName : String)
  | listIndex
  /-- An object of some type does not have what is asked of it. -/
  | noAttribute (typeName name : String)
  /-- A record does not have the field that is to be set. -/
  | noField (record name : String)

/-- The names of log levels, as texts list them. -/
def levelNames : List String := ["silent", "error", "debug", "debug-body", "debug-retries"]

/-- The subject of a message about an operation. -/
def subject (operation : String) : String := if operation.isEmpty then "request" else operation

/-- A text between plain quotes. -/
def between (s : String) : String :=
  let quote := String.singleton Text.singleQuote
  quote ++ s ++ quote

namespace Reason

def jsonKind : Json.Fault → OutsideKind
  | .badSyntax _ _ _ _ => .jsonSyntax
  | .tooManyDigits _ => .value
  | .undecodable _ => .undecodable

def kind : Reason → Kind
  | .told kind _ => kind
  | .answered _ _ _ => .remote
  | .invalidEndpoint _ | .missingEndpoint _ | .invalidParameters _ _ => .validation
  | .cannotEncode _ _ => .build
  | .sendFailed _ _ _ => .transport
  | .notJson _ _ | .mismatch _ _ _ => .decode
  | .cancelled _ | .deadlineExceeded => .cancelled
  | .unknownLevel _ | .badFile _ _ _ | .badSettings _ => .config
  | .noEndpoint | .badHeader _ => .usage
  | .url _ => .outside (.network .invalidUrl)
  | .json fault => .outside (jsonKind fault)
  | .schema _ => .outside .schema
  | .encoding fault => fault.kind
  | .header _ => .outside .unencodable
  | .codec fault => fault.kind
  | .unprintable _ => .outside .unencodable
  | .badLocation _ => .outside (.network .remoteProtocol)
  | .redirectLoop => .outside (.network .tooManyRedirects)
  | .closedConnection => .outside .runtime
  | .interrupted => .outside .signal
  | .notMapping _ | .noItemAssignment _ | .listIndex => .outside .type
  | .noAttribute _ _ => .outside .attribute
  | .noField _ _ => .outside .value

/-- The reason in words. -/
def message : Reason → Str
  | .told kind message => spoken kind message
  | .answered _ _ message => message
  | .invalidEndpoint fault => .ofString "invalid endpoint url: " ++ .ofChars fault.message
  | .missingEndpoint operation => s!"{subject operation}: missing endpoint"
  | .invalidParameters operation report =>
    s!"{subject operation}: invalid parameters: {report.findings.length} validation error(s)\n"
      ++ report.message
  | .cannotEncode operation fault =>
    .ofString s!"{subject operation}: cannot encode body: " ++ fault.message
  | .sendFailed method target cause => .ofString s!"{method} {target} failed: " ++ cause
  | .notJson operation fault =>
    s!"{subject operation}: response is not valid JSON: {fault.message}"
  | .mismatch operation expected report =>
    s!"{subject operation}: response does not match {expected}: {report.message}"
  | .cancelled none => "context canceled"
  | .cancelled (some cause) => .ofString "context canceled: " ++ cause
  | .deadlineExceeded => "context deadline exceeded"
  | .unknownLevel name =>
    let valid := ", ".intercalate levelNames
    s!"Unknown log level {between name} (expected one of: {valid})"
  | .badFile label path fault => s!"Invalid {label} at {path}: {fault.message}"
  | .badSettings report => s!"Invalid settings: {report.message}"
  | .noEndpoint => "No endpoint configured (use --endpoint or HOOKLINE_ENDPOINT)"
  | .badHeader given =>
    let form := between "Key: Value"
    s!"Invalid header {between given} (expected {form})"
  | .url fault => .ofChars fault.message
  | .json fault => fault.message
  | .schema report => report.message
  | .encoding fault => fault.message
  | .header fault => .ofChars fault.message
  | .codec fault => spoken fault.kind fault.message
  | .unprintable fault => fault.message
  | .badLocation fault => s!"Invalid URL in location header: {String.ofList fault.message}."
  | .redirectLoop => "Exceeded maximum allowed redirects."
  | .closedConnection => "Cannot send a request, as the client has been closed."
  | .interrupted => "130"
  | .notMapping typeName => s!"{between typeName} object is not a mapping"
  | .noItemAssignment typeName =>
    s!"{between typeName} object does not support item assignment"
  | .listIndex => "list indices must be integers or slices, not str"
  | .noAttribute typeName name => s!"{between typeName} object has no attribute {between name}"
  | .noField record name => s!"\"{record}\" object has no field \"{name}\""

/-- The reason behind a reason: what was found where a text or a value could not be used. -/
def because? : Reason → Option Reason
  | .invalidEndpoint fault => some (.url fault)
  | .invalidParameters _ report => some (.schema report)
  | .cannotEncode _ fault => some (.encoding fault)
  | .notJson _ fault => some (.json fault)
  | .mismatch _ _ report => some (.schema report)
  | .badFile _ _ (.json fault) => some (.json fault)
  | .badFile _ _ (.settings report) => some (.schema report)
  | .badSettings report => some (.schema report)
  | _ => none

end Reason

/-- What a failure says when it is asked whether it is retryable. -/
inductive Verdict where
  /-- There is no such attribute. -/
  | silent
  /-- The attribute is a method, whose result counts by its truth value. -/
  | answers (v : Value)
  /-- The attribute is there but cannot be called. -/
  | note (v : Value)

end Failure

/-- A failure, with the attributes that the exception for it has. -/
structure Failure where
  reason : Failure.Reason
  /-- The exit code of the program, if it is not that of the kind. -/
  exitCode : Option Int
  /-- The code of the failure, as an interface names it. -/
  code : Option Value
  verdict : Failure.Verdict
  cause : Option FailureId

namespace Failure

/-- A failure for a reason, with all other attributes left at their defaults. -/
def ofReason (reason : Reason) : Failure := ⟨reason, none, none, .silent, none⟩

/-- A failure for a reason with a cause. -/
def caused (reason : Reason) (cause : FailureId) : Failure :=
  ⟨reason, none, none, .silent, some cause⟩

def kind (f : Failure) : Kind := f.reason.kind

def message (f : Failure) : Str := f.reason.message

/-- The exit code of the program after this failure, if it is one of the pipeline's own. -/
def exitCode? (f : Failure) : Option Int := f.kind.exitCode?.map fun code => f.exitCode.getD code

/-- The failure of an answer outside the successful ones. -/
def ofAnswer (status : Int) (payload : Value) (message : Str) (code : Option Value) : Failure :=
  ⟨.answered status payload message, none, code, .answers (.bool (Status.isTemporary status)), none⟩

/-- The failure for a call that a fault of the network ended. -/
def ofSend (method url : String) (cause : Str) (temporary : Bool) (id : FailureId) : Failure :=
  ⟨.sendFailed method url cause, none, none, .answers (.bool temporary), some id⟩

end Failure

/-- The heap of all failures so far.  A failure with a label is found again by it. -/
structure Failures where
  all : Array Failure
  labels : List (String × FailureId)

namespace Failures

def empty : Failures := ⟨#[], []⟩

def get? (fs : Failures) (id : FailureId) : Option Failure := fs.all[id]?

/-- The text of a failure. -/
def messageOf (fs : Failures) (id : FailureId) : Str :=
  ((fs.get? id).map Failure.message).getD []

/-- Adds a failure to the heap under a new place. -/
def add (fs : Failures) (f : Failure) : FailureId × Failures :=
  (fs.all.size, { fs with all := fs.all.push f })

/-- Adds a failure for a reason, caused by one for the reason behind it. -/
def addReason (fs : Failures) (reason : Failure.Reason) : FailureId × Failures :=
  match reason.because? with
  | none => fs.add (.ofReason reason)
  | some behind =>
    let (cause, fs) := fs.add (.ofReason behind)
    fs.add (.caused reason cause)

/-- Names the cause of a failure, in place of the one it had. -/
def setCause (fs : Failures) (id : FailureId) (cause : Option FailureId) : Failures :=
  { fs with all := fs.all.modify id fun f => { f with cause } }

end Failures

/-- A failure to be made, with its cause; one with a label is made once. -/
inductive FailureSpec where
  | make (failure : Failure) (label : Option String) (cause : Option FailureSpec)

namespace Failures

/-- Makes a failure before its cause, so that the cause may lead back to it. -/
def build (fs : Failures) : FailureSpec → FailureId × Failures
  | .make failure label cause =>
    match label.bind fun l => fs.labels.lookup l with
    | some id => (id, fs)
    | none =>
      let (id, made) := fs.add failure
      let labelled := match label with
        | some l => { made with labels := (l, id) :: made.labels }
        | none => made
      match cause with
      | none => (id, labelled)
      | some spec =>
        let (causeId, done) := build labelled spec
        (id, done.setCause id (some causeId))

end Failures

end RequestPipeline
