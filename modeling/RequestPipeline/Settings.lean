import RequestPipeline.Config
import RequestPipeline.RetryPolicy
import RequestPipeline.Settings.Surroundings

/-!
# Settings

Settings are put together from five layers: the defaults, the file of the user, the file of the
project, variables, and the command line.  What a layer does not mention stays as it is; the parts
of the delay count one by one.
-/

namespace RequestPipeline

/-- The settings of a client. -/
structure Settings where
  endpoint : String
  disableSsl : Bool
  followRedirects : Bool
  timeout : Float
  verifySsl : Bool
  maxRetries : Int
  maxElapsed : Float
  codes : List String
  delay : Backoff Float
  logLevel : String

namespace Settings

/-- Entries of a mapping under text keys. -/
abbrev Layer := List (Value × Value)

def schema : Schema := .record "ClientSettings" [
  ("endpoint", .str, some (.str "")),
  ("disable_ssl", .bool, some (.bool false)),
  ("follow_redirects", .bool, some (.bool true)),
  ("timeout", .float .positive, some (.float 30)),
  ("verify_ssl", .bool, some (.bool true)),
  ("max_retries", .int .nonNegative, some (.int 0)),
  ("max_elapsed_time", .float .nonNegative, some (.float 0)),
  ("retry_error_codes", .listOf .str, some (.list [])),
  ("delay", Backoff.schema, some Backoff.steady.toRecord),
  ("log_level", .str, some (.str "silent"))]

/-- Checks a layer against the schema of settings; a report becomes an error of the configuration.
-/
def validate (v : Value) : Except Schema.Report Value := schema.validate "ClientSettings" v

def ofRecord (v : Value) : Settings where
  endpoint := (v.field "endpoint").asText
  disableSsl := (v.field "disable_ssl").asBool
  followRedirects := (v.field "follow_redirects").asBool
  timeout := (v.field "timeout").asFloat
  verifySsl := (v.field "verify_ssl").asBool
  maxRetries := (v.field "max_retries").asInt
  maxElapsed := (v.field "max_elapsed_time").asFloat
  codes := (v.field "retry_error_codes").asItems.map Value.asText
  delay := .ofRecord (v.field "delay")
  logLevel := (v.field "log_level").asText

/-- The fields of the retry budget that settings describe. -/
def budgetFields (v : Value) : Value := .dict [
  (.str "max_retries", v.field "max_retries"),
  (.str "max_elapsed_time", v.field "max_elapsed_time"),
  (.str "retry_error_codes", v.field "retry_error_codes")]

/-- The record of the retry budget that settings describe. -/
def budgetRecord (v : Value) : Except Schema.Report Value :=
  RetryBudget.schema.validate "RetryConfig" (budgetFields v)

/-! ## Files -/

/-- Line breaks of all kinds become line feeds. -/
def unifyLines : List Char → List Char
  | '\r' :: '\n' :: rest => '\n' :: unifyLines rest
  | '\r' :: rest => '\n' :: unifyLines rest
  | c :: rest => c :: unifyLines rest
  | [] => []

/-- The JSON value of a text file. -/
def readJson (bytes : Text.Bytes) : Except Json.Fault Value :=
  match Text.decodeUtf8 bytes with
  | .error fault => .error (.undecodable fault)
  | .ok s => Json.read (.ofChars (unifyLines s))

/-- The mapping in a file, if there is a file. -/
def readFile (label path : String) : Option Text.Bytes → Except Failure.Reason (Option Layer)
  | none => .ok none
  | some bytes => match readJson bytes with
    | .error fault => .error (.badFile label path (.json fault))
    | .ok (.dict entries) => .ok (some entries)
    | .ok _ => .error (.badFile label path .notAnObject)

/-- The record of the user's settings. -/
def ofUser (s : Surroundings) : Except Failure.Reason Value := do
  let path := s.configDirectory.below "config.json"
  let shown := String.ofList path.text
  let layer ← readFile "global config" shown (s.file? path)
  (validate (.dict (layer.getD []))).mapError fun report =>
    .badFile "global config" shown (.settings report)

/-- The settings of the project, as they are written. -/
def ofProject (s : Surroundings) : Except Failure.Reason (Option Layer) :=
  readFile "project config" (s.workingDirectory ++ "/hookline.json")
    (s.file? (Path.ofText "hookline.json".toList))

/-! ## Variables and arguments -/

/-- The variables, each with the field it sets and whether that is a part of the delay. -/
def variableFields : List (String × String × Bool) := [
  ("HOOKLINE_ENDPOINT", "endpoint", false),
  ("HOOKLINE_DISABLE_SSL", "disable_ssl", false),
  ("HOOKLINE_FOLLOW_REDIRECTS", "follow_redirects", false),
  ("HOOKLINE_TIMEOUT", "timeout", false),
  ("HOOKLINE_VERIFY_SSL", "verify_ssl", false),
  ("HOOKLINE_MAX_RETRIES", "max_retries", false),
  ("HOOKLINE_MAX_ELAPSED_TIME", "max_elapsed_time", false),
  ("HOOKLINE_LOG_LEVEL", "log_level", false),
  ("HOOKLINE_INITIAL_DELAY", "initial_delay", true),
  ("HOOKLINE_MULTIPLIER", "multiplier", true),
  ("HOOKLINE_MAX_DELAY", "max_delay", true),
  ("HOOKLINE_JITTER", "jitter", true)]

/-- The parts of the delay. -/
def delayFields : List String := ["initial_delay", "multiplier", "max_delay", "jitter"]

/-- The value of a variable that is set and not empty. -/
def filled? (s : Surroundings) (name : String) : Option String :=
  match s.setting? name with
  | none | some "" => none
  | some value => some value

/-- The codes of a list with commas in it. -/
def splitCodes (s : List Char) : List Value :=
  ((Url.splitAll ',' s).map Text.trim |>.filter fun code => !code.isEmpty).map fun code =>
    .str (.ofChars code)

/-- Puts a part of the delay into a layer whose delay is a mapping. -/
def putDelay (layer : Layer) (key : String) (value : Value) : Except Failure.Reason Layer :=
  match (Value.lookupKey layer "delay").getD (.dict []) with
  | .dict entries =>
    .ok (Value.putEntry layer (.str "delay") (.dict (Value.putEntry entries (.str key) value)))
  | .list _ => .error .listIndex
  | v => .error (.noItemAssignment (Json.typeName v))

/-- The layer of the variables. -/
def ofVariables (s : Surroundings) : Except Failure.Reason Layer := do
  let layer ← variableFields.foldlM (fun layer (name, key, inDelay) =>
    match filled? s name with
    | none => .ok layer
    | some value =>
      if inDelay then putDelay layer key (.str value)
      else .ok (Value.putEntry layer (.str key) (.str value))) []
  match filled? s "HOOKLINE_RETRY_ERROR_CODES" with
  | none => pure layer
  | some codes =>
    pure (Value.putEntry layer (.str "retry_error_codes") (.list (splitCodes codes.toList)))

/-- The layer of arguments by name; null stands for an argument that was not given. -/
def ofArguments (arguments : List (String × Value)) : Except Failure.Reason Layer :=
  arguments.foldlM (fun layer (key, value) =>
    match value with
    | .null => .ok layer
    | value =>
      if delayFields.contains key then putDelay layer key value
      else .ok (Value.putEntry layer (.str key) value)) []

/-! ## All layers -/

/-- The entries of a mapping over those of another one. -/
def overlay (base layer : Layer) : Layer :=
  layer.foldl (fun acc (k, v) => Value.putEntry acc k v) base

/-- The parts of a delay, if the entry gives a delay as a mapping. -/
def delayParts? : Value × Value → Option Layer
  | (.str key, .dict parts) => if key = Text.Str.ofString "delay" then some parts else none
  | _ => none

/-- Puts one entry of a layer over a base: a delay that is a mapping over the delay there, anything
else in its place. -/
def mergeEntry (base : Layer) (entry : Value × Value) : Except Failure.Reason Layer :=
  match delayParts? entry with
  | some parts =>
    match (Value.lookupKey base "delay").getD (.dict []) with
    | .dict below => .ok (Value.putEntry base (.str "delay") (.dict (overlay below parts)))
    | v => .error (.notMapping (Json.typeName v))
  | none => .ok (Value.putEntry base entry.1 entry.2)

/-- A layer over the ones below it. -/
def merge (base layer : Layer) : Except Failure.Reason Layer := layer.foldlM mergeEntry base

/-- The entries of a record. -/
def entriesOf (v : Value) : Layer :=
  match v.dumped with
  | .dict entries => entries
  | _ => []

/-- The record of the settings: the layers of user, project, variables and arguments, each over the
ones before, checked at the end. -/
def resolve (s : Surroundings) (arguments : List (String × Value)) :
    Except Failure.Reason Value := do
  let user ← ofUser s
  let project ← ofProject s
  let withProject ← merge (entriesOf user) (project.getD [])
  let setHere ← ofVariables s
  let withVariables ← merge withProject setHere
  let typed ← ofArguments arguments
  let all ← merge withVariables typed
  (validate (.dict all)).mapError .badSettings

end Settings

end RequestPipeline
