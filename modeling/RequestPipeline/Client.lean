import RequestPipeline.Pipeline
import RequestPipeline.Settings

/-!
# Clients

A client makes requests that share a configuration, a template of hooks and a retry policy.  Each
request has its own copies of them.  While the client is open its requests share connections, which
are closed with it; a client that is not open leaves connections to its requests.
-/

namespace RequestPipeline

/-- What requests share; `κ` are the callbacks of the hooks. -/
structure Client (κ : Type) where
  config : Config
  hooks : Hooks κ
  policy : Backoff Float
  budget : RetryBudget
  /-- Random numbers for the lengths of waits. -/
  source : Nat → Float
  /-- How many of them have been drawn. -/
  drawn : Nat
  /-- The connections of an open client. -/
  pool : Option ConnectionId

namespace Client

variable {κ μ : Type}

/-- A client that is not open. -/
def create (config : Config) (hooks : Hooks κ) (policy : Backoff Float) (budget : RetryBudget)
    (source : Nat → Float) : Client κ :=
  ⟨config, hooks, policy, budget, source, 0, none⟩

/-- The configuration that settings describe, for a level of logging; what is logged goes to the
diagnostics. -/
def configOf (s : Settings) (level : LogLevel) : Config where
  endpoint := s.endpoint
  serviceName := ""
  disableSsl := s.disableSsl
  disableFollowRedirects := !s.followRedirects
  verifySsl := s.verifySsl
  timeout := s.timeout
  connection := none
  logLevel := level
  logger := if level = LogLevel.silent then none else some .output
  requestId := ""

/-- The retries that settings allow. -/
def budgetOf (s : Settings) : RetryBudget := ⟨0, s.maxRetries, s.maxElapsed, s.codes, false⟩

/-- The client that settings describe. -/
def ofSettings (s : Settings) (hooks : Hooks κ) (source : Nat → Float) :
    Except Failure.Reason (Client κ) := do
  let level ← LogLevel.parse s.logLevel.toList
  pure (create (configOf s level) hooks s.delay (budgetOf s) source)

/-! ## Opening and closing -/

/-- Opens connections, unless the configuration brings its own. -/
def start (c : Client κ) (w : World μ) : Client κ × World μ :=
  match c.config.connection with
  | some _ => (c, w)
  | none =>
    ({ c with pool := some w.connections.size },
      { w with
        connections := w.connections.push true
        events := .opened c.config.verifySsl (some c.config.timeout) :: w.events })

/-- Closes the connections of the client, if it is open. -/
def stop (c : Client κ) (w : World μ) : Client κ × World μ :=
  match c.pool with
  | none => (c, w)
  | some id =>
    ({ c with pool := none },
      { w with
        connections := w.connections.setIfInBounds id false
        events := .closed :: w.events })

/-! ## Requests -/

/-- The retryer of a new request: none if no retries are allowed. -/
def newRetryer (c : Client κ) : Retryer :=
  if c.budget.limit = 0 then .never else .backoff (.start c.policy c.source)

/-- The configuration of a new request. -/
def requestConfig (c : Client κ) : Config :=
  { c.config with connection := c.pool.or c.config.connection }

/-- A request before its options are applied. -/
def blankRequest (c : Client κ) (operation : Operation) (params : Value) (output : Option Output)
    (w : World μ) : Session κ μ :=
  let (request, failures) := Request.create c.requestConfig c.hooks operation params .null output
    c.newRetryer w.failures
  { world := { w with failures }, request := { request with budget := c.budget } }

/-- A new request with its options. -/
def newRequest (c : Client κ) (operation : Operation) (params : Value) (output : Option Output)
    (options : List RequestOption) (w : World μ) : Except Stop Unit × Session κ μ :=
  (Step.applyOptions options).run (c.blankRequest operation params output w)

/-- Sends a request with the random numbers that no request has drawn yet. -/
def send (perform : κ → Step κ μ Unit) (limit : Nat) (c : Client κ) (s : Session κ μ) :
    Except Stop Value × Session κ μ × Client κ :=
  let ready := { s with request := { s.request with retryer := s.request.retryer.resume c.drawn } }
  let (outcome, done) := (Request.send perform limit).run ready
  (outcome, done, { c with drawn := done.request.retryer.drawn?.getD c.drawn })

/-- Makes a request and sends it. -/
def call (perform : κ → Step κ μ Unit) (limit : Nat) (c : Client κ) (operation : Operation)
    (params : Value) (output : Option Output) (options : List RequestOption)
    (context : Option Context) (w : World μ) : Except Stop Value × World μ × Client κ :=
  match c.newRequest operation params output options w with
  | (.error stop, s) => (.error stop, s.world, c)
  | (.ok (), s) =>
    let s := { s with request := { s.request with context := context.getD .background } }
    let (outcome, done, c) := c.send perform limit s
    (outcome, done.world, c)

end Client

end RequestPipeline
