import RequestPipeline.Session

/-!
# The transport

A request becomes a message, the message goes out, and the answer may lead to another message
elsewhere.
-/

namespace RequestPipeline

open Text (Bytes)

namespace Transmission

/-- Methods that announce the length of an empty body. -/
def announcesLength (method : String) : Bool :=
  method == "POST" || method == "PUT" || method == "PATCH"

/-- Adds the `Host` field and, for methods that announce it, the length of an empty body, in front
of the fields there are. -/
def completed (method : String) (url : Url) (h : Headers) : Headers :=
  let host := if h.contains "host" || url.host.isEmpty then []
    else [⟨"host".toList, url.netLocation⟩]
  let hasLength := h.contains "content-length" || h.contains "transfer-encoding"
  let length := if !hasLength && announcesLength method then
      [⟨"content-length".toList, ['0']⟩]
    else []
  ⟨host ++ length ++ h.fields, none⟩

/-- Adds a `Cookie` field unless there is one.  The fields are looked at for that, which fixes their
character set. -/
def withCookie (h : Headers) : Option (List Char) → Except EncodeFault Headers
  | none => .ok h
  | some cookie => if h.contains "cookie" then .ok h.read else h.read.set? "cookie".toList cookie

/-- The message to a target: the fields given take the place of those among `defaults` under the
same names, and `cookie?` gives the cookie for the target. -/
def ofParts (defaults : Headers) (cookie? : Url → Option (List Char)) (method target : String)
    (headers : Headers) (body : Option Bytes) (timeout : Float) :
    Except Failure.Reason Transmission := do
  let url ← (Url.read target.toList).mapError .url
  let url := url.rooted
  let merged ← (defaults.update? headers).mapError .header
  let merged ← (withCookie merged (cookie? url)).mapError .header
  let method := String.ofList (Text.upper method.toList)
  let body := body.getD []
  let headers := if body.isEmpty then merged
    else merged.setDefault "content-length" (toString body.length)
  pure { method, url, headers := completed method url headers, body, timeout }

/-- The header field of a name and a password. -/
def basicAuth (user password : List Char) : List Char :=
  "Basic ".toList ++ Text.base64OfBytes (Text.encodeUtf8 (user ++ ':' :: password))

/-- Credentials in the URL take the place of those in the headers. -/
def authorized (t : Transmission) : Transmission :=
  match t.url.credentials? with
  | none => t
  | some (user, password) =>
    { t with
      headers := { t.headers with
        fields := Headers.put t.headers.fields
          ⟨"authorization".toList, basicAuth user password⟩ } }

/-- The method of the request that follows a redirect. -/
def redirectedMethod (method : String) (status : Int) : String :=
  if (status = 302 ∨ status = 303) ∧ method ≠ "HEAD" then "GET"
  else if status = 301 ∧ method = "POST" then "GET"
  else method

/-- The message that an answer asks for: credentials stay within an origin, a body goes with a
method that was not changed, and the cookie is the one for the new target. -/
def redirected (t : Transmission) (cookie : Option (List Char)) (status : Int) (url : Url) :
    Except EncodeFault Transmission := do
  let method := redirectedMethod t.method status
  let located :=
    if url.sameOrigin t.url then t.headers
    else
      let kept := if t.url.isUpgrade url then t.headers else t.headers.erase "authorization"
      { kept with fields := Headers.put kept.fields ⟨"host".toList, url.netLocation⟩ }
  if method ≠ t.method ∧ method = "GET" then
    let bare := ((located.erase "content-length").erase "transfer-encoding").erase "cookie"
    let headers ← withCookie bare cookie
    pure { t with method, url, headers := completed method url headers, body := [] }
  else
    let headers ← withCookie (located.erase "cookie") cookie
    pure { t with method, url, headers }

end Transmission

namespace Transport

open Step

variable {κ μ : Type}

/-- The outcome of an empty tape: an answer 200 without a body. -/
def silence : Outcome := ⟨0, none, .response (.received 200 .empty [])⟩

/-- The next outcome; the last one stays. -/
def nextOutcome : Step κ μ Outcome := do
  let w ← getWorld
  match w.tape with
  | [] => pure silence
  | [last] => pure last
  | outcome :: rest => do
    modifyWorld fun w => { w with tape := rest }
    pure outcome

/-- One call over some connections. -/
def exchange (client : Option ConnectionId) (t : Transmission) : Step κ μ Response := do
  record (.transmit t)
  let outcome ← nextOutcome
  advance outcome.elapsed
  match outcome.cancels with
  | some cause => cancel cause
  | none => pure ()
  match outcome.answer with
  | .response r => do
    modifyWorld fun w => w.keepCookies client t.url r
    pure r
  | .failure spec => do
    let id ← buildFailure spec
    raise id

/-- The message that a redirecting answer asks for, if it can be made. -/
def nextTransmission (cookie? : Url → Option (List Char)) (t : Transmission) (response : Response)
    (location : List Char) : Except Failure.Reason Transmission :=
  match Url.redirectTarget t.url location with
  | .ok url => (t.redirected (cookie? url) response.status url).mapError .header
  | .error (.location fault) => .error (.badLocation fault)
  | .error (.target fault) => .error (.url fault)

/-- The number of redirects that are followed. -/
def redirectLimit : Nat := 20

/-- Follows redirects for at most `calls` calls.  The request that a redirect asks for is made even
if it is not to be sent. -/
def follow (client : Option ConnectionId) (follows : Bool) :
    (calls : Nat) → Transmission → Step κ μ Response
  | 0, _ => fail .redirectLoop
  | calls + 1, t => do
    let response ← exchange client t
    match response.location? with
    | none => pure response
    | some location => do
      let w ← getWorld
      let next ← orFail (nextTransmission (w.cookie? client) t response location)
      if follows then follow client follows calls next else pure response

/-- The calls of one message over open connections. -/
def deliver (client : Option ConnectionId) (t : Transmission) (follows : Bool) :
    Step κ μ Response :=
  follow client follows (redirectLimit + 1) t.authorized

/-- Runs a step over connections of its own, whose jar is empty. -/
def withOwnConnection {α : Type} (verify : Bool) (step : Step κ μ α) : Step κ μ α := do
  record (.opened verify none)
  modifyWorld fun w => w.emptyJar none
  try
    let a ← step
    record .closed
    pure a
  catch stop =>
    record .closed
    throw stop

/-- Makes the message of the request and sends it, unless the connections have been closed. -/
def send (client : Option ConnectionId) (timeout : Float) : Step κ μ Response := do
  let r ← getRequest
  let w ← getWorld
  let t ← orFail (Transmission.ofParts w.network.defaults (w.cookie? client) r.method r.url
    r.headers r.body timeout)
  modifyRequest fun r => { r with transmission := some t }
  if client.all fun id => w.connections.getD id true then
    deliver client t (!r.config.disableFollowRedirects)
  else fail .closedConnection

end Transport

end RequestPipeline
