import RequestPipeline.Failure

/-!
# Values made ready for JSON

Before a payload is written as JSON it is put into the kinds of values that JSON has: binary data
becomes the text it holds, tuples become lists, records become mappings, and keys become text.
Floats that are not finite become null, except in the fields of records.  A text with a surrogate
may be a value but not a key, since keys pass through UTF-8, and values stand inside a bounded
number of collections; only the fields of records, whose kinds are known, are not counted.
-/

namespace RequestPipeline.Json

open Failure (EncodingFault)
open Text (Str)

/-- Binary data as UTF-8 text. -/
def heldText (bytes : Text.Bytes) : Except EncodingFault (List Char) :=
  match Text.decodeUtf8 bytes with
  | .ok s => .ok s
  | .error fault => .error (.badText { fault with reason := .invalidUtf8 })

/-- A float in a record stays as it is; elsewhere it has to be finite. -/
def plainFloat (inRecord : Bool) (x : Float) : Value :=
  if inRecord || x.isFinite then .float x else .null

mutual

/-- The text of a key. -/
def plainKey : Value → Except EncodingFault (List Char)
  | .null => .ok "None".toList
  | .bool b => .ok (boolText b)
  | .int n => .ok (toString n).toList
  | .float x => .ok (if x.isFinite then Decimal.plain.write x else "None".toList)
  | .str s => s.encodable.mapError .torn
  | .bytes b => heldText b
  | .tuple parts => do
    let texts ← plainKeys parts
    pure ([','].intercalate texts)
  | v => .error (.unknownType (typeName v))

def plainKeys : List Value → Except EncodingFault (List (List Char))
  | [] => .ok []
  | v :: rest => do
    let text ← plainKey v
    let more ← plainKeys rest
    pure (text :: more)

end

/-- The number of collections that no value may stand inside. -/
def depthLimit : Nat := 254

/-- Whether a value stands inside too many collections to be looked at.  Inside a record they are
not counted. -/
def isTooDeep (inRecord : Bool) (depth : Nat) : Bool := !inRecord && decide (depthLimit ≤ depth)

mutual

/-- The value with records, binary data and keys turned into what JSON has, or the fault of the
first part that cannot be. -/
def plain (inRecord : Bool) (depth : Nat) (v : Value) : Except EncodingFault Value :=
  if isTooDeep inRecord depth then .error .tooDeep
  else match v with
    | .float x => .ok (plainFloat inRecord x)
    | .bytes b => (heldText b).map fun s => .str (.ofChars s)
    | .list items => (plainItems inRecord (depth + 1) items).map .list
    | .tuple items => (plainItems inRecord (depth + 1) items).map .list
    | .dict entries => (plainEntries inRecord (depth + 1) entries).map Value.ofEntries
    | .record _ fields => (plainFields (depth + 1) fields).map .dict
    | .opaqueObject name => .error (.unknownType name)
    | v => .ok v

def plainItems (inRecord : Bool) (depth : Nat) : List Value → Except EncodingFault (List Value)
  | [] => .ok []
  | v :: rest => do
    let first ← plain inRecord depth v
    let more ← plainItems inRecord depth rest
    pure (first :: more)

def plainEntries (inRecord : Bool) (depth : Nat) :
    List (Value × Value) → Except EncodingFault (List (Value × Value))
  | [] => .ok []
  | (k, v) :: rest => do
    let key ← plainKey k
    let value ← plain inRecord depth v
    let more ← plainEntries inRecord depth rest
    pure ((.str (.ofChars key), value) :: more)

def plainFields (depth : Nat) :
    List (String × Value) → Except EncodingFault (List (Value × Value))
  | [] => .ok []
  | (name, v) :: rest => do
    let value ← plain true depth v
    let more ← plainFields depth rest
    pure ((.str name, value) :: more)

end

/-- The body for a payload that `dump` makes ready: its JSON text on one line of ASCII. -/
def bodyBy (dump : Value → Except EncodingFault Value) (v : Value) :
    Except EncodingFault Text.Bytes := do
  let ready ← dump v
  let text ← (compact ready).mapError .unwritable
  pure (Text.encodeUtf8 text)

/-- The bytes that a payload is sent as. -/
def body (v : Value) : Except EncodingFault Text.Bytes := bodyBy (plain false 0) v

end RequestPipeline.Json
