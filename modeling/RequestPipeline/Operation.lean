import RequestPipeline.Record

/-!
# Operations

What a request does at the other side: a name for messages, a method, and a path below the endpoint.
-/

namespace RequestPipeline

/-- A remote action: a name, a method and a path. -/
structure Operation where
  name : String
  method : String
  path : String
  deriving DecidableEq, Repr

namespace Operation

def schema : Schema := .record "Operation" [
  ("name", .str, some (.str "")),
  ("method", .httpMethod, some (.str "POST")),
  ("path", .str, some (.str ""))]

def ofRecord (v : Value) : Operation :=
  ⟨(v.field "name").asText, (v.field "method").asText, (v.field "path").asText⟩

/-- An operation from its fields by name. -/
def ofFields (fields : Value) : Except Schema.Report Operation :=
  (schema.validate "Operation" fields).map ofRecord

/-- The action without a name at the endpoint itself. -/
def anonymous : Operation := ⟨"", "POST", ""⟩

end Operation

end RequestPipeline
