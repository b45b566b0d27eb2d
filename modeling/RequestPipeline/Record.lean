import RequestPipeline.Schema

/-!
# Reading records

Once a record has been validated its fields have the kinds that the schema gives them.  The readers
here take a field of a kind; of a field that is missing or of another kind they make the least
value.
-/

namespace RequestPipeline.Value

/-- The fields of a record. -/
def fields : Value → List (String × Value)
  | .record _ fields => fields
  | _ => []

/-- A field of a record. -/
def field (v : Value) (name : String) : Value := (v.fields.lookup name).getD .null

def asText : Value → String
  | .str s => String.ofList s.chars
  | _ => ""

def asBool : Value → Bool
  | .bool b => b
  | _ => false

def asInt : Value → Int
  | .int n => n
  | _ => 0

def asFloat : Value → Float
  | .float x => x
  | _ => 0

def asItems : Value → List Value
  | .list items => items
  | _ => []

end RequestPipeline.Value
