import RequestPipeline.Value

/-!
# What is wrong with a value

A complaint says at which place of a value what is wrong; a report lists the complaints about one
value under the title of its schema.
-/

namespace RequestPipeline.Schema

/-- One way in which a value misses its schema. -/
inductive Complaint where
  | missing
  | stringType
  | stringUnicode
  | intType
  | intParsing
  | intParsingSize
  | intFromFloat
  | finiteNumber
  | floatType
  | floatParsing
  | boolType
  | boolParsing
  | listType
  | dictType
  | recordType (name : String)
  | instanceOf (name : String)
  | atMost (bound : Int)
  | atLeast (bound : Int)
  | above (bound : Int)
  | choice (expected : String)
  | frozen
  /-- Said by code of the caller. -/
  | said (code message : String)
  deriving DecidableEq, Repr

/-- The complaint in words. -/
def Complaint.message : Complaint → String
  | .missing => "Field required"
  | .stringType => "Input should be a valid string"
  | .stringUnicode => "Input should be a valid string, unable to parse raw data as a unicode string"
  | .intType => "Input should be a valid integer"
  | .intParsing => "Input should be a valid integer, unable to parse string as an integer"
  | .intParsingSize => "Unable to parse input string as an integer, exceeded maximum size"
  | .intFromFloat => "Input should be a valid integer, got a number with a fractional part"
  | .finiteNumber => "Input should be a finite number"
  | .floatType => "Input should be a valid number"
  | .floatParsing => "Input should be a valid number, unable to parse string as a number"
  | .boolType => "Input should be a valid boolean"
  | .boolParsing => "Input should be a valid boolean, unable to interpret input"
  | .listType => "Input should be a valid list"
  | .dictType => "Input should be a valid dictionary"
  | .recordType name => s!"Input should be a valid dictionary or instance of {name}"
  | .instanceOf name => s!"Input should be an instance of {name}"
  | .atMost bound => s!"Input should be less than or equal to {bound}"
  | .atLeast bound => s!"Input should be greater than or equal to {bound}"
  | .above bound => s!"Input should be greater than {bound}"
  | .choice expected => s!"Input should be {expected}"
  | .frozen => "Instance is frozen"
  | .said _ message => message

/-- The short name of a complaint. -/
def Complaint.code : Complaint → String
  | .missing => "missing"
  | .stringType => "string_type"
  | .stringUnicode => "string_unicode"
  | .intType => "int_type"
  | .intParsing => "int_parsing"
  | .intParsingSize => "int_parsing_size"
  | .intFromFloat => "int_from_float"
  | .finiteNumber => "finite_number"
  | .floatType => "float_type"
  | .floatParsing => "float_parsing"
  | .boolType => "bool_type"
  | .boolParsing => "bool_parsing"
  | .listType => "list_type"
  | .dictType => "dict_type"
  | .recordType _ => "model_type"
  | .instanceOf _ => "is_instance_of"
  | .atMost _ => "less_than_equal"
  | .atLeast _ => "greater_than_equal"
  | .above _ => "greater_than"
  | .choice _ => "enum"
  | .frozen => "frozen_instance"
  | .said code _ => code

/-- A step from a value to a part of it. -/
inductive Step where
  | field (name : String)
  | index (n : Int)
  /-- The key of an entry itself. -/
  | key
  deriving DecidableEq, Repr

/-- A step in words; a name with a dot in it is marked off. -/
def Step.text : Step → String
  | .field name =>
    if name.toList.contains '.' then
      let mark := String.singleton (Char.ofNat 96)
      mark ++ name ++ mark
    else name
  | .index n => toString n
  | .key => "[key]"

/-- A complaint about the part of a value that a path leads to. -/
structure Finding where
  path : List Step
  complaint : Complaint
  deriving DecidableEq, Repr

/-- The finding as part of a larger value. -/
def Finding.below (step : Step) (f : Finding) : Finding := { f with path := step :: f.path }

/-- The complaints about a value. -/
structure Report where
  title : String
  findings : List Finding
  deriving DecidableEq, Repr

/-- A finding takes one line for its path, if it has one, and one for the complaint. -/
def Finding.lines (f : Finding) : List String :=
  let complaint := s!"  {f.complaint.message} [type={f.complaint.code}]"
  if f.path.isEmpty then [complaint]
  else [String.intercalate "." (f.path.map Step.text), complaint]

/-- The number of findings, the title, and the findings below. -/
def Report.message (r : Report) : String :=
  let plural := if r.findings.length = 1 then "" else "s"
  let headline := s!"{r.findings.length} validation error{plural} for {r.title}"
  String.intercalate "\n" (headline :: r.findings.flatMap Finding.lines)

end RequestPipeline.Schema
