import RequestPipeline.Operation
import RequestPipeline.Settings

/-!
# Records side by side

Records that were made from fields can be changed, compared, printed and copied.  `Shelf.copy`
makes a shallow or a deep copy.  A shallow copy shares its list of codes with the record it was
made from, so that a code appended to one by `Shelf.appendCode` appears in both; a deep copy has a
list of its own.
-/

namespace RequestPipeline

/-- A record; its list of codes, if it has one, stands elsewhere. -/
structure ShelfItem where
  name : String
  fields : List (String × Value)
  codes : Option Nat
  /-- The request of the record is worth another attempt. -/
  marked : Bool

/-- Records, and the lists of codes they share. -/
structure Shelf where
  items : List ShelfItem
  lists : Array (List Value)

namespace Shelf

/-- The schemas of the records by name. -/
def schemas : List (String × Schema) := [
  ("Operation", Operation.schema),
  ("DelayConfig", Backoff.schema),
  ("RetryConfig", RetryBudget.schema),
  ("ClientSettings", Settings.schema),
  ("Config", Config.schema)]

/-- The records that cannot be changed. -/
def isFrozen (name : String) : Bool := name == "Operation" || name == "DelayConfig"

/-- The field that lists of codes stand under. -/
def codesField : String := "retry_error_codes"

/-- Puts the list of codes of an item, if it has one there, among the shared lists. -/
def share (lists : Array (List Value)) (item : ShelfItem) : ShelfItem × Array (List Value) :=
  match item.fields.lookup codesField with
  | some (.list codes) => ({ item with codes := some lists.size }, lists.push codes)
  | _ => ({ item with codes := none }, lists)

/-- A shelf with one record. -/
def start (name : String) (fields : Value) : Except Schema.Report Shelf := do
  let record ← ((schemas.lookup name).getD .any).validate name fields
  let (item, lists) := share #[] ⟨name, record.fields, none, false⟩
  pure ⟨[item], lists⟩

def item (s : Shelf) (n : Nat) : ShelfItem := s.items.getD n ⟨"", [], none, false⟩

/-- The fields of a record with its list of codes in place. -/
def fieldsOf (s : Shelf) (item : ShelfItem) : List (String × Value) :=
  match item.codes with
  | none => item.fields
  | some place => item.fields.map fun (name, v) =>
    if name == codesField then (name, .list (s.lists.getD place [])) else (name, v)

/-- A record as a value. -/
def recordOf (s : Shelf) (item : ShelfItem) : Value := .record item.name (s.fieldsOf item)

/-- All records as mappings. -/
def shown (s : Shelf) : List Value := s.items.map fun item => (s.recordOf item).dumped

/-- Whether two records are of one kind and have equal fields and equal marks. -/
def equal (s : Shelf) (m n : Nat) : Bool :=
  let a := s.item m
  let b := s.item n
  Value.same (s.recordOf a) (s.recordOf b) && a.marked == b.marked

def replace (s : Shelf) (n : Nat) (item : ShelfItem) : Shelf :=
  { s with items := s.items.set n item }

/-- Sets a field without a look at its schema. -/
def assign (s : Shelf) (n : Nat) (name : String) (v : Value) : Except Failure.Reason Shelf :=
  let item := s.item n
  if isFrozen item.name then
    .error (.schema ⟨item.name, [⟨[.field name], .frozen⟩]⟩)
  else if item.fields.any fun (f, _) => f == name then
    let changed := { item with
      fields := item.fields.map fun (f, old) => if f == name then (f, v) else (f, old) }
    if name == codesField then
      let (shared, lists) := share s.lists changed
      .ok { s.replace n shared with lists }
    else .ok (s.replace n changed)
  else .error (.noField item.name name)

/-- Copies a record to the end of the shelf. -/
def copy (s : Shelf) (n : Nat) (deep : Bool) : Shelf :=
  let item := s.item n
  if deep then
    let (own, lists) := share s.lists { item with fields := s.fieldsOf item }
    ⟨s.items ++ [own], lists⟩
  else { s with items := s.items ++ [item] }

/-- Appends to the list of codes of a record. -/
def appendCode (s : Shelf) (n : Nat) (code : Value) : Except Failure.Reason Shelf :=
  let item := s.item n
  match item.codes with
  | some place => .ok { s with lists := s.lists.modify place fun codes => codes ++ [code] }
  | none => match item.fields.lookup codesField with
    | some v => .error (.noAttribute (Json.typeName v) "append")
    | none => .error (.noAttribute item.name codesField)

/-- The item, if its record is of the kind that has the attribute asked for. -/
def only (s : Shelf) (n : Nat) (kind asked : String) : Except Failure.Reason ShelfItem :=
  let item := s.item n
  if item.name = kind then .ok item else .error (.noAttribute item.name asked)

/-- Marks the request of a record. -/
def mark (s : Shelf) (n : Nat) (worthRetrying : Bool) : Except Failure.Reason Shelf := do
  let item ← s.only n "RetryConfig" "set_retryable"
  pure (s.replace n { item with marked := worthRetrying })

/-- Whether the request of a record is marked. -/
def isMarked (s : Shelf) (n : Nat) : Except Failure.Reason Bool := do
  let item ← s.only n "RetryConfig" "is_retryable"
  pure item.marked

/-- The retry budget that a record of settings describes. -/
def budgetOf (s : Shelf) (n : Nat) : Except Failure.Reason Value := do
  let item ← s.only n "ClientSettings" "retry_config"
  (Settings.budgetRecord (s.recordOf item)).mapError .schema

end Shelf

end RequestPipeline
