import RequestPipeline.Schema.Coerce
import RequestPipeline.Text.LetterCase

/-!
# Schemas

A schema describes values.  Validation reads a value leniently, gives back the value in the form the
schema asks for, and otherwise lists everything that is wrong with it.
-/

namespace RequestPipeline

/-- The range of a number, with whole bounds. -/
structure Bounds where
  atLeast : Option Int
  above : Option Int
  atMost : Option Int
  deriving DecidableEq, Repr

namespace Bounds

def unbounded : Bounds := ⟨none, none, none⟩
def nonNegative : Bounds := ⟨some 0, none, none⟩
def positive : Bounds := ⟨none, some 0, none⟩
def fraction : Bounds := ⟨some 0, none, some 1⟩

/-- The first bound a number misses, the upper one first; `le` and `lt` compare with a bound. -/
def broken? (b : Bounds) (atMostHolds atLeastHolds aboveHolds : Int → Bool) :
    Option Schema.Complaint :=
  let first (bound : Option Int) (holds : Int → Bool) (complaint : Int → Schema.Complaint) :=
    match bound with
    | some n => if holds n then none else some (complaint n)
    | none => none
  (first b.atMost atMostHolds .atMost).or
    ((first b.atLeast atLeastHolds .atLeast).or (first b.above aboveHolds .above))

def brokenByInt? (b : Bounds) (n : Int) : Option Schema.Complaint :=
  b.broken? (fun m => decide (n ≤ m)) (fun m => decide (m ≤ n)) (fun m => decide (m < n))

/-- A float that is no number misses every bound. -/
def brokenByFloat? (b : Bounds) (x : Float) : Option Schema.Complaint :=
  let bound := Decimal.floatOfInt
  b.broken? (fun m => decide (x ≤ bound m)) (fun m => decide (bound m ≤ x))
    (fun m => decide (bound m < x))

end Bounds

/-- A description of values. -/
inductive Schema where
  | any
  | bool
  | int (bounds : Bounds)
  | float (bounds : Bounds)
  | str
  | listOf (item : Schema)
  /-- Mappings from text to values. -/
  | mappingTo (value : Schema)
  | optional (inner : Schema)
  /-- Named fields; a field without a default is required. -/
  | record (name : String) (fields : List (String × Schema × Option Value))
  /-- A set of flags, of which some combinations have names. -/
  | flags (named : List Int) (span : Nat)
  /-- The method of a request: any value, written in upper case. -/
  | httpMethod
  /-- An object that only the program itself can make. -/
  | handle (typeName : String)

namespace Schema

/-- The values a list can be read from. -/
def itemsOf? : Value → Option (List Value)
  | .list items => some items
  | .tuple items => some items
  | _ => none

/-- The step to an entry of a mapping. -/
def stepOfKey : Value → Step
  | .str s => .field (String.ofList s.lossy)
  | .int n => .index n
  | .bool b => .index (if b then 1 else 0)
  | v => .field (String.ofList v.repr)

/-- The choices of a set of flags in words. -/
def choiceText (named : List Int) : String :=
  match named.map toString with
  | [] => ""
  | [x] => x
  | words => String.intercalate ", " words.dropLast ++ " or " ++ words.getLast?.getD ""

/-- A number as a set of flags; below zero it counts from the end of the span. -/
def asFlags (span : Nat) (n : Int) : Int :=
  if 0 ≤ n then n
  else if -Int.pow 2 span ≤ n then Int.pow 2 span + n
  else max (Int.pow 2 span) (Int.pow 2 (n.natAbs.log2 + 1)) + n

/-- Reads flags: a named combination in any form of a whole number, any other as a number only. -/
def readFlags (named : List Int) (span : Nat) (v : Value) : Except Complaint Int :=
  let complaint := Complaint.choice (choiceText named)
  match Schema.toInt v with
  | .ok n =>
    if named.contains n then .ok n
    else match v.asInt? with
      | some m => .ok (asFlags span m)
      | none => .error complaint
  | .error _ => .error complaint

/-- The method of an action that names none. -/
def usualMethod : String := "POST"

/-- The method that a value names; what counts as false stands for the usual one. -/
def methodOf (v : Value) : Except Complaint String :=
  if v.truthy then
    match v.text.chars? with
    | some name => .ok (String.ofList (Text.upper name))
    | none => .error .stringUnicode
  else .ok usualMethod

private def single (r : Except Complaint α) (f : α → Value) : Except (List Finding) Value :=
  match r with
  | .ok a => .ok (f a)
  | .error c => .error [⟨[], c⟩]

private def bounded (r : Except Complaint α) (broken? : α → Option Complaint) (f : α → Value) :
    Except (List Finding) Value :=
  match r with
  | .error c => .error [⟨[], c⟩]
  | .ok a => match broken? a with
    | some c => .error [⟨[], c⟩]
    | none => .ok (f a)

/-- Collects results, or all findings if there is one. -/
def gather : List (Except (List Finding) α) → Except (List Finding) (List α)
  | [] => .ok []
  | .ok a :: rest => (gather rest).map (a :: ·)
  | .error found :: rest => match gather rest with
    | .ok _ => .error found
    | .error more => .error (found ++ more)

/-- Numbers the items of a list. -/
def numberedFrom (n : Nat) : List α → List (Nat × α)
  | [] => []
  | a :: rest => (n, a) :: numberedFrom (n + 1) rest

/-- Moves findings below a step. -/
def under (step : Step) (r : Except (List Finding) α) : Except (List Finding) α :=
  r.mapError fun found => found.map (Finding.below step)

/-- The key of an entry as text. -/
def checkKey (k : Value) : Except (List Finding) Value :=
  under (stepOfKey k) (under .key (single (Schema.toText k) (fun s => .str s)))

/-- An entry whose key and value have been checked; findings about the key come first. -/
def joinEntry (k v : Except (List Finding) Value) : Except (List Finding) (Value × Value) :=
  match k, v with
  | .ok k, .ok v => .ok (k, v)
  | .error a, .ok _ => .error a
  | .ok _, .error b => .error b
  | .error a, .error b => .error (a ++ b)

mutual

/-- The value in the form of the schema, or everything that is wrong with it. -/
def check : Schema → Value → Except (List Finding) Value
  | .any, v => .ok v
  | .bool, v => single (Schema.toBool v) .bool
  | .int bounds, v => bounded (Schema.toInt v) bounds.brokenByInt? .int
  | .float bounds, v => bounded (Schema.toFloat v) bounds.brokenByFloat? .float
  | .str, v => single (Schema.toText v) fun s => .str s
  | .listOf item, v => match itemsOf? v with
    | none => .error [⟨[], .listType⟩]
    | some items =>
      (gather ((numberedFrom 0 items).map fun (i, x) => under (.index i) (check item x))).map .list
  | .mappingTo value, v => match v with
    | .dict entries =>
      (gather (entries.map fun (k, x) =>
        joinEntry (checkKey k) (under (stepOfKey k) (check value x)))).map Value.ofEntries
    | _ => .error [⟨[], .dictType⟩]
  | .optional inner, v => match v with
    | .null => .ok .null
    | v => check inner v
  | .record name fields, v => match v with
    | .dict entries => (checkFields fields entries).map (Value.record name)
    | .record other given =>
      if other = name then .ok (.record other given) else .error [⟨[], .recordType name⟩]
    | _ => .error [⟨[], .recordType name⟩]
  | .flags named span, v => single (readFlags named span v) .int
  | .httpMethod, v => single (methodOf v) fun s => .str s
  | .handle typeName, v => match v with
    | .opaqueObject given =>
      if given = typeName then .ok v else .error [⟨[], .instanceOf typeName⟩]
    | _ => .error [⟨[], .instanceOf typeName⟩]
  termination_by structural s => s

/-- The fields of a record from the entries of a mapping; entries without a field are ignored. -/
def checkFields : List (String × Schema × Option Value) → List (Value × Value) →
    Except (List Finding) (List (String × Value))
  | [], _ => .ok []
  | field :: rest, entries =>
    let here := checkField field entries
    match here, checkFields rest entries with
    | .ok found, .ok more => .ok (found :: more)
    | .ok _, .error b => .error b
    | .error a, .ok _ => .error a
    | .error a, .error b => .error (a ++ b)
  termination_by structural fields => fields

def checkField : String × Schema × Option Value → List (Value × Value) →
    Except (List Finding) (String × Value)
  | (name, described), entries => match Value.lookupKey entries name with
    | some v => (under (.field name) (checkDescribed described v)).map fun v => (name, v)
    | none => match described.2 with
      | some v => .ok (name, v)
      | none => .error [⟨[.field name], .missing⟩]
  termination_by structural field => field

def checkDescribed : Schema × Option Value → Value → Except (List Finding) Value
  | (schema, _), v => check schema v
  termination_by structural described => described

end

/-- The value in the form of the schema, or a report under a title. -/
def validate (schema : Schema) (title : String) (v : Value) : Except Report Value :=
  (schema.check v).mapError fun findings => ⟨title, findings⟩

end Schema

namespace Value

mutual

/-- The value with its records as mappings. -/
def dumped : Value → Value
  | .list items => .list (dumpedItems items)
  | .tuple items => .tuple (dumpedItems items)
  | .dict entries => .dict (dumpedEntries entries)
  | .record _ fields => .dict (dumpedFields fields)
  | v => v

def dumpedItems : List Value → List Value
  | [] => []
  | v :: rest => dumped v :: dumpedItems rest

def dumpedEntries : List (Value × Value) → List (Value × Value)
  | [] => []
  | (k, v) :: rest => (k, dumped v) :: dumpedEntries rest

def dumpedFields : List (String × Value) → List (Value × Value)
  | [] => []
  | (name, v) :: rest => (.str name, dumped v) :: dumpedFields rest

end

end Value

end RequestPipeline
