import RequestPipeline.Decimal.Layout
import RequestPipeline.Text.Quoted
import RequestPipeline.Text.Utf8

/-!
# Payload values

What a caller may hand to a request and what a response may decode to: scalars, text, binary data,
sequences, mappings in insertion order, records of a schema, and objects nobody can look into.
`Value.text` and `Value.repr` show a value as `str` and `repr` do, bare and inside another value.
`Value.truthy` decides whether it counts as true, and `Value.same` is equality, under which numbers
of different kinds can be equal.
-/

namespace RequestPipeline

open Text (Bytes Str)

/-- A payload value. -/
inductive Value where
  | null
  | bool (b : Bool)
  | int (n : Int)
  | float (x : Float)
  | str (s : Str)
  | bytes (b : Bytes)
  | list (items : List Value)
  | tuple (items : List Value)
  | dict (entries : List (Value × Value))
  /-- A record of a named schema with its fields in order. -/
  | record (schema : String) (fields : List (String × Value))
  /-- An object without any structure a caller can see. -/
  | opaqueObject (typeName : String)
  deriving Inhabited

namespace Value

/-- Items with a comma and a blank between them. -/
def commaSeparated : List (List Char) → List Char
  | [] => []
  | [x] => x
  | x :: rest => x ++ ',' :: ' ' :: commaSeparated rest

def boolText (b : Bool) : List Char := if b then "True".toList else "False".toList

mutual

/-- A value inside another one. -/
def repr : Value → List Char
  | .null => "None".toList
  | .bool b => boolText b
  | .int n => (toString n).toList
  | .float x => Decimal.plain.write x
  | .str s => Text.quotedStr s
  | .bytes b => Text.quotedBytes b
  | .list items => '[' :: (commaSeparated (reprItems items) ++ [']'])
  | .tuple [item] => '(' :: (repr item ++ [',', ')'])
  | .tuple items => '(' :: (commaSeparated (reprItems items) ++ [')'])
  | .dict entries => '\x7b' :: (commaSeparated (reprEntries entries) ++ ['\x7d'])
  | .record schema fields => schema.toList ++ '(' :: (commaSeparated (reprFields fields) ++ [')'])
  | .opaqueObject _ => "<opaque>".toList

def reprItems : List Value → List (List Char)
  | [] => []
  | v :: rest => repr v :: reprItems rest

def reprEntries : List (Value × Value) → List (List Char)
  | [] => []
  | (k, v) :: rest => (repr k ++ ':' :: ' ' :: repr v) :: reprEntries rest

def reprFields : List (String × Value) → List (List Char)
  | [] => []
  | (name, v) :: rest => (name.toList ++ '=' :: repr v) :: reprFields rest

end

/-- Words with a blank between them. -/
def blankSeparated : List (List Char) → List Char
  | [] => []
  | [x] => x
  | x :: rest => x ++ ' ' :: blankSeparated rest

/-- A value by itself: text is bare, and a record shows its fields only. -/
def text : Value → Str
  | .str s => s
  | .record _ fields => .ofChars (blankSeparated (reprFields fields))
  | v => .ofChars (repr v)

/-- Empty and zero values and the null value count as false. -/
def truthy : Value → Bool
  | .null => false
  | .bool b => b
  | .int n => n != 0
  | .float x => x != 0
  | .str s => !s.isEmpty
  | .bytes b => !b.isEmpty
  | .list items => !items.isEmpty
  | .tuple items => !items.isEmpty
  | .dict entries => !entries.isEmpty
  | .record _ _ => true
  | .opaqueObject _ => true

/-- The exact value of a finite float over a power of two: `n * 2 ^ e`. -/
private def dyadic? (x : Float) : Option (Int × Int) :=
  match Decimal.partsOf x with
  | .zero _ => some (0, 0)
  | .finite negative d => some (if negative then -d.significand else d.significand, d.exponent)
  | _ => none

/-- Whether a whole number and a float are the same number. -/
def intEqFloat (n : Int) (x : Float) : Bool :=
  match dyadic? x with
  | none => false
  | some (m, e) => n * Int.pow 2 (-e).toNat == m * Int.pow 2 e.toNat

/-- Truth values are numbers too. -/
def asInt? : Value → Option Int
  | .bool b => some (if b then 1 else 0)
  | .int n => some n
  | _ => none

/-- Equality of scalars: numbers by value, the rest by kind and content. -/
def sameScalar (a b : Value) : Bool :=
  match a.asInt?, b.asInt?, a, b with
  | some m, some n, _, _ => m == n
  | some m, none, _, .float y => intEqFloat m y
  | none, some n, .float x, _ => intEqFloat n x
  | _, _, .float x, .float y => x == y
  | _, _, .null, .null => true
  | _, _, .str s, .str t => s == t
  | _, _, .bytes s, .bytes t => s == t
  | _, _, _, _ => false

mutual

/-- Equality of values.  Mappings are equal whatever their order. -/
def same : Value → Value → Bool
  | .list xs, .list ys => sameItems xs ys
  | .tuple xs, .tuple ys => sameItems xs ys
  | .dict xs, .dict ys => xs.length == ys.length && entriesWithin xs ys
  | .record s xs, .record t ys => s == t && sameFields xs ys
  | a, b => sameScalar a b
  termination_by structural v => v

def sameItems : List Value → List Value → Bool
  | [], [] => true
  | x :: xs, y :: ys => same x y && sameItems xs ys
  | _, _ => false
  termination_by structural items => items

/-- Whether every entry of the first mapping is one of the second. -/
def entriesWithin : List (Value × Value) → List (Value × Value) → Bool
  | [], _ => true
  | (k, v) :: rest, ys => ys.any (fun (k', v') => same k k' && same v v') && entriesWithin rest ys
  termination_by structural entries => entries

def sameFields : List (String × Value) → List (String × Value) → Bool
  | [], [] => true
  | (a, x) :: xs, (b, y) :: ys => a == b && same x y && sameFields xs ys
  | _, _ => false
  termination_by structural fields => fields

end

/-! ## Mappings -/

/-- The value under a text key. -/
def lookupKey (entries : List (Value × Value)) (key : Str) : Option Value :=
  (entries.find? fun (k, _) => match k with
    | .str s => s == key
    | _ => false).map (·.2)

/-- Puts a value under a key; a key that is there keeps its place. -/
def putEntry (entries : List (Value × Value)) (key value : Value) : List (Value × Value) :=
  if entries.any (fun (k, _) => same k key) then
    entries.map fun (k, v) => if same k key then (k, value) else (k, v)
  else entries ++ [(key, value)]

/-- A mapping from entries of which later ones replace earlier ones. -/
def ofEntries (entries : List (Value × Value)) : Value :=
  .dict (entries.foldl (fun acc (k, v) => putEntry acc k v) [])

end Value

end RequestPipeline
