import RequestPipeline.Json.Reader

/-!
# Writing JSON

Two layouts of JSON texts: on one line in ASCII, and indented with characters beyond ASCII left as
they are.  In ASCII a surrogate is an escape like any other code unit; in the wide layout it stays a
surrogate, and so that text may have no form in UTF-8.  A value that JSON has no form for is written
by a substitute, if the layout has one.
-/

namespace RequestPipeline.Json

open Text (CodePoint Str)

/-- Why a value cannot be written. -/
inductive Unwritable where
  /-- A whole number has more digits than can be written. -/
  | tooManyDigits
  /-- A mapping has a key of a kind that no name can be made of. -/
  | badKey (typeName : String)
  /-- A value has no form in JSON. -/
  | noForm (typeName : String)
  deriving DecidableEq, Repr

/-- The fault in words. -/
def Unwritable.message : Unwritable → String
  | .tooManyDigits =>
    s!"Exceeds the limit ({digitLimit} digits) for integer string conversion; " ++
      "use sys.set_int_max_str_digits() to increase the limit"
  | .badKey typeName => s!"keys must be str, int, float, bool or None, not {typeName}"
  | .noForm typeName => s!"Object of type {typeName} is not JSON serializable"

/-! ## Strings -/

/-- The escapes that both layouts share. -/
def sharedEscape? (c : Char) : Option (List Char) :=
  match c with
  | '"' => some ['\\', '"']
  | '\\' => some ['\\', '\\']
  | '\n' => some ['\\', 'n']
  | '\r' => some ['\\', 'r']
  | '\t' => some ['\\', 't']
  | _ =>
    if c.toNat = 8 then some ['\\', 'b']
    else if c.toNat = 12 then some ['\\', 'f']
    else none

/-- A code unit as an escape. -/
def unitEscape (n : Nat) : List Char := '\\' :: 'u' :: Text.hexDigits 4 n

/-- A character of an ASCII string; one beyond the first plane takes two units. -/
def asciiChar (c : Char) : List Char :=
  match sharedEscape? c with
  | some escape => escape
  | none =>
    let n := c.toNat
    if 0x20 ≤ n ∧ n < 0x7f then [c]
    else if n < 0x10000 then unitEscape n
    else unitEscape (0xd800 + (n - 0x10000) / 0x400) ++ unitEscape (0xdc00 + (n - 0x10000) % 0x400)

def asciiPoint : CodePoint → List Char
  | .char c => asciiChar c
  | .half h => unitEscape h.unit

/-- A character of a string that may hold characters beyond ASCII. -/
def wideChar (c : Char) : List Char :=
  match sharedEscape? c with
  | some escape => escape
  | none => if c.toNat < 0x20 then unitEscape c.toNat else [c]

def widePoint : CodePoint → Str
  | .char c => .ofChars (wideChar c)
  | .half h => [.half h]

/-- How a layout writes text, and what has no form of its own.  The symbols `α` of the text are
characters where no surrogate can be left, and code points elsewhere. -/
structure Layout (α : Type) where
  /-- A character that stands for itself. -/
  mark : Char → α
  /-- A code point between quotes. -/
  point : CodePoint → List α
  /-- Whether entries stand on lines of their own. -/
  broken : Bool
  /-- The text written for a value without a form. -/
  substitute : Value → Option Str

/-- Characters that stand for themselves. -/
def Layout.plainly (layout : Layout α) (s : List Char) : List α := s.map layout.mark

def quoted (layout : Layout α) (s : Str) : List α :=
  layout.mark '"' :: (s.flatMap layout.point ++ [layout.mark '"'])

/-! ## Scalars -/

/-- A whole number within the limit of digits. -/
def intText (n : Int) : Except Unwritable (List Char) :=
  if n.natAbs < Nat.pow 10 digitLimit then .ok (toString n).toList else .error .tooManyDigits

def floatText (x : Float) : List Char := Decimal.json.write x

def boolText (b : Bool) : List Char := if b then "true".toList else "false".toList

/-- The name of a kind of value, as faults show it. -/
def typeName : Value → String
  | .null => "NoneType"
  | .bool _ => "bool"
  | .int _ => "int"
  | .float _ => "float"
  | .str _ => "str"
  | .bytes _ => "bytes"
  | .list _ => "list"
  | .tuple _ => "tuple"
  | .dict _ => "dict"
  | .record schema _ => schema
  | .opaqueObject name => name

/-- The name a key becomes: scalars are written out. -/
def keyText : Value → Except Unwritable Str
  | .str s => .ok s
  | .null => .ok (.ofString "null")
  | .bool b => .ok (.ofChars (boolText b))
  | .int n => (intText n).map .ofChars
  | .float x => .ok (.ofChars (floatText x))
  | v => .error (.badKey (typeName v))

/-! ## Values -/

/-- The line break before an entry at a level, or the blank after a comma. -/
def breakAt (layout : Layout α) (level : Nat) : List α :=
  layout.plainly (if layout.broken then '\n' :: List.replicate (2 * level) ' ' else [])

/-- What stands between two entries. -/
def separator (layout : Layout α) (level : Nat) : List α :=
  layout.mark ',' :: (if layout.broken then breakAt layout level else [layout.mark ' '])

/-- Entries between brackets; an empty collection takes no line breaks. -/
def enclose (layout : Layout α) (level : Nat) (opening closing : Char) : List (List α) → List α
  | [] => layout.plainly [opening, closing]
  | first :: rest =>
    layout.mark opening :: (breakAt layout (level + 1) ++ first
      ++ rest.flatMap (fun entry => separator layout (level + 1) ++ entry)
      ++ breakAt layout level ++ [layout.mark closing])

mutual

/-- A value at a level of nesting. -/
def write (layout : Layout α) (level : Nat) : Value → Except Unwritable (List α)
  | .null => .ok (layout.plainly "null".toList)
  | .bool b => .ok (layout.plainly (boolText b))
  | .int n => (intText n).map layout.plainly
  | .float x => .ok (layout.plainly (floatText x))
  | .str s => .ok (quoted layout s)
  | .list items => (writeItems layout (level + 1) items).map (enclose layout level '[' ']')
  | .tuple items => (writeItems layout (level + 1) items).map (enclose layout level '[' ']')
  | .dict entries =>
    (writeEntries layout (level + 1) entries).map (enclose layout level '\x7b' '\x7d')
  | v => match layout.substitute v with
    | some s => .ok (quoted layout s)
    | none => .error (.noForm (typeName v))

def writeItems (layout : Layout α) (level : Nat) :
    List Value → Except Unwritable (List (List α))
  | [] => .ok []
  | v :: rest => do
    let first ← write layout level v
    let more ← writeItems layout level rest
    pure (first :: more)

def writeEntries (layout : Layout α) (level : Nat) :
    List (Value × Value) → Except Unwritable (List (List α))
  | [] => .ok []
  | (k, v) :: rest => do
    let name ← keyText k
    let value ← write layout level v
    let more ← writeEntries layout level rest
    pure ((quoted layout name ++ layout.mark ':' :: layout.mark ' ' :: value) :: more)

end

/-- One line of ASCII without substitutes. -/
def compactLayout : Layout Char := ⟨id, asciiPoint, false, fun _ => none⟩

/-- Indented entries; what has no form is written as its text. -/
def indentedLayout : Layout CodePoint := ⟨.char, widePoint, true, fun v => some v.text⟩

/-- A value on one line of ASCII. -/
def compact (v : Value) : Except Unwritable (List Char) := write compactLayout 0 v

/-- A value over several lines. -/
def indented (v : Value) : Except Unwritable Str := write indentedLayout 0 v

end RequestPipeline.Json
