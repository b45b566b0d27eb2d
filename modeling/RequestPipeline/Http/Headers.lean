import RequestPipeline.Text.Blank
import RequestPipeline.Text.Bytes
import RequestPipeline.Text.LetterCase

/-!
# Header fields

Fields of a message in order.  Names compare without the case of their ASCII letters.  A collection
that has been read as a whole keeps the character set it was read in: if all of it was ASCII then,
nothing else can be put into it later.
-/

namespace RequestPipeline

/-- A header field with its name in lower case. -/
structure HeaderField where
  name : List Char
  value : List Char
  deriving DecidableEq, Repr

/-- The character sets of header fields. -/
inductive HeaderCharset where
  | ascii
  | utf8
  deriving DecidableEq, Repr

/-- Header fields in order, and the character set they have been read in. -/
structure Headers where
  fields : List HeaderField
  settled : Option HeaderCharset
  deriving DecidableEq, Repr

/-- Characters in a row that a character set does not have. -/
structure EncodeFault where
  position : Nat
  characters : List Char
  deriving DecidableEq, Repr

/-- The fault in words. -/
def EncodeFault.message (f : EncodeFault) : List Char :=
  let place := match f.characters with
    | [c] =>
      let n := c.toNat
      let escape := if n < 0x100 then 'x' :: Text.hexDigits 2 n
        else if n < 0x10000 then 'u' :: Text.hexDigits 4 n
        else 'U' :: Text.hexDigits 8 n
      let quote := Char.ofNat 39
      "character ".toList ++ quote :: '\\' :: (escape ++ [quote])
        ++ s!" in position {f.position}".toList
    | cs => s!"characters in position {f.position}-{f.position + cs.length - 1}".toList
  "'ascii' codec can't encode ".toList ++ place ++ ": ordinal not in range(128)".toList

def isAscii (c : Char) : Bool := c.toNat < 128

/-- The first characters of a text that are not ASCII. -/
def notAscii? (s : List Char) : Option EncodeFault :=
  match s.dropWhile isAscii with
  | [] => none
  | rest => some ⟨s.length - rest.length, rest.takeWhile fun c => !isAscii c⟩

namespace Headers

def empty : Headers := ⟨[], none⟩

/-- A name in lower case, the form in which names compare. -/
def fold (name : List Char) : List Char := name.map Char.toLower

def ofPairs (pairs : List (List Char × List Char)) : Headers :=
  ⟨pairs.map fun (name, value) => ⟨fold name, value⟩, none⟩

/-- The character set that holds all fields. -/
def charset (h : Headers) : HeaderCharset :=
  h.settled.getD
    (if h.fields.all fun f => f.name.all isAscii && f.value.all isAscii then .ascii else .utf8)

/-- The collection after its fields have been looked at, which fixes its character set. -/
def read (h : Headers) : Headers :=
  if h.fields.isEmpty then h else { h with settled := some h.charset }

/-- The values under a name. -/
def values (h : Headers) (name : String) : List (List Char) :=
  (h.fields.filter fun f => f.name == name.toList).map (·.value)

def contains (h : Headers) (name : String) : Bool :=
  h.fields.any fun f => f.name == name.toList

/-- Values of one name make one value. -/
def joined (values : List (List Char)) : List Char := [',', ' '].intercalate values

/-- The value under a name, given in lower case. -/
def get? (h : Headers) (name : String) : Option (List Char) :=
  match h.values name with
  | [] => none
  | values => some (joined values)

/-- One pair for each name, in the order of first appearance. -/
def items (h : Headers) : List (List Char × List Char) :=
  let names := h.fields.foldl
    (fun acc f => if acc.contains f.name then acc else acc ++ [f.name]) []
  names.map fun name => (name, joined ((h.fields.filter fun f => f.name == name).map (·.value)))

/-- Replaces the first field of a name and removes its others, or appends the field. -/
def put (fields : List HeaderField) (field : HeaderField) : List HeaderField :=
  match fields with
  | [] => [field]
  | f :: rest =>
    if f.name = field.name then field :: rest.filter fun g => g.name != field.name
    else f :: put rest field

/-- What the character set of the collection does not have in a text. -/
def refusal? (h : Headers) (s : List Char) : Option EncodeFault :=
  if h.settled = some .ascii then notAscii? s else none

/-- Sets a field. -/
def set? (h : Headers) (name value : List Char) : Except EncodeFault Headers :=
  match (h.refusal? name).or (h.refusal? value) with
  | some fault => .error fault
  | none => .ok { h with fields := put h.fields ⟨fold name, value⟩ }

/-- Sets a field of ASCII text. -/
def set (h : Headers) (name value : String) : Headers :=
  { h with fields := put h.fields ⟨fold name.toList, value.toList⟩ }

/-- Adds a field unless there is one of its name. -/
def setDefault (h : Headers) (name value : String) : Headers :=
  if h.contains name then h else h.set name value

/-- Removes the fields of a name, given in lower case. -/
def erase (h : Headers) (name : String) : Headers :=
  { h with fields := h.fields.filter fun f => f.name != name.toList }

/-- The fields of `base` under names that `h` does not have, and those of `h` behind them.  The
names are looked up in lower case, and in the character set of `base`. -/
def update? (base h : Headers) : Except EncodeFault Headers :=
  let view : Headers := { base with settled := some base.charset }
  match h.fields.findSome? fun f => view.refusal? (Text.lower f.name) with
  | some fault => .error fault
  | none =>
    .ok ⟨base.fields.filter (fun f => !(h.fields.any fun g => g.name == f.name)) ++ h.fields, none⟩

end Headers

end RequestPipeline
