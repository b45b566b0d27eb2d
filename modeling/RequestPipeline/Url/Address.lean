import RequestPipeline.Decimal.Reading
import RequestPipeline.Text.Bytes

/-!
# Internet addresses

The two numeric forms of a host: `isFourParts` accepts four numbers below 256 with points between
them, and `isEightGroups` eight groups of hexadecimal digits with colons between them, one run of
zero groups being left out.  A host that `looksLikeFourParts` has to be an address of the first
kind.
-/

namespace RequestPipeline.Url

/-- Splits at every `mark`; there is always a first part. -/
def splitAll (mark : Char) : List Char → List (List Char)
  | [] => [[]]
  | c :: rest =>
    if c = mark then [] :: splitAll mark rest
    else match splitAll mark rest with
      | first :: more => (c :: first) :: more
      | [] => [[c]]

/-- After at least one digit: more digits, then `groups` times a character and digits. -/
def digitGroupsFollow : (groups : Nat) → List Char → Bool
  | 0, s => s.all Char.isDigit
  | _ + 1, [] => false
  | _ + 1, [_] => false
  | groups + 1, c :: d :: rest =>
    (d.isDigit && digitGroupsFollow groups rest)
      || (c.isDigit && digitGroupsFollow (groups + 1) (d :: rest))

/-- Four groups of digits with any one character between two of them. -/
def looksLikeFourParts : List Char → Bool
  | [] => false
  | c :: rest => c.isDigit && digitGroupsFollow 3 rest

/-- A number below 256 without leading zeros. -/
def isOctet (s : List Char) : Bool :=
  !s.isEmpty && s.all Char.isDigit && s.length ≤ 3 && (s == ['0'] || s.head? != some '0')
    && Decimal.natOfDigits s < 256

def isFourParts (s : List Char) : Bool :=
  let parts := splitAll '.' s
  parts.length == 4 && parts.all isOctet

/-- One to four hexadecimal digits. -/
def isGroup (s : List Char) : Bool :=
  !s.isEmpty && s.length ≤ 4 && s.all fun c => (Text.hexValue? c).isSome

/-- Groups with at most one run left out; `[]` as the first or the last part stands beside it. -/
def groupsFill (parts : List (List Char)) : Bool :=
  let inner := parts.tail.dropLast
  match inner.countP List.isEmpty with
  | 0 => parts.length == 8 && parts.all isGroup
  | 1 =>
    let before := parts.takeWhile (fun p => !p.isEmpty)
    match parts with
    | [] :: [] :: after =>
      let after := if after == [[]] then [] else after
      after.length < 8 && after.all isGroup
    | _ =>
      let after := parts.drop (before.length + 1)
      let after := if after == [[]] then [] else after
      !before.isEmpty && before.length + after.length < 8 && before.all isGroup
        && after.all isGroup
  | _ => false

/-- Eight groups, the last two of which may be written as four numbers; a zone may follow. -/
def isEightGroups (s : List Char) : Bool :=
  let address := s.takeWhile (· != '%')
  let zone := s.drop address.length
  let zoneHolds := match zone with
    | [] => true
    | _ :: name => !name.isEmpty && !name.contains '%'
  let parts := splitAll ':' address
  let last := parts.getLast?.getD []
  let zeroes : List Char := ['0']
  let embedded := last.contains '.'
  let parts := if embedded then parts.dropLast ++ [zeroes, zeroes] else parts
  zoneHolds && !s.contains '/' && 3 ≤ (splitAll ':' address).length && parts.length ≤ 9
    && (!embedded || isFourParts last) && groupsFill parts

end RequestPipeline.Url
