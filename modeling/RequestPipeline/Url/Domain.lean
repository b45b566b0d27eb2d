import RequestPipeline.Text.LabelCharacters
import RequestPipeline.Url.Address

/-!
# Internationalised domain names

A label with characters beyond ASCII goes on the wire as its ASCII characters followed by the
others in the `bootstring` form: the increasing code points as differences in digits of base 36,
the digits of a difference ending where they pass a threshold that adapts to the differences so
far.  `asciiName?` does this for every label of a name and fails on a label that `labelHolds`
refuses.
-/

namespace RequestPipeline.Url.Domain

/-! ## Bootstring -/

/-- The digits of base 36: letters, then digits. -/
def digitChar (d : Nat) : Char := Char.ofNat (if d < 26 then 97 + d else 22 + d)

/-- The limit below which a digit ends its number, at a place under a bias. -/
def digitLimit (place bias : Nat) : Nat := max 1 (min 26 (place - bias))

theorem digitLimit_pos (place bias : Nat) : 0 < digitLimit place bias := by
  unfold digitLimit; omega

/-- A number in digits from a place on: all digits but the last reach their limit. -/
def numeral (bias place n : Nat) : List Char :=
  let limit := digitLimit place bias
  if n < limit then [digitChar n]
  else
    digitChar (limit + (n - limit) % (36 - limit))
      :: numeral bias (place + 36) ((n - limit) / (36 - limit))
  termination_by n
  decreasing_by
    have := digitLimit_pos place bias
    exact Nat.lt_of_le_of_lt (Nat.div_le_self _ _) (by omega)

/-- The bias for a gap: 36 for each division by 35 that brings it down to 455, and a part of 36 for
what is left. -/
def biasFor (gap : Nat) : Nat :=
  if 455 < gap then 36 + biasFor (gap / 35) else 36 * gap / (gap + 38)
  termination_by gap
  decreasing_by exact Nat.div_lt_self (by omega) (by omega)

/-- A character that is put into a text: its code point, and how many characters of the text stand
before it. -/
structure Insertion where
  point : Nat
  position : Nat

/-- The insertions that build a label from its ASCII characters, in increasing code points and from
left to right. -/
def insertions (label : List Char) : List Insertion :=
  let placed := label.zipIdx.map fun (c, i) =>
    Insertion.mk c.toNat ((label.take i).countP fun d => d.toNat ≤ c.toNat)
  (placed.filter fun step => 128 ≤ step.point).mergeSort fun a b => a.point ≤ b.point

/-- The insertions into a text of `size` characters. Each is written as its distance from `start`
in the order by code point and then by position, and the next starts behind it. The distances are
damped for the bias, the first of all more than the others. -/
def spell (bias size damping : Nat) (start : Insertion) : List Insertion → List Char
  | [] => []
  | step :: rest =>
    let gap := (step.point - start.point) * (size + 1) + step.position - start.position
    let damped := gap / damping
    numeral bias 36 gap
      ++ spell (biasFor (damped + damped / (size + 1))) (size + 1) 2
        { step with position := step.position + 1 } rest

/-- The ASCII form of a label. -/
def bootstring (label : List Char) : List Char :=
  let basic := label.filter fun c => c.toNat < 128
  (if basic.isEmpty then [] else basic ++ ['-'])
    ++ spell 72 basic.length 700 ⟨128, 0⟩ (insertions label)

/-! ## Labels -/

/-- The characters whose use depends on their neighbours. -/
def fits (label : List Char) (before after : Option Char) (c : Char) : Bool :=
  let n := c.toNat
  let within (low high : Nat) (d : Char) := decide (low ≤ d.toNat ∧ d.toNat ≤ high)
  if Text.labelBoundaries.holds c then true
  else if n = 0xb7 then before == some 'l' && after == some 'l'
  else if n = 0x375 then after.any Text.greekBoundaries.holds
  else if n = 0x5f3 ∨ n = 0x5f4 then before.any Text.hebrewBoundaries.holds
  else if n = 0x30fb then label.any Text.japaneseBoundaries.holds
  else if within 0x660 0x669 c then !label.any (within 0x6f0 0x6f9)
  else if within 0x6f0 0x6f9 c then !label.any (within 0x660 0x669)
  else false

/-- Checks each character between its neighbours. -/
def allFit (label : List Char) : Option Char → List Char → Bool
  | _, [] => true
  | before, c :: rest => fits label before rest.head? c && allFit label (some c) rest

/-- The digits of Arabic, which count as written from right to left. -/
def isArabicDigit (c : Char) : Bool := 0x660 ≤ c.toNat && c.toNat ≤ 0x669

/-- The digits that are written from left to right. -/
def isPlainDigit (c : Char) : Bool := c.isDigit || (0x6f0 ≤ c.toNat && c.toNat ≤ 0x6f9)

/-- Characters that go with either direction. -/
def isNeutral (c : Char) : Bool :=
  c == '-' || c.toNat = 0xb7 || c.toNat = 0x375 || c.toNat = 0x30fb || Text.markBoundaries.holds c

/-- A label with letters from right to left begins with one and has no letters of the other
direction, and it has digits of one kind only. -/
def oneDirection (label : List Char) : Bool :=
  let isRight := Text.rightToLeftBoundaries.holds
  let fitsIn (c : Char) := isRight c || isArabicDigit c || isPlainDigit c || isNeutral c
  !label.any (fun c => isRight c || isArabicDigit c)
    || (label.head?.any isRight && label.all fitsIn
      && !(label.any isArabicDigit && label.any isPlainDigit))

/-- The labels that may be used. -/
def labelHolds (label : List Char) : Bool :=
  !label.isEmpty && (label.drop 2).take 2 != ['-', '-'] && label.head? != some '-'
    && label.getLast? != some '-' && !label.head?.any Text.markBoundaries.holds
    && allFit label none label && oneDirection label

/-- The ASCII form of one label. -/
def asciiLabel? (label : List Char) : Option (List Char) :=
  if label.all fun c => c.toNat < 128 then
    if label.length ≤ 63 ∧ (labelHolds label ∨ label.take 4 = "xn--".toList) then some label
    else none
  else if labelHolds label then
    let written := "xn--".toList ++ bootstring label
    if written.length ≤ 63 then some written else none
  else none

/-- The full stops of all scripts separate labels. -/
def asciiStops (name : List Char) : List Char :=
  name.map fun c => if c.toNat = 0x3002 ∨ c.toNat = 0xff0e ∨ c.toNat = 0xff61 then '.' else c

/-- The ASCII form of a name; one empty label may stand at its end. -/
def asciiName? (name : List Char) : Option (List Char) :=
  let labels := splitAll '.' (asciiStops name)
  let closed := labels.length ≠ 1 ∧ labels.getLast? = some []
  let named := if closed then labels.dropLast else labels
  (named.mapM asciiLabel?).bind fun written =>
    let text := ['.'].intercalate (if closed then written ++ [[]] else written)
    if text.length ≤ (if closed then 254 else 253) then some text else none

end RequestPipeline.Url.Domain
