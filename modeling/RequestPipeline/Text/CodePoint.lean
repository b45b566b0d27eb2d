import RequestPipeline.Text.Bytes

/-!
# Code points

The text that a program holds is a sequence of Unicode code points.  Nearly all of them are
characters.  The others are surrogates: a JSON escape or a lenient decoder can put half of a UTF-16
pair into a text without its partner.  Such a text can be compared, quoted and written as JSON in
ASCII, but it has no form in UTF-8, so printing it fails.
-/

namespace RequestPipeline.Text

/-- A surrogate, the code unit that is half of a UTF-16 pair. -/
structure Half where
  unit : Nat
  isSurrogate : 0xd800 ≤ unit ∧ unit < 0xe000
  deriving DecidableEq, Repr

/-- A code point: a character, or a surrogate that stands alone. -/
inductive CodePoint where
  | char (c : Char)
  | half (h : Half)
  deriving DecidableEq, Repr

namespace CodePoint

/-- The code point of a number below `0x110000`. -/
def ofNat (n : Nat) : CodePoint :=
  if h : 0xd800 ≤ n ∧ n < 0xe000 then .half ⟨n, h⟩ else .char (Char.ofNat n)

def toNat : CodePoint → Nat
  | .char c => c.toNat
  | .half h => h.unit

def char? : CodePoint → Option Char
  | .char c => some c
  | .half _ => none

def half? : CodePoint → Option Half
  | .char _ => none
  | .half h => some h

end CodePoint

/-- Text as a sequence of code points. -/
abbrev Str := List CodePoint

namespace Str

/-- A text without surrogates. -/
def ofChars (s : List Char) : Str := s.map .char

def ofString (s : String) : Str := ofChars s.toList

/-- A string literal stands for the text of its characters. -/
instance : Coe String Str := ⟨ofString⟩

/-- The characters of a text, its surrogates left out. -/
def chars (s : Str) : List Char := s.filterMap CodePoint.char?

/-- The characters of a text, if it has no surrogates. -/
def chars? (s : Str) : Option (List Char) :=
  if s.any (·.half?.isSome) then none else some s.chars

/-- The text with each surrogate as the replacement marks of its three bytes. -/
def lossy (s : Str) : List Char :=
  s.flatMap fun
    | .char c => [c]
    | .half _ => List.replicate 3 (Char.ofNat 0xfffd)

/-- A surrogate as an escape with a backslash. -/
def escapeHalf (h : Half) : List Char := '\\' :: 'u' :: hexDigits 4 h.unit

/-- The text with each surrogate as an escape, as a stream for diagnostics prints it. -/
def escaped (s : Str) : List Char :=
  s.flatMap fun
    | .char c => [c]
    | .half h => escapeHalf h

@[simp] theorem ofChars_nil : ofChars [] = [] := rfl

@[simp] theorem ofChars_cons (c : Char) (s : List Char) :
    ofChars (c :: s) = .char c :: ofChars s := rfl

@[simp] theorem ofChars_append (s t : List Char) : ofChars (s ++ t) = ofChars s ++ ofChars t :=
  List.map_append

@[simp] theorem length_ofChars (s : List Char) : (ofChars s).length = s.length := List.length_map ..

@[simp] theorem ofChars_inj {s t : List Char} : ofChars s = ofChars t ↔ s = t := by
  refine ⟨fun h => ?_, congrArg ofChars⟩
  exact (List.map_inj_right fun _ _ h => CodePoint.char.inj h).1 h

@[simp] theorem ofString_inj {s t : String} : ofString s = ofString t ↔ s = t := by
  rw [ofString, ofString, ofChars_inj, String.toList_inj]

@[simp] theorem chars_ofChars (s : List Char) : (ofChars s).chars = s := by
  induction s with
  | nil => rfl
  | cons c s ih => exact congrArg (c :: ·) ih

@[simp] theorem chars?_ofChars (s : List Char) : chars? (ofChars s) = some s := by
  have hwhole : (ofChars s).any (·.half?.isSome) = false := by
    simp [ofChars, CodePoint.half?]
  rw [chars?, hwhole, chars_ofChars]
  rfl

@[simp] theorem chars?_ofString (s : String) : chars? (ofString s) = some s.toList :=
  chars?_ofChars _

/-- A text without surrogates is that of its characters. -/
theorem chars?_eq_some_iff {s : Str} {cs : List Char} : chars? s = some cs ↔ s = ofChars cs := by
  refine ⟨fun h => ?_, fun h => h ▸ chars?_ofChars cs⟩
  rw [chars?] at h
  split at h
  · cases h
  · rename_i hwhole
    obtain rfl := Option.some.inj h
    induction s with
    | nil => rfl
    | cons p s ih =>
      simp only [List.any_cons, Bool.or_eq_true, not_or] at hwhole
      cases p with
      | char c => exact congrArg (CodePoint.char c :: ·) (ih hwhole.2 rfl)
      | half h => exact absurd rfl hwhole.1

end Str

/-- Surrogates in a row, where a text cannot be encoded as UTF-8. -/
structure Unencodable where
  position : Nat
  halves : List Half
  deriving DecidableEq, Repr

def Unencodable.message (f : Unencodable) : String :=
  let quote := Char.ofNat 39
  let place := match f.halves with
    | [h] => "character ".toList ++ quote :: (Str.escapeHalf h ++ [quote])
        ++ s!" in position {f.position}".toList
    | hs => s!"characters in position {f.position}-{f.position + hs.length - 1}".toList
  s!"'utf-8' codec can't encode {String.ofList place}: surrogates not allowed"

/-- The characters of a text, or the first surrogates in it. -/
def Str.encodable (s : Str) : Except Unencodable (List Char) :=
  match s.chars? with
  | some cs => .ok cs
  | none =>
    let before := s.takeWhile fun p => p.half?.isNone
    let behind := s.dropWhile fun p => p.half?.isNone
    .error ⟨before.length, (behind.takeWhile fun p => p.half?.isSome).filterMap CodePoint.half?⟩

theorem Str.encodable_eq_ok_iff {s : Str} {cs : List Char} :
    s.encodable = .ok cs ↔ s = Str.ofChars cs := by
  rw [← Str.chars?_eq_some_iff, Str.encodable]
  cases s.chars? <;> simp

theorem Str.chars?_of_encodable_eq_error {s : Str} {fault : Unencodable}
    (h : s.encodable = .error fault) : s.chars? = none := by
  rw [Str.encodable] at h
  split at h
  · cases h
  · assumption

@[simp] theorem Str.encodable_ofChars (cs : List Char) : (Str.ofChars cs).encodable = .ok cs :=
  Str.encodable_eq_ok_iff.2 rfl

@[simp] theorem Str.encodable_ofString (s : String) : (Str.ofString s).encodable = .ok s.toList :=
  Str.encodable_ofChars _

end RequestPipeline.Text
