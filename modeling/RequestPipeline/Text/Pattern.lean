/-!
# Patterns

`Pattern` has the regular expressions of the highlighter, with named groups.  They are matched with
backtracking: of two alternatives the first that leads to a match counts, and a repetition takes as
much, or as little, as leads to one.  `Pattern.findAll` gives the groups of all matches that do not
overlap, from left to right.
-/

namespace RequestPipeline.Text

/-- Patterns with groups named by `γ`. -/
inductive Pattern (γ : Type) where
  | empty
  /-- A character of a kind. -/
  | char (p : Char → Bool)
  | seq (first second : Pattern γ)
  | either (first second : Pattern γ)
  /-- At least `least` and at most `most` times; an eager repetition takes as many as it can. -/
  | times (least : Nat) (most : Option Nat) (eager : Bool) (p : Pattern γ)
  /-- A passage with a name. -/
  | group (name : γ) (p : Pattern γ)
  /-- Nothing, between a character and another one that meet a condition. -/
  | between (condition : Option Char → Option Char → Bool)

/-- A place in a text: its number, the character before it, and the text after it. -/
structure Place where
  index : Nat
  before : Option Char
  after : List Char

/-- A named passage from its first character to the one after its last. -/
structure Passage (γ : Type) where
  name : γ
  first : Nat
  last : Nat

namespace Pattern

variable {γ : Type}

/-- What is left to match after a passage. -/
abbrev Rest (γ : Type) := Place → List (Passage γ) → Option (Place × List (Passage γ))

/-- Repeats a step at most `fuel` times, where those beyond `least` are optional and have to
advance. -/
def repeating (step : Place → List (Passage γ) → Rest γ → Option (Place × List (Passage γ)))
    (eager : Bool) : (least fuel : Nat) → Place → List (Passage γ) → Rest γ →
      Option (Place × List (Passage γ))
  | _, 0, place, passages, rest => rest place passages
  | 0, fuel + 1, place, passages, rest =>
    let more (_ : Unit) := step place passages fun next passages =>
      if place.index < next.index then repeating step eager 0 fuel next passages rest else none
    if eager then (more ()).orElse fun _ => rest place passages
    else (rest place passages).orElse more
  | least + 1, fuel + 1, place, passages, rest =>
    step place passages fun next passages => repeating step eager least fuel next passages rest

/-- Matches a pattern at a place and then the rest; passages are collected with the latest first. -/
def run : Pattern γ → Place → List (Passage γ) → Rest γ → Option (Place × List (Passage γ))
  | .empty, place, passages, rest => rest place passages
  | .char p, place, passages, rest =>
    match place.after with
    | [] => none
    | c :: more => if p c then rest ⟨place.index + 1, some c, more⟩ passages else none
  | .seq first second, place, passages, rest =>
    first.run place passages fun next passages => second.run next passages rest
  | .either first second, place, passages, rest =>
    (first.run place passages rest).orElse fun _ => second.run place passages rest
  | .times least most eager p, place, passages, rest =>
    repeating p.run eager least (most.getD (least + place.after.length)) place passages rest
  | .group name p, place, passages, rest =>
    p.run place passages fun next passages =>
      rest next (⟨name, place.index, next.index⟩ :: passages)
  | .between condition, place, passages, rest =>
    if condition place.before place.after.head? then rest place passages else none

/-- The place after a match and the passages of the match. -/
def match? (p : Pattern γ) (place : Place) : Option (Place × List (Passage γ)) :=
  (p.run place [] fun next passages => some (next, passages)).map fun (next, passages) =>
    (next, passages.reverse)

/-- The passages of the matches in a text, from left to right without overlap; `skip` characters
belong to the match before. -/
def findFrom (p : Pattern γ) (index : Nat) (before : Option Char) (skip : Nat) :
    List Char → List (Passage γ)
  | [] => match skip, p.match? ⟨index, before, []⟩ with
    | 0, some (_, passages) => passages
    | _, _ => []
  | c :: rest => match skip with
    | skip + 1 => findFrom p (index + 1) (some c) skip rest
    | 0 => match p.match? ⟨index, before, c :: rest⟩ with
      | none => findFrom p (index + 1) (some c) 0 rest
      | some (next, passages) =>
        passages ++ findFrom p (index + 1) (some c) (next.index - index - 1) rest

/-- The passages of all matches in a text. -/
def findAll (p : Pattern γ) (s : List Char) : List (Passage γ) := findFrom p 0 none 0 s

end Pattern

end RequestPipeline.Text
