/-!
# Similar words

`closest` suggests the words most like a mistyped one.  Two words agree in their longest common
run, and then in whatever agrees before it and after it.  Twice the number of characters in which
they agree, over the length of both together, is their ratio, and words are alike from a ratio of
three fifths on.
-/

namespace RequestPipeline.Text

/-- A run of characters that stands in both of two texts, with its place in each of them. -/
structure CommonRun where
  size : Nat
  left : Nat
  right : Nat
  deriving DecidableEq, Repr

/-- The number of characters that two texts have in common at their starts. -/
def commonStart : List Char → List Char → Nat
  | a :: s, b :: t => if a = b then commonStart s t + 1 else 0
  | _, _ => 0

/-- The common runs of two texts by their places, those early in the first text first. -/
def commonRuns (s t : List Char) : List CommonRun :=
  (List.range s.length).flatMap fun i =>
    (List.range t.length).map fun j => ⟨commonStart (s.drop i) (t.drop j), i, j⟩

/-- The longest common run; of several the first. -/
def longestRun (s t : List Char) : CommonRun :=
  (commonRuns s t).foldl (fun best run => if best.size < run.size then run else best) ⟨0, 0, 0⟩

/-- The agreement of two texts in at most so many runs, one inside the other. -/
def agreementWithin : (depth : Nat) → List Char → List Char → Nat
  | 0, _, _ => 0
  | depth + 1, s, t =>
    let run := longestRun s t
    if run.size = 0 then 0
    else run.size
      + agreementWithin depth (s.take run.left) (t.take run.right)
      + agreementWithin depth (s.drop (run.left + run.size)) (t.drop (run.right + run.size))

/-- The number of characters in which two texts agree.  Each run takes a character at least, so the
length of a text is depth enough. -/
def agreement (s t : List Char) : Nat := agreementWithin s.length s t

/-- A word with its agreement with another one, as a part of the length of both. -/
structure Likeness where
  word : String
  agreeing : Nat
  total : Nat
  deriving DecidableEq, Repr

namespace Likeness

def between (word other : String) : Likeness :=
  ⟨word, agreement word.toList other.toList, word.length + other.length⟩

/-- At least three fifths of the characters agree. -/
def isClose (a : Likeness) : Bool := 3 * a.total ≤ 10 * a.agreeing

/-- A word comes first if it is more like the other one; of words as like, the later one. -/
def comesFirst (a b : Likeness) : Bool :=
  let here := a.agreeing * b.total
  let there := b.agreeing * a.total
  there < here || here == there && decide (b.word ≤ a.word)

end Likeness

/-- The words that are like a given one, at most three, the most similar first. -/
def closest (given : String) (words : List String) : List String :=
  let alike := (words.map fun word => Likeness.between word given).filter Likeness.isClose
  ((alike.mergeSort Likeness.comesFirst).take 3).map Likeness.word

end RequestPipeline.Text
