import RequestPipeline.Hook

/-!
# Hook lists in a store

The entries of a hook list stand in a cell of a `HookStore`.  Pushing or removing a hook changes
the cell; every other `HookList.Change` puts the list into a new cell and leaves the old one as it
was.  A copy has a cell of its own.  `HookStore.forEach` is a loop over the entries of a list: it
holds the cell the list had when the loop began and goes through it index by index, while its body
may edit any list.
-/

namespace RequestPipeline

namespace HookList

/-- A change of a list; `α` is what can be put into it. -/
inductive Change (α : Type) where
  | pushBack (a : α)
  | pushFront (a : α)
  | remove (a : α)
  | removeByName (name : String)
  | swap (name : String) (a : α)
  | clear

/-- The same change with other things to put into the list. -/
def Change.map {α β : Type} (f : α → β) : Change α → Change β
  | .pushBack a => .pushBack (f a)
  | .pushFront a => .pushFront (f a)
  | .remove a => .remove (f a)
  | .removeByName name => .removeByName name
  | .swap name a => .swap name (f a)
  | .clear => .clear

end HookList

open HookList (Change Entry)

/-- Hook lists, known by their places, and the cells they stand in. -/
structure HookStore (κ : Type) where
  cells : List (HookList κ)
  /-- The cell of each list. -/
  lists : List Nat

namespace HookStore

variable {κ : Type}

def empty : HookStore κ := ⟨[], []⟩

/-- What a cell holds. -/
def cell (s : HookStore κ) (c : Nat) : HookList κ := s.cells.getD c .empty

/-- A list as it is now. -/
def get? (s : HookStore κ) (l : Nat) : Option (HookList κ) := s.lists[l]?.map s.cell

/-- All lists as they are now. -/
def contents (s : HookStore κ) : List (HookList κ) := s.lists.map s.cell

/-- Fills a new cell. -/
def allocate (s : HookStore κ) (h : HookList κ) : Nat × HookStore κ :=
  (s.cells.length, { s with cells := s.cells ++ [h] })

/-- Adds a list in a cell of its own. -/
def addList (s : HookStore κ) (h : HookList κ) : HookStore κ :=
  let (c, s) := s.allocate h
  { s with lists := s.lists ++ [c] }

/-- Changes the cell of a list. -/
def changeCell (s : HookStore κ) (l : Nat) (f : HookList κ → HookList κ) : HookStore κ :=
  match s.lists[l]? with
  | some c => { s with cells := s.cells.modify c f }
  | none => s

/-- Puts a list into a new cell, unless there is nothing to put there. -/
def moveList (s : HookStore κ) (l : Nat)
    (f : HookList κ → Except Failure.Reason (HookList κ)) : Except Failure.Reason (HookStore κ) :=
  match s.lists[l]? with
  | some c => do
    let h ← f (s.cell c)
    let (c, s) := s.allocate h
    pure { s with lists := s.lists.set l c }
  | none => .ok s

/-- Changes a list, in its cell or by a new one. -/
def change? [BEq κ] (s : HookStore κ) (l : Nat) :
    Change (Entry κ) → Except Failure.Reason (HookStore κ)
  | .pushBack e => .ok (s.changeCell l fun h => h.pushBack e)
  | .pushFront e => .ok (s.changeCell l fun h => h.pushFront e)
  | .remove e => .ok (s.changeCell l fun h => h.remove e)
  | .removeByName name => s.moveList l fun h => h.removeByName name
  | .swap name e => s.moveList l fun h => h.swap name e
  | .clear => s.moveList l fun _ => .ok .empty

/-! ## Edits -/

/-- What can be done to the lists of a store. -/
inductive Edit (α : Type) where
  | create (entries : List α)
  | copy (list : Nat)
  | change (list : Nat) (c : Change α)

/-- The same edit with other things to put into lists. -/
def Edit.map {α β : Type} (f : α → β) : Edit α → Edit β
  | .create entries => .create (entries.map f)
  | .copy l => .copy l
  | .change l c => .change l (c.map f)

variable [BEq κ]

/-- Makes an edit, if that can be done. -/
def edit? (s : HookStore κ) : Edit (Entry κ) → Except Failure.Reason (HookStore κ)
  | .create entries => .ok (s.addList (.ofEntries entries))
  | .copy l => match s.get? l with
    | some h => .ok (s.addList h)
    | none => .ok s
  | .change l c => s.change? l c

/-- Makes an edit; one that cannot be made leaves the store as it is. -/
def edit (s : HookStore κ) (e : Edit (Entry κ)) : HookStore κ :=
  match s.edit? e with
  | .ok s' => s'
  | .error _ => s

/-- Makes edits in order. -/
def editAll (s : HookStore κ) (edits : List (Edit (Entry κ))) : HookStore κ := edits.foldl edit s

/-! ## Loops -/

/-- What is done for an entry of a list: edits, an outcome, and what becomes of all that is no list.
-/
structure Visit (α ρ ε : Type) where
  edits : List (Edit α)
  outcome : Except ε Unit
  rest : ρ

/-- How a loop over the entries of a list went. -/
structure Loop (κ ρ ε : Type) where
  outcome : Except ε Unit
  store : HookStore κ
  rest : ρ
  /-- The entries that something was done for. -/
  visited : List (Entry κ)
  /-- The edits on the way. -/
  edits : List (Edit (Entry κ))

variable {ρ ε : Type}

/-- The loop with a visit in front. -/
def Loop.behind (loop : Loop κ ρ ε) (e : Entry κ) (edits : List (Edit (Entry κ))) : Loop κ ρ ε :=
  { loop with visited := e :: loop.visited, edits := edits ++ loop.edits }

/-- Goes on from an index of a cell until the cell has nothing there, for at most `limit` looks at
the cell.  A visit that stops ends the loop. -/
def loopFrom (visit : Entry κ → HookStore κ → ρ → Visit (Entry κ) ρ ε) (c : Nat) :
    (limit index : Nat) → HookStore κ → ρ → Option (Loop κ ρ ε)
  | 0, _, _, _ => none
  | limit + 1, index, s, r =>
    match (s.cell c).entries[index]? with
    | none => some ⟨.ok (), s, r, [], []⟩
    | some e =>
      let v := visit e s r
      let s := s.editAll v.edits
      match v.outcome with
      | .error stop => some ⟨.error stop, s, v.rest, [e], v.edits⟩
      | .ok () => (loopFrom visit c limit (index + 1) s v.rest).map (·.behind e v.edits)

/-- A loop over the entries that a list has when it begins. -/
def forEach (visit : Entry κ → HookStore κ → ρ → Visit (Entry κ) ρ ε) (l limit : Nat)
    (s : HookStore κ) (r : ρ) : Option (Loop κ ρ ε) :=
  match s.get? l with
  | some h =>
    let (c, s) := s.allocate h
    loopFrom visit c limit 0 s r
  | none => some ⟨.ok (), s, r, [], []⟩

/-- Runs the hooks of a list. -/
def run (perform : κ → HookStore κ → ρ → Visit (Entry κ) ρ ε) (l limit : Nat) (s : HookStore κ)
    (r : ρ) : Option (Loop κ ρ ε) :=
  forEach (fun e => perform e.callback) l limit s r

end HookStore

end RequestPipeline
