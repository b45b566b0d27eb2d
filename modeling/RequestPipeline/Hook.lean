import RequestPipeline.Failure

/-!
# Hooks

A hook is a callback with a name.  Each phase of a request has a list of hooks, in the order in
which they run; bare callbacks are given a name when they are put into a list, but not when they
replace a hook of it.
-/

namespace RequestPipeline

/-- A callback with a name. -/
structure Hook (κ : Type) where
  name : String
  callback : κ
  deriving DecidableEq, BEq, Repr

/-- The name given to bare callbacks, and shown for empty names. -/
def Hook.anonymous : String := "__anon"

/-- The name a list shows. -/
def Hook.shownName (h : Hook κ) : String := if h.name.isEmpty then Hook.anonymous else h.name

/-- A hook or a bare callback. -/
inductive HookList.Entry (κ : Type) where
  | hook (h : Hook κ)
  | bare (callback : κ)
  deriving DecidableEq, BEq, Repr

namespace HookList.Entry

variable {κ : Type}

/-- The hook that a bare callback becomes. -/
def asHook : Entry κ → Hook κ
  | .hook h => h
  | .bare callback => ⟨Hook.anonymous, callback⟩

def callback : Entry κ → κ
  | .hook h => h.callback
  | .bare callback => callback

def hook? : Entry κ → Option (Hook κ)
  | .hook h => some h
  | .bare _ => none

end HookList.Entry

/-- The hooks of one phase in the order in which they run. -/
structure HookList (κ : Type) where
  entries : List (HookList.Entry κ)
  deriving DecidableEq, BEq, Repr

namespace HookList

variable {κ : Type}

def empty : HookList κ := ⟨[]⟩

/-- A list of hooks and bare callbacks, all of which become hooks. -/
def ofEntries (entries : List (Entry κ)) : HookList κ := ⟨entries.map fun e => .hook e.asHook⟩

def length (l : HookList κ) : Nat := l.entries.length

/-- The callbacks of the list in the order in which they run. -/
def callbacks (l : HookList κ) : List κ := l.entries.map Entry.callback

def pushBack (l : HookList κ) (e : Entry κ) : HookList κ := ⟨l.entries ++ [.hook e.asHook]⟩

def pushFront (l : HookList κ) (e : Entry κ) : HookList κ := ⟨.hook e.asHook :: l.entries⟩

/-- Removes the first hook with the name and the callback of `e`. -/
def remove [BEq κ] (l : HookList κ) (e : Entry κ) : HookList κ :=
  ⟨l.entries.eraseP fun existing => existing == .hook e.asHook⟩

/-- The hooks of the list, unless it holds a bare callback. -/
def hooks? (l : HookList κ) : Except Failure.Reason (List (Hook κ)) :=
  match l.entries.mapM Entry.hook? with
  | some hooks => .ok hooks
  | none => .error (.noAttribute "function" "name")

/-- Removes every hook of a name. -/
def removeByName (l : HookList κ) (name : String) : Except Failure.Reason (HookList κ) := do
  let hooks ← l.hooks?
  pure ⟨(hooks.filter fun h => h.name != name).map .hook⟩

/-- Replaces every hook of a name. -/
def swap (l : HookList κ) (name : String) (e : Entry κ) : Except Failure.Reason (HookList κ) := do
  let hooks ← l.hooks?
  pure ⟨hooks.map fun h => if h.name == name then e else .hook h⟩

/-- The names shown for the hooks. -/
def names (l : HookList κ) : Except Failure.Reason (List String) := do
  let hooks ← l.hooks?
  pure (hooks.map Hook.shownName)

/-- The names with blanks between them. -/
def debug (l : HookList κ) : Except Failure.Reason String := do
  let names ← l.names
  pure (" ".intercalate names)

/-- The text of the list as a value. -/
def repr (l : HookList κ) : Except Failure.Reason String := do
  let names ← l.names
  let shown := (Value.list (names.map fun name : String => .str name)).repr
  pure s!"HookList({String.ofList shown})"

end HookList

/-- The phases of a request, in order. -/
inductive Phase where
  | validate
  | build
  | send
  | unmarshal
  | retry
  | complete
  deriving DecidableEq, Repr

namespace Phase

def all : List Phase := [.validate, .build, .send, .unmarshal, .retry, .complete]

def name : Phase → String
  | .validate => "validate"
  | .build => "build"
  | .send => "send"
  | .unmarshal => "unmarshal"
  | .retry => "retry"
  | .complete => "complete"

def ofName? (name : String) : Option Phase := all.find? fun p => p.name == name

end Phase

/-- A list of hooks for each phase. -/
structure Hooks (κ : Type) where
  validate : HookList κ
  build : HookList κ
  send : HookList κ
  unmarshal : HookList κ
  retry : HookList κ
  complete : HookList κ
  deriving DecidableEq, BEq, Repr

namespace Hooks

variable {κ : Type}

def empty : Hooks κ := ⟨.empty, .empty, .empty, .empty, .empty, .empty⟩

/-- The list of a phase. -/
def get (hs : Hooks κ) : Phase → HookList κ
  | .validate => hs.validate
  | .build => hs.build
  | .send => hs.send
  | .unmarshal => hs.unmarshal
  | .retry => hs.retry
  | .complete => hs.complete

/-- Replaces the list of a phase. -/
def set (hs : Hooks κ) (p : Phase) (l : HookList κ) : Hooks κ :=
  match p with
  | .validate => { hs with validate := l }
  | .build => { hs with build := l }
  | .send => { hs with send := l }
  | .unmarshal => { hs with unmarshal := l }
  | .retry => { hs with retry := l }
  | .complete => { hs with complete := l }

/-- Changes the list of a phase. -/
def modify (hs : Hooks κ) (p : Phase) (f : HookList κ → HookList κ) : Hooks κ :=
  hs.set p (f (hs.get p))

/-- Changes the list of a phase, if that can be done. -/
def modifyM (hs : Hooks κ) (p : Phase)
    (f : HookList κ → Except Failure.Reason (HookList κ)) : Except Failure.Reason (Hooks κ) :=
  (f (hs.get p)).map (hs.set p)

def isEmpty (hs : Hooks κ) : Bool := Phase.all.all fun p => (hs.get p).length == 0

/-- The names of the hooks of each phase. -/
def debug (hs : Hooks κ) : Except Failure.Reason (List (Phase × String)) :=
  Phase.all.mapM fun p => do
    let names ← (hs.get p).debug
    pure (p, names)

end Hooks

end RequestPipeline
