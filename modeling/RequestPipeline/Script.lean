import RequestPipeline.CoreHook
import RequestPipeline.Pipeline

/-!
# Scripted hooks

Hooks given as data: a scripted hook makes a list of changes to its request each time it runs, and
after them those of a list of its own for each of its first runs.  What a run count is needed for is
kept in the memory of the world, a place for each scripted hook.
-/

namespace RequestPipeline

open Text (Bytes Str)

mutual

/-- One thing that a scripted hook does. -/
inductive Action where
  /-- Appends to the data, which is made text first. -/
  | append (s : Str)
  | setData (v : Value)
  | setParams (v : Value)
  | setError (spec : Option FailureSpec)
  | raise (spec : FailureSpec)
  | setHeader (name value : String)
  | setBody (body : Option Bytes)
  | respond (r : Response)
  | advance (seconds : Float)
  | cancel (cause : Option FailureSpec)
  | mark (worthRetrying : Bool)
  | setUsed (n : Int)
  | setEndpoint (s : String)
  | setUrl (s : String)
  | setMethod (s : String)
  | push (p : Phase) (front : Bool) (h : HookSpec)
  /-- Records a snapshot of the request as an event. -/
  | look

/-- A hook to be made. -/
inductive HookSpec where
  | core (h : CoreHook)
  /-- A hook that makes the changes of `always` in each run, and then those of a list of its own in
  each of the first runs.  Without a name it is a bare callback. -/
  | scripted (name : Option String) (always : List Action) (runs : List (List Action))

end

/-- A hook in the list of a phase. -/
inductive ScriptedHook where
  | core (h : CoreHook)
  | scripted (place : Nat) (phase : Phase) (name : Option String) (always : List Action)
      (runs : List (List Action))

/-- The number of runs of each scripted hook so far. -/
abbrev RunCounts := Array Nat

/-- A step over scripted hooks. -/
abbrev ScriptStep := Step ScriptedHook RunCounts

namespace HookSpec

/-- Makes a hook for the list of a phase. -/
def make (counts : RunCounts) (p : Phase) : HookSpec → HookList.Entry ScriptedHook × RunCounts
  | .core h => (CoreHook.named .core h, counts)
  | .scripted name always runs =>
    let callback := ScriptedHook.scripted counts.size p name always runs
    (match name with
      | some name => .hook ⟨name, callback⟩
      | none => .bare callback, counts.push 0)

end HookSpec

namespace Action

open Step

/-- Makes a hook in the world of a session. -/
def makeHook (p : Phase) (spec : HookSpec) : ScriptStep (HookList.Entry ScriptedHook) := do
  let w ← getWorld
  let (entry, memory) := spec.make w.memory p
  modifyWorld fun w => { w with memory }
  pure entry

/-- A snapshot of the request in its session. -/
def sight (s : Session κ μ) : Sight where
  stage := s.request.stage
  error := s.request.error
  failures := s.world.failures
  used := s.request.budget.used
  status := s.request.response.map (·.status)
  hasTransmission := s.request.transmission.isSome
  clock := s.world.clock

/-- Makes a change. -/
def perform : Action → ScriptStep Unit
  | .append s => modifyRequest fun r =>
    { r with data := match r.data with
        | .str text => .str (text ++ s)
        | _ => .str s }
  | .setData v => modifyRequest fun r => { r with data := v }
  | .setParams v => modifyRequest fun r => { r with params := v }
  | .setError none => modifyRequest fun r => { r with error := none }
  | .setError (some spec) => do
    let id ← buildFailure spec
    Step.setError id
  | .raise spec => do
    let id ← buildFailure spec
    Step.raise id
  | .setHeader name value => CoreHook.setHeader name.toList value.toList
  | .setBody body => modifyRequest fun r => { r with body }
  | .respond response => modifyRequest fun r => { r with response := some response }
  | .advance seconds => Step.advance seconds
  | .cancel cause => Step.cancel cause
  | .mark worthRetrying => modifyRequest fun r => { r with budget.marked := worthRetrying }
  | .setUsed n => modifyRequest fun r => { r with budget.used := n }
  | .setEndpoint s => modifyRequest fun r => { r with config.endpoint := s }
  | .setUrl s => modifyRequest fun r => { r with url := s }
  | .setMethod s => modifyRequest fun r => { r with method := s }
  | .push p front spec => do
    let entry ← makeHook p spec
    modifyRequest fun r =>
      { r with hooks := r.hooks.modify p fun l =>
          if front then l.pushFront entry else l.pushBack entry }
  | .look => do
    let s ← get
    record (.seen (sight s))

/-- Makes changes in order. -/
def performAll : List Action → ScriptStep Unit
  | [] => pure ()
  | action :: rest => do
    perform action
    performAll rest

end Action

namespace ScriptedHook

open Step

/-- Runs a hook: its name is recorded, and then its changes are made. -/
def perform : ScriptedHook → ScriptStep Unit
  | .core h => h.perform
  | .scripted place phase name always runs => do
    record (.hook phase (Hook.shownName ⟨name.getD "", place⟩))
    let w ← getWorld
    let count := w.memory.getD place 0
    modifyWorld fun w => { w with memory := w.memory.setIfInBounds place (count + 1) }
    Action.performAll always
    Action.performAll (runs.getD count [])

/-- The default hooks, as scripted ones. -/
def template : Hooks ScriptedHook := CoreHook.template .core

end ScriptedHook

end RequestPipeline
