import RequestPipeline.Session

/-!
# Drivers

The driver of a request takes steps of its session.  It keeps a journal, which no step can reach:
each phase that ran, each attempt, each answer of the retryer and each wait leave a mark.
-/

namespace RequestPipeline

/-- One thing that a driver did, with the sessions before and after it. -/
inductive Mark (κ μ : Type) where
  /-- A phase ran and perhaps stopped short. -/
  | phase (p : Phase) (before : Session κ μ) (ending : Except Stop Unit) (after : Session κ μ)
  /-- An attempt began. -/
  | attempt (s : Session κ μ)
  /-- The retryer was asked about another attempt. -/
  | decision (s : Session κ μ) (accepted : Bool)
  /-- A wait for another attempt, and whether the context had ended by then. -/
  | wait (before : Session κ μ) (seconds : Float) (ended : Bool) (after : Session κ μ)

/-- The result of a driver: its outcome, the session after it, and the marks of what it did in
order. -/
structure Course (κ μ α : Type) where
  outcome : Except Stop α
  after : Session κ μ
  marks : List (Mark κ μ)

/-- The course came to an outcome before the bound on its attempts. -/
def Course.IsFinished {κ μ α : Type} (c : Course κ μ α) : Prop := c.outcome ≠ .error .unfinished

instance {α : Type} (outcome : Except Stop α) : Decidable (outcome = .error .unfinished) :=
  match outcome with
  | .error .unfinished => .isTrue rfl
  | .ok _ => .isFalse nofun
  | .error (.raised _) => .isFalse nofun

instance {κ μ α : Type} (c : Course κ μ α) : Decidable c.IsFinished :=
  inferInstanceAs (Decidable (c.outcome ≠ .error .unfinished))

/-- A step of a driver. -/
structure Drive (κ μ α : Type) where
  run : Session κ μ → Course κ μ α

namespace Drive

variable {κ μ α β : Type}

/-- The second of two steps begins where the first one ends, unless that stopped. -/
instance : Monad (Drive κ μ) where
  pure a := ⟨fun s => ⟨.ok a, s, []⟩⟩
  bind d next := ⟨fun s =>
    let first := d.run s
    match first.outcome with
    | .ok a =>
      let second := (next a).run first.after
      ⟨second.outcome, second.after, first.marks ++ second.marks⟩
    | .error stop => ⟨.error stop, first.after, first.marks⟩⟩

/-- Takes a step of the session, which leaves no mark. -/
def take (step : Step κ μ α) : Drive κ μ α := ⟨fun s =>
  let (outcome, after) := step.run s
  ⟨outcome, after, []⟩⟩

def session : Drive κ μ (Session κ μ) := ⟨fun s => ⟨.ok s, s, []⟩⟩

def note (m : Mark κ μ) : Drive κ μ Unit := ⟨fun s => ⟨.ok (), s, [m]⟩⟩

/-- Runs a phase by the step that runs its hooks. -/
def noting (p : Phase) (step : Step κ μ Unit) : Drive κ μ Unit := ⟨fun s =>
  let (ending, after) := step.run s
  ⟨ending, after, [.phase p s ending after]⟩⟩

/-- Ends `d` with `last`, whatever its outcome.  A stop of `last` takes the place of that outcome;
what was given up before its end stays so. -/
def closedBy (d : Drive κ μ α) (last : Drive κ μ Unit) : Drive κ μ α := ⟨fun s =>
  let c := d.run s
  match c.outcome with
  | .error .unfinished => c
  | outcome =>
    let e := last.run c.after
    ⟨match e.outcome with
      | .ok () => outcome
      | .error stop => .error stop, e.after, c.marks ++ e.marks⟩⟩

/-- The driver as a step, without its marks. -/
def toStep (d : Drive κ μ α) : Step κ μ α := fun s =>
  let c := d.run s
  (c.outcome, c.after)

/-! ## What drivers do -/

section Run

variable (s : Session κ μ)

@[simp] theorem run_pure (a : α) : (pure a : Drive κ μ α).run s = ⟨.ok a, s, []⟩ := rfl

theorem run_bind (d : Drive κ μ α) (next : α → Drive κ μ β) :
    (d >>= next).run s =
      match (d.run s).outcome with
      | .ok a =>
        let second := (next a).run (d.run s).after
        ⟨second.outcome, second.after, (d.run s).marks ++ second.marks⟩
      | .error stop => ⟨.error stop, (d.run s).after, (d.run s).marks⟩ := rfl

@[simp] theorem run_take (step : Step κ μ α) :
    (take step).run s = ⟨(step.run s).1, (step.run s).2, []⟩ := rfl

@[simp] theorem run_session : (session : Drive κ μ _).run s = ⟨.ok s, s, []⟩ := rfl

@[simp] theorem run_note (m : Mark κ μ) : (note m).run s = ⟨.ok (), s, [m]⟩ := rfl

@[simp] theorem run_noting (p : Phase) (step : Step κ μ Unit) :
    (noting p step).run s =
      ⟨(step.run s).1, (step.run s).2, [.phase p s (step.run s).1 (step.run s).2]⟩ := rfl

theorem run_closedBy_of_unfinished {d : Drive κ μ α} (last : Drive κ μ Unit)
    (h : (d.run s).outcome = .error .unfinished) : (d.closedBy last).run s = d.run s := by
  simp [closedBy, h]

theorem run_closedBy_of_finished {d : Drive κ μ α} (last : Drive κ μ Unit)
    (h : (d.run s).outcome ≠ .error .unfinished) :
    (d.closedBy last).run s =
      let e := last.run (d.run s).after
      ⟨match e.outcome with
        | .ok () => (d.run s).outcome
        | .error stop => .error stop, e.after, (d.run s).marks ++ e.marks⟩ := by
  rcases hd : d.run s with ⟨(_ | _) | _, after, marks⟩
  · simp [closedBy, hd]
  · simp [hd] at h
  · simp [closedBy, hd]

@[simp] theorem run_toStep (d : Drive κ μ α) :
    d.toStep.run s = ((d.run s).outcome, (d.run s).after) := rfl

end Run

end Drive

end RequestPipeline
