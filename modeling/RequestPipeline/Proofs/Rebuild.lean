import RequestPipeline.Proofs.Order

/-!
# Building ahead

A request can be built before it is sent, any number of times.  A build remembers how it ended: by
the mark that the request has been built, or by the error it left.  So another build finds its work
done, and `send_after_builds` proves that sending a request that was built ahead is the rest of
sending it, whatever its hooks do short of raising a failure (`Mark.Returns`).
-/

namespace RequestPipeline

variable {κ μ α β : Type}

namespace Mark

/-- No hook raised a failure in the phase, if the mark is about one. -/
def Returns : Mark κ μ → Prop
  | .phase _ _ ending _ => ending = .ok ()
  | _ => True

instance (ending : Except Stop Unit) : Decidable (ending = .ok ()) :=
  match ending with
  | .ok () => .isTrue rfl
  | .error _ => .isFalse nofun

instance : DecidablePred (Returns : Mark κ μ → Prop) := fun m =>
  match m with
  | .phase _ _ ending _ => inferInstanceAs (Decidable (ending = .ok ()))
  | .attempt _ | .decision _ _ | .wait _ _ _ _ => .isTrue trivial

end Mark

/-- A course behind the marks of another one. -/
def Course.behind (ms : List (Mark κ μ)) (c : Course κ μ α) : Course κ μ α :=
  { c with marks := ms ++ c.marks }

namespace Drive

/-- Takes a step of the driver, whatever it comes to. -/
def regardless (d : Drive κ μ α) : Drive κ μ Unit := ⟨fun s =>
  let c := d.run s
  ⟨.ok (), c.after, c.marks⟩⟩

@[simp] theorem run_regardless (d : Drive κ μ α) (s : Session κ μ) :
    d.regardless.run s = ⟨.ok (), (d.run s).after, (d.run s).marks⟩ := rfl

section Build

variable (perform : κ → Step κ μ Unit)

/-- Builds a request a number of times, whatever that comes to. -/
def buildAhead : (times : Nat) → Drive κ μ Unit
  | 0 => pure ()
  | times + 1 => do
    regardless (build perform)
    buildAhead times

/-- A request that has an error is not built, and tells that error. -/
theorem run_build_of_error {s : Session κ μ} {id : FailureId} (herror : s.request.error = some id) :
    (build perform).run s = ⟨.error (.raised id), s, []⟩ := by
  simp [build, run_bind, herror]

/-- A request that has been built is not built again. -/
theorem run_build_of_built {s : Session κ μ} (hclean : s.request.error = none)
    (hbuilt : s.request.built = true) : (build perform).run s = ⟨.ok (), s, []⟩ := by
  simp [build, run_bind, hclean, hbuilt]

variable {perform}

/-- After a build in which no hook raised a failure, another one does nothing and says the same. -/
theorem build_again {s : Session κ μ} {c : Course κ μ Unit} (h : IsBuild perform s c)
    (hreturns : ∀ m ∈ c.marks, m.Returns) :
    (build perform).run c.after = ⟨c.outcome, c.after, []⟩ := by
  cases h with
  | failedBefore herror => exact run_build_of_error perform herror
  | builtBefore hclean hbuilt => exact run_build_of_built perform hclean hbuilt
  | validateStopped =>
    have hraised := hreturns _ List.mem_cons_self
    cases hraised
  | validateFailed _ _ _ herror =>
    exact run_build_of_error perform (by simpa using herror)
  | buildStopped =>
    have hraised := hreturns _ (List.mem_cons_of_mem _ List.mem_cons_self)
    cases hraised
  | buildFailed _ _ _ _ _ herror =>
    exact run_build_of_error perform (by simpa using herror)
  | built _ _ _ _ _ hdone => exact run_build_of_built perform hdone rfl

variable {s : Session κ μ}

/-- Where a build does nothing, any number of builds does. -/
theorem run_buildAhead_of_idle {outcome : Except Stop Unit}
    (hidle : (build perform).run s = ⟨outcome, s, []⟩) (times : Nat) :
    (buildAhead perform times).run s = ⟨.ok (), s, []⟩ := by
  induction times with
  | zero => rfl
  | succ times ih => simp [buildAhead, run_bind, hidle, ih]

/-- Builds ahead are the first of them. -/
theorem run_buildAhead (hreturns : ∀ m ∈ ((build perform).run s).marks, m.Returns) (times : Nat) :
    (buildAhead perform (times + 1)).run s =
      ⟨.ok (), ((build perform).run s).after, ((build perform).run s).marks⟩ := by
  have hagain := build_again (isBuild_run perform s) hreturns
  simp [buildAhead, run_bind, run_buildAhead_of_idle hagain times]

/-! ## What comes after a build -/

/-- The end of a driver does not depend on the marks before it. -/
theorem run_closedBy_behind {d : Drive κ μ α} {last : Drive κ μ Unit} {t : Session κ μ}
    {ms : List (Mark κ μ)} (h : d.run s = (d.run t).behind ms) :
    (d.closedBy last).run s = ((d.closedBy last).run t).behind ms := by
  by_cases hfinished : (d.run t).outcome = .error .unfinished
  · have hsame : (d.run s).outcome = .error .unfinished := by rw [h]; exact hfinished
    rw [run_closedBy_of_unfinished s _ hsame, run_closedBy_of_unfinished t _ hfinished, h]
  · have hsame : (d.run s).outcome ≠ .error .unfinished := by rw [h]; exact hfinished
    rw [run_closedBy_of_finished s _ hsame, run_closedBy_of_finished t _ hfinished, h]
    simp [Course.behind]

/-- The build is the first part of sending a request, and its outcome the only thing that the rest
asks about. -/
theorem run_send_of_build (limit : Nat)
    (hagain : (build perform).run ((build perform).run s).after =
      ⟨((build perform).run s).outcome, ((build perform).run s).after, []⟩) :
    (send perform limit).run s =
      ((send perform limit).run ((build perform).run s).after).behind
        ((build perform).run s).marks := by
  apply run_closedBy_behind
  simp only [deliver, run_bind, hagain]
  cases ((build perform).run s).outcome <;> simp [Course.behind]

/-- If no hook raises a failure in the first build of a request, building it ahead changes nothing
about sending it: the outcome, the session in the end with all that happened, and the marks on the
way are those of sending it at once.  Each build after the first one runs no hook, leaves the
session as it is and comes to what the first one came to. -/
theorem send_after_builds (perform : κ → Step κ μ Unit) (limit : Nat) (s : Session κ μ)
    (hreturns : ∀ m ∈ ((build perform).run s).marks, m.Returns) (times : Nat) :
    (do buildAhead perform times; send perform limit : Drive κ μ Value).run s =
      (send perform limit).run s ∧
    let built := ((buildAhead perform (times + 1)).run s).after
    (build perform).run built = ⟨((build perform).run s).outcome, built, []⟩ := by
  have hagain := build_again (isBuild_run perform s) hreturns
  refine ⟨?_, ?_⟩
  · cases times with
    | zero => simp [buildAhead, run_bind]
    | succ times =>
      rw [run_send_of_build limit hagain, run_bind, run_buildAhead hreturns]
      rfl
  · rw [run_buildAhead hreturns]
    exact hagain

end Build

/-- A request whose validate phase gives it another hook for the build phase, which moves its target
and lets time pass. -/
def growing : Session ScriptedHook RunCounts :=
  Session.plain "https://api.io" { Hooks.empty with
    validate := ⟨[.bare (.scripted 0 .validate none
      [.push .build false (.scripted (some "late") [.setUrl "https://b.io", .advance 1] [])] [])]⟩ }
    .never .none [] #[0]

theorem send_after_builds_of_growing :
    (∀ m ∈ ((build ScriptedHook.perform).run growing).marks, m.Returns) ∧
      Mark.phases ((build ScriptedHook.perform).run growing).marks = [.validate, .build] ∧
      (do buildAhead ScriptedHook.perform 2; send ScriptedHook.perform 1 : Drive _ _ Value).run
        growing = (send ScriptedHook.perform 1).run growing := by
  have hreturns : ∀ m ∈ ((build ScriptedHook.perform).run growing).marks, m.Returns := by decide
  exact ⟨hreturns, by decide, (send_after_builds ScriptedHook.perform 1 growing hreturns 2).1⟩

end Drive

end RequestPipeline
