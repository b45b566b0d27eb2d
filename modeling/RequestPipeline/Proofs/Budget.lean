import RequestPipeline.Proofs.Order

/-!
# The budget of retries

As long as no hook assigns the number of retries or its limit (`Mark.KeepsBudget`), the driver
alone counts, once before each wait, and asks the retryer before it counts.  `Accounts` ties the
budget after a part of a run to the attempts and the waits among its marks.  From this
`send_within_budget` gets that the loop ends, though nothing in it bounds it, and that each attempt
knows how many retries came before it.
-/

namespace RequestPipeline

variable {κ μ : Type}

namespace Session

/-- The number of retries so far. -/
def used (s : Session κ μ) : Int := s.request.budget.used

/-- The number of retries that are allowed. -/
def limit (s : Session κ μ) : Int := s.request.budget.limit

/-- How many more retries are allowed. -/
def left (s : Session κ μ) : Nat := (s.limit - s.used).toNat

section Budget

variable (s : Session κ μ) (place : String) (stage : Stage) (error : Option FailureId)
  (failures : Failures) (seconds : Float)

@[simp] theorem used_atStage : (s.atStage stage).used = s.used := rfl

@[simp] theorem limit_atStage : (s.atStage stage).limit = s.limit := rfl

@[simp] theorem used_withError : (s.withError error).used = s.used := rfl

@[simp] theorem limit_withError : (s.withError error).limit = s.limit := rfl

@[simp] theorem used_withFailures : (s.withFailures failures).used = s.used := rfl

@[simp] theorem limit_withFailures : (s.withFailures failures).limit = s.limit := rfl

@[simp] theorem used_failed : (s.failed place).used = s.used := by simp [used]

@[simp] theorem limit_failed : (s.failed place).limit = s.limit := by simp [limit]

@[simp] theorem used_asBuilt : s.asBuilt.used = s.used := rfl

@[simp] theorem limit_asBuilt : s.asBuilt.limit = s.limit := rfl

@[simp] theorem used_begun : s.begun.used = s.used := rfl

@[simp] theorem limit_begun : s.begun.limit = s.limit := rfl

@[simp] theorem used_counted : s.counted.used = s.used + 1 := rfl

@[simp] theorem limit_counted : s.counted.limit = s.limit := rfl

@[simp] theorem used_waited : (s.waited seconds).used = s.used := rfl

@[simp] theorem limit_waited : (s.waited seconds).limit = s.limit := rfl

@[simp] theorem used_prepared : s.prepared.used = s.used := rfl

@[simp] theorem limit_prepared : s.prepared.limit = s.limit := rfl

@[simp] theorem used_filled : s.filled.used = s.used := rfl

@[simp] theorem limit_filled : s.filled.limit = s.limit := rfl

@[simp] theorem used_closed : s.closed.used = s.used := by rw [closed]; split <;> rfl

@[simp] theorem limit_closed : s.closed.limit = s.limit := by rw [closed]; split <;> rfl

end Budget

/-- The retryer agrees within the budget only, whatever the mark of the request and the failure. -/
theorem of_acceptsRetry {s : Session κ μ} (h : s.acceptsRetry = true) :
    s.request.retryer ≠ .never ∧ s.limit ≠ 0 ∧ s.used < s.limit := by
  simp only [acceptsRetry, Retryer.accepts] at h
  rw [limit, used]
  split at h
  · cases h
  · rename_i progress hretryer
    split at h
    · cases h
    · split at h
      · cases h
      · exact ⟨by simp [hretryer], by assumption, by omega⟩

/-- The end of a wait leaves the budget alone. -/
theorem budget_of_stopEnded {s s₁ : Session κ μ} {failure id : FailureId}
    (h : (Request.stopEnded failure : Step κ μ Unit).run s = (.error (.raised id), s₁)) :
    s₁.used = s.used ∧ s₁.limit = s.limit := by
  simp only [used, limit]
  cases hend : s.isEnded with
  | true =>
    obtain ⟨_, _, hrun, hrequest⟩ := Request.run_stopEnded_of_ended s failure hend
    obtain rfl : _ = s₁ := congrArg Prod.snd (hrun.symm.trans h)
    simp [hrequest]
  | false =>
    obtain ⟨_, _, hrun, hrequest⟩ := Request.run_stopEnded_of_live s failure hend
    obtain rfl : _ = s₁ := congrArg Prod.snd (hrun.symm.trans h)
    simp [hrequest]

end Session

namespace Mark

/-- The session that a mark of an attempt has. -/
def attempt? : Mark κ μ → Option (Session κ μ)
  | .attempt s => some s
  | _ => none

/-- The attempts, by the sessions they began in. -/
def attempts (ms : List (Mark κ μ)) : List (Session κ μ) := ms.filterMap attempt?

/-- The length that a mark of a wait has. -/
def wait? : Mark κ μ → Option Float
  | .wait _ seconds _ _ => some seconds
  | _ => none

/-- The lengths of the waits. -/
def waits (ms : List (Mark κ μ)) : List Float := ms.filterMap wait?

/-- The sessions of a mark. -/
def sessions : Mark κ μ → List (Session κ μ)
  | .phase _ before _ after => [before, after]
  | .attempt s => [s]
  | .decision s _ => [s]
  | .wait before _ _ after => [before, after]

/-- A phase, if the mark is about one, was not given up and has the budget in the end that it had in
the beginning. -/
def KeepsBudget : Mark κ μ → Prop
  | .phase _ before ending after =>
    ending ≠ .error .unfinished ∧ after.used = before.used ∧ after.limit = before.limit
  | _ => True

instance : DecidablePred (KeepsBudget : Mark κ μ → Prop) := fun m =>
  match m with
  | .phase _ before ending after => inferInstanceAs (Decidable
    (ending ≠ .error .unfinished ∧ after.used = before.used ∧ after.limit = before.limit))
  | .attempt _ | .decision _ _ | .wait _ _ _ _ => .isTrue trivial

@[simp] theorem attempts_append (ms ns : List (Mark κ μ)) :
    attempts (ms ++ ns) = attempts ms ++ attempts ns := List.filterMap_append

@[simp] theorem waits_append (ms ns : List (Mark κ μ)) :
    waits (ms ++ ns) = waits ms ++ waits ns := List.filterMap_append

section Cons

variable (p : Phase) (before after s : Session κ μ) (ending : Except Stop Unit) (accepted : Bool)
  (seconds : Float) (ended : Bool) (ms : List (Mark κ μ))

@[simp] theorem attempts_nil : attempts ([] : List (Mark κ μ)) = [] := rfl

@[simp] theorem attempts_phase : attempts (.phase p before ending after :: ms) = attempts ms := rfl

@[simp] theorem attempts_attempt : attempts (.attempt s :: ms) = s :: attempts ms := rfl

@[simp] theorem attempts_decision : attempts (.decision s accepted :: ms) = attempts ms := rfl

@[simp] theorem attempts_wait :
    attempts (.wait before seconds ended after :: ms) = attempts ms := rfl

@[simp] theorem waits_nil : waits ([] : List (Mark κ μ)) = [] := rfl

@[simp] theorem waits_phase : waits (.phase p before ending after :: ms) = waits ms := rfl

@[simp] theorem waits_attempt : waits (.attempt s :: ms) = waits ms := rfl

@[simp] theorem waits_decision : waits (.decision s accepted :: ms) = waits ms := rfl

@[simp] theorem waits_wait :
    waits (.wait before seconds ended after :: ms) = seconds :: waits ms := rfl

end Cons

end Mark

namespace Drive

open Request

variable {perform : κ → Step κ μ Unit}

/-! ## Bounds on the number of attempts -/

/-- A loop that came to its end had no use for a larger bound. -/
theorem attempts_run_add (limit more : Nat) (s : Session κ μ)
    (h : ((attempts perform limit).run s).IsFinished) :
    (attempts perform (limit + more)).run s = (attempts perform limit).run s := by
  induction limit generalizing s with
  | zero => exact absurd rfl h
  | succ limit ih =>
    rw [Nat.succ_add]
    simp only [attempts, run_bind] at h ⊢
    rcases hround : (round perform).run s with ⟨stop | _ | v, s₁, ms⟩
    · rfl
    · simp only [hround] at h ⊢
      rw [ih s₁ h]
    · rfl

theorem deliver_run_add (limit more : Nat) (s : Session κ μ)
    (h : ((deliver perform limit).run s).IsFinished) :
    (deliver perform (limit + more)).run s = (deliver perform limit).run s := by
  simp only [deliver, run_bind] at h ⊢
  rcases hbuild : (build perform).run s with ⟨stop | _, s₁, ms⟩
  · rfl
  · simp only [hbuild, run_take, run_startClock] at h ⊢
    rw [attempts_run_add limit more _ h]

/-- A run that was not given up has no use for a larger bound. -/
theorem send_run_add (limit more : Nat) (s : Session κ μ)
    (h : ((send perform limit).run s).IsFinished) :
    (send perform (limit + more)).run s = (send perform limit).run s := by
  have hdeliver : ((deliver perform limit).run s).IsFinished := by
    intro hunfinished
    rw [send, run_closedBy_of_unfinished s _ hunfinished] at h
    exact h hunfinished
  have hsame := deliver_run_add limit more s hdeliver
  simp only [send]
  rw [run_closedBy_of_finished s _ hdeliver, run_closedBy_of_finished s _ (hsame ▸ hdeliver), hsame]

/-! ## Accounts -/

/-- A part of a run from `s` to `s'` counts the retries by its waits, and never has more of them in
between than in the end. -/
structure Accounts (s s' : Session κ μ) (ms : List (Mark κ μ)) : Prop where
  used : s'.used = s.used + (Mark.waits ms).length
  limit : s'.limit = s.limit
  below : ∀ m ∈ ms, ∀ t ∈ m.sessions, t.used ≤ s'.used

namespace Accounts

variable {s s₁ s₂ : Session κ μ} {ms ns : List (Mark κ μ)}

theorem refl (s : Session κ μ) : Accounts s s [] := ⟨by simp, rfl, by simp⟩

/-- A step that leaves the budget has nothing to account for. -/
theorem step (h : Accounts s s₁ ms) (hused : s₂.used = s₁.used) (hlimit : s₂.limit = s₁.limit) :
    Accounts s s₂ ms := by
  refine ⟨hused.trans h.used, hlimit.trans h.limit, ?_⟩
  intro m hm t ht
  rw [hused]
  exact h.below m hm t ht

theorem atStage (h : Accounts s s₁ ms) (stage : Stage) : Accounts s (s₁.atStage stage) ms :=
  h.step rfl rfl

theorem failed (h : Accounts s s₁ ms) (place : String) : Accounts s (s₁.failed place) ms :=
  h.step (by simp) (by simp)

theorem append (h : Accounts s s₁ ms) (h' : Accounts s₁ s₂ ns) : Accounts s s₂ (ms ++ ns) := by
  have hused := h.used
  have hused' := h'.used
  refine ⟨?_, h'.limit.trans h.limit, ?_⟩
  · simp only [Mark.waits_append, List.length_append]
    omega
  · intro m hm t ht
    rcases List.mem_append.1 hm with hm | hm
    · have := h.below m hm t ht
      omega
    · exact h'.below m hm t ht

/-- A mark without a wait says nothing of the budget beyond that of its last session. -/
theorem mark {m : Mark κ μ} (hwaits : Mark.waits [m] = []) (hlimit : s₁.limit = s.limit)
    (hused : s₁.used = s.used) (hsessions : ∀ t ∈ m.sessions, t.used = s.used) :
    Accounts s s₁ [m] := by
  refine ⟨by simp [hwaits, hused], hlimit, ?_⟩
  intro m' hm t ht
  obtain rfl := List.mem_singleton.1 hm
  exact Int.le_of_eq ((hsessions t ht).trans hused.symm)

theorem phase {p : Phase} {ending : Except Stop Unit}
    (hkeeps : (Mark.phase p s ending s₁).KeepsBudget) : Accounts s s₁ [.phase p s ending s₁] := by
  obtain ⟨-, hused, hlimit⟩ := hkeeps
  refine .mark rfl hlimit hused ?_
  intro t ht
  obtain rfl | rfl : t = s ∨ t = s₁ := by simpa [Mark.sessions] using ht
  · rfl
  · exact hused

theorem attempt (s : Session κ μ) : Accounts s s [.attempt s] := by
  refine .mark rfl rfl rfl ?_
  intro t ht
  rw [List.mem_singleton.1 ht]

theorem decision (s : Session κ μ) (accepted : Bool) : Accounts s s [.decision s accepted] := by
  refine .mark rfl rfl rfl ?_
  intro t ht
  rw [List.mem_singleton.1 ht]

/-- A retry is counted before its wait. -/
theorem wait (s : Session κ μ) (seconds : Float) (ended : Bool) :
    Accounts s (s.counted.waited seconds)
      [.wait s.counted seconds ended (s.counted.waited seconds)] := by
  refine ⟨by simp, by simp, ?_⟩
  intro m hm t ht
  obtain rfl := List.mem_singleton.1 hm
  obtain rfl | rfl : t = s.counted ∨ t = s.counted.waited seconds := by
    simpa [Mark.sessions] using ht
  · simp
  · exact Int.le_refl _

end Accounts

theorem accounts_isBuild {s : Session κ μ} {c : Course κ μ Unit} (h : IsBuild perform s c)
    (hkeeps : ∀ m ∈ c.marks, m.KeepsBudget) :
    c.IsFinished ∧ Accounts s c.after c.marks ∧ Mark.attempts c.marks = [] ∧
      Mark.waits c.marks = [] := by
  cases h <;> simp only [List.forall_mem_cons] at hkeeps
  case failedBefore herror => exact ⟨nofun, .refl s, rfl, rfl⟩
  case builtBefore hclean hbuilt => exact ⟨nofun, .refl s, rfl, rfl⟩
  case validateStopped hclean hbuilt hvalidate =>
    obtain ⟨hvalidates, -⟩ := hkeeps
    exact ⟨fun h => hvalidates.1 (by cases h; rfl), .phase hvalidates, rfl, rfl⟩
  case validateFailed hclean hbuilt hvalidate herror =>
    obtain ⟨hvalidates, -⟩ := hkeeps
    exact ⟨nofun, (Accounts.phase hvalidates).failed _, rfl, rfl⟩
  case buildStopped hclean hbuilt hvalidate hvalid hbuild =>
    obtain ⟨hvalidates, hbuilds, -⟩ := hkeeps
    have hbefore := (Accounts.phase hvalidates).atStage .validated
    exact ⟨fun h => hbuilds.1 (by cases h; rfl), hbefore.append (.phase hbuilds), rfl, rfl⟩
  case buildFailed hclean hbuilt hvalidate hvalid hbuild herror =>
    obtain ⟨hvalidates, hbuilds, -⟩ := hkeeps
    have hbefore := (Accounts.phase hvalidates).atStage .validated
    exact ⟨nofun, (hbefore.append (.phase hbuilds)).failed _, rfl, rfl⟩
  case built hclean hbuilt hvalidate hvalid hbuild hdone =>
    obtain ⟨hvalidates, hbuilds, -⟩ := hkeeps
    have hbefore := (Accounts.phase hvalidates).atStage .validated
    exact ⟨nofun, (hbefore.append (.phase hbuilds)).step rfl rfl, rfl, rfl⟩

theorem accounts_isAttempt {s : Session κ μ} {c : Course κ μ (Option FailureId)}
    (h : IsAttempt perform s c) (hkeeps : ∀ m ∈ c.marks, m.KeepsBudget) :
    c.IsFinished ∧ Accounts s c.after c.marks ∧ Mark.attempts c.marks = [s] ∧
      Mark.waits c.marks = [] := by
  have hattempt := Accounts.attempt s
  cases h <;> simp only [List.forall_mem_cons] at hkeeps
  case cancelled hended hcancel =>
    exact ⟨nofun, hattempt.step (by simp) (by simp), rfl, rfl⟩
  case sendStopped hlive hsend =>
    obtain ⟨-, hsends, -⟩ := hkeeps
    exact ⟨fun h => hsends.1 (by cases h; rfl), hattempt.append (.phase hsends), rfl, rfl⟩
  case sendFailed hlive hsend herror =>
    obtain ⟨-, hsends, -⟩ := hkeeps
    exact ⟨nofun, (hattempt.append (.phase hsends)).failed _, rfl, rfl⟩
  case unmarshalStopped hlive hsend hsent hunmarshal =>
    obtain ⟨-, hsends, hunmarshals, -⟩ := hkeeps
    have hbefore := (hattempt.append (.phase hsends)).atStage .sent
    exact ⟨fun h => hunmarshals.1 (by cases h; rfl), hbefore.append (.phase hunmarshals), rfl, rfl⟩
  case unmarshalFailed hlive hsend hsent hunmarshal herror =>
    obtain ⟨-, hsends, hunmarshals, -⟩ := hkeeps
    have hbefore := (hattempt.append (.phase hsends)).atStage .sent
    exact ⟨nofun, (hbefore.append (.phase hunmarshals)).failed _, rfl, rfl⟩
  case succeeded hlive hsend hsent hunmarshal hdone =>
    obtain ⟨-, hsends, hunmarshals, -⟩ := hkeeps
    have hbefore := (hattempt.append (.phase hsends)).atStage .sent
    exact ⟨nofun, hbefore.append (.phase hunmarshals), rfl, rfl⟩

theorem accounts_isInterval {failure : FailureId} {s : Session κ μ} {c : Course κ μ Unit}
    (h : IsInterval perform failure s c) (hkeeps : ∀ m ∈ c.marks, m.KeepsBudget) :
    c.IsFinished ∧ Accounts s c.after c.marks ∧ Mark.attempts c.marks = [] ∧
      (Mark.waits c.marks).length ≤ 1 ∧ (c.outcome = .ok () → (Mark.waits c.marks).length = 1) := by
  cases h <;> simp only [List.forall_mem_cons] at hkeeps
  case retryStopped hretry =>
    obtain ⟨hretries, -⟩ := hkeeps
    exact ⟨fun h => hretries.1 (by cases h; rfl), .phase hretries, rfl, by simp, nofun⟩
  case replaced hretry herror hother =>
    obtain ⟨hretries, -⟩ := hkeeps
    exact ⟨nofun, (Accounts.phase hretries).failed _, rfl, by simp, nofun⟩
  case ended s₁ id s₂ hretry hkept hwait hstop =>
    obtain ⟨hretries, -⟩ := hkeeps
    obtain ⟨hused, hlimit⟩ := Session.budget_of_stopEnded hstop
    have hbefore := (Accounts.phase hretries).append (.wait s₁ s₁.request.retryer.delay.1 true)
    exact ⟨nofun, hbefore.step hused hlimit, rfl, by simp, nofun⟩
  case elapsed s₁ hretry hkept hwait =>
    obtain ⟨hretries, -⟩ := hkeeps
    have hbefore := (Accounts.phase hretries).append (.wait s₁ s₁.request.retryer.delay.1 false)
    exact ⟨nofun, hbefore.step rfl rfl, rfl, by simp, fun _ => rfl⟩

/-- A round counts at most one retry, and only within the budget. -/
structure RoundAccounts (s : Session κ μ) (c : Course κ μ (Option Value)) : Prop where
  finished : c.IsFinished
  accounts : Accounts s c.after c.marks
  one : Mark.attempts c.marks = [s.withError none]
  waits_le : (Mark.waits c.marks).length ≤ 1
  waits_again : c.outcome = .ok none → (Mark.waits c.marks).length = 1
  allowed : Mark.waits c.marks ≠ [] → s.limit ≠ 0 ∧ s.used < s.limit ∧
    ∃ t, .decision t true ∈ c.marks ∧ t.request.retryer ≠ .never

namespace Accounts

variable {s s₁ s₂ : Session κ μ} {ms : List (Mark κ μ)}

theorem of_withError {error : Option FailureId} (h : Accounts (s.withError error) s₁ ms) :
    Accounts s s₁ ms := ⟨h.used, h.limit, h.below⟩

/-- After an attempt, which waits for nothing, the retryer agrees within the budget only. -/
theorem allowed (h : Accounts s s₁ ms) (hnone : Mark.waits ms = [])
    (haccepted : s₁.acceptsRetry = true) :
    s.limit ≠ 0 ∧ s.used < s.limit ∧ s₁.request.retryer ≠ .never := by
  obtain ⟨hretryer, hlimit, hused⟩ := Session.of_acceptsRetry haccepted
  have hcount : s₁.used = s.used := by simpa [hnone] using h.used
  rw [h.limit] at hlimit hused
  rw [hcount] at hused
  exact ⟨hlimit, hused, hretryer⟩

end Accounts

theorem roundAccounts_isRound {s : Session κ μ} {c : Course κ μ (Option Value)}
    (h : IsRound perform s c) (hkeeps : ∀ m ∈ c.marks, m.KeepsBudget) : RoundAccounts s c := by
  cases h with
  | @attemptStopped stop s₁ ms hattempt =>
    obtain ⟨hfinished, hacc, hone, hnone⟩ := accounts_isAttempt hattempt hkeeps
    exact ⟨fun h => hfinished (by cases h; rfl), hacc.of_withError, hone, by simp [hnone], nofun,
      fun hsome => absurd hnone hsome⟩
  | succeeded hattempt =>
    obtain ⟨-, hacc, hone, hnone⟩ := accounts_isAttempt hattempt hkeeps
    exact ⟨nofun, hacc.of_withError.step rfl rfl, hone, by simp [hnone], nofun,
      fun hsome => absurd hnone hsome⟩
  | @declined failure s₁ ms hattempt hdeclined =>
    obtain ⟨hkeeps, -⟩ := List.forall_mem_append.1 hkeeps
    obtain ⟨-, hacc, hone, hnone⟩ := accounts_isAttempt hattempt hkeeps
    exact ⟨nofun, hacc.of_withError.append (.decision s₁ false), by simpa using hone,
      by simp [hnone], nofun, fun hsome => absurd (by simp [hnone]) hsome⟩
  | @intervalStopped failure s₁ ms stop s₂ ns hattempt haccepted hinterval =>
    obtain ⟨hkeeps, hkeeps'⟩ := List.forall_mem_append.1 hkeeps
    obtain ⟨-, hacc, hone, hnone⟩ := accounts_isAttempt hattempt hkeeps
    obtain ⟨hfinished, hacc', hone', hle, -⟩ :=
      accounts_isInterval hinterval (List.forall_mem_cons.1 hkeeps').2
    obtain ⟨hlimit, hused, hretryer⟩ := hacc.of_withError.allowed hnone haccepted
    have hlater := (Accounts.decision s₁ true).append hacc'
    exact ⟨fun h => hfinished (by cases h; rfl), hacc.of_withError.append hlater,
      by simp [hone, hone'], by simpa [hnone] using hle, nofun,
      fun _ => ⟨hlimit, hused, s₁, by simp, hretryer⟩⟩
  | @again failure s₁ ms s₂ ns hattempt haccepted hinterval =>
    obtain ⟨hkeeps, hkeeps'⟩ := List.forall_mem_append.1 hkeeps
    obtain ⟨-, hacc, hone, hnone⟩ := accounts_isAttempt hattempt hkeeps
    obtain ⟨-, hacc', hone', hle, hwaits⟩ :=
      accounts_isInterval hinterval (List.forall_mem_cons.1 hkeeps').2
    obtain ⟨hlimit, hused, hretryer⟩ := hacc.of_withError.allowed hnone haccepted
    have hlater := (Accounts.decision s₁ true).append hacc'
    exact ⟨nofun, hacc.of_withError.append hlater, by simp [hone, hone'],
      by simpa [hnone] using hle, fun _ => by simpa [hnone] using hwaits rfl,
      fun _ => ⟨hlimit, hused, s₁, by simp, hretryer⟩⟩

/-- A part of a run comes to an end within the budget that it finds in `s`. -/
structure WithinBudget {α : Type} (s : Session κ μ) (c : Course κ μ α) : Prop where
  finished : c.IsFinished
  accounts : Accounts s c.after c.marks
  count : ∀ (i : Nat) (t : Session κ μ), (Mark.attempts c.marks)[i]? = some t → t.used = s.used + i
  attempts_le : (Mark.attempts c.marks).length ≤ (Mark.waits c.marks).length + 1
  waits_le : (Mark.waits c.marks).length ≤ s.left
  allowed : Mark.waits c.marks ≠ [] →
    s.limit ≠ 0 ∧ ∃ t, .decision t true ∈ c.marks ∧ t.request.retryer ≠ .never

/-- A round that is the last one. -/
theorem WithinBudget.of_round {s : Session κ μ} {c : Course κ μ (Option Value)}
    (h : RoundAccounts s c) {o : Except Stop Value} (hfinished : o ≠ .error .unfinished) :
    WithinBudget s ⟨o, c.after, c.marks⟩ := by
  refine ⟨hfinished, h.accounts, ?_, by simp [h.one], ?_, ?_⟩
  · intro i t ht
    rw [h.one] at ht
    obtain ⟨rfl, rfl⟩ : i = 0 ∧ s.withError none = t := by
      rcases i with _ | i
      · exact ⟨rfl, Option.some.inj ht⟩
      · cases ht
    simp
  · by_cases hnone : Mark.waits c.marks = []
    · simp [hnone]
    · have hle := h.waits_le
      obtain ⟨-, hused, -⟩ := h.allowed hnone
      have hleft : 1 ≤ s.left := by
        rw [Session.left]
        omega
      exact Nat.le_trans hle hleft
  · intro hsome
    obtain ⟨hzero, -, hdecision⟩ := h.allowed hsome
    exact ⟨hzero, hdecision⟩

namespace RoundAccounts

variable {s s₁ s₂ : Session κ μ} {o : Except Stop Value} {ms ns : List (Mark κ μ)}

theorem waits_ne_nil (h : RoundAccounts s ⟨.ok none, s₁, ms⟩) : Mark.waits ms ≠ [] := by
  intro hnone
  have hwaits := h.waits_again rfl
  simp [hnone] at hwaits

/-- A round before another one uses up a retry. -/
theorem left (h : RoundAccounts s ⟨.ok none, s₁, ms⟩) : s₁.left + 1 = s.left := by
  obtain ⟨-, hused, -⟩ := h.allowed h.waits_ne_nil
  have hused₁ : s₁.used = s.used + 1 := by simpa [h.waits_again rfl] using h.accounts.used
  have hlimit₁ : s₁.limit = s.limit := h.accounts.limit
  simp only [Session.left]
  omega

/-- A round comes before what is within the budget after it. -/
theorem withinBudget (h : RoundAccounts s ⟨.ok none, s₁, ms⟩)
    (hlater : WithinBudget s₁ ⟨o, s₂, ns⟩) : WithinBudget s ⟨o, s₂, ms ++ ns⟩ := by
  refine ⟨hlater.finished, h.accounts.append hlater.accounts, ?_, ?_, ?_, fun _ => ?_⟩
  · intro i t ht
    simp only [Mark.attempts_append, h.one, List.singleton_append] at ht
    rcases i with _ | i
    · obtain rfl : s.withError none = t := by simpa using ht
      simp
    · have hused : s₁.used = s.used + 1 := by simpa [h.waits_again rfl] using h.accounts.used
      have hcount := hlater.count i t (by simpa using ht)
      push_cast
      omega
  · have hle := hlater.attempts_le
    simpa [h.one, h.waits_again rfl, Nat.add_comm] using hle
  · have hle : (Mark.waits ns).length ≤ s₁.left := hlater.waits_le
    have hleft := h.left
    simp only [Mark.waits_append, List.length_append, h.waits_again rfl]
    omega
  · obtain ⟨hzero, -, t, ht, hnever⟩ := h.allowed h.waits_ne_nil
    exact ⟨hzero, t, List.mem_append_left _ ht, hnever⟩

end RoundAccounts

/-- The loop ends within its budget, if its bound is above that. -/
theorem withinBudget_attempts (limit : Nat) (s : Session κ μ) (hlimit : s.left < limit)
    (hkeeps : ∀ m ∈ ((attempts perform limit).run s).marks, m.KeepsBudget) :
    WithinBudget s ((attempts perform limit).run s) := by
  induction limit generalizing s with
  | zero => exact absurd hlimit (Nat.not_lt_zero _)
  | succ limit ih =>
    have hround := isRound_run perform s
    simp only [attempts, run_bind] at hkeeps ⊢
    rcases hr : (round perform).run s with ⟨stop | _ | v, s₁, ms⟩ <;>
      rw [hr] at hround <;> simp only [hr, run_pure, List.append_nil] at hkeeps ⊢
    · have hacc := roundAccounts_isRound hround hkeeps
      exact .of_round hacc fun hstop => hacc.finished (by cases hstop; rfl)
    · obtain ⟨hfirst, hrest⟩ := List.forall_mem_append.1 hkeeps
      have hacc := roundAccounts_isRound hround hfirst
      have hleft := hacc.left
      exact hacc.withinBudget (ih s₁ (by omega) hrest)
    · have hacc := roundAccounts_isRound hround hkeeps
      exact .of_round hacc (by simp)

/-- A part of a run without attempts and waits changes nothing about the budget before another. -/
theorem WithinBudget.after {α : Type} {s s₁ s₂ : Session κ μ} {o : Except Stop α}
    {ms ns : List (Mark κ μ)} (hfirst : Accounts s s₁ ms) (hattempts : Mark.attempts ms = [])
    (hwaits : Mark.waits ms = []) (h : WithinBudget s₁ ⟨o, s₂, ns⟩) :
    WithinBudget s ⟨o, s₂, ms ++ ns⟩ := by
  have hused : s₁.used = s.used := by simpa [hwaits] using hfirst.used
  have hlimit : s₁.limit = s.limit := hfirst.limit
  have hleft : s₁.left = s.left := by simp [Session.left, hused, hlimit]
  refine ⟨h.finished, hfirst.append h.accounts, ?_, ?_, ?_, ?_⟩
  · simpa [hattempts, hused] using h.count
  · simpa [hattempts, hwaits] using h.attempts_le
  · simpa [hwaits, hleft] using h.waits_le
  · intro hsome
    obtain ⟨hzero, t, ht, hnever⟩ := h.allowed (by simpa [hwaits] using hsome)
    exact ⟨hlimit ▸ hzero, t, List.mem_append_right _ ht, hnever⟩

/-- Neither does one after another. -/
theorem WithinBudget.before {α β : Type} {s s₁ s₂ : Session κ μ} {o : Except Stop α}
    {o' : Except Stop β} {ms ns : List (Mark κ μ)} (h : WithinBudget s ⟨o, s₁, ms⟩)
    (hlast : Accounts s₁ s₂ ns) (hattempts : Mark.attempts ns = []) (hwaits : Mark.waits ns = [])
    (hfinished : o' ≠ .error .unfinished) : WithinBudget s ⟨o', s₂, ms ++ ns⟩ := by
  refine ⟨hfinished, h.accounts.append hlast, ?_, ?_, ?_, ?_⟩
  · simpa [hattempts] using h.count
  · simpa [hattempts, hwaits] using h.attempts_le
  · simpa [hwaits] using h.waits_le
  · intro hsome
    obtain ⟨hzero, t, ht, hnever⟩ := h.allowed (by simpa [hwaits] using hsome)
    exact ⟨hzero, t, List.mem_append_left _ ht, hnever⟩

theorem withinBudget_deliver (limit : Nat) (s : Session κ μ) (hlimit : s.left < limit)
    (hkeeps : ∀ m ∈ ((deliver perform limit).run s).marks, m.KeepsBudget) :
    WithinBudget s ((deliver perform limit).run s) := by
  have hbuild := isBuild_run perform s
  simp only [deliver, run_bind] at hkeeps ⊢
  rcases hb : (build perform).run s with ⟨stop | _, s₁, ms⟩ <;> rw [hb] at hbuild <;>
    simp only [hb, run_take, run_startClock, List.nil_append] at hkeeps ⊢
  · obtain ⟨hfinished, hacc, hattempts, hwaits⟩ := accounts_isBuild hbuild hkeeps
    exact ⟨fun h => hfinished (by cases h; rfl), hacc, by simp [hattempts], by simp [hattempts],
      by simp [hwaits], fun hsome => absurd hwaits hsome⟩
  · obtain ⟨hfirst, hrest⟩ := List.forall_mem_append.1 hkeeps
    obtain ⟨-, hacc, hattempts, hwaits⟩ := accounts_isBuild hbuild hfirst
    have hbegun : Accounts s s₁.begun ms := hacc.step rfl rfl
    have hleft : s₁.begun.left = s.left := by
      have hused : s₁.begun.used = s.used := by simpa [hwaits] using hbegun.used
      rw [Session.left, Session.left, hused, hbegun.limit]
    have hlater := withinBudget_attempts limit s₁.begun (hleft ▸ hlimit) hrest
    exact .after hbegun hattempts hwaits hlater

theorem withinBudget_send (limit : Nat) (s : Session κ μ) (hlimit : s.left < limit)
    (hkeeps : ∀ m ∈ ((send perform limit).run s).marks, m.KeepsBudget) :
    WithinBudget s ((send perform limit).run s) := by
  rw [send] at hkeeps ⊢
  by_cases hfinished : ((deliver perform limit).run s).IsFinished
  · rw [run_closedBy_of_finished s _ hfinished] at hkeeps ⊢
    obtain ⟨hfirst, hlast⟩ := List.forall_mem_append.1 hkeeps
    have hbefore := withinBudget_deliver limit s hlimit hfirst
    rcases hd : (deliver perform limit).run s with ⟨o, s₁, ms⟩
    rw [hd] at hbefore hlast
    have hfilled : Accounts s₁ s₁.filled [] := (Accounts.refl s₁).step rfl rfl
    rcases hc : (runPhase perform .complete).run s₁.filled with ⟨stop | _, s₂⟩ <;>
      simp only [finish, run_bind, run_take, run_fillResponse, run_phase, run_markCompleted, hc,
        List.nil_append, List.append_nil] at hlast ⊢
    · have hcompletes := hlast _ List.mem_cons_self
      exact hbefore.before (hfilled.append (.phase hcompletes)) rfl rfl fun h =>
        hcompletes.1 (by cases h; rfl)
    · have hcompletes := hlast _ List.mem_cons_self
      have hend := hfilled.append (.phase hcompletes)
      exact hbefore.before (hend.step (by simp) (by simp)) rfl rfl hbefore.finished
  · have hunfinished := Classical.not_not.1 hfinished
    rw [run_closedBy_of_unfinished s _ hunfinished] at hkeeps ⊢
    exact withinBudget_deliver limit s hlimit hkeeps

/-! ## Hooks that keep the budget -/

/-- Every callback comes to an end and leaves the budget of any request. -/
def HooksKeepBudget (perform : κ → Step κ μ Unit) : Prop :=
  ∀ callback s, ((perform callback).run s).1 ≠ .error .unfinished ∧
    ((perform callback).run s).2.used = s.used ∧ ((perform callback).run s).2.limit = s.limit

theorem runAll_keepsBudget {perform : κ → Step κ μ Unit} (h : HooksKeepBudget perform)
    (callbacks : List κ) (s : Session κ μ) :
    ((runAll perform callbacks).run s).1 ≠ .error .unfinished ∧
      ((runAll perform callbacks).run s).2.used = s.used ∧
      ((runAll perform callbacks).run s).2.limit = s.limit := by
  induction callbacks generalizing s with
  | nil => exact ⟨nofun, rfl, rfl⟩
  | cons callback rest ih =>
    obtain ⟨hends, hused, hlimit⟩ := h callback s
    rw [runAll, Step.run_bind]
    rcases hrun : (perform callback).run s with ⟨stop | _, s₁⟩ <;>
      simp only [hrun] at hends hused hlimit ⊢
    · exact ⟨fun hstop => hends hstop, hused, hlimit⟩
    · obtain ⟨hends', hused', hlimit'⟩ := ih s₁
      exact ⟨hends', hused'.trans hused, hlimit'.trans hlimit⟩

/-- Phases of callbacks that keep the budget keep it. -/
theorem keepsBudget_of_genuine {perform : κ → Step κ μ Unit} (h : HooksKeepBudget perform)
    {m : Mark κ μ} (hm : m.Genuine perform) : m.KeepsBudget := by
  cases m with
  | phase p before ending after =>
    have hrun : (runPhase perform p).run before = (ending, after) := hm
    have hkeeps := runAll_keepsBudget h (before.request.hooks.get p).callbacks
      { before with world := { before.world with events := .phase p :: before.world.events } }
    simp only [runPhase, Step.run_bind, Step.run_record, Step.run_getRequest] at hrun
    rw [hrun] at hkeeps
    exact hkeeps
  | attempt s => trivial
  | decision s accepted => trivial
  | wait before seconds ended after => trivial

/-- All runs over callbacks that keep the budget end within it. -/
theorem send_keepsBudget {perform : κ → Step κ μ Unit} (h : HooksKeepBudget perform) (limit : Nat)
    (s : Session κ μ) : ∀ m ∈ ((send perform limit).run s).marks, m.KeepsBudget :=
  fun m hm => keepsBudget_of_genuine h (genuine_isSending (isSending_run perform s limit) m hm)

/-- If no hook assigns the number of retries or its limit, a run ends, whatever else the hooks do:
there is a course that it takes under any bound above the retries left.  It has at most one attempt
more than retries were left, and one only if none are allowed or the retryer never agrees; each
attempt has counted those before it, and in the end each wait has been counted. -/
theorem send_within_budget (perform : κ → Step κ μ Unit) (limit : Nat) (s : Session κ μ)
    (hlimit : s.left < limit)
    (hkeeps : ∀ m ∈ ((send perform limit).run s).marks, m.KeepsBudget) :
    let c := (send perform limit).run s
    c.IsFinished ∧ (∀ more, (send perform (limit + more)).run s = c) ∧
    (Mark.attempts c.marks).length ≤ s.left + 1 ∧
    ((s.limit = 0 ∨ ∀ t, .decision t true ∈ c.marks → t.request.retryer = .never) →
      (Mark.attempts c.marks).length ≤ 1) ∧
    (∀ (i : Nat) (t : Session κ μ), (Mark.attempts c.marks)[i]? = some t → t.used = s.used + i) ∧
    c.after.used = s.used + (Mark.waits c.marks).length ∧
    c.after.used ≤ max s.limit s.used ∧
    ∀ m ∈ c.marks, ∀ t ∈ m.sessions, t.used ≤ max s.limit s.used := by
  intro c
  have hwithin : WithinBudget s c := withinBudget_send limit s hlimit hkeeps
  have hattempts := hwithin.attempts_le
  have hwaits := hwithin.waits_le
  have hused := hwithin.accounts.used
  have hmax : c.after.used ≤ max s.limit s.used := by
    rw [Session.left] at hwaits
    omega
  refine ⟨hwithin.finished, fun more => send_run_add limit more s hwithin.finished, by omega, ?_,
    hwithin.count, hused, hmax,
    fun m hm t ht => Int.le_trans (hwithin.accounts.below m hm t ht) hmax⟩
  intro hnever
  have hnone : Mark.waits c.marks = [] := by
    refine Classical.byContradiction fun hsome => ?_
    obtain ⟨hzero, t, ht, hretryer⟩ := hwithin.allowed hsome
    rcases hnever with h | h
    · exact hzero h
    · exact hretryer (h t ht)
  simpa [hnone] using hattempts

/-- A request whose send phase always fails with a failure that nothing can mend, and marks it as
worth another attempt.  Of three retries one has been used. -/
def stubborn : Session ScriptedHook RunCounts :=
  let down : Failure := .ofReason (.told .validation "down")
  Session.plain "https://api.io" { Hooks.empty with
    send := ⟨[.bare (.scripted 0 .send none
      [.mark true, .setError (some (.make down none none))] [])]⟩ }
    (.ofPolicy .steady []) ⟨1, 3, 0, [], false⟩ [] #[0]

theorem send_within_budget_of_stubborn :
    let c := (send ScriptedHook.perform 3).run stubborn
    stubborn.left < 3 ∧ (∀ m ∈ c.marks, m.KeepsBudget) ∧ c.IsFinished ∧
      (Mark.attempts c.marks).length = 3 ∧ c.after.used = 3 := by
  have hleft : stubborn.left < 3 := by decide
  have hkeeps : ∀ m ∈ ((send ScriptedHook.perform 3).run stubborn).marks, m.KeepsBudget := by
    decide
  obtain ⟨hfinished, -, -, -, -, hused, -⟩ :=
    send_within_budget ScriptedHook.perform 3 stubborn hleft hkeeps
  exact ⟨hleft, hkeeps, hfinished, by decide, hused⟩

end Drive

end RequestPipeline
