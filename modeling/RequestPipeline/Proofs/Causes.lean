import Mathlib.Logic.Function.Basic
import Mathlib.Logic.Relation
import RequestPipeline.Proofs.Heap

/-!
# Causes of failures

Each failure has one cause at most, so what is behind it is a chain, which comes to an end
(`Failures.Ends`) unless it runs into itself.  A new cause for one failure makes no circle as long
as that failure is not behind its cause; `Failures.ends_of_update` and `Failures.behind_of_update`
say so for any change of one cause.
-/

namespace RequestPipeline.Failures

variable {fs fs' : Failures} {a b c x id : FailureId}

/-- The cause of a failure in the heap. -/
def causeOf? (fs : Failures) (id : FailureId) : Option FailureId := (fs.get? id).bind Failure.cause

/-- One failure is behind another: it is the cause of that, or the cause of its cause, and so on. -/
def Behind (fs : Failures) : FailureId → FailureId → Prop :=
  Relation.TransGen fun a b => fs.causeOf? a = some b

/-- The cause of a failure, the cause of that, and so on come to an end. -/
def Ends (fs : Failures) (id : FailureId) : Prop := Acc (fun b a => fs.causeOf? a = some b) id

theorem causeOf?_of_size_le (h : fs.all.size ≤ id) : fs.causeOf? id = none := by
  have hnone : fs.all[id]? = none := Array.getElem?_eq_none h
  simp [causeOf?, get?, hnone]

theorem lt_size_of_causeOf? (h : fs.causeOf? id = some c) : id < fs.all.size := by
  by_contra hid
  rw [causeOf?_of_size_le (Nat.le_of_not_lt hid)] at h
  cases h

/-- What has a failure behind it has a cause. -/
theorem Behind.causeOf?_ne_none (h : fs.Behind a b) : fs.causeOf? a ≠ none := by
  obtain ⟨c, hcause, -⟩ := Relation.TransGen.head'_iff.1 h
  simp [hcause]

/-- What is behind a failure is the cause of another one. -/
theorem Behind.exists_causeOf? (h : fs.Behind a b) : ∃ c, fs.causeOf? c = some b := by
  obtain ⟨c, -, hcause⟩ := Relation.TransGen.tail'_iff.1 h
  exact ⟨c, hcause⟩

/-- What is behind a failure with a cause is that cause, or behind it. -/
theorem behind_iff (h : fs.causeOf? a = some c) : fs.Behind a b ↔ b = c ∨ fs.Behind c b := by
  constructor
  · intro hbehind
    obtain ⟨d, hcause, hrest⟩ := Relation.TransGen.head'_iff.1 hbehind
    obtain rfl : d = c := Option.some.inj (hcause.symm.trans h)
    exact (Relation.reflTransGen_iff_eq_or_transGen.1 hrest).imp_left fun heq => heq
  · rintro (rfl | hrest)
    · exact .single h
    · exact .head h hrest

/-- A failure that is behind itself has no end of causes. -/
theorem Behind.not_ends (h : fs.Behind a a) : ¬ fs.Ends a := by
  intro hends
  have hchain : Acc (Relation.TransGen fun b a => fs.causeOf? a = some b) a := hends.transGen
  induction hchain with
  | intro a _ ih => exact ih a (Relation.transGen_swap.2 h) h hends

theorem ends_of_causeless (h : fs.causeOf? id = none) : fs.Ends id := by
  refine Acc.intro id fun b hb => ?_
  rw [h] at hb
  cases hb

/-! ## New causes -/

/-- A new failure has the cause that it comes with. -/
theorem causeOf?_add (fs : Failures) (f : Failure) :
    (fs.add f).2.causeOf? = Function.update fs.causeOf? fs.all.size f.cause := by
  funext id
  by_cases hid : id = fs.all.size
  · rw [hid, Function.update_self, causeOf?, show fs.all.size = (fs.add f).1 from rfl,
      get?_add_self, Option.bind_some]
  · rw [Function.update_of_ne hid]
    simp [causeOf?, get?, add, Array.getElem?_push, hid]

/-- Without a cause of its own it changes nothing. -/
theorem causeOf?_add_of_causeless (fs : Failures) {f : Failure} (h : f.cause = none) :
    (fs.add f).2.causeOf? = fs.causeOf? := by
  rw [causeOf?_add, h, Function.update_eq_self_iff]
  exact (causeOf?_of_size_le (Nat.le_refl _)).symm

@[simp] theorem causeOf?_put (fs : Failures) (label : Option String) (f : Failure) :
    (fs.put label f).causeOf? = (fs.add f).2.causeOf? := by
  cases label <;> rfl

theorem causeOf?_setCause (hid : id < fs.all.size) (cause : Option FailureId) :
    (fs.setCause id cause).causeOf? = Function.update fs.causeOf? id cause := by
  funext id'
  by_cases hsame : id' = id
  · subst hsame
    simp [causeOf?, get?, setCause, Array.getElem_modify, hid]
  · rw [Function.update_of_ne hsame]
    simp [causeOf?, get?, setCause, Array.getElem?_modify, Ne.symm hsame]

/-- A new cause for a failure that is not behind it leaves all chains finite. -/
theorem ends_of_update (hupdate : fs'.causeOf? = Function.update fs.causeOf? x (some c))
    (hends : ∀ id, fs.Ends id) (hself : c ≠ x) (hbehind : ¬ fs.Behind c x) (id : FailureId) :
    fs'.Ends id := by
  have hother : ∀ {a b}, a ≠ x → fs'.causeOf? a = some b → fs.causeOf? a = some b := by
    intro a b hne hcause
    rwa [hupdate, Function.update_of_ne hne] at hcause
  -- what does not lead to `x` keeps its chain
  have hapart : ∀ a, a ≠ x → ¬ fs.Behind a x → fs'.Ends a := by
    intro a hne hnot
    have hchain : fs.Ends a := hends a
    induction hchain with
    | intro a _ ih =>
      refine Acc.intro a fun b hb => ?_
      have hcause : fs.causeOf? a = some b := hother hne hb
      refine ih b hcause ?_ ?_
      · rintro rfl
        exact hnot (.single hcause)
      · intro h
        exact hnot (.head hcause h)
  have hx : fs'.Ends x := by
    refine Acc.intro x fun b hb => ?_
    rw [hupdate, Function.update_self, Option.some.injEq] at hb
    subst hb
    exact hapart c hself hbehind
  have hchain : fs.Ends id := hends id
  induction hchain with
  | intro a _ ih =>
    by_cases hne : a = x
    · rw [hne]
      exact hx
    · exact Acc.intro a fun b hb => ih b (hother hne hb)

/-- After that a failure is behind another if it was before, or if the new cause leads to it and the
other one leads to the failure with the new cause. -/
theorem behind_of_update (hupdate : fs'.causeOf? = Function.update fs.causeOf? x (some c))
    (h : fs'.Behind a b) : fs.Behind a b ∨ (a = x ∨ fs.Behind a x) ∧ (b = c ∨ fs.Behind c b) := by
  have hcauses : ∀ {d b}, fs'.causeOf? d = some b → d = x ∧ b = c ∨ fs.causeOf? d = some b := by
    intro d b hcause
    by_cases hd : d = x
    · rw [hupdate, hd, Function.update_self, Option.some.injEq] at hcause
      exact .inl ⟨hd, hcause.symm⟩
    · rw [hupdate, Function.update_of_ne hd] at hcause
      exact .inr hcause
  induction h with
  | single hcause =>
    rcases hcauses hcause with ⟨rfl, rfl⟩ | hold
    · exact .inr ⟨.inl rfl, .inl rfl⟩
    · exact .inl (.single hold)
  | tail _ hcause ih =>
    rcases hcauses hcause with ⟨rfl, rfl⟩ | hold
    · rcases ih with hbefore | ⟨hleads, -⟩
      · exact .inr ⟨.inr hbefore, .inl rfl⟩
      · exact .inr ⟨hleads, .inl rfl⟩
    · rcases ih with hbefore | ⟨hleads, rfl | hbehind⟩
      · exact .inl (.tail hbefore hold)
      · exact .inr ⟨hleads, .inr (.single hold)⟩
      · exact .inr ⟨hleads, .inr (.tail hbehind hold)⟩

/-- What was behind a failure without the new cause is so still. -/
theorem behind_update (hupdate : fs'.causeOf? = Function.update fs.causeOf? x (some c))
    (hne : a ≠ x) (h : fs.Behind a x) : fs'.Behind a x := by
  have hkept : ∀ {a b}, a ≠ x → fs.causeOf? a = some b → fs'.causeOf? a = some b := by
    intro a b hne hcause
    rwa [hupdate, Function.update_of_ne hne]
  induction h using Relation.TransGen.head_induction_on with
  | single hcause => exact .single (hkept hne hcause)
  | @head a b hcause _ ih =>
    by_cases hb : b = x
    · exact .single (hkept hne (hb ▸ hcause))
    · exact .head (hkept hne hcause) (ih hb)

end RequestPipeline.Failures
