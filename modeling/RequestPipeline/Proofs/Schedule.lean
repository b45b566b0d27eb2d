import Mathlib.Algebra.Order.Field.Rat
import Mathlib.Algebra.Order.Group.MinMax
import Mathlib.Algebra.Order.Ring.Defs
import Mathlib.Tactic.Linarith
import Mathlib.Tactic.NormNum
import Mathlib.Tactic.Positivity
import Mathlib.Tactic.Ring
import RequestPipeline.Backoff

/-!
# The schedule of delays

`Backoff.scheduled` gives the delay before each wait in closed form, from the policy alone: a
growing delay is capped once it is beyond the cap, and a shrinking one may start above the cap and
goes on from there.  `Backoff.delays_follow_schedule` proves by induction over the waits that a
policy at work has these delays.  The random numbers spread the waits around them and have no part
in the delays themselves.
-/

namespace RequestPipeline.Backoff

variable {α : Type} [Field α] [LinearOrder α]

/-- The parts of a policy are within their bounds. -/
structure IsProper (b : Backoff α) : Prop where
  initial : 0 ≤ b.initial
  multiplier : 0 < b.multiplier
  cap : 0 ≤ b.cap
  jitter_nonneg : 0 ≤ b.jitter
  jitter_le_one : b.jitter ≤ 1

/-- The delay before a wait, by the number of waits before it.  The first delay is not capped. -/
def scheduled (b : Backoff α) : ℕ → α
  | 0 => b.initial
  | n + 1 => min (b.initial * b.multiplier ^ (n + 1)) (b.cap * min 1 (b.multiplier ^ n))

namespace Progress

/-- A policy at work after some waits more. -/
def after (p : Progress α) (n : ℕ) : Progress α := (fun p => p.next.2)^[n] p

@[simp] theorem after_zero (p : Progress α) : p.after 0 = p := rfl

theorem after_succ (p : Progress α) (n : ℕ) : p.after (n + 1) = (p.after n).next.2 :=
  Function.iterate_succ_apply' _ _ _

@[simp] theorem policy_after (p : Progress α) (n : ℕ) : (p.after n).policy = p.policy := by
  induction n with
  | zero => rfl
  | succ n ih =>
    rw [after_succ]
    exact ih

@[simp] theorem source_after (p : Progress α) (n : ℕ) : (p.after n).source = p.source := by
  induction n with
  | zero => rfl
  | succ n ih =>
    rw [after_succ]
    exact ih

/-- Only jitter takes random numbers, one for each wait. -/
theorem drawn_after (p : Progress α) (n : ℕ) :
    (p.after n).drawn = p.drawn + if 0 < p.policy.jitter then n else 0 := by
  induction n with
  | zero => simp
  | succ n ih =>
    have hnext : (p.after (n + 1)).drawn =
        if p.policy.jitter ≤ 0 then (p.after n).drawn else (p.after n).drawn + 1 := by
      rw [after_succ, ← policy_after p n]
      rfl
    rw [hnext, ih]
    by_cases hjitter : p.policy.jitter ≤ 0
    · simp [hjitter, not_lt.2 hjitter]
    · simp [hjitter, not_le.1 hjitter, Nat.add_assoc]

end Progress

/-! ## One delay and the next -/

theorem spread_of_no_jitter (delay draw : α) : spread delay 0 draw = delay := by
  simp [spread]

theorem grow_eq_min (b : Backoff α) (current : α) :
    b.grow current = min (current * b.multiplier) b.cap := by
  simp only [grow]
  by_cases hcap : b.cap < current * b.multiplier
  · rw [if_pos hcap, min_eq_right hcap.le]
  · rw [if_neg hcap, min_eq_left (not_lt.1 hcap)]

/-! ## Delays -/

variable [IsStrictOrderedRing α]

/-- A capped delay that has shrunk, or has not, is capped once more. -/
theorem min_pow_succ {m : α} (hm : 0 < m) (n : ℕ) :
    min (min 1 (m ^ n) * m) 1 = min 1 (m ^ (n + 1)) := by
  rw [min_mul_of_nonneg _ _ hm.le, one_mul, ← pow_succ]
  rcases le_total 1 m with hgrows | hshrinks
  · have hpower : 1 ≤ m ^ (n + 1) := one_le_pow₀ hgrows
    rw [min_eq_right (le_min hgrows hpower), min_eq_left hpower]
  · have hpower : m ^ (n + 1) ≤ m := by
      rw [pow_succ]
      exact mul_le_of_le_one_left hm.le (pow_le_one₀ hm.le hshrinks)
    rw [min_eq_right hpower, min_comm]

/-- Each delay of the schedule is the one before it, multiplied and capped. -/
theorem scheduled_succ {b : Backoff α} (hb : b.IsProper) (n : ℕ) :
    b.scheduled (n + 1) = min (b.scheduled n * b.multiplier) b.cap := by
  cases n with
  | zero => simp [scheduled]
  | succ n =>
    simp only [scheduled]
    calc min (b.initial * b.multiplier ^ (n + 1 + 1)) (b.cap * min 1 (b.multiplier ^ (n + 1)))
        = min (b.initial * b.multiplier ^ (n + 1) * b.multiplier)
            (min (b.cap * (min 1 (b.multiplier ^ n) * b.multiplier)) (b.cap * 1)) := by
          rw [← mul_min_of_nonneg _ _ hb.cap, min_pow_succ hb.multiplier, pow_succ _ (n + 1),
            ← mul_assoc]
      _ = min (min (b.initial * b.multiplier ^ (n + 1)) (b.cap * min 1 (b.multiplier ^ n))
            * b.multiplier) b.cap := by
          rw [min_mul_of_nonneg (b.initial * _) _ hb.multiplier.le, min_assoc, mul_one,
            mul_assoc b.cap]

theorem scheduled_nonneg {b : Backoff α} (hb : b.IsProper) (n : ℕ) : 0 ≤ b.scheduled n := by
  induction n with
  | zero => exact hb.initial
  | succ n ih =>
    rw [scheduled_succ hb]
    exact le_min (mul_nonneg ih hb.multiplier.le) hb.cap

/-- The delay before a wait is that of the schedule, whatever has been drawn so far. -/
theorem current_after {b : Backoff α} (hb : b.IsProper) (source : ℕ → α) (n : ℕ) :
    ((Progress.start b source).after n).current = b.scheduled n := by
  induction n with
  | zero => rfl
  | succ n ih =>
    have hgrown : ((Progress.start b source).after (n + 1)).current =
        b.grow ((Progress.start b source).after n).current := by
      rw [Progress.after_succ]
      simp [Progress.current, Progress.next, Progress.start]
    rw [hgrown, ih, grow_eq_min, scheduled_succ hb]

/-! ## Waits -/

/-- A length drawn around a delay is as far from it as the jitter lets it be. -/
theorem spread_mem {delay jitter draw : α} (hdelay : 0 ≤ delay) (hjitter : 0 ≤ jitter)
    (hdraw : 0 ≤ draw) (hdraw' : draw < 1) :
    delay * (1 - jitter) ≤ spread delay jitter draw ∧
      spread delay jitter draw ≤ delay * (1 + jitter) := by
  have hdelta : 0 ≤ delay * jitter := mul_nonneg hdelay hjitter
  rw [spread]
  by_cases hnone : jitter ≤ 0
  · obtain rfl : jitter = 0 := le_antisymm hnone hjitter
    simp
  · rw [if_neg hnone]
    have hlow : 0 ≤ draw * (2 * (delay * jitter)) := by positivity
    have hhigh : draw * (2 * (delay * jitter)) ≤ 2 * (delay * jitter) :=
      mul_le_of_le_one_left (by positivity) hdraw'.le
    constructor
    · linarith
    · linarith

/-- The delay before a wait is that of the schedule: it is the first delay of the policy before the
first wait, and behind that the first delay multiplied for each wait, or the cap if that is smaller,
multiplied for each wait but the first one if that makes it smaller.  The length of the wait is
within the share drawn around the delay and never negative, and without jitter it is the delay.  It
takes one random number, the next one, if there is jitter, and none otherwise. -/
theorem delays_follow_schedule {b : Backoff α} (hb : b.IsProper) {source : ℕ → α}
    (hsource : ∀ k, 0 ≤ source k ∧ source k < 1) (n : ℕ) :
    let p := (Progress.start b source).after n
    p.current = b.scheduled n ∧
      b.scheduled n * (1 - b.jitter) ≤ p.next.1 ∧ p.next.1 ≤ b.scheduled n * (1 + b.jitter) ∧
      0 ≤ p.next.1 ∧
      (b.jitter = 0 → p.next.1 = b.scheduled n) ∧
      p.drawn = (if 0 < b.jitter then n else 0) ∧
      p.next.1 = spread (b.scheduled n) b.jitter (source p.drawn) ∧
      p.next.2.drawn = p.drawn + if 0 < b.jitter then 1 else 0 := by
  intro p
  have hcurrent : p.current = b.scheduled n := current_after hb source n
  have hpolicy : p.policy = b := Progress.policy_after _ n
  have hwait : p.next.1 = spread (b.scheduled n) b.jitter (source p.drawn) := by
    have hsame : p.source = source := Progress.source_after _ n
    rw [← hcurrent, ← hsame, ← hpolicy]
    rfl
  have hdelay : 0 ≤ b.scheduled n := scheduled_nonneg hb n
  obtain ⟨hdraw, hdraw'⟩ := hsource p.drawn
  obtain ⟨hlow, hhigh⟩ := spread_mem hdelay hb.jitter_nonneg hdraw hdraw'
  rw [← hwait] at hlow hhigh
  refine ⟨hcurrent, hlow, hhigh, ?_, ?_, ?_, hwait, ?_⟩
  · exact (mul_nonneg hdelay (sub_nonneg.2 hb.jitter_le_one)).trans hlow
  · intro hnone
    rw [hwait, hnone, spread_of_no_jitter]
  · have hdrawn := Progress.drawn_after (Progress.start b source) n
    rwa [show (Progress.start b source).drawn = 0 from rfl, Nat.zero_add] at hdrawn
  · have hdrawn := Progress.drawn_after p 1
    rwa [Progress.after_succ, Progress.after_zero, hpolicy] at hdrawn

/-- A first delay far above the cap, which shrinks to the cap and then below it. -/
theorem shrinking_delays_follow_schedule :
    let b : Backoff ℚ := ⟨100, 1 / 2, 10, 1 / 4⟩
    let p := (Progress.start b fun _ => 1 / 2).after 3
    b.IsProper ∧ (∀ k : ℕ, (0 : ℚ) ≤ (fun _ => 1 / 2 : ℕ → ℚ) k ∧ (fun _ => 1 / 2 : ℕ → ℚ) k < 1) ∧
      p.current = 5 / 2 ∧ b.scheduled 3 = 5 / 2 ∧ p.drawn = 3 ∧
      5 / 2 * (1 - 1 / 4) ≤ p.next.1 ∧ p.next.1 ≤ 5 / 2 * (1 + 1 / 4) := by
  intro b p
  have hb : b.IsProper := by
    constructor <;> norm_num [b]
  have hsource : ∀ k : ℕ, (0 : ℚ) ≤ (fun _ => 1 / 2 : ℕ → ℚ) k ∧
      (fun _ => 1 / 2 : ℕ → ℚ) k < 1 := by
    intro k
    norm_num
  have hdelay : b.scheduled 3 = 5 / 2 := by norm_num [scheduled, b]
  obtain ⟨hcurrent, hlow, hhigh, -, -, hdrawn, -, -⟩ := delays_follow_schedule hb hsource 3
  rw [hdelay] at hcurrent hlow hhigh
  refine ⟨hb, hsource, hcurrent, hdelay, ?_, hlow, hhigh⟩
  rw [hdrawn]
  norm_num [b]

end RequestPipeline.Backoff
