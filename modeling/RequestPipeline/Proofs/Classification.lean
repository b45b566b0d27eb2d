import Mathlib.Data.Finset.Basic
import Mathlib.Data.Finset.Sort
import Mathlib.Data.List.Nodup
import Mathlib.Data.List.Chain
import RequestPipeline.Proofs.Causes

/-!
# Which failures are worth another attempt

Causes may run in circles.  A failure is followed along its causes as far as nothing comes up twice,
and the first failure on the way that has something to say about another attempt decides.  The codes
that ask for another attempt count as a set, and more of them can only speak for one.
-/

namespace RequestPipeline

/-! ## What a failure says by itself -/

namespace Failure

variable {codes codes' : List String} {f : Failure}

/-- The failure has a code, and it is one of those that ask for another attempt. -/
def IsListed (codes : List String) (f : Failure) : Prop :=
  ∃ code, f.code = some code ∧ code ≠ .null ∧ ∃ listed ∈ codes, Text.Str.ofString listed = code.text

/-- What a failure says about another attempt: its code comes first, its own word second, and its
kind only counts where it has no word of its own. -/
inductive Decides (codes : List String) (f : Failure) : Bool → Prop
  | listed (h : f.IsListed codes) : Decides codes f true
  | answers (h : ¬ f.IsListed codes) {v : Value} (hword : f.verdict = .answers v) :
      Decides codes f v.truthy
  | transient (h : ¬ f.IsListed codes) (hword : ∀ v, f.verdict ≠ .answers v)
      (hkind : f.kind.isTransient = true) : Decides codes f true

theorem IsListed.mono (h : f.IsListed codes) (hcodes : codes ⊆ codes') : f.IsListed codes' := by
  obtain ⟨code, hcode, hnull, listed, hmem, hlisted⟩ := h
  exact ⟨code, hcode, hnull, listed, hcodes hmem, hlisted⟩

theorem decides?_of_listed (h : f.IsListed codes) : f.decides? codes = some true := by
  obtain ⟨code, hcode, hnull, listed, hmem, hlisted⟩ := h
  have hany : codes.any (fun listed => Text.Str.ofString listed == code.text) = true :=
    List.any_eq_true.2 ⟨listed, hmem, by simpa using hlisted⟩
  cases code <;> simp_all only [decides?, ne_eq, not_true_eq_false, if_true]

/-- A failure whose code is not asked for decides as if none were asked for. -/
theorem decides?_of_not_listed (h : ¬ f.IsListed codes) : f.decides? codes = f.decides? [] := by
  have hcodes : ∀ code, f.code = some code → code ≠ .null →
      codes.any (fun listed => Text.Str.ofString listed == code.text) = false := by
    intro code hcode hnull
    refine Bool.eq_false_iff.2 fun hany => ?_
    obtain ⟨listed, hmem, hlisted⟩ := List.any_eq_true.1 hany
    exact h ⟨code, hcode, hnull, listed, hmem, by simpa using hlisted⟩
  simp only [decides?]
  cases hcode : f.code with
  | none => rfl
  | some code =>
    have hunlisted := hcodes code hcode
    cases code <;>
      simp_all only [ne_eq, not_false_eq_true, forall_const, reduceCtorEq, List.any_nil]

theorem decides?_nil_of_answers {v : Value} (hword : f.verdict = .answers v) :
    f.decides? [] = some v.truthy := by
  simp only [decides?, hword]
  split <;> simp_all

theorem decides?_nil_of_no_word (hword : ∀ v, f.verdict ≠ .answers v) :
    f.decides? [] = if f.kind.isTransient then some true else none := by
  simp only [decides?]
  split <;> split <;> simp_all

theorem decides?_eq_some_iff {b : Bool} : f.decides? codes = some b ↔ f.Decides codes b := by
  by_cases hlisted : f.IsListed codes
  · rw [decides?_of_listed hlisted]
    constructor
    · rintro ⟨⟩
      exact .listed hlisted
    · rintro (h | ⟨h, -⟩ | ⟨h, -, -⟩)
      · rfl
      · exact absurd hlisted h
      · exact absurd hlisted h
  · rw [decides?_of_not_listed hlisted]
    by_cases hword : ∃ v, f.verdict = .answers v
    · obtain ⟨v, hword⟩ := hword
      rw [decides?_nil_of_answers hword]
      constructor
      · rintro ⟨⟩
        exact .answers hlisted hword
      · rintro (h | ⟨-, hword'⟩ | ⟨-, hword', -⟩)
        · exact absurd h hlisted
        · rw [hword, Verdict.answers.injEq] at hword'
          rw [hword']
        · exact absurd hword (hword' v)
    · rw [not_exists] at hword
      rw [decides?_nil_of_no_word hword]
      constructor
      · intro h
        by_cases hkind : f.kind.isTransient = true
        · obtain rfl : true = b := by simpa [hkind] using h
          exact .transient hlisted hword hkind
        · simp [hkind] at h
      · rintro (h | ⟨-, hword'⟩ | ⟨-, -, hkind⟩)
        · exact absurd h hlisted
        · exact absurd hword' (hword _)
        · simp [hkind]

end Failure

/-! ## What is behind a failure -/

namespace Failures

variable (fs : Failures)

/-- The failures behind `id`, from `id` itself on, each once, up to the first one that has no cause
or a cause that came up before. -/
structure IsCausePath (id : FailureId) (path : List FailureId) : Prop where
  head : path.head? = some id
  linked : path.IsChain fun a b => fs.causeOf? a = some b
  nodup : path.Nodup
  closed : ∀ a ∈ path, ∀ b, fs.causeOf? a = some b → b ∈ path

theorem pathFrom_none (fuel : Nat) (seen : List FailureId) : fs.pathFrom fuel seen none = [] := by
  cases fuel <;> rfl

theorem pathFrom_seen {fuel : Nat} {seen : List FailureId} {id : FailureId} (h : id ∈ seen) :
    fs.pathFrom fuel seen (some id) = [] := by
  cases fuel with
  | zero => rfl
  | succ fuel => simp [pathFrom, h]

theorem pathFrom_succ {fuel : Nat} {seen : List FailureId} {id : FailureId} (h : id ∉ seen) :
    fs.pathFrom (fuel + 1) seen (some id) =
      id :: fs.pathFrom fuel (id :: seen) (fs.causeOf? id) := by
  simp only [pathFrom, List.contains_eq_mem, h]
  rfl

/-- Nothing on the way came up before. -/
theorem nodup_pathFrom (fuel : Nat) (seen : List FailureId) (next : Option FailureId) :
    (fs.pathFrom fuel seen next).Nodup ∧ ∀ id ∈ fs.pathFrom fuel seen next, id ∉ seen := by
  induction fuel generalizing seen next with
  | zero => simp [pathFrom]
  | succ fuel ih =>
    cases next with
    | none => simp [pathFrom_none]
    | some id =>
      by_cases hseen : id ∈ seen
      · simp [pathFrom_seen fs hseen]
      · obtain ⟨hnodup, hfresh⟩ := ih (id :: seen) (fs.causeOf? id)
        rw [pathFrom_succ fs hseen]
        constructor
        · have hself : id ∉ fs.pathFrom fuel (id :: seen) (fs.causeOf? id) := by
            intro hmem
            simpa using hfresh id hmem
          exact List.nodup_cons.2 ⟨hself, hnodup⟩
        · intro other hother
          simp only [List.mem_cons] at hother
          rcases hother with rfl | hother
          · exact hseen
          · intro hmem
            exact hfresh other hother (List.mem_cons_of_mem _ hmem)

/-- Each failure on the way is the cause of the one before it. -/
theorem linked_pathFrom (fuel : Nat) (seen : List FailureId) (next : Option FailureId) :
    (fs.pathFrom fuel seen next).IsChain (fun a b => fs.causeOf? a = some b) ∧
      ∀ id, (fs.pathFrom fuel seen next).head? = some id → next = some id := by
  induction fuel generalizing seen next with
  | zero => simp [pathFrom]
  | succ fuel ih =>
    cases next with
    | none => simp [pathFrom_none]
    | some id =>
      by_cases hseen : id ∈ seen
      · simp [pathFrom_seen fs hseen]
      · obtain ⟨hlinked, hhead⟩ := ih (id :: seen) (fs.causeOf? id)
        rw [pathFrom_succ fs hseen]
        refine ⟨?_, by simp⟩
        rw [List.isChain_cons]
        exact ⟨fun other hother => hhead other hother, hlinked⟩

/-- As long as there is fuel for every failure that has not come up, the way goes on until there is
nothing new to come. -/
theorem closed_pathFrom (fuel : Nat) (seen : List FailureId) (next : Option FailureId)
    (hnodup : seen.Nodup) (hfuel : fs.all.size + 1 ≤ fuel + seen.length)
    (hheap : ∀ id, next = some id → ∀ a ∈ seen, a < fs.all.size) :
    (∀ id, next = some id → id ∈ seen ∨ id ∈ fs.pathFrom fuel seen next) ∧
      ∀ a ∈ fs.pathFrom fuel seen next, ∀ b, fs.causeOf? a = some b →
        b ∈ seen ∨ b ∈ fs.pathFrom fuel seen next := by
  induction fuel generalizing seen next with
  | zero =>
    -- more failures would have come up than the heap holds
    have hnone : next = none := by
      by_contra hsome
      obtain ⟨id, hid⟩ := Option.ne_none_iff_exists'.1 hsome
      have hsubset : seen ⊆ List.range fs.all.size := by
        intro a ha
        exact List.mem_range.2 (hheap id hid a ha)
      have hlength := (List.subperm_of_subset hnodup hsubset).length_le
      rw [List.length_range] at hlength
      omega
    simp [hnone, pathFrom]
  | succ fuel ih =>
    cases next with
    | none => simp [pathFrom_none]
    | some id =>
      by_cases hseen : id ∈ seen
      · simp [pathFrom_seen fs hseen, hseen]
      · have hheap' : ∀ b, fs.causeOf? id = some b → ∀ a ∈ id :: seen, a < fs.all.size := by
          intro b hb a ha
          simp only [List.mem_cons] at ha
          rcases ha with rfl | ha
          · exact lt_size_of_causeOf? hb
          · exact hheap id rfl a ha
        have hfuel' : fs.all.size + 1 ≤ fuel + (id :: seen).length := by
          rw [List.length_cons]
          omega
        obtain ⟨hnext, hrest⟩ := ih (id :: seen) (fs.causeOf? id)
          (List.nodup_cons.2 ⟨hseen, hnodup⟩) hfuel' hheap'
        rw [pathFrom_succ fs hseen]
        refine ⟨by simp, ?_⟩
        intro a ha b hb
        have hcovered : b ∈ id :: seen ∨ b ∈ fs.pathFrom fuel (id :: seen) (fs.causeOf? id) := by
          simp only [List.mem_cons] at ha
          rcases ha with rfl | ha
          · exact hnext b hb
          · exact hrest a ha b hb
        simp only [List.mem_cons] at hcovered ⊢
        tauto

/-- The heap is large enough for the path to reach its end. -/
theorem isCausePath_causePath (id : FailureId) :
    fs.IsCausePath id (fs.causePath (some id)) := by
  have hpath : fs.causePath (some id) = id :: fs.pathFrom fs.all.size [id] (fs.causeOf? id) :=
    pathFrom_succ fs List.not_mem_nil
  constructor
  · rw [hpath]
    rfl
  · exact (linked_pathFrom fs _ _ _).1
  · exact (nodup_pathFrom fs _ _ _).1
  · intro a ha b hb
    have hclosed := (closed_pathFrom fs (fs.all.size + 1) [] (some id) List.nodup_nil
      (Nat.le_refl _) (by simp)).2 a ha b hb
    exact hclosed.resolve_left List.not_mem_nil

/-- No path is longer than the heap, but for a failure that the heap does not have. -/
theorem length_causePath_le (id : FailureId) :
    (fs.causePath (some id)).length ≤ fs.all.size + 1 := by
  have hlength : ∀ fuel seen next, (fs.pathFrom fuel seen next).length ≤ fuel := by
    intro fuel
    induction fuel with
    | zero => simp [pathFrom]
    | succ fuel ih =>
      intro seen next
      cases next with
      | none => simp [pathFrom_none]
      | some id =>
        by_cases hseen : id ∈ seen
        · simp [pathFrom_seen fs hseen]
        · rw [pathFrom_succ fs hseen, List.length_cons]
          exact Nat.succ_le_succ (ih _ _)
  exact hlength _ _ _

/-! ## The first word -/

/-- What the first failure of a list that decides says; if none does, another attempt is no use. -/
inductive FirstWord (codes : List String) : List FailureId → Bool → Prop
  | nobody : FirstWord codes [] false
  | decides {id : FailureId} {f : Failure} {b : Bool} (path : List FailureId)
      (hget : fs.get? id = some f) (h : f.Decides codes b) : FirstWord codes (id :: path) b
  | silent {id : FailureId} {path : List FailureId} {b : Bool}
      (h : ∀ f, fs.get? id = some f → ∀ b, ¬ f.Decides codes b) (hrest : FirstWord codes path b) :
      FirstWord codes (id :: path) b

/-- The word of the first failure of a list that decides, as it is looked for. -/
def wordOn (codes : List String) (path : List FailureId) : Bool :=
  (path.findSome? fun id => (fs.get? id).bind (Failure.decides? codes)).getD false

theorem wordOn_cons (codes : List String) (id : FailureId) (path : List FailureId) :
    fs.wordOn codes (id :: path) =
      (((fs.get? id).bind (Failure.decides? codes)).getD (fs.wordOn codes path)) := by
  rw [wordOn, List.findSome?_cons]
  cases (fs.get? id).bind (Failure.decides? codes) <;> rfl

theorem firstWord_wordOn (codes : List String) (path : List FailureId) :
    fs.FirstWord codes path (fs.wordOn codes path) := by
  induction path with
  | nil => exact .nobody
  | cons id path ih =>
    rw [wordOn_cons]
    cases hword : (fs.get? id).bind (Failure.decides? codes) with
    | none =>
      refine .silent ?_ ih
      intro f hget b hdecides
      rw [hget, Option.bind_some, Failure.decides?_eq_some_iff.2 hdecides] at hword
      cases hword
    | some b =>
      obtain ⟨f, hget, hdecides⟩ := Option.bind_eq_some_iff.1 hword
      exact .decides path hget (Failure.decides?_eq_some_iff.1 hdecides)

/-- Further codes only turn words for another attempt up. -/
theorem wordOn_mono {codes codes' : List String} (hcodes : codes ⊆ codes')
    (path : List FailureId) : fs.wordOn codes path ≤ fs.wordOn codes' path := by
  induction path with
  | nil => exact le_rfl
  | cons id path ih =>
    rw [wordOn_cons, wordOn_cons]
    cases hget : fs.get? id with
    | none => exact ih
    | some f =>
      rw [Option.bind_some, Option.bind_some]
      by_cases hlisted' : f.IsListed codes'
      · rw [Failure.decides?_of_listed hlisted']
        exact Bool.le_true _
      · have hlisted : ¬ f.IsListed codes := fun h => hlisted' (h.mono hcodes)
        rw [Failure.decides?_of_not_listed hlisted, Failure.decides?_of_not_listed hlisted']
        cases f.decides? [] with
        | none => exact ih
        | some b => exact le_rfl

/-- The way along the causes of a failure comes to its end, with every failure on it once, whatever
circles there are behind it.  The first failure on it that decides is followed: by its code if that
is asked for, else by its own word if it has one, else by its kind.  The codes count as a set, and
asking for more of them only speaks for another attempt. -/
theorem isRetryable_follows_causes (id : FailureId) :
    let path := fs.causePath (some id)
    fs.IsCausePath id path ∧ path.length ≤ fs.all.size + 1 ∧
      (∀ codes, fs.FirstWord codes path (fs.isRetryable codes (some id))) ∧
      ∃ verdict : Finset String → Bool, Monotone verdict ∧
        ∀ codes : List String, fs.isRetryable codes (some id) = verdict codes.toFinset := by
  intro path
  refine ⟨isCausePath_causePath fs id, length_causePath_le fs id, ?_, ?_⟩
  · intro codes
    exact firstWord_wordOn fs codes path
  · refine ⟨fun codes => fs.wordOn codes.toList path, ?_, ?_⟩
    · intro codes codes' hcodes
      refine wordOn_mono fs ?_ path
      intro code hcode
      rw [Finset.mem_toList] at hcode ⊢
      exact hcodes hcode
    · intro codes
      have hmem : ∀ code, code ∈ codes ↔ code ∈ codes.toFinset.toList := by simp
      exact le_antisymm (wordOn_mono fs (fun code => (hmem code).1) path)
        (wordOn_mono fs (fun code => (hmem code).2) path)

/-- Two failures that say nothing and are each other's cause. -/
example : (⟨#[.caused (.told .general "") 1, .caused (.told .general "") 0], []⟩ :
    Failures).isRetryable ["503"] (some 0) = false := by decide

end Failures

end RequestPipeline
