import RequestPipeline.Failure.Retryable

/-!
# The heap of failures

Failures are only ever added to the heap, and all that changes of one later is its cause.  So a
failure keeps its reason and a label keeps its failure: `Failures.Grows` is the relation between an
earlier and a later heap.  `Failures.build_fits` says what failure comes of a description, and
`Failures.isRetryable_of_decides` which failures decide about a retry without a look at their
causes.
-/

namespace RequestPipeline

namespace Failures

variable (fs : Failures)

/-- The reason of a failure in the heap. -/
def reasonAt? (id : FailureId) : Option Failure.Reason := (fs.get? id).map Failure.reason

/-- The kind of a failure in the heap. -/
def kindAt? (id : FailureId) : Option Failure.Kind := (fs.reasonAt? id).map Failure.Reason.kind

theorem kindAt?_of_reasonAt? {fs : Failures} {id : FailureId} {reason : Failure.Reason}
    (h : fs.reasonAt? id = some reason) : fs.kindAt? id = some reason.kind := by
  rw [kindAt?, h]
  rfl

/-- Every failure is still there with its reason. -/
def Grows (fs fs' : Failures) : Prop :=
  ∀ id reason, fs.reasonAt? id = some reason → fs'.reasonAt? id = some reason

theorem Grows.refl : fs.Grows fs := fun _ _ h => h

theorem Grows.trans {fs fs' fs'' : Failures} (h : fs.Grows fs') (h' : fs'.Grows fs'') :
    fs.Grows fs'' := fun id reason hid => h' id reason (h id reason hid)

/-! ## Adding -/

@[simp] theorem get?_add_self (f : Failure) : (fs.add f).2.get? (fs.add f).1 = some f := by
  simp [add, get?]

theorem get?_add_of_some {id : FailureId} {g : Failure} (f : Failure) (h : fs.get? id = some g) :
    (fs.add f).2.get? id = some g := by
  have hid : id < fs.all.size := by
    by_cases hid : id < fs.all.size
    · exact hid
    · simp [get?, Array.getElem?_eq_none (Nat.le_of_not_lt hid)] at h
  have hne : id ≠ fs.all.size := Nat.ne_of_lt hid
  simpa [add, get?, Array.getElem?_push, hne] using h

theorem grows_add (f : Failure) : fs.Grows (fs.add f).2 := by
  intro id reason h
  obtain ⟨g, hg, rfl⟩ := Option.map_eq_some_iff.1 h
  simp [reasonAt?, get?_add_of_some fs f hg]

@[simp] theorem reasonAt?_add_self (f : Failure) :
    (fs.add f).2.reasonAt? (fs.add f).1 = some f.reason := by
  simp [reasonAt?]

@[simp] theorem labels_add (f : Failure) : (fs.add f).2.labels = fs.labels := rfl

/-! ## Reasons behind reasons -/

theorem grows_addReason (reason : Failure.Reason) : fs.Grows (fs.addReason reason).2 := by
  rw [addReason]
  split
  · exact fs.grows_add _
  · exact (fs.grows_add _).trans (grows_add _ _)

@[simp] theorem reasonAt?_addReason_self (reason : Failure.Reason) :
    (fs.addReason reason).2.reasonAt? (fs.addReason reason).1 = some reason := by
  rw [addReason]
  split <;> exact reasonAt?_add_self _ _

/-- A failure that is added is a new one. -/
theorem get?_addReason_new (reason : Failure.Reason) :
    fs.get? (fs.addReason reason).1 = none := by
  rw [addReason]
  split <;> simp [add, get?]

/-- A failure for a reason has no exit code but that of its kind. -/
theorem exists_addReason_self (reason : Failure.Reason) :
    ∃ f, (fs.addReason reason).2.get? (fs.addReason reason).1 = some f ∧
      f.exitCode? = reason.kind.exitCode? := by
  rw [addReason]
  split <;>
    exact ⟨_, get?_add_self _ _, by simp [Failure.exitCode?, Failure.kind, Failure.ofReason,
      Failure.caused]⟩

@[simp] theorem labels_addReason (reason : Failure.Reason) :
    (fs.addReason reason).2.labels = fs.labels := by
  rw [addReason]
  split <;> rfl

/-! ## Causes -/

@[simp] theorem reasonAt?_setCause (id id' : FailureId) (cause : Option FailureId) :
    (fs.setCause id cause).reasonAt? id' = fs.reasonAt? id' := by
  simp only [reasonAt?, get?, setCause, Array.getElem?_modify]
  split
  · cases fs.all[id']? <;> rfl
  · rfl

@[simp] theorem kindAt?_setCause (id id' : FailureId) (cause : Option FailureId) :
    (fs.setCause id cause).kindAt? id' = fs.kindAt? id' := by
  rw [kindAt?, reasonAt?_setCause, kindAt?]

theorem grows_setCause (id : FailureId) (cause : Option FailureId) :
    fs.Grows (fs.setCause id cause) := by
  intro id' reason h
  simpa using h

@[simp] theorem labels_setCause (id : FailureId) (cause : Option FailureId) :
    (fs.setCause id cause).labels = fs.labels := rfl

/-! ## Labels -/

/-- Every label leads to a failure of the reason that it stands for. -/
def Fits (words : String → Failure.Reason) : Prop :=
  ∀ label id, fs.labels.lookup label = some id → fs.reasonAt? id = some (words label)

theorem Fits.grow {words : String → Failure.Reason} {fs fs' : Failures} (h : fs.Fits words)
    (hgrows : fs.Grows fs') (hlabels : fs'.labels = fs.labels) : fs'.Fits words := by
  intro label id hid
  exact hgrows id _ (h label id (hlabels ▸ hid))

end Failures

namespace FailureSpec

/-- The failure to be made. -/
def failure : FailureSpec → Failure
  | .make failure _ _ => failure

/-- The description and those of its causes go with what their labels stand for. -/
def Fits (words : String → Failure.Reason) : FailureSpec → Prop
  | .make failure label cause =>
    (∀ l, label = some l → failure.reason = words l) ∧
      match cause with
      | none => True
      | some spec => Fits words spec

end FailureSpec

namespace Failures

/-- The heap after a failure has been put under a label. -/
def put (fs : Failures) (label : Option String) (f : Failure) : Failures :=
  match label with
  | some l => { (fs.add f).2 with labels := (l, (fs.add f).1) :: fs.labels }
  | none => (fs.add f).2

@[simp] theorem reasonAt?_put (fs : Failures) (label : Option String) (f : Failure)
    (id : FailureId) : (fs.put label f).reasonAt? id = (fs.add f).2.reasonAt? id := by
  cases label <;> rfl

theorem fits_put {words : String → Failure.Reason} {fs : Failures} (h : fs.Fits words)
    {label : Option String} {f : Failure} (hlabel : ∀ l, label = some l → f.reason = words l) :
    (fs.put label f).Fits words := by
  have hadd : (fs.add f).2.Fits words := h.grow (fs.grows_add f) rfl
  cases label with
  | none => exact hadd
  | some l =>
    intro label id hid
    rw [reasonAt?_put]
    rw [put, List.lookup_cons] at hid
    split at hid
    · rename_i heq
      obtain rfl : label = l := by simpa using heq
      obtain rfl : (fs.add f).1 = id := by simpa using hid
      simp [hlabel label rfl]
    · exact hadd label id hid

theorem build_known {fs : Failures} {f : Failure} {label : Option String}
    {cause : Option FailureSpec} {id : FailureId}
    (h : (label.bind fun l => fs.labels.lookup l) = some id) :
    fs.build (.make f label cause) = (id, fs) := by
  rw [build, h]

theorem build_new {fs : Failures} {f : Failure} {label : Option String}
    {cause : Option FailureSpec} (h : (label.bind fun l => fs.labels.lookup l) = none) :
    fs.build (.make f label cause) =
      ((fs.add f).1,
        match cause with
        | none => fs.put label f
        | some spec => ((fs.put label f).build spec).2.setCause (fs.add f).1
          (some ((fs.put label f).build spec).1)) := by
  rw [build, h]
  cases cause <;> cases label <;> rfl

/-- A failure made from its description, which may be an old one, has the reason described. -/
theorem build_fits (words : String → Failure.Reason) (spec : FailureSpec) (fs : Failures)
    (hspec : spec.Fits words) (hfs : fs.Fits words) :
    (fs.build spec).2.reasonAt? (fs.build spec).1 = some spec.failure.reason ∧
      fs.Grows (fs.build spec).2 ∧ (fs.build spec).2.Fits words := by
  match spec with
  | .make f label cause =>
    rw [FailureSpec.Fits.eq_def] at hspec
    obtain ⟨hlabel, hcause⟩ := hspec
    cases hlookup : label.bind fun l => fs.labels.lookup l with
    | some id =>
      rw [build_known hlookup]
      obtain ⟨l, rfl, hid⟩ := Option.bind_eq_some_iff.1 hlookup
      refine ⟨?_, .refl fs, hfs⟩
      rw [hfs l id hid, ← hlabel l rfl]
      rfl
    | none =>
      rw [build_new hlookup]
      have hgrows : fs.Grows (fs.put label f) := by
        intro id reason hid
        simpa using fs.grows_add f id reason hid
      cases cause with
      | none => exact ⟨by simp [FailureSpec.failure], hgrows, fits_put hfs hlabel⟩
      | some behind =>
        obtain ⟨-, hlater, hfits⟩ := build_fits words behind (fs.put label f) hcause
          (fits_put hfs hlabel)
        refine ⟨?_, fun id reason hid => ?_, hfits.grow (grows_setCause _ _ _) rfl⟩
        · simpa using hlater _ _ (by simp [FailureSpec.failure])
        · simpa using hlater _ _ (hgrows id reason hid)

/-! ## Whether another attempt may go better -/

/-- A failure that decides is not looked behind. -/
theorem isRetryable_of_decides {fs : Failures} {codes : List String} {id : FailureId} {f : Failure}
    {b : Bool} (hget : fs.get? id = some f) (h : f.decides? codes = some b) :
    fs.isRetryable codes (some id) = b := by
  simp [isRetryable, causePath, pathFrom, hget, h]

/-- A failure without code and word of its own leaves the decision to its kind. -/
theorem decides?_of_silent {codes : List String} {f : Failure} (hcode : f.code = none)
    (hverdict : f.verdict = .silent) (hkind : f.kind.isTransient = false) :
    f.decides? codes = none := by
  simp [Failure.decides?, hcode, hverdict, hkind]

/-- Nothing speaks for another attempt after a failure that has a reason of a lasting kind, as has
the one behind it. -/
theorem isRetryable_addReason {fs : Failures} {codes : List String}
    {reason behind : Failure.Reason} (hbehind : reason.because? = some behind)
    (hkind : reason.kind.isTransient = false) (hkind' : behind.kind.isTransient = false) :
    (fs.addReason reason).2.isRetryable codes (some (fs.addReason reason).1) = false := by
  have hcause : (fs.addReason reason).2.get? fs.all.size = some (.ofReason behind) := by
    simp only [addReason, hbehind]
    exact get?_add_of_some _ _ (fs.get?_add_self (.ofReason behind))
  have hself : (fs.addReason reason).2.get? (fs.addReason reason).1 =
      some (.caused reason fs.all.size) := by
    simp only [addReason, hbehind]
    exact get?_add_self _ _
  have hid : (fs.addReason reason).1 = fs.all.size + 1 := by
    simp [addReason, hbehind, add]
  have hcauses : (Failure.ofReason behind).decides? codes = none :=
    decides?_of_silent rfl rfl hkind'
  have hdecides : (Failure.caused reason fs.all.size).decides? codes = none :=
    decides?_of_silent rfl rfl hkind
  have hsize : (fs.addReason reason).2.all.size = fs.all.size + 2 := by
    simp [addReason, hbehind, add]
  have hpath : (fs.addReason reason).2.causePath (some (fs.addReason reason).1) =
      [fs.all.size + 1, fs.all.size] := by
    rw [hid] at hself ⊢
    simp [causePath, pathFrom, hself, hcause, hsize, Failure.caused, Failure.ofReason]
  rw [hid] at hself
  simp [isRetryable, hpath, hself, hcause, hcauses, hdecides]

end Failures

end RequestPipeline
