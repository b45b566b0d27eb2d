import RequestPipeline.Proofs.Cancellation
import RequestPipeline.Proofs.Causes
import RequestPipeline.Proofs.TameHooks

/-!
# Finite chains of causes

A heap is `Untangled` if its chains of causes are finite and no fault of the network has a failure
behind it that may come again, by its label or by the context that it ends.  A failure from outside
has causes of its own (`FailureSpec.StandsAlone`), so building it keeps the heap untangled, and so
does a failure of the library and a new cause for a failure that is not behind it.
-/

namespace RequestPipeline

/-! ## Heaps -/

namespace Failures

variable {fs fs' fs'' : Failures} {apart : FailureId → Prop} {x c id : FailureId}

theorem knows_iff : fs.Knows id ↔ id < fs.all.size := by
  constructor
  · intro h
    by_contra hid
    obtain ⟨reason, hreason⟩ := h
    simp [reasonAt?, get?, Array.getElem?_eq_none (Nat.le_of_not_lt hid)] at hreason
  · intro hid
    exact ⟨fs.all[id].reason, by simp [reasonAt?, get?, hid]⟩

theorem not_knows_new (fs : Failures) : ¬ fs.Knows fs.all.size := by
  simp [knows_iff]

/-- The failure is a fault of the network. -/
def IsFault (fs : Failures) (id : FailureId) : Prop :=
  ∃ fault, fs.kindAt? id = some (.outside (.network fault))

theorem Grows.isFault (h : fs.Grows fs') (hknows : fs.Knows id) (hfault : fs'.IsFault id) :
    fs.IsFault id := by
  obtain ⟨reason, hreason⟩ := hknows
  obtain ⟨fault, hkind⟩ := hfault
  rw [kindAt?_of_reasonAt? (h id reason hreason)] at hkind
  exact ⟨fault, by rw [kindAt?_of_reasonAt? hreason, hkind]⟩

theorem TellsEnd.knows (h : fs.TellsEnd id) : fs.Knows id := by
  obtain ⟨reason, hreason, -⟩ := Option.map_eq_some_iff.1 h
  exact ⟨reason, hreason⟩

/-- All chains of causes come to an end within the heap. -/
structure Grounded (fs : Failures) : Prop where
  ends : ∀ id, fs.Ends id
  known : ∀ id c, fs.causeOf? id = some c → fs.Knows c

/-- No failure has become the cause of another one. -/
def Spares (fs fs' : Failures) : Prop :=
  ∀ id c, fs.Knows c → fs'.causeOf? id = some c → fs.causeOf? id = some c

theorem Spares.trans (hgrows : fs.Grows fs') (h : fs.Spares fs') (h' : fs'.Spares fs'') :
    fs.Spares fs'' := by
  intro id c hc hcause
  exact h id c hc (h' id c (hgrows.knows hc) hcause)

theorem knows_of_causeOf? (h : fs.causeOf? id = some c) : fs.Knows id :=
  knows_iff.2 (lt_size_of_causeOf? h)

theorem Behind.knows (h : fs.Behind id x) : fs.Knows id := by
  obtain ⟨c, hcause⟩ := Option.ne_none_iff_exists'.1 h.causeOf?_ne_none
  exact knows_of_causeOf? hcause

/-- What was there before is behind nothing else than before. -/
theorem Spares.behind (h : fs.Spares fs') (hx : fs.Knows x) (hbehind : fs'.Behind id x) :
    fs.Behind id x := by
  induction hbehind with
  | single hcause => exact .single (h _ _ hx hcause)
  | tail _ hcause ih =>
    have hlast := h _ _ hx hcause
    exact .tail (ih (knows_of_causeOf? hlast)) hlast

/-- No failure is behind others before it is made. -/
theorem Grounded.not_behind (h : fs.Grounded) (hx : ¬ fs.Knows x) : ¬ fs.Behind id x := by
  intro hbehind
  obtain ⟨c, hcause⟩ := hbehind.exists_causeOf?
  exact hx (h.known c x hcause)

theorem Grounded.of_same (h : fs.Grounded) (hgrows : fs.Grows fs')
    (hsame : fs'.causeOf? = fs.causeOf?) : fs'.Grounded := by
  constructor
  · intro id
    have hends := h.ends id
    rwa [Ends, ← hsame] at hends
  · intro id c hcause
    rw [hsame] at hcause
    exact hgrows.knows (h.known id c hcause)

theorem Grounded.link (h : fs.Grounded) (hgrows : fs.Grows fs')
    (hupdate : fs'.causeOf? = Function.update fs.causeOf? x (some c)) (hc : fs.Knows c)
    (hself : c ≠ x) (hbehind : ¬ fs.Behind c x) : fs'.Grounded := by
  constructor
  · exact ends_of_update hupdate h.ends hself hbehind
  · intro id d hcause
    by_cases hid : id = x
    · rw [hupdate, hid, Function.update_self, Option.some.injEq] at hcause
      exact hcause ▸ hgrows.knows hc
    · rw [hupdate, Function.update_of_ne hid] at hcause
      exact hgrows.knows (h.known id d hcause)

/-- All chains of causes come to an end, and none of certain failures is behind a fault of the
network. -/
structure Untangled (apart : FailureId → Prop) (fs : Failures) : Prop extends Grounded fs where
  apart : ∀ f x, fs.IsFault f → fs.Behind f x → ¬ apart x

theorem Untangled.of_spares (h : fs.Untangled apart) (hgrows : fs.Grows fs')
    (hspares : fs.Spares fs') (hgrounded : fs'.Grounded) (hknown : ∀ x, apart x → fs.Knows x) :
    fs'.Untangled apart := by
  refine ⟨hgrounded, fun f x hfault hbehind hx => ?_⟩
  have hbefore : fs.Behind f x := hspares.behind (hknown x hx) hbehind
  exact h.apart f x (hgrows.isFault hbefore.knows hfault) hbefore hx

theorem Untangled.of_same (h : fs.Untangled apart) (hgrows : fs.Grows fs')
    (hsame : fs'.causeOf? = fs.causeOf?) : fs'.Untangled apart := by
  refine ⟨h.toGrounded.of_same hgrows hsame, fun f x hfault hbehind => ?_⟩
  rw [Behind, hsame] at hbehind
  exact h.apart f x (hgrows.isFault (Behind.knows hbehind) hfault) hbehind

/-- A new cause for a failure that is not behind it, and that no fault of the network leads to. -/
theorem Untangled.link (h : fs.Untangled apart) (hgrows : fs.Grows fs')
    (hupdate : fs'.causeOf? = Function.update fs.causeOf? x (some c)) (hc : fs.Knows c)
    (hself : c ≠ x) (hbehind : ¬ fs.Behind c x)
    (hfaults : ∀ f, fs'.IsFault f → f ≠ x ∧ ¬ fs.Behind f x) : fs'.Untangled apart := by
  refine ⟨h.toGrounded.link hgrows hupdate hc hself hbehind, fun f y hfault hnew => ?_⟩
  rcases behind_of_update hupdate hnew with hold | ⟨hleads, -⟩
  · exact h.apart f y (hgrows.isFault hold.knows hfault) hold
  · obtain ⟨hne, hnot⟩ := hfaults f hfault
    rcases hleads with rfl | hleads
    · exact absurd rfl hne
    · exact absurd hleads hnot

/-! ### Failures of the library -/

theorem Untangled.add (h : fs.Untangled apart) {f : Failure} (hcause : f.cause = none) :
    (fs.add f).2.Untangled apart :=
  h.of_same (fs.grows_add f) (causeOf?_add_of_causeless fs hcause)

theorem kindAt?_add_self (fs : Failures) (f : Failure) :
    (fs.add f).2.kindAt? fs.all.size = some f.kind :=
  kindAt?_of_reasonAt? (reasonAt?_add_self fs f)

/-- A new failure that is no fault of the network, with an old one as its cause. -/
theorem Untangled.addCaused (h : fs.Untangled apart) {f : Failure} (hcause : f.cause = some c)
    (hc : fs.Knows c) (hkind : ∀ fault, f.kind ≠ .outside (.network fault)) :
    (fs.add f).2.Untangled apart := by
  have hupdate : (fs.add f).2.causeOf? = Function.update fs.causeOf? fs.all.size (some c) := by
    rw [causeOf?_add, hcause]
  have hnew : ∀ id, ¬ fs.Behind id fs.all.size := fun id => h.not_behind fs.not_knows_new
  refine h.link (fs.grows_add f) hupdate hc ?_ (hnew c) fun g hfault => ⟨?_, hnew g⟩
  · rintro rfl
    exact fs.not_knows_new hc
  · rintro rfl
    obtain ⟨fault, hfault⟩ := hfault
    rw [kindAt?_add_self, Option.some.injEq] at hfault
    exact hkind fault hfault

theorem kind_of_because? {reason behind : Failure.Reason} (h : reason.because? = some behind)
    (fault : Failure.NetworkFault) : reason.kind ≠ .outside (.network fault) := by
  cases reason <;> simp_all [Failure.Reason.because?, Failure.Reason.kind]

theorem Untangled.addReason (h : fs.Untangled apart) (reason : Failure.Reason) :
    (fs.addReason reason).2.Untangled apart := by
  cases hbehind : reason.because? with
  | none =>
    simp only [Failures.addReason, hbehind]
    exact h.add rfl
  | some behind =>
    simp only [Failures.addReason, hbehind]
    exact (h.add rfl).addCaused rfl (knows_add_self _) (kind_of_because? hbehind)

end Failures

/-! ### Failures from outside -/

namespace FailureSpec

/-- Neither the failure nor any of its causes can be had again. -/
def IsUnlabelled : FailureSpec → Prop
  | .make f label cause => f.cause = none ∧ label = none ∧
    match cause with
    | none => True
    | some behind => IsUnlabelled behind

theorem isUnlabelled_make {f : Failure} {label : Option String} {cause : Option FailureSpec} :
    (make f label cause).IsUnlabelled ↔ f.cause = none ∧ label = none ∧
      ∀ behind, cause = some behind → behind.IsUnlabelled := by
  rw [IsUnlabelled.eq_def]
  cases cause <;> simp

/-- The causes of the failure are its own: none of them can be had again. -/
def StandsAlone : FailureSpec → Prop
  | .make f _ cause => f.cause = none ∧ ∀ behind, cause = some behind → behind.IsUnlabelled

end FailureSpec

namespace Failures

variable {fs fs' : Failures} {apart : FailureId → Prop} {x c id : FailureId}

theorem spares_of_same (h : fs'.causeOf? = fs.causeOf?) : fs.Spares fs' := by
  intro id c _ hcause
  rwa [h] at hcause

theorem Spares.link (h : fs.Spares fs')
    (hupdate : fs''.causeOf? = Function.update fs'.causeOf? x (some c)) (hc : ¬ fs.Knows c) :
    fs.Spares fs'' := by
  intro id d hd hcause
  by_cases hid : id = x
  · rw [hupdate, hid, Function.update_self, Option.some.injEq] at hcause
    exact absurd (hcause ▸ hd) hc
  · rw [hupdate, Function.update_of_ne hid] at hcause
    exact h id d hd hcause

theorem causeOf?_put_of_causeless (label : Option String) {f : Failure} (h : f.cause = none) :
    (fs.put label f).causeOf? = fs.causeOf? := by
  rw [causeOf?_put, causeOf?_add_of_causeless fs h]

theorem knows_put_self (fs : Failures) (label : Option String) (f : Failure) :
    (fs.put label f).Knows fs.all.size :=
  ⟨f.reason, by rw [reasonAt?_put]; exact reasonAt?_add_self fs f⟩

/-- A description has been followed: chains are finite still, and the failure made has no part in
those that were there. -/
structure Built (fs : Failures) (made : FailureId) (fs' : Failures) : Prop where
  grounded : fs'.Grounded
  spares : fs.Spares fs'
  new : ¬ fs.Knows made
  known : fs'.Knows made

/-- A failure with a cause made anew after it. -/
theorem built_behind (h : fs.Grounded) (label : Option String) {f : Failure}
    (hcause : f.cause = none) {behind : FailureSpec}
    (hbehind : Built (fs.put label f) ((fs.put label f).build behind).1
      ((fs.put label f).build behind).2) :
    let fs' := ((fs.put label f).build behind).2.setCause fs.all.size
      (some ((fs.put label f).build behind).1)
    Built fs fs.all.size fs' ∧ ∀ id, ¬ fs'.Behind id fs.all.size := by
  intro fs'
  have hself : (fs.put label f).Knows fs.all.size := fs.knows_put_self label f
  have hmade : ((fs.put label f).build behind).2.Knows fs.all.size :=
    (grows_build _ behind).knows hself
  have hupdate : fs'.causeOf? = Function.update ((fs.put label f).build behind).2.causeOf?
      fs.all.size (some ((fs.put label f).build behind).1) :=
    causeOf?_setCause (knows_iff.1 hmade) _
  have hput : fs.Spares (fs.put label f) := spares_of_same (causeOf?_put_of_causeless label hcause)
  have hne : ((fs.put label f).build behind).1 ≠ fs.all.size := by
    intro heq
    exact hbehind.new (heq ▸ hself)
  -- nothing was behind the new failure before it got its cause
  have hnot : ∀ id, ¬ ((fs.put label f).build behind).2.Behind id fs.all.size := by
    intro id hid
    have hbefore := hbehind.spares.behind hself hid
    rw [Behind, causeOf?_put_of_causeless label hcause] at hbefore
    exact h.not_behind fs.not_knows_new hbefore
  refine ⟨⟨?_, ?_, fs.not_knows_new, ?_⟩, fun id hid => ?_⟩
  · exact hbehind.grounded.link (grows_setCause _ _ _) hupdate hbehind.known hne (hnot _)
  · refine (hput.trans (fs.grows_put label f) hbehind.spares).link hupdate fun hknows => ?_
    exact hbehind.new ((fs.grows_put label f).knows hknows)
  · exact (grows_setCause _ _ _).knows hmade
  · rcases behind_of_update hupdate hid with hold | ⟨-, hleads | hleads⟩
    · exact hnot id hold
    · exact hne hleads.symm
    · exact hnot _ hleads

/-- A failure made anew, with causes made anew. -/
theorem built_of_unlabelled (spec : FailureSpec) (fs : Failures) (hspec : spec.IsUnlabelled)
    (h : fs.Grounded) : Built fs (fs.build spec).1 (fs.build spec).2 := by
  match spec with
  | .make f label cause =>
    obtain ⟨hcause, rfl, hbehind⟩ := FailureSpec.isUnlabelled_make.1 hspec
    have hput : (fs.put none f).Grounded :=
      h.of_same (fs.grows_put none f) (causeOf?_put_of_causeless none hcause)
    rw [build_new rfl]
    cases cause with
    | none =>
      exact ⟨hput, spares_of_same (causeOf?_put_of_causeless none hcause), fs.not_knows_new,
        fs.knows_put_self none f⟩
    | some behind =>
      exact (built_behind h none hcause
        (built_of_unlabelled behind (fs.put none f) (hbehind behind rfl) hput)).1

theorem labels_build_unlabelled (spec : FailureSpec) (fs : Failures) (hspec : spec.IsUnlabelled) :
    (fs.build spec).2.labels = fs.labels := by
  match spec with
  | .make f label cause =>
    obtain ⟨-, rfl, hbehind⟩ := FailureSpec.isUnlabelled_make.1 hspec
    rw [build_new rfl]
    cases cause with
    | none => rfl
    | some behind =>
      rw [labels_setCause]
      exact labels_build_unlabelled behind (fs.put none f) (hbehind behind rfl)

/-- A failure made with causes of its own is behind nothing. -/
theorem Untangled.built (h : fs.Untangled apart) (hgrows : fs.Grows fs') (hbuilt : Built fs x fs')
    (hfront : ∀ id, ¬ fs'.Behind id x) (hknown : ∀ y, apart y → fs.Knows y) :
    fs'.Untangled (fun y => apart y ∨ y = x) := by
  have hold : fs'.Untangled apart := h.of_spares hgrows hbuilt.spares hbuilt.grounded hknown
  refine ⟨hbuilt.grounded, fun f y hfault hbehind hy => ?_⟩
  rcases hy with hy | rfl
  · exact hold.apart f y hfault hbehind hy
  · exact hfront f hbehind

theorem of_lookup_put {label : Option String} {f : Failure} {l : String}
    (h : (fs.put label f).labels.lookup l = some id) :
    fs.labels.lookup l = some id ∨ id = fs.all.size := by
  cases label with
  | none => exact .inl h
  | some l' =>
    rw [put, List.lookup_cons] at h
    by_cases hsame : l = l'
    · simp only [hsame, beq_self_eq_true, Option.some.injEq] at h
      exact .inr h.symm
    · simp only [beq_false_of_ne hsame] at h
      exact .inl h

/-- A failure that stands alone is made without a circle, or is there already.  No fault of the
network has it behind, as long as none has a failure behind that has a label. -/
theorem Untangled.build (h : fs.Untangled apart) {spec : FailureSpec} (hspec : spec.StandsAlone)
    (hknown : ∀ y, apart y → fs.Knows y)
    (hlabels : ∀ label id, fs.labels.lookup label = some id → apart id) :
    (fs.build spec).2.Untangled (fun y => apart y ∨ y = (fs.build spec).1) ∧
      (fs.build spec).2.Knows (fs.build spec).1 ∧
      ∀ label id, (fs.build spec).2.labels.lookup label = some id →
        apart id ∨ id = (fs.build spec).1 := by
  cases spec with
  | make f label cause =>
    obtain ⟨hcause, hbehind⟩ := hspec
    cases hlookup : label.bind fun l => fs.labels.lookup l with
    | some id =>
      obtain ⟨l, -, hl⟩ := Option.bind_eq_some_iff.1 hlookup
      have hid : apart id := hlabels l id hl
      rw [build_known hlookup]
      refine ⟨⟨h.toGrounded, fun f y hfault hold hy => ?_⟩, hknown id hid,
        fun l id hl => .inl (hlabels l id hl)⟩
      rcases hy with hy | rfl
      · exact h.apart f y hfault hold hy
      · exact h.apart f _ hfault hold hid
    | none =>
      have hgrows := fs.grows_build (.make f label cause)
      rw [build_new hlookup] at hgrows ⊢
      have hlabelled : ∀ l id, (fs.put label f).labels.lookup l = some id →
          apart id ∨ id = fs.all.size := by
        intro l id hl
        rcases of_lookup_put hl with hold | hnew
        · exact .inl (hlabels l id hold)
        · exact .inr hnew
      have hsame : (fs.put label f).causeOf? = fs.causeOf? := causeOf?_put_of_causeless label hcause
      have hput : (fs.put label f).Grounded := h.toGrounded.of_same (fs.grows_put label f) hsame
      cases cause with
      | none =>
        have hbuilt : Built fs fs.all.size (fs.put label f) :=
          ⟨hput, spares_of_same hsame, fs.not_knows_new, fs.knows_put_self label f⟩
        refine ⟨h.built hgrows hbuilt (fun id hid => ?_) hknown, hbuilt.known, hlabelled⟩
        rw [Behind, hsame] at hid
        exact h.not_behind fs.not_knows_new hid
      | some behind =>
        have halone : behind.IsUnlabelled := hbehind behind rfl
        obtain ⟨hbuilt, hfront⟩ := built_behind h.toGrounded label hcause
          (built_of_unlabelled behind (fs.put label f) halone hput)
        refine ⟨h.built hgrows hbuilt hfront hknown, hbuilt.known, fun l id hl => ?_⟩
        rw [labels_setCause, labels_build_unlabelled behind _ halone] at hl
        exact hlabelled l id hl

/-! ### The end of a context -/

/-- The end of a context stands for the failure it was cancelled by, if that tells the end of a
context, and for a new one otherwise. -/
theorem ofEnding_cases (fs : Failures) (e : Context.Ending) :
    (∃ x, e = .cancelled (some x) ∧ fs.TellsEnd x ∧ fs.ofEnding e = (x, fs)) ∨
      (∀ x, e = .cancelled (some x) → ¬ fs.TellsEnd x) ∧
        ∃ reason, reason.kind = .cancelled ∧ fs.ofEnding e = fs.add (.ofReason reason) := by
  match e with
  | .expired => exact .inr ⟨nofun, .deadlineExceeded, rfl, rfl⟩
  | .cancelled none => exact .inr ⟨nofun, .cancelled none, rfl, rfl⟩
  | .cancelled (some x) =>
    cases hx : fs.get? x with
    | none =>
      refine .inr ⟨?_, .cancelled none, rfl, by simp [ofEnding, hx]⟩
      rintro _ ⟨⟩ htells
      simp [TellsEnd, kindAt?, reasonAt?, hx] at htells
    | some f =>
      have hkind : fs.kindAt? x = some f.kind := kindAt?_of_reasonAt? (by simp [reasonAt?, hx])
      by_cases hcancelled : f.kind = .cancelled
      · refine .inl ⟨x, rfl, ?_, by simp [ofEnding, hx, hcancelled]⟩
        rw [TellsEnd, hkind, hcancelled]
      · refine .inr ⟨?_, .cancelled (some f.message), rfl, by simp [ofEnding, hx, hcancelled]⟩
        rintro _ ⟨⟩ htells
        rw [TellsEnd, hkind, Option.some.injEq] at htells
        exact hcancelled htells

end Failures

end RequestPipeline
