import RequestPipeline.Proofs.Precedence

/-!
# Settings that cannot be used

`Settings.resolve_ends` says how putting settings together ends.  Settings that come out keep every
bound of their fields.  Layers that have no settings are reported as an error of the configuration,
with one exception: the delay of one layer is no mapping, and another layer sets a part of it by
its flat name.  `Settings.Clashes` describes these layers, and merging them raises a `TypeError`
that nothing catches.
-/

namespace RequestPipeline.Settings

open Value

variable {s : Surroundings} {arguments : List (String × Value)} {layer base merged : Layer}

/-- The value is a mapping. -/
def Mapping (v : Value) : Prop := ∃ entries, v = .dict entries

/-- There is a delay, and it is a mapping. -/
def Fit (delay : Option Value) : Prop := ∃ w, delay = some w ∧ Mapping w

/-- There is a delay, and it is no mapping. -/
def Unfit (delay : Option Value) : Prop := ∃ w, delay = some w ∧ ¬ Mapping w

/-! ## What clashes -/

/-- The project gives a delay that is no mapping. -/
def ProjectDelayUnfit (s : Surroundings) : Prop := Unfit (lookupKey (projectEntries s) "delay")

/-- A part of the delay is given by itself. -/
def SetsPart (arguments : List (String × Value)) : Prop :=
  ∃ part ∈ delayFields, given? arguments part ≠ none

/-- The arguments give a mapping for the delay, as a whole or part by part. -/
def TypesMapping (arguments : List (String × Value)) : Prop :=
  Fit (given? arguments "delay") ∨ (given? arguments "delay" = none ∧ SetsPart arguments)

/-- A part of the delay is given after a whole delay that is no mapping. -/
def Stumbles (arguments : List (String × Value)) : Prop :=
  ∃ before w between part v after,
    arguments = before ++ ("delay", w) :: between ++ (part, v) :: after ∧
      w ≠ .null ∧ ¬ Mapping w ∧ given? between "delay" = none ∧ part ∈ delayFields ∧ v ≠ .null

/-- Both files can be used, and yet a part of the delay is to be set where the delay is no
mapping. -/
structure Clashes (s : Surroundings) (arguments : List (String × Value)) : Prop where
  user : ∃ record, ofUser s = .ok record
  project : ∃ entries, ofProject s = .ok entries
  clash : (ProjectDelayUnfit s ∧ (SetsPart (fromVariables s) ∨ TypesMapping arguments)) ∨
    Stumbles arguments

/-! ## Putting in the arguments -/

theorem given?_eq_some {name : String} {w : Value} (h : given? arguments name = some w) :
    w ≠ .null ∧ ∃ before between, arguments = before ++ (name, w) :: between ∧
      given? between name = none := by
  induction arguments using List.reverseRecOn with
  | nil => cases h
  | append_singleton earlier a ih =>
    obtain ⟨key, v⟩ := a
    rw [given?_append_singleton] at h
    have hcontinue : hear name none (key, v) = none → given? earlier name = some w →
        w ≠ .null ∧ ∃ before between, earlier ++ [(key, v)] = before ++ (name, w) :: between ∧
          given? between name = none := by
      intro hquiet hearlier
      obtain ⟨hw, before, between, rfl, hnone⟩ := ih hearlier
      refine ⟨hw, before, between ++ [(key, v)], by simp, ?_⟩
      rw [given?_append_singleton, hnone, hquiet]
    by_cases hv : v = .null
    · subst hv
      exact hcontinue rfl h
    · rw [hear_of_ne_null hv] at h
      by_cases hkey : key = name
      · subst hkey
        obtain rfl : v = w := by simpa using h
        exact ⟨hv, earlier, [], rfl, rfl⟩
      · rw [if_neg hkey] at h
        exact hcontinue (by rw [hear_of_ne_null hv, if_neg hkey]) h

theorem given?_append (front back : List (String × Value)) (name : String) :
    given? (front ++ back) name = (given? back name).or (given? front name) := by
  induction back using List.reverseRecOn with
  | nil => simp [given?]
  | append_singleton earlier a ih =>
    obtain ⟨key, v⟩ := a
    rw [← List.append_assoc, given?_append_singleton, ih, given?_append_singleton]
    by_cases hv : v = .null
    · subst hv
      rfl
    · rw [hear_of_ne_null hv, hear_of_ne_null hv]
      split <;> rfl

theorem putDelay_error_iff {key : String} {v : Value} :
    (∃ reason, putDelay layer key v = .error reason) ↔ Unfit (lookupKey layer "delay") := by
  rw [putDelay]
  cases hdelay : lookupKey layer "delay" with
  | none => simp [Unfit]
  | some w => cases w <;> simp [Unfit, Mapping]

/-- The delay in the layer of arguments: it is there iff something is said about it, and it is a
whole delay of the arguments unless it is a mapping. -/
structure DelayOf (arguments : List (String × Value)) (layer : Layer) : Prop where
  absent : lookupKey layer "delay" = none ↔ given? arguments "delay" = none ∧ ¬ SetsPart arguments
  whole : ∀ w, ¬ Mapping w →
    (lookupKey layer "delay" = some w ↔ given? arguments "delay" = some w)

theorem setsPart_append_singleton (a : String × Value) :
    SetsPart (arguments ++ [a]) ↔
      SetsPart arguments ∨ (a.1 ∈ delayFields ∧ a.2 ≠ .null) := by
  obtain ⟨key, v⟩ := a
  simp only [SetsPart, given?_append_singleton]
  by_cases hv : v = .null
  · subst hv
    simp [hear]
  · simp only [hear_of_ne_null hv]
    constructor
    · rintro ⟨part, hpart, hgiven⟩
      by_cases hkey : key = part
      · exact .inr ⟨hkey ▸ hpart, hv⟩
      · exact .inl ⟨part, hpart, by simpa [hkey] using hgiven⟩
    · rintro (⟨part, hpart, hgiven⟩ | ⟨hkey, -⟩)
      · refine ⟨part, hpart, ?_⟩
        split
        · simp
        · exact hgiven
      · exact ⟨key, hkey, by simp⟩

theorem delayOf_argue {a : String × Value} {after : Layer} (hlayer : DelayOf arguments layer)
    (h : argue layer a = .ok after) : DelayOf (arguments ++ [a]) after := by
  obtain ⟨key, v⟩ := a
  obtain ⟨rfl, rfl⟩ | ⟨hv, hkey, hput⟩ | ⟨hv, hkey, rfl⟩ := argue_cases h
  · refine ⟨?_, fun w hw => ?_⟩
    · rw [given?_append_singleton, setsPart_append_singleton, hlayer.absent]
      simp [hear]
    · rw [given?_append_singleton, hlayer.whole w hw]
      rfl
  · have hne : key ≠ "delay" := by
      rintro rfl
      simp [delayFields] at hkey
    obtain ⟨entries, hentries, rfl⟩ := putDelay_ok hput
    refine ⟨?_, fun w hw => ?_⟩
    · rw [lookupKey_putEntry_self, setsPart_append_singleton]
      simp [hkey, hv]
    · rw [lookupKey_putEntry_self, given?_append_singleton, hear_of_ne_null hv, if_neg hne,
        ← hlayer.whole w hw]
      constructor
      · intro heq
        exact absurd ⟨_, (Option.some.inj heq).symm⟩ hw
      · intro heq
        rw [heq] at hentries
        exact absurd ⟨entries, hentries⟩ hw
  · refine ⟨?_, fun w hw => ?_⟩
    · rw [lookupKey_putEntry_ofString, setsPart_append_singleton, given?_append_singleton,
        hear_of_ne_null hv]
      by_cases hdelay : key = "delay"
      · simp [hdelay]
      · simp [hdelay, hkey, hlayer.absent]
    · rw [lookupKey_putEntry_ofString, given?_append_singleton, hear_of_ne_null hv]
      split
      · rfl
      · exact hlayer.whole w hw

theorem ofArguments_append_singleton (a : String × Value) :
    ofArguments (arguments ++ [a]) = ofArguments arguments >>= fun layer => argue layer a := by
  rw [ofArguments_eq, ofArguments_eq, List.foldlM_append]
  congr 1
  funext layer
  exact List.foldlM_cons.trans (bind_pure _)

theorem delayOf_ofArguments (h : ofArguments arguments = .ok layer) : DelayOf arguments layer := by
  induction arguments using List.reverseRecOn generalizing layer with
  | nil =>
    obtain rfl : [] = layer := by simpa [ofArguments, pure, Except.pure] using h
    exact ⟨by simp [given?, SetsPart], fun w _ => by simp [given?]⟩
  | append_singleton earlier a ih =>
    rw [ofArguments_append_singleton] at h
    obtain ⟨before, hbefore, hlast⟩ := Json.bind_eq_ok h
    exact delayOf_argue (ih hbefore) hlast

theorem stumbles_append_singleton (a : String × Value) :
    Stumbles (arguments ++ [a]) ↔ Stumbles arguments ∨
      ∃ w, given? arguments "delay" = some w ∧ ¬ Mapping w ∧ a.1 ∈ delayFields ∧ a.2 ≠ .null := by
  constructor
  · rintro ⟨before, w, between, part, v, after, heq, hw, hplain, hnone, hpart, hv⟩
    induction after using List.reverseRecOn with
    | nil =>
      obtain ⟨rfl, rfl⟩ : arguments = before ++ ("delay", w) :: between ∧ a = (part, v) := by
        have hsplit : arguments ++ [a] = (before ++ ("delay", w) :: between) ++ [(part, v)] := by
          simpa using heq
        exact ⟨List.append_inj_left' hsplit rfl, by simpa using List.append_inj_right' hsplit rfl⟩
      refine .inr ⟨w, ?_, hplain, hpart, hv⟩
      have hcons : given? (("delay", w) :: between) "delay" = some w := by
        have happend := given?_append [("delay", w)] between "delay"
        rw [hnone] at happend
        simpa [given?, hear_of_ne_null hw] using happend
      rw [given?_append, hcons, Option.some_or]
    | append_singleton rest last _ =>
      refine .inl ⟨before, w, between, part, v, rest, ?_, hw, hplain, hnone, hpart, hv⟩
      have hsplit : arguments ++ [a] =
          (before ++ ("delay", w) :: between ++ (part, v) :: rest) ++ [last] := by
        simpa using heq
      exact List.append_inj_left' hsplit rfl
  · rintro (⟨before, w, between, part, v, after, rfl, hrest⟩ | ⟨w, hw, hplain, hpart, hv⟩)
    · exact ⟨before, w, between, part, v, after ++ [a], by simp, hrest⟩
    · obtain ⟨hnull, before, between, rfl, hnone⟩ := given?_eq_some hw
      exact ⟨before, w, between, a.1, a.2, [], by simp, hnull, hplain, hnone, hpart, hv⟩

/-- The arguments cannot be put into a layer exactly if a part stumbles over a whole delay. -/
theorem ofArguments_error_iff :
    (∃ reason, ofArguments arguments = .error reason) ↔ Stumbles arguments := by
  induction arguments using List.reverseRecOn with
  | nil =>
    refine ⟨fun ⟨reason, h⟩ => (by cases h), ?_⟩
    rintro ⟨before, w, between, part, v, after, heq, -⟩
    simp at heq
  | append_singleton earlier a ih =>
    rw [stumbles_append_singleton, ← ih, ofArguments_append_singleton]
    cases hearlier : ofArguments earlier with
    | error reason => simp [bind, Except.bind]
    | ok layer =>
      have hdelay := delayOf_ofArguments hearlier
      obtain ⟨key, v⟩ := a
      simp only [bind, Except.bind, reduceCtorEq, exists_false, false_or]
      by_cases hv : v = .null
      · subst hv
        simp [argue]
      rw [argue_of_ne_null hv]
      by_cases hkey : key ∈ delayFields
      · rw [if_pos (by simpa using hkey), putDelay_error_iff]
        constructor
        · rintro ⟨w, hw, hplain⟩
          exact ⟨w, (hdelay.whole w hplain).1 hw, hplain, hkey, hv⟩
        · rintro ⟨w, hw, hplain, -⟩
          exact ⟨w, (hdelay.whole w hplain).2 hw, hplain⟩
      · rw [if_neg (by simpa using hkey)]
        simp [hkey]

theorem kind_of_putDelay {key : String} {v : Value} {reason : Failure.Reason}
    (h : putDelay layer key v = .error reason) : reason.kind = .outside .type := by
  rw [putDelay] at h
  split at h <;> cases h <;> rfl

theorem kind_of_ofArguments {reason : Failure.Reason} (h : ofArguments arguments = .error reason) :
    reason.kind = .outside .type := by
  induction arguments using List.reverseRecOn with
  | nil => cases h
  | append_singleton earlier a ih =>
    rw [ofArguments_append_singleton] at h
    cases hearlier : ofArguments earlier with
    | error r =>
      rw [hearlier] at h
      cases h
      exact ih hearlier
    | ok layer =>
      rw [hearlier] at h
      obtain ⟨key, v⟩ := a
      have hargue : argue layer (key, v) = .error reason := h
      by_cases hv : v = .null
      · subst hv
        cases hargue
      rw [argue_of_ne_null hv] at hargue
      split at hargue
      · exact kind_of_putDelay hargue
      · cases hargue

/-! ## Merging -/

theorem mergeEntry_delay_error_iff {v : Value} :
    (∃ reason, mergeEntry base (.str "delay", v) = .error reason) ↔
      Mapping v ∧ Unfit (lookupKey base "delay") := by
  cases v with
  | dict parts =>
    have hparts : delayParts? (.str "delay", .dict parts) = some parts :=
      delayParts?_eq_some_iff.2 rfl
    rw [mergeEntry, hparts]
    cases hdelay : lookupKey base "delay" with
    | none => simp [Unfit]
    | some w => cases w <;> simp [Unfit, Mapping]
  | _ => simp [mergeEntry, delayParts?, Mapping]

theorem kind_of_mergeEntry {entry : Value × Value} {reason : Failure.Reason}
    (h : mergeEntry base entry = .error reason) : reason.kind = .outside .type := by
  unfold mergeEntry at h
  split at h
  · split at h <;> cases h
    rfl
  · cases h

theorem kind_of_merge {reason : Failure.Reason} (h : merge base layer = .error reason) :
    reason.kind = .outside .type := by
  induction layer generalizing base with
  | nil => cases h
  | cons entry rest ih =>
    have hstep : (mergeEntry base entry >>= fun next => merge next rest) = .error reason := h
    cases hentry : mergeEntry base entry with
    | error r =>
      rw [hentry] at hstep
      cases hstep
      exact kind_of_mergeEntry hentry
    | ok next =>
      rw [hentry] at hstep
      exact ih hstep

/-- A layer cannot be merged exactly if it gives a mapping for a delay that is none. -/
theorem merge_error_iff (hnamed : Named layer) :
    (∃ reason, merge base layer = .error reason) ↔
      Fit (lookupKey layer "delay") ∧ Unfit (lookupKey base "delay") := by
  induction layer generalizing base with
  | nil => exact ⟨fun ⟨_, h⟩ => (by cases h), by simp [Fit]⟩
  | cons entry rest ih =>
    obtain ⟨k, v⟩ := entry
    have hstep : merge base ((k, v) :: rest) =
        mergeEntry base (k, v) >>= fun next => merge next rest := rfl
    rw [hstep]
    by_cases hk : k = .str "delay"
    · subst hk
      have hlast : lookupKey rest "delay" = none :=
        lookupKey_eq_none_iff.2 (List.nodup_cons.1 hnamed.distinct).1
      have hhere : (∃ reason, mergeEntry base (.str "delay", v) = .error reason) ↔
          Mapping v ∧ Unfit (lookupKey base "delay") := mergeEntry_delay_error_iff
      have hfit : Fit (some v) ↔ Mapping v := by simp [Fit]
      rw [lookupKey_cons_self, hfit, ← hhere]
      cases hentry : mergeEntry base (.str "delay", v) with
      | error reason => simp [bind, Except.bind]
      | ok next =>
        have hrest : (∃ reason, merge next rest = .error reason) ↔
            Fit (lookupKey rest "delay") ∧ Unfit (lookupKey next "delay") := ih hnamed.tail
        rw [hlast] at hrest
        simpa [bind, Except.bind, Fit] using hrest
    · rw [mergeEntry_of_ne_delay v hk, lookupKey_cons_of_ne _ _ hk,
        ← lookupKey_putEntry_of_ne base v hk]
      exact ih hnamed.tail

theorem Over.unfit_iff {below above result : Option Value} (h : Over below above result) :
    Unfit result ↔ Unfit above ∨ (above = none ∧ Unfit below) := by
  cases h with
  | kept => simp [Unfit]
  | mixed => simp [Unfit, Mapping]
  | replaced => simp

/-! ## The layers of files and variables -/

theorem kind_of_readFile {label path : String} {bytes : Option Text.Bytes} {reason : Failure.Reason}
    (h : readFile label path bytes = .error reason) : reason.kind = .config := by
  unfold readFile at h
  split at h
  · cases h
  · split at h <;> cases h <;> rfl

theorem kind_of_ofUser {reason : Failure.Reason} (h : ofUser s = .error reason) :
    reason.kind = .config := by
  rw [ofUser] at h
  simp only [bind, Except.bind] at h
  split at h
  · rename_i hread
    cases h
    exact kind_of_readFile hread
  · rename_i layer _
    cases hvalidate : validate (.dict (layer.getD [])) with
    | error report =>
      rw [hvalidate] at h
      cases h
      rfl
    | ok v =>
      rw [hvalidate] at h
      cases h

theorem kind_of_ofProject {reason : Failure.Reason} (h : ofProject s = .error reason) :
    reason.kind = .config := kind_of_readFile h

theorem given?_delay_fromVariables (s : Surroundings) :
    given? (fromVariables s) "delay" = none := by
  cases h : given? (fromVariables s) "delay" with
  | none => rfl
  | some w =>
    obtain ⟨-, before, between, heq, -⟩ := given?_eq_some h
    have hmem : ("delay", w) ∈ fromVariables s := by simp [heq]
    exact absurd rfl (key_of_mem_fromVariables hmem)

/-- The variables can always be put into a layer. -/
theorem ofVariables_ok (s : Surroundings) : ∃ layer, ofVariables s = .ok layer := by
  rw [ofVariables_eq]
  cases h : ofArguments (fromVariables s) with
  | ok layer => exact ⟨layer, rfl⟩
  | error reason =>
    obtain ⟨before, w, between, part, v, after, heq, -⟩ := ofArguments_error_iff.1 ⟨reason, h⟩
    have hmem : ("delay", w) ∈ fromVariables s := by simp [heq]
    exact absurd rfl (key_of_mem_fromVariables hmem)

/-- The delay of the arguments is a mapping exactly if one is typed. -/
theorem DelayOf.fit_iff (h : DelayOf arguments layer) :
    Fit (lookupKey layer "delay") ↔ TypesMapping arguments := by
  have hplain : Unfit (lookupKey layer "delay") ↔ Unfit (given? arguments "delay") := by
    constructor
    · rintro ⟨w, hw, hunfit⟩
      exact ⟨w, (h.whole w hunfit).1 hw, hunfit⟩
    · rintro ⟨w, hw, hunfit⟩
      exact ⟨w, (h.whole w hunfit).2 hw, hunfit⟩
  have habsent := h.absent
  rw [TypesMapping]
  cases hlayer : lookupKey layer "delay" with
  | none =>
    obtain ⟨hnone, hsets⟩ := habsent.1 hlayer
    simp [Fit, hnone, hsets]
  | some w =>
    rw [hlayer] at hplain habsent
    cases hgiven : given? arguments "delay" with
    | none =>
      rw [hgiven] at hplain habsent
      have hsets : SetsPart arguments := by simpa using habsent
      have hmapping : Mapping w := by simpa [Unfit] using hplain
      simp [Fit, hsets, hmapping]
    | some g =>
      rw [hgiven] at hplain
      have hsame : Mapping w ↔ Mapping g := by simpa [Unfit, not_iff_not] using hplain
      simp [Fit, hsame]

/-! ## All layers -/

theorem error_of_not_ok {α : Type} {r : Except Failure.Reason α}
    (h : ¬ ∃ reason, r = .error reason) : ∃ a, r = .ok a := by
  cases r with
  | error reason => exact absurd ⟨reason, rfl⟩ h
  | ok a => exact ⟨a, rfl⟩

/-- The layers above the files, one after the other. -/
def finish (s : Surroundings) (arguments : List (String × Value)) (withProject : Layer) :
    Except Failure.Reason Layer := do
  let setHere ← ofVariables s
  let withVariables ← merge withProject setHere
  let typed ← ofArguments arguments
  merge withVariables typed

theorem resolve_eq (s : Surroundings) (arguments : List (String × Value)) :
    resolve s arguments = (do
      let user ← ofUser s
      let project ← ofProject s
      let withProject ← merge (entriesOf user) (project.getD [])
      let all ← finish s arguments withProject
      (validate (.dict all)).mapError .badSettings) := by
  simp only [resolve, finish, bind_assoc]

/-- Variables set parts of a delay and never the delay as a whole. -/
theorem delay_ofVariables {setHere : Layer} (hset : ofVariables s = .ok setHere) :
    (Fit (lookupKey setHere "delay") ↔ SetsPart (fromVariables s)) ∧
      ¬ Unfit (lookupKey setHere "delay") ∧
      (lookupKey setHere "delay" = none ↔ ¬ SetsPart (fromVariables s)) := by
  have hdelay := delayOf_ofArguments (ofVariables_eq s ▸ hset)
  have hnowhole := given?_delay_fromVariables s
  refine ⟨?_, ?_, by simp [hdelay.absent, hnowhole]⟩
  · rw [hdelay.fit_iff]
    simp [TypesMapping, hnowhole, Fit]
  · rintro ⟨w, hw, hplain⟩
    rw [hdelay.whole w hplain, hnowhole] at hw
    cases hw

/-- Over a delay of the files, the variables and arguments either make a layer or clash. -/
theorem finish_error_iff {withProject : Layer} :
    (∃ reason, finish s arguments withProject = .error reason) ↔
      (Unfit (lookupKey withProject "delay") ∧
        (SetsPart (fromVariables s) ∨ TypesMapping arguments)) ∨ Stumbles arguments := by
  obtain ⟨setHere, hset⟩ := ofVariables_ok s
  have hhere := reflects_ofArguments (ofVariables_eq s ▸ hset)
  obtain ⟨hfit, hunfit, habsent⟩ := delay_ofVariables hset
  have hfinish : finish s arguments withProject = merge withProject setHere >>= fun withVariables =>
      ofArguments arguments >>= fun typed => merge withVariables typed := by
    rw [finish, hset]
    rfl
  rw [hfinish]
  by_cases hvariables : ∃ reason, merge withProject setHere = .error reason
  · -- a variable sets a part of a delay that is no mapping
    obtain ⟨hsets, hproject⟩ := (merge_error_iff hhere.named).1 hvariables
    obtain ⟨reason, hreason⟩ := hvariables
    rw [hreason]
    exact ⟨fun _ => .inl ⟨hproject, .inl (hfit.1 hsets)⟩, fun _ => ⟨reason, rfl⟩⟩
  obtain ⟨withVariables, hok⟩ := error_of_not_ok hvariables
  rw [merge_error_iff hhere.named, hfit, not_and_or] at hvariables
  rw [hok]
  by_cases hstumbles : Stumbles arguments
  · obtain ⟨reason, hreason⟩ := ofArguments_error_iff.2 hstumbles
    exact ⟨fun _ => .inr hstumbles, fun _ => ⟨reason, by simp [hreason, bind, Except.bind]⟩⟩
  · obtain ⟨typed, htyped⟩ := error_of_not_ok (mt ofArguments_error_iff.1 hstumbles)
    have hover := (merge_ok hhere.named hok).2
    have hmerge : (∃ reason, merge withVariables typed = .error reason) ↔
        Fit (lookupKey typed "delay") ∧ Unfit (lookupKey withVariables "delay") :=
      merge_error_iff (reflects_ofArguments htyped).named
    rw [(delayOf_ofArguments htyped).fit_iff, hover.unfit_iff, habsent] at hmerge
    have hbind : ((Except.ok withVariables : Except Failure.Reason Layer) >>= fun withVariables =>
        ofArguments arguments >>= fun typed => merge withVariables typed) =
        merge withVariables typed := by
      rw [htyped]
      rfl
    rw [hbind, hmerge]
    constructor
    · rintro ⟨hmapping, hplain | ⟨-, hproject⟩⟩
      · exact absurd hplain hunfit
      · exact .inl ⟨hproject, .inr hmapping⟩
    · rintro (⟨hproject, hmixes⟩ | hstumble)
      · have hsets : ¬ SetsPart (fromVariables s) :=
          hvariables.resolve_right (not_not_intro hproject)
        exact ⟨hmixes.resolve_left hsets, .inr ⟨hsets, hproject⟩⟩
      · exact absurd hstumble hstumbles

theorem kind_of_finish {withProject : Layer} {reason : Failure.Reason}
    (h : finish s arguments withProject = .error reason) : reason.kind = .outside .type := by
  obtain ⟨setHere, hset⟩ := ofVariables_ok s
  simp only [finish, hset, bind, Except.bind] at h
  split at h
  · rename_i hmerge
    cases h
    exact kind_of_merge hmerge
  · split at h
    · rename_i harguments
      cases h
      exact kind_of_ofArguments harguments
    · exact kind_of_merge h

theorem eq_delay_of_mem {field : String × Schema × Option Value} (h : field ∈ schema.fields)
    (hname : field.1 = "delay") :
    field = ("delay", Backoff.schema, some Backoff.steady.toRecord) := by
  simp only [schema, Schema.fields, List.mem_cons, List.not_mem_nil, or_false] at h
  rcases h with rfl | rfl | rfl | rfl | rfl | rfl | rfl | rfl | rfl | rfl
  case inr.inr.inr.inr.inr.inr.inr.inr.inl => rfl
  all_goals exact absurd hname (by decide)

/-- A record that is checked as the delay has its form. -/
theorem fits_delay {entries : Layer} {w : Value}
    (h : Backoff.schema.check (.dict entries) = .ok w) :
    Schema.Fits Backoff.schema w := by
  obtain ⟨found, rfl, hfound⟩ := Schema.checkFields_of_check h
  refine Schema.fits_record (by decide) hfound fun part hpart v hv => ?_
  exact Schema.fits_of_settles (flat_part hpart) (fits_default_part hpart) hv

/-- Settings that are put together keep the bounds of their fields. -/
theorem fits_of_resolve {v : Value} (h : resolve s arguments = .ok v)
    (hchecked : DelaysChecked arguments) : Schema.Fits schema v := by
  obtain ⟨all, hstacked, hcheck⟩ := stacked_of_resolve h
  obtain ⟨found, rfl, hfound⟩ := Schema.checkFields_of_check hcheck
  refine Schema.fits_record (by decide) hfound fun field hfield w hw => ?_
  by_cases hne : field.1 = "delay"
  · obtain rfl := eq_delay_of_mem hfield hne
    obtain ⟨_, hshows, -⟩ := hstacked.delay
    obtain ⟨delay, hdelay⟩ := Option.ne_none_iff_exists'.1 hshows.present
    rw [hdelay] at hw
    have hcheckdelay : Backoff.schema.check delay = .ok w := hw
    cases delay with
    | dict entries => exact fits_delay hcheckdelay
    | record name given =>
      rw [Backoff.schema, Schema.check_record] at hcheckdelay
      simp only at hcheckdelay
      split at hcheckdelay
      · rename_i hname
        subst hname
        obtain rfl : Value.record "DelayConfig" given = w := by simpa using hcheckdelay
        obtain ⟨entries, hentries⟩ := hchecked given (hstacked.record _ _ hdelay).1
        exact fits_delay hentries
      · cases hcheckdelay
    | _ =>
      rw [Backoff.schema, Schema.check_record] at hcheckdelay
      cases hcheckdelay
  · have hflat := flat_of_ne_delay hfield hne
    exact Schema.fits_of_settles hflat
      (fun u hu => Schema.fits_of_check hflat (check_default hfield hne u hu)) hw

/-- Over files that can be used, what is left to go wrong is a clash or a bound. -/
theorem resolve_over_files {user : Value} {project : Option Layer} (huser : ofUser s = .ok user)
    (hproject : ofProject s = .ok project) :
    ∃ withProject, ((∃ reason, finish s arguments withProject = .error reason) ↔
        Clashes s arguments) ∧
      resolve s arguments = finish s arguments withProject >>= fun all =>
        (validate (.dict all)).mapError .badSettings := by
  have hentries : project.getD [] = projectEntries s := by
    rw [projectEntries, hproject]
    cases project <;> rfl
  have hnamed := named_of_isData (isData_projectEntries s)
  obtain ⟨given, hdelay, -⟩ := (bottom_of_ofUser huser).delay
  -- the delay of the user is a mapping, so the project goes over it
  have hbase : ¬ Unfit (lookupKey (entriesOf user) "delay") := by simp [hdelay, Unfit, Mapping]
  obtain ⟨withProject, hmerged⟩ := error_of_not_ok fun h => hbase ((merge_error_iff hnamed).1 h).2
  have hover := (merge_ok hnamed hmerged).2
  have hunfit : Unfit (lookupKey withProject "delay") ↔ ProjectDelayUnfit s := by
    rw [hover.unfit_iff]
    simp [hbase, ProjectDelayUnfit]
  refine ⟨withProject, ?_, ?_⟩
  · rw [finish_error_iff, hunfit]
    exact ⟨fun h => ⟨⟨user, huser⟩, ⟨project, hproject⟩, h⟩, fun h => h.clash⟩
  · have hmerges : resolve s arguments = merge (entriesOf user) (project.getD []) >>=
        fun withProject => finish s arguments withProject >>= fun all =>
          (validate (.dict all)).mapError .badSettings := by
      rw [resolve_eq, huser, hproject]
      rfl
    rw [hmerges, hentries, hmerged]
    rfl

/-- Putting settings together gives settings within all bounds or reports an error of the
configuration, except where two layers clash: then, and only then, it ends in an error of types. -/
theorem resolve_ends (s : Surroundings) (arguments : List (String × Value))
    (hchecked : DelaysChecked arguments) :
    (∃ v, resolve s arguments = .ok v ∧ Schema.Fits schema v ∧ ¬ Clashes s arguments) ∨
    (∃ reason, resolve s arguments = .error reason ∧ reason.kind = .config ∧
      ¬ Clashes s arguments) ∨
    ∃ reason, resolve s arguments = .error reason ∧ reason.kind = .outside .type ∧
      Clashes s arguments := by
  cases huser : ofUser s with
  | error reason =>
    refine .inr (.inl
      ⟨reason, by simp [resolve, huser, bind, Except.bind], kind_of_ofUser huser, ?_⟩)
    rintro ⟨⟨user, hok⟩, -, -⟩
    simp [huser] at hok
  | ok user =>
  cases hproject : ofProject s with
  | error reason =>
    refine .inr (.inl ⟨reason, by simp [resolve, huser, hproject, bind, Except.bind],
      kind_of_ofProject hproject, ?_⟩)
    rintro ⟨-, ⟨project, hok⟩, -⟩
    simp [hproject] at hok
  | ok project =>
  obtain ⟨withProject, hclashes, hresolve⟩ := resolve_over_files huser hproject
  cases hfinish : finish s arguments withProject with
  | error reason =>
    refine .inr (.inr ⟨reason, by rw [hresolve, hfinish]; rfl, kind_of_finish hfinish, ?_⟩)
    exact hclashes.1 ⟨reason, hfinish⟩
  | ok all =>
    have hnoclash : ¬ Clashes s arguments := by
      rw [← hclashes, hfinish]
      simp
    cases hvalidate : validate (.dict all) with
    | error report =>
      refine .inr (.inl ⟨.badSettings report, ?_, rfl, hnoclash⟩)
      rw [hresolve, hfinish]
      simp [bind, Except.bind, hvalidate, Except.mapError]
    | ok v =>
      have hok : resolve s arguments = .ok v := by
        rw [hresolve, hfinish]
        simp [bind, Except.bind, hvalidate, Except.mapError]
      exact .inl ⟨v, hok, fits_of_resolve hok hchecked, hnoclash⟩

/-- A project whose delay is a number, and a variable for the jitter. -/
def numberedDelay : Surroundings where
  environment := [("HOOKLINE_JITTER", "0.1")]
  platform := "Linux"
  workingDirectory := "/work"
  files := [("hookline.json", .file (Text.encodeUtf8 "\x7b\"delay\": 5\x7d".toList))]

theorem numbered_delay_ends : DelaysChecked [("delay", Backoff.steady.toRecord)] ∧
    ((∃ v, resolve numberedDelay [("delay", Backoff.steady.toRecord)] = .ok v ∧
        Schema.Fits schema v ∧ ¬ Clashes numberedDelay [("delay", Backoff.steady.toRecord)]) ∨
      (∃ reason, resolve numberedDelay [("delay", Backoff.steady.toRecord)] = .error reason ∧
        reason.kind = .config ∧ ¬ Clashes numberedDelay [("delay", Backoff.steady.toRecord)]) ∨
      ∃ reason, resolve numberedDelay [("delay", Backoff.steady.toRecord)] = .error reason ∧
        reason.kind = .outside .type ∧
        Clashes numberedDelay [("delay", Backoff.steady.toRecord)]) := by
  have hchecked : DelaysChecked [("delay", Backoff.steady.toRecord)] := by
    intro given hgiven
    obtain rfl : given = Backoff.steady.toRecord.fields := by
      simpa [Backoff.toRecord, fields] using hgiven
    exact ⟨[], rfl⟩
  exact ⟨hchecked, resolve_ends numberedDelay _ hchecked⟩

/-- A number in the place of the delay is no error of the configuration if a variable sets a part
of it. -/
theorem numbered_delay_is_type_error :
    ∃ reason, resolve numberedDelay [] = .error reason ∧ reason.kind = .outside .type := by
  have hkind : (match resolve numberedDelay [] with
      | .error reason => decide (reason.kind = .outside .type)
      | .ok _ => false) = true := by decide +kernel
  cases hresolve : resolve numberedDelay [] with
  | ok v =>
    rw [hresolve] at hkind
    cases hkind
  | error reason =>
    rw [hresolve] at hkind
    exact ⟨reason, rfl, of_decide_eq_true hkind⟩

end RequestPipeline.Settings
