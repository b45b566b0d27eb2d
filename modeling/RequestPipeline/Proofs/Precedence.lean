import Mathlib.Data.List.Induction
import RequestPipeline.Proofs.JsonData
import RequestPipeline.Proofs.Validation
import RequestPipeline.Settings

/-!
# Which layer a setting comes from

`Settings.resolve_settles` says where the fields come from.  Every field, and every part of the
delay by itself, comes from the highest layer that mentions it, and from its default if none does.
Within the keyword arguments the parts of the delay can be given flat, one by one, or as a whole,
and a whole delay makes the flat parts before it void: `Settings.typedPart?` is what the arguments
say about a part, and `Settings.heardPart?` what is left of that.
-/

namespace RequestPipeline.Settings

open Value

/-! ## What the arguments say -/

/-- What is said under a name after one more argument; null says nothing. -/
def hear (name : String) (known : Option Value) : String × Value → Option Value
  | (_, .null) => known
  | (key, v) => if key = name then some v else known

/-- What the arguments say about a name. -/
def given? (arguments : List (String × Value)) (name : String) : Option Value :=
  arguments.foldl (hear name) none

/-- What a whole delay says about a part. -/
def partOf? : Value → String → Option Value
  | .dict entries, part => lastOf? entries part
  | .record _ fields, part => fields.lookup part
  | _, _ => none

/-- What the arguments say about a part of the delay, by itself or else within a whole delay. -/
def typedPart? (arguments : List (String × Value)) (part : String) : Option Value :=
  (given? arguments part).or ((given? arguments "delay").bind (partOf? · part))

/-- What is known about a part of the delay after one more argument.  A whole delay takes the place
of everything before it. -/
def hearPart (part : String) (known : Option Value) : String × Value → Option Value
  | (_, .null) => known
  | (key, v) => if key = part then some v else if key = "delay" then partOf? v part else known

/-- What is left of what the arguments say about a part of the delay. -/
def heardPart? (arguments : List (String × Value)) (part : String) : Option Value :=
  arguments.foldl (hearPart part) none

/-- No argument for the part stands before a whole delay. -/
def Heeded (arguments : List (String × Value)) (part : String) : Prop :=
  ∀ before whole after, arguments = before ++ ("delay", whole) :: after → whole ≠ .null →
    given? before part = none

theorem given?_append_singleton (arguments : List (String × Value)) (a : String × Value)
    (name : String) : given? (arguments ++ [a]) name = hear name (given? arguments name) a := by
  simp [given?]

theorem heardPart?_append_singleton (arguments : List (String × Value)) (a : String × Value)
    (part : String) :
    heardPart? (arguments ++ [a]) part = hearPart part (heardPart? arguments part) a := by
  simp [heardPart?]

theorem hear_of_ne_null {v : Value} (hv : v ≠ .null) (name key : String) (known : Option Value) :
    hear name known (key, v) = if key = name then some v else known := by
  cases v <;> simp_all [hear]

theorem hearPart_of_ne_null {v : Value} (hv : v ≠ .null) (part key : String)
    (known : Option Value) : hearPart part known (key, v) =
      if key = part then some v else if key = "delay" then partOf? v part else known := by
  cases v <;> simp_all [hearPart]

/-- Where no argument for a part is overtaken by a whole delay, nothing of what is said is lost. -/
theorem heardPart?_of_heeded {arguments : List (String × Value)} {part : String}
    (h : Heeded arguments part) :
    heardPart? arguments part = typedPart? arguments part := by
  induction arguments using List.reverseRecOn with
  | nil => rfl
  | append_singleton earlier a ih =>
    have hearlier : Heeded earlier part := fun before whole after heq hwhole =>
      h before whole (after ++ [a]) (by simp [heq]) hwhole
    obtain ⟨key, v⟩ := a
    rw [heardPart?_append_singleton, ih hearlier]
    simp only [typedPart?, given?_append_singleton]
    by_cases hv : v = .null
    · subst hv
      rfl
    · rw [hear_of_ne_null hv, hear_of_ne_null hv, hearPart_of_ne_null hv]
      by_cases hkey : key = part
      · simp [hkey]
      · by_cases hdelay : key = "delay"
        · subst hdelay
          have hnone : given? earlier part = none := h earlier v [] rfl hv
          simp [hkey, hnone]
        · simp [hkey, hdelay]

/-! ## Variables as arguments -/

/-- The variables as arguments; null stands for a variable that is empty or not set. -/
def fromVariables (s : Surroundings) : List (String × Value) :=
  variableFields.map (fun (source, key, _) =>
    (key, ((filled? s source).map fun set : String => .str set).getD .null)) ++
  [("retry_error_codes", ((filled? s "HOOKLINE_RETRY_ERROR_CODES").map fun codes =>
    .list (splitCodes codes.toList)).getD .null)]

/-- One argument over the ones before it. -/
def argue (layer : Layer) : String × Value → Except Failure.Reason Layer
  | (_, .null) => .ok layer
  | (key, v) =>
    if delayFields.contains key then putDelay layer key v
    else .ok (putEntry layer (.str key) v)

theorem argue_of_ne_null {v : Value} (hv : v ≠ .null) (layer : Layer) (key : String) :
    argue layer (key, v) =
      if delayFields.contains key then putDelay layer key v
      else .ok (putEntry layer (.str key) v) := by
  cases v <;> simp_all [argue]

theorem ofArguments_eq (arguments : List (String × Value)) :
    ofArguments arguments = arguments.foldlM argue [] := by
  rw [ofArguments]
  congr 1
  funext layer a
  obtain ⟨key, v⟩ := a
  cases v <;> rfl

/-- One variable over the ones before it. -/
def enter (s : Surroundings) (layer : Layer) : String × String × Bool → Except Failure.Reason Layer
  | (source, key, inDelay) =>
    match filled? s source with
    | none => .ok layer
    | some value =>
      if inDelay then putDelay layer key (.str value)
      else .ok (putEntry layer (.str key) (.str value))

theorem foldlM_enter (s : Surroundings) {fields : List (String × String × Bool)}
    (h : ∀ f ∈ fields, f.2.2 = delayFields.contains f.2.1) (layer : Layer) :
    fields.foldlM (enter s) layer =
      (fields.map fun (source, key, _) =>
        (key, ((filled? s source).map fun set : String => .str set).getD .null)).foldlM
          argue layer := by
  induction fields generalizing layer with
  | nil => rfl
  | cons field rest ih =>
    obtain ⟨source, key, inDelay⟩ := field
    obtain rfl : inDelay = delayFields.contains key := h _ List.mem_cons_self
    have hrest := ih fun f hf => h f (List.mem_cons_of_mem _ hf)
    rw [List.foldlM_cons, List.map_cons, List.foldlM_cons]
    simp only [hrest, enter]
    cases filled? s source <;> rfl

/-- The variables make the layer that they would make as arguments. -/
theorem ofVariables_eq (s : Surroundings) : ofVariables s = ofArguments (fromVariables s) := by
  have hsteps : ofVariables s = variableFields.foldlM (enter s) [] >>= fun layer =>
      match filled? s "HOOKLINE_RETRY_ERROR_CODES" with
      | none => pure layer
      | some codes =>
        pure (putEntry layer (.str "retry_error_codes") (.list (splitCodes codes.toList))) := rfl
  rw [hsteps, foldlM_enter s (by decide), ofArguments_eq, fromVariables, List.foldlM_append]
  congr 1
  funext layer
  cases filled? s "HOOKLINE_RETRY_ERROR_CODES" <;> rfl

/-! ## The layer of the arguments -/

variable {arguments : List (String × Value)} {layer base merged : Layer}

/-- The layer says what the arguments say. -/
structure Reflects (arguments : List (String × Value)) (layer : Layer) : Prop where
  named : Named layer
  fields : ∀ name, name ≠ "delay" → name ∉ delayFields →
    lookupKey layer name = given? arguments name
  parts : ∀ part ∈ delayFields,
    (lookupKey layer "delay").bind (partOf? · part) = heardPart? arguments part
  /-- Only a mapping has been put together; any other delay is one of the arguments. -/
  whole : ∀ w, lookupKey layer "delay" = some w → (∀ entries, w ≠ .dict entries) →
    ("delay", w) ∈ arguments

theorem putDelay_ok {key : String} {v : Value} {after : Layer}
    (h : putDelay layer key v = .ok after) :
    ∃ entries, (lookupKey layer "delay").getD (.dict []) = .dict entries ∧
      after = putEntry layer (.str "delay") (.dict (putEntry entries (.str key) v)) := by
  rw [putDelay] at h
  split at h
  · rename_i entries hentries
    cases h
    exact ⟨entries, hentries, rfl⟩
  · cases h
  · cases h

theorem partOf?_getD {delay : Option Value} {entries : List (Value × Value)}
    (h : delay.getD (.dict []) = .dict entries) (part : String) :
    delay.bind (partOf? · part) = lastOf? entries part := by
  cases delay with
  | none =>
    obtain rfl : [] = entries := by simpa using h
    rfl
  | some w =>
    obtain rfl : w = .dict entries := h
    rfl

section Argued

variable {key : String} {v : Value}

/-- What one argument does to the layer. -/
theorem argue_cases {after : Layer} (h : argue layer (key, v) = .ok after) :
    (v = .null ∧ after = layer) ∨
      (v ≠ .null ∧ key ∈ delayFields ∧ putDelay layer key v = .ok after) ∨
      (v ≠ .null ∧ key ∉ delayFields ∧ after = putEntry layer (.str key) v) := by
  by_cases hv : v = .null
  · subst hv
    exact .inl ⟨rfl, by simpa [argue] using h.symm⟩
  rw [argue_of_ne_null hv] at h
  split at h
  case isTrue hkey => exact .inr (.inl ⟨hv, by simpa using hkey, h⟩)
  case isFalse hkey => exact .inr (.inr ⟨hv, by simpa using hkey, by simpa using h.symm⟩)

theorem reflects_argue_null (hlayer : Reflects arguments layer) :
    Reflects (arguments ++ [(key, .null)]) layer := by
  refine ⟨hlayer.named, fun name hname hflat => ?_, fun part hpart => ?_, fun w hw hwhole => ?_⟩
  · rw [given?_append_singleton]
    exact hlayer.fields name hname hflat
  · rw [heardPart?_append_singleton]
    exact hlayer.parts part hpart
  · exact List.mem_append_left _ (hlayer.whole w hw hwhole)

/-- With a part of the delay the mapping there gets one more entry. -/
theorem reflects_putDelay {after : Layer} (hlayer : Reflects arguments layer) (hv : v ≠ .null)
    (hmem : key ∈ delayFields) (h : putDelay layer key v = .ok after) :
    Reflects (arguments ++ [(key, v)]) after := by
  obtain ⟨entries, hentries, rfl⟩ := putDelay_ok h
  refine ⟨named_putEntry hlayer.named _ _, fun name hname hflat => ?_, fun part hpart => ?_,
    fun w hw hwhole => ?_⟩
  · have hne : key ≠ name := fun heq => hflat (heq ▸ hmem)
    rw [lookupKey_putEntry_ofString, if_neg (Ne.symm hname), given?_append_singleton,
      hear_of_ne_null hv, if_neg hne, hlayer.fields name hname hflat]
  · have hne : key ≠ "delay" := by
      rintro rfl
      simp [delayFields] at hmem
    rw [lookupKey_putEntry_self, heardPart?_append_singleton, hearPart_of_ne_null hv, if_neg hne,
      ← hlayer.parts part hpart, partOf?_getD hentries]
    exact lastOf?_putEntry_ofString _ _ _ _
  · rw [lookupKey_putEntry_self] at hw
    exact absurd (Option.some.inj hw).symm (hwhole _)

/-- A field of its own, or a whole delay. -/
theorem reflects_putEntry (hlayer : Reflects arguments layer) (hv : v ≠ .null)
    (hother : key ∉ delayFields) :
    Reflects (arguments ++ [(key, v)]) (putEntry layer (.str key) v) := by
  refine ⟨named_putEntry hlayer.named _ _, fun name hname hflat => ?_, fun part hpart => ?_,
    fun w hw hwhole => ?_⟩
  · rw [lookupKey_putEntry_ofString, given?_append_singleton, hear_of_ne_null hv,
      hlayer.fields name hname hflat]
  · have hne : key ≠ part := fun heq => hother (heq ▸ hpart)
    rw [lookupKey_putEntry_ofString, heardPart?_append_singleton, hearPart_of_ne_null hv,
      if_neg hne, ← hlayer.parts part hpart]
    split <;> rfl
  · rw [lookupKey_putEntry_ofString] at hw
    split at hw
    · rename_i hdelay
      obtain rfl : v = w := by simpa using hw
      subst hdelay
      simp
    · exact List.mem_append_left _ (hlayer.whole w hw hwhole)

end Argued

theorem reflects_argue {a : String × Value} {after : Layer} (hlayer : Reflects arguments layer)
    (h : argue layer a = .ok after) : Reflects (arguments ++ [a]) after := by
  obtain ⟨key, v⟩ := a
  obtain ⟨rfl, rfl⟩ | ⟨hv, hkey, hput⟩ | ⟨hv, hkey, rfl⟩ := argue_cases h
  · exact reflects_argue_null hlayer
  · exact reflects_putDelay hlayer hv hkey hput
  · exact reflects_putEntry hlayer hv hkey

theorem reflects_ofArguments (h : ofArguments arguments = .ok layer) :
    Reflects arguments layer := by
  rw [ofArguments_eq] at h
  induction arguments using List.reverseRecOn generalizing layer with
  | nil =>
    obtain rfl : [] = layer := by simpa [pure, Except.pure] using h
    exact ⟨named_nil, fun _ _ _ => rfl, fun _ _ => rfl, by simp⟩
  | append_singleton earlier a ih =>
    rw [List.foldlM_append] at h
    obtain ⟨before, hbefore, hlast⟩ := Json.bind_eq_ok h
    exact reflects_argue (ih hbefore) (by simpa [List.foldlM_cons] using hlast)

theorem key_of_mem_fromVariables {s : Surroundings} {a : String × Value}
    (h : a ∈ fromVariables s) : a.1 ≠ "delay" := by
  rcases List.mem_append.1 h with h | h
  · obtain ⟨field, hfield, rfl⟩ := List.mem_map.1 h
    have hkeys : ∀ f ∈ variableFields, f.2.1 ≠ "delay" := by decide
    exact hkeys field hfield
  · obtain rfl := List.mem_singleton.1 h
    exact (by decide : "retry_error_codes" ≠ "delay")

/-- No variable is overtaken by a whole delay, as no variable sets one. -/
theorem heardPart?_fromVariables (s : Surroundings) (part : String) :
    heardPart? (fromVariables s) part = given? (fromVariables s) part := by
  have hkeys : ∀ a ∈ fromVariables s, a.1 ≠ "delay" := fun a ha => key_of_mem_fromVariables ha
  rw [heardPart?, given?]
  generalize fromVariables s = arguments at hkeys
  generalize (none : Option Value) = known
  induction arguments generalizing known with
  | nil => rfl
  | cons a rest ih =>
    have hstep : hearPart part known a = hear part known a := by
      obtain ⟨key, v⟩ := a
      have hkey : key ≠ "delay" := hkeys _ List.mem_cons_self
      by_cases hv : v = .null
      · subst hv
        rfl
      · rw [hearPart_of_ne_null hv, hear_of_ne_null hv, if_neg hkey]
    rw [List.foldl_cons, List.foldl_cons, hstep]
    exact ih (fun a' ha' => hkeys a' (List.mem_cons_of_mem _ ha')) _

/-! ## One layer over another -/

theorem lookupKey_overlay (base layer : Layer) (name : String) :
    lookupKey (overlay base layer) name = (lastOf? layer name).or (lookupKey base name) := by
  induction layer generalizing base with
  | nil => rfl
  | cons entry rest ih =>
    obtain ⟨k, v⟩ := entry
    have hstep : overlay base ((k, v) :: rest) = overlay (putEntry base k v) rest := rfl
    rw [hstep, ih, lastOf?_cons, Option.or_assoc]
    congr 1
    by_cases hk : k = .str name
    · subst hk
      simp [lookupKey_putEntry_self]
    · rw [lookupKey_putEntry_of_ne _ _ hk, lookupKey_cons_of_ne _ _ hk]
      rfl

/-- What becomes of a delay below another one. -/
inductive Over : (below above result : Option Value) → Prop where
  | kept (below : Option Value) : Over below none below
  | mixed {below : Option Value} {entries : Layer} (parts : Layer)
      (hbelow : below.getD (.dict []) = .dict entries) :
      Over below (some (.dict parts)) (some (.dict (overlay entries parts)))
  | replaced (below : Option Value) {above : Value} (habove : ∀ parts, above ≠ .dict parts) :
      Over below (some above) (some above)

theorem delayParts?_eq_some_iff {entry : Value × Value} {parts : Layer} :
    delayParts? entry = some parts ↔ entry = (.str "delay", .dict parts) := by
  fun_cases delayParts? entry with
  | case1 entries => simp
  | case2 key entries hkey => simp [hkey]
  | case3 entry hother => exact ⟨nofun, fun heq => absurd heq (hother _ _)⟩

theorem mergeEntry_of_ne_delay {k : Value} (v : Value) (h : k ≠ .str "delay") :
    mergeEntry base (k, v) = .ok (putEntry base k v) := by
  rw [mergeEntry]
  split
  · rename_i hparts
    exact absurd (congrArg Prod.fst (delayParts?_eq_some_iff.1 hparts)) h
  · rfl

theorem over_of_mergeEntry {v : Value} (h : mergeEntry base (.str "delay", v) = .ok merged) :
    (∀ name, name ≠ "delay" → lookupKey merged name = lookupKey base name) ∧
      Over (lookupKey base "delay") (some v) (lookupKey merged "delay") := by
  rw [mergeEntry] at h
  split at h
  · rename_i parts hparts
    obtain rfl : v = .dict parts := congrArg Prod.snd (delayParts?_eq_some_iff.1 hparts)
    split at h
    · rename_i entries hentries
      cases h
      refine ⟨fun name hname => ?_, ?_⟩
      · rw [lookupKey_putEntry_ofString, if_neg (Ne.symm hname)]
      · rw [lookupKey_putEntry_self]
        exact .mixed parts hentries
    · cases h
  · rename_i hplain
    cases h
    have hwhole : ∀ parts, v ≠ .dict parts := by
      rintro parts rfl
      exact Option.some_ne_none _ ((delayParts?_eq_some_iff.2 rfl).symm.trans hplain)
    refine ⟨fun name hname => ?_, ?_⟩
    · rw [lookupKey_putEntry_ofString, if_neg (Ne.symm hname)]
    · rw [lookupKey_putEntry_self]
      exact .replaced _ hwhole

/-- What a merged layer says: of a field what the layer above says or else the one below, and of the
delay what comes of the two. -/
theorem merge_ok (hnamed : Named layer) (h : merge base layer = .ok merged) :
    (∀ name, name ≠ "delay" →
      lookupKey merged name = (lookupKey layer name).or (lookupKey base name)) ∧
      Over (lookupKey base "delay") (lookupKey layer "delay") (lookupKey merged "delay") := by
  induction layer generalizing base with
  | nil =>
    obtain rfl : base = merged := by simpa [merge, pure, Except.pure] using h
    exact ⟨fun _ _ => rfl, .kept _⟩
  | cons entry rest ih =>
    obtain ⟨k, v⟩ := entry
    obtain ⟨next, hnext, hrest⟩ := Json.bind_eq_ok h
    obtain ⟨hfields, hdelay⟩ := ih hnamed.tail hrest
    by_cases hk : k = .str "delay"
    · subst hk
      obtain ⟨hkept, hover⟩ := over_of_mergeEntry hnext
      have hlast : lookupKey rest "delay" = none :=
        lookupKey_eq_none_iff.2 (List.nodup_cons.1 hnamed.distinct).1
      refine ⟨fun name hname => ?_, ?_⟩
      · rw [hfields name hname, hkept name hname,
          lookupKey_cons_of_ne v rest fun heq => hname (by simpa using heq.symm)]
      · rw [hlast] at hdelay
        generalize lookupKey merged "delay" = result at hdelay
        cases hdelay
        rwa [lookupKey_cons_self]
    · obtain rfl : putEntry base k v = next := by
        simpa [mergeEntry_of_ne_delay v hk] using hnext
      refine ⟨fun name hname => ?_, ?_⟩
      · rw [hfields name hname]
        by_cases hkey : k = .str name
        · subst hkey
          have hlast : lookupKey rest name = none :=
            lookupKey_eq_none_iff.2 (List.nodup_cons.1 hnamed.distinct).1
          simp [hlast, lookupKey_putEntry_self]
        · rw [lookupKey_putEntry_of_ne _ _ hkey, lookupKey_cons_of_ne _ _ hkey]
      · rwa [lookupKey_putEntry_of_ne _ _ hk, ← lookupKey_cons_of_ne v rest hk] at hdelay

/-- There is a delay, and the parts of a mapping are the given ones. -/
structure Shows (delay : Option Value) (parts : String → Option Value) : Prop where
  present : delay ≠ none
  parts : ∀ entries, delay = some (.dict entries) → ∀ part ∈ delayFields,
    lookupKey entries part = parts part

theorem Over.shows {below above result : Option Value} {parts : String → Option Value}
    (h : Over below above result) (hbelow : Shows below parts) :
    Shows result fun part => (above.bind (partOf? · part)).or (parts part) := by
  cases h with
  | kept => exact ⟨hbelow.present, hbelow.parts⟩
  | @mixed entries given hentries =>
    refine ⟨by simp, fun found hfound part hpart => ?_⟩
    obtain rfl : overlay entries given = found := by simpa using hfound
    have hsome : below = some (.dict entries) := by
      cases below with
      | none => exact absurd rfl hbelow.present
      | some w => exact congrArg some hentries
    rw [lookupKey_overlay, hbelow.parts entries hsome part hpart]
    rfl
  | replaced habove =>
    exact ⟨by simp, fun found hfound => absurd (Option.some.inj hfound) (habove found)⟩

theorem Shows.congr {delay : Option Value} {parts parts' : String → Option Value}
    (h : Shows delay parts) (heq : ∀ part ∈ delayFields, parts part = parts' part) :
    Shows delay parts' :=
  ⟨h.present, fun entries hentries part hpart =>
    (h.parts entries hentries part hpart).trans (heq part hpart)⟩

/-- A record stays where it is or is put there. -/
theorem Over.record {below above result : Option Value} {name : String}
    {given : List (String × Value)} (h : Over below above result)
    (hresult : result = some (.record name given)) :
    above = some (.record name given) ∨ (above = none ∧ below = some (.record name given)) := by
  cases h with
  | kept => exact .inr ⟨rfl, hresult⟩
  | mixed => simp at hresult
  | replaced => exact .inl hresult

/-! ## The files -/

variable {s : Surroundings}

/-- What the file of the user says. -/
def userEntries (s : Surroundings) : Layer :=
  let path := s.configDirectory.below "config.json"
  match readFile "global config" (String.ofList path.text) (s.file? path) with
  | .ok (some entries) => entries
  | _ => []

/-- What the file of the project says. -/
def projectEntries (s : Surroundings) : Layer :=
  match ofProject s with
  | .ok (some entries) => entries
  | _ => []

theorem isData_of_readFile {label path : String} {bytes : Option Text.Bytes} {entries : Layer}
    (h : readFile label path bytes = .ok (some entries)) : Json.IsData (.dict entries) := by
  unfold readFile at h
  split at h
  · cases h
  · split at h
    · cases h
    · rename_i text hread
      cases h
      rw [readJson] at hread
      split at hread
      · cases hread
      · exact Json.isData_of_read (Text.Str.isEncodable_ofChars _) hread
    · cases h

theorem isData_userEntries (s : Surroundings) : Json.IsData (.dict (userEntries s)) := by
  rw [userEntries]
  split
  · rename_i h
    exact isData_of_readFile h
  · exact .dict named_nil nofun nofun

theorem isData_projectEntries (s : Surroundings) : Json.IsData (.dict (projectEntries s)) := by
  rw [projectEntries]
  split
  · rename_i h
    exact isData_of_readFile h
  · exact .dict named_nil nofun nofun

theorem named_of_isData {entries : Layer} (h : Json.IsData (.dict entries)) : Named entries := by
  cases h with
  | dict hnamed _ _ => exact hnamed

theorem isData_of_lookupKey {entries : Layer} {name : String} {v : Value}
    (h : Json.IsData (.dict entries)) (hv : lookupKey entries name = some v) : Json.IsData v := by
  cases h with
  | dict _ _ hvalues => exact hvalues _ (mem_of_lookupKey hv)

theorem check_of_ofUser {user : Value} (h : ofUser s = .ok user) :
    schema.check (.dict (userEntries s)) = .ok user := by
  obtain ⟨layer, hlayer, hvalidate⟩ := Json.bind_eq_ok h
  have hentries : layer.getD [] = userEntries s := by
    rw [userEntries]
    simp only [hlayer]
    cases layer <;> rfl
  rw [hentries, validate, Schema.validate] at hvalidate
  cases hcheck : schema.check (.dict (userEntries s)) with
  | error findings =>
    rw [hcheck] at hvalidate
    cases hvalidate
  | ok found =>
    rw [hcheck] at hvalidate
    simpa [Except.mapError] using hvalidate

/-! ## Fields and parts -/

theorem flat_of_ne_delay {field : String × Schema × Option Value} (h : field ∈ schema.fields)
    (hne : field.1 ≠ "delay") : Schema.Flat field.2.1 := by
  simp only [schema, Schema.fields, List.mem_cons, List.not_mem_nil, or_false] at h
  rcases h with rfl | rfl | rfl | rfl | rfl | rfl | rfl | rfl | rfl | rfl
  case inr.inr.inr.inr.inr.inr.inr.inr.inl => exact absurd rfl hne
  all_goals repeat constructor

/-- Every default passes its own check. -/
theorem check_default {field : String × Schema × Option Value} (h : field ∈ schema.fields)
    (hne : field.1 ≠ "delay") : ∀ v ∈ field.2.2, field.2.1.check v = .ok v := by
  simp only [schema, Schema.fields, List.mem_cons, List.not_mem_nil, or_false] at h
  rcases h with rfl | rfl | rfl | rfl | rfl | rfl | rfl | rfl | rfl | rfl
  case inr.inr.inr.inr.inr.inr.inr.inr.inl => exact absurd rfl hne
  all_goals
    rintro v ⟨⟩
    rfl

theorem flat_part {part : String × Schema × Option Value} (h : part ∈ Backoff.schema.fields) :
    Schema.Flat part.2.1 := by
  simp only [Backoff.schema, Schema.fields, List.mem_cons, List.not_mem_nil, or_false] at h
  rcases h with rfl | rfl | rfl | rfl <;> constructor

theorem check_default_part {part : String × Schema × Option Value}
    (h : part ∈ Backoff.schema.fields) : ∀ v ∈ part.2.2, part.2.1.check v = .ok v := by
  simp only [Backoff.schema, Schema.fields, List.mem_cons, List.not_mem_nil, or_false] at h
  rcases h with rfl | rfl | rfl | rfl
  all_goals
    rintro v ⟨⟩
    rfl

theorem fits_default_part {part : String × Schema × Option Value}
    (h : part ∈ Backoff.schema.fields) : ∀ v ∈ part.2.2, Schema.Fits part.2.1 v := fun v hv =>
  Schema.fits_of_check (flat_part h) (check_default_part h v hv)

theorem mem_delayFields {part : String × Schema × Option Value} (h : part ∈ Backoff.schema.fields) :
    part.1 ∈ delayFields := by
  have hnames : Backoff.schema.fields.map Prod.fst = delayFields := rfl
  exact hnames ▸ List.mem_map_of_mem h

theorem not_mem_delayFields {field : String × Schema × Option Value} (h : field ∈ schema.fields) :
    field.1 ∉ delayFields := by
  have hnames : ∀ name ∈ schema.fields.map Prod.fst, name ∉ delayFields := by
    simp only [schema, Schema.fields]
    decide
  exact hnames _ (List.mem_map_of_mem h)

theorem delay_mem_fields :
    ("delay", Backoff.schema, some Backoff.steady.toRecord) ∈ schema.fields := by
  simp [schema, Schema.fields]

/-! ## All layers -/

/-- What a layer says about a part of the delay. -/
def delayPart? (layer : Layer) (part : String) : Option Value :=
  (lastOf? layer "delay").bind (partOf? · part)

/-- What the highest layer says that mentions a field. -/
def mentioned? (s : Surroundings) (arguments : List (String × Value)) (name : String) :
    Option Value :=
  (given? arguments name).or ((given? (fromVariables s) name).or
    ((lastOf? (projectEntries s) name).or (lastOf? (userEntries s) name)))

/-- What the highest layer says that mentions a part of the delay; `typed` is what the arguments
say. -/
def mentionedPart? (s : Surroundings) (typed : Option Value) (part : String) : Option Value :=
  typed.or ((given? (fromVariables s) part).or
    ((delayPart? (projectEntries s) part).or (delayPart? (userEntries s) part)))

/-- The delay records among the arguments have been made by validation. -/
def DelaysChecked (arguments : List (String × Value)) : Prop :=
  ∀ given, ("delay", .record "DelayConfig" given) ∈ arguments →
    ∃ entries, Backoff.schema.check (.dict entries) = .ok (.record "DelayConfig" given)

/-- The record of the user's settings as the lowest layer: its fields, and the parts of its delay,
come from the file of the user. -/
structure Bottom (s : Surroundings) (layer : Layer) : Prop where
  fields : ∀ field ∈ schema.fields, field.1 ≠ "delay" → ∃ u,
    lookupKey layer field.1 = some u.dumped ∧
      Schema.Settles field.2 (lookupKey (userEntries s) field.1) u
  delay : ∃ given, lookupKey layer "delay" = some (.dict (dumpedFields given)) ∧
    ∀ part ∈ Backoff.schema.fields, ∃ u, given.lookup part.1 = some u ∧
      Schema.Settles part.2 (delayPart? (userEntries s) part.1) u

theorem bottom_of_ofUser {user : Value} (h : ofUser s = .ok user) : Bottom s (entriesOf user) := by
  obtain ⟨found, rfl, hfound⟩ := Schema.record_of_check (by decide) (check_of_ofUser h)
  have hlookup : ∀ name : String, lookupKey (entriesOf (.record "ClientSettings" found)) name =
      (found.lookup name).map dumped := fun name => lookupKey_dumpedFields found name
  refine ⟨fun field hfield _ => ?_, ?_⟩
  · obtain ⟨u, hu, hsettles⟩ := hfound field hfield
    exact ⟨u, by rw [hlookup, hu]; rfl, hsettles⟩
  · obtain ⟨u, hu, hsettles⟩ := hfound _ delay_mem_fields
    have hparts : ∃ given, u = .record "DelayConfig" given ∧
        ∀ part ∈ Backoff.schema.fields, ∃ u, given.lookup part.1 = some u ∧
          Schema.Settles part.2 (delayPart? (userEntries s) part.1) u := by
      have hnamed := named_of_isData (isData_userEntries s)
      cases hgiven : lookupKey (userEntries s) "delay" with
      | none =>
        rw [hgiven] at hsettles
        obtain rfl : Backoff.steady.toRecord = u := Option.some.inj hsettles
        refine ⟨_, rfl, fun part hpart => ?_⟩
        rw [delayPart?, hnamed.lastOf?_eq, hgiven]
        simp only [Backoff.schema, Schema.fields, List.mem_cons, List.not_mem_nil, or_false]
          at hpart
        rcases hpart with rfl | rfl | rfl | rfl <;> exact ⟨_, rfl, rfl⟩
      | some g =>
        rw [hgiven] at hsettles
        have hdata := isData_of_lookupKey (isData_userEntries s) hgiven
        have hcheck : Backoff.schema.check g = .ok u := hsettles
        cases hdata with
        | @dict entries hentries hvalues =>
          obtain ⟨given, rfl, hgiven'⟩ := Schema.record_of_check (by decide) hcheck
          refine ⟨given, rfl, fun part hpart => ?_⟩
          obtain ⟨w, hw, hsettlesw⟩ := hgiven' part hpart
          refine ⟨w, hw, ?_⟩
          rw [delayPart?, hnamed.lastOf?_eq, hgiven]
          simpa [partOf?, hentries.lastOf?_eq] using hsettlesw
        | _ =>
          rw [Backoff.schema, Schema.check_record] at hcheck
          cases hcheck
    obtain ⟨given, rfl, hgiven⟩ := hparts
    exact ⟨given, by rw [hlookup, hu]; rfl, hgiven⟩

/-- The layers one over the other, from the settings of the user to the arguments. -/
structure Stacked (s : Surroundings) (arguments : List (String × Value)) (all : Layer) : Prop where
  fields : ∀ field ∈ schema.fields, field.1 ≠ "delay" → ∃ u,
    lookupKey all field.1 = (given? arguments field.1).or ((given? (fromVariables s) field.1).or
      ((lookupKey (projectEntries s) field.1).or (some u.dumped))) ∧
      Schema.Settles field.2 (lookupKey (userEntries s) field.1) u
  delay : ∃ given : List (String × Value),
    Shows (lookupKey all "delay") (fun part => (heardPart? arguments part).or
      ((given? (fromVariables s) part).or ((delayPart? (projectEntries s) part).or
        ((given.lookup part).map dumped)))) ∧
    ∀ part ∈ Backoff.schema.fields, ∃ u, given.lookup part.1 = some u ∧
      Schema.Settles part.2 (delayPart? (userEntries s) part.1) u
  /-- A record among the layers is one of the arguments. -/
  record : ∀ name given, lookupKey all "delay" = some (.record name given) →
    ("delay", .record name given) ∈ arguments ∧
      ∀ part ∈ delayFields, heardPart? arguments part = given.lookup part

/-- No file and no variable gives the delay as a record. -/
theorem record_is_typed {user : Value} {withProject setHere withVariables typed : Layer}
    {result : Option Value} (hbottom : Bottom s (entriesOf user))
    (hset : Reflects (fromVariables s) setHere)
    (h₁ : Over (lookupKey (entriesOf user) "delay") (lookupKey (projectEntries s) "delay")
      (lookupKey withProject "delay"))
    (h₂ : Over (lookupKey withProject "delay") (lookupKey setHere "delay")
      (lookupKey withVariables "delay"))
    (h₃ : Over (lookupKey withVariables "delay") (lookupKey typed "delay") result)
    {name : String} {given : List (String × Value)} (h : result = some (.record name given)) :
    lookupKey typed "delay" = some (.record name given) := by
  rcases h₃.record h with h | ⟨-, h⟩
  · exact h
  rcases h₂.record h with h | ⟨-, h⟩
  · exact absurd rfl (key_of_mem_fromVariables (hset.whole _ h (by simp)))
  rcases h₁.record h with h | ⟨-, h⟩
  · cases isData_of_lookupKey (isData_projectEntries s) h
  · obtain ⟨bottom, hdelay, -⟩ := hbottom.delay
    simp [hdelay] at h

theorem stacked_of_merges {user : Value} {withProject setHere withVariables typed all : Layer}
    (huser : ofUser s = .ok user)
    (hproject : merge (entriesOf user) (projectEntries s) = .ok withProject)
    (hset : ofVariables s = .ok setHere)
    (hvariables : merge withProject setHere = .ok withVariables)
    (htyped : ofArguments arguments = .ok typed) (hall : merge withVariables typed = .ok all) :
    Stacked s arguments all := by
  have hbottom := bottom_of_ofUser huser
  have hnamed := named_of_isData (isData_projectEntries s)
  have hreflects := reflects_ofArguments htyped
  have hhere := reflects_ofArguments (ofVariables_eq s ▸ hset)
  obtain ⟨hfields₁, hover₁⟩ := merge_ok hnamed hproject
  obtain ⟨hfields₂, hover₂⟩ := merge_ok hhere.named hvariables
  obtain ⟨hfields₃, hover₃⟩ := merge_ok hreflects.named hall
  refine ⟨fun field hfield hne => ?_, ?_, fun name given hrecord => ?_⟩
  · obtain ⟨u, hu, hsettles⟩ := hbottom.fields field hfield hne
    refine ⟨u, ?_, hsettles⟩
    rw [hfields₃ _ hne, hfields₂ _ hne, hfields₁ _ hne, hu,
      hreflects.fields _ hne (not_mem_delayFields hfield),
      hhere.fields _ hne (not_mem_delayFields hfield)]
  · obtain ⟨given, hgiven, hparts⟩ := hbottom.delay
    have hshows : Shows (lookupKey (entriesOf user) "delay")
        fun part => (given.lookup part).map dumped := by
      refine ⟨by simp [hgiven], fun entries hentries part _ => ?_⟩
      obtain rfl : dumpedFields given = entries := by simpa [hgiven] using hentries
      exact lookupKey_dumpedFields given part
    refine ⟨given, (hover₃.shows (hover₂.shows (hover₁.shows hshows))).congr fun part hpart => ?_,
      hparts⟩
    rw [hreflects.parts part hpart, hhere.parts part hpart, heardPart?_fromVariables, delayPart?,
      hnamed.lastOf?_eq]
  · have htyped := record_is_typed hbottom hhere hover₁ hover₂ hover₃ hrecord
    refine ⟨hreflects.whole _ htyped (by simp), fun part hpart => ?_⟩
    rw [← hreflects.parts part hpart, htyped]
    rfl

/-- Settings that are put together are read from all layers stacked. -/
theorem stacked_of_resolve {v : Value} (h : resolve s arguments = .ok v) :
    ∃ all, Stacked s arguments all ∧ schema.check (.dict all) = .ok v := by
  obtain ⟨user, huser, h⟩ := Json.bind_eq_ok h
  obtain ⟨project, hproject, h⟩ := Json.bind_eq_ok h
  obtain ⟨withProject, hmerged, h⟩ := Json.bind_eq_ok h
  obtain ⟨setHere, hset, h⟩ := Json.bind_eq_ok h
  obtain ⟨withVariables, hvariables, h⟩ := Json.bind_eq_ok h
  obtain ⟨typed, htyped, h⟩ := Json.bind_eq_ok h
  obtain ⟨all, hall, h⟩ := Json.bind_eq_ok h
  have hentries : project.getD [] = projectEntries s := by
    rw [projectEntries, hproject]
    cases project <;> rfl
  refine ⟨all, stacked_of_merges huser (hentries ▸ hmerged) hset hvariables htyped hall, ?_⟩
  rw [validate, Schema.validate] at h
  cases hcheck : schema.check (.dict all) with
  | error findings =>
    rw [hcheck] at h
    cases h
  | ok found =>
    rw [hcheck] at h
    simpa [Except.mapError] using h

theorem field_settles {all : Layer} (hstacked : Stacked s arguments all)
    {field : String × Schema × Option Value} (hfield : field ∈ schema.fields)
    (hne : field.1 ≠ "delay") {v : Value}
    (h : Schema.Settles field.2 (lookupKey all field.1) v) :
    Schema.Settles field.2 (mentioned? s arguments field.1) v := by
  obtain ⟨u, hu, hlow⟩ := hstacked.fields field hfield hne
  have hflat := flat_of_ne_delay hfield hne
  have hdefault : ∀ w ∈ field.2.2, Schema.Fits field.2.1 w := fun w hw =>
    Schema.fits_of_check hflat (check_default hfield hne w hw)
  have hstart := named_of_isData (isData_userEntries s)
  have hproject := named_of_isData (isData_projectEntries s)
  rw [hu, ← Option.or_assoc, ← Option.or_assoc] at h
  rw [mentioned?, hproject.lastOf?_eq, hstart.lastOf?_eq, ← Option.or_assoc, ← Option.or_assoc]
  exact Schema.settles_of_dumped hflat hdefault hlow h

/-- A mapping is completed field by field. -/
theorem part_settles_dict {all : Layer} (hstacked : Stacked s arguments all)
    {entries : List (Value × Value)} (hdelay : lookupKey all "delay" = some (.dict entries))
    {part : String × Schema × Option Value} (hpart : part ∈ Backoff.schema.fields) {v : Value}
    (hcheck : Backoff.schema.check (.dict entries) = .ok v) :
    Schema.Settles part.2 (mentionedPart? s (heardPart? arguments part.1) part.1)
      (v.field part.1) := by
  have hflat := flat_part hpart
  have hdefault := fits_default_part hpart
  obtain ⟨given, hshows, hparts⟩ := hstacked.delay
  obtain ⟨found, rfl, hfound⟩ := Schema.record_of_check (by decide) hcheck
  obtain ⟨w, hw, hsettles⟩ := hfound part hpart
  obtain ⟨u, hu, hlow⟩ := hparts part hpart
  have hfield : (Value.record "DelayConfig" found).field part.1 = w := by
    simp [field, fields, hw]
  rw [hshows.parts entries hdelay part.1 (mem_delayFields hpart), hu, Option.map_some,
    ← Option.or_assoc, ← Option.or_assoc] at hsettles
  rw [hfield, mentionedPart?, ← Option.or_assoc, ← Option.or_assoc]
  exact Schema.settles_of_dumped hflat hdefault hlow hsettles

/-- A whole delay has every field already. -/
theorem part_settles_record {all : Layer} (hstacked : Stacked s arguments all)
    (hchecked : DelaysChecked arguments) {name : String} {found : List (String × Value)}
    (hdelay : lookupKey all "delay" = some (.record name found))
    {part : String × Schema × Option Value} (hpart : part ∈ Backoff.schema.fields) {v : Value}
    (hcheck : Backoff.schema.check (.record name found) = .ok v) :
    Schema.Settles part.2 (mentionedPart? s (heardPart? arguments part.1) part.1)
      (v.field part.1) := by
  have hflat := flat_part hpart
  have hdefault := fits_default_part hpart
  obtain ⟨hmem, hheard⟩ := hstacked.record name found hdelay
  rw [Backoff.schema, Schema.check_record] at hcheck
  simp only at hcheck
  split at hcheck
  · rename_i hname
    subst hname
    obtain rfl : Value.record "DelayConfig" found = v := by simpa using hcheck
    obtain ⟨entries, hentries⟩ := hchecked found hmem
    obtain ⟨found', heq, hfound⟩ := Schema.record_of_check (by decide) hentries
    obtain rfl : found = found' := by simpa using heq
    obtain ⟨w, hw, hsettles⟩ := hfound part hpart
    have hfield : (Value.record "DelayConfig" found).field part.1 = w := by
      simp [field, fields, hw]
    rw [hfield, mentionedPart?, hheard part.1 (mem_delayFields hpart), hw]
    exact Schema.check_of_fits hflat (Schema.fits_of_settles hflat hdefault hsettles)
  · cases hcheck

theorem part_settles {all : Layer} (hstacked : Stacked s arguments all)
    (hchecked : DelaysChecked arguments) {part : String × Schema × Option Value}
    (hpart : part ∈ Backoff.schema.fields) {v : Value}
    (h : Schema.Settles (Backoff.schema, some Backoff.steady.toRecord) (lookupKey all "delay") v) :
    Schema.Settles part.2 (mentionedPart? s (heardPart? arguments part.1) part.1)
      (v.field part.1) := by
  obtain ⟨given, hshows, -⟩ := hstacked.delay
  obtain ⟨delay, hdelay⟩ := Option.ne_none_iff_exists'.1 hshows.present
  rw [hdelay] at h
  have hcheck : Backoff.schema.check delay = .ok v := h
  cases delay with
  | dict entries => exact part_settles_dict hstacked hdelay hpart hcheck
  | record name found => exact part_settles_record hstacked hchecked hdelay hpart hcheck
  | _ =>
    rw [Backoff.schema, Schema.check_record] at hcheck
    cases hcheck

/-- Where the settings come from: every field but the delay from the highest layer that mentions it,
and every part of the delay from the highest layer that mentions that part.  What the arguments say
about a part is lost only where a whole delay comes after it. -/
theorem resolve_settles {v : Value} (h : resolve s arguments = .ok v)
    (hchecked : DelaysChecked arguments) :
    (∀ field ∈ schema.fields, field.1 ≠ "delay" →
      Schema.Settles field.2 (mentioned? s arguments field.1) (v.field field.1)) ∧
    (∀ part ∈ Backoff.schema.fields,
      Schema.Settles part.2 (mentionedPart? s (heardPart? arguments part.1) part.1)
        ((v.field "delay").field part.1)) ∧
    ∀ part, Heeded arguments part → heardPart? arguments part = typedPart? arguments part := by
  obtain ⟨all, hstacked, hcheck⟩ := stacked_of_resolve h
  obtain ⟨found, rfl, hfound⟩ := Schema.record_of_check (by decide) hcheck
  have hread : ∀ field ∈ schema.fields, Schema.Settles field.2 (lookupKey all field.1)
      ((Value.record "ClientSettings" found).field field.1) := by
    intro field hfield
    obtain ⟨w, hw, hsettles⟩ := hfound field hfield
    simpa [Value.field, fields, hw] using hsettles
  refine ⟨fun field hfield hne => field_settles hstacked hfield hne (hread field hfield),
    fun part hpart => ?_, fun part hheeded => heardPart?_of_heeded hheeded⟩
  exact part_settles hstacked hchecked hpart
    (hread _ delay_mem_fields)

/-- A project that caps the delay, and a variable for the jitter. -/
def shapedDelay : Surroundings where
  environment := [("HOOKLINE_JITTER", "0.5")]
  platform := "Linux"
  workingDirectory := "/work"
  files := [("hookline.json",
    .file (Text.encodeUtf8 "\x7b\"delay\": \x7b\"max_delay\": 4\x7d\x7d".toList))]

theorem shaped_delay_settles :
    DelaysChecked [("endpoint", .str "api.io"), ("initial_delay", .int 2)] ∧
      ∃ v, resolve shapedDelay [("endpoint", .str "api.io"), ("initial_delay", .int 2)] = .ok v ∧
      Schema.Settles (.str, some (.str ""))
        (mentioned? shapedDelay [("endpoint", .str "api.io"), ("initial_delay", .int 2)] "endpoint")
        (v.field "endpoint") ∧
      Schema.Settles (.float .nonNegative, some (.float 10))
        (mentionedPart? shapedDelay none "max_delay") ((v.field "delay").field "max_delay") := by
  have hchecked : DelaysChecked [("endpoint", .str "api.io"), ("initial_delay", .int 2)] := by
    simp [DelaysChecked]
  have hok : (resolve shapedDelay [("endpoint", .str "api.io"), ("initial_delay", .int 2)]).isOk =
      true := by decide +kernel
  cases hresolve : resolve shapedDelay [("endpoint", .str "api.io"), ("initial_delay", .int 2)] with
  | error reason =>
    rw [hresolve] at hok
    cases hok
  | ok v =>
    obtain ⟨hfields, hparts, -⟩ := resolve_settles hresolve hchecked
    exact ⟨hchecked, v, rfl,
      hfields ("endpoint", .str, some (.str "")) (by simp [schema, Schema.fields]) (by decide),
      hparts ("max_delay", .float .nonNegative, some (.float 10))
        (by simp [Backoff.schema, Schema.fields])⟩

/-- A jitter by itself is lost if a whole delay comes after it, also one without a jitter. -/
theorem jitter_before_whole_delay_is_lost :
    ∃ v, resolve ⟨[], "Linux", "/work", []⟩ [("jitter", .float 0.25),
        ("delay", .dict [(.str "initial_delay", .float 2)])] = .ok v ∧
      typedPart? [("jitter", .float 0.25), ("delay", .dict [(.str "initial_delay", .float 2)])]
        "jitter" = some (.float 0.25) ∧
      (v.field "delay").field "jitter" = .float 0 :=
  ⟨_, rfl, rfl, rfl⟩

end RequestPipeline.Settings
