import Mathlib.Logic.Basic
import RequestPipeline.Proofs.Mappings
import RequestPipeline.Record

/-!
# What validation gives back

A value that passes a check has the form of its schema, and a value in the form of a schema passes
its check unchanged.  A record is checked field by field: each field comes from the value under its
name or else from the default.
-/

namespace RequestPipeline

/-! ## Numbers within bounds -/

namespace Bounds

/-- The whole number keeps the bounds. -/
structure AdmitsInt (b : Bounds) (n : Int) : Prop where
  atLeast : ∀ m ∈ b.atLeast, m ≤ n
  above : ∀ m ∈ b.above, m < n
  atMost : ∀ m ∈ b.atMost, n ≤ m

/-- The float keeps the bounds, compared as floats. -/
structure AdmitsFloat (b : Bounds) (x : Float) : Prop where
  atLeast : ∀ m ∈ b.atLeast, Decimal.floatOfInt m ≤ x
  above : ∀ m ∈ b.above, Decimal.floatOfInt m < x
  atMost : ∀ m ∈ b.atMost, x ≤ Decimal.floatOfInt m

theorem broken?_eq_none {b : Bounds} {atMostHolds atLeastHolds aboveHolds : Int → Bool} :
    b.broken? atMostHolds atLeastHolds aboveHolds = none ↔
      (∀ m ∈ b.atLeast, atLeastHolds m = true) ∧ (∀ m ∈ b.above, aboveHolds m = true) ∧
        ∀ m ∈ b.atMost, atMostHolds m = true := by
  obtain ⟨atLeast, above, atMost⟩ := b
  cases atLeast <;> cases above <;> cases atMost <;> simp [broken?] <;> grind

theorem admitsInt_iff {b : Bounds} {n : Int} : b.AdmitsInt n ↔ b.brokenByInt? n = none := by
  rw [brokenByInt?, broken?_eq_none]
  simp only [decide_eq_true_eq]
  exact ⟨fun h => ⟨h.atLeast, h.above, h.atMost⟩, fun ⟨h₁, h₂, h₃⟩ => ⟨h₁, h₂, h₃⟩⟩

theorem admitsFloat_iff {b : Bounds} {x : Float} :
    b.AdmitsFloat x ↔ b.brokenByFloat? x = none := by
  rw [brokenByFloat?, broken?_eq_none]
  simp only [decide_eq_true_eq]
  exact ⟨fun h => ⟨h.atLeast, h.above, h.atMost⟩, fun ⟨h₁, h₂, h₃⟩ => ⟨h₁, h₂, h₃⟩⟩

end Bounds

namespace Schema

/-! ## Scalars and lists of them -/

/-- Schemas without records inside. -/
inductive Flat : Schema → Prop where
  | bool : Flat .bool
  | int (bounds : Bounds) : Flat (.int bounds)
  | float (bounds : Bounds) : Flat (.float bounds)
  | str : Flat .str
  | listOf {item : Schema} (hitem : Flat item) : Flat (.listOf item)

/-- The values in the form of a schema. -/
inductive Fits : Schema → Value → Prop where
  | bool (b : Bool) : Fits .bool (.bool b)
  | int {bounds : Bounds} {n : Int} (hn : bounds.AdmitsInt n) : Fits (.int bounds) (.int n)
  | float {bounds : Bounds} {x : Float} (hx : bounds.AdmitsFloat x) :
    Fits (.float bounds) (.float x)
  | str (s : String) : Fits .str (.str s)
  | listOf {item : Schema} {items : List Value} (hitems : ∀ v ∈ items, Fits item v) :
      Fits (.listOf item) (.list items)
  /-- A record has the fields of its schema, in their order. -/
  | record {name : String} {fields : List (String × Schema × Option Value)}
      {given : List (String × Value)} (hnames : given.map Prod.fst = fields.map Prod.fst)
      (hfields : ∀ field ∈ fields, ∀ v, given.lookup field.1 = some v → Fits field.2.1 v) :
      Fits (.record name fields) (.record name given)

variable {item : Schema} {v w : Value}

theorem check_bool (v : Value) : check .bool v =
    match toBool v with
    | .ok b => .ok (.bool b)
    | .error c => .error [⟨[], c⟩] := by
  rw [check]
  cases toBool v <;> rfl

theorem check_int (bounds : Bounds) (v : Value) : check (.int bounds) v =
    match toInt v with
    | .error c => .error [⟨[], c⟩]
    | .ok n => match bounds.brokenByInt? n with
      | some c => .error [⟨[], c⟩]
      | none => .ok (.int n) := by
  rw [check]
  cases toInt v <;> rfl

theorem check_float (bounds : Bounds) (v : Value) : check (.float bounds) v =
    match toFloat v with
    | .error c => .error [⟨[], c⟩]
    | .ok x => match bounds.brokenByFloat? x with
      | some c => .error [⟨[], c⟩]
      | none => .ok (.float x) := by
  rw [check]
  cases toFloat v <;> rfl

theorem check_str (v : Value) : check .str v =
    match toText v with
    | .ok s => .ok (.str s)
    | .error c => .error [⟨[], c⟩] := by
  rw [check]
  cases toText v <;> rfl

/-- What each item was read from is gathered only if every item could be read. -/
theorem gather_ok {results : List (Except (List Finding) Value)} {found : List Value}
    (h : gather results = .ok found) : results = found.map .ok := by
  induction results generalizing found with
  | nil =>
    obtain rfl : [] = found := by simpa [gather] using h
    rfl
  | cons result rest ih =>
    cases result with
    | error findings =>
      rw [gather] at h
      split at h <;> cases h
    | ok first =>
      rw [gather] at h
      cases hrest : gather rest with
      | error findings =>
        rw [hrest] at h
        cases h
      | ok others =>
        rw [hrest] at h
        obtain rfl : first :: others = found := by simpa [Except.map] using h
        rw [ih hrest, List.map_cons]

theorem gather_map_ok (found : List Value) :
    gather (found.map (Except.ok (ε := List Finding))) = .ok found := by
  induction found with
  | nil => rfl
  | cons v rest ih => rw [List.map_cons, gather, ih, Except.map]

theorem under_eq_ok {step : Step} {r : Except (List Finding) Value} :
    under step r = .ok v ↔ r = .ok v := by
  cases r with
  | ok w => exact Iff.rfl
  | error findings => exact ⟨nofun, nofun⟩

theorem check_listOf (item : Schema) (v : Value) : check (.listOf item) v =
    match itemsOf? v with
    | none => .error [⟨[], .listType⟩]
    | some items =>
      (gather ((numberedFrom 0 items).map fun (i, x) => under (.index i) (check item x))).map
        .list := by
  cases hitems : itemsOf? v with
  | none => simp only [check, hitems]
  | some items => simp only [check, hitems]

theorem mem_of_checkItems {items found : List Value} {n : Nat}
    (h : (numberedFrom n items).map (fun (i, x) => under (.index i) (check item x)) =
      found.map .ok) : ∀ w ∈ found, ∃ x ∈ items, check item x = .ok w := by
  induction items generalizing n found with
  | nil =>
    obtain rfl : found = [] := by simpa [numberedFrom] using h.symm
    simp
  | cons x rest ih =>
    cases found with
    | nil => simp [numberedFrom] at h
    | cons w others =>
      simp only [numberedFrom, List.map_cons, List.cons.injEq] at h
      obtain ⟨hfirst, hrest⟩ := h
      intro w' hw'
      rcases List.mem_cons.1 hw' with rfl | hw'
      · exact ⟨x, List.mem_cons_self, under_eq_ok.1 hfirst⟩
      · obtain ⟨x', hx', hcheck⟩ := ih hrest w' hw'
        exact ⟨x', List.mem_cons_of_mem _ hx', hcheck⟩

theorem checkItems_of_fixed {items : List Value} (n : Nat)
    (h : ∀ x ∈ items, check item x = .ok x) :
    (numberedFrom n items).map (fun (i, x) => under (.index i) (check item x)) =
      items.map .ok := by
  induction items generalizing n with
  | nil => rfl
  | cons x rest ih =>
    simp only [numberedFrom, List.map_cons, h x List.mem_cons_self,
      ih (n + 1) fun x' hx' => h x' (List.mem_cons_of_mem _ hx')]
    rfl

/-- A list passes the check only with every item. -/
theorem exists_of_check_listOf (h : check (.listOf item) v = .ok w) :
    ∃ found, w = .list found ∧ ∀ w' ∈ found, ∃ x, check item x = .ok w' := by
  rw [check_listOf] at h
  split at h
  · cases h
  · rename_i items _
    cases hgather : gather ((numberedFrom 0 items).map fun (i, x) =>
        under (.index i) (check item x)) with
    | error findings =>
      rw [hgather] at h
      cases h
    | ok found =>
      rw [hgather] at h
      obtain rfl : Value.list found = w := by simpa [Except.map] using h
      refine ⟨found, rfl, fun w' hw' => ?_⟩
      obtain ⟨x, -, hx⟩ := mem_of_checkItems (gather_ok hgather) w' hw'
      exact ⟨x, hx⟩

/-- Whatever passes the check of scalars and lists has their form. -/
theorem fits_of_check {schema : Schema} (hflat : Flat schema) (h : schema.check v = .ok w) :
    Fits schema w := by
  induction hflat generalizing v w with
  | bool =>
    rw [check_bool] at h
    split at h
    · cases h
      exact .bool _
    · cases h
  | int bounds =>
    rw [check_int] at h
    split at h
    · cases h
    · split at h
      · cases h
      · rename_i hbounds
        cases h
        exact .int (Bounds.admitsInt_iff.2 hbounds)
  | float bounds =>
    rw [check_float] at h
    split at h
    · cases h
    · split at h
      · cases h
      · rename_i hbounds
        cases h
        exact .float (Bounds.admitsFloat_iff.2 hbounds)
  | str =>
    rw [check_str] at h
    split at h
    · cases h
      exact .str _
    · cases h
  | @listOf item hitem ih =>
    obtain ⟨found, rfl, hfound⟩ := exists_of_check_listOf h
    refine .listOf fun w' hw' => ?_
    obtain ⟨x, hx⟩ := hfound w' hw'
    exact ih hx

/-- Scalars and lists in the form of their schema pass the check as they are. -/
theorem check_of_fits {schema : Schema} (hflat : Flat schema) (h : Fits schema v) :
    schema.check v = .ok v := by
  induction hflat generalizing v with
  | bool =>
    cases h
    rw [check_bool]
    rfl
  | int bounds =>
    cases h with
    | int hn =>
      rw [check_int]
      simp only [toInt, pure, Except.pure]
      rw [Bounds.admitsInt_iff.1 hn]
  | float bounds =>
    cases h with
    | float hx =>
      rw [check_float]
      simp only [toFloat, pure, Except.pure]
      rw [Bounds.admitsFloat_iff.1 hx]
  | str =>
    cases h
    rw [check_str]
    simp [toText, textOf?, bind, Except.bind, pure, Except.pure]
  | listOf hitem ih =>
    cases h with
    | listOf hitems =>
      rw [check_listOf]
      simp only [itemsOf?]
      rw [checkItems_of_fixed 0 fun x hx => ih (hitems x hx), gather_map_ok]
      rfl

/-- A value of scalars and lists holds no record. -/
theorem dumped_of_fits {schema : Schema} (hflat : Flat schema) (h : Fits schema v) :
    v.dumped = v := by
  induction hflat generalizing v with
  | bool | int bounds | float bounds | str =>
    cases h
    rfl
  | listOf hitem ih =>
    cases h with
    | @listOf _ items hitems =>
      rw [Value.dumped]
      congr 1
      induction items with
      | nil => rfl
      | cons x rest ihrest =>
        rw [Value.dumpedItems, ih (hitems x List.mem_cons_self),
          ihrest fun x' hx' => hitems x' (List.mem_cons_of_mem _ hx')]

/-! ## Records -/

/-- The fields of the schema of a record. -/
def fields : Schema → List (String × Schema × Option Value)
  | .record _ fields => fields
  | _ => []

/-- A field is read from the value that is given for it, and is the default if none is given. -/
def Settles (described : Schema × Option Value) (given : Option Value) (v : Value) : Prop :=
  match given with
  | some g => described.1.check g = .ok v
  | none => described.2 = some v

theorem settles_of_checkField {field : String × Schema × Option Value}
    {entries : List (Value × Value)} {name : String}
    (h : checkField field entries = .ok (name, v)) :
    name = field.1 ∧ Settles field.2 (Value.lookupKey entries field.1) v := by
  obtain ⟨own, schema, default?⟩ := field
  rw [checkField] at h
  cases hgiven : Value.lookupKey entries own with
  | some g =>
    simp only [hgiven, checkDescribed] at h
    cases hcheck : schema.check g with
    | error findings =>
      rw [hcheck] at h
      cases h
    | ok w =>
      rw [hcheck] at h
      obtain ⟨rfl, rfl⟩ : own = name ∧ w = v := Prod.mk.inj (Except.ok.inj h)
      exact ⟨rfl, hcheck⟩
  | none =>
    simp only [hgiven] at h
    cases default? with
    | none => cases h
    | some w =>
      obtain ⟨rfl, rfl⟩ : own = name ∧ w = v := by simpa using h
      exact ⟨rfl, rfl⟩

theorem names_of_checkFields {fields : List (String × Schema × Option Value)}
    {entries : List (Value × Value)} {found : List (String × Value)}
    (h : checkFields fields entries = .ok found) :
    found.map Prod.fst = fields.map Prod.fst := by
  induction fields generalizing found with
  | nil =>
    obtain rfl : [] = found := by simpa [checkFields] using h
    rfl
  | cons field rest ih =>
    rw [checkFields] at h
    split at h
    · rename_i first others hhere hrest
      cases h
      obtain ⟨name, v⟩ := first
      rw [List.map_cons, List.map_cons, ih hrest, (settles_of_checkField hhere).1]
    all_goals cases h

/-- Each field of a record that passes is read from the entry under its name. -/
theorem settles_of_checkFields {fields : List (String × Schema × Option Value)}
    {entries : List (Value × Value)} {found : List (String × Value)}
    (hnames : (fields.map Prod.fst).Nodup) (h : checkFields fields entries = .ok found) :
    ∀ field ∈ fields, ∃ v, found.lookup field.1 = some v ∧
      Settles field.2 (Value.lookupKey entries field.1) v := by
  induction fields generalizing found with
  | nil => simp
  | cons field rest ih =>
    rw [checkFields] at h
    split at h
    · rename_i first others hhere hrest
      cases h
      obtain ⟨name, v⟩ := first
      obtain ⟨rfl, hsettles⟩ := settles_of_checkField hhere
      rw [List.map_cons, List.nodup_cons] at hnames
      intro field' hfield'
      rcases List.mem_cons.1 hfield' with rfl | hfield'
      · exact ⟨v, by simp, hsettles⟩
      · have hne : field'.1 ≠ field.1 := fun heq => hnames.1 (heq ▸ List.mem_map_of_mem hfield')
        obtain ⟨w, hw, hset⟩ := ih hnames.2 hrest field' hfield'
        exact ⟨w, by simpa [List.lookup_cons, beq_eq_false_iff_ne.2 hne] using hw, hset⟩
    all_goals cases h

theorem check_record (name : String) (fields : List (String × Schema × Option Value)) (v : Value) :
    check (.record name fields) v =
      match v with
      | .dict entries => (checkFields fields entries).map (Value.record name)
      | .record other given =>
        if other = name then .ok (.record other given) else .error [⟨[], .recordType name⟩]
      | _ => .error [⟨[], .recordType name⟩] := by
  cases v <;> rw [check] <;> simp

theorem checkFields_of_check {name : String} {fields : List (String × Schema × Option Value)}
    {entries : List (Value × Value)} (h : check (.record name fields) (.dict entries) = .ok w) :
    ∃ found, w = .record name found ∧ checkFields fields entries = .ok found := by
  simp only [check_record] at h
  cases hfields : checkFields fields entries with
  | error findings =>
    rw [hfields] at h
    cases h
  | ok found =>
    rw [hfields] at h
    exact ⟨found, by simpa [Except.map] using h.symm, rfl⟩

/-- A record of scalars and lists that is read from a mapping has the form of its schema, if the
defaults have. -/
theorem fits_record {name : String} {fields : List (String × Schema × Option Value)}
    {entries : List (Value × Value)} {found : List (String × Value)}
    (hnames : (fields.map Prod.fst).Nodup) (h : checkFields fields entries = .ok found)
    (hread : ∀ field ∈ fields, ∀ v, Settles field.2 (Value.lookupKey entries field.1) v →
      Fits field.2.1 v) : Fits (.record name fields) (.record name found) := by
  refine .record (names_of_checkFields h) fun field hfield v hv => ?_
  obtain ⟨w, hw, hsettles⟩ := settles_of_checkFields hnames h field hfield
  obtain rfl : w = v := Option.some.inj (hw.symm.trans hv)
  exact hread field hfield w hsettles

theorem fits_of_settles {described : Schema × Option Value} {given : Option Value}
    (hflat : Flat described.1) (hdefault : ∀ v ∈ described.2, Fits described.1 v)
    (h : Settles described given v) : Fits described.1 v := by
  cases given with
  | none => exact hdefault v h
  | some g => exact fits_of_check hflat h

/-- The record that a mapping is read as, field by field. -/
theorem record_of_check {name : String} {fields : List (String × Schema × Option Value)}
    {entries : List (Value × Value)} (hnames : (fields.map Prod.fst).Nodup)
    (h : check (.record name fields) (.dict entries) = .ok w) :
    ∃ found, w = .record name found ∧ ∀ field ∈ fields, ∃ v, found.lookup field.1 = some v ∧
      Settles field.2 (Value.lookupKey entries field.1) v := by
  obtain ⟨found, rfl, hfound⟩ := checkFields_of_check h
  exact ⟨found, rfl, settles_of_checkFields hnames hfound⟩

/-- A field that was read once, and is read again below what a higher layer says, is read as if from
the first text. -/
theorem settles_of_dumped {described : Schema × Option Value} {high low : Option Value}
    (hflat : Flat described.1) (hdefault : ∀ v ∈ described.2, Fits described.1 v)
    (hlow : Settles described low w) (h : Settles described (high.or (some w.dumped)) v) :
    Settles described (high.or low) v := by
  cases high with
  | some g => exact h
  | none =>
    have hfits := fits_of_settles hflat hdefault hlow
    have hagain : described.1.check w.dumped = .ok v := h
    rw [dumped_of_fits hflat hfits, check_of_fits hflat hfits] at hagain
    cases hagain
    exact hlow

end Schema

theorem Value.lookupKey_dumpedFields (given : List (String × Value)) (name : String) :
    lookupKey (dumpedFields given) name = (given.lookup name).map dumped := by
  induction given with
  | nil => rfl
  | cons entry rest ih =>
    obtain ⟨own, v⟩ := entry
    by_cases h : own = name
    · subst h
      simp [dumpedFields]
    · have hne : (name == own) = false := by simpa using Ne.symm h
      rw [dumpedFields, lookupKey_cons_of_ne _ _ (by simpa using h), ih, List.lookup_cons, hne]

end RequestPipeline
