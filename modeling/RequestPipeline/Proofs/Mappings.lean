import RequestPipeline.Json.Reader

/-!
# Mappings

A mapping is a list of entries, of which the ones under text keys can be looked up by name.  What a
name leads to after an entry has been put, or after entries have been laid over others, is said here
once.
-/

namespace RequestPipeline.Value

open Text (Str)

/-! ## Names as keys -/

theorem same_str (k : Value) (name : Str) : same k (.str name) = true ↔ k = .str name := by
  cases k <;> simp [same, sameScalar, asInt?]

theorem str_same (name : Str) (k : Value) : same (.str name) k = true ↔ k = .str name := by
  cases k <;> simp [same, sameScalar, asInt?]
  exact eq_comm

theorem same_eq_false_of_ne {k : Value} {name : Str} (h : k ≠ .str name) :
    same k (.str name) = false :=
  Bool.eq_false_iff.2 fun hsame => h ((same_str k name).1 hsame)

/-! ## Looking up -/

variable {k v : Value} {entries : List (Value × Value)} {name : Str}

@[simp] theorem lookupKey_nil (name : Str) : lookupKey [] name = none := rfl

@[simp] theorem lookupKey_cons_self (v : Value) (entries : List (Value × Value)) (name : Str) :
    lookupKey ((.str name, v) :: entries) name = some v := by
  simp [lookupKey]

theorem lookupKey_cons_of_ne (v : Value) (entries : List (Value × Value)) (h : k ≠ .str name) :
    lookupKey ((k, v) :: entries) name = lookupKey entries name := by
  cases k with
  | str s =>
    have hname : (s == name) = false := by simpa using h
    simp [lookupKey, hname]
  | _ => rfl

theorem lookupKey_append (front back : List (Value × Value)) (name : Str) :
    lookupKey (front ++ back) name = (lookupKey front name).or (lookupKey back name) := by
  induction front with
  | nil => simp
  | cons entry rest ih =>
    obtain ⟨k, v⟩ := entry
    by_cases h : k = .str name
    · subst h
      simp
    · rw [List.cons_append, lookupKey_cons_of_ne _ _ h, lookupKey_cons_of_ne _ _ h, ih]

theorem lookupKey_eq_none_iff :
    lookupKey entries name = none ↔ .str name ∉ entries.map Prod.fst := by
  induction entries with
  | nil => simp
  | cons entry rest ih =>
    obtain ⟨k, v⟩ := entry
    by_cases h : k = .str name
    · subst h
      simp
    · rw [lookupKey_cons_of_ne _ _ h, ih, List.map_cons, List.mem_cons]
      simp [Ne.symm h]

theorem mem_of_lookupKey (h : lookupKey entries name = some v) : (.str name, v) ∈ entries := by
  induction entries with
  | nil => cases h
  | cons entry rest ih =>
    obtain ⟨k, v'⟩ := entry
    by_cases hk : k = .str name
    · subst hk
      obtain rfl : v' = v := by simpa using h
      exact List.mem_cons_self
    · rw [lookupKey_cons_of_ne _ _ hk] at h
      exact List.mem_cons_of_mem _ (ih h)

/-! ## Putting an entry -/

/-- The entries with a value in the place of those under a key. -/
def replaced (entries : List (Value × Value)) (key value : Value) : List (Value × Value) :=
  entries.map fun (k, v) => if same k key then (k, value) else (k, v)

theorem putEntry_of_any {key : Value} (value : Value)
    (h : entries.any (fun e => same e.1 key) = true) :
    putEntry entries key value = replaced entries key value := if_pos h

theorem putEntry_of_not_any {key : Value} (value : Value)
    (h : ¬ entries.any (fun e => same e.1 key) = true) :
    putEntry entries key value = entries ++ [(key, value)] := if_neg h

@[simp] theorem fst_replaced (entries : List (Value × Value)) (key value : Value) :
    (replaced entries key value).map Prod.fst = entries.map Prod.fst := by
  rw [replaced, List.map_map]
  refine List.map_congr_left fun e _ => ?_
  simp only [Function.comp]
  split <;> rfl

theorem lookupKey_replaced_self (entries : List (Value × Value)) (value : Value) (name : Str) :
    lookupKey (replaced entries (.str name) value) name =
      (lookupKey entries name).map fun _ => value := by
  induction entries with
  | nil => rfl
  | cons entry rest ih =>
    obtain ⟨k, v⟩ := entry
    by_cases h : k = .str name
    · subst h
      simp [replaced, (same_str _ _).2]
    · simpa [replaced, same_eq_false_of_ne h, lookupKey_cons_of_ne _ _ h] using ih

theorem lookupKey_replaced_of_ne {key : Value} (entries : List (Value × Value)) (value : Value)
    (h : key ≠ .str name) :
    lookupKey (replaced entries key value) name = lookupKey entries name := by
  induction entries with
  | nil => rfl
  | cons entry rest ih =>
    obtain ⟨k, v⟩ := entry
    by_cases hk : k = .str name
    · subst hk
      have hsame : same (.str name) key = false :=
        Bool.eq_false_iff.2 fun hsame => h ((str_same name key).1 hsame)
      simp [replaced, hsame]
    · have hentry : ∃ u, replaced ((k, v) :: rest) key value =
        (k, u) :: replaced rest key value := by
        by_cases hsame : same k key = true
        · exact ⟨value, by simp [replaced, hsame]⟩
        · exact ⟨v, by simp [replaced, hsame]⟩
      obtain ⟨u, hu⟩ := hentry
      rw [hu, lookupKey_cons_of_ne _ _ hk, lookupKey_cons_of_ne _ _ hk, ih]

theorem lookupKey_putEntry_self (entries : List (Value × Value)) (v : Value) (name : Str) :
    lookupKey (putEntry entries (.str name) v) name = some v := by
  by_cases h : entries.any (fun e => same e.1 (.str name)) = true
  · obtain ⟨u, hu⟩ : ∃ u, lookupKey entries name = some u := by
      rw [← Option.ne_none_iff_exists', ne_eq, lookupKey_eq_none_iff, Classical.not_not]
      obtain ⟨e, he, hsame⟩ := List.any_eq_true.1 h
      exact List.mem_map.2 ⟨e, he, (same_str _ _).1 hsame⟩
    rw [putEntry_of_any v h, lookupKey_replaced_self, hu]
    rfl
  · have hnone : lookupKey entries name = none := by
      rw [lookupKey_eq_none_iff]
      intro hmem
      obtain ⟨e, he, hkey⟩ := List.mem_map.1 hmem
      exact h (List.any_eq_true.2 ⟨e, he, (same_str _ _).2 hkey⟩)
    rw [putEntry_of_not_any v h, lookupKey_append, hnone]
    simp

theorem lookupKey_putEntry_of_ne (entries : List (Value × Value)) (v : Value)
    (h : k ≠ .str name) : lookupKey (putEntry entries k v) name = lookupKey entries name := by
  by_cases hany : entries.any (fun e => same e.1 k) = true
  · rw [putEntry_of_any v hany, lookupKey_replaced_of_ne entries v h]
  · rw [putEntry_of_not_any v hany, lookupKey_append, lookupKey_cons_of_ne _ _ h, lookupKey_nil,
      Option.or_none]

theorem lookupKey_putEntry (entries : List (Value × Value)) (v : Value) (name other : Str) :
    lookupKey (putEntry entries (.str other) v) name =
      if other = name then some v else lookupKey entries name := by
  split
  · rename_i h
    subst h
    exact lookupKey_putEntry_self entries v other
  · rename_i h
    exact lookupKey_putEntry_of_ne entries v fun hkey => h (by simpa using hkey)

theorem lookupKey_putEntry_ofString (entries : List (Value × Value)) (v : Value)
    (name other : String) :
    lookupKey (putEntry entries (.str other) v) name =
      if other = name then some v else lookupKey entries name := by
  simp only [lookupKey_putEntry, Str.ofString_inj]

/-! ## The last entry under a name -/

/-- What the last entry under a name says. -/
def lastOf? (entries : List (Value × Value)) (name : Str) : Option Value :=
  lookupKey entries.reverse name

@[simp] theorem lastOf?_nil (name : Str) : lastOf? [] name = none := rfl

theorem lastOf?_cons (entry : Value × Value) (rest : List (Value × Value)) (name : Str) :
    lastOf? (entry :: rest) name = (lastOf? rest name).or (lookupKey [entry] name) := by
  rw [lastOf?, List.reverse_cons, lookupKey_append, lastOf?]

theorem lastOf?_putEntry (entries : List (Value × Value)) (v : Value) (name other : Str) :
    lastOf? (putEntry entries (.str other) v) name =
      if other = name then some v else lastOf? entries name := by
  by_cases hany : entries.any (fun e => same e.1 (.str other)) = true
  · have hreverse : (putEntry entries (.str other) v).reverse =
        putEntry entries.reverse (.str other) v := by
      have hback : entries.reverse.any (fun e => same e.1 (.str other)) = true := by
        rwa [List.any_reverse]
      rw [putEntry_of_any v hany, putEntry_of_any v hback, replaced, replaced, List.map_reverse]
    rw [lastOf?, hreverse, lookupKey_putEntry, lastOf?]
  · rw [lastOf?, putEntry_of_not_any v hany, List.reverse_append, List.reverse_singleton,
      List.singleton_append]
    split
    · rename_i h
      subst h
      exact lookupKey_cons_self _ _ _
    · rename_i h
      exact lookupKey_cons_of_ne _ _ fun hkey => h (by simpa using hkey)

theorem lastOf?_putEntry_ofString (entries : List (Value × Value)) (v : Value)
    (name other : String) :
    lastOf? (putEntry entries (.str other) v) name =
      if other = name then some v else lastOf? entries name := by
  simp only [lastOf?_putEntry, Str.ofString_inj]

/-! ## Entries under different names -/

/-- Entries under names, all of them different. -/
structure Named (entries : List (Value × Value)) : Prop where
  names : ∀ e ∈ entries, ∃ name, e.1 = .str name
  distinct : (entries.map Prod.fst).Nodup

theorem named_nil : Named [] := ⟨by simp, by simp⟩

/-- Putting an entry under a name keeps names different. -/
theorem named_putEntry (h : Named entries) (name : Str) (v : Value) :
    Named (putEntry entries (.str name) v) := by
  by_cases hany : entries.any (fun e => same e.1 (.str name)) = true
  · rw [putEntry_of_any v hany]
    refine ⟨fun e he => ?_, by rw [fst_replaced]; exact h.distinct⟩
    have hkey : e.1 ∈ entries.map Prod.fst := by
      rw [← fst_replaced entries (.str name) v]
      exact List.mem_map_of_mem he
    obtain ⟨e', he', hsame⟩ := List.mem_map.1 hkey
    exact hsame ▸ h.names e' he'
  · have hfresh : .str name ∉ entries.map Prod.fst := by
      intro hmem
      obtain ⟨e, he, hkey⟩ := List.mem_map.1 hmem
      exact hany (List.any_eq_true.2 ⟨e, he, (same_str _ _).2 hkey⟩)
    rw [putEntry_of_not_any v hany]
    refine ⟨fun e he => ?_, ?_⟩
    · rcases List.mem_append.1 he with he | he
      · exact h.names e he
      · obtain rfl := List.mem_singleton.1 he
        exact ⟨name, rfl⟩
    · rw [List.map_append, List.map_singleton, List.nodup_append]
      exact ⟨h.distinct, by simp, fun k hk k' hk' hsame => hfresh (by simp_all)⟩

theorem Named.tail {entry : Value × Value} (h : Named (entry :: entries)) : Named entries :=
  ⟨fun e he => h.names e (List.mem_cons_of_mem _ he), (List.nodup_cons.1 h.distinct).2⟩

/-- Of different names the first entry is the last one. -/
theorem Named.lastOf?_eq (h : Named entries) (name : Str) :
    lastOf? entries name = lookupKey entries name := by
  induction entries with
  | nil => rfl
  | cons entry rest ih =>
    obtain ⟨k, v⟩ := entry
    rw [lastOf?_cons, ih h.tail]
    by_cases hk : k = .str name
    · subst hk
      have hnone : lookupKey rest name = none :=
        lookupKey_eq_none_iff.2 (List.nodup_cons.1 h.distinct).1
      simp [hnone]
    · simp [lookupKey_cons_of_ne _ _ hk]

end RequestPipeline.Value
