import Mathlib.Data.List.Nodup
import RequestPipeline.Hook.Store

/-!
# Hook lists as sequences

`HookStore.lists_are_sequences` is a refinement: whatever cells the lists of a store share, edits
and loops do to them what they do to independent sequences of hooks (`Sequences`).  The invariant
is `HookStore.Holds`.  A loop over the hooks of a list goes through the hooks that the list had
when the loop began, because no edit reaches the cell it holds (`HookStore.Frozen`).  Bare
callbacks become hooks, as long as none replaces a hook by `swap` (`HookStore.entries_are_hooks`).
-/

namespace RequestPipeline

open HookList (Change Entry)

variable {κ ρ ε : Type}

/-! ## Lists of hooks -/

namespace HookList

@[simp] theorem Entry.asHook_hook (h : Hook κ) : (Entry.hook h).asHook = h := rfl

@[simp] theorem Entry.callback_asHook (e : Entry κ) : e.asHook.callback = e.callback := by
  cases e <;> rfl

/-- A list that holds hooks only. -/
def ofHooks (hs : List (Hook κ)) : HookList κ := ⟨hs.map .hook⟩

theorem ofEntries_hooks (hs : List (Hook κ)) : ofEntries (hs.map .hook) = ofHooks hs := by
  rw [ofEntries, ofHooks, List.map_map]
  rfl

theorem ofHooks_inj {hs hs' : List (Hook κ)} : ofHooks hs = ofHooks hs' ↔ hs = hs' := by
  rw [ofHooks, ofHooks, mk.injEq, List.map_inj_right fun _ _ => Entry.hook.inj]

@[simp] theorem hooks?_ofHooks (hs : List (Hook κ)) : (ofHooks hs).hooks? = .ok hs := by
  have hall : (hs.map Entry.hook).mapM Entry.hook? = some hs := by
    induction hs with
    | nil => rfl
    | cons h rest ih => simp [Entry.hook?, ih]
  simp only [hooks?, ofHooks, hall]

@[simp] theorem names_ofHooks (hs : List (Hook κ)) :
    (ofHooks hs).names = .ok (hs.map Hook.shownName) := by
  simp [names, Bind.bind, Except.bind, pure, Except.pure]

@[simp] theorem debug_ofHooks (hs : List (Hook κ)) :
    (ofHooks hs).debug = .ok (" ".intercalate (hs.map Hook.shownName)) := by
  simp [debug, Bind.bind, Except.bind, pure, Except.pure]

@[simp] theorem removeByName_ofHooks (hs : List (Hook κ)) (name : String) :
    (ofHooks hs).removeByName name = .ok (ofHooks (hs.filter fun h => h.name != name)) := by
  rw [removeByName, hooks?_ofHooks]
  rfl

theorem swap_ofHooks_entry (hs : List (Hook κ)) (name : String) (e : Entry κ) :
    (ofHooks hs).swap name e = .ok ⟨hs.map fun h => if h.name == name then e else .hook h⟩ := by
  simp [swap, Bind.bind, Except.bind, pure, Except.pure]

@[simp] theorem swap_ofHooks (hs : List (Hook κ)) (name : String) (h : Hook κ) :
    (ofHooks hs).swap name (.hook h) =
      .ok (ofHooks (hs.map fun x => if x.name == name then h else x)) := by
  rw [swap_ofHooks_entry, ofHooks, List.map_map]
  congr 3
  funext x
  simp only [Function.comp_apply]
  split <;> rfl

theorem remove_ofHooks [BEq κ] (hs : List (Hook κ)) (e : Entry κ) :
    (ofHooks hs).remove e = ofHooks (hs.eraseP fun h =>
      h.name == e.asHook.name && h.callback == e.asHook.callback) := by
  simp only [remove, ofHooks, List.eraseP_map]
  rfl

/-- What a change makes of a list. -/
def changed [BEq κ] (l : HookList κ) : Change (Entry κ) → Except Failure.Reason (HookList κ)
  | .pushBack e => .ok (l.pushBack e)
  | .pushFront e => .ok (l.pushFront e)
  | .remove e => .ok (l.remove e)
  | .removeByName name => l.removeByName name
  | .swap name e => l.swap name e
  | .clear => .ok .empty

end HookList

/-! ## Sequences -/

namespace Sequences

open HookStore (Edit)

variable [BEq κ]

/-- What a change makes of a sequence. -/
def change : Change (Hook κ) → List (Hook κ) → List (Hook κ)
  | .pushBack h, hs => hs ++ [h]
  | .pushFront h, hs => h :: hs
  | .remove h, hs => hs.eraseP fun x => x.name == h.name && x.callback == h.callback
  | .removeByName name, hs => hs.filter fun x => x.name != name
  | .swap name h, hs => hs.map fun x => if x.name == name then h else x
  | .clear, _ => []

/-- What an edit makes of some sequences. -/
def edit (q : List (List (Hook κ))) : Edit (Hook κ) → List (List (Hook κ))
  | .create hs => q ++ [hs]
  | .copy l => match q[l]? with
    | some hs => q ++ [hs]
    | none => q
  | .change l c => q.modify l (change c)

theorem changed_ofHooks (c : Change (Hook κ)) (hs : List (Hook κ)) :
    (HookList.ofHooks hs).changed (c.map .hook) = .ok (.ofHooks (change c hs)) := by
  cases c with
  | pushBack h => simp [Change.map, HookList.changed, change, HookList.pushBack, HookList.ofHooks]
  | pushFront h => rfl
  | remove h => exact congrArg Except.ok (HookList.remove_ofHooks hs (.hook h))
  | removeByName name => exact HookList.removeByName_ofHooks hs name
  | swap name h => exact HookList.swap_ofHooks hs name h
  | clear => rfl

end Sequences

/-! ## Cells -/

namespace HookStore

variable {s : HookStore κ} {c l : Nat} {h : HookList κ}

/-- Every list stands in a cell of its own. -/
structure IsApart (s : HookStore κ) : Prop where
  lt_length : ∀ c ∈ s.lists, c < s.cells.length
  nodup : s.lists.Nodup

/-- A cell that no list stands in. -/
structure Frozen (s : HookStore κ) (c : Nat) (h : HookList κ) : Prop where
  lt_length : c < s.cells.length
  notMem : c ∉ s.lists
  cell_eq : s.cell c = h

/-- The store with a list in a new cell. -/
def moved (s : HookStore κ) (l : Nat) (h : HookList κ) : HookStore κ :=
  ⟨s.cells ++ [h], s.lists.set l s.cells.length⟩

theorem cell_append_of_lt (lists : List Nat) (hc : c < s.cells.length) :
    (⟨s.cells ++ [h], lists⟩ : HookStore κ).cell c = s.cell c := by
  simp [cell, List.getElem?_append_left hc]

theorem cell_append_length (lists : List Nat) :
    (⟨s.cells ++ [h], lists⟩ : HookStore κ).cell s.cells.length = h := by
  simp [cell]

/-- A new cell does nothing to what stands in the old ones. -/
theorem map_cell_append (hs : s.IsApart) (h : HookList κ) (lists : List Nat) :
    s.lists.map (⟨s.cells ++ [h], lists⟩ : HookStore κ).cell = s.contents :=
  List.map_congr_left fun c hc => cell_append_of_lt lists (hs.lt_length c hc)

theorem getElem?_contents (s : HookStore κ) (l : Nat) : s.contents[l]? = s.get? l := by
  simp [contents, get?]

/-! ### Allocation -/

theorem IsApart.allocate (hs : s.IsApart) (h : HookList κ) : (s.allocate h).2.IsApart where
  lt_length c hc := by
    have := hs.lt_length c hc
    simp only [HookStore.allocate, List.length_append]
    omega
  nodup := hs.nodup

theorem contents_allocate (hs : s.IsApart) (h : HookList κ) :
    (s.allocate h).2.contents = s.contents :=
  map_cell_append hs h s.lists

theorem frozen_allocate (hs : s.IsApart) (h : HookList κ) :
    (s.allocate h).2.Frozen s.cells.length h where
  lt_length := by simp [allocate]
  notMem hmem := Nat.lt_irrefl _ (hs.lt_length _ hmem)
  cell_eq := cell_append_length s.lists

theorem Frozen.allocate (hc : s.Frozen c h) (h' : HookList κ) : (s.allocate h').2.Frozen c h where
  lt_length := by
    have := hc.lt_length
    simp only [HookStore.allocate, List.length_append]
    omega
  notMem := hc.notMem
  cell_eq := (cell_append_of_lt s.lists hc.lt_length).trans hc.cell_eq

/-! ### New lists -/

theorem IsApart.addList (hs : s.IsApart) (h : HookList κ) : (s.addList h).IsApart where
  lt_length c hc := by
    simp only [HookStore.addList, HookStore.allocate, List.mem_append, List.mem_singleton,
      List.length_append, List.length_singleton] at hc ⊢
    rcases hc with hc | rfl
    · exact Nat.lt_succ_of_lt (hs.lt_length c hc)
    · exact Nat.lt_succ_self _
  nodup := List.nodup_append.2 ⟨hs.nodup, List.nodup_singleton _, fun c hc c' hc' => by
    have := hs.lt_length c hc
    rw [List.mem_singleton.1 hc']
    omega⟩

theorem contents_addList (hs : s.IsApart) (h : HookList κ) :
    (s.addList h).contents = s.contents ++ [h] := by
  rw [← map_cell_append hs h (s.lists ++ [s.cells.length])]
  simp [contents, addList, allocate, cell_append_length]

theorem Frozen.addList (hc : s.Frozen c h) (h' : HookList κ) : (s.addList h').Frozen c h where
  lt_length := (hc.allocate h').lt_length
  notMem hmem := by
    rcases List.mem_append.1 hmem with hmem | hmem
    · exact hc.notMem hmem
    · exact Nat.ne_of_lt hc.lt_length (List.mem_singleton.1 hmem)
  cell_eq := (cell_append_of_lt _ hc.lt_length).trans hc.cell_eq

/-! ### Changes in a cell -/

theorem IsApart.changeCell (hs : s.IsApart) (l : Nat) (f : HookList κ → HookList κ) :
    (s.changeCell l f).IsApart := by
  rw [HookStore.changeCell]
  split
  · exact ⟨fun c hc => by simpa using hs.lt_length c hc, hs.nodup⟩
  · exact hs

theorem cell_modify (s : HookStore κ) (c d : Nat) (hd : d < s.cells.length)
    (f : HookList κ → HookList κ) :
    (⟨s.cells.modify c f, s.lists⟩ : HookStore κ).cell d =
      if c = d then f (s.cell d) else s.cell d := by
  simp only [cell, List.getD_eq_getElem?_getD, List.getElem?_modify, List.getElem?_eq_getElem hd]
  split <;> rfl

theorem contents_changeCell (hs : s.IsApart) (hget : s.get? l = some h)
    (f : HookList κ → HookList κ) : (s.changeCell l f).contents = s.contents.set l (f h) := by
  obtain ⟨c, hc, rfl⟩ := Option.map_eq_some_iff.1 hget
  refine List.ext_getElem? fun i => ?_
  obtain hi | hi := Nat.lt_or_ge i s.lists.length
  · -- another list never stands in the cell that changes
    have hsame : c = s.lists[i] ↔ l = i := by
      obtain ⟨hl, rfl⟩ := List.getElem?_eq_some_iff.1 hc
      exact hs.nodup.getElem_inj_iff
    simp only [changeCell, hc, contents, List.getElem?_map, List.getElem?_set, List.length_map,
      List.getElem?_eq_getElem hi, Option.map_some,
      cell_modify s c _ (hs.lt_length _ (List.getElem_mem hi)) f, hsame]
    by_cases heq : l = i
    · subst heq
      rw [if_pos rfl, if_pos rfl, if_pos hi, hsame.2 rfl]
    · rw [if_neg heq, if_neg heq]
  · simp [changeCell, hc, contents, hi]

theorem Frozen.changeCell (hc : s.Frozen c h) (l : Nat) (f : HookList κ → HookList κ) :
    (s.changeCell l f).Frozen c h := by
  rw [HookStore.changeCell]
  split
  case h_1 d hd =>
    have hne : d ≠ c := fun heq => hc.notMem (heq ▸ List.mem_of_getElem? hd)
    exact ⟨by simpa using hc.lt_length, hc.notMem,
      (cell_modify s d c hc.lt_length f).trans ((if_neg hne).trans hc.cell_eq)⟩
  case h_2 => exact hc

/-! ### Changes to a new cell -/

theorem moveList_eq {h' : HookList κ} {f : HookList κ → Except Failure.Reason (HookList κ)}
    (hget : s.get? l = some h) (hf : f h = .ok h') : s.moveList l f = .ok (s.moved l h') := by
  obtain ⟨c, hc, rfl⟩ := Option.map_eq_some_iff.1 hget
  simp only [moveList, hc, hf]
  rfl

theorem IsApart.moved (hs : s.IsApart) (l : Nat) (h : HookList κ) : (s.moved l h).IsApart where
  lt_length c hc := by
    simp only [HookStore.moved, List.length_append, List.length_singleton] at hc ⊢
    rcases List.mem_or_eq_of_mem_set hc with hc | rfl
    · exact Nat.lt_succ_of_lt (hs.lt_length c hc)
    · exact Nat.lt_succ_self _
  nodup := hs.nodup.set fun hmem => Nat.lt_irrefl _ (hs.lt_length _ hmem)

theorem contents_moved (hs : s.IsApart) (l : Nat) (h : HookList κ) :
    (s.moved l h).contents = s.contents.set l h := by
  rw [← map_cell_append hs h (s.lists.set l s.cells.length)]
  simp only [contents, moved, List.map_set, cell_append_length]

theorem Frozen.moved (hc : s.Frozen c h) (l : Nat) (h' : HookList κ) :
    (s.moved l h').Frozen c h where
  lt_length := (hc.allocate h').lt_length
  notMem hmem := by
    rcases List.mem_or_eq_of_mem_set hmem with hmem | heq
    · exact hc.notMem hmem
    · exact Nat.ne_of_lt hc.lt_length heq
  cell_eq := (cell_append_of_lt _ hc.lt_length).trans hc.cell_eq

/-! ### Edits -/

/-- What an edit keeps: lists stay apart, and frozen cells stay as they are. -/
structure Keeps (s s' : HookStore κ) : Prop where
  isApart : s.IsApart → s'.IsApart
  frozen : ∀ c h, s.Frozen c h → s'.Frozen c h

theorem Keeps.refl (s : HookStore κ) : s.Keeps s := ⟨id, fun _ _ => id⟩

/-- A store whose lists are some sequences. -/
structure Holds (s : HookStore κ) (q : List (List (Hook κ))) : Prop where
  isApart : s.IsApart
  contents : s.contents = q.map .ofHooks

variable {q : List (List (Hook κ))}

theorem Holds.get?_eq (hq : s.Holds q) (l : Nat) : s.get? l = q[l]?.map .ofHooks := by
  rw [← getElem?_contents, hq.contents, List.getElem?_map]

variable [BEq κ]

/-- What a change does: it keeps frozen cells, and the list becomes what the change makes of it. -/
theorem change?_eq (hs : s.IsApart) {c : Change (Entry κ)} {h' : HookList κ}
    (hget : s.get? l = some h) (hchanged : h.changed c = .ok h') :
    ∃ s', s.change? l c = .ok s' ∧ s.Keeps s' ∧ s'.contents = s.contents.set l h' := by
  have hcell : ∀ f : HookList κ → HookList κ, f h = h' →
      ∃ s', Except.ok (s.changeCell l f) = .ok (ε := Failure.Reason) s' ∧ s.Keeps s' ∧
        s'.contents = s.contents.set l h' := by
    rintro f rfl
    exact ⟨_, rfl, ⟨fun hs => hs.changeCell l f, fun _ _ hc => hc.changeCell l f⟩,
      contents_changeCell hs hget f⟩
  have hmoved : ∀ f : HookList κ → Except Failure.Reason (HookList κ), f h = .ok h' →
      ∃ s', s.moveList l f = .ok s' ∧ s.Keeps s' ∧ s'.contents = s.contents.set l h' :=
    fun f hf => ⟨_, moveList_eq hget hf,
      ⟨fun hs => hs.moved l h', fun _ _ hc => hc.moved l h'⟩, contents_moved hs l h'⟩
  cases c with
  | pushBack e => exact hcell (·.pushBack e) (Except.ok.inj hchanged)
  | pushFront e => exact hcell (·.pushFront e) (Except.ok.inj hchanged)
  | remove e => exact hcell (·.remove e) (Except.ok.inj hchanged)
  | removeByName name => exact hmoved (·.removeByName name) hchanged
  | swap name e => exact hmoved (·.swap name e) hchanged
  | clear => exact hmoved (fun _ => .ok .empty) hchanged

theorem change?_none (hget : s.get? l = none) (c : Change (Entry κ)) : s.change? l c = .ok s := by
  have hnone : s.lists[l]? = none := Option.map_eq_none_iff.1 hget
  cases c <;> simp only [change?, changeCell, moveList, hnone]

/-- What an edit does: all that can be made is made, to lists as to sequences. -/
theorem Holds.edit? (hq : s.Holds q) (e : Edit (Hook κ)) :
    ∃ s', s.edit? (e.map .hook) = .ok s' ∧ s.Keeps s' ∧ s'.Holds (Sequences.edit q e) := by
  have hadd : ∀ hs : List (Hook κ), s.Keeps (s.addList (.ofHooks hs)) ∧
      (s.addList (.ofHooks hs)).Holds (q ++ [hs]) := fun hs =>
    ⟨⟨fun hs => hs.addList _, fun _ _ hc => hc.addList _⟩, hq.isApart.addList _, by
      rw [contents_addList hq.isApart, hq.contents, List.map_append]
      rfl⟩
  cases e with
  | create hs =>
    refine ⟨_, rfl, ?_⟩
    rw [HookList.ofEntries_hooks]
    exact hadd hs
  | copy l =>
    have hget := hq.get?_eq l
    simp only [Edit.map, HookStore.edit?, Sequences.edit, hget]
    cases hl : q[l]? with
    | none => exact ⟨s, rfl, .refl s, hq⟩
    | some hs => exact ⟨_, rfl, hadd hs⟩
  | change l c =>
    have hget := hq.get?_eq l
    cases hl : q[l]? with
    | none =>
      rw [hl] at hget
      refine ⟨s, change?_none hget _, .refl s, ?_⟩
      rw [Sequences.edit, List.modify_eq_self (by simpa using hl)]
      exact hq
    | some hs =>
      rw [hl] at hget
      obtain ⟨s', hs', hkeeps, hcontents⟩ :=
        change?_eq hq.isApart hget (Sequences.changed_ofHooks c hs)
      refine ⟨s', hs', hkeeps, hkeeps.isApart hq.isApart, ?_⟩
      rw [hcontents, hq.contents, Sequences.edit, ← List.map_set, List.modify_eq_set_getElem?, hl]
      rfl

omit [BEq κ] in
theorem Holds.empty : (empty : HookStore κ).Holds [] := ⟨⟨nofun, List.nodup_nil⟩, rfl⟩

/-! ## Histories -/

/-- What happens to a store: an edit is made, or a loop over a list begins. -/
inductive Happening (α : Type) where
  | edit (e : Edit α)
  | loop (list : Nat)

/-- The same with other things to put into lists. -/
def Happening.map {α β : Type} (f : α → β) : Happening α → Happening β
  | .edit e => .edit (e.map f)
  | .loop l => .loop l

/-- The store in which a loop over a list has begun. -/
def beginLoop (s : HookStore κ) (l : Nat) : HookStore κ :=
  match s.get? l with
  | some h => (s.allocate h).2
  | none => s

def happen (s : HookStore κ) : Happening (Entry κ) → HookStore κ
  | .edit e => s.edit e
  | .loop l => s.beginLoop l

/-- The store after what happened. -/
def after (past : List (Happening (Entry κ))) : HookStore κ := past.foldl happen .empty

/-- The store after what happened with hooks only. -/
def afterHooks (past : List (Happening (Hook κ))) : HookStore κ := after (past.map (·.map .hook))

end HookStore

/-- What becomes of sequences by what happens; loops do nothing to them. -/
def Sequences.next [BEq κ] (q : List (List (Hook κ))) :
    HookStore.Happening (Hook κ) → List (List (Hook κ))
  | .edit e => edit q e
  | .loop _ => q

/-- The sequences after what happened. -/
def Sequences.after [BEq κ] (past : List (HookStore.Happening (Hook κ))) : List (List (Hook κ)) :=
  past.foldl next []

namespace HookStore

variable [BEq κ] {s : HookStore κ} {q : List (List (Hook κ))} {c l : Nat} {h : HookList κ}

omit [BEq κ] in
theorem keeps_beginLoop (s : HookStore κ) (l : Nat) : s.Keeps (s.beginLoop l) := by
  rw [beginLoop]
  split
  · exact ⟨fun hs => hs.allocate _, fun _ _ hc => hc.allocate _⟩
  · exact .refl s

omit [BEq κ] in
theorem Holds.beginLoop (hq : s.Holds q) (l : Nat) : (s.beginLoop l).Holds q := by
  refine ⟨(keeps_beginLoop s l).isApart hq.isApart, ?_⟩
  rw [← hq.contents, HookStore.beginLoop]
  split
  · exact contents_allocate hq.isApart _
  · rfl

theorem Holds.happen (hq : s.Holds q) (a : Happening (Hook κ)) :
    s.Keeps (s.happen (a.map .hook)) ∧ (s.happen (a.map .hook)).Holds (Sequences.next q a) := by
  cases a with
  | edit e =>
    obtain ⟨s', hs', hafter⟩ := hq.edit? e
    have hedit : s.edit (e.map .hook) = s' := by rw [edit, hs']
    simp only [Happening.map, HookStore.happen, hedit]
    exact hafter
  | loop l => exact ⟨keeps_beginLoop s l, hq.beginLoop l⟩

/-- What all that happens does, by induction on it. -/
theorem Holds.foldl_happen (hq : s.Holds q) (later : List (Happening (Hook κ))) :
    s.Keeps ((later.map (·.map .hook)).foldl HookStore.happen s) ∧
      ((later.map (·.map .hook)).foldl HookStore.happen s).Holds
        (later.foldl Sequences.next q) := by
  induction later generalizing s q with
  | nil => exact ⟨.refl s, hq⟩
  | cons a rest ih =>
    obtain ⟨hkeeps, hnext⟩ := hq.happen a
    obtain ⟨hrest, hlast⟩ := ih hnext
    exact ⟨⟨fun hs => hrest.isApart (hkeeps.isApart hs),
      fun c h hc => hrest.frozen c h (hkeeps.frozen c h hc)⟩, hlast⟩

theorem holds_afterHooks (past : List (Happening (Hook κ))) :
    (afterHooks past).Holds (Sequences.after past) :=
  (Holds.empty.foldl_happen past).2

theorem afterHooks_append (past later : List (Happening (Hook κ))) :
    afterHooks (past ++ later) = (later.map (·.map .hook)).foldl happen (afterHooks past) := by
  simp [afterHooks, after]

/-- An edit does what the rest of a history does that begins with it. -/
theorem edit?_afterHooks (past : List (Happening (Hook κ))) (e : Edit (Hook κ)) :
    (afterHooks past).edit? (e.map .hook) = .ok (afterHooks (past ++ [.edit e])) := by
  obtain ⟨s', hs', -⟩ := (holds_afterHooks past).edit? e
  rw [hs', afterHooks_append]
  simp [Happening.map, happen, edit, hs']

theorem get?_afterHooks {past : List (Happening (Hook κ))} {hs : List (Hook κ)}
    (hl : (Sequences.after past)[l]? = some hs) :
    (afterHooks past).get? l = some (.ofHooks hs) := by
  rw [(holds_afterHooks past).get?_eq, hl, Option.map_some]

/-- The hooks that a loop goes through stay in their cell. -/
theorem frozen_afterHooks_loop {past : List (Happening (Hook κ))} {hs : List (Hook κ)}
    (hl : (Sequences.after past)[l]? = some hs) (later : List (Happening (Hook κ))) :
    (afterHooks (past ++ .loop l :: later)).Frozen (afterHooks past).cells.length
      (.ofHooks hs) := by
  have hpast := holds_afterHooks past
  have hbegun : ((afterHooks past).beginLoop l).Frozen (afterHooks past).cells.length
      (.ofHooks hs) := by
    rw [beginLoop, get?_afterHooks hl]
    exact frozen_allocate hpast.isApart _
  rw [afterHooks_append]
  exact ((hpast.beginLoop l).foldl_happen later).1.frozen _ _ hbegun

/-! ## Loops -/

/-- The same visit with other things to put into lists. -/
def Visit.map {α β : Type} (f : α → β) (v : Visit α ρ ε) : Visit β ρ ε :=
  ⟨v.edits.map (·.map f), v.outcome, v.rest⟩

/-- Does something for each of some hooks in order, until a visit stops. -/
def visitAll (visit : Hook κ → HookStore κ → ρ → Visit (Hook κ) ρ ε) :
    List (Hook κ) → HookStore κ → ρ → Loop κ ρ ε
  | [], s, r => ⟨.ok (), s, r, [], []⟩
  | h :: rest, s, r =>
    let v := visit h s r
    let made := v.edits.map (·.map .hook)
    let s := s.editAll made
    match v.outcome with
    | .error stop => ⟨.error stop, s, v.rest, [.hook h], made⟩
    | .ok () => (visitAll visit rest s v.rest).behind (.hook h) made

variable {hs : List (Hook κ)}

theorem editAll_eq_foldl_happen (s : HookStore κ) (edits : List (Edit (Hook κ))) :
    s.editAll (edits.map (·.map .hook)) =
      ((edits.map Happening.edit).map (·.map .hook)).foldl happen s := by
  simp only [editAll, List.foldl_map]
  rfl

theorem Holds.editAll (hq : s.Holds q) (edits : List (Edit (Hook κ))) :
    s.Keeps (s.editAll (edits.map (·.map .hook))) ∧
      ∃ q', (s.editAll (edits.map (·.map .hook))).Holds q' := by
  rw [editAll_eq_foldl_happen]
  obtain ⟨hkeeps, hlast⟩ := hq.foldl_happen (edits.map .edit)
  exact ⟨hkeeps, _, hlast⟩

/-- A loop over a frozen cell looks at nothing but the hooks that are left, by induction on the
looks. -/
theorem loopFrom_eq_visitAll (visit : Hook κ → HookStore κ → ρ → Visit (Hook κ) ρ ε)
    (hq : s.Holds q) (hc : s.Frozen c (.ofHooks hs)) {limit index : Nat}
    (hlimit : hs.length - index < limit) (r : ρ) :
    loopFrom (fun e s r => (visit e.asHook s r).map .hook) c limit index s r =
      some (visitAll visit (hs.drop index) s r) := by
  induction limit generalizing index s q r with
  | zero => exact absurd hlimit (Nat.not_lt_zero _)
  | succ limit ih =>
    have hentry : (s.cell c).entries[index]? = hs[index]?.map .hook := by
      rw [hc.cell_eq, HookList.ofHooks, List.getElem?_map]
    obtain hindex | hindex := Nat.lt_or_ge index hs.length
    · rw [loopFrom, hentry, List.getElem?_eq_getElem hindex, List.drop_eq_getElem_cons hindex,
        visitAll]
      simp only [Option.map_some, HookList.Entry.asHook_hook, Visit.map]
      cases houtcome : (visit hs[index] s r).outcome with
      | error stop => rfl
      | ok _ =>
        obtain ⟨hkeeps, q', hq'⟩ := hq.editAll (visit hs[index] s r).edits
        have hleft : hs.length - (index + 1) < limit := by omega
        have hrest := ih hq' (hkeeps.frozen _ _ hc) hleft (visit hs[index] s r).rest
        simp only [Visit.map] at hrest
        simp only [hrest, Option.map_some]
    · rw [loopFrom, hentry, List.getElem?_eq_none hindex, List.drop_eq_nil_of_le hindex]
      rfl

variable (visit : Hook κ → HookStore κ → ρ → Visit (Hook κ) ρ ε)

/-- What is visited: all hooks, unless a visit stops. -/
theorem visited_visitAll (hs : List (Hook κ)) (s : HookStore κ) (r : ρ) :
    (visitAll visit hs s r).visited <+: hs.map .hook ∧
      ((visitAll visit hs s r).outcome = .ok () →
        (visitAll visit hs s r).visited = hs.map .hook) := by
  induction hs generalizing s r with
  | nil => exact ⟨List.prefix_rfl, fun _ => rfl⟩
  | cons h rest ih =>
    rw [visitAll]
    cases (visit h s r).outcome with
    | error stop => exact ⟨⟨rest.map .hook, rfl⟩, nofun⟩
    | ok _ =>
      obtain ⟨hbegins, hall⟩ :=
        ih (s.editAll ((visit h s r).edits.map (·.map .hook))) (visit h s r).rest
      exact ⟨List.cons_prefix_cons.2 ⟨rfl, hbegins⟩,
        fun hok => congrArg (Entry.hook h :: ·) (hall hok)⟩

variable {visit} in
theorem outcome_visitAll (hvisit : ∀ h s r, (visit h s r).outcome = .ok ()) (hs : List (Hook κ))
    (s : HookStore κ) (r : ρ) : (visitAll visit hs s r).outcome = .ok () := by
  induction hs generalizing s r with
  | nil => rfl
  | cons h rest ih =>
    rw [visitAll]
    simp only [hvisit]
    exact ih _ _

theorem editAll_append (s : HookStore κ) (edits edits' : List (Edit (Entry κ))) :
    s.editAll (edits ++ edits') = (s.editAll edits).editAll edits' :=
  List.foldl_append

/-- What a loop leaves: the store with the edits that were made on the way. -/
theorem store_visitAll (hs : List (Hook κ)) (s : HookStore κ) (r : ρ) :
    ∃ made : List (Edit (Hook κ)), (visitAll visit hs s r).edits = made.map (·.map .hook) ∧
      (visitAll visit hs s r).store = s.editAll (made.map (·.map .hook)) := by
  induction hs generalizing s r with
  | nil => exact ⟨[], rfl, rfl⟩
  | cons h rest ih =>
    rw [visitAll]
    cases (visit h s r).outcome with
    | error stop => exact ⟨(visit h s r).edits, rfl, rfl⟩
    | ok _ =>
      obtain ⟨made, hedits, hstore⟩ :=
        ih (s.editAll ((visit h s r).edits.map (·.map .hook))) (visit h s r).rest
      refine ⟨(visit h s r).edits ++ made, ?_, ?_⟩
      · simp only [Loop.behind, hedits, List.map_append]
      · rw [List.map_append, editAll_append]
        exact hstore

/-- Hook lists are sequences, whatever has happened to them.  An edit can always be made, what a
loop reads once it has begun is what the list held then, and a run invokes those hooks and no
others, in order and as long as none raises; what they do to lists shows in the next run. -/
theorem lists_are_sequences (past : List (Happening (Hook κ))) :
    (afterHooks past).contents = (Sequences.after past).map .ofHooks ∧
    (∀ e : Edit (Hook κ),
      (afterHooks past).edit? (e.map .hook) = .ok (afterHooks (past ++ [.edit e]))) ∧
    ∀ l hs, (Sequences.after past)[l]? = some hs →
      (∀ later, (afterHooks (past ++ .loop l :: later)).cell (afterHooks past).cells.length =
        .ofHooks hs) ∧
      ∀ (perform : κ → HookStore κ → ρ → Visit (Hook κ) ρ ε) (limit : Nat) (r : ρ),
        hs.length < limit → ∃ (loop : Loop κ ρ ε) (made : List (Edit (Hook κ))),
          (afterHooks past).run (fun k s r => (perform k s r).map .hook) l limit r = some loop ∧
          loop = visitAll (fun h => perform h.callback) hs (afterHooks (past ++ [.loop l])) r ∧
          loop.visited <+: hs.map .hook ∧
          (loop.outcome = .ok () → loop.visited = hs.map .hook) ∧
          ((∀ k s r, (perform k s r).outcome = .ok ()) → loop.outcome = .ok ()) ∧
          loop.edits = made.map (·.map .hook) ∧
          loop.store = afterHooks (past ++ .loop l :: made.map .edit) := by
  have hpast := holds_afterHooks past
  refine ⟨hpast.contents, edit?_afterHooks past, fun l hs hl => ⟨fun later =>
    (frozen_afterHooks_loop hl later).cell_eq, fun perform limit r hlimit => ?_⟩⟩
  have hget := get?_afterHooks hl
  have hbegun : afterHooks (past ++ [.loop l]) = ((afterHooks past).allocate (.ofHooks hs)).2 := by
    rw [afterHooks_append]
    simp only [List.map_cons, List.map_nil, List.foldl_cons, List.foldl_nil, Happening.map, happen,
      beginLoop, hget]
  obtain ⟨made, hedits, hstore⟩ := store_visitAll (fun h => perform h.callback) hs
    (afterHooks (past ++ [.loop l])) r
  obtain ⟨hbegins, hall⟩ := visited_visitAll (fun h => perform h.callback) hs
    (afterHooks (past ++ [.loop l])) r
  refine ⟨_, made, ?_, rfl, hbegins, hall,
    fun hok => outcome_visitAll (fun h => hok h.callback) hs _ r, hedits, ?_⟩
  · have hleft : hs.length - 0 < limit := hlimit
    have hloop := loopFrom_eq_visitAll (fun h => perform h.callback)
      (holds_afterHooks (past ++ [.loop l])) (frozen_afterHooks_loop hl []) hleft r
    simp only [HookList.Entry.callback_asHook, List.drop_zero] at hloop
    rw [run, forEach, hget]
    rw [hbegun] at hloop ⊢
    exact hloop
  · rw [hstore, editAll_eq_foldl_happen, ← afterHooks_append, List.append_assoc]
    rfl

/-- Two hooks run although the first one clears their list. -/
theorem cleared_list_runs_on :
    ∃ loop : Loop String Nat Unit,
      (afterHooks [.edit (.create [⟨"a", "f"⟩, ⟨"b", "g"⟩])]).run
        (fun _ _ n =>
          (⟨[.change 0 .clear], .ok (), n + 1⟩ : Visit (Hook String) Nat Unit).map .hook)
        0 3 0 = some loop ∧
      loop.visited = [.hook ⟨"a", "f"⟩, .hook ⟨"b", "g"⟩] ∧
      loop.store.contents = [.ofHooks []] := by
  obtain ⟨loop, made, hrun, rfl, -, hall, hok, -, -⟩ :=
    ((lists_are_sequences [.edit (.create [⟨"a", "f"⟩, ⟨"b", "g"⟩])]).2.2 0 _ rfl).2
      (fun _ _ n => ⟨[.change 0 .clear], .ok (), n + 1⟩) 3 0 (by decide)
  exact ⟨_, hrun, hall (hok fun _ _ _ => rfl), rfl⟩

/-! ## Bare callbacks -/

/-- A hook and no bare callback replaces hooks. -/
def Edit.SwapsInHook : Edit (Entry κ) → Prop
  | .change _ (.swap _ e) => e.hook?.isSome
  | _ => True

def Happening.SwapsInHook : Happening (Entry κ) → Prop
  | .edit e => e.SwapsInHook
  | .loop _ => True

theorem map_asHook_of_swapsInHook {e : Edit (Entry κ)} (he : e.SwapsInHook) (s : HookStore κ) :
    s.edit? e = s.edit? ((e.map Entry.asHook).map .hook) := by
  cases e with
  | create entries =>
    simp only [Edit.map, HookStore.edit?, HookList.ofEntries, List.map_map]
    rfl
  | copy l => rfl
  | change l c =>
    cases c with
    | swap name e =>
      cases e with
      | hook h => rfl
      | bare k => exact absurd he (by simp [Edit.SwapsInHook, Entry.hook?])
    | _ => rfl

theorem after_eq_afterHooks {past : List (Happening (Entry κ))}
    (hpast : ∀ a ∈ past, a.SwapsInHook) :
    after past = afterHooks (past.map (·.map Entry.asHook)) := by
  have hstep : ∀ a ∈ past, ∀ s : HookStore κ,
      s.happen a = s.happen ((a.map Entry.asHook).map .hook) := by
    intro a ha s
    cases a with
    | edit e => simp only [happen, edit, Happening.map, map_asHook_of_swapsInHook (hpast _ ha)]
    | loop l => rfl
  rw [afterHooks, after, after, List.map_map, List.foldl_map]
  exact List.foldl_ext _ _ _ fun s a ha => hstep a ha s

/-- Every entry of a list is a hook, bare callbacks under the name of anonymous hooks, as long as
only hooks replace hooks.  So every edit can be made, and a list always has names to show. -/
theorem entries_are_hooks (past : List (Happening (Entry κ))) (hpast : ∀ a ∈ past, a.SwapsInHook) :
    (after past).contents = (Sequences.after (past.map (·.map Entry.asHook))).map .ofHooks ∧
    (∀ e : Edit (Entry κ), e.SwapsInHook →
      (after past).edit? e = .ok (after (past ++ [.edit e]))) ∧
    ∀ l ∈ (after past).contents, ∃ hs : List (Hook κ), l.entries = hs.map .hook ∧
      l.names = .ok (hs.map Hook.shownName) ∧
      l.debug = .ok (" ".intercalate (hs.map Hook.shownName)) ∧
      (∀ name, ∃ l', l.removeByName name = .ok l') ∧ ∀ name e, ∃ l', l.swap name e = .ok l' := by
  have hcontents := (holds_afterHooks (past.map (·.map Entry.asHook))).contents
  rw [← after_eq_afterHooks hpast] at hcontents
  refine ⟨hcontents, fun e he => ?_, fun l hl => ?_⟩
  · have hlater : ∀ a ∈ past ++ [.edit e], a.SwapsInHook := by
      intro a ha
      rcases List.mem_append.1 ha with ha | ha
      · exact hpast a ha
      · rw [List.mem_singleton.1 ha]
        exact he
    rw [map_asHook_of_swapsInHook he, after_eq_afterHooks hpast, after_eq_afterHooks hlater,
      edit?_afterHooks, List.map_append]
    rfl
  · rw [hcontents] at hl
    obtain ⟨hs, -, rfl⟩ := List.mem_map.1 hl
    exact ⟨hs, rfl, HookList.names_ofHooks hs, HookList.debug_ofHooks hs,
      fun name => ⟨_, HookList.removeByName_ofHooks hs name⟩,
      fun name e => ⟨_, HookList.swap_ofHooks_entry hs name e⟩⟩

/-- A bare callback is pushed, and removed under the name that it was given. -/
theorem pushed_callback_is_anonymous :
    (after [.edit (.create [.hook ⟨"a", "f"⟩]), .edit (.change 0 (.pushBack (.bare "g"))),
      .edit (.change 0 (.removeByName "a"))]).contents = [.ofHooks [⟨"__anon", "g"⟩]] :=
  (entries_are_hooks [.edit (.create [.hook ⟨"a", "f"⟩]), .edit (.change 0 (.pushBack (.bare "g"))),
    .edit (.change 0 (.removeByName "a"))] (by simp [Happening.SwapsInHook, Edit.SwapsInHook])).1

/-- A bare callback that replaces a hook has no name, and so the list has none to show. -/
theorem swapped_callback_has_no_name :
    let s := after [.edit (.create [.hook ⟨"a", "f"⟩]), .edit (.change 0 (.swap "a" (.bare "g")))]
    s.contents = [⟨[.bare "g"]⟩] ∧
      s.contents.map HookList.names = [.error (.noAttribute "function" "name")] ∧
      s.contents.map HookList.debug = [.error (.noAttribute "function" "name")] ∧
      s.contents.map (·.removeByName "a") = [.error (.noAttribute "function" "name")] ∧
      s.contents.map (·.swap "a" (.hook ⟨"a", "f"⟩)) = [.error (.noAttribute "function" "name")] :=
  ⟨rfl, rfl, rfl, rfl, rfl⟩

end HookStore

end RequestPipeline
