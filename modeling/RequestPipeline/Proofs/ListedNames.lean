import Mathlib.Data.List.Nodup
import RequestPipeline.Proofs.HookLists

/-!
# Listed names

A listing shows `__anon` for a hook with an empty name, but `remove` and `swap` compare the names
that the hooks have.  `HookStore.listed_names_are_removed_iff` proves for every list that edits
lead to that both agree, unless the name asked for is empty or `__anon` and the list holds a hook
with an empty name.
-/

namespace RequestPipeline

open HookList (Entry)

variable {κ : Type}

/-! ## Shown names -/

theorem Hook.shownName_of_name_ne {h : Hook κ} (hname : h.name ≠ "") : h.shownName = h.name := by
  simp [shownName, String.isEmpty_iff, hname]

theorem Hook.shownName_of_name_eq {h : Hook κ} (hname : h.name = "") : h.shownName = anonymous := by
  simp [shownName, hname]

theorem Hook.shownName_ne_empty (h : Hook κ) : h.shownName ≠ "" := by
  by_cases hname : h.name = ""
  · rw [h.shownName_of_name_eq hname]
    decide
  · rwa [h.shownName_of_name_ne hname]

/-- Where a name and a shown name differ: empty names are shown as anonymous. -/
theorem Hook.name_eq_iff_shownName_eq {h : Hook κ} {name : String}
    (hname : h.name = "" → name ≠ "" ∧ name ≠ anonymous) : h.name = name ↔ h.shownName = name := by
  by_cases hempty : h.name = ""
  · obtain ⟨hne, hne'⟩ := hname hempty
    rw [h.shownName_of_name_eq hempty, hempty]
    exact ⟨fun heq => absurd heq.symm hne, fun heq => absurd heq.symm hne'⟩
  · rw [h.shownName_of_name_ne hempty]

namespace HookList

variable {name : String} {h : Hook κ} {hs : List (Hook κ)}

/-! ## Removal -/

/-- The hooks listed under a name are gone, those under other names are there in order, and the list
is as much shorter as the name was listed. -/
structure Unlisted (name : String) (before after : List (Hook κ)) : Prop where
  gone : name ∉ after.map Hook.shownName
  kept : after.filter (fun h => h.shownName != name) = before.filter fun h => h.shownName != name
  length : after.length + (before.map Hook.shownName).count name = before.length

theorem unlisted_filter_shownName (name : String) (hs : List (Hook κ)) :
    Unlisted name hs (hs.filter fun h => h.shownName != name) where
  gone hmem := by
    obtain ⟨h, hh, hshown⟩ := List.mem_map.1 hmem
    simpa [hshown] using (List.mem_filter.1 hh).2
  kept := by simp [List.filter_filter]
  length := by
    rw [List.count, List.countP_map, ← List.countP_eq_length_filter,
      List.length_eq_countP_add_countP (l := hs) fun h => h.shownName != name]
    simp [Function.comp_def, beq_eq_decide]

theorem unlisted_filter_iff :
    Unlisted name hs (hs.filter fun h => h.name != name) ↔
      ((name = "" ∨ name = Hook.anonymous) → ∀ h ∈ hs, h.name ≠ "") := by
  constructor
  · rintro hunlisted (rfl | rfl) h hh hempty
    · -- the hook is listed under another name, and yet gone
      have hkept : h ∈ hs.filter fun h => h.shownName != "" :=
        List.mem_filter.2 ⟨hh, by simpa using h.shownName_ne_empty⟩
      rw [← hunlisted.kept] at hkept
      simpa [hempty] using (List.mem_filter.1 (List.mem_filter.1 hkept).1).2
    · -- the hook is listed under the name, and yet there
      have hthere : h ∈ hs.filter fun h => h.name != Hook.anonymous :=
        List.mem_filter.2 ⟨hh, by rw [hempty]; decide⟩
      exact hunlisted.gone (List.mem_map.2 ⟨h, hthere, h.shownName_of_name_eq hempty⟩)
  · intro hnamed
    have hsame : hs.filter (fun h => h.name != name) = hs.filter fun h => h.shownName != name := by
      refine List.filter_congr fun h hh => ?_
      have hiff : h.name = name ↔ h.shownName = name := Hook.name_eq_iff_shownName_eq fun hempty =>
        ⟨fun heq => hnamed (.inl heq) h hh hempty, fun heq => hnamed (.inr heq) h hh hempty⟩
      rw [Bool.eq_iff_iff, bne_iff_ne, bne_iff_ne, ne_eq, ne_eq, hiff]
    rw [hsame]
    exact unlisted_filter_shownName name hs

/-! ## Replacement -/

/-- A hook stands where hooks were listed under a name, all others stand where they were, and
nothing is listed under the name. -/
structure Replaced (name : String) (h : Hook κ) (before after : List (Hook κ)) : Prop where
  gone : name ∉ after.map Hook.shownName
  places : ∀ i : Nat, after[i]? = before[i]?.map fun x => if x.shownName = name then h else x

theorem replaced_map_iff (hshown : h.shownName ≠ name) :
    Replaced name h hs (hs.map fun x => if x.name == name then h else x) ↔
      (name = Hook.anonymous → ∀ x ∈ hs, x.name ≠ "") ∧
        (name = "" → ∀ x ∈ hs, x.name = "" → x = h) := by
  constructor
  · intro hreplaced
    refine ⟨?_, ?_⟩
    · rintro rfl x hx hempty
      have hthere : x ∈ hs.map fun y => if y.name == Hook.anonymous then h else y :=
        List.mem_map.2 ⟨x, hx, if_neg (by rw [hempty]; decide)⟩
      exact hreplaced.gone (List.mem_map.2 ⟨x, hthere, x.shownName_of_name_eq hempty⟩)
    · rintro rfl x hx hempty
      obtain ⟨i, hi⟩ := List.mem_iff_getElem?.1 hx
      have hplace := hreplaced.places i
      rw [List.getElem?_map, hi, Option.map_some, Option.map_some, if_pos (by simpa using hempty),
        if_neg x.shownName_ne_empty] at hplace
      exact (Option.some.inj hplace).symm
  · rintro ⟨hnamed, hequal⟩
    have hsame : ∀ x ∈ hs,
        (if x.name == name then h else x) = if x.shownName = name then h else x := by
      intro x hx
      by_cases hempty : x.name = "" ∧ name = ""
      · obtain ⟨hx', rfl⟩ := hempty
        rw [hequal rfl x hx hx', ite_self, ite_self]
      · have hiff : x.name = name ↔ x.shownName = name := Hook.name_eq_iff_shownName_eq fun hx' =>
          ⟨fun heq => hempty ⟨hx', heq⟩, fun heq => hnamed heq x hx hx'⟩
        simp only [beq_iff_eq, hiff]
    rw [List.map_congr_left hsame]
    refine ⟨?_, fun i => List.getElem?_map ..⟩
    simp only [List.map_map, List.mem_map, Function.comp_apply, not_exists, not_and]
    intro x _
    split
    · exact hshown
    · assumption

end HookList

namespace HookStore

variable [BEq κ]

/-- Removal and replacement by name are about listed names, for every list that edits lead to,
unless a hook with an empty name is in the way. -/
theorem listed_names_are_removed_iff (past : List (Happening (Entry κ)))
    (hpast : ∀ a ∈ past, a.SwapsInHook) {l : HookList κ} (hl : l ∈ (after past).contents)
    (name : String) (h : Hook κ) :
    ∃ hs removed swapped : List (Hook κ),
      l = .ofHooks hs ∧ l.names = .ok (hs.map Hook.shownName) ∧
      l.removeByName name = .ok (.ofHooks removed) ∧
      l.swap name (.hook h) = .ok (.ofHooks swapped) ∧
      (HookList.Unlisted name hs removed ↔
        ((name = "" ∨ name = Hook.anonymous) → ∀ x ∈ hs, x.name ≠ "")) ∧
      (h.shownName ≠ name → (HookList.Replaced name h hs swapped ↔
        (name = Hook.anonymous → ∀ x ∈ hs, x.name ≠ "") ∧
          (name = "" → ∀ x ∈ hs, x.name = "" → x = h))) := by
  rw [after_eq_afterHooks hpast, (holds_afterHooks _).contents] at hl
  obtain ⟨hs, -, rfl⟩ := List.mem_map.1 hl
  exact ⟨hs, _, _, rfl, HookList.names_ofHooks hs, HookList.removeByName_ofHooks hs name,
    HookList.swap_ofHooks hs name h, HookList.unlisted_filter_iff, HookList.replaced_map_iff⟩

/-- A bare callback is listed as anonymous and removed under that name. -/
theorem anonymous_callback_is_removed :
    ∃ removed : List (Hook String),
      (HookList.ofHooks [⟨"log", "f"⟩, ⟨"__anon", "g"⟩]).removeByName "__anon" =
        .ok (.ofHooks removed) ∧
      HookList.Unlisted "__anon" [⟨"log", "f"⟩, ⟨"__anon", "g"⟩] removed := by
  obtain ⟨hs, removed, -, hl, -, hremoved, -, hiff, -⟩ := listed_names_are_removed_iff
    [.edit (.create [.hook ⟨"log", "f"⟩, .bare "g"])]
    (by simp [Happening.SwapsInHook, Edit.SwapsInHook])
    (l := .ofHooks [⟨"log", "f"⟩, ⟨"__anon", "g"⟩]) (List.mem_singleton.2 rfl) "__anon" ⟨"new", "h"⟩
  obtain rfl := HookList.ofHooks_inj.1 hl
  exact ⟨removed, hremoved, hiff.2 fun _ => by decide⟩

/-- A hook with an empty name is listed as anonymous, but neither removed nor replaced under that
name; under its own name, which no list shows, it is removed. -/
theorem empty_name_is_not_the_listed_one :
    let l : HookList String := .ofHooks [⟨"", "f"⟩]
    l.names = .ok ["__anon"] ∧
      (l.removeByName "__anon").bind HookList.names = .ok ["__anon"] ∧
      (l.swap "__anon" (.hook ⟨"new", "g"⟩)).bind HookList.names = .ok ["__anon"] ∧
      (l.removeByName "").bind HookList.names = .ok [] :=
  ⟨rfl, rfl, rfl, rfl⟩

end HookStore

end RequestPipeline
